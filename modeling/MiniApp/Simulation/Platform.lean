import MiniApp.Session.Host

/-!
# A host in memory

A platform that has no screen: its webviews and pages are numbers, and its routes are a table. It
keeps every webview alive until it lets go of it.
-/

set_option autoImplicit false

namespace MiniApp.Simulation

open MiniApp.Json MiniApp.Page MiniApp.Session

/-- The state of a host in memory. -/
structure Platform where
  /-- The settings of the routes behind paths; a path without any has the defaults. -/
  routes : List (String × RouteSettings)
  /-- The id of the next webview. -/
  nextId : Nat
  /-- Whether a new webview is native as soon as its route is. -/
  marksNative : Bool
  device : SystemInfo
  statusbarHeight : Double
  /-- The webviews that can be found, with their ids. -/
  listed : List (Nat × Nat) := []
  /-- Whether no webview is found at present. -/
  isForgetful : Bool := false
  held : List Nat := []
  /-- The number of pages so far. -/
  pages : Nat := 0

namespace Platform

/-- Holds one more webview, and lists it if it is to be found. -/
def hold (platform : Platform) (webview id : Nat) (isListed : Bool) : Platform :=
  { platform with
    held := platform.held ++ [webview]
    listed := if isListed then platform.listed ++ [(webview, id)] else platform.listed }

/-- Lets go of a webview. -/
def release (platform : Platform) (webview : Nat) : Platform :=
  { platform with held := platform.held.erase webview }

/-- The path with the settings of its route. -/
def resolve (platform : Platform) (path : String) : RouteOptions :=
  ⟨path, (platform.routes.lookup path).getD { route := routeOfPath path }⟩

/-- The first webview that is held and listed under an id. -/
def find? (platform : Platform) (id : Nat) : Option Nat :=
  if platform.isForgetful then none
  else
    let found := platform.listed.find? fun (webview, listedId) =>
      listedId == id && platform.held.contains webview
    found.map (·.1)

/-- A new webview for a route. -/
def createWebview (webview : Nat) (route : RouteOptions) : StateM Platform Webview :=
  modifyGet fun platform =>
    ({ id := platform.nextId, isNative := platform.marksNative && route.settings.isNative },
      { platform.hold webview platform.nextId true with nextId := platform.nextId + 1 })

/-- A new page. -/
def createPage : StateM Platform Nat :=
  modifyGet fun platform => (platform.pages, { platform with pages := platform.pages + 1 })

/-- The services of a host in memory. -/
def host : Host Platform where
  initEntry := pure ()
  resolveRoute path _ := return (← get).resolve path
  createWebview webview _ route _ := createWebview webview route
  findWebview id := return (← get).find? id
  initWebview _ _ _ _ := pure ()
  closeSplash := pure ()
  finishNavigation := pure ()
  createPage _ _ _ _ _ := createPage
  system := device
  statusbarHeight := statusbarHeight
  holds platform webview := platform.held.contains webview

end Platform

end MiniApp.Simulation
