import MiniApp.Session.NativePage
import MiniApp.Session.Register
import MiniApp.Simulation.Platform

/-!
# Commands to a simulated app

A simulation is a session on a host in memory. A command acts on the app, on the host or on a
webview, and has a result. Once the app is dropped, with all that it kept alive, the commands to
it are refused.
-/

set_option autoImplicit false

namespace MiniApp

open MiniApp.App MiniApp.Json MiniApp.Page MiniApp.Session

namespace Simulation

/-- What a simulation can be told to do. -/
inductive Command
  | register (request : Request)
  /-- Registers the pages that follow with a registrar of their own. -/
  | renewRegistrar
  /-- Has the host hold a webview, which is found under its id only if it is listed. -/
  | addWebview (id : Nat) (isNative isListed : Bool)
  /-- Has the host let go of a webview. -/
  | releaseWebview (webview : Nat)
  /-- Says whether the host is to find no webview. -/
  | forget (isForgetful : Bool)
  | setRoute (path : String) (settings : RouteSettings)
  | preload (url : String) (webview : Nat)
  | takePreload (url : String)
  | clearPreloads
  | createPage
  | setPage (webview : Nat) (page : Option Entry)
  | nativePageCreated (placeholder page : Nat)
  | webviewOf (entry : Entry)
  | isSame (first second : Entry)
  | push (entry : Entry)
  | remove (entry : Entry)
  | replace (index : Nat) (entry : Entry)
  | find (entry : Entry)
  | get (index : Nat)
  | last
  | clearPages
  | findTab (route : String)
  | appendTab (webview : Nat)
  | styleTabBar (cover : Option Bool) (height : Option Double)
  | perform (actions : List Action)
  | dropApp

/-- Whether a command acts on the app. -/
def Command.needsApp : Command → Bool
  | .addWebview .. | .releaseWebview _ | .forget _ | .setRoute .. | .createPage | .setPage ..
  | .nativePageCreated .. | .webviewOf _ | .isSame .. | .dropApp => false
  | _ => true

/-- The result of a command. -/
inductive Result
  | done
  | webview (found : Option Nat)
  | entry (found : Option Entry)
  | answer (value : Bool)
  /-- A place on the page stack. -/
  | place (found : Option Nat)
  /-- A place in the tab bar. -/
  | tab (found : Option Nat)
  deriving DecidableEq, Repr

end Simulation

/-- A session on a host in memory, with or without its app. -/
structure Simulation where
  session : Session Simulation.Platform
  hasApp : Bool := true

namespace Simulation

open MiniApp.Simulation.Platform (host)

/-- A simulation of an app that has just been started. -/
def initial (config : Config) (platform : Platform) : Simulation :=
  ⟨{ app := .initial config, host := platform }, true⟩

/-- Acts on the app. -/
def onApp (simulation : Simulation) (result : Result) (change : State → State) :
    Result × Simulation :=
  (result, { simulation with session := simulation.session.modifyApp change })

/-- Acts on the host. -/
def onHost (simulation : Simulation) (change : Platform → Platform) : Simulation :=
  { simulation with session.host := change simulation.session.host }

/-- Adds a webview that the host holds. -/
def addWebview (simulation : Simulation) (id : Nat) (isNative isListed : Bool) :
    Result × Simulation :=
  let number := simulation.session.webviews.length
  let simulation := simulation.onHost fun platform => platform.hold number id isListed
  (.webview (some number),
    { simulation with session := simulation.session.addWebview { id, isNative } })

/-- Does what a command says, where the app is there if the command acts on it. -/
def execute (simulation : Simulation) (command : Command) : Result × Simulation :=
  let session := simulation.session
  let app := session.app
  match command with
  | .register request =>
    let registered := session.register host request
    (.webview (some registered.1), { simulation with session := registered.2 })
  | .renewRegistrar => (.done, { simulation with session.isEntered := false })
  | .addWebview id isNative isListed => simulation.addWebview id isNative isListed
  | .releaseWebview webview => (.done, simulation.onHost fun platform => platform.release webview)
  | .forget isForgetful => (.done, simulation.onHost fun platform => { platform with isForgetful })
  | .setRoute path settings =>
    (.done, simulation.onHost fun platform =>
      { platform with routes := setMember path settings platform.routes })
  | .preload url webview =>
    (.webview (app.preloads.find? url),
      { simulation with session := session.preload url webview })
  | .takePreload url =>
    simulation.onApp (.webview (app.preloads.find? url)) fun app =>
      { app with preloads := app.preloads.erase url }
  | .clearPreloads => simulation.onApp .done fun app => { app with preloads := .empty }
  | .createPage =>
    let created := Platform.createPage.run session.host
    (.entry (some (.page created.1)), { simulation with session.host := created.2 })
  | .setPage webview page =>
    (.done, { simulation with
      session := session.modifyWebview webview fun known => { known with page } })
  | .nativePageCreated placeholder page =>
    let handed := session.nativePageCreated host placeholder page
    (.answer handed.1, { simulation with session := handed.2 })
  | .webviewOf entry => (.webview (session.webviewOf? host entry), simulation)
  | .isSame first second => (.answer (first = second), simulation)
  | .push entry => simulation.onApp .done fun app => app.push entry
  | .remove entry =>
    simulation.onApp (.entry (app.pages.find? (· == entry))) fun app => app.remove entry
  | .replace index entry =>
    simulation.onApp (.entry app.pages[index]?) fun app =>
      { app with pages := app.pages.set index entry }
  | .find entry => (.place (app.pages.idxOf? entry), simulation)
  | .get index => (.entry app.pages[index]?, simulation)
  | .last => (.entry app.pages.getLast?, simulation)
  | .clearPages => simulation.onApp .done fun app => { app with pages := [] }
  | .findTab route => (.tab (app.tabBar.indexOf? route), simulation)
  | .appendTab webview =>
    simulation.onApp .done fun app => { app with tabBar := app.tabBar.append webview }
  | .styleTabBar cover height =>
    simulation.onApp .done fun app =>
      { app with
        tabBar.cover := cover.getD app.tabBar.cover
        tabBar.height := height.getD app.tabBar.height }
  | .perform actions => (.done, { simulation with session := session.perform host actions })
  | .dropApp => (.done, { simulation with session := session.tearDown, hasApp := false })

/-- Does what a command says, or refuses a command to an app that is not there any more. -/
def step? (simulation : Simulation) (command : Command) : Option (Result × Simulation) :=
  if simulation.hasApp || !command.needsApp then some (simulation.execute command) else none

end Simulation

end MiniApp
