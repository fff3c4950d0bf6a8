import MiniApp.App.State
import MiniApp.Session.Host

/-!
# A session of an app on a host

All that an app, its webviews and its host have come to. A session asks the host for its services
one after another and keeps a record of the calls in their order.
-/

set_option autoImplicit false

namespace MiniApp

open MiniApp.Json MiniApp.Page MiniApp.App

namespace Session

/-- The stand-in for a native page. -/
structure Placeholder where
  webview : Nat
  /-- How the page was opened, until the page is there and takes it over. -/
  page : Option Instance

end Session

open MiniApp.Session

/-- A session of an app on a host with states in `σ`. A webview and a placeholder are known by their
places in the lists. -/
structure Session (σ : Type) where
  app : State
  /-- Whether the host has been asked to initialise the entry of the app. -/
  isEntered : Bool := false
  webviews : List Webview := []
  placeholders : List Placeholder := []
  host : σ
  /-- The calls so far, the first one in front. -/
  calls : List Call := []

namespace Session

variable {σ α : Type}

/-- The session with one more call on record. -/
def note (session : Session σ) (call : Call) : Session σ :=
  { session with calls := session.calls ++ [call] }

/-- Asks for a service. The call is put on record with its answer. -/
def ask (session : Session σ) (service : StateM σ α) (call : α → Call) : α × Session σ :=
  let answered := service.run session.host
  (answered.1,
    { session with host := answered.2, calls := session.calls ++ [call answered.1] })

/-- Asks for a service that has no answer. -/
def notify (session : Session σ) (service : StateM σ Unit) (call : Call) : Session σ :=
  (session.ask service fun _ => call).2

/-- What is known about a webview. -/
def webview (session : Session σ) (number : Nat) : Webview :=
  session.webviews.getD number default

/-- Changes what is known about a webview. -/
def modifyWebview (session : Session σ) (number : Nat) (change : Webview → Webview) : Session σ :=
  { session with webviews := session.webviews.modify number change }

/-- Adds a webview, which gets the next number. -/
def addWebview (session : Session σ) (webview : Webview) : Session σ :=
  { session with webviews := session.webviews ++ [webview] }

/-- Changes the state of the app. -/
def modifyApp (session : Session σ) (change : State → State) : Session σ :=
  { session with app := change session.app }

/-- Whether a webview is alive: the host or the app keeps it so. -/
def isAlive (session : Session σ) (host : Host σ) (webview : Nat) : Bool :=
  host.holds session.host webview || session.app.keeps webview

/-- The webview that a page was attached to last. -/
def attachedWebview? (session : Session σ) (page : Nat) : Option Nat :=
  session.calls.reverse.findSome? fun call => match call with
    | .attach number webview _ => if number = page then some webview else none
    | _ => none

/-- The webview that an entry of the page stack belongs to, as long as that is alive. -/
def webviewOf? (session : Session σ) (host : Host σ) (entry : Entry) : Option Nat :=
  let known : Option Nat := match entry with
    | .placeholder number => session.placeholders[number]?.map Placeholder.webview
    | .page number => session.attachedWebview? number
  -- An entry does not keep its webview alive, so the webview may be gone by now.
  known.filter (session.isAlive host)

/-- Puts a webview into the preload pool and marks it as preloaded. -/
def preload (session : Session σ) (url : String) (webview : Nat) : Session σ :=
  (session.modifyWebview webview fun known => { known with isPreload := true }).modifyApp fun app =>
    { app with preloads := app.preloads.insert url webview }

end Session

end MiniApp
