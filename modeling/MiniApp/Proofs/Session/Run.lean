import MiniApp.Proofs.Session.Frame

/-!
# Runs of a session

An `Event` is one thing that happens to a session from outside: a page is registered, a native page
comes, a page is left, the preload pool is filled or emptied, or callbacks are done, which covers an
app that becomes ready or is torn down. A run is a list of events, and nothing is assumed of their
order.

The session itself does not say which webview an entry of the page stack belongs to once the entry
is a rendered page. A `Tracked` session keeps that beside the session: an entry belongs to the
webview that the registration which pushed it answered with, and a native page belongs where its
placeholder belonged. The tracking reads the session and never changes it.

`Allowed` is what is assumed of the world around: the host finds under the id of a webview that very
webview or none, every page that is made is a new one, and a webview that is put into the preload
pool exists and keeps no page yet.
-/

set_option autoImplicit false

namespace MiniApp.Session

open MiniApp.App MiniApp.Page

variable {σ : Type}

/-- Something that happens to a session from outside. -/
inductive Event
  | register (request : Request)
  /-- The native page for a placeholder is there. -/
  | nativePage (placeholder number : Nat)
  /-- A page is left, as when navigating back. -/
  | leave (entry : Entry)
  /-- A webview is created outside of any registration. -/
  | addWebview (webview : Webview)
  | preload (url : String) (webview : Nat)
  | takePreload (url : String)
  /-- Actions are done, such as making the app ready and tearing it down. -/
  | perform (actions : List Action)

/-- The session after an event. -/
def handle (host : Host σ) (event : Event) (session : Session σ) : Session σ :=
  match event with
  | .register request => (session.register host request).2
  | .nativePage placeholder number => (session.nativePageCreated host placeholder number).2
  | .leave entry => session.modifyApp fun app => app.remove entry
  | .addWebview webview => session.addWebview webview
  | .preload url webview => session.preload url webview
  | .takePreload url =>
    session.modifyApp fun app => { app with preloads := app.preloads.erase url }
  | .perform actions => session.perform host actions

/-- Whatever actions are done, they settle the session. -/
theorem settled_perform (session : Session σ) (host : Host σ) (actions : List Action) :
    Settled session (session.handle host (.perform actions)) :=
  performFor_settled host _ actions session

/-- The page that a call makes or hands over. -/
def Call.page? : Call → Option Nat
  | .createPage created .. => some created
  | .attach number .. => some number
  | _ => none

/-- The pages that are known from the calls on record. -/
def knownPages (session : Session σ) : List Nat :=
  session.calls.filterMap Call.page?

/-- A session, with the webviews that entries of the page stack belong to. -/
structure Tracked (σ : Type) where
  session : Session σ
  /-- Entries with their webviews; what was noted last counts. -/
  homes : List (Entry × Nat) := []

namespace Tracked

/-- A session of an app that has just been started. -/
def initial (config : Config) (host : σ) : Tracked σ :=
  { session := { app := .initial config, host } }

/-- The webview that an entry belongs to. -/
def home? (tracked : Tracked σ) (entry : Entry) : Option Nat :=
  tracked.homes.lookup entry

/-- What an event adds to the homes: a registration gives its answer to the entry that it put on
top, and a native page gets the home of its placeholder. -/
def newHomes (host : Host σ) (event : Event) (tracked : Tracked σ) : List (Entry × Nat) :=
  match event with
  | .register request =>
    let registered := tracked.session.register host request
    registered.2.app.pages.getLast?.toList.map fun entry => (entry, registered.1)
  | .nativePage placeholder number =>
    (tracked.home? (.placeholder placeholder)).toList.map fun webview => (.page number, webview)
  | _ => []

/-- The tracked session after an event. -/
def step (host : Host σ) (event : Event) (tracked : Tracked σ) : Tracked σ where
  session := tracked.session.handle host event
  homes := tracked.newHomes host event ++ tracked.homes

/-- The tracked session after the events of a run. -/
def run (host : Host σ) (events : List Event) (tracked : Tracked σ) : Tracked σ :=
  events.foldl (fun reached event => reached.step host event) tracked

/-- What is assumed of a call that is made while the page for a url is registered. -/
def Sound (session : Session σ) (url : String) : Call → Prop
  | .findWebview _ found => ∀ webview ∈ session.app.preloads.find? url,
    found = none ∨ found = some webview
  | .createPage created .. => created ∉ session.knownPages
  | _ => True

/-- What is assumed of an event. -/
def Allowed (host : Host σ) (tracked : Tracked σ) : Event → Prop
  | .register request => request.webview = none ∧
    ∀ call ∈ (tracked.session.register host request).2.calls.drop tracked.session.calls.length,
      Sound tracked.session request.url call
  | .nativePage _ number => number ∉ tracked.session.knownPages
  | .preload _ webview => webview < tracked.session.webviews.length ∧
    (tracked.session.webview webview).page = none
  | _ => True

/-- Every event of a run is allowed when it comes. -/
def AllowedRun (host : Host σ) : List Event → Tracked σ → Prop
  | [], _ => True
  | event :: rest, tracked =>
    tracked.Allowed host event ∧ AllowedRun host rest (tracked.step host event)

/-! ### All of this can be evaluated -/

instance (session : Session σ) (url : String) (call : Call) : Decidable (Sound session url call) :=
  match call with
  | .findWebview _ found => inferInstanceAs (Decidable (∀ webview ∈ session.app.preloads.find? url,
      found = none ∨ found = some webview))
  | .createPage created .. => inferInstanceAs (Decidable (created ∉ session.knownPages))
  | .initEntry | .resolveRoute .. | .createWebview .. | .initWebview .. | .createInstance ..
  | .closeSplash | .finishNavigation | .attach .. | .report _ => inferInstanceAs (Decidable True)

instance (host : Host σ) (tracked : Tracked σ) (event : Event) :
    Decidable (tracked.Allowed host event) :=
  match event with
  | .register request => inferInstanceAs (Decidable (request.webview = none ∧
      ∀ call ∈ (tracked.session.register host request).2.calls.drop tracked.session.calls.length,
        Sound tracked.session request.url call))
  | .nativePage _ number => inferInstanceAs (Decidable (number ∉ tracked.session.knownPages))
  | .preload _ webview => inferInstanceAs (Decidable (webview < tracked.session.webviews.length ∧
      (tracked.session.webview webview).page = none))
  | .leave _ | .addWebview _ | .takePreload _ | .perform _ => inferInstanceAs (Decidable True)

instance decidableAllowedRun (host : Host σ) :
    (events : List Event) → (tracked : Tracked σ) → Decidable (AllowedRun host events tracked)
  | [], _ => inferInstanceAs (Decidable True)
  | event :: rest, tracked =>
    have := decidableAllowedRun host rest (tracked.step host event)
    inferInstanceAs (Decidable (tracked.Allowed host event ∧
      AllowedRun host rest (tracked.step host event)))

end Tracked

end MiniApp.Session
