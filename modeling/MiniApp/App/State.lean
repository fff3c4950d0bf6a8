import MiniApp.App.PreloadPool
import MiniApp.App.TabBar
import MiniApp.Page.Webview

/-!
# The state of an app

The page stack, the preload pool, the tab bar, and what waits until the app is ready. What waits
is a callback, which is a list of actions; an action may itself make the app ready, tear it down,
or let another callback wait.
-/

set_option autoImplicit false

namespace MiniApp.App

open MiniApp.Json MiniApp.Page

/-- A thing that a callback does. -/
inductive Action
  /-- Reports to the host that the callback with this label has been called. -/
  | report (label : Value)
  /-- Completes the navigation that launched the app. -/
  | finishNavigation
  /-- Makes the app ready and calls all that wait. -/
  | becomeReady
  /-- Brings the app back to where it started. -/
  | tearDown
  /-- Calls a callback now if the app is ready, or else lets it wait. -/
  | whenReady (callback : List Action)

/-- What is done in order when it is called. -/
abbrev Callback := List Action

mutual

/-- The number of actions in an action, with those of a callback that it lets wait. -/
def Action.size : Action → Nat
  | .whenReady callback => 1 + Callback.size callback
  | .report _ | .finishNavigation | .becomeReady | .tearDown => 1

/-- The number of actions in a callback. -/
def Callback.size : List Action → Nat
  | [] => 0
  | action :: rest => action.size + Callback.size rest

end

/-- The state of an app. -/
structure State where
  config : Config
  /-- The page stack, from the bottom to the top. -/
  pages : List Entry
  preloads : PreloadPool
  tabBar : TabBar
  isReady : Bool
  /-- The callbacks that wait until the app is ready, in the order in which they came. -/
  waiting : List Callback

namespace State

/-- An app that has just been started. -/
def initial (config : Config) : State :=
  ⟨config, [], .empty, .ofConfig config.tabBar, false, []⟩

/-- The app without pages, preloads and webviews in the tab bar, and not ready. What waited is
dropped. -/
def tearDown (state : State) : State :=
  { state with
    -- The configuration stays.
    pages := []
    preloads := .empty
    tabBar := state.tabBar.clear
    isReady := false
    waiting := [] }

/-- Puts an entry on top of the page stack. -/
def push (state : State) (entry : Entry) : State :=
  { state with pages := state.pages ++ [entry] }

/-- Puts an entry in the place of another one, where that one is met first. -/
def swap (state : State) (old new : Entry) : State :=
  match state.pages.idxOf? old with
  | some place => { state with pages := state.pages.set place new }
  | none => state

/-- Takes an entry off the page stack, where it is met first. -/
def remove (state : State) (entry : Entry) : State :=
  { state with pages := state.pages.erase entry }

/-- Whether the app keeps a webview alive. -/
def keeps (state : State) (webview : Nat) : Bool :=
  state.preloads.webviews.contains webview || state.tabBar.webviews.contains webview

end State

end MiniApp.App
