import MiniApp.Session.Basic

/-!
# Doing what waits until the app is ready

Actions are done one after another. The actions of a callback that is called come before all that
is still to do, so that it ends before the one after it begins. Every action is done once, and
what waits is taken when it is called; so the number of actions that are to do or wait falls at
every step.
-/

set_option autoImplicit false

namespace MiniApp.Session

open MiniApp.App

variable {σ : Type}

/-- Does the actions, as long as the number of steps is not used up. -/
def performFor (host : Host σ) : Nat → List Action → Session σ → Session σ
  | 0, _, session => session
  | _ + 1, [], session => session
  | steps + 1, .report label :: rest, session =>
    performFor host steps rest (session.note (.report label))
  | steps + 1, .finishNavigation :: rest, session =>
    performFor host steps rest (session.notify host.finishNavigation .finishNavigation)
  -- The app is ready before the first that waits is called, so what that one lets wait is called at
  -- once.
  | steps + 1, .becomeReady :: rest, session =>
    performFor host steps (session.app.waiting.flatten ++ rest)
      (session.modifyApp fun app => { app with isReady := true, waiting := [] })
  | steps + 1, .tearDown :: rest, session =>
    performFor host steps rest (session.modifyApp State.tearDown)
  | steps + 1, .whenReady callback :: rest, session =>
    if session.app.isReady then performFor host steps (callback ++ rest) session
    else
      performFor host steps rest
        (session.modifyApp fun app => { app with waiting := app.waiting ++ [callback] })

/-- Does the actions in order. -/
def perform (session : Session σ) (host : Host σ) (actions : List Action) : Session σ :=
  -- Every step does an action that is to be done or waits, and none is done twice.
  let steps := Callback.size actions + Callback.size session.app.waiting.flatten
  performFor host steps actions session

/-- Calls a callback if the app is ready, or else lets it wait. -/
def whenReady (session : Session σ) (host : Host σ) (callback : Callback) : Session σ :=
  session.perform host [.whenReady callback]

/-- Makes the app ready and calls all that wait. -/
def becomeReady (session : Session σ) (host : Host σ) : Session σ :=
  session.perform host [.becomeReady]

/-- Brings the app back to where it started. -/
def tearDown (session : Session σ) : Session σ :=
  session.modifyApp State.tearDown

end MiniApp.Session
