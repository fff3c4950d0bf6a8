import MiniApp.Proofs.Session.Outcome

/-!
# Histories

A history is what happens to a session from some moment on: events in any order, with changes of the
host's own state in between. Nothing is assumed of a history, and it may start from any session.

`watch` is all that is seen of a history: after each step what it was answered with, the state of
the app and of everything around it but the host's own, and the calls that the step has made. Two
histories that are watched alike have the same results and come through the same states.
-/

set_option autoImplicit false

namespace MiniApp.Session

open MiniApp.App MiniApp.Page

variable {σ : Type}

/-- A step in the history of a session. -/
inductive Step (σ : Type)
  | event (event : Event)
  /-- The state of the host changes between two events. -/
  | hostMoves (state : σ)

/-- The session after a step. -/
def take (host : Host σ) (step : Step σ) (session : Session σ) : Session σ :=
  match step with
  | .event event => session.handle host event
  | .hostMoves state => { session with host := state }

/-- The session after a history. -/
def after (host : Host σ) (steps : List (Step σ)) (session : Session σ) : Session σ :=
  steps.foldl (fun reached step => reached.take host step) session

section After

variable (host : Host σ) (session : Session σ)

/-- Nothing has changed after no steps. -/
@[simp]
theorem after_nil : session.after host [] = session := rfl

/-- A history is its first step and the rest of it. -/
@[simp]
theorem after_cons (step : Step σ) (rest : List (Step σ)) :
    session.after host (step :: rest) = (session.take host step).after host rest := rfl

end After

/-- What every step of a kind keeps holds after a history of such steps if it held before. -/
theorem after_keeps_of {host : Host σ} {Invariant : Session σ → Prop} {Kind : Step σ → Prop}
    (hstep : ∀ reached step, Kind step → Invariant reached → Invariant (reached.take host step))
    {steps : List (Step σ)} (hsteps : ∀ step ∈ steps, Kind step) {session : Session σ}
    (h : Invariant session) : Invariant (session.after host steps) := by
  induction steps generalizing session with
  | nil => exact h
  | cons step rest ih =>
      obtain ⟨hfirst, hrest⟩ := List.forall_mem_cons.mp hsteps
      exact ih hrest (hstep session step hfirst h)

/-- What every step keeps holds after a history if it held before. -/
theorem after_keeps {host : Host σ} {Invariant : Session σ → Prop}
    (hstep : ∀ reached step, Invariant reached → Invariant (reached.take host step))
    (steps : List (Step σ)) {session : Session σ} (h : Invariant session) :
    Invariant (session.after host steps) :=
  after_keeps_of (fun reached step (_ : True) => hstep reached step) (fun _ _ => trivial) h

/-! ### What is seen of a history -/

/-- What an event is answered with. -/
inductive Answer
  | done
  /-- The webview of a page, or the one that was added. -/
  | webview (number : Nat)
  /-- Whether a native page has got the place of its placeholder. -/
  | swapped (isSwapped : Bool)
  /-- The entry that was taken off the page stack. -/
  | removed (entry : Option Entry)
  /-- The webview that was in the preload pool before. -/
  | pooled (webview : Option Nat)
  deriving DecidableEq

/-- What an event is answered with when it happens. -/
def answer (session : Session σ) (host : Host σ) : Event → Answer
  | .register request => .webview (session.register host request).1
  | .nativePage placeholder number =>
    .swapped (session.nativePageCreated host placeholder number).1
  | .leave entry => .removed (session.app.pages.find? (· == entry))
  | .addWebview _ => .webview session.webviews.length
  | .preload url _ | .takePreload url => .pooled (session.app.preloads.find? url)
  | .perform _ => .done

/-- What is seen of a step: its answer, the state that it leads to, and the calls that it has
made. -/
structure Sight where
  answer : Answer
  app : State
  isEntered : Bool
  webviews : List Webview
  placeholders : List Placeholder
  calls : List Call

/-- What is seen of a step that is taken. -/
def sight (session : Session σ) (host : Host σ) (step : Step σ) : Sight :=
  let next := session.take host step
  { answer := match step with
      | .event event => session.answer host event
      | .hostMoves _ => .done
    app := next.app
    isEntered := next.isEntered
    webviews := next.webviews
    placeholders := next.placeholders
    calls := next.calls.drop session.calls.length }

/-- What is seen of a history, step by step. -/
def watch (host : Host σ) : List (Step σ) → Session σ → List Sight
  | [], _ => []
  | step :: rest, session => session.sight host step :: watch host rest (session.take host step)

end MiniApp.Session
