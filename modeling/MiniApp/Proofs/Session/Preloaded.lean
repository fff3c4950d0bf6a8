import MiniApp.Proofs.Session.Outcome

/-!
# Runs with preloaded webviews

What is claimed of a preloaded webview is claimed for as long as the app runs, and it asks something
of the events of that run. `Leads` says that a session comes from another one by events of which
something is assumed, each in the session in which it comes; what all of these events keep holds in
the end (`Leads.keeps`).

The rest is about the preload pool: what it changes of a webview to put it there, and when a
registration opens a page in a webview of the pool (`offered_cases`).
-/

set_option autoImplicit false

namespace MiniApp.Session

open MiniApp.App MiniApp.Page

variable {σ : Type}

/-! ### Runs -/

/-- The sessions that come from a first one by events of which something is assumed. -/
inductive Leads (host : Host σ) (Assumed : Session σ → Event → Prop) (first : Session σ) :
    Session σ → Prop
  | refl : Leads host Assumed first first
  | handle {session : Session σ} (event : Event) (hleads : Leads host Assumed first session)
      (hassumed : Assumed session event) : Leads host Assumed first (session.handle host event)
  /-- The state of the host may change between two events. -/
  | hostMoves {session : Session σ} (state : σ) (hleads : Leads host Assumed first session) :
      Leads host Assumed first { session with host := state }

section Leads

variable {host : Host σ} {Assumed : Session σ → Event → Prop} {first session : Session σ}

/-- What holds in the first session and is kept by every event holds in all sessions of the run, if
it does not depend on the state of the host. -/
theorem Leads.keeps {Invariant : Session σ → Prop} (h : Leads host Assumed first session)
    (hfirst : Invariant first)
    (hhandle : ∀ reached event, Invariant reached → Assumed reached event →
      Invariant (reached.handle host event))
    (hmoves : ∀ reached state, Invariant reached → Invariant { reached with host := state }) :
    Invariant session := by
  induction h with
  | refl => exact hfirst
  | handle event hleads hassumed ih => exact hhandle _ event ih hassumed
  | hostMoves state hleads ih => exact hmoves _ state ih

/-- Every event of a list is as assumed when it comes. -/
def AssumedAlong (host : Host σ) (Assumed : Session σ → Event → Prop) :
    List Event → Session σ → Prop
  | [], _ => True
  | event :: rest, session =>
    Assumed session event ∧ AssumedAlong host Assumed rest (session.handle host event)

instance decidableAssumedAlong [∀ session event, Decidable (Assumed session event)] :
    (events : List Event) → (session : Session σ) →
      Decidable (AssumedAlong host Assumed events session)
  | [], _ => inferInstanceAs (Decidable True)
  | event :: rest, session =>
    have := decidableAssumedAlong rest (session.handle host event)
    inferInstanceAs (Decidable (Assumed session event ∧
      AssumedAlong host Assumed rest (session.handle host event)))

/-- A list of events leads from any session of the run to another one. -/
theorem Leads.run (h : Leads host Assumed first session) (events : List Event)
    (hassumed : AssumedAlong host Assumed events session) :
    Leads host Assumed first
      (events.foldl (fun reached event => reached.handle host event) session) := by
  induction events generalizing session with
  | nil => exact h
  | cons event rest ih => exact ih (h.handle event hassumed.1) hassumed.2

end Leads

/-! ### The pool -/

/-- A webview that the pool has for a url is one of the pool. -/
theorem mem_pool {pool : PreloadPool} {url : String} {webview : Nat}
    (h : pool.find? url = some webview) : webview ∈ pool.webviews := by
  obtain ⟨front, back, hentries, -⟩ := List.lookup_eq_some_iff.mp h
  simp [PreloadPool.webviews, hentries]

/-- The webview that is put into the pool is marked, and nothing else changes of the webviews. -/
theorem webview_preload (session : Session σ) (url : String) (webview other : Nat)
    (hlt : other < session.webviews.length) :
    (session.preload url webview).webview other =
      if webview = other then { session.webview other with isPreload := true }
      else session.webview other :=
  webview_modifyWebview session webview other _ hlt

/-- A registration opens its page in the pooled webview if that keeps no page, and in the one that
comes with the request if the pool has none. -/
theorem offered_cases {session : Session σ} {request : Request} {given : Nat}
    (h : session.offered request = some given) :
    session.app.preloads.find? request.url = some given ∧ (session.webview given).page = none ∨
      session.app.preloads.find? request.url = none ∧ request.webview = some given := by
  unfold offered at h
  cases hfor : session.preloadFor request.url with
  | absent => exact Or.inr ⟨preloadFor_absent hfor, by simpa [hfor] using h⟩
  | blank webview =>
      rw [hfor] at h
      obtain rfl : webview = given := Option.some.inj h
      exact Or.inl (preloadFor_blank hfor)
  | shown webview | hidden webview page =>
      rw [hfor] at h
      exact nomatch h

end MiniApp.Session
