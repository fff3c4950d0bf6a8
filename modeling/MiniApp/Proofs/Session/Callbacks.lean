import MiniApp.Proofs.Session.History

/-!
# What becomes of a callback

A callback that is given to an app is called at once if the app is ready. If it is not, what
becomes of the callback is decided by what comes first after it: the app becomes ready, and the
callback is called, or the app is torn down, and it is dropped. As long as neither happens it waits.

A registration gives a callback too. The first page of an app may be native, and then the launch of
the app waits for it; the navigation is completed when the app is ready. So every launch is
completed once, waits, or has been dropped (`callbacks_fate`).

The callbacks that are given here from outside only report that they have been called. One that
calls back into the app may give it further callbacks or tear it down.
-/

set_option autoImplicit false

namespace MiniApp.Session

open MiniApp.App MiniApp.Page

variable {σ : Type}

/-! ### Callbacks that leave the app alone -/

/-- The call that an action makes, if it leaves the app alone. -/
def callOf : Action → Option Call
  | .report label => some (.report label)
  | .finishNavigation => some .finishNavigation
  | .becomeReady | .tearDown | .whenReady _ => none

/-- The calls that a callback makes. -/
def callsOf (callback : Callback) : List Call :=
  callback.filterMap callOf

/-- Whether a callback leaves the app alone. -/
def isHarmless (callback : Callback) : Bool :=
  callback.all fun action => (callOf action).isSome

/-- Whether a callback only reports that it has been called. -/
def onlyReports (callback : Callback) : Bool :=
  callback.all fun action => match action with
    | .report _ => true
    | _ => false

/-- A callback that only reports leaves the app alone. -/
theorem isHarmless_of_onlyReports {callback : Callback} (h : onlyReports callback = true) :
    isHarmless callback = true := by
  unfold onlyReports at h
  unfold isHarmless
  rw [List.all_eq_true] at h ⊢
  intro action hmem
  have hreport := h action hmem
  cases action with
  | report label => rfl
  | _ => exact nomatch hreport

/-- The size of a harmless callback is the number of its actions. -/
theorem size_harmless {callback : Callback} (h : isHarmless callback = true) :
    Callback.size callback = callback.length := by
  induction callback with
  | nil => rfl
  | cons action rest ih =>
      obtain ⟨haction, hrest⟩ : (callOf action).isSome = true ∧ isHarmless rest = true := by
        simpa [isHarmless] using h
      have hone : action.size = 1 := by
        cases action with
        | whenReady callback => exact nomatch haction
        | _ => simp [Action.size]
      rw [Callback.size, ih hrest, hone, List.length_cons, Nat.add_comm]

/-- Harmless actions leave the app as it is, and their calls are made in order. -/
theorem performFor_harmless (host : Host σ) {steps : Nat} {actions : List Action}
    (hactions : isHarmless actions = true) (hsteps : actions.length ≤ steps)
    (session : Session σ) :
    (performFor host steps actions session).app = session.app ∧
      (performFor host steps actions session).calls = session.calls ++ callsOf actions := by
  -- Each action takes one step, so there are enough of them for the rest.
  induction actions generalizing steps session with
  | nil =>
      rw [performFor_nil]
      exact ⟨rfl, (List.append_nil _).symm⟩
  | cons action rest ih =>
      obtain ⟨haction, hrest⟩ : (callOf action).isSome = true ∧ isHarmless rest = true := by
        simpa [isHarmless] using hactions
      obtain ⟨steps, rfl⟩ : ∃ fewer, steps = fewer + 1 :=
        Nat.exists_eq_add_one.mpr (Nat.lt_of_lt_of_le (Nat.succ_pos _) hsteps)
      have hfewer : rest.length ≤ steps := Nat.le_of_succ_le_succ hsteps
      cases action with
      | report label =>
          obtain ⟨happ, hcalls⟩ := ih hrest hfewer (session.note (.report label))
          refine ⟨happ, ?_⟩
          rw [performFor, hcalls]
          simp [note, callsOf, callOf]
      | finishNavigation =>
          obtain ⟨happ, hcalls⟩ :=
            ih hrest hfewer (session.notify host.finishNavigation .finishNavigation)
          refine ⟨happ, ?_⟩
          rw [performFor, hcalls]
          simp [notify, ask, callsOf, callOf]
      | becomeReady | tearDown | whenReady callback => exact absurd haction Bool.false_ne_true

/-- A harmless callback is called if the app is ready, or else it waits. -/
theorem whenReady_harmless (session : Session σ) (host : Host σ) {callback : Callback}
    (h : isHarmless callback = true) :
    let given := session.whenReady host callback
    if session.app.isReady then
      given.app = session.app ∧ given.calls = session.calls ++ callsOf callback
    else
      given = session.modifyApp fun app =>
        { app with waiting := app.waiting ++ [callback] } := by
  have hsize : Callback.size [Action.whenReady callback] = callback.length + 1 := by
    simp [Callback.size, Action.size, size_harmless h, Nat.add_comm]
  have hperform : session.whenReady host callback =
      performFor host (callback.length + Callback.size session.app.waiting.flatten + 1)
        [.whenReady callback] session := by
    unfold whenReady perform
    rw [hsize, Nat.add_right_comm]
  rw [hperform]
  simp only [performFor, List.append_nil, performFor_nil]
  by_cases hready : session.app.isReady = true
  · rw [if_pos hready, if_pos hready]
    exact performFor_harmless host h (Nat.le_add_right _ _) session
  · rw [if_neg hready, if_neg hready]

/-- When the app becomes ready, all harmless callbacks that wait are called in their order. -/
theorem becomeReady_harmless {session : Session σ} (host : Host σ)
    (h : ∀ callback ∈ session.app.waiting, isHarmless callback = true) :
    (session.becomeReady host).app = { session.app with isReady := true, waiting := [] } ∧
      (session.becomeReady host).calls =
        session.calls ++ session.app.waiting.flatMap callsOf := by
  have hflatten : isHarmless session.app.waiting.flatten = true := by
    unfold isHarmless at h ⊢
    rw [List.all_flatten, List.all_eq_true]
    exact h
  have hcalls : callsOf session.app.waiting.flatten = session.app.waiting.flatMap callsOf := by
    unfold callsOf
    rw [List.filterMap_flatten, List.flatMap_def]
  -- The steps that are counted suffice, since harmless actions have no others in them.
  have hperform : session.becomeReady host =
      performFor host session.app.waiting.flatten.length session.app.waiting.flatten
        (session.modifyApp fun app => { app with isReady := true, waiting := [] }) := by
    unfold becomeReady perform
    rw [size_harmless hflatten]
    simp [Callback.size, Action.size, Nat.add_comm 1, performFor]
  obtain ⟨happ, hmade⟩ := performFor_harmless host hflatten (Nat.le_refl _)
    (session.modifyApp fun app => { app with isReady := true, waiting := [] })
  rw [hperform, ← hcalls]
  exact ⟨happ, hmade⟩

/-- Where a callback has the app torn down, nothing else is done. -/
theorem perform_tearDown (session : Session σ) (host : Host σ) :
    session.perform host [.tearDown] = session.tearDown := by
  unfold perform
  simp only [Callback.size, Action.size, Nat.add_comm 1, performFor, performFor_nil]
  rfl

/-! ### Registrations that go on with a launch -/

/-- Whether a registration puts back the page that the pooled webview keeps. -/
def putsBack (session : Session σ) (url : String) : Bool :=
  match session.preloadFor url with
  | .hidden _ _ => true
  | _ => false

/-- A registration puts a page back if the pool has one for the url that is not on the page
stack. -/
theorem putsBack_iff (session : Session σ) (url : String) :
    session.putsBack url = true ↔ ∃ webview page, session.Reuses url webview page := by
  unfold putsBack
  constructor
  · intro h
    split at h
    · rename_i webview page hfor
      obtain ⟨hpooled, hkept, hhidden⟩ := preloadFor_hidden hfor
      exact ⟨webview, page, hpooled, hkept, hhidden⟩
    · exact nomatch h
  · rintro ⟨webview, page, hreuses⟩
    simp [preloadFor, hreuses.pooled, hreuses.kept, hreuses.hidden]

/-- Whether a registration goes on with the launch of the app: it opens a page, in the webview in
which the app is launched, and that is native. -/
def resumesLaunch (session : Session σ) (host : Host σ) (request : Request) : Bool :=
  let registered := session.register host request
  !session.putsBack request.url && (registered.2.webview registered.1).isNativeLaunch

/-- What a registration comes to for the callbacks of the app. Of its calls only those of a launch
are told apart from the ones that open a page. -/
theorem register_launch (session : Session σ) (host : Host σ) (request : Request) :
    let registered := session.register host request
    registered.2.app.config = session.app.config ∧
      registered.2.app.isReady = session.app.isReady ∧
      registered.2.app.waiting = (if session.resumesLaunch host request && !session.app.isReady then
        session.app.waiting ++ [[.finishNavigation]] else session.app.waiting) ∧
      ∀ kind : Call → Bool, (∀ call : Call, call.isOpening = true → kind call = false) →
        kind .initEntry = false → registered.2.calls.filter kind =
          session.calls.filter kind ++ (if session.resumesLaunch host request then
            splashCalls session.app ++ if session.app.isReady then [.finishNavigation] else []
          else []).filter kind := by
  intro registered
  have hentry : ∀ kind : Call → Bool, kind .initEntry = false →
      (session.entryCalls request).filter kind = [] := by
    intro kind hkind
    unfold entryCalls
    split <;> simp [hkind]
  -- a page that is put back is never a launch, and one that is opened is if its webview says so
  by_cases hreuses : ∃ webview page, session.Reuses request.url webview page
  · have hback : session.putsBack request.url = true :=
      (putsBack_iff session request.url).mpr hreuses
    obtain ⟨webview, page, hreuses⟩ := hreuses
    obtain ⟨-, happ, -, -, hcalls⟩ := register_of_reuses host hreuses
    have hresumes : session.resumesLaunch host request = false := by simp [resumesLaunch, hback]
    have happ : registered.2.app = session.app.push page := happ
    rw [happ, hresumes]
    refine ⟨rfl, rfl, rfl, fun kind _ hkind => ?_⟩
    show registered.2.calls.filter kind = _
    rw [hcalls, List.filter_append, hentry kind hkind]
    rfl
  · have hback : session.putsBack request.url = false := by
      rw [← Bool.not_eq_true, putsBack_iff]
      exact hreuses
    obtain ⟨given, made, entry, -, -, hcalls, hopened⟩ := register_of_not_reuses host hreuses
    have hresumes : session.resumesLaunch host request =
        isLaunch (registered.2.marks registered.1) := by
      simp only [resumesLaunch, hback]
      rfl
    have happ := hopened.app
    refine ⟨by rw [happ], by rw [happ], ?_, fun kind hkind hinit => ?_⟩
    · rw [happ, hresumes]
      rfl
    · show registered.2.calls.filter kind = _
      rw [hcalls, List.filter_append, List.filter_append, hentry kind hinit,
        hopened.steps.filter_made hkind, hresumes, List.append_nil]
      rfl

/-! ### Steps -/

/-- What decides about all callbacks that wait. -/
inductive Turn
  | ready
  | tornDown
  deriving DecidableEq

/-- Whether a step makes the app ready or tears it down. -/
def Step.turn? : Step σ → Option Turn
  | .event (.perform [.becomeReady]) => some .ready
  | .event (.perform [.tearDown]) => some .tornDown
  | _ => none

/-- Nothing is done from outside but to give the app a callback that only reports, to make it ready
and to tear it down. Registrations and all other events may come as they like. -/
def Step.IsSimple : Step σ → Prop
  | .event (.perform [.whenReady callback]) => onlyReports callback = true
  | .event (.perform [.becomeReady]) | .event (.perform [.tearDown]) => True
  | .event (.perform _) => False
  | _ => True

/-- The callbacks that a step gives to the app. -/
def given (session : Session σ) (host : Host σ) : Step σ → List Callback
  | .event (.perform [.whenReady callback]) => [callback]
  | .event (.register request) =>
    if session.resumesLaunch host request then [[.finishNavigation]] else []
  | _ => []

/-- Whether a call is made by a harmless callback. -/
def Call.isCallback : Call → Bool
  | .report _ | .finishNavigation => true
  | _ => false

/-- In an app that is ready nothing waits, and what waits is harmless. -/
structure AwaitsReady (session : Session σ) : Prop where
  ready : session.app.isReady = true → session.app.waiting = []
  harmless : ∀ callback ∈ session.app.waiting, isHarmless callback = true

/-- The calls that callbacks have made. -/
def callbackCalls (session : Session σ) : List Call :=
  session.calls.filter Call.isCallback

/-- All calls that a callback makes are calls of callbacks. -/
theorem filter_callsOf (callback : Callback) :
    (callsOf callback).filter Call.isCallback = callsOf callback := by
  rw [List.filter_eq_self]
  intro call hmem
  obtain ⟨action, -, hcall⟩ := List.mem_filterMap.mp hmem
  cases action with
  | report label | finishNavigation =>
      obtain rfl := Option.some.inj hcall
      rfl
  | becomeReady | tearDown | whenReady callback => exact nomatch hcall

/-- What a step does to the callbacks of an app. -/
def Settles (session : Session σ) (host : Host σ) (step : Step σ) (next : Session σ) : Prop :=
  match step.turn? with
  | some .ready => next.app.isReady = true ∧ next.app.waiting = [] ∧
      next.callbackCalls = session.callbackCalls ++ session.app.waiting.flatMap callsOf
  | some .tornDown => next.app.isReady = false ∧ next.app.waiting = [] ∧
      next.callbackCalls = session.callbackCalls
  | none => next.app.isReady = session.app.isReady ∧
      if session.app.isReady then next.app.waiting = session.app.waiting ∧
        next.callbackCalls = session.callbackCalls ++ (session.given host step).flatMap callsOf
      else next.app.waiting = session.app.waiting ++ session.given host step ∧
        next.callbackCalls = session.callbackCalls

/-- A step that gives the app no callback, and makes no calls that callbacks make, changes nothing
for callbacks. -/
theorem settles_quiet {session next : Session σ} {host : Host σ} {step : Step σ}
    (hturn : step.turn? = none) (hgiven : session.given host step = [])
    (hready : next.app.isReady = session.app.isReady)
    (hwaiting : next.app.waiting = session.app.waiting)
    (hcalls : next.callbackCalls = session.callbackCalls) : session.Settles host step next := by
  unfold Settles
  rw [hturn, hgiven]
  refine ⟨hready, ?_⟩
  split
  · exact ⟨hwaiting, by simp [hcalls]⟩
  · exact ⟨by simp [hwaiting], hcalls⟩

/-- What may be done from outside. -/
theorem isSimple_perform {actions : List Action}
    (h : (Step.event (σ := σ) (.perform actions)).IsSimple) :
    (∃ callback, actions = [.whenReady callback] ∧ onlyReports callback = true) ∨
      actions = [.becomeReady] ∨ actions = [.tearDown] := by
  unfold Step.IsSimple at h
  grind

/-- A registration gives the app a callback if it goes on with a launch. -/
theorem settles_register (session : Session σ) (host : Host σ) (request : Request) :
    session.Settles host (.event (.register request)) (session.register host request).2 := by
  obtain ⟨-, hready, hwaiting, hcalls⟩ := register_launch session host request
  have hopening : ∀ call : Call, call.isOpening = true → call.isCallback = false := by
    intro call hcall
    cases call with
    | report | finishNavigation => exact nomatch hcall
    | _ => rfl
  have hmade := hcalls Call.isCallback hopening rfl
  have hsplash : (splashCalls session.app).filter Call.isCallback = [] := by
    unfold splashCalls
    split <;> rfl
  have hfinish : (if session.app.isReady then [Call.finishNavigation] else []).filter
      Call.isCallback = if session.app.isReady then [.finishNavigation] else [] := by
    split <;> rfl
  have hgiven : session.given host (.event (.register request)) =
      if session.resumesLaunch host request then [[.finishNavigation]] else [] := rfl
  -- of what a launch has on record only the end of the navigation is a callback
  refine ⟨hready, ?_⟩
  rw [hgiven]
  cases hresumes : session.resumesLaunch host request with
  | false =>
      simp only [hresumes, Bool.false_and, Bool.false_eq_true, if_false, List.filter_nil] at *
      split
      · exact ⟨hwaiting, hmade⟩
      · exact ⟨by rw [List.append_nil]; exact hwaiting, hmade.trans (List.append_nil _)⟩
  | true =>
      simp only [hresumes, Bool.true_and, if_true, List.filter_append, hsplash, hfinish,
        List.nil_append] at *
      split
      · rename_i hisReady
        simp only [hisReady] at hwaiting hmade
        exact ⟨hwaiting, hmade⟩
      · rename_i hisReady
        simp only [hisReady] at hwaiting hmade
        exact ⟨hwaiting, hmade.trans (List.append_nil _)⟩

/-- What is done from outside settles what it has to do with callbacks. -/
theorem settles_perform {session : Session σ} (host : Host σ) {actions : List Action}
    (h : session.AwaitsReady) (hsimple : (Step.event (σ := σ) (.perform actions)).IsSimple) :
    session.Settles host (.event (.perform actions)) (session.perform host actions) := by
  -- A callback is given, the app becomes ready, or it is torn down.
  rcases isSimple_perform hsimple with ⟨callback, rfl, hreports⟩ | rfl | rfl
  · have hcalled := whenReady_harmless session host (isHarmless_of_onlyReports hreports)
    show session.Settles host _ (session.whenReady host callback)
    unfold Settles
    dsimp only at hcalled
    simp only [Step.turn?, given, List.flatMap_singleton]
    split
    · rename_i hisReady
      rw [if_pos hisReady] at hcalled
      obtain ⟨happ, hmade⟩ := hcalled
      refine ⟨by rw [happ], by rw [happ], ?_⟩
      rw [callbackCalls, hmade, List.filter_append, filter_callsOf]
      rfl
    · rename_i hisReady
      rw [if_neg hisReady] at hcalled
      rw [hcalled]
      exact ⟨rfl, rfl, rfl⟩
  · obtain ⟨happ, hmade⟩ := becomeReady_harmless host h.harmless
    have hfilter : (session.app.waiting.flatMap callsOf).filter Call.isCallback =
        session.app.waiting.flatMap callsOf := by
      rw [List.filter_flatMap]
      simp only [filter_callsOf]
    show session.Settles host _ (session.becomeReady host)
    refine ⟨by rw [happ], by rw [happ], ?_⟩
    rw [callbackCalls, hmade, List.filter_append, hfilter]
    rfl
  · show session.Settles host _ (session.perform host [.tearDown])
    rw [perform_tearDown]
    exact ⟨rfl, rfl, rfl⟩

/-- So does every step. -/
theorem settles_take {session : Session σ} (host : Host σ) {step : Step σ}
    (h : session.AwaitsReady) (hsimple : step.IsSimple) :
    session.Settles host step (session.take host step) := by
  cases step with
  | hostMoves state => exact settles_quiet rfl rfl rfl rfl rfl
  | event event =>
  cases event with
  | leave | addWebview | preload | takePreload => exact settles_quiet rfl rfl rfl rfl rfl
  | register request => exact settles_register session host request
  | perform actions => exact settles_perform host h hsimple
  | nativePage placeholder number =>
      show session.Settles host _ (session.nativePageCreated host placeholder number).2
      by_cases hheld : ∃ webview page, session.placeholders[placeholder]? =
          some ⟨webview, some page⟩
      · obtain ⟨webview, page, hheld⟩ := hheld
        have hdelivery : Delivery.IsHeld session ⟨placeholder, number, webview, page⟩ := hheld
        rw [nativePageCreated_held host hdelivery, arrived, swap_eq_replace]
        refine settles_quiet rfl rfl rfl rfl ?_
        simp [callbackCalls, Delivery.call, Call.isCallback]
      · rw [nativePageCreated_unheld host hheld]
        exact settles_quiet rfl rfl rfl rfl rfl

/-- A step that makes the app ready or tears it down gives it no callback. -/
theorem given_turn {session : Session σ} {host : Host σ} {step : Step σ} {turn : Turn}
    (h : step.turn? = some turn) : session.given host step = [] := by
  unfold Step.turn? at h
  split at h
  · rfl
  · rfl
  · exact nomatch h

/-- What a step gives to the app only reports, or it completes a launch. -/
theorem mem_given {session : Session σ} {host : Host σ} {step : Step σ} {callback : Callback}
    (hsimple : step.IsSimple) (hmem : callback ∈ session.given host step) :
    onlyReports callback = true ∨ callback = [.finishNavigation] := by
  unfold given at hmem
  split at hmem
  · obtain rfl := List.mem_singleton.mp hmem
    exact Or.inl hsimple
  · split at hmem
    · exact Or.inr (List.mem_singleton.mp hmem)
    · exact nomatch hmem
  · exact nomatch hmem

/-- In a simple history every callback that is given leaves the app alone. -/
theorem isHarmless_of_given {session : Session σ} {host : Host σ} {step : Step σ}
    {callback : Callback} (hsimple : step.IsSimple) (hmem : callback ∈ session.given host step) :
    isHarmless callback = true := by
  rcases mem_given hsimple hmem with hreports | rfl
  · exact isHarmless_of_onlyReports hreports
  · rfl

/-- Harmless callbacks are given to the app, and so all that wait remain harmless. -/
theorem AwaitsReady.take {session : Session σ} (h : session.AwaitsReady) (host : Host σ)
    {step : Step σ} (hsimple : step.IsSimple) :
    (session.take host step).AwaitsReady := by
  have hsettles := settles_take host h hsimple
  unfold Settles at hsettles
  -- A turn of the app leaves nothing waiting; without one a callback is added at most.
  split at hsettles
  · obtain ⟨-, hwaiting, -⟩ := hsettles
    exact ⟨fun _ => hwaiting, by simp [hwaiting]⟩
  · obtain ⟨-, hwaiting, -⟩ := hsettles
    exact ⟨fun _ => hwaiting, by simp [hwaiting]⟩
  · obtain ⟨hready, hsettles⟩ := hsettles
    split at hsettles
    · obtain ⟨hwaiting, -⟩ := hsettles
      constructor
      · intro hisReady
        rw [hwaiting]
        exact h.ready (hready.symm.trans hisReady)
      · rw [hwaiting]
        exact h.harmless
    · rename_i hisReady
      obtain ⟨hwaiting, -⟩ := hsettles
      constructor
      · intro hnow
        exact absurd (hready.symm.trans hnow) hisReady
      · rw [hwaiting]
        intro callback hmem
        rcases List.mem_append.mp hmem with hmem | hmem
        · exact h.harmless callback hmem
        · exact isHarmless_of_given hsimple hmem

/-! ### Histories -/

/-- What comes first in a history: that the app becomes ready, or that it is torn down. -/
def nextTurn? (steps : List (Step σ)) : Option Turn :=
  steps.findSome? Step.turn?

/-- What becomes of a callback. -/
inductive Fate
  | called
  | waits
  | dropped
  deriving DecidableEq

/-- What becomes of a callback that is given to an app, by what comes after it. -/
def fate (isReady : Bool) (later : List (Step σ)) : Fate :=
  if isReady then .called
  else match nextTurn? later with
    | some .ready => .called
    | some .tornDown => .dropped
    | none => .waits

/-- The callbacks with a fate among those that are given in the course of a history, in the order in
which they are given. -/
def withFate (wanted : Fate) (host : Host σ) : List (Step σ) → Session σ → List Callback
  | [], _ => []
  | step :: rest, session =>
    (if fate session.app.isReady rest = wanted then session.given host step else []) ++
      withFate wanted host rest (session.take host step)

/-- The callbacks that wait when the app is torn down. -/
def dropped (host : Host σ) : List (Step σ) → Session σ → List Callback
  | [], _ => []
  | step :: rest, session =>
    (if step.turn? = some .tornDown then session.app.waiting else []) ++
      dropped host rest (session.take host step)

/-- What becomes of all callbacks, those that wait in the beginning and those that are given in the
course of a history. The induction is on the history, and the first step decides about what waits
before it if it is a turn. -/
theorem withFate_after (host : Host σ) {steps : List (Step σ)}
    (hsimple : ∀ step ∈ steps, step.IsSimple) {session : Session σ} (h : session.AwaitsReady) :
    let old := fun wanted => if fate false steps = wanted then session.app.waiting else []
    let reached := session.after host steps
    reached.AwaitsReady ∧
      reached.callbackCalls = session.callbackCalls ++
        (old .called ++ withFate .called host steps session).flatMap callsOf ∧
      reached.app.waiting = old .waits ++ withFate .waits host steps session ∧
      dropped host steps session = old .dropped ++ withFate .dropped host steps session := by
  induction steps generalizing session with
  | nil => simp [h, fate, nextTurn?, withFate, dropped]
  | cons step rest ih =>
      obtain ⟨hstep, hrest⟩ := List.forall_mem_cons.mp hsimple
      obtain ⟨hawaits, hcalled, hwaits, hdropped⟩ := ih hrest (h.take host hstep)
      have hsettles := settles_take host h hstep
      unfold Settles at hsettles
      simp only [after_cons, withFate, dropped]
      refine ⟨hawaits, ?_⟩
      rw [hcalled, hwaits, hdropped]
      cases hturn : step.turn? with
      | some turn =>
          simp only [given_turn hturn]
          rw [hturn] at hsettles
          cases turn with
          | ready =>
              have hfate : fate false (step :: rest) = .called := by
                simp [fate, nextTurn?, hturn]
              obtain ⟨-, hwaiting, hcalls⟩ := hsettles
              simp [hwaiting, hcalls, hfate]
          | tornDown =>
              have hfate : fate false (step :: rest) = .dropped := by
                simp [fate, nextTurn?, hturn]
              obtain ⟨-, hwaiting, hcalls⟩ := hsettles
              simp [hwaiting, hcalls, hfate]
      | none =>
          have hfate : fate false (step :: rest) = fate false rest := by
            simp [fate, nextTurn?, hturn]
          rw [hturn] at hsettles
          obtain ⟨-, hsettles⟩ := hsettles
          cases hready : session.app.isReady with
          | true =>
              -- Nothing waits, and what is given is called.
              have hnone := h.ready hready
              have hnow : fate true rest = .called := rfl
              rw [if_pos hready] at hsettles
              obtain ⟨hwaiting, hcalls⟩ := hsettles
              simp [hwaiting, hcalls, hnone, hnow]
          | false =>
              -- What is given waits behind the rest, and has the same fate from now on.
              rw [if_neg (by simp [hready])] at hsettles
              obtain ⟨hwaiting, hcalls⟩ := hsettles
              simp only [hwaiting, hcalls, hfate]
              cases fate false rest <;> simp

/-! ### Launches -/

/-- Whether a callback completes the navigation that launched the app. -/
def completesLaunch : Callback → Bool
  | [.finishNavigation] => true
  | _ => false

/-- Whether a call completes the navigation that launched the app. -/
def Call.isFinish : Call → Bool
  | .finishNavigation => true
  | _ => false

/-- Whether a call closes the splash screen. -/
def Call.isSplash : Call → Bool
  | .closeSplash => true
  | _ => false

/-- The number of launches that a step goes on with. -/
def launchesBy (session : Session σ) (host : Host σ) : Step σ → Nat
  | .event (.register request) => (session.resumesLaunch host request).toNat
  | _ => 0

/-- The number of registrations in a history that go on with a launch. -/
def launches (host : Host σ) : List (Step σ) → Session σ → Nat
  | [], _ => 0
  | step :: rest, session =>
    session.launchesBy host step + launches host rest (session.take host step)

/-- In a simple history callbacks that complete a launch are given only by launches. -/
theorem count_given (session : Session σ) (host : Host σ) {step : Step σ}
    (hsimple : step.IsSimple) :
    (session.given host step).countP completesLaunch = session.launchesBy host step := by
  cases step with
  | hostMoves state => rfl
  | event event =>
  cases event with
  | nativePage | leave | addWebview | preload | takePreload => rfl
  | register request =>
      show (if session.resumesLaunch host request then _ else _ : List Callback).countP _ = _
      cases hresumes : session.resumesLaunch host request <;>
        simp [launchesBy, hresumes, completesLaunch]
  | perform actions =>
      rcases isSimple_perform hsimple with ⟨callback, rfl, hreports⟩ | rfl | rfl
      · have hother : completesLaunch callback = false := by
          unfold completesLaunch
          split
          · exact nomatch hreports
          · rfl
        simp [given, launchesBy, hother]
      · rfl
      · rfl

/-- A callback that is given makes one call that completes a launch, or none. -/
theorem count_callsOf {callback : Callback}
    (h : onlyReports callback = true ∨ callback = [.finishNavigation]) :
    (callsOf callback).countP Call.isFinish = (completesLaunch callback).toNat := by
  rcases h with hreports | rfl
  · have hnone : (callsOf callback).countP Call.isFinish = 0 := by
      rw [List.countP_eq_zero]
      intro call hmem
      obtain ⟨action, haction, hcall⟩ := List.mem_filterMap.mp hmem
      have hreport := List.all_eq_true.mp hreports action haction
      cases action with
      | report label =>
          obtain rfl := Option.some.inj hcall
          exact Bool.false_ne_true
      | _ => exact nomatch hreport
    rw [hnone]
    unfold completesLaunch
    split
    · exact nomatch hreports
    · rfl
  · rfl

/-- What is given in the course of a history only reports, or it completes a launch. -/
theorem mem_withFate (host : Host σ) {steps : List (Step σ)}
    (hsimple : ∀ step ∈ steps, step.IsSimple) {wanted : Fate} {session : Session σ}
    {callback : Callback} (hmem : callback ∈ withFate wanted host steps session) :
    onlyReports callback = true ∨ callback = [.finishNavigation] := by
  induction steps generalizing session with
  | nil => exact nomatch hmem
  | cons step rest ih =>
      obtain ⟨hstep, hrest⟩ := List.forall_mem_cons.mp hsimple
      rcases List.mem_append.mp hmem with hmem | hmem
      · split at hmem
        · exact mem_given hstep hmem
        · exact nomatch hmem
      · exact ih hrest hmem

/-- Each launch has given its callback, which has one of the three fates. -/
theorem count_withFate (host : Host σ) {steps : List (Step σ)}
    (hsimple : ∀ step ∈ steps, step.IsSimple) (session : Session σ) :
    (withFate .called host steps session).countP completesLaunch +
        (withFate .waits host steps session).countP completesLaunch +
        (withFate .dropped host steps session).countP completesLaunch =
      launches host steps session := by
  induction steps generalizing session with
  | nil => rfl
  | cons step rest ih =>
      obtain ⟨hstep, hrest⟩ := List.forall_mem_cons.mp hsimple
      have hgiven := count_given session host hstep
      have hlater := ih hrest (session.take host step)
      simp only [withFate, launches, List.countP_append]
      cases fate session.app.isReady rest <;> simp <;> omega

/-- The callbacks that are called complete the launches among them, each by one call. -/
theorem count_flatMap {callbacks : List Callback}
    (h : ∀ callback ∈ callbacks, onlyReports callback = true ∨ callback = [.finishNavigation]) :
    (callbacks.flatMap callsOf).countP Call.isFinish = callbacks.countP completesLaunch := by
  induction callbacks with
  | nil => rfl
  | cons callback rest ih =>
      obtain ⟨hcallback, hrest⟩ := List.forall_mem_cons.mp h
      rw [List.flatMap_cons, List.countP_append, ih hrest, count_callsOf hcallback,
        List.countP_cons, Nat.add_comm]
      cases completesLaunch callback <;> rfl

/-- The second session comes from the first by calls of callbacks, and the app is configured as
before. -/
def AddsCallbacks (before after : Session σ) : Prop :=
  after.app.config = before.app.config ∧ ∃ made, after.calls = before.calls ++ made ∧
    ∀ call ∈ made, call.isCallback = true

/-- Calls of callbacks behind calls of callbacks are just more of them. -/
theorem AddsCallbacks.trans {first second third : Session σ} (h : AddsCallbacks first second)
    (h' : AddsCallbacks second third) : AddsCallbacks first third := by
  obtain ⟨hconfig, made, hmade, hall⟩ := h
  obtain ⟨hconfig', more, hmore, hall'⟩ := h'
  refine ⟨hconfig'.trans hconfig, made ++ more, by simp [hmade, hmore], ?_⟩
  intro call hmem
  rcases List.mem_append.mp hmem with hmem | hmem
  · exact hall call hmem
  · exact hall' call hmem

/-- However many actions are done, the calls that they make are those of callbacks. -/
theorem performFor_addsCallbacks (host : Host σ) (steps : Nat) (actions : List Action)
    (session : Session σ) : AddsCallbacks session (performFor host steps actions session) := by
  have hone : ∀ before after : Session σ, ∀ call : Call, call.isCallback = true →
      after.app.config = before.app.config → after.calls = before.calls ++ [call] →
        AddsCallbacks before after := by
    intro before after call hcall hconfig hcalls
    exact ⟨hconfig, [call], hcalls, by simpa using hcall⟩
  have hnone : ∀ before after : Session σ, after.app.config = before.app.config →
      after.calls = before.calls → AddsCallbacks before after := by
    intro before after hconfig hcalls
    exact ⟨hconfig, [], by simp [hcalls], by simp⟩
  -- Every action makes one call of a callback, or none.
  fun_induction performFor host steps actions session with
  | case1 => exact hnone _ _ rfl rfl
  | case2 => exact hnone _ _ rfl rfl
  | case3 steps label rest session ih =>
      refine AddsCallbacks.trans ?_ ih
      exact hone _ _ (.report label) rfl rfl rfl
  | case4 steps rest session ih =>
      refine AddsCallbacks.trans ?_ ih
      exact hone _ _ .finishNavigation rfl rfl rfl
  | case5 steps rest session ih =>
      refine AddsCallbacks.trans ?_ ih
      exact hnone _ _ rfl rfl
  | case6 steps rest session ih =>
      refine AddsCallbacks.trans ?_ ih
      exact hnone _ _ rfl rfl
  | case7 steps callback rest session hready ih => exact ih
  | case8 steps callback rest session hready ih =>
      refine AddsCallbacks.trans ?_ ih
      exact hnone _ _ rfl rfl

/-- Whether a step asks for a page. -/
def Step.asksForPage : Step σ → Bool
  | .event (.register _) => true
  | _ => false

/-- Whether a call is made for a page that is asked for, and at no other time. -/
def Call.isForPage : Call → Bool
  | .finishNavigation | .attach .. | .report _ => false
  | _ => true

/-- A step that asks for no page makes no call that is made for one. Its calls are those of
callbacks, and the one that tells a native page about itself. -/
theorem calls_take_of_asksForPage (session : Session σ) (host : Host σ) {step : Step σ}
    (h : step.asksForPage = false) :
    ∃ made, (session.take host step).calls = session.calls ++ made ∧
      ∀ call ∈ made, call.isForPage = false := by
  cases step with
  | hostMoves state => exact ⟨[], (List.append_nil _).symm, List.forall_mem_nil _⟩
  | event event =>
  cases event with
  | leave | addWebview | preload | takePreload =>
      exact ⟨[], (List.append_nil _).symm, List.forall_mem_nil _⟩
  | register request => exact nomatch h
  | perform actions =>
      obtain ⟨-, made, hmade, hall⟩ := performFor_addsCallbacks host
        (Callback.size actions + Callback.size session.app.waiting.flatten) actions session
      refine ⟨made, hmade, fun call hmem => ?_⟩
      have hcall := hall call hmem
      cases call with
      | report | finishNavigation => rfl
      | _ => exact absurd hcall Bool.false_ne_true
  | nativePage placeholder number =>
      show ∃ made, (session.nativePageCreated host placeholder number).2.calls = _ ∧ _
      -- Only a placeholder that still holds its page has something told to the native page.
      by_cases hheld : ∃ webview page, session.placeholders[placeholder]? =
          some ⟨webview, some page⟩
      · obtain ⟨webview, page, hheld⟩ := hheld
        have hdelivery : Delivery.IsHeld session ⟨placeholder, number, webview, page⟩ := hheld
        rw [nativePageCreated_held host hdelivery]
        refine ⟨[.attach number webview page], rfl, fun call hmem => ?_⟩
        rw [List.mem_singleton.mp hmem]
        rfl
      · rw [nativePageCreated_unheld host hheld]
        exact ⟨[], (List.append_nil _).symm, List.forall_mem_nil _⟩

/-- No step changes how the app is configured. -/
theorem config_take (session : Session σ) (host : Host σ) (step : Step σ) :
    (session.take host step).app.config = session.app.config := by
  cases step with
  | hostMoves state => rfl
  | event event =>
  cases event with
  | leave | addWebview | preload | takePreload => rfl
  | register request => exact (register_launch session host request).1
  | perform actions => exact (performFor_addsCallbacks host _ actions session).1
  | nativePage placeholder number =>
      show (session.nativePageCreated host placeholder number).2.app.config = _
      rcases nativePageCreated_spec session host placeholder number with
        hsame | ⟨alive, webview, page, htakes⟩
      · rw [hsame]
      · rw [htakes.app, swap_eq_replace]

/-- Calls that are not made for a page hold none of a kind that is. -/
theorem filter_eq_nil_of_isForPage {kind : Call → Bool} {made : List Call}
    (hkind : ∀ call, kind call = true → call.isForPage = true)
    (h : ∀ call ∈ made, call.isForPage = false) : made.filter kind = [] := by
  rw [List.filter_eq_nil_iff]
  intro call hmem hcall
  exact absurd ((h call hmem).symm.trans (hkind call hcall)) Bool.false_ne_true

/-- Only a registration that goes on with a launch closes the splash screen, unless that has to
stay. -/
theorem splash_take (session : Session σ) (host : Host σ) (step : Step σ) :
    (session.take host step).calls.countP Call.isSplash = session.calls.countP Call.isSplash +
      session.launchesBy host step * (splashCalls session.app).length := by
  -- A step that asks for no page has nothing to do with a launch.
  cases hasks : step.asksForPage with
  | false =>
      have hlaunches : session.launchesBy host step = 0 := by
        unfold launchesBy
        split
        · exact nomatch hasks
        · rfl
      have hsplash : ∀ call : Call, call.isSplash = true → call.isForPage = true := by
        intro call hcall
        cases call with
        | closeSplash => rfl
        | _ => exact absurd hcall Bool.false_ne_true
      obtain ⟨made, hmade, hother⟩ := calls_take_of_asksForPage session host hasks
      have hnone : made.countP Call.isSplash = 0 := by
        rw [List.countP_eq_length_filter, filter_eq_nil_of_isForPage hsplash hother]
        rfl
      rw [hmade, List.countP_append, hnone, hlaunches, Nat.zero_mul]
  | true =>
  match step, hasks with
  | .event (.register request), _ =>
      obtain ⟨-, -, -, hcalls⟩ := register_launch session host request
      have hopening : ∀ call : Call, call.isOpening = true → call.isSplash = false := by
        intro call hcall
        cases call with
        | closeSplash => exact absurd hcall Bool.false_ne_true
        | _ => rfl
      have hmade := congrArg List.length (hcalls Call.isSplash hopening rfl)
      have hsplash : (splashCalls session.app).countP Call.isSplash =
          (splashCalls session.app).length := by
        unfold splashCalls
        split <;> rfl
      have hfinish : (if session.app.isReady then [Call.finishNavigation] else []).countP
          Call.isSplash = 0 := by
        split <;> rfl
      show (session.register host request).2.calls.countP _ = _
      rw [List.countP_eq_length_filter, hmade]
      cases hresumes : session.resumesLaunch host request with
      | false => simp [launchesBy, hresumes, List.countP_eq_length_filter]
      | true => simp [launchesBy, hresumes, ← List.countP_eq_length_filter, hsplash, hfinish]

/-- The splash screen is closed once for every launch, unless the configuration has it stay. -/
theorem splash_after (host : Host σ) (steps : List (Step σ)) (session : Session σ) :
    (session.after host steps).calls.countP Call.isSplash = session.calls.countP Call.isSplash +
      launches host steps session * (splashCalls session.app).length := by
  induction steps generalizing session with
  | nil => simp [launches]
  | cons step rest ih =>
      have hsame : splashCalls (session.take host step).app = splashCalls session.app := by
        unfold splashCalls
        rw [config_take]
      rw [after_cons, ih, splash_take, hsame, launches, Nat.add_mul, Nat.add_assoc]

/-! ### Every history of an app -/

/-- What becomes of the callbacks of an app, over any history of it. Nothing waits while the app is
ready. Of the callbacks that have been given, those have been called, in the order in which they
were given, that were given while the app was ready or whose next turn was that the app became
ready; those wait that have had no turn; and the others have been dropped by the app being torn
down. A callback that is given next is called at once or waits behind the others, and when the app
becomes ready, all that wait are called and none is left.

So each launch that a registration has gone on with has been completed, waits to be, or has been
dropped. And the splash screen has been closed once for each of them, unless it has to stay. -/
theorem callbacks_fate (host : Host σ) (config : Config) (state : σ) (steps : List (Step σ))
    (hsimple : ∀ step ∈ steps, step.IsSimple) :
    let start : Session σ := { app := .initial config, host := state }
    let reached := start.after host steps
    (reached.app.isReady = true → reached.app.waiting = []) ∧
    (reached.callbackCalls = (withFate .called host steps start).flatMap callsOf ∧
      reached.app.waiting = withFate .waits host steps start ∧
      dropped host steps start = withFate .dropped host steps start) ∧
    (∀ callback, onlyReports callback = true →
      let given := reached.whenReady host callback
      if reached.app.isReady then
        given.app = reached.app ∧ given.calls = reached.calls ++ callsOf callback
      else
        given = reached.modifyApp fun app =>
          { app with waiting := app.waiting ++ [callback] }) ∧
    ((reached.becomeReady host).app = { reached.app with isReady := true, waiting := [] } ∧
      (reached.becomeReady host).calls =
        reached.calls ++ reached.app.waiting.flatMap callsOf) ∧
    reached.calls.countP Call.isFinish + reached.app.waiting.countP completesLaunch +
        (dropped host steps start).countP completesLaunch = launches host steps start ∧
    reached.calls.countP Call.isSplash =
      if config.splash.autoclose && !config.splash.alwaysShowBeforeRender then
        launches host steps start else 0 := by
  intro start reached
  have hstart : start.AwaitsReady := ⟨fun _ => rfl, nofun⟩
  obtain ⟨hawaits, hcalled, hwaits, hdropped⟩ := withFate_after host hsimple hstart
  -- Nothing waits in the beginning, and no call has been made.
  have hold : ∀ wanted, (if fate false steps = wanted then start.app.waiting else []) = [] := by
    intro wanted
    split <;> rfl
  simp only [hold, List.nil_append] at hcalled hwaits hdropped
  have hcalled : reached.callbackCalls = (withFate .called host steps start).flatMap callsOf :=
    hcalled
  refine ⟨hawaits.ready, ⟨hcalled, hwaits, hdropped⟩, ?_, ?_, ?_, ?_⟩
  · intro callback hreports
    exact whenReady_harmless reached host (isHarmless_of_onlyReports hreports)
  · exact becomeReady_harmless host hawaits.harmless
  · have hfinish : reached.calls.countP Call.isFinish =
        reached.callbackCalls.countP Call.isFinish := by
      rw [callbackCalls, List.countP_filter]
      congr 1
      funext call
      cases call <;> rfl
    have hgiven : ∀ callback ∈ withFate .called host steps start,
        onlyReports callback = true ∨ callback = [.finishNavigation] :=
      fun callback hmem => mem_withFate host hsimple hmem
    rw [hfinish, hcalled, count_flatMap hgiven, hwaits, hdropped]
    exact count_withFate host hsimple start
  · have hclosed : reached.calls.countP Call.isSplash =
        0 + launches host steps start * (splashCalls start.app).length :=
      splash_after host steps start
    rw [hclosed]
    show _ + _ * (if config.splash.autoclose && !config.splash.alwaysShowBeforeRender then
      [Call.closeSplash] else []).length = _
    split <;> simp

/-! ### An app that is launched twice -/

open Simulation (Platform)

/-- The app is launched in a native page and becomes ready, and then it is torn down, launched again
and torn down once more. -/
def launchedTwice : List (Step Platform) :=
  [.event (.addWebview { id := 1 }),
    .event (.register { Tracked.nativeRequest with webview := some 0 }),
    .event (.perform [.whenReady [.report (.string "loaded")]]), .event (.perform [.becomeReady]),
    .event (.perform [.tearDown]),
    .event (.register { Tracked.nativeRequest with webview := some 0 }),
    .event (.perform [.tearDown])]

/-- The app before any of that. -/
def beforeLaunch : Session Platform :=
  { app := .initial {}, host := Tracked.nativePlatform }

/-- The first launch is completed, the second one is dropped. -/
theorem callbacks_launchedTwice :
    (∀ step ∈ launchedTwice, step.IsSimple) ∧
      launches Platform.host launchedTwice beforeLaunch = 2 ∧
      (dropped Platform.host launchedTwice beforeLaunch).countP completesLaunch = 1 ∧
      (beforeLaunch.after Platform.host launchedTwice).callbackCalls =
        [.finishNavigation, .report (.string "loaded")] := by
  have hsimple : ∀ step ∈ launchedTwice, step.IsSimple := by
    simp [launchedTwice, Step.IsSimple, onlyReports]
  have hfates : withFate .called Platform.host launchedTwice beforeLaunch =
      [[.finishNavigation], [.report (.string "loaded")]] := rfl
  obtain ⟨-, ⟨hcalled, -, -⟩, -⟩ :=
    callbacks_fate Platform.host {} Tracked.nativePlatform launchedTwice hsimple
  refine ⟨hsimple, by decide, by decide, hcalled.trans ?_⟩
  show (withFate .called Platform.host launchedTwice beforeLaunch).flatMap callsOf = _
  rw [hfates]
  rfl

end MiniApp.Session
