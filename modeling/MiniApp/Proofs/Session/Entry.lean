import MiniApp.Proofs.Session.Callbacks
import MiniApp.Proofs.Session.RenderedOnce
import MiniApp.Proofs.Session.Teardown

/-!
# The entry of an app

The first page that comes with a webview of its own has the entry of the app initialised. A mark
says that this has been done, and it stands outside of the app: an app that is torn down keeps its
entry. The entry comes before everything else that a request asks for, whatever becomes of the
request then.

* `register_enters`: a request that brings a webview is served as if the entry had been initialised
  before it came.
* `entry_take`: what a step does to the mark, and that its first call may be the one for the entry
  but no other.
* `entry_initialisedOnce`: both over any history, of a session whose entry has not been initialised.
-/

set_option autoImplicit false

namespace MiniApp.Session

open MiniApp.App MiniApp.Page

variable {σ : Type}

/-- Whether the call has the entry initialised. -/
def Call.isEntry : Call → Bool
  | .initEntry => true
  | _ => false

/-- Whether a step registers a page with a webview that comes with the request. -/
def Step.handsOver : Step σ → Bool
  | .event (.register request) => request.webview.isSome
  | _ => false

/-! ### The mark -/

/-- The session with its entry initialised, which is the next thing that the host is asked for. -/
def withEntry (session : Session σ) (host : Host σ) : Session σ :=
  { session with
    isEntered := true
    host := (host.initEntry.run session.host).2
    calls := session.calls ++ [.initEntry] }

/-- The entry is initialised the first time. -/
theorem enter_eq {session : Session σ} (host : Host σ) (h : session.isEntered = false) :
    session.enter host = session.withEntry host := by
  unfold enter
  rw [h]
  rfl

/-- A request that is the first to bring a webview is served as if the entry had been initialised
before. -/
theorem register_enters {session : Session σ} (host : Host σ) {request : Request}
    (hgiven : request.webview.isSome = true) (h : session.isEntered = false) :
    session.register host request = (session.withEntry host).register host request := by
  -- once the mark is set, the entry is not initialised again
  have hsecond : (session.withEntry host).enter host = session.withEntry host := rfl
  unfold register
  rw [if_pos hgiven, if_pos hgiven, enter_eq host h, hsecond]

/-- When a request is served, the entry has been initialised if it had been before or if a webview
comes with the request. -/
theorem isEntered_entered (session : Session σ) (host : Host σ) (request : Request) :
    (session.entered host request).isEntered =
      (session.isEntered || request.webview.isSome) := by
  unfold entered enter
  cases request.webview.isSome <;> cases h : session.isEntered <;> simp [h]

/-- Callbacks do not initialise the entry. -/
theorem isEntered_performFor (host : Host σ) (steps : Nat) (actions : List Action)
    (session : Session σ) :
    (performFor host steps actions session).isEntered = session.isEntered := by
  fun_induction performFor host steps actions session with
  | case1 | case2 => rfl
  | case3 _ _ _ _ ih | case4 _ _ _ ih | case5 _ _ _ ih | case6 _ _ _ ih => exact ih
  | case7 _ _ _ _ _ ih | case8 _ _ _ _ _ ih => exact ih

/-- Nor does a launch that goes on. -/
theorem isEntered_resumeLaunch (session : Session σ) (host : Host σ) (webview : Nat) :
    (session.resumeLaunch host webview).isEntered = session.isEntered := by
  unfold resumeLaunch
  split
  · refine (isEntered_performFor host _ _ _).trans ?_
    unfold closeSplash
    dsimp only
    split <;> rfl
  · rfl

/-- Nor do the steps that lead up to a page being shown. -/
theorem isEntered_prepare (session : Session σ) (host : Host σ) (request : Request)
    (given : Option Nat) :
    (session.prepare host request given).2.2.2.isEntered = session.isEntered := by
  refine (isEntered_resumeLaunch _ host _).trans ?_
  show (joinTabBar _ _ _).isEntered = _
  unfold joinTabBar
  cases given <;> split <;> rfl

/-- Opening a page leaves the mark as it is. -/
theorem isEntered_openPage (session : Session σ) (host : Host σ) (request : Request)
    (given : Option Nat) :
    (session.openPage host request given).2.isEntered = session.isEntered := by
  rw [openPage_eq]
  refine Eq.trans ?_ (isEntered_prepare session host request given)
  dsimp only
  unfold showPage
  split
  · rfl
  · unfold pushPage
    dsimp only
    split <;> rfl

/-- A request with a webview of its own sets the mark, and nothing takes it away. -/
theorem isEntered_register (session : Session σ) (host : Host σ) (request : Request) :
    (session.register host request).2.isEntered =
      (session.isEntered || request.webview.isSome) := by
  rw [← isEntered_entered session host request]
  rcases register_cases session host request with ⟨webview, page, -, heq⟩ | ⟨-, heq⟩
  · rw [heq]
    rfl
  · rw [heq, isEntered_openPage]

/-! ### One step and many -/

/-- The call for the entry that a step makes: one if the step hands a webview over and the entry has
not been initialised. -/
def entryCall (isEntered handsOver : Bool) : List Call :=
  if !isEntered && handsOver then [.initEntry] else []

/-- Opening a page has no entry initialised. -/
theorem Opens.filter_isEntry {session : Session σ} {host : Host σ} {request : Request}
    {resolved : RouteOptions × σ} {given : Option Nat} {opened : Nat × Session σ}
    {made : List Call} {entry : Entry}
    (h : Opens session host request resolved given opened made entry) :
    made.filter Call.isEntry = [] := by
  have hopening : ∀ call : Call, call.isOpening = true → call.isEntry = false := by
    intro call hcall
    cases call with
    | initEntry => exact absurd hcall Bool.false_ne_true
    | _ => rfl
  rw [h.steps.filter_made hopening]
  unfold launchCalls splashCalls
  split
  · split <;> split <;> rfl
  · rfl

/-- A registration asks for the entry first, if it asks for it at all. -/
theorem calls_register (session : Session σ) (host : Host σ) (request : Request) :
    ∃ made, (session.register host request).2.calls =
        session.calls ++ entryCall session.isEntered request.webview.isSome ++ made ∧
      made.filter Call.isEntry = [] := by
  have hentry : session.entryCalls request =
      entryCall session.isEntered request.webview.isSome := by
    rw [entryCalls, entryCall, Bool.and_comm]
  rw [← hentry]
  by_cases hback : ∃ webview page, session.Reuses request.url webview page
  · obtain ⟨webview, page, hreuses⟩ := hback
    obtain ⟨-, -, -, -, hcalls⟩ := register_of_reuses host hreuses
    exact ⟨[], by rw [hcalls, List.append_nil], rfl⟩
  · obtain ⟨given, made, entry, -, -, hcalls, hopens⟩ := register_of_not_reuses host hback
    exact ⟨made, hcalls, hopens.filter_isEntry⟩

/-- A step that asks for no page leaves the mark as it is. -/
theorem isEntered_take_of_asksForPage (session : Session σ) (host : Host σ) {step : Step σ}
    (h : step.asksForPage = false) :
    (session.take host step).isEntered = session.isEntered := by
  cases step with
  | hostMoves state => rfl
  | event event =>
  cases event with
  | leave | addWebview | preload | takePreload => rfl
  | register request => exact nomatch h
  | perform actions => exact isEntered_performFor host _ actions session
  | nativePage placeholder number =>
      show (session.nativePageCreated host placeholder number).2.isEntered = _
      unfold nativePageCreated keepPage
      split
      · dsimp only
        split <;> rfl
      · rfl

/-- A step sets the mark if it hands a webview over. Its first call has the entry initialised if the
mark is new, and no other one has. -/
theorem entry_take (session : Session σ) (host : Host σ) (step : Step σ) :
    (session.take host step).isEntered = (session.isEntered || step.handsOver) ∧
      ∃ made, (session.take host step).calls =
          session.calls ++ entryCall session.isEntered step.handsOver ++ made ∧
        made.filter Call.isEntry = [] := by
  -- A step that asks for no page neither hands a webview over nor initialises the entry.
  cases hasks : step.asksForPage with
  | false =>
      have hkeeps : step.handsOver = false := by
        unfold Step.handsOver
        split
        · exact nomatch hasks
        · rfl
      have hentry : ∀ call : Call, call.isEntry = true → call.isForPage = true := by
        intro call hcall
        cases call with
        | initEntry => rfl
        | _ => exact absurd hcall Bool.false_ne_true
      obtain ⟨made, hmade, hother⟩ := calls_take_of_asksForPage session host hasks
      rw [hkeeps, Bool.or_false, entryCall, Bool.and_false, if_neg Bool.false_ne_true,
        List.append_nil]
      exact ⟨isEntered_take_of_asksForPage session host hasks, made, hmade,
        filter_eq_nil_of_isForPage hentry hother⟩
  | true =>
  match step, hasks with
  | .event (.register request), _ =>
      exact ⟨isEntered_register session host request, calls_register session host request⟩

/-- Over a history the entry is initialised once if a webview is handed over and the mark was not
set, and otherwise not at all. -/
theorem entry_after (host : Host σ) (steps : List (Step σ)) (session : Session σ) :
    (session.after host steps).isEntered = (session.isEntered || steps.any Step.handsOver) ∧
      ∃ made, (session.after host steps).calls = session.calls ++ made ∧
        made.filter Call.isEntry = entryCall session.isEntered (steps.any Step.handsOver) := by
  induction steps generalizing session with
  | nil => exact ⟨(Bool.or_false _).symm, [], (List.append_nil _).symm, by simp [entryCall]⟩
  | cons step rest ih =>
      obtain ⟨hmark, made, hmade, hnone⟩ := entry_take session host step
      obtain ⟨hmarked, more, hmore, hrest⟩ := ih (session.take host step)
      rw [after_cons, List.any_cons]
      refine ⟨by rw [hmarked, hmark, Bool.or_assoc], ?_⟩
      refine ⟨entryCall session.isEntered step.handsOver ++ made ++ more, ?_, ?_⟩
      · rw [hmore, hmade]
        simp only [List.append_assoc]
      · -- whether the step or one behind it makes the call, there is one
        rw [List.filter_append, List.filter_append, hnone, hrest, hmark]
        cases session.isEntered <;> cases step.handsOver <;> simp [entryCall, Call.isEntry]

/-! ### Every history -/

/-- The entry of an app is initialised once in any history in which a webview is handed over, and
never in one where none is. The first request that hands one over begins with it: it is served, for
all that it looks up, resolves and creates, as if the host had initialised the entry before, and
nothing has been asked for in between. So it is where the page of a preloaded webview is put back
and nothing else is asked for. -/
theorem entry_initialisedOnce (host : Host σ) (session : Session σ)
    (hnew : session.isEntered = false) (steps : List (Step σ)) :
    let reached := session.after host steps
    (reached.calls.drop session.calls.length).filter Call.isEntry =
        (if steps.any Step.handsOver then [.initEntry] else []) ∧
    ∀ before request rest, steps = before ++ .event (.register request) :: rest →
      before.any Step.handsOver = false → request.webview.isSome = true →
        let earlier := session.after host before
        (earlier.calls.drop session.calls.length).filter Call.isEntry = [] ∧
        earlier.register host request = (earlier.withEntry host).register host request ∧
        earlier.calls ++ [.initEntry] <+: (earlier.register host request).2.calls ∧
        (earlier.register host request).2.calls <+: reached.calls ∧
        ∀ webview page, earlier.Reuses request.url webview page →
          (earlier.register host request).2.calls = earlier.calls ++ [.initEntry] := by
  intro reached
  obtain ⟨-, made, hmade, hentry⟩ := entry_after host steps session
  refine ⟨?_, ?_⟩
  · show ((session.after host steps).calls.drop session.calls.length).filter _ = _
    rw [hmade, List.drop_left, hentry, hnew]
    rfl
  rintro before request rest rfl hnone hgiven earlier
  obtain ⟨hmark, former, hformer, hsilent⟩ := entry_after host before session
  rw [hnew, hnone] at hmark hsilent
  have hmark : earlier.isEntered = false := hmark
  obtain ⟨own, hown, -⟩ := calls_register earlier host request
  rw [hmark, hgiven] at hown
  have hreached : reached = (earlier.register host request).2.after host rest := by
    show (before ++ .event (.register request) :: rest).foldl _ session = _
    rw [List.foldl_append]
    rfl
  refine ⟨?_, register_enters host hgiven hmark, ?_, ?_, ?_⟩
  · show ((session.after host before).calls.drop session.calls.length).filter _ = _
    rw [hformer, List.drop_left]
    exact hsilent
  · rw [hown]
    exact List.prefix_append _ _
  · obtain ⟨-, later, hlater, -⟩ := entry_after host rest (earlier.register host request).2
    rw [hreached, hlater]
    exact List.prefix_append _ _
  · intro webview page hreuses
    obtain ⟨-, -, -, -, hcalls⟩ := register_of_reuses host hreuses
    rw [hcalls, entryCalls, hmark, hgiven]
    rfl

/-! ### A webview that is not used -/

open Simulation (Platform)

/-- A page is visited in its preloaded webview and left. Then it is asked for with a webview of its
own, and the page is put back in the preloaded one. -/
def handsOverUnused : List (Step Platform) :=
  [.event (.addWebview { id := 7 }), .event (.preload plainRequest.url 0),
    .event (.register plainRequest), .event (.leave (.page 0)),
    .event (.addWebview { id := 8 })]

/-- The entry is initialised by the request whose webview is not used, which asks for nothing else,
and not again by one behind a teardown. -/
theorem entry_handsOverUnused :
    let session := started {} Tracked.nativePlatform
    let earlier := session.after Platform.host handsOverUnused
    let request := { plainRequest with webview := some 1 }
    let later : List (Step Platform) := [.event (.perform [.tearDown]), .event (.register request)]
    let steps := handsOverUnused ++ .event (.register request) :: later
    session.isEntered = false ∧ earlier.Reuses request.url 0 (.page 0) ∧
      (earlier.register Platform.host request).2.calls = earlier.calls ++ [.initEntry] ∧
      ((session.after Platform.host steps).calls.drop session.calls.length).filter Call.isEntry =
        [.initEntry] := by
  intro session earlier request later steps
  have hreuses : earlier.Reuses request.url 0 (.page 0) := ⟨by decide, by decide, by decide⟩
  obtain ⟨honce, hfirst⟩ := entry_initialisedOnce Platform.host session rfl steps
  obtain ⟨-, -, -, -, hreused⟩ :=
    hfirst handsOverUnused request later rfl (by decide) (by decide)
  refine ⟨rfl, hreuses, ?_, honce.trans (if_pos (by decide))⟩
  dsimp only [earlier]
  exact hreused 0 (.page 0) hreuses

end MiniApp.Session
