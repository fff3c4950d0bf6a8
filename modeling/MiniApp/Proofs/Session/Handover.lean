import MiniApp.Proofs.Session.History

/-!
# What a placeholder hands over

A registration of a native page leaves behind a placeholder with the page as it was opened. The
native page comes at some later time, when other entries of the stack may have come and gone, the
webview may be dead, and the app may have been torn down; and the platform may report it twice.

* `placeholder_take`: nothing but a native page for it touches what a placeholder holds.
* `toldFor_held`: so the first native page for it, however late, is told what the registration put
  there, and no other one is told anything.
* `takeOver_once`: this, with what such a page changes of the session when it comes.
-/

set_option autoImplicit false

namespace MiniApp.Session

open MiniApp.App MiniApp.Page

variable {σ : Type}

/-! ### What a registration leaves to its native page -/

/-- How a page was opened that is registered, as the host says when it is asked in the course of the
registration. -/
def instanceFor (session : Session σ) (host : Host σ) (request : Request) : Instance :=
  ((session.entered host request).prepare host request (session.offered request)).2.2.1

/-- A registration adds no placeholder or one. That one is on top of the page stack, and holds the
webview that the registration answers with and the instance that it has asked the host for. -/
theorem register_placeholders (session : Session σ) (host : Host σ) (request : Request) :
    let registered := session.register host request
    registered.2.placeholders = session.placeholders ∨
      registered.2.placeholders = session.placeholders ++
          [⟨registered.1, some (session.instanceFor host request)⟩] ∧
        registered.2.app.pages =
          session.app.pages ++ [.placeholder session.placeholders.length] ∧
        ∃ settings state,
          .createInstance request.openType request.url request.query settings ∈
              registered.2.calls.drop session.calls.length ∧
            session.instanceFor host request = ((host.createInstance request.openType request.url
              request.query settings).run state).1 := by
  obtain ⟨happ, -, hplaceholders, hcalls⟩ := entered_spec session host request
  rcases register_cases session host request with ⟨webview, page, -, hanswer⟩ | ⟨-, hanswer⟩
  · refine Or.inl ?_
    show (session.register host request).2.placeholders = _
    rw [hanswer]
    exact hplaceholders
  obtain ⟨provided, webviews, route, -, -, -, hmade, hprepared, -, hsame, -⟩ :=
    prepare_spec (session.entered host request) host request (session.offered request)
  have hinstance : ∃ state, session.instanceFor host request =
      ((host.createInstance request.openType request.url request.query
        ((session.entered host request).prepare host request
          (session.offered request)).2.1).run state).1 := ⟨_, rfl⟩
  rw [openPage_eq] at hanswer
  unfold instanceFor at hinstance ⊢
  generalize (session.entered host request).prepare host request (session.offered request) =
    prepared at *
  obtain ⟨webview, settings, page, ready⟩ := prepared
  dsimp only at *
  rw [hanswer]
  rcases showPage_shown ready host request settings webview page with
    ⟨-, hshown, hadded, hsilent, -⟩ | ⟨-, created, hshown, hadded, -⟩
  · -- The placeholder comes behind those that there were when the registration began.
    have hready : ready.placeholders = session.placeholders := hsame.trans hplaceholders
    obtain ⟨state, hpage⟩ := hinstance
    refine Or.inr ⟨by rw [hadded, hready], ?_, settings, state, ?_, hpage⟩
    · rw [hshown, hready, hprepared, ← happ]
      rfl
    · rw [hsilent, hmade, hcalls]
      simp
  · exact Or.inl (hadded.trans (hsame.trans hplaceholders))

/-! ### What happens to a placeholder -/

/-- The native page that comes for a placeholder in a step. -/
def Step.comer? (placeholder : Nat) : Step σ → Option Nat
  | .event (.nativePage other number) => if other = placeholder then some number else none
  | _ => none

/-- A native page comes for a placeholder only in the event that says so. -/
theorem comer?_eq_some {placeholder number : Nat} {step : Step σ}
    (h : step.comer? placeholder = some number) :
    step = .event (.nativePage placeholder number) := by
  unfold Step.comer? at h
  grind

/-- The native pages that come for a placeholder in the course of a history. -/
def comers (placeholder : Nat) (steps : List (Step σ)) : List Nat :=
  steps.filterMap (Step.comer? placeholder)

/-- A placeholder is touched only by a native page that comes for it. -/
theorem placeholder_take {session : Session σ} (host : Host σ) {step : Step σ} {placeholder : Nat}
    {held : Placeholder} (hother : step.comer? placeholder = none)
    (h : session.placeholders[placeholder]? = some held) :
    (session.take host step).placeholders[placeholder]? = some held := by
  cases step with
  | hostMoves state => exact h
  | event event =>
      show (session.handle host event).placeholders[placeholder]? = some held
      cases handle_outcome session host event with
      | quiet other kept placeholders => rw [placeholders, h]
      | putsBack webview page reuses answer pages webviews placeholders => rw [placeholders, h]
      | shows webview created page made opening asked kept recorded placeholders =>
          rw [placeholders, h]
      | waits webview page made opening native kept placeholders =>
          obtain ⟨hlt, -⟩ := List.getElem?_eq_some_iff.mp h
          rw [placeholders, List.getElem?_append_left hlt, h]
      | @arrives other number _ webview page held kept recorded placeholders =>
          have hne : other ≠ placeholder := by
            rintro rfl
            simp [Step.comer?] at hother
          rw [placeholders, List.getElem?_set_ne hne, h]

/-- A native page empties the placeholder for which it comes. -/
theorem placeholder_arrived {session : Session σ} (host : Host σ) {placeholder webview : Nat}
    {page : Option Instance} (number : Nat)
    (h : session.placeholders[placeholder]? = some ⟨webview, page⟩) :
    (session.nativePageCreated host placeholder number).2.placeholders[placeholder]? =
      some ⟨webview, none⟩ := by
  cases page with
  | none =>
      have hunheld : ¬ ∃ webview page, session.placeholders[placeholder]? =
          some ⟨webview, some page⟩ := by simp [h]
      rw [nativePageCreated_unheld host hunheld, h]
  | some page =>
      obtain ⟨hlt, -⟩ := List.getElem?_eq_some_iff.mp h
      have hheld : Delivery.IsHeld session ⟨placeholder, number, webview, page⟩ := h
      rw [nativePageCreated_held host hheld]
      exact List.getElem?_set_self hlt

/-- An empty placeholder stays empty. -/
theorem emptied_take {session : Session σ} (host : Host σ) (step : Step σ)
    {placeholder webview : Nat} (h : session.placeholders[placeholder]? = some ⟨webview, none⟩) :
    (session.take host step).placeholders[placeholder]? = some ⟨webview, none⟩ := by
  cases hcomer : step.comer? placeholder with
  | none => exact placeholder_take host hcomer h
  | some number =>
      obtain rfl := comer?_eq_some hcomer
      exact placeholder_arrived host number h

/-! ### What native pages are told -/

/-- What a native page is told that comes in a step, with the placeholder for which it comes. -/
def toldBy (session : Session σ) (host : Host σ) : Step σ → List (Nat × Call)
  | .event (.nativePage placeholder number) =>
    let made := (session.nativePageCreated host placeholder number).2.calls.drop
      session.calls.length
    made.map fun call => (placeholder, call)
  | _ => []

/-- What all native pages are told that come in the course of a history. -/
def told (host : Host σ) : List (Step σ) → Session σ → List (Nat × Call)
  | [], _ => []
  | step :: rest, session => session.toldBy host step ++ told host rest (session.take host step)

/-- What native pages are told that come for a placeholder. -/
def toldFor (host : Host σ) (placeholder : Nat) (steps : List (Step σ)) (session : Session σ) :
    List Call :=
  ((told host steps session).filter fun told => told.1 = placeholder).map Prod.snd

/-- Whether a native page is told how it was opened. -/
def Call.isAttach : Call → Bool
  | .attach .. => true
  | _ => false

/-- A native page that comes for a placeholder which still holds its page is told how that was
opened. -/
theorem toldBy_held {session : Session σ} (host : Host σ) {placeholder webview : Nat}
    {page : Instance} (number : Nat)
    (h : session.placeholders[placeholder]? = some ⟨webview, some page⟩) :
    session.toldBy host (.event (.nativePage placeholder number)) =
      [(placeholder, .attach number webview page)] := by
  have hheld : Delivery.IsHeld session ⟨placeholder, number, webview, page⟩ := h
  simp [toldBy, nativePageCreated_held host hheld, arrived, Delivery.call]

/-- One that comes for any other placeholder is told nothing. -/
theorem toldBy_unheld {session : Session σ} (host : Host σ) {placeholder : Nat} (number : Nat)
    (h : ¬ ∃ webview page, session.placeholders[placeholder]? = some ⟨webview, some page⟩) :
    session.toldBy host (.event (.nativePage placeholder number)) = [] := by
  simp [toldBy, nativePageCreated_unheld host h]

/-- A step in which nothing comes for a placeholder tells nothing on its behalf. -/
theorem filter_toldBy {session : Session σ} (host : Host σ) {step : Step σ} {placeholder : Nat}
    (h : step.comer? placeholder = none) :
    (session.toldBy host step).filter (fun told => told.1 = placeholder) = [] := by
  rw [List.filter_eq_nil_iff]
  intro told hmem
  unfold toldBy at hmem
  split at hmem
  · obtain ⟨call, -, rfl⟩ := List.mem_map.mp hmem
    unfold Step.comer? at h
    grind
  · exact nomatch hmem

/-- What is told for a placeholder is told in the first step or later. -/
theorem toldFor_cons (host : Host σ) (placeholder : Nat) (step : Step σ) (rest : List (Step σ))
    (session : Session σ) :
    toldFor host placeholder (step :: rest) session =
      ((session.toldBy host step).filter fun told => told.1 = placeholder).map Prod.snd ++
        toldFor host placeholder rest (session.take host step) := by
  simp [toldFor, told]

/-- No native page is told anything on behalf of an empty placeholder. -/
theorem toldFor_emptied (host : Host σ) {placeholder webview : Nat} (steps : List (Step σ))
    {session : Session σ} (h : session.placeholders[placeholder]? = some ⟨webview, none⟩) :
    toldFor host placeholder steps session = [] := by
  induction steps generalizing session with
  | nil => rfl
  | cons step rest ih =>
      rw [toldFor_cons, ih (emptied_take host step h), List.append_nil, List.map_eq_nil_iff]
      cases hcomer : step.comer? placeholder with
      | none => exact filter_toldBy host hcomer
      | some number =>
          obtain rfl := comer?_eq_some hcomer
          rw [toldBy_unheld host number (by simp [h])]
          rfl

/-- The first native page for a placeholder is told what the placeholder holds, however late it
comes, and no other one is told anything. -/
theorem toldFor_held (host : Host σ) {placeholder webview : Nat} {page : Instance}
    (steps : List (Step σ)) {session : Session σ}
    (h : session.placeholders[placeholder]? = some ⟨webview, some page⟩) :
    match comers placeholder steps with
    | [] => toldFor host placeholder steps session = [] ∧
        (session.after host steps).placeholders[placeholder]? = some ⟨webview, some page⟩
    | first :: _ => toldFor host placeholder steps session = [.attach first webview page] ∧
        (session.after host steps).placeholders[placeholder]? = some ⟨webview, none⟩ := by
  induction steps generalizing session with
  | nil => exact ⟨rfl, h⟩
  | cons step rest ih =>
      rw [toldFor_cons, after_cons]
      cases hcomer : step.comer? placeholder with
      | none =>
          -- The placeholder is left alone, so that it still holds everything for the rest.
          have hrest := ih (placeholder_take host hcomer h)
          rw [filter_toldBy host hcomer]
          simpa [comers, List.filterMap_cons, hcomer] using hrest
      | some number =>
          obtain rfl := comer?_eq_some hcomer
          have hemptied : (session.take host (.event (.nativePage placeholder
              number))).placeholders[placeholder]? = some ⟨webview, none⟩ :=
            placeholder_arrived host number h
          have hstays : ∀ (reached : Session σ) (step : Step σ),
              reached.placeholders[placeholder]? = some ⟨webview, none⟩ →
                (reached.take host step).placeholders[placeholder]? = some ⟨webview, none⟩ :=
            fun reached step => emptied_take host step
          simp only [comers, List.filterMap_cons, hcomer]
          rw [toldBy_held host number h, toldFor_emptied host rest hemptied]
          exact ⟨by simp, after_keeps hstays rest hemptied⟩

/-- On behalf of one placeholder at most one native page is told anything, also where the
placeholder is registered only in the course of the history. -/
theorem length_toldFor (host : Host σ) (placeholder : Nat) (steps : List (Step σ))
    (session : Session σ) : (toldFor host placeholder steps session).length ≤ 1 := by
  induction steps generalizing session with
  | nil => exact Nat.zero_le 1
  | cons step rest ih =>
      rcases hplaceholder : session.placeholders[placeholder]? with _ | ⟨webview, _ | page⟩
      -- There is no such placeholder yet, so that the first step tells nothing.
      · have hunheld : ¬ ∃ webview page, session.placeholders[placeholder]? =
            some ⟨webview, some page⟩ := by simp [hplaceholder]
        have hsilent :
            (session.toldBy host step).filter (fun told => told.1 = placeholder) = [] := by
          cases hcomer : step.comer? placeholder with
          | none => exact filter_toldBy host hcomer
          | some number =>
              obtain rfl := comer?_eq_some hcomer
              rw [toldBy_unheld host number hunheld]
              rfl
        rw [toldFor_cons, hsilent]
        exact ih (session.take host step)
      · simp [toldFor_emptied host (step :: rest) hplaceholder]
      · have hheld := toldFor_held host (step :: rest) hplaceholder
        split at hheld
        · simp [hheld.1]
        · simp [hheld.1]

/-- Plain calls tell no native page anything. -/
theorem filter_plain {made : List Call} (h : ∀ call ∈ made, call.isPlain) :
    made.filter Call.isAttach = [] := by
  rw [List.filter_eq_nil_iff]
  intro call hmem
  have hplain := h call hmem
  cases call with
  | attach => exact nomatch hplain
  | _ => exact Bool.false_ne_true

/-- What native pages are told in a step is all that is on record about it. -/
theorem attaches_take (session : Session σ) (host : Host σ) (step : Step σ) :
    (session.take host step).calls.filter Call.isAttach =
      session.calls.filter Call.isAttach ++ (session.toldBy host step).map Prod.snd := by
  -- all steps but the arrival of a native page put calls of other kinds on record
  have hsilent : ∀ {after : Session σ}, (∃ made, after.calls = session.calls ++ made ∧
      made.filter Call.isAttach = []) →
        after.calls.filter Call.isAttach = session.calls.filter Call.isAttach ++ [] := by
    rintro after ⟨made, hmade, hnone⟩
    rw [hmade, List.filter_append, hnone]
  cases step with
  | hostMoves state => exact (List.append_nil _).symm
  | event event =>
  cases event with
  | nativePage placeholder number =>
      by_cases hheld : ∃ webview page, session.placeholders[placeholder]? =
          some ⟨webview, some page⟩
      · obtain ⟨webview, page, hheld⟩ := hheld
        have hdelivery : Delivery.IsHeld session ⟨placeholder, number, webview, page⟩ := hheld
        show (session.nativePageCreated host placeholder number).2.calls.filter _ = _
        rw [toldBy_held host number hheld, nativePageCreated_held host hdelivery]
        simp [arrived, Delivery.call, Call.isAttach]
      · show (session.nativePageCreated host placeholder number).2.calls.filter _ = _
        rw [toldBy_unheld host number hheld, nativePageCreated_unheld host hheld]
        exact (List.append_nil _).symm
  | register request =>
      refine hsilent ?_
      have hentry := filter_plain (entryCalls_plain session request)
      by_cases hback : ∃ webview page, session.Reuses request.url webview page
      · obtain ⟨webview, page, hreuses⟩ := hback
        obtain ⟨-, -, -, -, hcalls⟩ := register_of_reuses host hreuses
        exact ⟨_, hcalls, hentry⟩
      · obtain ⟨given, made, entry, -, -, hcalls, hopens⟩ := register_of_not_reuses host hback
        refine ⟨session.entryCalls request ++ made, ?_, ?_⟩
        · rw [← List.append_assoc]
          exact hcalls
        · have hopening : ∀ call : Call, call.isOpening = true → call.isAttach = false := by
            intro call h
            cases call with
            | attach => exact absurd h Bool.false_ne_true
            | _ => rfl
          rw [List.filter_append, hentry, hopens.steps.filter_made hopening]
          exact filter_plain (launchCalls_plain session.app _)
  | perform actions =>
      refine hsilent ?_
      obtain ⟨made, hmade, hplain⟩ := performFor_addsPlain host
        (Callback.size actions + Callback.size session.app.waiting.flatten) actions session
      exact ⟨made, hmade, filter_plain hplain⟩
  | leave | addWebview | preload | takePreload => exact (List.append_nil _).symm

/-- All that native pages are told stands on record, in the order in which they come. -/
theorem attaches_after (host : Host σ) (steps : List (Step σ)) (session : Session σ) :
    (session.after host steps).calls.filter Call.isAttach =
      session.calls.filter Call.isAttach ++ (told host steps session).map Prod.snd := by
  induction steps generalizing session with
  | nil => exact (List.append_nil _).symm
  | cons step rest ih =>
      rw [after_cons, ih, attaches_take, told, List.map_append, List.append_assoc]

/-! ### Taking over -/

/-- A native page that comes for a placeholder which still holds its page is told what that is,
takes its place on the stack if there is one, and is kept by the webview if that is alive and
preloaded.
One that comes for an empty placeholder changes nothing. And the placeholder that a registration
leaves behind holds the instance that was created in its course until the first native page for it
comes, however much happens before; every later one finds it empty. So over any history no
placeholder tells two native pages anything, and nothing else does. -/
theorem takeOver_once (host : Host σ) (session : Session σ) (hstack : Ordered session) :
    (∀ placeholder number webview page,
      session.placeholders[placeholder]? = some ⟨webview, some page⟩ →
        ∃ pages, session.nativePageCreated host placeholder number =
            (decide (.placeholder placeholder ∈ session.app.pages), { session with
              app := { session.app with pages }
              webviews := session.webviews.modify webview
                (recording (session.isAlive host webview) number)
              placeholders := session.placeholders.set placeholder ⟨webview, none⟩
              calls := session.calls ++ [.attach number webview page] }) ∧
          (.placeholder placeholder ∉ session.app.pages → pages = session.app.pages) ∧
          ∀ place, session.app.pages[place]? = some (.placeholder placeholder) →
            pages = session.app.pages.set place (.page number)) ∧
    (∀ placeholder number, (¬ ∃ webview page,
      session.placeholders[placeholder]? = some ⟨webview, some page⟩) →
        session.nativePageCreated host placeholder number = (false, session)) ∧
    (∀ request, let registered := session.register host request
      let placeholder := session.placeholders.length
      registered.2.placeholders = session.placeholders ∨
        registered.2.placeholders = session.placeholders ++
            [⟨registered.1, some (session.instanceFor host request)⟩] ∧
          (∃ settings state, .createInstance request.openType request.url request.query settings ∈
              registered.2.calls.drop session.calls.length ∧
            session.instanceFor host request = ((host.createInstance request.openType request.url
              request.query settings).run state).1) ∧
          ∀ steps, let reached := registered.2.after host steps
            match comers placeholder steps with
            | [] => toldFor host placeholder steps registered.2 = [] ∧
                reached.placeholders[placeholder]? =
                  some ⟨registered.1, some (session.instanceFor host request)⟩
            | first :: _ => toldFor host placeholder steps registered.2 =
                  [.attach first registered.1 (session.instanceFor host request)] ∧
                ∀ number, reached.nativePageCreated host placeholder number = (false, reached)) ∧
    ∀ steps, (∀ placeholder, (toldFor host placeholder steps session).length ≤ 1) ∧
      (session.after host steps).calls.filter Call.isAttach =
        session.calls.filter Call.isAttach ++ (told host steps session).map Prod.snd := by
  refine ⟨?_, fun placeholder number => nativePageCreated_unheld host, ?_,
    fun steps => ⟨fun placeholder => length_toldFor host placeholder steps session,
      attaches_after host steps session⟩⟩
  · intro placeholder number webview page hheld
    have hdelivery : Delivery.IsHeld session ⟨placeholder, number, webview, page⟩ := hheld
    refine ⟨(session.app.swap (.placeholder placeholder) (.page number)).pages, ?_, ?_, ?_⟩
    · rw [nativePageCreated_held host hdelivery, arrived, swap_eq_replace]
      rfl
    · intro habsent
      rw [swap_eq_replace]
      exact List.replace_of_not_mem (by simpa using habsent)
    · -- No entry is met twice, so that this place is the first one.
      intro place hplace
      obtain ⟨hlt, hentry⟩ := List.getElem?_eq_some_iff.mp hplace
      rw [pages_swap hstack.nodup]
      refine List.ext_getElem (by simp) fun other h _ => ?_
      have hother : other < session.app.pages.length := by simpa using h
      have hmet : session.app.pages[other] = .placeholder placeholder ↔ place = other := by
        rw [← hentry, hstack.nodup.getElem_inj_iff]
        exact eq_comm
      simp [List.getElem_set, hmet]
  · intro request registered placeholder
    rcases register_placeholders session host request with
      hsame | ⟨hadded, -, hcreated⟩
    · exact Or.inl hsame
    refine Or.inr ⟨hadded, hcreated, fun steps => ?_⟩
    have hheld : registered.2.placeholders[placeholder]? =
        some ⟨registered.1, some (session.instanceFor host request)⟩ := by
      rw [hadded]
      exact List.getElem?_concat_length
    have htold := toldFor_held host steps hheld
    split at htold
    · exact htold
    · refine ⟨htold.1, fun number => nativePageCreated_unheld host ?_⟩
      simp [placeholder, htold.2]

/-! ### A page that is reported late and twice -/

open Simulation (Platform)

/-- Another page is registered before the native page is there, the app is torn down, and then the
platform reports the native page two times. -/
def reportedTwice : List (Step Platform) :=
  [.event (.register { Tracked.nativeRequest with path := "/b" }), .event (.perform [.tearDown]),
    .event (.nativePage 0 5), .event (.nativePage 0 6)]

/-- The first report hands over what the registration has put into the placeholder, and no other
one does. -/
theorem takeOver_reportedTwice :
    let session : Session Platform := { app := .initial {}, host := Tracked.nativePlatform }
    let registered := session.register Platform.host Tracked.nativeRequest
    Ordered session ∧ toldFor Platform.host 0 reportedTwice registered.2 =
        [.attach 5 registered.1 (session.instanceFor Platform.host Tracked.nativeRequest)] ∧
      ∀ number, ((registered.2.after Platform.host reportedTwice).nativePageCreated Platform.host 0
        number).1 = false := by
  intro session registered
  have hstack : Ordered session :=
    ordered_of_reachable makesBlank_platform (.start {} Tracked.nativePlatform)
  obtain ⟨-, -, hregister, -⟩ := takeOver_once Platform.host session hstack
  rcases hregister Tracked.nativeRequest with hnone | ⟨-, -, hhistory⟩
  · exact absurd (congrArg List.length hnone) (by decide)
  · obtain ⟨htold, hlater⟩ := hhistory reportedTwice
    exact ⟨hstack, htold, fun number => congrArg Prod.fst (hlater number)⟩

end MiniApp.Session
