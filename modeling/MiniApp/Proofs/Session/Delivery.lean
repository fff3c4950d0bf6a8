import MiniApp.Proofs.Session.Stack

/-!
# Native pages in any order

Native pages are made by the platform, and an app cannot know which of them comes first. Nothing
depends on it: every page finds its place on the stack by its own placeholder, is told what that
placeholder holds, and is kept by its own webview.

* `deliver_spec`: what pages that come one after another do, all of them together. Neither the page
  stack nor the webviews are said by going through the pages in their order.
* `deliver_anyOrder`: so the order does not matter. One page may also come before or after an entry
  is put on the stack or taken off it.

Only the webviews ask for more: of two pages that come for one webview, the last one is kept.
-/

set_option autoImplicit false

namespace MiniApp.Session

open MiniApp.App MiniApp.Page

variable {σ : Type}

/-! ### One page -/

/-- A native page that comes for a placeholder, which holds a webview and how the page was
opened. -/
structure Delivery where
  placeholder : Nat
  number : Nat
  webview : Nat
  page : Instance

/-- What the native page is told. -/
def Delivery.call (delivery : Delivery) : Call :=
  .attach delivery.number delivery.webview delivery.page

/-- The placeholder still holds what the native page gets. -/
def Delivery.IsHeld (session : Session σ) (delivery : Delivery) : Prop :=
  session.placeholders[delivery.placeholder]? = some ⟨delivery.webview, some delivery.page⟩

/-- A webview for which a native page has come. It keeps the page if it is alive and preloaded. -/
def recording (isAlive : Bool) (number : Nat) (known : Webview) : Webview :=
  if isAlive && known.isPreload then { known with page := some (.page number) } else known

/-- A webview keeps its id when a native page comes. -/
theorem recording_id (isAlive : Bool) (number : Nat) (known : Webview) :
    (recording isAlive number known).id = known.id := by
  unfold recording
  split <;> rfl

/-- It stays preloaded, or not. -/
theorem recording_isPreload (isAlive : Bool) (number : Nat) (known : Webview) :
    (recording isAlive number known).isPreload = known.isPreload := by
  unfold recording
  split <;> rfl

/-- It keeps the page that it kept, or else the one that comes. -/
theorem recording_page (isAlive : Bool) (number : Nat) (known : Webview) :
    (recording isAlive number known).page = known.page ∨
      (recording isAlive number known).page = some (.page number) := by
  unfold recording
  split
  · exact Or.inr rfl
  · exact Or.inl rfl

/-- A place on the stack that is taken over leaves every webview as alive as it was. -/
theorem keeps_swap (app : State) (old new : Entry) (webview : Nat) :
    (app.swap old new).keeps webview = app.keeps webview := by
  unfold State.swap
  split <;> rfl

/-- The session in which the native page has come, as changes that stand beside each other. -/
def arrived (session : Session σ) (host : Host σ) (delivery : Delivery) : Session σ :=
  { session with
    placeholders := session.placeholders.set delivery.placeholder ⟨delivery.webview, none⟩
    app := session.app.swap (.placeholder delivery.placeholder) (.page delivery.number)
    calls := session.calls ++ [delivery.call]
    webviews := session.webviews.modify delivery.webview
      (recording (session.isAlive host delivery.webview) delivery.number) }

/-- A native page comes for a placeholder that still holds what the page gets. -/
theorem nativePageCreated_held {session : Session σ} (host : Host σ) {delivery : Delivery}
    (h : delivery.IsHeld session) :
    session.nativePageCreated host delivery.placeholder delivery.number =
      (decide (.placeholder delivery.placeholder ∈ session.app.pages),
        session.arrived host delivery) := by
  unfold Delivery.IsHeld at h
  -- The place on the stack is taken over first, which leaves the webview as alive as it was.
  have halive : (session.takeOver delivery.placeholder delivery.number delivery.webview
      delivery.page).isAlive host delivery.webview = session.isAlive host delivery.webview := by
    simp [isAlive, takeOver, keeps_swap]
  have hwebview : (session.takeOver delivery.placeholder delivery.number delivery.webview
      delivery.page).webview delivery.webview = session.webview delivery.webview := rfl
  simp only [nativePageCreated, h, keepPage, halive, hwebview, List.contains_eq_mem, arrived]
  by_cases hkeeps : (session.isAlive host delivery.webview &&
      (session.webview delivery.webview).isPreload) = true
  · have hmodify : session.webviews.modify delivery.webview
        (fun known => { known with page := some (.page delivery.number) }) =
        session.webviews.modify delivery.webview
          (recording (session.isAlive host delivery.webview) delivery.number) :=
      modify_congr (by simp [recording, hkeeps])
    simp [hkeeps, modifyWebview, takeOver, hmodify, Delivery.call]
  · have hmodify : session.webviews.modify delivery.webview id =
        session.webviews.modify delivery.webview
          (recording (session.isAlive host delivery.webview) delivery.number) :=
      modify_congr (by simp [recording, hkeeps])
    rw [List.modify_id] at hmodify
    simp [hkeeps, takeOver, ← hmodify, Delivery.call]

/-- Nothing happens if the placeholder holds nothing. -/
theorem nativePageCreated_unheld {session : Session σ} (host : Host σ) {placeholder number : Nat}
    (h : ¬ ∃ webview page, session.placeholders[placeholder]? = some ⟨webview, some page⟩) :
    session.nativePageCreated host placeholder number = (false, session) := by
  unfold nativePageCreated
  split
  · rename_i webview page heq
    exact absurd ⟨webview, page, heq⟩ h
  · rfl

/-! ### Pages that come one after another -/

/-- The answers to native pages that come one after another, and the session behind them. -/
def deliver (host : Host σ) : List Delivery → Session σ → List Bool × Session σ
  | [], session => ([], session)
  | delivery :: rest, session =>
    let created := session.nativePageCreated host delivery.placeholder delivery.number
    let delivered := deliver host rest created.2
    (created.1 :: delivered.1, delivered.2)

/-- The native pages are due: they are new, each of them another one, and come for different
placeholders, which still hold what the pages get. -/
structure AreDue (session : Session σ) (deliveries : List Delivery) : Prop where
  held : ∀ delivery ∈ deliveries, delivery.IsHeld session
  placeholders : (deliveries.map Delivery.placeholder).Nodup
  numbers : (deliveries.map Delivery.number).Nodup
  new : ∀ delivery ∈ deliveries, delivery.number ∉ session.knownPages

/-- What stands in the place of an entry of the page stack when the native pages have come. -/
def standing (deliveries : List Delivery) (entry : Entry) : Entry :=
  match deliveries.find? fun delivery => Entry.placeholder delivery.placeholder = entry with
  | some delivery => .page delivery.number
  | none => entry

/-- What is known about a webview when the native pages have come, at most one for each webview. -/
def recorded (deliveries : List Delivery) (isAlive : Nat → Bool) (webview : Nat)
    (known : Webview) : Webview :=
  match deliveries.find? fun delivery => delivery.webview = webview with
  | some delivery => recording (isAlive webview) delivery.number known
  | none => known

/-- Native pages that are due are due in any order. -/
theorem AreDue.perm {session : Session σ} {deliveries order : List Delivery}
    (h : session.AreDue deliveries) (hperm : order.Perm deliveries) : session.AreDue order where
  held delivery hmem := h.held delivery (hperm.subset hmem)
  placeholders := (hperm.map _).nodup_iff.mpr h.placeholders
  numbers := (hperm.map _).nodup_iff.mpr h.numbers
  new delivery hmem := h.new delivery (hperm.subset hmem)

/-- When the first page has come, the others are still due. -/
theorem AreDue.tail {session : Session σ} {delivery : Delivery} {rest : List Delivery}
    (h : session.AreDue (delivery :: rest)) (host : Host σ) :
    (session.nativePageCreated host delivery.placeholder delivery.number).2.AreDue rest := by
  have hplaceholders := h.placeholders
  have hnumbers := h.numbers
  rw [List.map_cons, List.nodup_cons] at hplaceholders hnumbers
  rw [nativePageCreated_held host (h.held delivery List.mem_cons_self)]
  -- The other placeholders still hold their pages, and the other numbers are still new.
  refine ⟨?_, hplaceholders.2, hnumbers.2, ?_⟩
  · intro other hother
    have hne : delivery.placeholder ≠ other.placeholder := by
      intro heq
      exact hplaceholders.1 (heq ▸ List.mem_map_of_mem hother)
    have hheld := h.held other (List.mem_cons_of_mem _ hother)
    show (session.placeholders.set _ _)[other.placeholder]? = _
    rw [List.getElem?_set_ne hne]
    exact hheld
  · intro other hother hknown
    have hne : other.number ≠ delivery.number := by
      intro heq
      exact hnumbers.1 (heq ▸ List.mem_map_of_mem hother)
    have hnew := h.new other (List.mem_cons_of_mem _ hother)
    simp only [knownPages, arrived, List.filterMap_append, List.mem_append] at hknown hnew
    simp [hnew, Delivery.call, Call.page?, hne] at hknown

/-- Behind the first page the others find the same entries in the place of the rest. -/
theorem standing_cons (delivery : Delivery) (rest : List Delivery) (entry : Entry) :
    standing (delivery :: rest) entry = standing rest
      (if entry = .placeholder delivery.placeholder then .page delivery.number else entry) := by
  unfold standing
  by_cases h : entry = .placeholder delivery.placeholder
  · subst h
    simp [List.find?_eq_none.mpr]
  · have hne : ¬ Entry.placeholder delivery.placeholder = entry := fun heq => h heq.symm
    simp [h, hne]

/-- A page that takes a place on the stack leaves the places of other placeholders alone. -/
theorem mem_map_page_iff {pages : List Entry} {placeholder number other : Nat}
    (hne : other ≠ placeholder) :
    .placeholder other ∈ pages.map (fun entry =>
        if entry = .placeholder placeholder then .page number else entry) ↔
      .placeholder other ∈ pages := by
  rw [List.mem_map]
  constructor
  · rintro ⟨entry, hmem, heq⟩
    split at heq
    · exact nomatch heq
    · exact heq ▸ hmem
  · intro hmem
    exact ⟨_, hmem, by simp [hne]⟩

/-- Behind the first page the others come for other webviews. -/
theorem recorded_cons {delivery : Delivery} {rest : List Delivery} (isAlive : Nat → Bool)
    (h : ((delivery :: rest).map Delivery.webview).Nodup) (webview : Nat) (known : Webview) :
    recorded (delivery :: rest) isAlive webview known =
      recorded rest isAlive webview (if delivery.webview = webview then
        recording (isAlive webview) delivery.number known else known) := by
  rw [List.map_cons, List.nodup_cons] at h
  unfold recorded
  by_cases hsame : delivery.webview = webview
  · have hnone : rest.find? (fun other => other.webview = webview) = none := by
      rw [List.find?_eq_none]
      intro other hother heq
      refine h.1 (List.mem_map.mpr ⟨other, hother, ?_⟩)
      rw [hsame]
      exact of_decide_eq_true heq
    simp [hsame, hnone]
  · simp [hsame]

/-- What native pages do that come one after another. Each is answered by whether its placeholder
was on the stack at the start, and is told what that placeholder held then. The induction is on the
pages: the first one leaves the stack in order and the others due. -/
theorem deliver_spec (host : Host σ) {session : Session σ} (hstack : Ordered session)
    {deliveries : List Delivery} (hdue : session.AreDue deliveries) :
    let delivered := deliver host deliveries session
    delivered.1 = deliveries.map (fun delivery =>
        decide (.placeholder delivery.placeholder ∈ session.app.pages)) ∧
      delivered.2.app = { session.app with
        pages := session.app.pages.map (standing deliveries) } ∧
      delivered.2.calls = session.calls ++ deliveries.map Delivery.call ∧
      ((deliveries.map Delivery.webview).Nodup → delivered.2.webviews =
        session.webviews.mapIdx (recorded deliveries (session.isAlive host))) := by
  induction deliveries generalizing session with
  | nil =>
      have hpages : session.app.pages.map (standing []) = session.app.pages := List.map_id' _
      have hwebviews : session.webviews.mapIdx (recorded [] (session.isAlive host)) =
          session.webviews := by
        refine List.ext_getElem? fun webview => ?_
        rw [List.getElem?_mapIdx]
        exact Option.map_id'
      simp [deliver, hpages, hwebviews]
  | cons delivery rest ih =>
      have hrest := hdue.tail host
      have hordered : Ordered (session.nativePageCreated host delivery.placeholder
          delivery.number).2 := hstack.nativePage host (hdue.new delivery List.mem_cons_self)
      rw [nativePageCreated_held host (hdue.held delivery List.mem_cons_self)] at hrest hordered
      obtain ⟨hanswers, happ, hcalls, hwebviews⟩ := ih hordered hrest
      simp only [deliver, nativePageCreated_held host (hdue.held delivery List.mem_cons_self)]
      have hpages : (session.arrived host delivery).app.pages = session.app.pages.map fun entry =>
          if entry = .placeholder delivery.placeholder then .page delivery.number else entry :=
        pages_swap hstack.nodup _ _
      -- What all pages do is what the first one does and then the others.
      refine ⟨?_, ?_, ?_, ?_⟩
      · -- The place of another placeholder is not the one that the first page takes.
        rw [List.map_cons, hanswers, hpages]
        congr 1
        refine List.map_congr_left fun other hother => ?_
        have hne : other.placeholder ≠ delivery.placeholder := by
          intro heq
          exact (List.nodup_cons.mp hdue.placeholders).1 (heq ▸ List.mem_map_of_mem hother)
        rw [decide_eq_decide]
        exact mem_map_page_iff hne
      · have hstanding : standing rest ∘ (fun entry =>
            if entry = .placeholder delivery.placeholder then .page delivery.number else entry) =
              standing (delivery :: rest) := by
          funext entry
          exact (standing_cons delivery rest entry).symm
        rw [happ, hpages, List.map_map, hstanding]
        unfold arrived State.swap
        split <;> rfl
      · rw [hcalls, List.map_cons]
        simp [arrived]
      · intro hnodup
        have halive : (session.arrived host delivery).isAlive host = session.isAlive host := by
          funext webview
          simp [isAlive, arrived, keeps_swap]
        rw [hwebviews (List.nodup_cons.mp hnodup).2, halive]
        refine List.ext_getElem? fun webview => ?_
        simp only [arrived, List.getElem?_mapIdx, List.getElem?_modify]
        cases session.webviews[webview]? with
        | none => rfl
        | some known =>
            show some _ = some _
            rw [recorded_cons _ hnodup]
            by_cases hsame : delivery.webview = webview
            · simp [hsame]
            · simp [hsame]

/-- Of elements with different keys the one with a key is found in any order. -/
theorem find?_perm {α κ : Type} [DecidableEq κ] {key : α → κ} {found order : List α}
    (hperm : order.Perm found) (hnodup : (order.map key).Nodup) (sought : κ) :
    (order.find? fun element => key element = sought) =
      found.find? fun element => key element = sought := by
  induction hperm with
  | nil => rfl
  | cons element hperm ih =>
      rw [List.map_cons, List.nodup_cons] at hnodup
      simp [List.find?_cons, ih hnodup.2]
  | swap first second rest =>
      have hne : key first ≠ key second := by
        intro heq
        simp [heq] at hnodup
      by_cases hfirst : key first = sought
      · have hsecond : key second ≠ sought := fun heq => hne (hfirst.trans heq.symm)
        simp [hfirst, hsecond]
      · simp [List.find?_cons, hfirst]
  | trans hperm hperm' ih ih' =>
      rw [ih hnodup, ih' ((hperm.map key).nodup_iff.mp hnodup)]

/-! ### Pages and the stack -/

/-- A place on the stack is taken over where the entry is met first. -/
theorem swap_eq_replace (app : State) (old new : Entry) :
    app.swap old new = { app with pages := app.pages.replace old new } := by
  have hreplace : ∀ pages : List Entry, pages.replace old new =
      (pages.idxOf? old).elim pages fun place => pages.set place new := by
    intro pages
    induction pages with
    | nil => rfl
    | cons entry rest ih =>
        rw [List.replace_cons, List.idxOf?_cons, ih]
        by_cases h : old = entry
        · simp [h]
        · have hfalse : (old == entry) = false := by simpa using h
          have hfalse' : (entry == old) = false := by simpa using fun heq => h heq.symm
          rw [hfalse, hfalse']
          cases rest.idxOf? old <;> rfl
  rw [hreplace, State.swap]
  cases app.pages.idxOf? old <;> rfl

/-- A change of the app that leaves the place of a placeholder alone, and the webviews alive, may
come before its native page or after it. -/
theorem nativePageCreated_modifyApp {session : Session σ} (host : Host σ)
    {placeholder number : Nat} {change : State → State}
    (hstands : .placeholder placeholder ∈ (change session.app).pages ↔
      .placeholder placeholder ∈ session.app.pages)
    (hswap : (change session.app).swap (.placeholder placeholder) (.page number) =
      change (session.app.swap (.placeholder placeholder) (.page number)))
    (hkeeps : ∀ webview, (change session.app).keeps webview = session.app.keeps webview) :
    (session.modifyApp change).nativePageCreated host placeholder number =
      ((session.nativePageCreated host placeholder number).1,
        (session.nativePageCreated host placeholder number).2.modifyApp change) := by
  by_cases hheld : ∃ webview page, session.placeholders[placeholder]? = some ⟨webview, some page⟩
  · obtain ⟨webview, page, hheld⟩ := hheld
    let delivery : Delivery := ⟨placeholder, number, webview, page⟩
    have hbefore : delivery.IsHeld session := hheld
    have hbehind : delivery.IsHeld (session.modifyApp change) := hheld
    have halive : (session.modifyApp change).isAlive host webview =
        session.isAlive host webview := by
      show (_ || _) = (_ || _)
      rw [← hkeeps]
      rfl
    have harrived : (session.modifyApp change).arrived host delivery =
        (session.arrived host delivery).modifyApp change := by
      simp only [arrived, delivery, halive]
      simp only [modifyApp, hswap]
    have hanswer : decide (.placeholder placeholder ∈ (change session.app).pages) =
        decide (.placeholder placeholder ∈ session.app.pages) := decide_eq_decide.mpr hstands
    rw [nativePageCreated_held host hbehind, nativePageCreated_held host hbefore, harrived]
    exact congrArg (·, _) hanswer
  · -- The placeholder holds nothing, before the change and after it.
    have hbehind : ¬ ∃ webview page, (session.modifyApp change).placeholders[placeholder]? =
        some ⟨webview, some page⟩ := hheld
    rw [nativePageCreated_unheld host hheld, nativePageCreated_unheld host hbehind]

/-- A native page may come before another entry is put on the stack or after it. -/
theorem nativePageCreated_push (session : Session σ) (host : Host σ) {placeholder : Nat}
    (number : Nat) {entry : Entry} (hne : entry ≠ .placeholder placeholder) :
    (session.modifyApp fun app => app.push entry).nativePageCreated host placeholder number =
      ((session.nativePageCreated host placeholder number).1,
        (session.nativePageCreated host placeholder number).2.modifyApp fun app =>
          app.push entry) := by
  refine nativePageCreated_modifyApp host ?_ ?_ fun _ => rfl
  · simp [State.push, hne.symm]
  · have hself : [entry].replace (.placeholder placeholder) (.page number) = [entry] := by
      simp [hne.symm]
    rw [swap_eq_replace, swap_eq_replace]
    simp only [State.push]
    rw [List.replace_append, hself]
    split
    · rfl
    · rename_i habsent
      rw [List.replace_of_not_mem habsent]

/-- A native page may come before another entry is taken off the stack or after it. -/
theorem nativePageCreated_remove (session : Session σ) (host : Host σ) {placeholder number : Nat}
    {entry : Entry} (hne : entry ≠ .placeholder placeholder) (hnew : entry ≠ .page number) :
    (session.modifyApp fun app => app.remove entry).nativePageCreated host placeholder number =
      ((session.nativePageCreated host placeholder number).1,
        (session.nativePageCreated host placeholder number).2.modifyApp fun app =>
          app.remove entry) := by
  refine nativePageCreated_modifyApp host ?_ ?_ fun _ => rfl
  · exact List.mem_erase_of_ne hne.symm
  · have hreplace : ∀ pages : List Entry,
        (pages.erase entry).replace (.placeholder placeholder) (.page number) =
          (pages.replace (.placeholder placeholder) (.page number)).erase entry := by
      intro pages
      induction pages with
      | nil => rfl
      | cons first rest ih => grind
    rw [swap_eq_replace, swap_eq_replace]
    simp only [State.remove, hreplace]

/-- Native pages that are due may come in any order. In every order each of them is answered by
whether its placeholder stands on the stack, and is told what that placeholder holds; the stack that
they leave, and what their webviews keep if each has a webview of its own, is the same for all
orders. And a native page may come before or after any other entry is put on the stack or taken off
it. -/
theorem deliver_anyOrder (host : Host σ) (session : Session σ) (hstack : Ordered session)
    (deliveries : List Delivery) (hdue : session.AreDue deliveries) :
    (∀ order, order.Perm deliveries →
      let delivered := deliver host order session
      delivered.1 = order.map (fun delivery =>
          decide (.placeholder delivery.placeholder ∈ session.app.pages)) ∧
        delivered.2.app = { session.app with
          pages := session.app.pages.map (standing deliveries) } ∧
        delivered.2.calls = session.calls ++ order.map Delivery.call ∧
        ((deliveries.map Delivery.webview).Nodup → delivered.2.webviews =
          session.webviews.mapIdx (recorded deliveries (session.isAlive host)))) ∧
      ∀ placeholder number entry, entry ≠ .placeholder placeholder →
        (session.modifyApp fun app => app.push entry).nativePageCreated host placeholder number =
            ((session.nativePageCreated host placeholder number).1,
              (session.nativePageCreated host placeholder number).2.modifyApp fun app =>
                app.push entry) ∧
          (entry ≠ .page number →
            (session.modifyApp fun app => app.remove entry).nativePageCreated host placeholder
                number =
              ((session.nativePageCreated host placeholder number).1,
                (session.nativePageCreated host placeholder number).2.modifyApp fun app =>
                  app.remove entry)) := by
  constructor
  · intro order hperm
    obtain ⟨hanswers, happ, hcalls, hwebviews⟩ := deliver_spec host hstack (hdue.perm hperm)
    -- Different placeholders, and different webviews, are found in any order of the pages.
    have hstanding : standing order = standing deliveries := by
      have hnodup : (order.map fun delivery => Entry.placeholder delivery.placeholder).Nodup := by
        have hnumbers := (hdue.perm hperm).placeholders
        rw [← Function.comp_def, ← List.map_map]
        exact hnumbers.map fun _ _ heq => by simpa using heq
      funext entry
      simp only [standing, find?_perm hperm hnodup]
    have hrecorded : (order.map Delivery.webview).Nodup →
        recorded order (session.isAlive host) = recorded deliveries (session.isAlive host) := by
      intro hnodup
      funext webview known
      simp only [recorded, find?_perm hperm hnodup]
    refine ⟨hanswers, ?_, hcalls, fun hnodup => ?_⟩
    · rw [happ, hstanding]
    · have hnodup := (hperm.map Delivery.webview).nodup_iff.mpr hnodup
      rw [hwebviews hnodup, hrecorded hnodup]
  · intro placeholder number entry hne
    exact ⟨nativePageCreated_push session host number hne,
      fun hnew => nativePageCreated_remove session host hne hnew⟩

/-! ### Two pages that come late -/

open Simulation (Platform)

/-- Two native pages are registered, one of them in a preloaded webview, and the other one is left
before it is there. -/
def bothRegistered : List Event :=
  [.addWebview { id := 7 }, .preload "/a" 0, .register Tracked.nativeRequest,
    .register { Tracked.nativeRequest with url := "/b" }, .leave (.placeholder 1)]

/-- The app after that run. -/
def afterBothRegistered : Session Platform :=
  bothRegistered.foldl (fun reached event => reached.handle Platform.host event)
    { app := .initial {}, host := Tracked.nativePlatform }

/-- The two native pages. -/
def bothPages : List Delivery :=
  [⟨0, 5, 0, .create .navigateTo "/a" [] { id := some 7, route := "a", isNative := true }⟩,
    ⟨1, 6, 1, .create .navigateTo "/b" [] { id := some 2, route := "a", isNative := true }⟩]

/-- The page that has been left may come first. Only the other one finds its place, and only the
preloaded webview keeps its page. -/
theorem deliver_bothPages :
    Ordered afterBothRegistered ∧ afterBothRegistered.AreDue bothPages ∧
      (deliver Platform.host bothPages.reverse afterBothRegistered).1 = [false, true] ∧
      (deliver Platform.host bothPages.reverse afterBothRegistered).2.app.pages = [.page 5] ∧
      (deliver Platform.host bothPages.reverse afterBothRegistered).2.webviews.map Webview.page =
        [some (.page 5), none] := by
  have hreachable : Reachable Platform.host afterBothRegistered :=
    (Reachable.start {} Tracked.nativePlatform).run bothRegistered (by decide)
  have hstack := ordered_of_reachable makesBlank_platform hreachable
  have hdue : afterBothRegistered.AreDue bothPages := by
    refine ⟨?_, by decide, by decide, by decide⟩
    intro delivery hmem
    simp only [bothPages, List.mem_cons, List.not_mem_nil, or_false] at hmem
    rcases hmem with rfl | rfl
    · rfl
    · rfl
  obtain ⟨hanswers, happ, -, hwebviews⟩ :=
    (deliver_anyOrder Platform.host afterBothRegistered hstack bothPages hdue).1 bothPages.reverse
      (List.reverse_perm bothPages)
  refine ⟨hstack, hdue, ?_, ?_, ?_⟩
  · rw [hanswers]
    decide
  · rw [happ]
    decide
  · rw [hwebviews (by decide)]
    decide

end MiniApp.Session
