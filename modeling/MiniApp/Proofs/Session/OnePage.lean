import MiniApp.Proofs.Session.Run
import MiniApp.Simulation.Command
import Mathlib.Data.List.Nodup

/-!
# One live page for each webview

A webview of the preload pool is to host at most one page of the page stack. A registration sees to
that by a test: it opens another webview when the page that the pooled webview keeps is on the
stack. But a webview keeps a native page only from the moment when that page is there, and so the
test misses the placeholder that stands in for it, and any entry that a page which came late has
taken the webview from.

`onePage_iff_noticed` says exactly when the stack stays in order: in a run that is allowed, no two
entries ever belong to one webview if and only if every registration notices the entry that the
pooled webview for its url has on the stack. `two_placeholders` is the shortest run that goes wrong:
a native page is registered twice before it is there.

The proof tracks, along the run, that all entries on the stack have a home (`Tracked.Kept`). Only a
registration can put a second entry of a webview there, and it does so exactly when it does not
notice the first (`onePage_register_iff`).
-/

set_option autoImplicit false

namespace MiniApp.Session.Tracked

open MiniApp.App MiniApp.Page

variable {σ : Type}

/-- No two entries of the page stack belong to the same webview. -/
def OnePage (tracked : Tracked σ) : Prop :=
  (tracked.session.app.pages.map tracked.home?).Nodup

instance (tracked : Tracked σ) : Decidable tracked.OnePage :=
  inferInstanceAs (Decidable (List.Nodup _))

/-- If the pooled webview for a url has an entry on the page stack, the page that it keeps is on the
stack. That is what the test of a registration looks at. -/
def Notices (tracked : Tracked σ) (url : String) : Prop :=
  ∀ webview ∈ tracked.session.app.preloads.find? url,
    (∃ entry ∈ tracked.session.app.pages, tracked.home? entry = some webview) →
      ∃ page ∈ (tracked.session.webview webview).page, page ∈ tracked.session.app.pages

/-- A page or placeholder that has been made. -/
def Made (session : Session σ) : Entry → Prop
  | .placeholder number => number < session.placeholders.length
  | .page number => number ∈ session.knownPages

/-- What every allowed run keeps: entries of the stack have been made and have a home, and so have
the webviews of the pool and the pages that they keep. -/
structure Kept (tracked : Tracked σ) : Prop where
  made : ∀ entry ∈ tracked.session.app.pages, Made tracked.session entry
  home : ∀ entry ∈ tracked.session.app.pages, ∃ webview < tracked.session.webviews.length,
    tracked.home? entry = some webview
  pooled : ∀ url, ∀ webview ∈ tracked.session.app.preloads.find? url,
    webview < tracked.session.webviews.length
  recorded : ∀ url, ∀ webview ∈ tracked.session.app.preloads.find? url,
    ∀ page ∈ (tracked.session.webview webview).page, Made tracked.session page

/-! ### Growth -/

/-- Pages that are on record stay so. -/
theorem knownPages_mono {before after : Session σ} (h : before.calls <+: after.calls)
    {number : Nat} (hmem : number ∈ before.knownPages) : number ∈ after.knownPages := by
  unfold knownPages at hmem ⊢
  obtain ⟨call, hcall, hpage⟩ := List.mem_filterMap.mp hmem
  exact List.mem_filterMap.mpr ⟨call, h.subset hcall, hpage⟩

/-- What has been made stays made. -/
theorem Made.mono {before after : Session σ} (hcalls : before.calls <+: after.calls)
    (hplaceholders : before.placeholders.length ≤ after.placeholders.length) {entry : Entry}
    (h : Made before entry) : Made after entry := by
  cases entry with
  | placeholder number => exact Nat.lt_of_lt_of_le h hplaceholders
  | page number => exact knownPages_mono hcalls h

/-- A new home for an entry leaves the homes of other entries as they are. -/
theorem lookup_cons_ne {entry other : Entry} (h : other ≠ entry) (webview : Nat)
    (homes : List (Entry × Nat)) :
    ((entry, webview) :: homes).lookup other = homes.lookup other := by
  have hne : (other == entry) = false := by simpa using h
  rw [List.lookup_cons, hne]

/-! ### A new entry on the stack -/

/-- With one more entry on the stack that was not there before, no two entries belong to the same
webview if this was so before and the webview of the new one had no entry. -/
theorem onePage_push_iff {before after : Tracked σ} {entry : Entry} {webview : Nat}
    (hpages : after.session.app.pages = before.session.app.pages ++ [entry])
    (hhomes : after.homes = (entry, webview) :: before.homes)
    (hnew : entry ∉ before.session.app.pages) :
    after.OnePage ↔ before.OnePage ∧
      ∀ other ∈ before.session.app.pages, before.home? other ≠ some webview := by
  have hself : after.home? entry = some webview := by
    unfold home?
    rw [hhomes, List.lookup_cons, beq_self_eq_true]
  have hother : before.session.app.pages.map after.home? =
      before.session.app.pages.map before.home? := by
    refine List.map_congr_left fun other hmem => ?_
    have hne : other ≠ entry := fun h => hnew (h ▸ hmem)
    unfold home?
    rw [hhomes, lookup_cons_ne hne]
  unfold OnePage
  rw [hpages, List.map_append, hother, List.map_singleton, hself, List.nodup_append]
  simp only [List.nodup_cons, List.not_mem_nil, not_false_eq_true, List.nodup_nil, and_self,
    true_and, List.mem_map, List.mem_singleton, forall_exists_index, and_imp,
    forall_apply_eq_imp_iff₂, forall_eq]

/-- What a registration without a webview of its own does: it puts one entry on the stack that was
not there, and answers with a new webview or with the one of the pool. It takes a new one only if
nothing is pooled or the page of the pooled webview is on the stack. -/
structure Pushes (session : Session σ) (registered : Nat × Session σ) (url : String)
    (entry : Entry) : Prop where
  pages : registered.2.app.pages = session.app.pages ++ [entry]
  new : entry ∉ session.app.pages
  made : Made registered.2 entry
  preloads : registered.2.app.preloads = session.app.preloads
  placeholders : session.placeholders.length ≤ registered.2.placeholders.length
  webviews : session.webviews.length ≤ registered.2.webviews.length
  calls : session.calls <+: registered.2.calls
  recorded : ∀ webview < session.webviews.length,
    (registered.2.webview webview).page = (session.webview webview).page ∨
      (registered.2.webview webview).page = some entry
  exists_answer : registered.1 < registered.2.webviews.length
  answer : registered.1 = session.webviews.length ∧
      (∀ webview ∈ session.app.preloads.find? url,
        ∃ page ∈ (session.webview webview).page, page ∈ session.app.pages) ∨
    session.app.preloads.find? url = some registered.1 ∧
      ∀ page ∈ (session.webview registered.1).page, page ∉ session.app.pages

/-- Opening a page pushes an entry that has not been made before. -/
theorem openPage_pushes {session : Session σ} {host : Host σ} {request : Request}
    {given : Option Nat}
    (hsound : ∀ call ∈ (session.openPage host request given).2.calls.drop session.calls.length,
      Sound session request.url call)
    (hmade : ∀ entry ∈ session.app.pages, Made session entry)
    (hexists : (session.openPage host request given).1 <
      (session.openPage host request given).2.webviews.length)
    (hanswer : (session.openPage host request given).1 = session.webviews.length ∧
        (∀ webview ∈ session.app.preloads.find? request.url,
          ∃ page ∈ (session.webview webview).page, page ∈ session.app.pages) ∨
      session.app.preloads.find? request.url = some (session.openPage host request given).1 ∧
        ∀ page ∈ (session.webview (session.openPage host request given).1).page,
          page ∉ session.app.pages) :
    ∃ entry, Pushes session (session.openPage host request given) request.url entry := by
  obtain ⟨prepared, entry, hframe, hshows, happ⟩ := openPage_spec session host request given
  generalize session.openPage host request given = opened at *
  have hpages : opened.2.app.pages = session.app.pages ++ [entry] := by
    rw [happ, State.push, hframe.pages]
  have hpreloads : opened.2.app.preloads = session.app.preloads := by
    rw [happ, State.push, hframe.preloads]
  refine ⟨entry, ?_⟩
  -- a waiting entry is numbered behind all that wait; the number of a page is the host's, and it is
  -- new because the host is sound
  cases hshows with
  | placeholder page added webviews calls =>
      have hlength := congrArg List.length hframe.placeholders
      refine ⟨hpages, fun hmem => ?_, ?_, hpreloads, ?_, ?_, ?_, fun webview hlt => Or.inl ?_,
        hexists, hanswer⟩
      · have hlt : prepared.placeholders.length < session.placeholders.length := hmade _ hmem
        omega
      · show prepared.placeholders.length < opened.2.placeholders.length
        rw [added, List.length_append]
        simp
      · rw [added, List.length_append, hlength]
        exact Nat.le_add_right _ _
      · rw [webviews]
        exact hframe.webviews
      · rw [calls]
        exact hframe.calls
      · unfold Session.webview
        rw [webviews]
        exact hframe.kept webview hlt
  | page created id route query page options same length kept calls =>
      have hcreated : Call.createPage created id route query page options ∈
          opened.2.calls.drop session.calls.length := by
        obtain ⟨more, hmore⟩ := hframe.calls
        rw [calls, ← hmore, List.append_assoc, List.drop_left]
        exact List.mem_append_right _ (List.mem_singleton_self _)
      refine ⟨hpages, fun hmem => hsound _ hcreated (hmade _ hmem), ?_, hpreloads, ?_, ?_, ?_,
        fun webview hlt => ?_, hexists, hanswer⟩
      · exact List.mem_filterMap.mpr ⟨_, List.mem_of_mem_drop hcreated, rfl⟩
      · exact Nat.le_of_eq (congrArg List.length (same.trans hframe.placeholders)).symm
      · rw [length]
        exact hframe.webviews
      · rw [calls]
        exact hframe.calls.trans (List.prefix_append _ _)
      · rw [kept webview (Nat.lt_of_lt_of_le hlt hframe.webviews), hframe.kept webview hlt]
        split
        · exact Or.inr rfl
        · exact Or.inl rfl

/-- A registration without a webview of its own pushes one entry, whatever the pool has. -/
theorem register_pushes {tracked : Tracked σ} {host : Host σ} {request : Request}
    (hkept : tracked.Kept) (hallowed : tracked.Allowed host (.register request)) :
    ∃ entry, Pushes tracked.session (tracked.session.register host request) request.url entry := by
  obtain ⟨hnone, hsound⟩ := hallowed
  have hmade := hkept.made
  cases hfor : tracked.session.preloadFor request.url with
  | absent =>
      have hfind := preloadFor_absent hfor
      simp only [register_eq hnone, hfor] at hsound ⊢
      have hnew := openPage_new tracked.session host request
      exact openPage_pushes hsound hmade (hnew.1 ▸ hnew.2) (Or.inl ⟨hnew.1, by simp [hfind]⟩)
  | blank webview =>
      obtain ⟨hfind, hpage⟩ := preloadFor_blank hfor
      simp only [register_eq hnone, hfor] at hsound ⊢
      obtain ⟨found, hanswer, hcalls⟩ := openPage_given tracked.session host request webview
      -- The host finds the webview itself or nothing, so the page is opened in it either way.
      have hfound := hsound (.findWebview (tracked.session.webview webview).id found)
        (mem_addedCalls hcalls (by simp)) webview hfind
      have hself : (tracked.session.openPage host request (some webview)).1 = webview := by
        rw [hanswer]
        rcases hfound with rfl | rfl <;> rfl
      obtain ⟨prepared, entry, hframe, hshows, -⟩ :=
        openPage_spec tracked.session host request (some webview)
      refine openPage_pushes hsound hmade ?_ (Or.inr ⟨by rw [hself, hfind], ?_⟩)
      · rw [hself]
        exact Nat.lt_of_lt_of_le (hkept.pooled _ _ hfind)
          (Nat.le_trans hframe.webviews (Nat.le_of_eq hshows.length_webviews.symm))
      · rw [hself, hpage]
        simp
  | shown webview =>
      obtain ⟨page, hfind, hpage, hmem⟩ := preloadFor_shown hfor
      simp only [register_eq hnone, hfor] at hsound ⊢
      have hnew := openPage_new tracked.session host request
      refine openPage_pushes hsound hmade (hnew.1 ▸ hnew.2) (Or.inl ⟨hnew.1, ?_⟩)
      intro other hother
      rw [hfind, Option.mem_some] at hother
      subst hother
      exact ⟨page, hpage, hmem⟩
  | hidden webview page =>
      obtain ⟨hfind, hpage, hmem⟩ := preloadFor_hidden hfor
      simp only [register_eq hnone, hfor]
      refine ⟨page, rfl, hmem, hkept.recorded _ _ hfind _ hpage, rfl, Nat.le_refl _, Nat.le_refl _,
        List.prefix_refl _, fun _ _ => Or.inl rfl, hkept.pooled _ _ hfind, Or.inr ⟨hfind, ?_⟩⟩
      intro other hother
      rw [hpage, Option.mem_some] at hother
      exact hother ▸ hmem

/-! ### What one event does -/

/-- The entry that a registration pushes gets its answer as its home. -/
theorem homes_register {tracked : Tracked σ} {host : Host σ} {request : Request} {entry : Entry}
    (h : Pushes tracked.session (tracked.session.register host request) request.url entry) :
    (tracked.step host (.register request)).homes =
      (entry, (tracked.session.register host request).1) :: tracked.homes := by
  simp [step, newHomes, h.pages]

/-- After a registration no two entries of the stack belong to the same webview if this was so
before and if the registration has noticed the entry of the pooled webview. -/
theorem onePage_register_iff {tracked : Tracked σ} {host : Host σ} {request : Request}
    (hkept : tracked.Kept) (hallowed : tracked.Allowed host (.register request)) :
    (tracked.step host (.register request)).OnePage ↔
      tracked.OnePage ∧ tracked.Notices request.url := by
  obtain ⟨entry, hpushes⟩ := register_pushes hkept hallowed
  rw [onePage_push_iff hpushes.pages (homes_register hpushes) hpushes.new]
  refine and_congr_right fun _ => ?_
  rcases hpushes.answer with ⟨hanswer, hshown⟩ | ⟨hfind, hhidden⟩
  · -- A new webview has no entry yet, and the test has found the page of the pooled one.
    refine iff_of_true (fun other hmem hhome => ?_) fun webview hwebview _ =>
      hshown webview hwebview
    obtain ⟨home, hlt, hother⟩ := hkept.home other hmem
    rw [hother, Option.some.injEq] at hhome
    omega
  · -- The pooled webview itself gets the new entry, since its page is not on the stack.
    constructor
    · intro hfree webview hwebview hentry
      rw [hfind, Option.mem_some] at hwebview
      subst hwebview
      obtain ⟨other, hmem, hhome⟩ := hentry
      exact absurd hhome (hfree other hmem)
    · intro hnotices other hmem hhome
      obtain ⟨page, hpage, hshown⟩ := hnotices _ hfind ⟨other, hmem, hhome⟩
      exact hhidden page hpage hshown

/-- A registration keeps what every allowed run keeps. -/
theorem kept_register {tracked : Tracked σ} {host : Host σ} {request : Request}
    (hkept : tracked.Kept) (hallowed : tracked.Allowed host (.register request)) :
    (tracked.step host (.register request)).Kept := by
  obtain ⟨entry, h⟩ := register_pushes hkept hallowed
  -- What has been made remains made.
  have hmono : ∀ other, Made tracked.session other →
      Made (tracked.session.register host request).2 other :=
    fun other => Made.mono h.calls h.placeholders
  constructor
  · intro other hmem
    rw [show (tracked.step host (.register request)).session.app.pages = _ from h.pages,
      List.mem_append, List.mem_singleton] at hmem
    rcases hmem with hmem | rfl
    · exact hmono other (hkept.made other hmem)
    · exact h.made
  · intro other hmem
    rw [show (tracked.step host (.register request)).session.app.pages = _ from h.pages,
      List.mem_append, List.mem_singleton] at hmem
    unfold home?
    rw [homes_register h]
    by_cases heq : other = entry
    · subst heq
      exact ⟨_, h.exists_answer, by rw [List.lookup_cons, beq_self_eq_true]⟩
    · obtain ⟨home, hlt, hhome⟩ := hkept.home other (hmem.resolve_right heq)
      rw [lookup_cons_ne heq]
      exact ⟨home, Nat.lt_of_lt_of_le hlt h.webviews, hhome⟩
  · intro url webview hwebview
    rw [show (tracked.step host (.register request)).session.app.preloads = _ from h.preloads]
      at hwebview
    exact Nat.lt_of_lt_of_le (hkept.pooled url webview hwebview) h.webviews
  · intro url webview hwebview page hpage
    rw [show (tracked.step host (.register request)).session.app.preloads = _ from h.preloads]
      at hwebview
    change page ∈ ((tracked.session.register host request).2.webview webview).page at hpage
    rcases h.recorded webview (hkept.pooled url webview hwebview) with hsame | hnew
    · rw [hsame] at hpage
      exact hmono page (hkept.recorded url webview hwebview page hpage)
    · rw [hnew, Option.mem_some] at hpage
      exact hpage ▸ h.made

/-- A native page gets the home of its placeholder. -/
theorem homes_nativePage (tracked : Tracked σ) (host : Host σ) (placeholder number : Nat) :
    (tracked.step host (.nativePage placeholder number)).homes =
      (tracked.home? (.placeholder placeholder)).toList.map (fun home => (.page number, home)) ++
        tracked.homes :=
  rfl

/-- A native page has the home of its placeholder. -/
theorem home_nativePage_self {tracked : Tracked σ} {host : Host σ} {placeholder number home : Nat}
    (h : tracked.home? (.placeholder placeholder) = some home) :
    (tracked.step host (.nativePage placeholder number)).home? (.page number) = some home := by
  rw [home?, homes_nativePage, h]
  simp

/-- All other entries keep their homes when a native page comes. -/
theorem home_nativePage_ne {tracked : Tracked σ} {host : Host σ} {placeholder number : Nat}
    {entry : Entry} (hne : entry ≠ .page number) :
    (tracked.step host (.nativePage placeholder number)).home? entry = tracked.home? entry := by
  rw [home?, homes_nativePage]
  cases tracked.home? (.placeholder placeholder) with
  | none => rfl
  | some home => exact lookup_cons_ne hne home tracked.homes

/-- Putting a page in the place of its placeholder leaves the homes along the stack as they are. -/
theorem homes_swap {tracked : Tracked σ} {host : Host σ} {placeholder number : Nat}
    (hkept : tracked.Kept) (hnew : number ∉ tracked.session.knownPages) :
    (tracked.session.app.swap (.placeholder placeholder) (.page number)).pages.map
        (tracked.step host (.nativePage placeholder number)).home? =
      tracked.session.app.pages.map tracked.home? := by
  -- The page is new, so no entry on the stack gets another home.
  have hsame : tracked.session.app.pages.map
        (tracked.step host (.nativePage placeholder number)).home? =
      tracked.session.app.pages.map tracked.home? := by
    refine List.map_congr_left fun entry hmem => home_nativePage_ne ?_
    rintro rfl
    exact hnew (hkept.made _ hmem)
  unfold State.swap
  split
  · rename_i place hplace
    obtain ⟨hlt, hentry, -⟩ := List.idxOf?_eq_some_iff.mp hplace
    obtain ⟨home, -, hhome⟩ := hkept.home _ (List.getElem_mem hlt)
    rw [hentry] at hhome
    have hlt' : place < (tracked.session.app.pages.map tracked.home?).length := by
      rwa [List.length_map]
    have hplaced : (tracked.session.app.pages.map tracked.home?)[place] = some home := by
      rw [List.getElem_map, hentry, hhome]
    show (tracked.session.app.pages.set place (.page number)).map _ = _
    rw [List.map_set, hsame, home_nativePage_self hhome, ← hplaced, List.set_getElem_self]
  · exact hsame

/-- Swapping an entry brings only the new one, and only in the place of the old one. -/
theorem mem_swap {app : State} {old new entry : Entry} (hmem : entry ∈ (app.swap old new).pages) :
    entry ∈ app.pages ∨ entry = new ∧ old ∈ app.pages := by
  unfold State.swap at hmem
  split at hmem
  · rename_i place hplace
    obtain ⟨hlt, hentry, -⟩ := List.idxOf?_eq_some_iff.mp hplace
    rcases List.mem_or_eq_of_mem_set hmem with hmem | rfl
    · exact Or.inl hmem
    · exact Or.inr ⟨rfl, hentry ▸ List.getElem_mem hlt⟩
  · exact Or.inl hmem

/-- It leaves the preload pool alone. -/
theorem preloads_swap (app : State) (old new : Entry) :
    (app.swap old new).preloads = app.preloads := by
  unfold State.swap
  split <;> rfl

/-- A native page that is new puts no second entry of a webview on the stack, and keeps what every
allowed run keeps. -/
theorem step_nativePage {tracked : Tracked σ} {host : Host σ} {placeholder number : Nat}
    (hkept : tracked.Kept) (hnew : number ∉ tracked.session.knownPages) :
    ((tracked.step host (.nativePage placeholder number)).OnePage ↔ tracked.OnePage) ∧
      (tracked.step host (.nativePage placeholder number)).Kept := by
  have hne : ∀ entry ∈ tracked.session.app.pages, entry ≠ .page number := by
    rintro entry hmem rfl
    exact hnew (hkept.made _ hmem)
  rcases nativePageCreated_spec tracked.session host placeholder number with
    hsame | ⟨alive, webview, page, h⟩
  · -- The placeholder has been used before; only the homes may have grown, for a page not there.
    have hsession : (tracked.step host (.nativePage placeholder number)).session =
        tracked.session := hsame
    refine ⟨?_, ⟨?_, ?_, ?_, ?_⟩⟩ <;> simp only [OnePage, hsession]
    · rw [List.map_congr_left fun entry hmem => home_nativePage_ne (hne entry hmem)]
    · exact hkept.made
    · intro entry hmem
      rw [home_nativePage_ne (hne entry hmem)]
      exact hkept.home entry hmem
    · exact hkept.pooled
    · exact hkept.recorded
  · have hpages : (tracked.step host (.nativePage placeholder number)).session.app.pages =
        (tracked.session.app.swap (.placeholder placeholder) (.page number)).pages :=
      congrArg State.pages h.app
    have hpreloads : (tracked.step host (.nativePage placeholder number)).session.app.preloads =
        tracked.session.app.preloads :=
      (congrArg State.preloads h.app).trans (preloads_swap _ _ _)
    have hmade : Made (tracked.step host (.nativePage placeholder number)).session
      (.page number) := by
      refine List.mem_filterMap.mpr ⟨.attach number webview page, ?_, rfl⟩
      exact h.calls ▸ List.mem_append_right _ (List.mem_singleton_self _)
    -- What has been made remains made, and the page has been made by being attached.
    have hmono : ∀ entry, Made tracked.session entry →
        Made (tracked.step host (.nativePage placeholder number)).session entry :=
      fun entry => by
        refine Made.mono (h.calls ▸ List.prefix_append _ _) (Nat.le_of_eq ?_)
        show _ = (tracked.session.nativePageCreated host placeholder number).2.placeholders.length
        rw [h.placeholders, List.length_set]
    refine ⟨?_, ⟨fun entry hmem => ?_, fun entry hmem => ?_, fun url => ?_, fun url => ?_⟩⟩
    · rw [OnePage, hpages, homes_swap hkept hnew]
      rfl
    · rw [hpages] at hmem
      rcases mem_swap hmem with hmem | ⟨rfl, -⟩
      · exact hmono entry (hkept.made entry hmem)
      · exact hmade
    · rw [hpages] at hmem
      rw [show (tracked.step host (.nativePage placeholder number)).session.webviews.length = _
        from h.webviews]
      rcases mem_swap hmem with hmem | ⟨rfl, hold⟩
      · rw [home_nativePage_ne (hne entry hmem)]
        exact hkept.home entry hmem
      · obtain ⟨home, hlt, hhome⟩ := hkept.home _ hold
        exact ⟨home, hlt, home_nativePage_self hhome⟩
    · rw [hpreloads,
        show (tracked.step host (.nativePage placeholder number)).session.webviews.length = _
          from h.webviews]
      exact hkept.pooled url
    · rw [hpreloads]
      intro known hknown kept hmem
      rw [show ((tracked.step host (.nativePage placeholder number)).session.webview known).page = _
        from h.kept known (hkept.pooled url known hknown)] at hmem
      split at hmem
      · rw [Option.mem_some] at hmem
        exact hmem ▸ hmade
      · exact hmono kept (hkept.recorded url known hknown kept hmem)

/-! ### The other events -/

/-- The second session comes from the first without a new entry on the stack. The pool may get a
webview that keeps no page. -/
structure Quiet (before after : Session σ) : Prop where
  pages : after.app.pages.Sublist before.app.pages
  pool : ∀ url, ∀ webview ∈ after.app.preloads.find? url,
    webview ∈ before.app.preloads.find? url ∨
      webview < before.webviews.length ∧ (before.webview webview).page = none
  placeholders : after.placeholders = before.placeholders
  webviews : before.webviews.length ≤ after.webviews.length
  kept : ∀ webview < before.webviews.length,
    (after.webview webview).page = (before.webview webview).page
  calls : before.calls <+: after.calls

/-- After a quiet event that gives no homes, all is kept, and no entry shares its webview that did
not do so before. -/
theorem step_quiet {before : Tracked σ} {host : Host σ} {event : Event}
    (h : Quiet before.session (before.step host event).session)
    (hhomes : before.newHomes host event = []) (hkept : before.Kept) :
    (before.OnePage → (before.step host event).OnePage) ∧ (before.step host event).Kept := by
  have hhome : (before.step host event).home? = before.home? := by
    funext entry
    rw [home?, step, hhomes]
    rfl
  generalize before.step host event = after at *
  have hmono : ∀ entry, Made before.session entry → Made after.session entry :=
    fun entry => Made.mono h.calls (Nat.le_of_eq (congrArg List.length h.placeholders).symm)
  -- A webview may be put into the pool, but it is one that was there before.
  have hexists : ∀ url, ∀ webview ∈ after.session.app.preloads.find? url,
      webview < before.session.webviews.length := by
    intro url webview hwebview
    rcases h.pool url webview hwebview with hold | ⟨hlt, -⟩
    · exact hkept.pooled url webview hold
    · exact hlt
  refine ⟨fun hone => ?_, ⟨?_, ?_, ?_, ?_⟩⟩
  · unfold OnePage
    rw [hhome]
    exact hone.sublist (h.pages.map _)
  · exact fun entry hmem => hmono entry (hkept.made entry (h.pages.subset hmem))
  · intro entry hmem
    obtain ⟨home, hlt, hentry⟩ := hkept.home entry (h.pages.subset hmem)
    exact ⟨home, Nat.lt_of_lt_of_le hlt h.webviews, hhome ▸ hentry⟩
  · exact fun url webview hwebview => Nat.lt_of_lt_of_le (hexists url webview hwebview) h.webviews
  · intro url webview hwebview page hpage
    rw [h.kept webview (hexists url webview hwebview)] at hpage
    rcases h.pool url webview hwebview with hold | ⟨-, hnone⟩
    · exact hmono page (hkept.recorded url webview hold page hpage)
    · rw [hnone] at hpage
      exact nomatch hpage

/-- The pool has what was put into it for a url, and what it had for the others. -/
theorem find_insert (pool : PreloadPool) (url key : String) (webview : Nat) :
    (pool.insert url webview).find? key = if key = url then some webview else pool.find? key := by
  obtain ⟨entries⟩ := pool
  show (Json.setMember url webview entries).lookup key =
    if key = url then some webview else entries.lookup key
  induction entries with
  | nil => grind [Json.setMember]
  | cons entry rest ih => grind [Json.setMember]

/-- It has nothing for a url whose webview was taken out, and what it had for the others. -/
theorem find_erase (pool : PreloadPool) (url key : String) :
    (pool.erase url).find? key = if key = url then none else pool.find? key := by
  obtain ⟨entries⟩ := pool
  show (entries.filter fun entry => entry.1 ≠ url).lookup key =
    if key = url then none else entries.lookup key
  induction entries with
  | nil => simp
  | cons entry rest ih => grind

/-- Registrations and native pages apart, an event is quiet. -/
theorem quiet_handle {tracked : Tracked σ} {host : Host σ} {event : Event}
    (hallowed : tracked.Allowed host event) (hregister : ∀ request, event ≠ .register request)
    (hnative : ∀ placeholder number, event ≠ .nativePage placeholder number) :
    Quiet tracked.session (tracked.session.handle host event) := by
  cases event with
  | register request => exact absurd rfl (hregister request)
  | nativePage placeholder number => exact absurd rfl (hnative placeholder number)
  | leave entry =>
      exact ⟨List.erase_sublist, fun _ _ => Or.inl, rfl, Nat.le_refl _, fun _ _ => rfl,
        List.prefix_refl _⟩
  | addWebview webview =>
      have hframe := frame_addWebview tracked.session webview
      exact ⟨List.Sublist.refl _, fun _ _ => Or.inl, rfl, hframe.webviews, hframe.kept,
        List.prefix_refl _⟩
  | preload url webview =>
      obtain ⟨hlt, hnone⟩ := hallowed
      have hframe := frame_modifyWebview tracked.session webview
        (fun known => { known with isPreload := true }) fun _ => rfl
      refine ⟨List.Sublist.refl _, fun key found hfound => ?_, rfl, hframe.webviews, hframe.kept,
        List.prefix_refl _⟩
      change found ∈ (tracked.session.app.preloads.insert url webview).find? key at hfound
      rw [find_insert] at hfound
      split at hfound
      · rw [Option.mem_some] at hfound
        -- the only one that is new in the pool, and it has no page yet
        exact Or.inr (hfound ▸ ⟨hlt, hnone⟩)
      · exact Or.inl hfound
  | takePreload url =>
      refine ⟨List.Sublist.refl _, fun key found hfound => Or.inl ?_, rfl, Nat.le_refl _,
        fun _ _ => rfl, List.prefix_refl _⟩
      change found ∈ (tracked.session.app.preloads.erase url).find? key at hfound
      rw [find_erase] at hfound
      split at hfound
      · exact nomatch hfound
      · exact hfound
  | perform actions =>
      have h := settled_perform tracked.session host actions
      refine ⟨h.pages_sublist, fun url webview hwebview => Or.inl (h.find? hwebview),
        h.placeholders, Nat.le_of_eq (congrArg List.length h.webviews).symm, fun webview _ => ?_,
        h.calls⟩
      exact congrArg Webview.page (webview_congr h.webviews webview)

/-! ### A whole run -/

/-- At the start there is nothing that could be wrong. -/
theorem kept_initial (config : Config) (state : σ) : (initial config state).Kept :=
  ⟨nofun, nofun, nofun, nofun⟩

/-- An allowed event keeps what every allowed run keeps. -/
theorem kept_step {tracked : Tracked σ} {host : Host σ} {event : Event} (hkept : tracked.Kept)
    (hallowed : tracked.Allowed host event) : (tracked.step host event).Kept := by
  cases event with
  | register request => exact kept_register hkept hallowed
  | nativePage placeholder number => exact (step_nativePage hkept hallowed).2
  | _ => exact (step_quiet (quiet_handle hallowed (fun _ => nofun) fun _ _ => nofun) rfl hkept).2

/-- An event puts a second entry of a webview on the stack only if it is a registration that does
not notice the first. -/
theorem onePage_step_iff {tracked : Tracked σ} {host : Host σ} {event : Event}
    (hkept : tracked.Kept) (hallowed : tracked.Allowed host event) (hone : tracked.OnePage) :
    (tracked.step host event).OnePage ↔
      ∀ request, event = .register request → tracked.Notices request.url := by
  cases event with
  | register request =>
      rw [onePage_register_iff hkept hallowed]
      exact ⟨fun h other heq => by cases heq; exact h.2, fun h => ⟨hone, h request rfl⟩⟩
  | nativePage placeholder number =>
      exact iff_of_true ((step_nativePage hkept hallowed).1.mpr hone) fun _ => nofun
  | _ =>
      have hquiet := quiet_handle hallowed (fun _ => nofun) fun _ _ => nofun
      exact iff_of_true ((step_quiet hquiet rfl hkept).1 hone) fun _ => nofun

/-- The same for a run from any session in which all is kept and the stack is in order. The
induction is on the events, so that the first one is done in the session at hand. -/
theorem onePage_run_iff {host : Host σ} {events : List Event} {tracked : Tracked σ}
    (hkept : tracked.Kept) (hone : tracked.OnePage) (hallowed : AllowedRun host events tracked) :
    (∀ done, done <+: events → (tracked.run host done).OnePage) ↔
      ∀ done request, done ++ [.register request] <+: events →
        (tracked.run host done).Notices request.url := by
  induction events generalizing tracked with
  | nil =>
      refine iff_of_true (fun done h => ?_) fun done request h => ?_
      · rw [List.prefix_nil.mp h]
        exact hone
      · simp at h
  | cons event rest ih =>
      obtain ⟨hevent, hrest⟩ := hallowed
      have hstep := onePage_step_iff hkept hevent hone
      -- either way the first event is settled by itself before the run behind it is looked at
      constructor
      · intro hall done request hdone
        have hfirst : (tracked.step host event).OnePage :=
          hall [event] (List.prefix_cons_inj event |>.mpr (List.nil_prefix))
        cases done with
        | nil =>
            obtain ⟨rfl, -⟩ := List.cons_prefix_cons.mp hdone
            exact hstep.mp hfirst request rfl
        | cons head done =>
            obtain ⟨rfl, htail⟩ := List.cons_prefix_cons.mp hdone
            exact (ih (kept_step hkept hevent) hfirst hrest).mp
              (fun more hmore => hall (head :: more) (List.cons_prefix_cons.mpr ⟨rfl, hmore⟩))
              done request htail
      · intro hall done hdone
        have hfirst : (tracked.step host event).OnePage :=
          hstep.mpr fun request heq =>
            hall [] request (List.cons_prefix_cons.mpr ⟨heq.symm, List.nil_prefix⟩)
        cases done with
        | nil => exact hone
        | cons head done =>
            obtain ⟨rfl, htail⟩ := List.cons_prefix_cons.mp hdone
            exact (ih (kept_step hkept hevent) hfirst hrest).mpr
              (fun more request hmore =>
                hall (head :: more) request (List.cons_prefix_cons.mpr ⟨rfl, hmore⟩))
              done htail

/-- In an allowed run of an app that has just been started, no two entries of the page stack ever
belong to the same webview if and only if every registration notices the entry that the pooled
webview has on the stack. -/
theorem onePage_iff_noticed (host : Host σ) (config : Config) (state : σ) (events : List Event)
    (hallowed : AllowedRun host events (initial config state)) :
    (∀ done, done <+: events → ((initial config state).run host done).OnePage) ↔
      ∀ done request, done ++ [.register request] <+: events →
        ((initial config state).run host done).Notices request.url :=
  onePage_run_iff (kept_initial config state) List.nodup_nil hallowed

/-! ### A page that is rendered natively -/

open Simulation (Platform)

/-- A platform with one route, whose page is rendered natively. -/
def nativePlatform : Platform where
  routes := [("/a", { route := "a", isNative := true })]
  nextId := 2
  marksNative := true
  device := ⟨"android", ⟨0x4000000000000000⟩, ⟨0x4076800000000000⟩⟩
  statusbarHeight := ⟨0x4034000000000000⟩

/-- Asks for the page of that route. -/
def nativeRequest : Request where
  url := "/a"
  path := "/a"
  query := []
  openType := .navigateTo
  webview := none

/-- The page is registered again once it is there. -/
def registeredLater : List Event :=
  [.addWebview { id := 7 }, .preload "/a" 0, .register nativeRequest, .nativePage 0 0,
    .register nativeRequest]

/-- The page is registered again before it is there. -/
def registeredSooner : List Event :=
  [.addWebview { id := 7 }, .preload "/a" 0, .register nativeRequest, .register nativeRequest]

/-- Where the second registration waits for the native page, the exact condition applies to the
whole run. -/
theorem onePage_registeredLater :
    AllowedRun Platform.host registeredLater (initial {} nativePlatform) ∧
      ((∀ done, done <+: registeredLater →
          ((initial {} nativePlatform).run Platform.host done).OnePage) ↔
        ∀ done request, done ++ [.register request] <+: registeredLater →
          ((initial {} nativePlatform).run Platform.host done).Notices request.url) :=
  ⟨by decide, onePage_iff_noticed Platform.host {} nativePlatform registeredLater (by decide)⟩

/-- A pooled webview gets two placeholders if its native page is registered twice before it is
there, although every event of that run is allowed. -/
theorem two_placeholders :
    AllowedRun Platform.host registeredSooner (initial {} nativePlatform) ∧
      ¬ ((initial {} nativePlatform).run Platform.host registeredSooner).OnePage := by
  decide

end MiniApp.Session.Tracked
