import MiniApp.Proofs.Session.OnePage
import MiniApp.Proofs.Session.Registration

/-!
# The page stack in every reachable state

Three things hold of a session whatever happens to it: no entry stands on the page stack twice,
every placeholder on the stack still holds the page that it stands in for, and no webview keeps a
placeholder. They hold together only. A native page is put in the place where its placeholder is met
first, so that a second place of the same placeholder would stay; and the page that a webview keeps
is put back on the stack if it is not there, so that a placeholder kept by a webview would come back
after its page has come.

`Reachable` says what may happen: the events of a run in any order, with requests that may hand over
webviews, and changes of the host's own state in between. It is assumed that every page that is made
or handed over is a new one and that every webview starts without a page. Nothing is assumed about
which webview the host finds under an id.

`Ordered` is what every step keeps; it also says that pages on the stack and pages kept by webviews
are among those that have been made, which is why a new page is not one of them.
-/

set_option autoImplicit false

namespace MiniApp.Session

open MiniApp.App MiniApp.Page
open Tracked (knownPages_mono)

variable {σ : Type}

/-! ### What may happen to a session -/

/-- The host makes webviews without a page. -/
def Host.MakesBlank (host : Host σ) : Prop :=
  ∀ webview path route query state,
    ((host.createWebview webview path route query).run state).1.page = none

/-- What is assumed of an event: a page that is made or handed over is a new one, and a webview
starts without a page. -/
def Event.IsFresh (host : Host σ) (session : Session σ) : Event → Prop
  | .register request =>
    ∀ call ∈ (session.register host request).2.calls.drop session.calls.length,
      ∀ number ∈ call.page?, number ∉ session.knownPages
  | .nativePage _ number => number ∉ session.knownPages
  | .addWebview webview => webview.page = none
  | .leave _ | .preload .. | .takePreload _ | .perform _ => True

/-- The sessions that an app comes to on a host. -/
inductive Reachable (host : Host σ) : Session σ → Prop
  | start (config : Config) (state : σ) :
      Reachable host { app := .initial config, host := state }
  | handle {session : Session σ} (event : Event) (hreachable : Reachable host session)
      (hfresh : event.IsFresh host session) : Reachable host (session.handle host event)
  /-- The state of the host may change between two events. -/
  | hostMoves {session : Session σ} (state : σ) (hreachable : Reachable host session) :
      Reachable host { session with host := state }

/-- Every event of a run is fresh when it comes. -/
def FreshRun (host : Host σ) : List Event → Session σ → Prop
  | [], _ => True
  | event :: rest, session =>
    event.IsFresh host session ∧ FreshRun host rest (session.handle host event)

/-- A run of fresh events leads from one reachable session to another. -/
theorem Reachable.run {host : Host σ} {session : Session σ} (h : Reachable host session)
    (events : List Event) (hfresh : FreshRun host events session) :
    Reachable host (events.foldl (fun reached event => reached.handle host event) session) := by
  -- The session changes with every event, so the induction is for all sessions at once.
  induction events generalizing session with
  | nil => exact h
  | cons event rest ih => exact ih (h.handle event hfresh.1) hfresh.2

instance (host : Host σ) (session : Session σ) (event : Event) :
    Decidable (event.IsFresh host session) :=
  match event with
  | .register request => inferInstanceAs (Decidable
      (∀ call ∈ (session.register host request).2.calls.drop session.calls.length,
        ∀ number ∈ call.page?, number ∉ session.knownPages))
  | .nativePage _ number => inferInstanceAs (Decidable (number ∉ session.knownPages))
  | .addWebview webview => inferInstanceAs (Decidable (webview.page = none))
  | .leave _ | .preload .. | .takePreload _ | .perform _ => inferInstanceAs (Decidable True)

instance decidableFreshRun (host : Host σ) :
    (events : List Event) → (session : Session σ) → Decidable (FreshRun host events session)
  | [], _ => inferInstanceAs (Decidable True)
  | event :: rest, session =>
    have := decidableFreshRun host rest (session.handle host event)
    inferInstanceAs (Decidable (event.IsFresh host session ∧
      FreshRun host rest (session.handle host event)))

/-! ### What every step keeps -/

/-- What an entry of the page stack stands on: a placeholder still holds its page, and a page has
been made. -/
def Stands (session : Session σ) : Entry → Prop
  | .placeholder number => ∃ webview page, session.placeholders[number]? = some ⟨webview, some page⟩
  | .page number => number ∈ session.knownPages

/-- The page stack is in order. -/
structure Ordered (session : Session σ) : Prop where
  nodup : session.app.pages.Nodup
  stands : ∀ entry ∈ session.app.pages, Stands session entry
  recorded : ∀ webview ∈ session.webviews, ∀ entry ∈ webview.page,
    ∃ number ∈ session.knownPages, entry = .page number

/-- An entry stands on what it stood on after more calls and more placeholders. -/
theorem Stands.mono {before after : Session σ} {entry : Entry} (h : Stands before entry)
    (hcalls : before.calls <+: after.calls)
    (hplaceholders : before.placeholders <+: after.placeholders) : Stands after entry := by
  cases entry with
  | placeholder number =>
      obtain ⟨webview, page, hheld⟩ := h
      obtain ⟨hlt, -⟩ := List.getElem?_eq_some_iff.mp hheld
      obtain ⟨more, hmore⟩ := hplaceholders
      refine ⟨webview, page, ?_⟩
      rw [← hmore, List.getElem?_append_left hlt]
      exact hheld
  | page number => exact knownPages_mono hcalls h

/-- One entry more on the stack keeps the order, if it is new there and stands. -/
theorem Ordered.push {before after : Session σ} {entry : Entry} (h : Ordered before)
    (hpages : after.app.pages = before.app.pages ++ [entry]) (hnew : entry ∉ before.app.pages)
    (hcalls : before.calls <+: after.calls)
    (hplaceholders : before.placeholders <+: after.placeholders) (hstands : Stands after entry)
    (hrecorded : ∀ webview ∈ after.webviews, ∀ kept ∈ webview.page,
      ∃ number ∈ after.knownPages, kept = .page number) : Ordered after where
  nodup := by
    rw [hpages, ← List.concat_eq_append]
    exact h.nodup.concat hnew
  stands other hmem := by
    rw [hpages, List.mem_append, List.mem_singleton] at hmem
    rcases hmem with hmem | rfl
    · exact (h.stands other hmem).mono hcalls hplaceholders
    · exact hstands
  recorded := hrecorded

/-- The pages that webviews keep have been made also after more calls. -/
theorem Ordered.recorded_mono {before after : Session σ} (h : Ordered before)
    (hcalls : before.calls <+: after.calls) {webview : Webview} (hmem : webview ∈ before.webviews)
    {entry : Entry} (hkept : entry ∈ webview.page) :
    ∃ number ∈ after.knownPages, entry = .page number := by
  obtain ⟨number, hnumber, rfl⟩ := h.recorded webview hmem entry hkept
  exact ⟨number, knownPages_mono hcalls hnumber, rfl⟩

/-- A webview that keeps a page is one that the session knows. -/
theorem mem_webviews {session : Session σ} {webview : Nat} {entry : Entry}
    (h : (session.webview webview).page = some entry) :
    session.webview webview ∈ session.webviews := by
  unfold Session.webview at h ⊢
  rw [List.getD_eq_getElem?_getD] at h ⊢
  cases hknown : session.webviews[webview]? with
  | none =>
      rw [hknown] at h
      exact nomatch h
  | some known => exact List.mem_of_getElem? hknown

/-- A webview after a change of one webview is one from before or the changed one. -/
theorem mem_modify {webviews : List Webview} {number : Nat} {change : Webview → Webview}
    {webview : Webview} (h : webview ∈ webviews.modify number change) :
    webview ∈ webviews ∨ ∃ known, webviews[number]? = some known ∧ webview = change known := by
  obtain ⟨place, hplace⟩ := List.mem_iff_getElem?.mp h
  rw [List.getElem?_modify] at hplace
  cases hknown : webviews[place]? with
  | none =>
      rw [hknown] at hplace
      exact nomatch hplace
  | some known =>
      rw [hknown] at hplace
      by_cases hnumber : number = place
      · subst hnumber
        refine Or.inr ⟨known, hknown, ?_⟩
        simpa using hplace.symm
      · refine Or.inl (List.mem_of_getElem? (hknown.trans ?_))
        simpa [hnumber] using hplace

/-! ### Registrations -/

/-- The webview in which a page is opened keeps no page that it did not keep before, if it is one
that has just been made or that was there. -/
theorem Provides.page_mem {session : Session σ} {host : Host σ} (hblank : host.MakesBlank)
    {request : Request} {route : RouteOptions} {state state' : σ} {given : Option Nat}
    {call : Call} {number : Nat} {webviews : List Webview}
    (h : Provides session host request route state given call number webviews state')
    {webview : Webview}
    (hmem : webview ∈ webviews) {entry : Entry} (hkept : entry ∈ webview.page) :
    ∃ known ∈ session.webviews, entry ∈ known.page := by
  cases h with
  | created added after answer =>
      rw [List.mem_append, List.mem_singleton] at hmem
      rcases hmem with hmem | rfl
      · exact ⟨webview, hmem, hkept⟩
      · have hnone := hblank session.webviews.length request.path route request.query state
        rw [answer] at hnone
        exact nomatch hkept.symm.trans hnone
  | found given found after answer =>
      rcases mem_modify hmem with hmem | ⟨known, hknown, rfl⟩
      · exact ⟨webview, hmem, hkept⟩
      · exact ⟨known, List.mem_of_getElem? hknown, hkept⟩

/-- An entry that a webview keeps from now on is no placeholder. -/
theorem mem_page_keeping {entry kept : Entry} {known : Webview}
    (h : kept ∈ (keeping entry known).page) :
    kept ∈ known.page ∨ kept = entry ∧ known.isNative = false := by
  unfold keeping at h
  split at h
  · rename_i hkeeps
    rw [Bool.and_eq_true, Bool.not_eq_true'] at hkeeps
    rw [Option.mem_some] at h
    exact Or.inr ⟨h.symm, hkeeps.2⟩
  · exact Or.inl h

/-- What a webview keeps after a page has been opened it kept before, or it is the new entry and the
webview is the one of the page and not native. -/
theorem Opens.kept {session : Session σ} {host : Host σ} (hblank : host.MakesBlank)
    {request : Request} {resolved : RouteOptions × σ} {given : Option Nat}
    {opened : Nat × Session σ} {made : List Call} {entry : Entry}
    (h : Opens session host request resolved given opened made entry) {webview : Webview}
    (hmem : webview ∈ opened.2.webviews) {kept : Entry} (hkept : kept ∈ webview.page) :
    (∃ known ∈ session.webviews, kept ∈ known.page) ∨
      kept = entry ∧ (opened.2.marks opened.1).2 = false := by
  have hsteps := h.steps
  generalize hwebviews : opened.2.webviews = webviews at hsteps hmem
  cases hsteps with
  | inOrder settings provided known before state page rendered _ _ _ hsettings hprovided hpage
      hrendered =>
  rcases mem_modify hmem with hmem | ⟨other, hother, rfl⟩
  · exact Or.inl (hprovided.page_mem hblank hmem hkept)
  · rcases mem_page_keeping hkept with hkept | ⟨rfl, hnative⟩
    · exact Or.inl (hprovided.page_mem hblank (List.mem_of_getElem? hother) hkept)
    -- The new entry is kept by a webview that is not native, and its marks say so.
    · have hself : opened.2.webview opened.1 = hosting request kept other :=
        webview_of_getElem? (by simp [hwebviews, hother])
      refine Or.inr ⟨rfl, ?_⟩
      show (opened.2.webview opened.1).isNative = false
      rw [hself, hosting, keeping_isNative]
      exact hnative

/-- Opening a page keeps the order: a placeholder that is put on the stack has a new number, and a
page that has been made is a new one. -/
theorem Ordered.opens {session : Session σ} {host : Host σ} (h : Ordered session)
    (hblank : host.MakesBlank) {request : Request} {resolved : RouteOptions × σ}
    {given : Option Nat} {opened : Nat × Session σ} {started made : List Call} {entry : Entry}
    (hopens : Opens session host request resolved given opened made entry)
    (hcalls : opened.2.calls = session.calls ++ (started ++ made))
    (hfresh : ∀ call ∈ made, ∀ number ∈ call.page?, number ∉ session.knownPages) :
    Ordered opened.2 := by
  have hprefix : session.calls <+: opened.2.calls := by
    rw [hcalls]
    exact List.prefix_append _ _
  have hrecorded : ∀ webview ∈ opened.2.webviews, ∀ kept ∈ webview.page,
      (∃ number ∈ opened.2.knownPages, kept = .page number) ∨
        kept = entry ∧ (opened.2.marks opened.1).2 = false := by
    intro webview hmem kept hkept
    rcases hopens.kept hblank hmem hkept with ⟨known, hknown, hpage⟩ | hentry
    · exact Or.inl (h.recorded_mono hprefix hknown hpage)
    · exact Or.inr hentry
  have hsteps := hopens.steps
  generalize hplaceholders : opened.2.placeholders = placeholders,
    hmarks : opened.2.marks opened.1 = marks, opened.2.webviews = webviews,
    opened.2.host = left at hsteps
  cases hsteps with
  | inOrder settings provided known before state page rendered _ _ _ hsettings hprovided hpage
      hrendered =>
  cases hrendered with
  | placeholder id =>
      -- Placeholders are numbered in order, and those on the stack have their numbers already.
      have hnew : Entry.placeholder session.placeholders.length ∉ session.app.pages := by
        intro hmem
        obtain ⟨webview, held, hheld⟩ := h.stands _ hmem
        simp at hheld
      have hstands : Stands opened.2 (.placeholder session.placeholders.length) :=
        ⟨opened.1, page.1, by rw [hplaceholders]; simp⟩
      have hmore : session.placeholders <+: opened.2.placeholders := by
        rw [hplaceholders]
        exact List.prefix_append _ _
      refine h.push hopens.pages hnew hprefix hmore hstands ?_
      intro webview hmem kept hkept
      rcases hrecorded webview hmem kept hkept with hkept | ⟨-, hnative⟩
      · exact hkept
      · -- The webview of a placeholder is native and keeps nothing new.
        rw [hmarks] at hnative
        exact nomatch hnative
  | page id created options after _ answer =>
      -- The call that makes the page is one of this registration, so that the page is new.
      have hmade : .createPage created id (routeOfPath request.path) request.query page.1 options ∈
          opened.2.calls := by
        rw [hcalls]
        simp
      have hcreated : created ∈ opened.2.knownPages := List.mem_filterMap.mpr ⟨_, hmade, rfl⟩
      have hnew : Entry.page created ∉ session.app.pages := by
        intro hmem
        exact hfresh _ (List.mem_append_right _ (List.mem_singleton_self _)) created rfl
          (h.stands _ hmem)
      have hsame : session.placeholders <+: opened.2.placeholders := by simp [hplaceholders]
      refine h.push hopens.pages hnew hprefix hsame hcreated ?_
      intro webview hmem kept hkept
      rcases hrecorded webview hmem kept hkept with hkept | ⟨rfl, -⟩
      · exact hkept
      · exact ⟨created, hcreated, rfl⟩

/-- Putting a page back keeps the order: a webview has kept it, so that it has been made, and it is
not on the stack. -/
theorem Ordered.reuses {session after : Session σ} (h : Ordered session) {url : String}
    {webview : Nat} {page : Entry} (hreuses : session.Reuses url webview page)
    (happ : after.app = session.app.push page) (hwebviews : after.webviews = session.webviews)
    (hplaceholders : after.placeholders = session.placeholders)
    (hcalls : session.calls <+: after.calls) : Ordered after := by
  -- What a webview keeps is a page. A placeholder that is put back might have given up its own.
  obtain ⟨number, hnumber, rfl⟩ := h.recorded _ (mem_webviews hreuses.kept) page hreuses.kept
  have hpages : after.app.pages = session.app.pages ++ [.page number] := by
    rw [happ]
    rfl
  refine h.push hpages hreuses.hidden hcalls ?_ (knownPages_mono hcalls hnumber) ?_
  · simp [hplaceholders]
  · intro known hknown kept hkept
    rw [hwebviews] at hknown
    exact h.recorded_mono hcalls hknown hkept

/-- A registration keeps the order, whichever of the two it does. -/
theorem Ordered.register {session : Session σ} {host : Host σ} {request : Request}
    (h : Ordered session) (hblank : host.MakesBlank)
    (hfresh : (Event.register request).IsFresh host session) :
    Ordered (session.register host request).2 := by
  have hfresh : ∀ call ∈ (session.register host request).2.calls.drop session.calls.length,
      ∀ number ∈ call.page?, number ∉ session.knownPages := hfresh
  obtain ⟨happ, hwebviews, hplaceholders, hentered⟩ := entered_spec session host request
  -- An old page comes to the top again, or a new entry does.
  rcases register_cases session host request with ⟨webview, page, hreuses, heq⟩ | ⟨-, heq⟩
  · rw [heq]
    refine h.reuses hreuses ?_ hwebviews hplaceholders ?_
    · rw [← happ]
      rfl
    · show session.calls <+: (session.entered host request).calls
      rw [hentered]
      exact List.prefix_append _ _
  · obtain ⟨made, entry, hcalls, hopens⟩ := openPage_opens (session.entered host request) host
      request (session.offered request)
    rw [← heq] at hcalls hopens
    rw [hentered, List.append_assoc] at hcalls
    refine h.opens hblank (hopens.congr happ.symm hwebviews.symm hplaceholders.symm) hcalls ?_
    intro call hmem
    refine hfresh call ?_
    rw [hcalls, List.drop_left]
    exact List.mem_append_right _ hmem

/-! ### Native pages -/

/-- Where no entry is met twice, an entry is swapped by replacing it wherever it is. -/
theorem pages_swap {app : State} (hnodup : app.pages.Nodup) (old new : Entry) :
    (app.swap old new).pages = app.pages.map fun entry => if entry = old then new else entry := by
  unfold State.swap
  cases hplace : app.pages.idxOf? old with
  | none =>
      have hold : old ∉ app.pages := List.idxOf?_eq_none_iff.mp hplace
      have hsame : ∀ entry ∈ app.pages, (if entry = old then new else entry) = entry := by
        intro entry hmem
        rw [if_neg]
        rintro rfl
        exact hold hmem
      rw [List.map_congr_left hsame, List.map_id']
  | some place =>
      obtain ⟨hlt, hentry, -⟩ := List.idxOf?_eq_some_iff.mp hplace
      refine List.ext_getElem (by simp) fun number h _ => ?_
      have hnumber : number < app.pages.length := by simpa using h
      have hmet : app.pages[number] = old ↔ place = number := by
        rw [← hentry, hnodup.getElem_inj_iff]
        exact eq_comm
      simp [List.getElem_set, hmet]

/-- A native page keeps the order: it takes the only place of its placeholder, which holds nothing
from then on. -/
theorem Ordered.nativePage {session : Session σ} (h : Ordered session) (host : Host σ)
    {placeholder number : Nat} (hnew : number ∉ session.knownPages) :
    Ordered (session.nativePageCreated host placeholder number).2 := by
  rcases nativePageCreated_spec session host placeholder number with
    hsame | ⟨alive, webview, page, htakes⟩
  · rw [hsame]
    exact h
  generalize (session.nativePageCreated host placeholder number).2 = after at *
  have hcalls : session.calls <+: after.calls := by
    rw [htakes.calls]
    exact List.prefix_append _ _
  have hnumber : number ∈ after.knownPages := by
    refine List.mem_filterMap.mpr ⟨.attach number webview page, ?_, rfl⟩
    simp [htakes.calls]
  have hpages : after.app.pages = session.app.pages.map fun entry =>
      if entry = .placeholder placeholder then .page number else entry := by
    rw [htakes.app, pages_swap h.nodup]
  constructor
  -- The page that comes is not on the stack, so that no two entries become one.
  · rw [hpages]
    refine h.nodup.map_on fun entry hentry other hother heq => ?_
    have hne : ∀ known ∈ session.app.pages, known ≠ .page number := by
      rintro known hmem rfl
      exact hnew (h.stands _ hmem)
    have hentry := hne entry hentry
    have hother := hne other hother
    split at heq <;> split at heq <;> simp_all
  · intro entry hmem
    rw [hpages, List.mem_map] at hmem
    obtain ⟨known, hknown, rfl⟩ := hmem
    split
    · exact hnumber
    · rename_i hne
      cases known with
      | page made => exact knownPages_mono hcalls (h.stands _ hknown)
      | placeholder other =>
          -- Only the placeholder whose page has come gives up its own, and that one has left.
          obtain ⟨home, held, hheld⟩ := h.stands _ hknown
          refine ⟨home, held, ?_⟩
          rw [htakes.placeholders, List.getElem?_set_ne]
          · exact hheld
          · rintro rfl
            exact hne rfl
  -- A webview keeps what it kept or the page that has come, never a placeholder.
  · intro known hknown kept hkept
    obtain ⟨place, hplace⟩ := List.mem_iff_getElem?.mp hknown
    have hself : after.webview place = known := webview_of_getElem? hplace
    have hlt : place < session.webviews.length := by
      rw [← htakes.webviews]
      exact (List.getElem?_eq_some_iff.mp hplace).1
    rw [← hself, htakes.kept place hlt] at hkept
    split at hkept
    · rw [Option.mem_some] at hkept
      exact ⟨number, hnumber, hkept.symm⟩
    · exact h.recorded_mono hcalls (mem_webviews hkept) hkept

/-! ### The other events -/

/-- The stack stays in order if no entry and no page of a webview is added. -/
theorem Ordered.quiet {before after : Session σ} (h : Ordered before)
    (hpages : after.app.pages.Sublist before.app.pages)
    (hplaceholders : after.placeholders = before.placeholders)
    (hcalls : before.calls <+: after.calls)
    (hwebviews : ∀ webview ∈ after.webviews, ∀ entry ∈ webview.page,
      ∃ known ∈ before.webviews, entry ∈ known.page) : Ordered after where
  nodup := h.nodup.sublist hpages
  stands entry hmem := by
    have hsame : before.placeholders <+: after.placeholders := by simp [hplaceholders]
    exact (h.stands entry (hpages.subset hmem)).mono hcalls hsame
  recorded webview hmem entry hkept := by
    obtain ⟨known, hknown, hpage⟩ := hwebviews webview hmem entry hkept
    exact h.recorded_mono hcalls hknown hpage

/-- Whatever happens to a session, the stack stays in order. -/
theorem Ordered.handle {session : Session σ} {host : Host σ} {event : Event} (h : Ordered session)
    (hblank : host.MakesBlank) (hfresh : event.IsFresh host session) :
    Ordered (session.handle host event) := by
  cases event with
  | register request => exact h.register hblank hfresh
  | nativePage placeholder number => exact h.nativePage host hfresh
  | leave entry =>
      exact h.quiet List.erase_sublist rfl (List.prefix_refl _) fun webview hmem entry hkept =>
        ⟨webview, hmem, hkept⟩
  | takePreload url =>
      exact h.quiet (List.Sublist.refl _) rfl (List.prefix_refl _) fun webview hmem entry hkept =>
        ⟨webview, hmem, hkept⟩
  | addWebview webview =>
      refine h.quiet (List.Sublist.refl _) rfl (List.prefix_refl _) ?_
      intro known hmem entry hkept
      change known ∈ session.webviews ++ [webview] at hmem
      rw [List.mem_append, List.mem_singleton] at hmem
      rcases hmem with hmem | rfl
      · exact ⟨known, hmem, hkept⟩
      · -- The added webview keeps no page.
        have hnone : known.page = none := hfresh
        rw [hnone] at hkept
        exact nomatch hkept
  | preload url webview =>
      refine h.quiet (List.Sublist.refl _) rfl (List.prefix_refl _) ?_
      intro known hmem entry hkept
      rcases mem_modify hmem with hmem | ⟨other, hother, rfl⟩
      · exact ⟨known, hmem, hkept⟩
      · exact ⟨other, List.mem_of_getElem? hother, hkept⟩
  | perform actions =>
      have hsettled := settled_perform session host actions
      refine h.quiet hsettled.pages_sublist hsettled.placeholders hsettled.calls ?_
      rw [hsettled.webviews]
      intro webview hmem entry hkept
      exact ⟨webview, hmem, hkept⟩

/-! ### Every reachable state -/

/-- The stack of an app that has just been started is in order, and it stays so. -/
theorem ordered_of_reachable {host : Host σ} (hblank : host.MakesBlank) {session : Session σ}
    (h : Reachable host session) : Ordered session := by
  induction h with
  | start config state => exact ⟨List.nodup_nil, nofun, nofun⟩
  | handle event hreachable hfresh ih => exact ih.handle hblank hfresh
  | hostMoves state hreachable ih => exact ⟨ih.nodup, ih.stands, ih.recorded⟩

/-- In every reachable state no entry is on the page stack twice, every placeholder on the stack
still holds its page, and no webview keeps a placeholder. -/
theorem stack_of_reachable (host : Host σ) (hblank : host.MakesBlank) (session : Session σ)
    (hreachable : Reachable host session) :
    session.app.pages.Nodup ∧
      (∀ number, .placeholder number ∈ session.app.pages →
        ∃ webview page, session.placeholders[number]? = some ⟨webview, some page⟩) ∧
      ∀ webview ∈ session.webviews, ∀ number, webview.page ≠ some (.placeholder number) := by
  have hordered := ordered_of_reachable hblank hreachable
  refine ⟨hordered.nodup, fun number hmem => hordered.stands _ hmem, ?_⟩
  intro webview hmem number hkept
  obtain ⟨made, -, hpage⟩ := hordered.recorded webview hmem _ hkept
  exact nomatch hpage

/-! ### A run that does all of it -/

open Simulation (Platform)

/-- The platform makes webviews that keep no page. -/
theorem makesBlank_platform : Host.MakesBlank Platform.host := fun _ _ _ _ _ => rfl

/-- A native page comes, is left and put back, and is on the stack when it is registered again. -/
def putBack : List Event :=
  [.addWebview { id := 7 }, .preload "/a" 0, .register Tracked.nativeRequest, .nativePage 0 0,
    .leave (.page 0), .register Tracked.nativeRequest, .register Tracked.nativeRequest]

/-- The app after that run. -/
def afterPutBack : Session Platform :=
  putBack.foldl (fun reached event => reached.handle Platform.host event)
    { app := .initial {}, host := Tracked.nativePlatform }

/-- That run ends with a page and a placeholder on the stack, and the stack is in order. -/
theorem stack_afterPutBack :
    Reachable Platform.host afterPutBack ∧
      afterPutBack.app.pages = [.page 0, .placeholder 1] ∧ afterPutBack.app.pages.Nodup ∧
      (∀ number, .placeholder number ∈ afterPutBack.app.pages →
        ∃ webview page, afterPutBack.placeholders[number]? = some ⟨webview, some page⟩) ∧
      ∀ webview ∈ afterPutBack.webviews, ∀ number, webview.page ≠ some (.placeholder number) := by
  have hreachable : Reachable Platform.host afterPutBack :=
    (Reachable.start {} Tracked.nativePlatform).run putBack (by decide)
  have hpages : afterPutBack.app.pages = [.page 0, .placeholder 1] := by decide
  exact ⟨hreachable, hpages,
    stack_of_reachable Platform.host makesBlank_platform afterPutBack hreachable⟩

end MiniApp.Session
