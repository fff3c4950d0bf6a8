import MiniApp.Proofs.Session.Preloaded

/-!
# A preloaded webview shows its own page

The page that a preloaded webview keeps is put back on the page stack as it is, without a look at
how it was opened. That it was opened under the url that is asked for holds by the history of the
webview alone (`putsBack_ownPage`): only registrations of the url for which it is in the pool open a
page in it. The page may be kept at once, when it has been rendered, or much later, when it is
native and comes to a placeholder that may have left the stack by then.

`OwnPage` is what ties these together: every placeholder that still waits in the webview, and the
page that the webview keeps, have been opened under the url of the webview.
-/

set_option autoImplicit false

namespace MiniApp.Session

open MiniApp.App MiniApp.Page

variable {σ : Type}

/-! ### What is assumed of a run -/

/-- The host tells every page the url under which it was asked for. -/
def Host.TellsUrl (host : Host σ) : Prop :=
  ∀ openType url query settings state,
    ((host.createInstance openType url query settings).run state).1.fullPath = url

/-- A host that leaves it to the app to say how a page was opened tells every page its url. -/
theorem tellsUrl_default {host : Host σ} (h : ∀ openType url query settings,
    host.createInstance openType url query settings =
      pure (Instance.create openType url query settings)) : host.TellsUrl := by
  intro openType url query settings state
  rw [h]
  rfl

/-- The webview is there and vacant: it keeps no page, and no placeholder has ever waited in it. Nor
is it in the preload pool. -/
structure IsVacant (session : Session σ) (webview : Nat) : Prop where
  exists_webview : webview < session.webviews.length
  unpooled : webview ∉ session.app.preloads.webviews
  blank : (session.webview webview).page = none
  unawaited : ∀ placeholder ∈ session.placeholders, placeholder.webview ≠ webview

/-- What is assumed of a call that a registration makes: under an id the host finds a webview that
has this id, and a page that is rendered is a new one. -/
def Call.IsOrderly (session : Session σ) : Call → Prop
  | .findWebview id (some number) =>
    number < session.webviews.length ∧ (session.webview number).id = id
  | .createPage created .. => created ∉ session.knownPages
  | _ => True

/-- What is assumed of an event: the webviews have different ids, no request hands over a webview of
the pool, every page is a new one, and a webview is vacant when it is put into the pool. -/
def IsOrderly (host : Host σ) (session : Session σ) : Event → Prop
  | .register request => (session.webviews.map Webview.id).Nodup ∧
    (∀ given ∈ request.webview, given < session.webviews.length ∧
      given ∉ session.app.preloads.webviews) ∧
    ∀ call ∈ (session.register host request).2.calls.drop session.calls.length,
      call.IsOrderly session
  | .nativePage _ number => number ∉ session.knownPages
  | .preload _ webview => session.IsVacant webview
  | _ => True

instance (session : Session σ) (webview : Nat) : Decidable (session.IsVacant webview) :=
  decidable_of_iff (webview < session.webviews.length ∧
      webview ∉ session.app.preloads.webviews ∧ (session.webview webview).page = none ∧
      ∀ placeholder ∈ session.placeholders, placeholder.webview ≠ webview)
    ⟨fun ⟨hexists, hunpooled, hblank, hunawaited⟩ =>
        ⟨hexists, hunpooled, hblank, hunawaited⟩,
      fun h => ⟨h.exists_webview, h.unpooled, h.blank, h.unawaited⟩⟩

instance (session : Session σ) (call : Call) : Decidable (call.IsOrderly session) :=
  match call with
  | .findWebview id (some number) => inferInstanceAs (Decidable
      (number < session.webviews.length ∧ (session.webview number).id = id))
  | .createPage created .. => inferInstanceAs (Decidable (created ∉ session.knownPages))
  | .findWebview _ none | .initEntry | .resolveRoute .. | .createWebview .. | .initWebview ..
  | .createInstance .. | .closeSplash | .finishNavigation | .attach .. | .report _ =>
    inferInstanceAs (Decidable True)

instance (host : Host σ) (session : Session σ) (event : Event) :
    Decidable (IsOrderly host session event) :=
  match event with
  | .register request => inferInstanceAs (Decidable ((session.webviews.map Webview.id).Nodup ∧
      (∀ given ∈ request.webview, given < session.webviews.length ∧
        given ∉ session.app.preloads.webviews) ∧
      ∀ call ∈ (session.register host request).2.calls.drop session.calls.length,
        call.IsOrderly session))
  | .nativePage _ number => inferInstanceAs (Decidable (number ∉ session.knownPages))
  | .preload _ webview => inferInstanceAs (Decidable (session.IsVacant webview))
  | .leave _ | .addWebview _ | .takePreload _ | .perform _ => inferInstanceAs (Decidable True)

/-! ### What every orderly run keeps -/

/-- The page has been opened, and always under this url. -/
def OpenedUnder (session : Session σ) (url : String) (number : Nat) : Prop :=
  (∃ page, (number, page) ∈ session.openedPages) ∧
    ∀ page, (number, page) ∈ session.openedPages → page.fullPath = url

/-- What there is of a page in the webview has been opened under this url. -/
structure OwnPage (session : Session σ) (url : String) (webview : Nat) : Prop where
  exists_webview : webview < session.webviews.length
  isPreload : (session.webview webview).isPreload = true
  awaited : ∀ page, ⟨webview, some page⟩ ∈ session.placeholders → page.fullPath = url
  kept : ∀ entry ∈ (session.webview webview).page,
    ∃ number, entry = .page number ∧ session.OpenedUnder url number

/-- Every webview of the pool is there for one url, and has its own page. -/
structure OwnPages (session : Session σ) : Prop where
  own : ∀ url webview, session.app.preloads.find? url = some webview →
    OwnPage session url webview
  one : ∀ url other webview, session.app.preloads.find? url = some webview →
    session.app.preloads.find? other = some webview → url = other

/-! ### Pages on record -/

/-- A page that is on record is known. -/
theorem known_of_opened {session : Session σ} {number : Nat} {page : Instance}
    (h : (number, page) ∈ session.openedPages) : number ∈ session.knownPages := by
  rw [knownPages_eq]
  exact List.mem_map.mpr ⟨_, h, rfl⟩

section Record

variable {before after : Session σ} {url : String} {number created : Nat} {page : Instance}

/-- A new page is on record once, as it has just been opened. -/
theorem openedUnder_new (hopened : after.openedPages = before.openedPages ++ [(created, page)])
    (hnew : created ∉ before.knownPages) : OpenedUnder after page.fullPath created := by
  constructor
  · exact ⟨page, by simp [hopened]⟩
  · intro other hmem
    rw [hopened, List.mem_append, List.mem_singleton] at hmem
    rcases hmem with hmem | heq
    · exact absurd (known_of_opened hmem) hnew
    · rw [(Prod.mk.inj heq).2]

/-- Another page that is opened adds nothing to the record of this one. -/
theorem OpenedUnder.append (h : OpenedUnder before url number)
    (hopened : after.openedPages = before.openedPages ++ [(created, page)])
    (hnew : created ∉ before.knownPages) : OpenedUnder after url number := by
  obtain ⟨⟨known, hknown⟩, hall⟩ := h
  constructor
  · exact ⟨known, by simp [hopened, hknown]⟩
  · intro other hmem
    rw [hopened, List.mem_append, List.mem_singleton] at hmem
    rcases hmem with hmem | heq
    · exact hall other hmem
    · obtain rfl : number = created := (Prod.mk.inj heq).1
      exact absurd (known_of_opened hknown) hnew

/-- Under which urls a page was opened depends only on the record of opened pages. -/
theorem OpenedUnder.congr (h : OpenedUnder before url number)
    (hopened : after.openedPages = before.openedPages) : OpenedUnder after url number := by
  unfold OpenedUnder
  rw [hopened]
  exact h

end Record

/-! ### One event -/

/-- Different ids tell webviews apart. -/
theorem webview_inj {session : Session σ} (hids : (session.webviews.map Webview.id).Nodup)
    {webview other : Nat} (hlt : webview < session.webviews.length)
    (hother : other < session.webviews.length)
    (hid : (session.webview webview).id = (session.webview other).id) : webview = other := by
  have hwebview := List.getElem?_eq_getElem hlt
  have hsame := List.getElem?_eq_getElem hother
  rw [webview_of_getElem? hwebview, webview_of_getElem? hsame] at hid
  have hmap : webview < (session.webviews.map Webview.id).length := by simpa using hlt
  refine (List.getElem?_inj hmap hids).mp ?_
  simp [hwebview, hsame, hid]

/-- A webview of the pool gets no page but under its own url: in a registration of another url it is
neither the pooled webview nor handed over, and the host finds it under no other id. -/
theorem OwnPages.chosen {host : Host σ} {session after : Session σ} {request : Request}
    {chosen : Nat} (h : OwnPages session) (horderly : IsOrderly host session (.register request))
    (hregister : session.register host request = (chosen, after))
    (hchosen : IsChosen session after request chosen) {url : String}
    (hpooled : session.app.preloads.find? url = some chosen) : url = request.url := by
  obtain ⟨hids, hhanded, hcalls⟩ := horderly
  rw [hregister] at hcalls
  rcases hchosen with ⟨-, hnew, -⟩ | ⟨given, found, hoffered, hgiven, hmem⟩
  · have hold := (h.own url chosen hpooled).exists_webview
    omega
  · have hlt : given < session.webviews.length := by
      rcases offered_cases hoffered with ⟨hfind, -⟩ | ⟨-, hhand⟩
      · exact (h.own _ given hfind).exists_webview
      · exact (hhanded given hhand).1
    have hself : chosen = given := by
      have hfound := hcalls _ hmem
      cases found with
      | none => exact hgiven
      | some number => exact hgiven.trans (webview_inj hids hfound.1 hlt hfound.2)
    rcases offered_cases hoffered with ⟨hfind, -⟩ | ⟨-, hhand⟩
    · exact h.one url request.url chosen hpooled (hself ▸ hfind)
    · exact absurd (mem_pool hpooled) (hself ▸ (hhanded given hhand).2)

/-- A webview has its own page after an event too if it keeps its page or gets one of its own, and
nothing new waits in it but such a page. -/
theorem OwnPage.next {before after : Session σ} {url : String} {webview : Nat} {but : Option Nat}
    (h : OwnPage before url webview) (hkept : Keeps but before.webviews after.webviews)
    (hawaited : ∀ page, ⟨webview, some page⟩ ∈ after.placeholders →
      ⟨webview, some page⟩ ∈ before.placeholders ∨ page.fullPath = url)
    (hopened : ∀ number, OpenedUnder before url number → OpenedUnder after url number)
    (hpage : (after.webview webview).page = (before.webview webview).page ∨
      ∃ number, (after.webview webview).page = some (.page number) ∧
        OpenedUnder after url number) : OwnPage after url webview where
  exists_webview := Nat.lt_of_lt_of_le h.exists_webview hkept.length
  isPreload := (keeps_webview hkept h.exists_webview).2.1 h.isPreload
  awaited page hmem := (hawaited page hmem).elim (h.awaited page) id
  kept entry hentry := by
    rcases hpage with hsame | ⟨number, hnew, hunder⟩
    · rw [hsame] at hentry
      obtain ⟨number, heq, hunder⟩ := h.kept entry hentry
      exact ⟨number, heq, hopened number hunder⟩
    · rw [hnew, Option.mem_some] at hentry
      exact ⟨number, hentry.symm, hunder⟩

/-- Every orderly event leaves a webview that is in the pool its own page. -/
theorem OwnPages.handle_own {host : Host σ} (htells : host.TellsUrl) {session : Session σ}
    {event : Event} (h : OwnPages session) (horderly : IsOrderly host session event) {url : String}
    {webview : Nat} (hpooled : session.app.preloads.find? url = some webview) :
    OwnPage (session.handle host event) url webview := by
  have hown := h.own url webview hpooled
  -- Webviews are never removed, so it suffices to follow this one through the outcome of the event.
  have hlt := hown.exists_webview
  have houtcome := handle_outcome session host event
  generalize session.handle host event = after at houtcome
  cases houtcome with
  | quiet other kept placeholders record =>
      exact hown.next kept (fun page hmem => Or.inl (placeholders ▸ hmem))
        (fun _ hunder => hunder.congr record.opened)
        (Or.inl ((keeps_webview kept hlt).2.2 (by simp)))
  | putsBack reused page reuses answer pages webviews placeholders record =>
      have hkept : Keeps none session.webviews after.webviews := webviews ▸ Keeps.refl _
      exact hown.next hkept (fun page hmem => Or.inl (placeholders ▸ hmem))
        (fun _ hunder => hunder.congr record.opened)
        (Or.inl ((keeps_webview hkept hlt).2.2 (by simp)))
  | waits chosen page made opening native kept placeholders rendered opened =>
      refine hown.next kept ?_ (fun _ hunder => hunder.congr opened)
        (Or.inl ((keeps_webview kept hlt).2.2 (by simp)))
      intro waiting hmem
      rw [placeholders, List.mem_append, List.mem_singleton] at hmem
      rcases hmem with hmem | heq
      · exact Or.inl hmem
      · -- The new page waits in this webview, so it has been asked for under its url.
        obtain ⟨rfl, hsame⟩ := Placeholder.mk.inj heq
        obtain rfl : waiting = page := Option.some.inj hsame
        obtain ⟨settings, state, rfl⟩ := made
        have hurl := h.chosen horderly opening.answer opening.chosen hpooled
        exact Or.inr (hurl ▸ htells _ _ _ _ _)
  | shows chosen created page made opening asked kept recorded placeholders rendered opened =>
      obtain ⟨options, hasked⟩ := asked
      have hnew : created ∉ session.knownPages := by
        have hcalls := horderly.2.2
        rw [opening.answer] at hcalls
        exact hcalls _ hasked
      refine hown.next kept (fun page hmem => Or.inl (placeholders ▸ hmem))
        (fun _ hunder => hunder.append opened hnew) ?_
      obtain ⟨-, hpreload, hpage⟩ := keeps_webview kept hlt
      by_cases hself : chosen = webview
      · -- The webview keeps the page from now on, which has been asked for under its url.
        subst hself
        have hurl := h.chosen horderly opening.answer opening.chosen hpooled
        have hfull : page.fullPath = url := by
          obtain ⟨settings, state, rfl⟩ := made
          exact hurl ▸ htells _ _ _ _ _
        exact Or.inr ⟨created, recorded (Nat.lt_of_lt_of_le hlt kept.length)
          (hpreload hown.isPreload), hfull ▸ openedUnder_new opened hnew⟩
      · exact Or.inl (hpage fun hmem => hself (Option.some.inj hmem))
  | arrives home page held kept recorded placeholders initialised rendered opened =>
      have hnew : _ ∉ session.knownPages := horderly
      refine hown.next kept ?_ (fun _ hunder => hunder.append opened hnew) ?_
      · intro waiting hmem
        rw [placeholders] at hmem
        rcases List.mem_or_eq_of_mem_set hmem with hmem | heq
        · exact Or.inl hmem
        · exact nomatch (Placeholder.mk.inj heq).2
      · obtain ⟨-, -, hpage⟩ := keeps_webview kept hlt
        by_cases hself : home = webview
        · -- What waited in the webview is its own page, wherever the placeholder is by now.
          subst hself
          have hfull := hown.awaited page (List.mem_of_getElem? held)
          rcases recorded with hsame | hrecorded
          · exact Or.inl hsame
          · exact Or.inr ⟨_, hrecorded, hfull ▸ openedUnder_new opened hnew⟩
        · exact Or.inl (hpage fun hmem => hself (Option.some.inj hmem))

/-- So does the event that puts it into the pool. -/
theorem ownPage_preload {session : Session σ} {url : String} {webview : Nat}
    (hvacant : session.IsVacant webview) :
    OwnPage (session.preload url webview) url webview where
  exists_webview := by
    rw [show (session.preload url webview).webviews.length = _ from
      length_modifyWebview session webview _]
    exact hvacant.exists_webview
  isPreload := by
    rw [webview_preload session url webview webview hvacant.exists_webview, if_pos rfl]
  awaited page hmem := absurd rfl (hvacant.unawaited _ hmem)
  kept entry hentry := by
    rw [webview_preload session url webview webview hvacant.exists_webview, if_pos rfl] at hentry
    have hnone : entry ∈ (session.webview webview).page := hentry
    rw [hvacant.blank] at hnone
    exact nomatch hnone

/-- Every orderly event leaves every webview of the pool its own page. -/
theorem OwnPages.handle {host : Host σ} (htells : host.TellsUrl) {session : Session σ}
    {event : Event} (h : OwnPages session) (horderly : IsOrderly host session event) :
    OwnPages (session.handle host event) where
  own url webview hfind := by
    rcases find?_handle hfind with hold | rfl
    · exact h.handle_own htells horderly hold
    · exact ownPage_preload horderly
  one url other webview hfind hother := by
    rcases find?_handle hfind with hold | rfl
    · rcases find?_handle hother with hold' | rfl
      · exact h.one url other webview hold hold'
      · -- The webview was not in the pool when it was put there.
        exact absurd (mem_pool hold) (IsVacant.unpooled horderly)
    · rcases find?_handle hother with hold' | heq
      · exact absurd (mem_pool hold') (IsVacant.unpooled horderly)
      · cases heq
        rfl

/-! ### Whole runs -/

/-- The pool of an app that has just been started is empty, and all its webviews have their own
pages in an orderly run. -/
theorem ownPages_of_leads {host : Host σ} (htells : host.TellsUrl) {config : Config} {state : σ}
    {session : Session σ}
    (hleads : Leads host (IsOrderly host) { app := .initial config, host := state } session) :
    OwnPages session := by
  refine hleads.keeps ⟨nofun, nofun⟩ (fun _ _ h horderly => h.handle htells horderly) ?_
  intro reached state h
  refine ⟨fun url webview hfind => ?_, h.one⟩
  have hown := h.own url webview hfind
  exact ⟨hown.exists_webview, hown.isPreload, hown.awaited, hown.kept⟩

/-- A registration that puts back the page of a preloaded webview shows a page that was opened under
the url that is asked for: it answers with that webview and puts that page on the stack, the page is
on record, and whenever it was made or handed over it was told this url. -/
theorem putsBack_ownPage (host : Host σ) (htells : host.TellsUrl) (config : Config) (state : σ)
    (session : Session σ)
    (hleads : Leads host (IsOrderly host) { app := .initial config, host := state } session)
    (request : Request) (webview : Nat) (page : Entry)
    (hreuses : session.Reuses request.url webview page) :
    (session.register host request).1 = webview ∧
      (session.register host request).2.app.pages = session.app.pages ++ [page] ∧
      ∃ number, page = .page number ∧ session.OpenedUnder request.url number := by
  have hown := (ownPages_of_leads htells hleads).own request.url webview hreuses.pooled
  obtain ⟨hanswer, happ, -⟩ := register_of_reuses host hreuses
  refine ⟨hanswer, ?_, hown.kept page hreuses.kept⟩
  rw [happ]
  rfl

/-! ### A page that comes when its placeholder has left -/

open Simulation (Platform)

/-- A native page is registered, and left before it is there. -/
def leftEarly : List Event :=
  [.addWebview { id := 7 }, .preload "/a" 0, .register Tracked.nativeRequest,
    .leave (.placeholder 0), .nativePage 0 5]

/-- The app after that run. -/
def afterLeftEarly : Session Platform :=
  leftEarly.foldl (fun reached event => reached.handle Platform.host event)
    { app := .initial {}, host := Tracked.nativePlatform }

/-- The page is not on the stack, and is put there when its url is asked for again. -/
theorem ownPage_afterLeftEarly :
    Platform.host.TellsUrl ∧
      AssumedAlong Platform.host (IsOrderly Platform.host) leftEarly
        { app := .initial {}, host := Tracked.nativePlatform } ∧
      afterLeftEarly.Reuses "/a" 0 (.page 5) ∧ afterLeftEarly.OpenedUnder "/a" 5 := by
  have htells : Platform.host.TellsUrl := tellsUrl_default fun _ _ _ _ => rfl
  have horderly : AssumedAlong Platform.host (IsOrderly Platform.host) leftEarly
      { app := .initial {}, host := Tracked.nativePlatform } := by decide
  have hreuses : afterLeftEarly.Reuses "/a" 0 (.page 5) := ⟨by decide, by decide, by decide⟩
  obtain ⟨-, -, number, hpage, hunder⟩ := putsBack_ownPage Platform.host htells {}
    Tracked.nativePlatform afterLeftEarly (Leads.refl.run leftEarly horderly)
    Tracked.nativeRequest 0 (.page 5) hreuses
  obtain rfl : 5 = number := Entry.page.inj hpage
  exact ⟨htells, horderly, hreuses, hunder⟩

end MiniApp.Session
