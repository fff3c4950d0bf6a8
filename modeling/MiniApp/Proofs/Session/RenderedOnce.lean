import MiniApp.Proofs.Session.Preloaded

/-!
# A preloaded webview is rendered once

A webview is preloaded so that its page need not be rendered when the user navigates to it, and that
page is to stay: navigating back and forth between pages never renders it again. This holds of every
webview whose route is not native, over any run that leaves the webview to the pool
(`preloaded_renderedOnce`). It rests on three things: the pool entry is not used up by a
registration, the page that the webview keeps is never cleared or replaced, and a registration looks
for that very page on the stack.

`RenderedOnce` is what every event of such a run keeps. In its two stages nothing has been opened in
the webview, or it has been initialised once and keeps the one page that has been rendered under its
id. The webview need not be there from the start; whatever has been rendered before it is there has
been rendered under the ids of other webviews, and those are not its own.
-/

set_option autoImplicit false

namespace MiniApp.Session

open MiniApp.App MiniApp.Page

variable {σ : Type}

/-! ### Runs that leave a webview to the pool -/

/-- No other webview has the id of this one. -/
def HasOwnId (session : Session σ) (webview : Nat) : Prop :=
  ∀ other < session.webviews.length,
    (session.webview other).id = (session.webview webview).id → other = webview

/-- Under the id of a webview the host finds that webview or none, and it finds it under no other
id. -/
def Call.FindsOnly (session : Session σ) (webview : Nat) : Call → Prop
  | .findWebview id (some number) => number < session.webviews.length ∧
    (number = webview ↔ webview < session.webviews.length ∧ id = (session.webview webview).id)
  | _ => True

/-- What is assumed of an event, for a webview that is put into the pool for a url. The webview has
an id of its own. It is made ahead of navigation, not by a registration, and no request hands it
over; for its url the host resolves a route that is not native. It is put into the pool for no other
url, and without a page. Any other webview that is offered for a page is only to be one of the
session. -/
def LeavesToPool (host : Host σ) (url : String) (webview : Nat) (session : Session σ)
    (event : Event) : Prop :=
  (webview < (session.handle host event).webviews.length →
      HasOwnId (session.handle host event) webview) ∧ match event with
    | .register request => request.webview ≠ some webview ∧
      ((session.register host request).1 = webview → webview < session.webviews.length) ∧
      (∀ given ∈ session.offered request, given < session.webviews.length) ∧
      (request.url = url → (session.routeOf host request).settings.isNative = false) ∧
      ∀ call ∈ (session.register host request).2.calls.drop session.calls.length,
        call.FindsOnly session webview
    | .preload key pooled => pooled = webview →
      key = url ∧ webview < session.webviews.length ∧ (session.webview webview).page = none
    | _ => True

instance (session : Session σ) (webview : Nat) : Decidable (session.HasOwnId webview) :=
  inferInstanceAs (Decidable (∀ other < session.webviews.length,
    (session.webview other).id = (session.webview webview).id → other = webview))

instance (session : Session σ) (webview : Nat) (call : Call) :
    Decidable (call.FindsOnly session webview) :=
  match call with
  | .findWebview id (some number) => inferInstanceAs (Decidable
      (number < session.webviews.length ∧ (number = webview ↔
        webview < session.webviews.length ∧ id = (session.webview webview).id)))
  | .findWebview _ none | .initEntry | .resolveRoute .. | .createWebview .. | .initWebview ..
  | .createInstance .. | .closeSplash | .finishNavigation | .createPage .. | .attach ..
  | .report _ => inferInstanceAs (Decidable True)

instance (host : Host σ) (url : String) (webview : Nat) (session : Session σ) (event : Event) :
    Decidable (LeavesToPool host url webview session event) :=
  match event with
  | .register request => inferInstanceAs (Decidable (_ ∧ request.webview ≠ some webview ∧
      ((session.register host request).1 = webview → webview < session.webviews.length) ∧
      (∀ given ∈ session.offered request, given < session.webviews.length) ∧
      (request.url = url → (session.routeOf host request).settings.isNative = false) ∧
      ∀ call ∈ (session.register host request).2.calls.drop session.calls.length,
        call.FindsOnly session webview))
  | .preload key pooled => inferInstanceAs (Decidable (_ ∧ (pooled = webview →
      key = url ∧ webview < session.webviews.length ∧ (session.webview webview).page = none)))
  | .nativePage .. | .leave _ | .addWebview _ | .takePreload _ | .perform _ =>
    inferInstanceAs (Decidable (_ ∧ True))

/-! ### What such a run keeps -/

/-- How far a webview has come: nothing has been opened in it, or it keeps the page that has been
rendered in it. -/
inductive Stage (url : String) (webview : Nat) (session : Session σ) : Prop
  | unused (uninitialised : session.timesInitialised webview = 0)
    (unrendered : webview < session.webviews.length →
      session.renderedPages (session.webview webview).id = [])
    (blank : session.app.preloads.find? url = some webview → (session.webview webview).page = none)
  | shown (number : Nat) (exists_webview : webview < session.webviews.length)
    (initialised : session.timesInitialised webview = 1)
    (rendered : session.renderedPages (session.webview webview).id = [number])
    (kept : (session.webview webview).page = some (.page number))

/-- The webview is in the pool for no other url, and marked. -/
def PooledFor (url : String) (webview : Nat) (session : Session σ) : Prop :=
  ∀ key, session.app.preloads.find? key = some webview →
    key = url ∧ webview < session.webviews.length ∧ (session.webview webview).isPreload = true

/-- Pages have been rendered only under the ids of webviews. -/
def RendersKnown (session : Session σ) : Prop :=
  ∀ id, session.renderedPages id ≠ [] →
    ∃ other < session.webviews.length, (session.webview other).id = id

/-- The webview has been rendered once at most, and will not be rendered again. -/
structure RenderedOnce (url : String) (webview : Nat) (session : Session σ) : Prop where
  own : webview < session.webviews.length → session.HasOwnId webview
  pooled : PooledFor url webview session
  unawaited : ∀ placeholder ∈ session.placeholders, placeholder.webview ≠ webview
  known : RendersKnown session
  stage : Stage url webview session

section Step

variable {host : Host σ} {url : String} {webview : Nat} {session after : Session σ}

/-- After an event pages have been rendered only under the ids of webviews, if those that the event
has rendered are. -/
theorem RendersKnown.next {but : Option Nat} (h : RendersKnown session)
    (hkept : Keeps but session.webviews after.webviews)
    (hrendered : ∀ id, after.renderedPages id ≠ [] → session.renderedPages id ≠ [] ∨
      ∃ other < after.webviews.length, (after.webview other).id = id) : RendersKnown after := by
  intro id hne
  rcases hrendered id hne with hold | hnew
  · obtain ⟨other, hlt, hid⟩ := h id hold
    exact ⟨other, Nat.lt_of_lt_of_le hlt hkept.length, (keeps_webview hkept hlt).1.trans hid⟩
  · exact hnew

/-- An event that does not put the webview into the pool leaves it there or takes it out, and one
that does finds it without a page. -/
theorem RenderedOnce.pool {event : Event} (h : RenderedOnce url webview session)
    (hleaves : LeavesToPool host url webview session event) :
    PooledFor url webview (session.handle host event) ∧
      ((session.handle host event).app.preloads.find? url = some webview →
        session.app.preloads.find? url = some webview ∨
          ((session.handle host event).webview webview).page = none) := by
  constructor
  · intro key hfind
    -- It was in the pool before, or this event puts it there.
    rcases find?_handle hfind with hold | rfl
    · obtain ⟨hurl, hlt, hmarked⟩ := h.pooled key hold
      obtain ⟨but, hkept⟩ := (handle_outcome session host event).keeps
      exact ⟨hurl, Nat.lt_of_lt_of_le hlt hkept.length,
        (keeps_webview hkept hlt).2.1 hmarked⟩
    · obtain ⟨hurl, hlt, -⟩ := hleaves.2 rfl
      obtain ⟨but, hkept⟩ := (handle_outcome session host (.preload key webview)).keeps
      refine ⟨hurl, Nat.lt_of_lt_of_le hlt hkept.length, ?_⟩
      show ((session.preload key webview).webview webview).isPreload = true
      rw [webview_preload session key webview webview hlt, if_pos rfl]
  · intro hfind
    rcases find?_handle hfind with hold | rfl
    · exact Or.inl hold
    · obtain ⟨-, hlt, hblank⟩ := hleaves.2 rfl
      right
      show ((session.preload url webview).webview webview).page = none
      rw [webview_preload session url webview webview hlt, if_pos rfl]
      exact hblank

/-- An event in which the webview has no part leaves it at its stage. -/
theorem RenderedOnce.untouched {but : Option Nat} (h : RenderedOnce url webview session)
    (hkept : Keeps but session.webviews after.webviews) (hbut : webview ∉ but)
    (hown : webview < after.webviews.length → after.HasOwnId webview)
    (hpool : PooledFor url webview after ∧ (after.app.preloads.find? url = some webview →
      session.app.preloads.find? url = some webview ∨ (after.webview webview).page = none))
    (hunawaited : ∀ placeholder ∈ after.placeholders, placeholder.webview ≠ webview)
    (hinitialised : after.timesInitialised webview = session.timesInitialised webview)
    (hrendered : webview < after.webviews.length →
      after.renderedPages (after.webview webview).id =
        session.renderedPages (after.webview webview).id)
    (hknown : RendersKnown after) : RenderedOnce url webview after := by
  refine ⟨hown, hpool.1, hunawaited, hknown, ?_⟩
  cases h.stage with
  | unused uninitialised unrendered blank =>
      refine .unused (hinitialised.trans uninitialised) ?_ ?_
      · intro hlt
        rw [hrendered hlt]
        by_contra hne
        -- A webview under whose id a page has been rendered was there before, and it is this one.
        obtain ⟨other, hother, hid⟩ := h.known _ hne
        have hkeeps := (keeps_webview hkept hother).1.trans hid
        obtain rfl : other = webview :=
          hown hlt other (Nat.lt_of_lt_of_le hother hkept.length) hkeeps
        rw [← hid] at hne
        exact hne (unrendered hother)
      · intro hfind
        rcases hpool.2 hfind with hold | hnone
        · obtain ⟨-, hlt, -⟩ := h.pooled url hold
          exact ((keeps_webview hkept hlt).2.2 hbut).trans (blank hold)
        · exact hnone
  | shown number exists_webview initialised rendered kept =>
      obtain ⟨hid, -, hpage⟩ := keeps_webview hkept exists_webview
      have hlt := Nat.lt_of_lt_of_le exists_webview hkept.length
      exact .shown number hlt (hinitialised.trans initialised)
        ((hrendered hlt).trans (hid ▸ rendered)) ((hpage hbut).trans kept)

/-- Of the webviews in which a page is opened, the host gives this one out only where it is
offered. -/
theorem RenderedOnce.chosen {request : Request} {chosen : Nat}
    (h : RenderedOnce url webview session)
    (hleaves : LeavesToPool host url webview session (.register request))
    (hregister : session.register host request = (chosen, after))
    (hchosen : IsChosen session after request chosen)
    (hlength : session.webviews.length ≤ after.webviews.length) :
    chosen < after.webviews.length ∧
      (chosen = webview ↔ session.offered request = some webview) := by
  obtain ⟨-, hmakes, hexists, -, hfinds⟩ := hleaves.2
  rw [hregister] at hmakes hfinds
  rcases hchosen with ⟨hnone, hnew, hlt⟩ | ⟨given, found, hoffered, hgiven, hmem⟩
  · constructor
    · exact hlt
    · rw [hnone]
      constructor
      · intro hself
        have hold := hmakes hself
        omega
      · exact nofun
  · have hlt := hexists given hoffered
    have hfound := hfinds _ hmem
    rw [hoffered, Option.some.injEq]
    cases found with
    | none =>
        rw [hgiven]
        exact ⟨Nat.lt_of_lt_of_le hlt hlength, Iff.rfl⟩
    | some number =>
        obtain ⟨hnumber, hiff⟩ := hfound
        rw [hgiven]
        refine ⟨Nat.lt_of_lt_of_le hnumber hlength, hiff.trans ?_⟩
        -- Ids tell the webview that is given from this one.
        constructor
        · rintro ⟨hwebview, hid⟩
          exact h.own hwebview given hlt hid
        · rintro rfl
          exact ⟨hlt, rfl⟩

/-- A page is opened in the webview only as long as it is unused, and never in the native way. -/
theorem RenderedOnce.opening {request : Request} {entry : Entry}
    (h : RenderedOnce url webview session)
    (hleaves : LeavesToPool host url webview session (.register request))
    (hopening : Opening host session after request webview entry)
    (hlength : session.webviews.length ≤ after.webviews.length) :
    session.app.preloads.find? url = some webview ∧ (session.webview webview).page = none ∧
      (after.webview webview).isNative = false := by
  have hoffered := (h.chosen hleaves hopening.answer hopening.chosen hlength).2.mp rfl
  obtain ⟨hhanded, -, hexists, hroute, -⟩ := hleaves.2
  rcases offered_cases hoffered with ⟨hfind, hblank⟩ | ⟨-, hgiven⟩
  · obtain ⟨hurl, -, -⟩ := h.pooled _ hfind
    have hnative := hopening.native (hexists webview hoffered) (by simp [hoffered])
    exact ⟨hurl ▸ hfind, hblank, hnative.trans (hroute hurl)⟩
  · exact absurd hgiven hhanded

/-- A page that is opened in the webview is its first, and the webview keeps it. -/
theorem RenderedOnce.shows_first {request : Request} {created : Nat}
    (h : RenderedOnce url webview session)
    (hleaves : LeavesToPool host url webview session (.register request))
    (hopening : Opening host session after request webview (.page created))
    (hkept : Keeps (some webview) session.webviews after.webviews)
    (hrecorded : (after.webview webview).isPreload →
      (after.webview webview).page = some (.page created))
    (hrendered : ∀ id, after.renderedPages id = session.renderedPages id ++
      if (after.webview webview).id = id then [created] else []) :
    Stage url webview after := by
  obtain ⟨hfind, hblank, -⟩ := h.opening hleaves hopening hkept.length
  obtain ⟨-, hlt, hmarked⟩ := h.pooled url hfind
  obtain ⟨hid, hpreload, -⟩ := keeps_webview hkept hlt
  have hinitialised := hopening.initialised webview
  have hshown := hrendered (after.webview webview).id
  cases h.stage with
  | shown number exists_webview initialised rendered kept =>
      -- It keeps a page already, and then no page is opened in it.
      rw [kept] at hblank
      exact nomatch hblank
  | unused uninitialised unrendered blank =>
      rw [if_pos rfl, uninitialised] at hinitialised
      rw [if_pos rfl, hid, unrendered hlt] at hshown
      exact .shown created (Nat.lt_of_lt_of_le hlt hkept.length) hinitialised (hid ▸ hshown)
        (hrecorded (hpreload hmarked))

/-- Every event of such a run keeps that the webview has been rendered once at most. -/
theorem RenderedOnce.handle {event : Event} (h : RenderedOnce url webview session)
    (hleaves : LeavesToPool host url webview session event) :
    RenderedOnce url webview (session.handle host event) := by
  have hown := hleaves.1
  have hpool := h.pool hleaves
  have houtcome := handle_outcome session host event
  generalize session.handle host event = after at *
  cases houtcome with
  | quiet other kept placeholders record =>
      exact h.untouched kept (by simp) hown hpool (placeholders ▸ h.unawaited)
        (record.initialised webview) (fun _ => record.rendered _)
        (h.known.next kept fun id hne => Or.inl (record.rendered id ▸ hne))
  | putsBack reused page reuses answer pages webviews placeholders record =>
      have hkept : Keeps none session.webviews after.webviews := webviews ▸ Keeps.refl _
      exact h.untouched hkept (by simp) hown hpool (placeholders ▸ h.unawaited)
        (record.initialised webview) (fun _ => record.rendered _)
        (h.known.next hkept fun id hne => Or.inl (record.rendered id ▸ hne))
  | waits chosen page made opening native kept placeholders rendered opened =>
      -- The webview is not native where a page is opened in it, so it waits in another one.
      have hne : chosen ≠ webview := by
        rintro rfl
        obtain ⟨-, -, hnative⟩ := h.opening hleaves opening kept.length
        rw [native] at hnative
        exact nomatch hnative
      have hunawaited : ∀ placeholder ∈ after.placeholders, placeholder.webview ≠ webview := by
        intro placeholder hmem
        rw [placeholders, List.mem_append, List.mem_singleton] at hmem
        rcases hmem with hmem | rfl
        · exact h.unawaited placeholder hmem
        · exact hne
      have hinitialised := opening.initialised webview
      rw [if_neg hne] at hinitialised
      exact h.untouched kept (by simp) hown hpool hunawaited hinitialised (fun _ => rendered _)
        (h.known.next kept fun id hne => Or.inl (rendered id ▸ hne))
  | shows chosen created page made opening asked kept recorded placeholders rendered opened =>
      have hinitialised := opening.initialised webview
      obtain ⟨hchosen, -⟩ := h.chosen hleaves opening.answer opening.chosen kept.length
      have hknown : RendersKnown after := by
        refine h.known.next kept fun id hne => ?_
        by_cases hid : (after.webview chosen).id = id
        · exact Or.inr ⟨chosen, hchosen, hid⟩
        · rw [rendered id, if_neg hid, List.append_nil] at hne
          exact Or.inl hne
      by_cases hself : chosen = webview
      · subst hself
        exact ⟨hown, hpool.1, placeholders ▸ h.unawaited, hknown,
          h.shows_first hleaves opening kept (recorded hchosen) rendered⟩
      · -- Another webview has another id, under which nothing of this one is rendered.
        rw [if_neg hself] at hinitialised
        refine h.untouched kept (fun hmem => hself (Option.some.inj hmem)) hown hpool
          (placeholders ▸ h.unawaited) hinitialised (fun hlt => ?_) hknown
        have hne : (after.webview chosen).id ≠ (after.webview webview).id :=
          fun heq => hself (hown hlt chosen hchosen heq)
        rw [rendered, if_neg hne, List.append_nil]
  | arrives home page held kept recorded placeholders initialised rendered opened =>
      -- The placeholder that is handed over was there before, so it is not one of this webview.
      have hne : home ≠ webview := h.unawaited _ (List.mem_of_getElem? held)
      have hunawaited : ∀ placeholder ∈ after.placeholders, placeholder.webview ≠ webview := by
        intro placeholder hmem
        rw [placeholders] at hmem
        rcases List.mem_or_eq_of_mem_set hmem with hmem | rfl
        · exact h.unawaited placeholder hmem
        · exact hne
      exact h.untouched kept (fun hmem => hne (Option.some.inj hmem)) hown hpool hunawaited
        (initialised webview) (fun _ => rendered _)
        (h.known.next kept fun id hne => Or.inl (rendered id ▸ hne))

end Step

/-! ### Registrations of its url -/

/-- What the first registration does in a preloaded webview: a page is rendered there, which the
webview keeps. -/
structure ShowsFirst (session : Session σ) (webview : Nat) (registered : Nat × Session σ)
    (number : Nat) : Prop where
  answer : registered.1 = webview
  pages : registered.2.app.pages = session.app.pages ++ [.page number]
  rendered : registered.2.renderedPages (session.webview webview).id = [number]
  kept : (registered.2.webview webview).page = some (.page number)

/-- What a later registration does. The page is put back on the stack, or if it is there a new
webview is used; the webview keeps the page. -/
structure ShowsAgain (session : Session σ) (webview : Nat) (registered : Nat × Session σ)
    (number : Nat) : Prop where
  kept : (registered.2.webview webview).page = some (.page number)
  hidden : .page number ∉ session.app.pages →
    registered.1 = webview ∧ registered.2.app.pages = session.app.pages ++ [.page number]
  shown : .page number ∈ session.app.pages →
    registered.1 = session.webviews.length ∧ registered.1 ≠ webview

section Register

variable {host : Host σ} {url : String} {webview : Nat} {session : Session σ} {request : Request}

/-- The first registration renders a page in the webview. -/
theorem RenderedOnce.register_first (h : RenderedOnce url webview session)
    (hleaves : LeavesToPool host url webview session (.register request))
    (hfind : session.app.preloads.find? request.url = some webview)
    (hblank : (session.webview webview).page = none)
    (hunrendered : session.renderedPages (session.webview webview).id = []) :
    ∃ number, ShowsFirst session webview (session.register host request) number := by
  obtain ⟨-, hexists, hmarked⟩ := h.pooled _ hfind
  have hoffered : session.offered request = some webview := by
    simp [offered, preloadFor, hfind, hblank]
  have houtcome := handle_outcome session host (.register request)
  generalize session.handle host (.register request) = after at houtcome
  -- The webview keeps no page that could be put back, and its route is not native.
  cases houtcome with
  | quiet other => exact absurd rfl (other request)
  | putsBack reused page reuses =>
      obtain rfl : reused = webview := Option.some.inj (reuses.pooled.symm.trans hfind)
      have hkept := reuses.kept
      rw [hblank] at hkept
      cases hkept
  | waits chosen page made opening native kept =>
      obtain rfl : chosen = webview :=
        (h.chosen hleaves opening.answer opening.chosen kept.length).2.mpr hoffered
      rw [(h.opening hleaves opening kept.length).2.2] at native
      cases native
  | shows chosen created page made opening asked kept recorded placeholders rendered =>
      obtain ⟨hlt, hself⟩ := h.chosen hleaves opening.answer opening.chosen kept.length
      obtain rfl : chosen = webview := hself.mpr hoffered
      obtain ⟨hid, hpreload, -⟩ := keeps_webview kept hexists
      have hrendered := rendered (session.webview chosen).id
      rw [if_pos hid, hunrendered] at hrendered
      rw [opening.answer]
      exact ⟨created, rfl, opening.pages, hrendered, recorded hlt (hpreload hmarked)⟩

/-- Where a page is opened although the webview keeps one, that page is on the stack, and the new
one is opened in a new webview. -/
theorem opens_elsewhere {after : Session σ} {chosen number : Nat} {entry : Entry}
    (hopening : Opening host session after request chosen entry)
    (hexists : webview < session.webviews.length)
    (hfind : session.app.preloads.find? request.url = some webview)
    (hkept : (session.webview webview).page = some (.page number)) :
    .page number ∈ session.app.pages ∧ chosen = session.webviews.length ∧ chosen ≠ webview := by
  have hshown : .page number ∈ session.app.pages := by
    by_contra hhidden
    exact hopening.opens ⟨webview, .page number, hfind, hkept, hhidden⟩
  have hoffered : session.offered request = none := by
    simp [offered, preloadFor, hfind, hkept, hshown]
  rcases hopening.chosen with ⟨-, hnew, -⟩ | ⟨given, found, hgiven, -⟩
  · exact ⟨hshown, hnew, by omega⟩
  · rw [hoffered] at hgiven
    cases hgiven

/-- A later registration shows the page that the webview keeps, or leaves the webview alone. -/
theorem register_again {number : Nat} (host : Host σ) (hexists : webview < session.webviews.length)
    (hfind : session.app.preloads.find? request.url = some webview)
    (hkept : (session.webview webview).page = some (.page number)) :
    ShowsAgain session webview (session.register host request) number := by
  have houtcome := handle_outcome session host (.register request)
  generalize session.handle host (.register request) = after at houtcome
  -- A page is only opened if the one that is kept is shown, and then in a new webview.
  cases houtcome with
  | quiet other => exact absurd rfl (other request)
  | putsBack reused page reuses answer pages webviews =>
      obtain rfl : reused = webview := Option.some.inj (reuses.pooled.symm.trans hfind)
      obtain rfl : page = .page number := Option.some.inj (reuses.kept.symm.trans hkept)
      have hsame := webview_congr webviews reused
      rw [answer]
      exact ⟨hsame ▸ hkept, fun _ => ⟨rfl, pages⟩, fun hshown => absurd hshown reuses.hidden⟩
  | waits chosen page made opening native kept =>
      obtain ⟨hshown, hnew, hne⟩ := opens_elsewhere opening hexists hfind hkept
      obtain ⟨-, -, hpage⟩ := keeps_webview kept hexists
      rw [opening.answer]
      exact ⟨(hpage (by simp)).trans hkept, fun hhidden => absurd hshown hhidden,
        fun _ => ⟨hnew, hne⟩⟩
  | shows chosen created page made opening asked kept =>
      obtain ⟨hshown, hnew, hne⟩ := opens_elsewhere opening hexists hfind hkept
      obtain ⟨-, -, hpage⟩ := keeps_webview kept hexists
      rw [opening.answer]
      exact ⟨(hpage fun hmem => hne (Option.some.inj hmem)).trans hkept,
        fun hhidden => absurd hshown hhidden, fun _ => ⟨hnew, hne⟩⟩

end Register

/-! ### Whole runs -/

/-- Nothing has been opened in an app that has just been started, and this goes on as it should in
every run that leaves the webview to the pool. -/
theorem renderedOnce_of_leads {host : Host σ} {url : String} {webview : Nat} {config : Config}
    {state : σ} {session : Session σ}
    (hleads : Leads host (LeavesToPool host url webview) { app := .initial config, host := state }
      session) : RenderedOnce url webview session := by
  refine hleads.keeps ?_ (fun reached event h hleaves => h.handle hleaves) fun reached state h => ?_
  · constructor
    · exact nofun
    · exact nofun
    · simp
    · intro id hne
      exact absurd rfl hne
    · exact .unused rfl nofun nofun
  · refine ⟨h.own, h.pooled, h.unawaited, h.known, ?_⟩
    cases h.stage with
    | unused uninitialised unrendered blank => exact .unused uninitialised unrendered blank
    | shown number exists_webview initialised rendered kept =>
        exact .shown number exists_webview initialised rendered kept

/-- A preloaded webview whose route is not native is initialised once at most, and one page at most
is rendered in it, however the app is used. As long as it is in the pool, the first registration of
its url renders that page; every later one shows that very page in the webview or uses a new webview
if the page is on the stack, and never changes what the webview keeps. -/
theorem preloaded_renderedOnce (host : Host σ) (url : String) (webview : Nat) (config : Config)
    (state : σ) (session : Session σ)
    (hleads : Leads host (LeavesToPool host url webview) { app := .initial config, host := state }
      session) :
    session.timesInitialised webview ≤ 1 ∧
      (webview < session.webviews.length →
        (session.renderedPages (session.webview webview).id).length ≤ 1) ∧
      ∀ request, request.url = url → session.app.preloads.find? url = some webview →
        LeavesToPool host url webview session (.register request) →
        (session.timesInitialised webview = 0 →
          ∃ number, ShowsFirst session webview (session.register host request) number) ∧
        (session.timesInitialised webview = 1 → ∃ number,
          session.renderedPages (session.webview webview).id = [number] ∧
          (session.webview webview).page = some (.page number) ∧
          ShowsAgain session webview (session.register host request) number) := by
  have h := renderedOnce_of_leads hleads
  cases h.stage with
  | unused uninitialised unrendered blank =>
      refine ⟨by omega, fun hexists => by simp [unrendered hexists], ?_⟩
      intro request hurl hfind hleaves
      obtain ⟨-, hexists, -⟩ := h.pooled url hfind
      constructor
      · intro _
        exact h.register_first hleaves (hurl ▸ hfind) (blank hfind) (unrendered hexists)
      · omega
  | shown number exists_webview initialised rendered kept =>
      refine ⟨by omega, fun _ => by simp [rendered], ?_⟩
      intro request hurl hfind hleaves
      constructor
      · omega
      · intro _
        exact ⟨number, rendered, kept, register_again host exists_webview (hurl ▸ hfind) kept⟩

/-! ### There and back again -/

open Simulation (Platform)

/-- Asks for a page that is not native. -/
def plainRequest : Request where
  url := "/b?tab=1"
  path := "/b"
  query := []
  openType := .navigateTo
  webview := none

/-- A webview is made for that page, which is visited, left and visited again. -/
def visits : List Event :=
  [.addWebview { id := 7 }, .preload plainRequest.url 0, .register plainRequest, .leave (.page 0),
    .register plainRequest]

/-- The app after that run. -/
def afterVisits : Session Platform :=
  visits.foldl (fun reached event => reached.handle Platform.host event)
    { app := .initial {}, host := Tracked.nativePlatform }

/-- The page has been rendered once for both visits, and on the third one it is on the stack. -/
theorem renderedOnce_afterVisits :
    AssumedAlong Platform.host (LeavesToPool Platform.host plainRequest.url 0) visits
        { app := .initial {}, host := Tracked.nativePlatform } ∧
      afterVisits.timesInitialised 0 = 1 ∧ afterVisits.renderedPages 7 = [0] ∧
      ∃ number, ShowsAgain afterVisits 0 (afterVisits.register Platform.host plainRequest)
        number := by
  have hvisits : AssumedAlong Platform.host (LeavesToPool Platform.host plainRequest.url 0) visits
      { app := .initial {}, host := Tracked.nativePlatform } := by decide
  obtain ⟨-, -, hregister⟩ := preloaded_renderedOnce Platform.host plainRequest.url 0 {}
    Tracked.nativePlatform afterVisits (Leads.refl.run visits hvisits)
  obtain ⟨number, -, -, hagain⟩ :=
    (hregister plainRequest rfl (by decide) (by decide)).2 (by decide)
  exact ⟨hvisits, by decide, by decide, number, hagain⟩

end MiniApp.Session
