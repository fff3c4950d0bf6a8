import MiniApp.Session.NativePage
import MiniApp.Session.Register

/-!
# What the steps of a session leave alone

A registration is a chain of small steps, and most of them touch neither the page stack nor the
preload pool nor the placeholders. `Frame` says so of one step, and `Frame.trans` of a chain; the
last step of a registration, `showPage`, then accounts for the stack by itself.

* `frame_resumeLaunch` and its neighbours: every step before `showPage` is a frame.
* `openPage_spec`: opening a page puts one new entry on the stack, which is a placeholder that was
  not there before or a page that the host has just rendered.
* `performFor_settled`: callbacks change the stack and the pool only by clearing both.
-/

set_option autoImplicit false

namespace MiniApp.Session

open MiniApp.App MiniApp.Page

variable {σ : Type}

/-- The second session comes from the first without a change of the page stack, the preload pool,
the placeholders and the pages that webviews keep. Webviews are only added, and calls are only
appended. -/
structure Frame (before after : Session σ) : Prop where
  pages : after.app.pages = before.app.pages
  preloads : after.app.preloads = before.app.preloads
  placeholders : after.placeholders = before.placeholders
  webviews : before.webviews.length ≤ after.webviews.length
  kept : ∀ webview < before.webviews.length,
    (after.webview webview).page = (before.webview webview).page
  calls : before.calls <+: after.calls

namespace Frame

/-- A session comes from itself without a change. -/
theorem refl (session : Session σ) : Frame session session :=
  ⟨rfl, rfl, rfl, Nat.le_refl _, fun _ _ => rfl, List.prefix_refl _⟩

/-- Two sessions that only add to the one before add to the first one. -/
theorem trans {first second third : Session σ} (h : Frame first second)
    (h' : Frame second third) : Frame first third where
  pages := h'.pages.trans h.pages
  preloads := h'.preloads.trans h.preloads
  placeholders := h'.placeholders.trans h.placeholders
  webviews := Nat.le_trans h.webviews h'.webviews
  kept webview hlt := (h'.kept webview (Nat.lt_of_lt_of_le hlt h.webviews)).trans
    (h.kept webview hlt)
  calls := h.calls.trans h'.calls

end Frame

/-! ### The small steps -/

/-- Asking the host adds one call. -/
theorem frame_ask {α : Type} (session : Session σ) (service : StateM σ α) (call : α → Call) :
    Frame session (session.ask service call).2 :=
  ⟨rfl, rfl, rfl, Nat.le_refl _, fun _ _ => rfl, List.prefix_append _ _⟩

/-- So does telling it something. -/
theorem frame_notify (session : Session σ) (service : StateM σ Unit) (call : Call) :
    Frame session (session.notify service call) :=
  frame_ask session service fun _ => call

/-- What is known about a webview stands in the list at its number. -/
theorem webview_of_getElem? {session : Session σ} {webview : Nat} {known : Webview}
    (h : session.webviews[webview]? = some known) : session.webview webview = known := by
  unfold Session.webview
  rw [List.getD_eq_getElem?_getD, h]
  rfl

/-- Sessions with the same webviews know the same about each. -/
theorem webview_congr {before after : Session σ} (h : after.webviews = before.webviews)
    (webview : Nat) : after.webview webview = before.webview webview := by
  unfold Session.webview
  rw [h]

/-- What is known about a webview after a change of one webview. -/
theorem webview_modifyWebview (session : Session σ) (number webview : Nat)
    (change : Webview → Webview) (hlt : webview < session.webviews.length) :
    (session.modifyWebview number change).webview webview =
      if number = webview then change (session.webview webview) else session.webview webview := by
  unfold Session.webview modifyWebview
  simp only [List.getD_eq_getElem?_getD, List.getElem?_modify, List.getElem?_eq_getElem hlt]
  split <;> rfl

/-- There are as many webviews when one of them has been changed. -/
theorem length_modifyWebview (session : Session σ) (number : Nat) (change : Webview → Webview) :
    (session.modifyWebview number change).webviews.length = session.webviews.length := by
  simp [modifyWebview]

/-- A change of a webview that leaves its page alone leaves all pages alone. -/
theorem frame_modifyWebview (session : Session σ) (number : Nat) (change : Webview → Webview)
    (hpage : ∀ known, (change known).page = known.page) :
    Frame session (session.modifyWebview number change) where
  pages := rfl
  preloads := rfl
  placeholders := rfl
  webviews := Nat.le_of_eq (length_modifyWebview session number change).symm
  kept webview hlt := by
    rw [webview_modifyWebview session number webview change hlt]
    split
    · exact hpage _
    · rfl
  calls := List.prefix_refl _

/-- The webviews that are there stay as they are when one is added. -/
theorem webview_addWebview (session : Session σ) (added : Webview) (webview : Nat)
    (hlt : webview < session.webviews.length) :
    (session.addWebview added).webview webview = session.webview webview := by
  unfold Session.webview addWebview
  simp only [List.getD_eq_getElem?_getD, List.getElem?_append_left hlt]

/-- One more webview changes nothing else. -/
theorem frame_addWebview (session : Session σ) (added : Webview) :
    Frame session (session.addWebview added) where
  pages := rfl
  preloads := rfl
  placeholders := rfl
  webviews := by simp [addWebview]
  kept webview hlt := by rw [webview_addWebview session added webview hlt]
  calls := List.prefix_refl _

/-- A webview is created, found or used as it is, and marked with the route; its page stays. -/
theorem frame_provideWebview (session : Session σ) (host : Host σ) (request : Request)
    (route : RouteOptions) (given : Option Nat) :
    Frame session (session.provideWebview host request route given).2 := by
  cases given with
  | none => exact (frame_ask session _ _).trans (frame_addWebview _ _)
  | some given =>
      exact (frame_ask session (host.findWebview (session.webview given).id)
        (.findWebview (session.webview given).id)).trans
          (frame_modifyWebview _ _ _ fun _ => rfl)

/-- A webview that joins the tab bar changes nothing of the pages. -/
theorem frame_joinTabBar (session : Session σ) (settings : RouteSettings) (webview : Nat) :
    Frame session (session.joinTabBar settings webview) := by
  unfold joinTabBar
  split
  · exact ⟨rfl, rfl, rfl, Nat.le_refl _, fun _ _ => rfl, List.prefix_refl _⟩
  · exact Frame.refl session

/-- A webview that is initialised changes nothing but the calls. -/
theorem frame_initWebview (session : Session σ) (host : Host σ) (request : Request)
    (settings : RouteSettings) (webview : Nat) :
    Frame session (session.initWebview host request settings webview) :=
  (frame_notify session _ _).trans (frame_modifyWebview _ _ _ fun _ => rfl)

/-- Closing the splash screen changes nothing but the calls. -/
theorem frame_closeSplash (session : Session σ) (host : Host σ) :
    Frame session (session.closeSplash host) := by
  unfold closeSplash
  dsimp only
  split
  · exact frame_notify session _ _
  · exact Frame.refl session

/-- No actions do nothing. -/
theorem performFor_nil (host : Host σ) (steps : Nat) (session : Session σ) :
    performFor host steps [] session = session := by
  cases steps <;> rfl

/-- The navigation that launched the app is completed at once in an app that is ready, and as
soon as it is ready in any other. -/
theorem whenReady_finishNavigation (session : Session σ) (host : Host σ) :
    session.whenReady host [.finishNavigation] =
      if session.app.isReady then session.notify host.finishNavigation .finishNavigation
      else
        session.modifyApp fun app => { app with waiting :=
          app.waiting ++ [[.finishNavigation]] } := by
  have hsize : Callback.size [Action.whenReady [.finishNavigation]] = 2 := by
    simp [Callback.size, Action.size]
  unfold whenReady perform
  rw [hsize, Nat.add_comm]
  simp only [performFor, List.append_nil, performFor_nil]

/-- A launch that goes on closes the splash screen and calls back, or has that wait. -/
theorem frame_resumeLaunch (session : Session σ) (host : Host σ) (webview : Nat) :
    Frame session (session.resumeLaunch host webview) := by
  unfold resumeLaunch
  split
  · refine (frame_closeSplash session host).trans ?_
    rw [whenReady_finishNavigation]
    split
    · exact frame_notify _ _ _
    · exact ⟨rfl, rfl, rfl, Nat.le_refl _, fun _ _ => rfl, List.prefix_refl _⟩
  · exact Frame.refl session

/-! ### Opening a page -/

/-- The session in which an opened page is shown: all the steps of `openPage` but the last, with
the webview, the settings and the instance that the last one gets. -/
def prepare (session : Session σ) (host : Host σ) (request : Request) (given : Option Nat) :
    Nat × RouteSettings × Instance × Session σ :=
  let resolved := session.resolveRoute host request
  let provided := resolved.2.provideWebview host request resolved.1 given
  let settings := { resolved.1.settings with id := some (provided.2.webview provided.1).id }
  let placed := provided.2.joinTabBar settings provided.1
  let created := (placed.initWebview host request settings provided.1).createInstance host request
    settings
  (provided.1, settings, created.1, created.2.resumeLaunch host provided.1)

/-- A page is opened by the steps that lead up to it, and then shown. -/
theorem openPage_eq (session : Session σ) (host : Host σ) (request : Request)
    (given : Option Nat) :
    session.openPage host request given =
      ((session.prepare host request given).1,
        (session.prepare host request given).2.2.2.showPage host request
          (session.prepare host request given).2.1 (session.prepare host request given).1
          (session.prepare host request given).2.2.1) :=
  rfl

/-- Once the route is resolved and the webview chosen, the page stack is as before. -/
theorem frame_provided (session : Session σ) (host : Host σ) (request : Request)
    (given : Option Nat) :
    Frame session ((session.resolveRoute host request).2.provideWebview host request
      (session.resolveRoute host request).1 given).2 :=
  (frame_ask session _ _).trans (frame_provideWebview _ host request _ given)

/-- What follows the choice of the webview leaves the webviews' number alone as well. -/
theorem frame_prepare_provided (session : Session σ) (host : Host σ) (request : Request)
    (given : Option Nat) :
    Frame ((session.resolveRoute host request).2.provideWebview host request
      (session.resolveRoute host request).1 given).2
      (session.prepare host request given).2.2.2 :=
  ((frame_joinTabBar _ _ _).trans (frame_initWebview _ host request _ _)).trans
    ((frame_ask _ _ _).trans (frame_resumeLaunch _ host _))

/-- So it is when all the steps but the last have been taken. -/
theorem frame_prepare (session : Session σ) (host : Host σ) (request : Request)
    (given : Option Nat) : Frame session (session.prepare host request given).2.2.2 :=
  (frame_provided session host request given).trans
    (frame_prepare_provided session host request given)

/-- What showing a page in a webview does: the page stack gets a placeholder with a new number, or
a page that the host has rendered for it and that a preloaded webview keeps. -/
inductive Shows (before after : Session σ) (webview : Nat) : Entry → Prop
  | placeholder (page : Instance)
    (added : after.placeholders = before.placeholders ++ [⟨webview, some page⟩])
    (webviews : after.webviews = before.webviews) (calls : after.calls = before.calls) :
    Shows before after webview (.placeholder before.placeholders.length)
  | page (created id : Nat) (route : String) (query : Query) (page : Instance) (options : Options)
    (same : after.placeholders = before.placeholders)
    (length : after.webviews.length = before.webviews.length)
    (kept : ∀ known < before.webviews.length, (after.webview known).page =
      if webview = known ∧ (before.webview webview).isPreload then some (.page created)
      else (before.webview known).page)
    (calls : after.calls = before.calls ++ [.createPage created id route query page options]) :
    Shows before after webview (.page created)

/-- A page that is rendered gets on the page stack, and a preloaded webview keeps it. -/
theorem pushPage_spec (session : Session σ) (host : Host σ) (request : Request)
    (settings : RouteSettings) (webview : Nat) (page : Instance) :
    ∃ created, let after := session.pushPage host request settings webview page
      Shows session after webview (.page created) ∧ after.app =
        session.app.push (.page created) := by
  unfold pushPage
  dsimp only
  split
  · rename_i hpreload
    refine ⟨_, .page _ _ _ _ _ _ rfl (length_modifyWebview _ _ _) (fun known hlt => ?_) rfl, rfl⟩
    rw [webview_modifyWebview]
    · by_cases h : webview = known
      · rw [if_pos h, if_pos ⟨h, hpreload⟩]
        rfl
      · rw [if_neg h, if_neg fun both => h both.1]
        rfl
    · exact hlt
  · rename_i hpreload
    refine ⟨_, .page _ _ _ _ _ _ rfl rfl (fun known hlt => ?_) rfl, rfl⟩
    rw [if_neg fun both => hpreload both.2]
    rfl

/-- A page is shown as a placeholder if its webview is native, and as a rendered page if it is
not. -/
theorem showPage_spec (session : Session σ) (host : Host σ) (request : Request)
    (settings : RouteSettings) (webview : Nat) (page : Instance) :
    ∃ entry, let after := session.showPage host request settings webview page
      Shows session after webview entry ∧ after.app = session.app.push entry := by
  unfold showPage
  split
  · exact ⟨_, .placeholder page rfl rfl rfl, rfl⟩
  · obtain ⟨created, hshows, happ⟩ := pushPage_spec session host request settings webview page
    exact ⟨.page created, hshows, happ⟩

/-- A page is opened in two parts: everything up to the page stack is a frame, and the rest shows
the page. -/
theorem openPage_spec (session : Session σ) (host : Host σ) (request : Request)
    (given : Option Nat) :
    ∃ prepared entry, let opened := session.openPage host request given
      Frame session prepared ∧ Shows prepared opened.2 opened.1 entry ∧
        opened.2.app = prepared.app.push entry := by
  obtain ⟨entry, hshows, happ⟩ := showPage_spec (session.prepare host request given).2.2.2 host
    request (session.prepare host request given).2.1 (session.prepare host request given).1
    (session.prepare host request given).2.2.1
  exact ⟨_, entry, frame_prepare session host request given, hshows, happ⟩

/-- Where no webview is given, the page is opened in one with a new number. -/
theorem openPage_new (session : Session σ) (host : Host σ) (request : Request) :
    (session.openPage host request none).1 = session.webviews.length ∧
      session.webviews.length < (session.openPage host request none).2.webviews.length := by
  refine ⟨rfl, ?_⟩
  have hprovided : session.webviews.length < ((session.resolveRoute host request).2.provideWebview
      host request (session.resolveRoute host request).1 none).2.webviews.length := by
    simp [provideWebview, resolveRoute, addWebview, ask]
  have hprepared := (frame_prepare_provided session host request none).webviews
  rw [openPage_eq]
  obtain ⟨entry, hshows, -⟩ := showPage_spec (session.prepare host request none).2.2.2 host
    request (session.prepare host request none).2.1 (session.prepare host request none).1
    (session.prepare host request none).2.2.1
  cases hshows with
  | placeholder page added webviews calls =>
      rw [webviews]
      exact Nat.lt_of_lt_of_le hprovided hprepared
  | page created id route query page options same length kept calls =>
      rw [length]
      exact Nat.lt_of_lt_of_le hprovided hprepared

/-- Where a webview is given, the page is opened in the one that the host finds under its id, and
in the given one if it finds none. -/
theorem openPage_given (session : Session σ) (host : Host σ) (request : Request) (given : Nat) :
    ∃ found, (session.openPage host request (some given)).1 = found.getD given ∧
      session.calls ++ [.resolveRoute request.path request.openType,
        .findWebview (session.webview given).id found] <+:
        (session.openPage host request (some given)).2.calls := by
  refine ⟨_, rfl, ?_⟩
  have hprepared := (frame_prepare_provided session host request (some given)).calls
  rw [openPage_eq]
  obtain ⟨entry, hshows, -⟩ := showPage_spec (session.prepare host request (some given)).2.2.2 host
    request (session.prepare host request (some given)).2.1
    (session.prepare host request (some given)).1 (session.prepare host request (some given)).2.2.1
  refine List.IsPrefix.trans ?_ (hprepared.trans ?_)
  · simp [provideWebview, resolveRoute, modifyWebview, ask, Session.webview]
  · cases hshows with
    | placeholder page added webviews calls => exact calls ▸ List.prefix_refl _
    | page created id route query page options same length kept calls =>
        exact calls ▸ List.prefix_append _ _

/-- Showing a page leaves the number of webviews as it is. -/
theorem Shows.length_webviews {before after : Session σ} {webview : Nat} {entry : Entry}
    (h : Shows before after webview entry) : after.webviews.length = before.webviews.length := by
  cases h with
  | placeholder page added webviews calls => rw [webviews]
  | page created id route query page options same length kept calls => exact length

/-- What follows the calls so far is among the calls that were added. -/
theorem mem_addedCalls {before added after : List Call} {call : Call}
    (h : before ++ added <+: after) (hmem : call ∈ added) : call ∈ after.drop before.length := by
  obtain ⟨more, rfl⟩ := h
  rw [List.append_assoc, List.drop_left]
  exact List.mem_append_left _ hmem

/-! ### Registering a page -/

section Preload

variable {session : Session σ} {url : String} {webview : Nat} {page : Entry}

/-- If nothing is preloaded for a url, the pool has no webview for it. -/
theorem preloadFor_absent (h : session.preloadFor url = .absent) :
    session.app.preloads.find? url = none := by
  unfold preloadFor at h
  grind

/-- A blank preload is a pooled webview that keeps no page. -/
theorem preloadFor_blank (h : session.preloadFor url = .blank webview) :
    session.app.preloads.find? url = some webview ∧ (session.webview webview).page = none := by
  unfold preloadFor at h
  grind

/-- A shown preload is a pooled webview whose page is on the page stack. -/
theorem preloadFor_shown (h : session.preloadFor url = .shown webview) :
    ∃ page, session.app.preloads.find? url = some webview ∧
      (session.webview webview).page = some page ∧ page ∈ session.app.pages := by
  unfold preloadFor at h
  grind

/-- A hidden preload is a pooled webview whose page is off the page stack. -/
theorem preloadFor_hidden (h : session.preloadFor url = .hidden webview page) :
    session.app.preloads.find? url = some webview ∧
      (session.webview webview).page = some page ∧ page ∉ session.app.pages := by
  unfold preloadFor at h
  grind

end Preload

/-- A registration without a webview of its own does what the preload pool asks for. -/
theorem register_eq {session : Session σ} {host : Host σ} {request : Request}
    (hnone : request.webview = none) :
    session.register host request = match session.preloadFor request.url with
      | .absent | .shown _ => session.openPage host request none
      | .blank webview => session.openPage host request (some webview)
      | .hidden webview page => (webview, session.modifyApp fun app => app.push page) := by
  unfold register
  simp only [hnone, Option.isSome_none, Bool.false_eq_true, if_false]
  cases session.preloadFor request.url <;> rfl

/-! ### Native pages -/

/-- What a native page does when it takes over from its placeholder: it gets the place on the page
stack and is told how it was opened, and a webview that is preloaded and alive keeps it. -/
structure TakesOver (before after : Session σ) (alive : Bool) (placeholder number webview : Nat)
    (page : Instance) : Prop where
  held : before.placeholders[placeholder]? = some ⟨webview, some page⟩
  placeholders : after.placeholders = before.placeholders.set placeholder ⟨webview, none⟩
  app : after.app = before.app.swap (.placeholder placeholder) (.page number)
  calls : after.calls = before.calls ++ [.attach number webview page]
  webviews : after.webviews.length = before.webviews.length
  kept : ∀ known < before.webviews.length, (after.webview known).page =
    if webview = known ∧ alive ∧ (before.webview webview).isPreload then some (.page number)
    else (before.webview known).page

/-- A placeholder still holds what its native page gets, or nothing happens. -/
theorem nativePageCreated_spec (session : Session σ) (host : Host σ) (placeholder number : Nat) :
    (session.nativePageCreated host placeholder number).2 = session ∨
      ∃ alive webview page, TakesOver session
        (session.nativePageCreated host placeholder number).2 alive placeholder number webview
        page := by
  unfold nativePageCreated
  split
  · rename_i webview page hheld
    refine Or.inr ⟨(session.takeOver placeholder number webview page).isAlive host webview, webview,
      page, ?_⟩
    -- The page is recorded if the webview is alive and preloaded; no other webview is changed.
    unfold keepPage
    split
    · rename_i hkeeps
      rw [Bool.and_eq_true] at hkeeps
      refine ⟨hheld, rfl, rfl, rfl, length_modifyWebview _ _ _, fun known hlt => ?_⟩
      rw [webview_modifyWebview]
      · by_cases h : webview = known
        · rw [if_pos h, if_pos ⟨h, hkeeps⟩]
        · rw [if_neg h, if_neg fun both => h both.1]
          rfl
      · exact hlt
    · rename_i hkeeps
      rw [Bool.and_eq_true] at hkeeps
      refine ⟨hheld, rfl, rfl, rfl, rfl, fun known hlt => ?_⟩
      rw [if_neg fun both => hkeeps both.2]
      rfl
  · exact Or.inl rfl

/-! ### Callbacks -/

/-- The second session comes from the first by callbacks. They leave the webviews and the
placeholders alone, and the page stack and the preload pool too unless they clear both. -/
structure Settled (before after : Session σ) : Prop where
  app : after.app.pages = before.app.pages ∧ after.app.preloads = before.app.preloads ∨
    after.app.pages = [] ∧ after.app.preloads = .empty
  placeholders : after.placeholders = before.placeholders
  webviews : after.webviews = before.webviews
  calls : before.calls <+: after.calls

/-- Callbacks behind callbacks are just more of them. -/
theorem Settled.trans {first second third : Session σ} (h : Settled first second)
    (h' : Settled second third) : Settled first third where
  app := by
    rcases h'.app with ⟨hpages, hpreloads⟩ | hcleared
    · rw [hpages, hpreloads]
      exact h.app
    · exact Or.inr hcleared
  placeholders := h'.placeholders.trans h.placeholders
  webviews := h'.webviews.trans h.webviews
  calls := h.calls.trans h'.calls

/-- No entry comes onto the page stack. -/
theorem Settled.pages_sublist {before after : Session σ} (h : Settled before after) :
    after.app.pages.Sublist before.app.pages := by
  rcases h.app with ⟨hpages, -⟩ | ⟨hpages, -⟩
  · exact hpages ▸ List.Sublist.refl _
  · exact hpages ▸ List.nil_sublist _

/-- No webview comes into the preload pool. -/
theorem Settled.find? {before after : Session σ} (h : Settled before after) {url : String}
    {webview : Nat} (hfind : after.app.preloads.find? url = some webview) :
    before.app.preloads.find? url = some webview := by
  rcases h.app with ⟨-, hpool⟩ | ⟨-, hpool⟩
  · exact hpool ▸ hfind
  · rw [hpool] at hfind
    exact nomatch hfind

/-- However many actions are done, the session is settled. One action at a time, since each either
goes on with other actions in the same session or changes the session once. -/
theorem performFor_settled (host : Host σ) (steps : Nat) (actions : List Action)
    (session : Session σ) : Settled session (performFor host steps actions session) := by
  fun_induction performFor host steps actions session with
  | case1 => exact ⟨Or.inl ⟨rfl, rfl⟩, rfl, rfl, List.prefix_refl _⟩
  | case2 => exact ⟨Or.inl ⟨rfl, rfl⟩, rfl, rfl, List.prefix_refl _⟩
  | case3 steps label rest session ih =>
      refine Settled.trans ?_ ih
      exact ⟨Or.inl ⟨rfl, rfl⟩, rfl, rfl, List.prefix_append _ _⟩
  | case4 steps rest session ih =>
      refine Settled.trans ?_ ih
      exact ⟨Or.inl ⟨rfl, rfl⟩, rfl, rfl, List.prefix_append _ _⟩
  | case5 steps rest session ih =>
      refine Settled.trans ?_ ih
      exact ⟨Or.inl ⟨rfl, rfl⟩, rfl, rfl, List.prefix_refl _⟩
  | case6 steps rest session ih =>
      refine Settled.trans ?_ ih
      exact ⟨Or.inr ⟨rfl, rfl⟩, rfl, rfl, List.prefix_refl _⟩
  | case7 steps callback rest session hready ih => exact ih
  | case8 steps callback rest session hready ih =>
      refine Settled.trans ?_ ih
      exact ⟨Or.inl ⟨rfl, rfl⟩, rfl, rfl, List.prefix_refl _⟩

end MiniApp.Session
