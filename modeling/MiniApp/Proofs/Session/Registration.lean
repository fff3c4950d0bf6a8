import MiniApp.Proofs.Session.Frame

/-!
# What a registration does

A registration ends in one of two ways. Either the page that the pooled webview keeps is put back on
the page stack, and the host hears of nothing but the entry of the app; or a page is opened, and the
host is asked for one service after another.

* `register_cases`: the two ways, and the webview that the second one starts from.
* `prepare_spec`, `showPage_puts`: the two parts of opening a page. The calls stand in the record in
  the order of the steps, and the app, the webviews and the placeholders are said in full.
* `register_of_reuses`, `register_of_not_reuses`: what each way does to the session.
* `register_reuses_or_opens`: both ways together, for every session, host and request.
-/

set_option autoImplicit false

namespace MiniApp.Session

open MiniApp.App MiniApp.Page

variable {σ : Type}

/-! ### Which webview is used -/

/-- The pool has a webview for the url, and that keeps a page which is not on the page stack. -/
structure Reuses (session : Session σ) (url : String) (webview : Nat) (page : Entry) : Prop where
  pooled : session.app.preloads.find? url = some webview
  kept : (session.webview webview).page = some page
  hidden : page ∉ session.app.pages

/-- The pool has a webview for the url, and that keeps a page which is on the page stack. -/
structure InUse (session : Session σ) (url : String) (webview : Nat) (page : Entry) : Prop where
  pooled : session.app.preloads.find? url = some webview
  kept : (session.webview webview).page = some page
  shown : page ∈ session.app.pages

/-- A request needs a new webview: the pooled one is in use, or there is none in the pool and none
comes with the request. -/
def NeedsWebview (session : Session σ) (request : Request) : Prop :=
  (∃ webview page, session.InUse request.url webview page) ∨
    session.app.preloads.find? request.url = none ∧ request.webview = none

/-- The webview that a page is opened in, unless it is opened in a new one. -/
def offered (session : Session σ) (request : Request) : Option Nat :=
  match session.preloadFor request.url with
  | .absent => request.webview
  | .blank webview => some webview
  | .shown _ | .hidden _ _ => none

/-- The session in which a request is served. -/
def entered (session : Session σ) (host : Host σ) (request : Request) : Session σ :=
  if request.webview.isSome then session.enter host else session

/-- The call for the entry of the app, which the first request with a webview of its own makes. -/
def entryCalls (session : Session σ) (request : Request) : List Call :=
  if request.webview.isSome && !session.isEntered then [.initEntry] else []

/-- Initialising the entry changes nothing that a registration looks at. -/
theorem entered_spec (session : Session σ) (host : Host σ) (request : Request) :
    (session.entered host request).app = session.app ∧
      (session.entered host request).webviews = session.webviews ∧
      (session.entered host request).placeholders = session.placeholders ∧
      (session.entered host request).calls = session.calls ++ session.entryCalls request := by
  unfold entered enter entryCalls
  cases request.webview.isSome <;> cases session.isEntered <;> simp [notify, ask]

/-- The preloads are the same when a request is served. -/
theorem preloadFor_entered (session : Session σ) (host : Host σ) (request : Request)
    (url : String) : (session.entered host request).preloadFor url = session.preloadFor url := by
  obtain ⟨happ, hwebviews, -, -⟩ := entered_spec session host request
  unfold preloadFor Session.webview
  rw [happ, hwebviews]

/-- A page that can be put back is the answer of the pool. -/
theorem preloadFor_eq_hidden {session : Session σ} {url : String} {webview : Nat} {page : Entry}
    (h : session.Reuses url webview page) : session.preloadFor url = .hidden webview page := by
  simp only [preloadFor, h.pooled, h.kept, if_neg h.hidden]

/-- A page is put back on the stack if the pooled webview keeps one that is not there, and a page is
opened in any other case. -/
theorem register_cases (session : Session σ) (host : Host σ) (request : Request) :
    (∃ webview page, session.Reuses request.url webview page ∧
      session.register host request =
        (webview, (session.entered host request).modifyApp fun app => app.push page)) ∨
    (¬ ∃ webview page, session.Reuses request.url webview page) ∧
      session.register host request =
        (session.entered host request).openPage host request (session.offered request) := by
  -- The pool is asked behind the entry of the app, which changes nothing that it looks at.
  have hregister : session.register host request =
      match session.preloadFor request.url with
      | .absent => (session.entered host request).openPage host request request.webview
      | .blank webview => (session.entered host request).openPage host request (some webview)
      | .shown _ => (session.entered host request).openPage host request none
      | .hidden webview page =>
        (webview, (session.entered host request).modifyApp fun app => app.push page) := by
    rw [← preloadFor_entered session host request]
    rfl
  rw [hregister]
  unfold offered
  cases hfor : session.preloadFor request.url with
  | hidden webview page =>
      obtain ⟨hpooled, hkept, hhidden⟩ := preloadFor_hidden hfor
      exact Or.inl ⟨webview, page, ⟨hpooled, hkept, hhidden⟩, rfl⟩
  | absent | blank webview | shown webview =>
      refine Or.inr ⟨?_, rfl⟩
      rintro ⟨webview, page, hreuses⟩
      rw [preloadFor_eq_hidden hreuses] at hfor
      exact nomatch hfor

/-- Where no page is put back, a webview is offered unless the request needs a new one, and it is
the pooled one rather than the one that comes with the request. -/
theorem offered_spec {session : Session σ} {request : Request}
    (hopens : ¬ ∃ webview page, session.Reuses request.url webview page) :
    (session.offered request = none ↔ session.NeedsWebview request) ∧
      ∀ given ∈ session.offered request,
        (session.app.preloads.find? request.url).or request.webview = some given := by
  unfold offered NeedsWebview
  cases hfor : session.preloadFor request.url with
  | absent =>
      -- The pool has nothing, so the request decides.
      have hfind := preloadFor_absent hfor
      refine ⟨⟨fun hnone => Or.inr ⟨hfind, hnone⟩, ?_⟩, ?_⟩
      · rintro (⟨webview, page, h⟩ | ⟨-, hnone⟩)
        · rw [h.pooled] at hfind
          exact nomatch hfind
        · exact hnone
      · intro given hgiven
        rw [hfind]
        exact hgiven
  | blank webview =>
      obtain ⟨hfind, hnone⟩ := preloadFor_blank hfor
      refine ⟨⟨nofun, ?_⟩, ?_⟩
      · rintro (⟨other, page, h⟩ | ⟨habsent, -⟩)
        · -- The pooled webview keeps no page, so it cannot be in use.
          have hother : other = webview := Option.some.inj (h.pooled.symm.trans hfind)
          have hkept := h.kept
          rw [hother, hnone] at hkept
          exact nomatch hkept
        · rw [hfind] at habsent
          exact nomatch habsent
      · intro given hgiven
        rw [hfind]
        exact hgiven
  | shown webview =>
      -- The pooled webview is in use, and nothing takes its place.
      obtain ⟨page, hfind, hkept, hshown⟩ := preloadFor_shown hfor
      exact ⟨iff_of_true rfl (Or.inl ⟨webview, page, hfind, hkept, hshown⟩), nofun⟩
  | hidden webview page =>
      obtain ⟨hfind, hkept, hhidden⟩ := preloadFor_hidden hfor
      exact absurd ⟨webview, page, hfind, hkept, hhidden⟩ hopens

/-! ### The steps of opening a page -/

/-- The second session comes from the first by these calls. The app and the placeholders stay as
they are. -/
structure Serves (before after : Session σ) (made : List Call) : Prop where
  calls : after.calls = before.calls ++ made
  app : after.app = before.app
  placeholders : after.placeholders = before.placeholders

/-- Calls that are made one after another are made in all. -/
theorem Serves.trans {first second third : Session σ} {made more : List Call}
    (h : Serves first second made) (h' : Serves second third more) :
    Serves first third (made ++ more) where
  calls := by rw [h'.calls, h.calls, List.append_assoc]
  app := h'.app.trans h.app
  placeholders := h'.placeholders.trans h.placeholders

/-- Asking the host makes the call that records its answer. -/
theorem serves_ask {α : Type} (session : Session σ) (service : StateM σ α) (call : α → Call) :
    Serves session (session.ask service call).2 [call (session.ask service call).1] :=
  ⟨rfl, rfl, rfl⟩

/-- Changing a webview makes no call. -/
theorem serves_modifyWebview (session : Session σ) (webview : Nat) (change : Webview → Webview) :
    Serves session (session.modifyWebview webview change) [] :=
  ⟨(List.append_nil _).symm, rfl, rfl⟩

/-- Nor does adding one. -/
theorem serves_addWebview (session : Session σ) (added : Webview) :
    Serves session (session.addWebview added) [] :=
  ⟨(List.append_nil _).symm, rfl, rfl⟩

/-- How a page comes by its webview on a host in the state, the call that is made for it, the
webviews that there are then, and the state in which that leaves the host. A new webview is created
where none is given. One that is given is looked up under its id and used as it is if the host finds
none; it becomes native if the route is. -/
inductive Provides (session : Session σ) (host : Host σ) (request : Request)
    (route : RouteOptions) (state : σ) : Option Nat → Call → Nat → List Webview → σ → Prop
  | created (added : Webview) (after : σ)
      (answer : (host.createWebview session.webviews.length request.path route
        request.query).run state = (added, after)) :
      Provides session host request route state none
        (.createWebview session.webviews.length request.path route request.query)
        session.webviews.length (session.webviews ++ [added]) after
  | found (given : Nat) (found : Option Nat) (after : σ)
      (answer : (host.findWebview (session.webview given).id).run state = (found, after)) :
      Provides session host request route state (some given)
        (.findWebview (session.webview given).id found) (found.getD given)
        (session.webviews.modify (found.getD given) fun known =>
          { known with isNative := route.settings.isNative }) after

/-- Only the webviews decide how a page comes by its own. -/
theorem Provides.congr {session other : Session σ} {host : Host σ} {request : Request}
    {route : RouteOptions} {state after : σ} {given : Option Nat} {call : Call} {webview : Nat}
    {webviews : List Webview}
    (h : Provides session host request route state given call webview webviews after)
    (hsame : other.webviews = session.webviews) :
    Provides other host request route state given call webview webviews after := by
  cases h with
  | created added after answer =>
      rw [← hsame] at answer ⊢
      exact .created added after answer
  | found given found after answer =>
      have hgiven : other.webview given = session.webview given := webview_congr hsame given
      rw [← hgiven] at answer ⊢
      rw [← hsame]
      exact .found given found after answer

/-- The webview for a page is provided with one call, and the host answers from the state it is
in. -/
theorem provideWebview_provides (session : Session σ) (host : Host σ) (request : Request)
    (route : RouteOptions) (given : Option Nat) :
    ∃ provided, let answer := session.provideWebview host request route given
      Provides session host request route session.host given provided answer.1 answer.2.webviews
          answer.2.host ∧
        Serves session answer.2 [provided] := by
  cases given with
  | none =>
      exact ⟨_, .created _ _ rfl, (serves_ask session _ _).trans (serves_addWebview _ _)⟩
  | some given =>
      exact ⟨_, .found given _ _ rfl, (serves_ask session _ _).trans (serves_modifyWebview _ _ _)⟩

/-- The tab bar is the only thing that changes when a webview joins it. -/
theorem joinTabBar_spec (session : Session σ) (settings : RouteSettings) (webview : Nat) :
    (session.joinTabBar settings webview).webviews = session.webviews ∧
      (session.joinTabBar settings webview).calls = session.calls ∧
      (session.joinTabBar settings webview).placeholders = session.placeholders ∧
      (session.joinTabBar settings webview).app = { session.app with
        tabBar := if settings.isTabBar then session.app.tabBar.append webview
          else session.app.tabBar } := by
  unfold joinTabBar
  split <;> exact ⟨rfl, rfl, rfl, rfl⟩

/-- The id of a webview, and whether it is native. -/
def marks (session : Session σ) (webview : Nat) : Nat × Bool :=
  ((session.webview webview).id, (session.webview webview).isNative)

/-- A change of a webview that leaves the marks alone does so for every webview. -/
theorem marks_congr {before after : Session σ} {number : Nat} {change : Webview → Webview}
    (h : after.webviews = before.webviews.modify number change)
    (hid : ∀ known, (change known).id = known.id)
    (hnative : ∀ known, (change known).isNative = known.isNative) (webview : Nat) :
    after.marks webview = before.marks webview := by
  unfold marks Session.webview
  rw [h]
  simp only [List.getD_eq_getElem?_getD, List.getElem?_modify]
  cases before.webviews[webview]? with
  | none => rfl
  | some known =>
      by_cases hnumber : number = webview
      · simp [hnumber, hid, hnative]
      · simp [hnumber]

/-- Whether the launch of the app goes on with a page in a webview with these marks. -/
def isLaunch (marks : Nat × Bool) : Bool :=
  marks.1 == launchId && marks.2

/-- The call that closes the splash screen, unless it has to stay. -/
def splashCalls (app : State) : List Call :=
  if app.config.splash.autoclose && !app.config.splash.alwaysShowBeforeRender then [.closeSplash]
  else []

/-- The calls by which the launch of an app goes on: the splash screen is closed, and the navigation
is completed if the app is ready. -/
def launchCalls (app : State) (marks : Nat × Bool) : List Call :=
  if isLaunch marks then splashCalls app ++ if app.isReady then [.finishNavigation] else [] else []

/-- What waits in an app whose launch goes on: the navigation too if the app is not ready. -/
def launchWaiting (app : State) (marks : Nat × Bool) : List Callback :=
  if isLaunch marks && !app.isReady then app.waiting ++ [[.finishNavigation]] else app.waiting

/-- The state of the host once the splash screen is closed, if it is. -/
def splashState (host : Host σ) (app : State) (state : σ) : σ :=
  if app.config.splash.autoclose && !app.config.splash.alwaysShowBeforeRender then
    (host.closeSplash.run state).2
  else state

/-- The state of the host once the launch of an app has gone on, if it does. -/
def launchState (host : Host σ) (app : State) (marks : Nat × Bool) (state : σ) : σ :=
  if isLaunch marks then
    if app.isReady then (host.finishNavigation.run (splashState host app state)).2
    else splashState host app state
  else state

/-- Closing the splash screen is at most one call, and changes nothing but the host. -/
theorem closeSplash_serves (session : Session σ) (host : Host σ) :
    Serves session (session.closeSplash host) (splashCalls session.app) ∧
      (session.closeSplash host).webviews = session.webviews ∧
      (session.closeSplash host).host = splashState host session.app session.host := by
  unfold closeSplash splashCalls splashState
  dsimp only
  split
  · exact ⟨serves_ask session _ _, rfl, rfl⟩
  · exact ⟨⟨(List.append_nil _).symm, rfl, rfl⟩, rfl, rfl⟩

/-- What it comes to that the launch of an app goes on: calls to the host, and the navigation among
what waits if the app is not ready. -/
theorem resumeLaunch_spec (session : Session σ) (host : Host σ) (webview : Nat) :
    let resumed := session.resumeLaunch host webview
    resumed.calls = session.calls ++ launchCalls session.app (session.marks webview) ∧
      resumed.app = { session.app with
        waiting := launchWaiting session.app (session.marks webview) } ∧
      resumed.webviews = session.webviews ∧ resumed.placeholders = session.placeholders ∧
      resumed.host = launchState host session.app (session.marks webview) session.host := by
  have hlaunch : (session.webview webview).isNativeLaunch = isLaunch (session.marks webview) := rfl
  obtain ⟨hclose, hwebviews, hhost⟩ := closeSplash_serves session host
  unfold resumeLaunch launchCalls launchWaiting launchState
  rw [hlaunch]
  cases isLaunch (session.marks webview) with
  | false => exact ⟨(List.append_nil _).symm, rfl, rfl, rfl, rfl⟩
  | true =>
      simp only [if_true, Bool.true_and]
      -- The app is as ready behind the splash screen as it was before.
      rw [whenReady_finishNavigation, hclose.app]
      by_cases hready : session.app.isReady = true
      · rw [if_pos hready, if_pos hready, if_neg (by simp [hready]), if_pos hready]
        refine ⟨?_, hclose.app, hwebviews, hclose.placeholders, ?_⟩
        · show (session.closeSplash host).calls ++ [.finishNavigation] = _
          rw [hclose.calls, List.append_assoc]
        · show (host.finishNavigation.run (session.closeSplash host).host).2 = _
          rw [hhost]
      · rw [if_neg hready, if_neg hready, if_pos (by simp [hready]), if_neg hready,
          List.append_nil]
        refine ⟨hclose.calls, ?_, hwebviews, hclose.placeholders, hhost⟩
        show ({ (session.closeSplash host).app with
          waiting := (session.closeSplash host).app.waiting ++ [[.finishNavigation]] } : State) = _
        rw [hclose.app]

/-- How a page that was opened like this gets on the page stack, in a webview with these marks and
on a host in the state: as a new placeholder if the webview is native, without a call, or else as
the page that the host renders with the options for the settings. These are the placeholders that
there are then, and this is the state in which that leaves the host. -/
inductive Puts (session : Session σ) (host : Host σ) (request : Request)
    (settings : RouteSettings) (page : Instance) (webview : Nat) (state : σ) :
    Nat × Bool → List Call → Entry → List Placeholder → σ → Prop
  | placeholder (id : Nat) :
      Puts session host request settings page webview state (id, true) []
        (.placeholder session.placeholders.length)
        (session.placeholders ++ [⟨webview, some page⟩]) state
  | page (id created : Nat) (options : Options) (after : σ)
      (made : options = .create settings (host.system state) (host.statusbarHeight state)
        session.app.tabBar session.app.config)
      (answer : (host.createPage id (routeOfPath request.path) request.query page options).run
        state = (created, after)) :
      Puts session host request settings page webview state (id, false)
        [.createPage created id (routeOfPath request.path) request.query page options]
        (.page created) session.placeholders after

/-- A new placeholder gets the number of those that are there, and options are made from the tab bar
and the configuration only. -/
theorem Puts.congr {session other : Session σ} {host : Host σ} {request : Request}
    {settings : RouteSettings} {page : Instance} {webview : Nat} {state after : σ}
    {marks : Nat × Bool} {rendered : List Call} {entry : Entry} {placeholders : List Placeholder}
    (h : Puts session host request settings page webview state marks rendered entry placeholders
      after)
    (hsame : other.placeholders = session.placeholders)
    (hoptions : ∀ device height,
      Options.create settings device height other.app.tabBar other.app.config =
        .create settings device height session.app.tabBar session.app.config) :
    Puts other host request settings page webview state marks rendered entry placeholders
      after := by
  cases h with
  | placeholder id =>
      rw [← hsame]
      exact .placeholder id
  | page id created options after made answer =>
      rw [← hsame]
      exact .page id created options after (made.trans (hoptions _ _).symm) answer

/-- A webview in which an entry of the page stack is shown. A preloaded one keeps the entry, unless
that is a placeholder. -/
def keeping (entry : Entry) (known : Webview) : Webview :=
  if known.isPreload && !known.isNative then { known with page := some entry } else known

/-- The webview of an entry has the id that it had. -/
@[simp]
theorem keeping_id (entry : Entry) (known : Webview) : (keeping entry known).id = known.id := by
  unfold keeping
  split <;> rfl

/-- It is native if it was. -/
@[simp]
theorem keeping_isNative (entry : Entry) (known : Webview) :
    (keeping entry known).isNative = known.isNative := by
  unfold keeping
  split <;> rfl

/-- It is preloaded if it was. -/
@[simp]
theorem keeping_isPreload (entry : Entry) (known : Webview) :
    (keeping entry known).isPreload = known.isPreload := by
  unfold keeping
  split <;> rfl

/-- Only what is known about the webview that is changed decides what it is changed into. -/
theorem modify_congr {session : Session σ} {webview : Nat} {change change' : Webview → Webview}
    (h : change (session.webview webview) = change' (session.webview webview)) :
    session.webviews.modify webview change = session.webviews.modify webview change' := by
  refine List.ext_getElem? fun number => ?_
  rw [List.getElem?_modify, List.getElem?_modify]
  by_cases hnumber : webview = number
  · subst hnumber
    cases hknown : session.webviews[webview]? with
    | none => rfl
    | some known =>
        rw [webview_of_getElem? hknown] at h
        simp [h]
  · simp [hnumber]

/-- A native webview keeps no entry. -/
theorem modify_keeping_native {session : Session σ} {webview : Nat} (entry : Entry)
    (hnative : (session.webview webview).isNative = true) :
    session.webviews.modify webview (keeping entry) = session.webviews := by
  have hsame : keeping entry (session.webview webview) = id (session.webview webview) := by
    simp [keeping, hnative]
  rw [modify_congr hsame]
  exact List.modify_id webview session.webviews

/-- What shows a page: a placeholder waits with it in a native webview, and in any other the host
renders it and a preloaded webview keeps it. -/
theorem showPage_shown (session : Session σ) (host : Host σ) (request : Request)
    (settings : RouteSettings) (webview : Nat) (page : Instance) :
    let after := session.showPage host request settings webview page
    let options := Options.create settings (host.system session.host)
      (host.statusbarHeight session.host) session.app.tabBar session.app.config
    (session.webview webview).isNative = true ∧
        after.app = session.app.push (.placeholder session.placeholders.length) ∧
        after.placeholders = session.placeholders ++ [⟨webview, some page⟩] ∧
        after.calls = session.calls ∧ after.webviews = session.webviews ∧
        after.host = session.host ∨
      (session.webview webview).isNative = false ∧ ∃ created,
        after.app = session.app.push (.page created) ∧
        after.placeholders = session.placeholders ∧
        after.calls = session.calls ++ [.createPage created (session.webview webview).id
          (routeOfPath request.path) request.query page options] ∧
        after.webviews = session.webviews.modify webview (keeping (.page created)) ∧
        (host.createPage (session.webview webview).id (routeOfPath request.path) request.query page
          options).run session.host = (created, after.host) := by
  intro after options
  cases hnative : (session.webview webview).isNative with
  | true =>
      have hafter : after = session.pushPlaceholder webview page := if_pos hnative
      rw [hafter]
      exact Or.inl ⟨rfl, rfl, rfl, rfl, rfl, rfl⟩
  | false =>
      have hafter : after = session.pushPage host request settings webview page :=
        if_neg (by simp [hnative])
      rw [hafter]
      refine Or.inr ⟨rfl, ?_⟩
      unfold pushPage
      dsimp only
      -- Whether the webview is preloaded decides only whether it keeps the page.
      split
      · rename_i hpreload
        have hpreload : (session.webview webview).isPreload = true := hpreload
        refine ⟨_, rfl, rfl, rfl, ?_, rfl⟩
        show session.webviews.modify webview _ = _
        exact modify_congr (by simp [keeping, hnative, hpreload])
      · rename_i hpreload
        have hpreload : ¬ (session.webview webview).isPreload = true := hpreload
        have hsame : session.webviews.modify webview id = session.webviews :=
          List.modify_id webview session.webviews
        refine ⟨_, rfl, rfl, rfl, hsame.symm.trans (modify_congr ?_), rfl⟩
        simp [keeping, hpreload]

/-- Showing a page puts one entry on the stack and changes nothing else of the app. -/
theorem showPage_puts (session : Session σ) (host : Host σ) (request : Request)
    (settings : RouteSettings) (webview : Nat) (page : Instance) :
    ∃ rendered entry, let after := session.showPage host request settings webview page
      Puts session host request settings page webview session.host (session.marks webview) rendered
          entry after.placeholders after.host ∧
        after.app = session.app.push entry ∧ after.calls = session.calls ++ rendered ∧
        after.webviews = session.webviews.modify webview (keeping entry) := by
  have hshown := showPage_shown session host request settings webview page
  generalize session.showPage host request settings webview page = after at hshown ⊢
  rcases hshown with ⟨hnative, happ, hplaceholders, hcalls, hwebviews, hhost⟩ |
    ⟨hnative, created, happ, hplaceholders, hcalls, hwebviews, hanswer⟩
  · have hmarks : session.marks webview = ((session.webview webview).id, true) := by
      rw [← hnative]
      rfl
    rw [hmarks]
    refine ⟨[], _, ?_, happ, by simp [hcalls], ?_⟩
    · rw [hplaceholders, hhost]
      exact .placeholder _
    · rw [hwebviews, modify_keeping_native _ hnative]
  · have hmarks : session.marks webview = ((session.webview webview).id, false) := by
      rw [← hnative]
      rfl
    rw [hmarks]
    refine ⟨_, _, ?_, happ, hcalls, hwebviews⟩
    rw [hplaceholders]
    exact .page _ created _ _ rfl hanswer

/-! ### Opening a page -/

/-- The webview in which a page has been opened: it is marked with the route, and keeps the entry if
it is to. -/
def hosting (request : Request) (entry : Entry) (known : Webview) : Webview :=
  keeping entry { known with route := some (routeOfPath request.path) }

/-- What the host answers when it is asked how the page for a request was opened, and the state in
which that leaves it. It has the webview initialised before. -/
def instanceIn (host : Host σ) (request : Request) (settings : RouteSettings) (webview : Nat)
    (state : σ) : Instance × σ :=
  let initialised := (host.initWebview webview request.path request.query settings).run state
  (host.createInstance request.openType request.url request.query settings).run initialised.2

/-- Once the host has resolved the route, a page is opened by these calls, one after another; this
is the entry that they put on the page stack, these are the webviews and the placeholders in the
end, and this is the state of the host. The webview is initialised and the instance is made with the
settings of the route, which carry the id of the webview. Each service starts from the state in
which the one before has left the host. -/
inductive OpenSteps (session : Session σ) (host : Host σ) (request : Request)
    (resolved : RouteOptions × σ) (given : Option Nat) (webview : Nat) (marks : Nat × Bool) :
    List Call → Entry → List Webview → List Placeholder → σ → Prop
  | inOrder (settings : RouteSettings) (provided : Call) (webviews : List Webview)
      (before : Option String) (state : σ) (page : Instance × σ) (rendered : List Call)
      (entry : Entry) (placeholders : List Placeholder) (after : σ)
      (hsettings : settings = { resolved.1.settings with id := some marks.1 })
      (hprovided : Provides session host request resolved.1 resolved.2 given provided webview
        webviews state)
      (hpage : page = instanceIn host request settings webview state)
      (hrendered : Puts session host request settings page.1 webview
        (launchState host session.app marks page.2) marks rendered entry placeholders after) :
      OpenSteps session host request resolved given webview marks
        ([.resolveRoute request.path request.openType, provided,
          .initWebview webview before request.path request.query settings,
          .createInstance request.openType request.url request.query settings] ++
          launchCalls session.app marks ++ rendered)
        entry (webviews.modify webview (hosting request entry)) placeholders after

/-- Whether a call is one of those by which a page is opened, launches apart. -/
def Call.isOpening : Call → Bool
  | .resolveRoute .. | .createWebview .. | .findWebview .. | .initWebview .. | .createInstance ..
  | .createPage .. => true
  | _ => false

/-- Of the calls that open a page only those of a launch can be of another kind. -/
theorem OpenSteps.filter_made {session : Session σ} {host : Host σ} {request : Request}
    {resolved : RouteOptions × σ} {given : Option Nat} {webview : Nat} {marks : Nat × Bool}
    {made : List Call} {entry : Entry} {webviews : List Webview} {placeholders : List Placeholder}
    {after : σ} {kind : Call → Bool}
    (h : OpenSteps session host request resolved given webview marks made entry webviews
      placeholders after) (hkind : ∀ call : Call, call.isOpening = true → kind call = false) :
    made.filter kind = (launchCalls session.app marks).filter kind := by
  cases h with
  | inOrder settings provided known before state page rendered _ _ _ hsettings hprovided hpage
      hrendered =>
  have hopening : ∀ calls : List Call, calls.all Call.isOpening = true →
      calls.filter kind = [] := by
    intro calls hall
    rw [List.filter_eq_nil_iff]
    intro call hmem
    rw [hkind call (List.all_eq_true.mp hall call hmem)]
    exact Bool.false_ne_true
  have hrendering : rendered.filter kind = [] := by
    cases hrendered with
    | placeholder id => rfl
    | page id created options after made answer => exact hopening _ rfl
  rw [List.filter_append, List.filter_append, hrendering, List.append_nil, hopening _ ?_,
    List.nil_append]
  cases hprovided with
  | created added after answer => rfl
  | found given found after answer => rfl

/-- What it comes to that a page is opened: the calls, and in the app one entry more on the page
stack, the webview in the tab bar if the settings of the route say so, and the navigation that waits
if the launch of the app goes on. -/
structure Opens (session : Session σ) (host : Host σ) (request : Request)
    (resolved : RouteOptions × σ) (given : Option Nat) (opened : Nat × Session σ)
    (made : List Call) (entry : Entry) : Prop where
  steps : OpenSteps session host request resolved given opened.1 (opened.2.marks opened.1) made
    entry opened.2.webviews opened.2.placeholders opened.2.host
  app : opened.2.app = { session.app with
    pages := session.app.pages ++ [entry]
    tabBar :=
      if resolved.1.settings.isTabBar then session.app.tabBar.append opened.1
      else session.app.tabBar
    waiting := launchWaiting session.app (opened.2.marks opened.1) }

/-- The session in which a page is shown. The host has been asked for its services in order, each
with what the ones before have answered; the webview is marked with the route of the page, and
stands in the tab bar if the settings of the route say so. -/
theorem prepare_spec (session : Session σ) (host : Host σ) (request : Request)
    (given : Option Nat) :
    let prepared := session.prepare host request given
    let webview := prepared.1
    let settings := prepared.2.1
    let before := prepared.2.2.2
    let resolved := (host.resolveRoute request.path request.openType).run session.host
    ∃ provided webviews route state,
      Provides session host request resolved.1 resolved.2 given provided webview webviews state ∧
      settings = { resolved.1.settings with id := some (before.marks webview).1 } ∧
      before.calls = session.calls ++ ([.resolveRoute request.path request.openType, provided,
        .initWebview webview route request.path request.query settings,
        .createInstance request.openType request.url request.query settings] ++
        launchCalls session.app (before.marks webview)) ∧
      before.app = { session.app with
        tabBar := if resolved.1.settings.isTabBar then session.app.tabBar.append webview
          else session.app.tabBar
        waiting := launchWaiting session.app (before.marks webview) } ∧
      before.webviews = webviews.modify webview (fun known =>
        { known with route := some (routeOfPath request.path) }) ∧
      before.placeholders = session.placeholders ∧
      prepared.2.2.1 = (instanceIn host request settings webview state).1 ∧
      before.host = launchState host session.app (before.marks webview)
        (instanceIn host request settings webview state).2 := by
  intro prepared webview settings before answer
  -- The sessions between the steps, in the order in which the host is asked.
  let resolved := session.resolveRoute host request
  let provision := resolved.2.provideWebview host request resolved.1 given
  let placed := provision.2.joinTabBar settings webview
  let initialised := placed.initWebview host request settings webview
  let created := initialised.createInstance host request settings
  have hresolved : Serves session resolved.2 [.resolveRoute request.path request.openType] :=
    serves_ask session _ _
  obtain ⟨provided, hprovides, hprovided⟩ :=
    provideWebview_provides resolved.2 host request resolved.1 given
  obtain ⟨hjoined, hcalls, hplaceholders, happ⟩ := joinTabBar_spec provision.2 settings webview
  have hplaced : Serves placed created.2
      [.initWebview webview (placed.webview webview).route request.path request.query settings,
        .createInstance request.openType request.url request.query settings] :=
    ((serves_ask placed _ _).trans (serves_modifyWebview _ _ _)).trans (serves_ask initialised _ _)
  obtain ⟨hresumed, hwaiting, hsame, hkept, hhost⟩ := resumeLaunch_spec created.2 host webview
  have hwebviews : before.webviews = provision.2.webviews.modify webview (fun known =>
      { known with route := some (routeOfPath request.path) }) := by
    rw [← hjoined]
    exact hsame
  -- The marks of the webview stay as they are from when it is provided.
  have hmarks : before.marks webview = provision.2.marks webview :=
    marks_congr hwebviews (fun _ => rfl) (fun _ => rfl) webview
  -- Whether the launch goes on is decided before the page is shown, by the same marks.
  have hlaunching : created.2.marks webview = before.marks webview := by
    show _ = (created.2.resumeLaunch host webview).marks webview
    unfold marks Session.webview
    rw [hsame]
  have hcreated : created.2.app = { session.app with
      tabBar := if resolved.1.settings.isTabBar then session.app.tabBar.append webview
        else session.app.tabBar } := by
    rw [hplaced.app, happ, hprovided.app, hresolved.app]
    rfl
  have hplacedHost : placed.host = provision.2.host := by
    show (provision.2.joinTabBar settings webview).host = _
    unfold joinTabBar
    split <;> rfl
  have hinstance : created.1 = (instanceIn host request settings webview provision.2.host).1 ∧
      created.2.host = (instanceIn host request settings webview provision.2.host).2 := by
    rw [← hplacedHost]
    exact ⟨rfl, rfl⟩
  refine ⟨provided, provision.2.webviews, (placed.webview webview).route, provision.2.host,
    hprovides.congr rfl, ?_, ?_, ?_, hwebviews, ?_, hinstance.1, ?_⟩
  · rw [hmarks]
    rfl
  · have hlaunch : launchCalls created.2.app (created.2.marks webview) =
        launchCalls session.app (before.marks webview) := by
      rw [hlaunching, hcreated]
      rfl
    show (created.2.resumeLaunch host webview).calls = _
    rw [hresumed, hlaunch, hplaced.calls, hcalls, hprovided.calls, hresolved.calls]
    simp only [List.append_assoc]
    rfl
  · show (created.2.resumeLaunch host webview).app = _
    rw [hwaiting, hlaunching, hcreated]
    rfl
  · show (created.2.resumeLaunch host webview).placeholders = _
    rw [hkept, hplaced.placeholders, hplaceholders, hprovided.placeholders, hresolved.placeholders]
  · have hlaunch : launchState host created.2.app (created.2.marks webview) =
        launchState host session.app (before.marks webview) := by
      rw [hlaunching, hcreated]
      rfl
    show (created.2.resumeLaunch host webview).host = _
    rw [hhost, hlaunch, hinstance.2]

/-- Opening a page prepares the session and puts one entry on the stack. -/
theorem openPage_opens (session : Session σ) (host : Host σ) (request : Request)
    (given : Option Nat) :
    ∃ made entry, (session.openPage host request given).2.calls = session.calls ++ made ∧
      Opens session host request
        ((host.resolveRoute request.path request.openType).run session.host) given
        (session.openPage host request given) made entry := by
  obtain ⟨provided, webviews, route, state, hprovides, hsettings, hcalls, happ, hwebviews,
    hplaceholders, hpage, hhost⟩ := prepare_spec session host request given
  rw [openPage_eq]
  generalize session.prepare host request given = prepared at *
  obtain ⟨webview, settings, page, before⟩ := prepared
  dsimp only at *
  obtain ⟨rendered, entry, hputs, hshown, hrecord, hkeeping⟩ :=
    showPage_puts before host request settings webview page
  generalize before.showPage host request settings webview page = after at *
  have hmarks : after.marks webview = before.marks webview :=
    marks_congr hkeeping (keeping_id entry) (keeping_isNative entry) webview
  -- What the page is rendered with comes behind what preparing it has asked for.
  have hmade := hrecord
  rw [hcalls, List.append_assoc] at hmade
  refine ⟨_, entry, hmade, ⟨?_, ?_⟩⟩
  -- The webview is changed twice, by its route and by the entry; that is one change.
  · have hhosting : after.webviews = webviews.modify webview (hosting request entry) := by
      rw [hkeeping, hwebviews]
      exact List.modify_modify_eq _ _ webview webviews
    -- The webview that may have joined the tab bar by then is nothing to the options.
    have hoptions : ∀ device height,
        Options.create settings device height session.app.tabBar session.app.config =
          .create settings device height before.app.tabBar before.app.config := by
      intro device height
      rw [happ]
      dsimp only
      split <;> rfl
    have hputs := hputs.congr hplaceholders.symm hoptions
    rw [hpage, hhost] at hputs
    show OpenSteps session host request _ given webview (after.marks webview) _ entry
      after.webviews after.placeholders after.host
    rw [hhosting, hmarks]
    exact .inOrder settings provided webviews route state _ rendered entry _ _ hsettings hprovides
      rfl hputs
  · rw [hmarks, hshown, happ]
    rfl

/-- Opening a page looks at the app, the webviews and the placeholders of the session only. -/
theorem Opens.congr {session other : Session σ} {host : Host σ} {request : Request}
    {resolved : RouteOptions × σ} {given : Option Nat} {opened : Nat × Session σ}
    {made : List Call} {entry : Entry}
    (h : Opens session host request resolved given opened made entry)
    (happ : other.app = session.app) (hwebviews : other.webviews = session.webviews)
    (hplaceholders : other.placeholders = session.placeholders) :
    Opens other host request resolved given opened made entry where
  steps := by
    have hsteps := h.steps
    generalize opened.2.webviews = known, opened.2.placeholders = placeholders,
      opened.2.host = after at hsteps ⊢
    cases hsteps with
    | inOrder settings provided webviews before state page rendered _ _ _ hsettings hprovided hpage
        hrendered =>
        have hoptions : ∀ device height,
            Options.create settings device height other.app.tabBar other.app.config =
              .create settings device height session.app.tabBar session.app.config := by
          intro device height
          rw [happ]
        rw [← happ] at hrendered ⊢
        exact .inOrder settings provided webviews before state page rendered entry _ _ hsettings
          (hprovided.congr hwebviews) hpage (hrendered.congr hplaceholders hoptions)
  app := by rw [h.app, happ]

/-- The page stack gets one entry more. -/
theorem Opens.pages {session : Session σ} {host : Host σ} {request : Request}
    {resolved : RouteOptions × σ} {given : Option Nat} {opened : Nat × Session σ}
    {made : List Call} {entry : Entry}
    (h : Opens session host request resolved given opened made entry) :
    opened.2.app.pages = session.app.pages ++ [entry] := by
  rw [h.app]

/-- Where the pooled webview keeps a page that is not on the stack, a registration puts that page
back and changes nothing else. -/
theorem register_of_reuses {session : Session σ} (host : Host σ) {request : Request}
    {webview : Nat} {page : Entry} (h : session.Reuses request.url webview page) :
    let registered := session.register host request
    registered.1 = webview ∧ registered.2.app = session.app.push page ∧
      registered.2.webviews = session.webviews ∧
      registered.2.placeholders = session.placeholders ∧
      registered.2.calls = session.calls ++ session.entryCalls request := by
  rcases register_cases session host request with ⟨reused, kept, hreuses, heq⟩ | ⟨hopens, -⟩
  · have hsame := (preloadFor_eq_hidden hreuses).symm.trans (preloadFor_eq_hidden h)
    obtain ⟨rfl, rfl⟩ := Preload.hidden.inj hsame
    rw [heq]
    obtain ⟨happ, hwebviews, hplaceholders, hcalls⟩ := entered_spec session host request
    exact ⟨rfl, congrArg (State.push · kept) happ, hwebviews, hplaceholders, hcalls⟩
  · exact absurd ⟨webview, page, h⟩ hopens

/-- Where it keeps none, a registration opens a page: in a new webview if the request needs one, or
else in the pooled one, or else in the one that comes with the request. -/
theorem register_of_not_reuses {session : Session σ} (host : Host σ) {request : Request}
    (h : ¬ ∃ webview page, session.Reuses request.url webview page) :
    let registered := session.register host request
    ∃ given made entry, (given = none ↔ session.NeedsWebview request) ∧
      (∀ webview ∈ given,
        (session.app.preloads.find? request.url).or request.webview = some webview) ∧
      registered.2.calls = session.calls ++ session.entryCalls request ++ made ∧
      Opens session host request ((host.resolveRoute request.path request.openType).run
        (session.entered host request).host) given registered made entry := by
  intro registered
  rcases register_cases session host request with ⟨webview, page, hreuses, -⟩ | ⟨-, heq⟩
  · exact absurd ⟨webview, page, hreuses⟩ h
  · obtain ⟨happ, hwebviews, hplaceholders, hcalls⟩ := entered_spec session host request
    obtain ⟨hneeds, hgiven⟩ := offered_spec h
    obtain ⟨made, entry, hmade, hopened⟩ :=
      openPage_opens (session.entered host request) host request (session.offered request)
    rw [← heq] at hmade hopened
    refine ⟨session.offered request, made, entry, hneeds, hgiven, ?_, ?_⟩
    · rw [hmade, hcalls]
    · exact hopened.congr happ.symm hwebviews.symm hplaceholders.symm

end MiniApp.Session
