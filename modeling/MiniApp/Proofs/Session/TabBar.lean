import MiniApp.Proofs.Session.Callbacks
import MiniApp.Proofs.Session.Teardown

/-!
# What the tab bar covers

A tab bar may lie over the page behind it, and a page that is one of its entries is told how much of
the window that takes. Two things say that a page belongs to the tab bar. The configuration lists
the pages of its entries, and the settings of a route may ask for the webview of the page to be put
into the tab bar. Only the first one counts here, and nothing that happens to an app changes it.

* `routeOfPath_eq_iff`: the paths of entries and pages are compared without a slash at their start.
* `indexOf?_ofConfig_eq_some_iff`, `coveredBottom_of_clear`: what the tab bar of a configuration
  says of a route.
* `register_renderOptions`, `renderOptions_take`: the options that a step has pages rendered with.
* `windowBottom_byConfig`: these in every session of an app.
-/

set_option autoImplicit false

namespace MiniApp.Page

/-! ### Paths that lead to one route -/

/-- A route is what is left of a path without a slash at its start, if there is one. -/
inductive LeadsTo : String → String → Prop
  | slash (route : String) : LeadsTo ("/" ++ route) route
  | plain (path : String) (h : path.toList.head? ≠ some '/') : LeadsTo path path

/-- The route for a path is the one that it leads to. -/
theorem routeOfPath_eq_iff {path route : String} :
    routeOfPath path = route ↔ LeadsTo path route := by
  constructor
  · rintro rfl
    -- The path is divided at its first character.
    unfold routeOfPath
    split
    · rename_i rest hpath
      have hslash : path = "/" ++ String.ofList rest := by
        rw [← String.toList_inj, hpath, String.toList_append]
        simp
      rw [hslash]
      exact .slash _
    · rename_i hplain
      refine .plain path fun hhead => ?_
      obtain ⟨rest, hrest⟩ := List.head?_eq_some_iff.mp hhead
      exact hplain rest hrest
  · rintro (route | ⟨path, h⟩)
    · unfold routeOfPath
      rw [String.toList_append]
      exact String.ofList_toList
    · unfold routeOfPath
      split
      · rename_i rest hpath
        rw [hpath] at h
        exact absurd rfl h
      · rfl

/-- Two paths lead to one route. -/
def SameRoute (path other : String) : Prop :=
  ∃ route, LeadsTo path route ∧ LeadsTo other route

/-- Two paths lead to one route if and only if the routes that are computed of them are equal. -/
theorem sameRoute_iff {path other : String} :
    SameRoute path other ↔ routeOfPath path = routeOfPath other := by
  constructor
  · rintro ⟨route, hpath, hother⟩
    rw [routeOfPath_eq_iff.mpr hpath, routeOfPath_eq_iff.mpr hother]
  · intro h
    exact ⟨routeOfPath other, routeOfPath_eq_iff.mp h, routeOfPath_eq_iff.mp rfl⟩

instance (path other : String) : Decidable (SameRoute path other) :=
  decidable_of_iff _ sameRoute_iff.symm

end MiniApp.Page

namespace MiniApp.App

open MiniApp.Json MiniApp.Page

/-! ### The tab bar of a configuration -/

/-- Whether a route is that of an entry. -/
def TabBarConfig.HasRoute (config : TabBarConfig) (route : String) : Prop :=
  ∃ item ∈ config.list, SameRoute item.pagePath route

instance (config : TabBarConfig) (route : String) : Decidable (config.HasRoute route) :=
  inferInstanceAs (Decidable (∃ item ∈ config.list, SameRoute item.pagePath route))

namespace TabBar

/-- A route is found at the first entry that is configured for it. -/
theorem indexOf?_ofConfig_eq_some_iff (config : TabBarConfig) (route : String) (place : Nat) :
    (ofConfig config).indexOf? route = some place ↔
      (∃ item, config.list[place]? = some item ∧ SameRoute item.pagePath route) ∧
        ∀ before < place, ∀ item ∈ config.list[before]?, ¬ SameRoute item.pagePath route := by
  unfold indexOf? ofConfig
  rw [List.findIdx?_map, List.findIdx?_eq_some_iff_getElem]
  simp only [Function.comp_apply, beq_iff_eq, sameRoute_iff]
  constructor
  · rintro ⟨hlt, hmatch, hfirst⟩
    refine ⟨⟨_, List.getElem?_eq_getElem hlt, hmatch⟩, ?_⟩
    intro before hbefore item hitem
    obtain ⟨_, rfl⟩ := List.getElem?_eq_some_iff.mp hitem
    exact hfirst before hbefore
  · rintro ⟨⟨item, hitem, hmatch⟩, hfirst⟩
    obtain ⟨hlt, rfl⟩ := List.getElem?_eq_some_iff.mp hitem
    exact ⟨hlt, hmatch, fun before hbefore =>
      hfirst before hbefore _ (List.getElem?_eq_getElem (Nat.lt_trans hbefore hlt))⟩

/-- A route that no entry is configured for is not found. -/
theorem indexOf?_ofConfig_eq_none_iff (config : TabBarConfig) (route : String) :
    (ofConfig config).indexOf? route = none ↔ ¬ config.HasRoute route := by
  unfold indexOf? ofConfig TabBarConfig.HasRoute
  rw [List.findIdx?_map, List.findIdx?_eq_none_iff]
  simp [sameRoute_iff]

/-- A route is a tab if the configuration lists it. -/
theorem isTab_ofConfig (config : TabBarConfig) (route : String) :
    (ofConfig config).isTab route = decide (config.HasRoute route) := by
  unfold isTab
  cases hplace : (ofConfig config).indexOf? route with
  | none =>
      rw [indexOf?_ofConfig_eq_none_iff] at hplace
      simp [hplace]
  | some place =>
      have hroute : config.HasRoute route := by
        rw [← not_not (a := config.HasRoute route), ← indexOf?_ofConfig_eq_none_iff, hplace]
        exact Option.some_ne_none place
      simp [hroute]

end TabBar

/-- What the tab bar takes from the bottom of the page of a route: its height if it covers pages and
the route is that of an entry, and nothing otherwise. -/
def TabBarConfig.bottomFor (config : TabBarConfig) (route : String) : Double :=
  if config.cover = true ∧ config.HasRoute route then config.height else .zero

/-- A running tab bar covers what its configuration says, whichever webviews it has. -/
theorem coveredBottom_of_clear {bar : TabBar} {config : TabBarConfig}
    (h : bar.clear = .ofConfig config) (settings : RouteSettings) :
    coveredBottom settings bar = config.bottomFor settings.route := by
  have hfresh : coveredBottom settings bar = coveredBottom settings (.ofConfig config) := by
    rw [← h]
    rfl
  rw [hfresh]
  unfold coveredBottom TabBarConfig.bottomFor
  rw [TabBar.isTab_ofConfig]
  show (if (decide (config.HasRoute settings.route) && config.cover) = true then config.height
    else .zero) = _
  simp [and_comm]

/-- A running tab bar finds what its configuration says. -/
theorem indexOf?_of_clear {bar : TabBar} {config : TabBarConfig} (h : bar.clear = .ofConfig config)
    (route : String) : bar.indexOf? route = (TabBar.ofConfig config).indexOf? route := by
  rw [← h]
  rfl

end MiniApp.App

namespace MiniApp.Session

open MiniApp.App MiniApp.Page

variable {σ : Type}

/-! ### What pages are rendered with -/

/-- The options that the call has a page rendered with. -/
def Call.options? : Call → Option Options
  | .createPage _ _ _ _ _ options => some options
  | _ => none

/-- The options that pages have been rendered with, in their order. -/
def renderOptions (session : Session σ) : List Options :=
  session.calls.filterMap Call.options?

/-- Further calls add the options with which they render pages. -/
theorem renderOptions_append {before after : Session σ} {made : List Call}
    (h : after.calls = before.calls ++ made) :
    after.renderOptions = before.renderOptions ++ made.filterMap Call.options? := by
  unfold renderOptions
  rw [h, List.filterMap_append]

/-- The options for a page that is shown in a session: those for its settings on the device, with
the tab bar and the configuration of the app. -/
def optionsFor (session : Session σ) (host : Host σ) (settings : RouteSettings) : Options :=
  .create settings (host.system session.host) (host.statusbarHeight session.host)
    session.app.tabBar session.app.config

/-- A page that gets on the stack is rendered by one call, with the options for its settings. -/
theorem calls_pushPage (session : Session σ) (host : Host σ) (request : Request)
    (settings : RouteSettings) (webview : Nat) (page : Instance) :
    ∃ created, (session.pushPage host request settings webview page).calls = session.calls ++
      [.createPage created (session.webview webview).id (routeOfPath request.path) request.query
        page (session.optionsFor host settings)] := by
  unfold pushPage
  dsimp only
  split <;> exact ⟨_, rfl⟩

/-- A page that is shown is rendered with the options for its settings, unless it is native. -/
theorem showPage_renderOptions (session : Session σ) (host : Host σ) (request : Request)
    (settings : RouteSettings) (webview : Nat) (page : Instance) :
    let after := session.showPage host request settings webview page
    (after.webview webview).isNative = (session.webview webview).isNative ∧
      after.renderOptions = session.renderOptions ++
        if (session.webview webview).isNative then [] else [session.optionsFor host settings] := by
  intro after
  constructor
  · obtain ⟨rendered, entry, -, -, -, hwebviews⟩ :=
      showPage_puts session host request settings webview page
    exact congrArg Prod.snd
      (marks_congr hwebviews (keeping_id entry) (keeping_isNative entry) webview)
  · show (session.showPage host request settings webview page).renderOptions = _
    unfold showPage
    split
    · exact (List.append_nil _).symm
    · obtain ⟨created, hcalls⟩ := calls_pushPage session host request settings webview page
      exact renderOptions_append hcalls

/-- How a page comes by its webview renders nothing. -/
theorem Provides.options?_eq_none {session : Session σ} {host : Host σ} {request : Request}
    {route : RouteOptions} {state state' : σ} {given : Option Nat} {call : Call} {webview : Nat}
    {webviews : List Webview}
    (h : Provides session host request route state given call webview webviews state') :
    call.options? = none := by
  cases h <;> rfl

/-- The calls by which a launch goes on render no page. -/
theorem options_launchCalls (app : State) (marks : Nat × Bool) :
    (launchCalls app marks).filterMap Call.options? = [] := by
  unfold launchCalls splashCalls
  split
  · split <;> split <;> rfl
  · rfl

/-- Nothing is rendered before the page is shown. The webview that may have joined the tab bar by
then, and the id that the settings have got, are nothing to the options. -/
theorem prepare_renderOptions (session : Session σ) (host : Host σ) (request : Request)
    (given : Option Nat) :
    let prepared := session.prepare host request given
    let settings := ((host.resolveRoute request.path request.openType).run session.host).1.settings
    prepared.2.2.2.renderOptions = session.renderOptions ∧
      ∃ state, prepared.2.2.2.optionsFor host prepared.2.1 = .create settings (host.system state)
        (host.statusbarHeight state) session.app.tabBar session.app.config := by
  obtain ⟨provided, webviews, before, provision, hprovides, hsettings, hcalls, happ, -⟩ :=
    prepare_spec session host request given
  generalize session.prepare host request given = prepared at *
  obtain ⟨webview, settings, page, ready⟩ := prepared
  dsimp only at *
  refine ⟨?_, ready.host, ?_⟩
  · rw [renderOptions_append hcalls, List.filterMap_append, options_launchCalls,
      List.filterMap_cons_none rfl, List.filterMap_cons_none hprovides.options?_eq_none]
    exact List.append_nil _
  · unfold optionsFor
    rw [hsettings, happ]
    dsimp only
    split <;> rfl

/-- A registration that puts a page back has nothing rendered, and neither has one that opens a
native page. Any other one has its page rendered, with the options for the settings of its route and
with the tab bar as it was before. -/
theorem register_renderOptions (session : Session σ) (host : Host σ) (request : Request) :
    let registered := session.register host request
    ∃ device, registered.2.renderOptions = session.renderOptions ++
      if session.putsBack request.url || (registered.2.webview registered.1).isNative then []
      else [.create (session.routeOf host request).settings (host.system device)
        (host.statusbarHeight device) session.app.tabBar session.app.config] := by
  obtain ⟨happ, -, -, hcalls⟩ := entered_spec session host request
  have hentered : (session.entered host request).renderOptions = session.renderOptions := by
    rw [renderOptions_append hcalls, entryCalls]
    split <;> simp [Call.options?]
  rcases register_cases session host request with ⟨webview, page, hreuses, heq⟩ | ⟨hopens, heq⟩
  · have hback : session.putsBack request.url = true :=
      (putsBack_iff session request.url).mpr ⟨webview, page, hreuses⟩
    rw [heq, hback]
    exact ⟨session.host, hentered.trans (List.append_nil _).symm⟩
  · have hback : session.putsBack request.url = false := by
      rw [← Bool.not_eq_true, putsBack_iff]
      exact hopens
    obtain ⟨hready, device, hoptions⟩ := prepare_renderOptions (session.entered host request) host
      request (session.offered request)
    rw [openPage_eq] at heq
    intro registered
    have hregistered : registered = _ := heq
    rw [hregistered, hback]
    simp only [Bool.false_or]
    generalize (session.entered host request).prepare host request (session.offered request) =
      prepared at *
    obtain ⟨webview, settings, page, ready⟩ := prepared
    dsimp only at *
    -- showing the page leaves its webview as native as it was, so the answer tells which way it was
    obtain ⟨hnative, hshown⟩ := showPage_renderOptions ready host request settings webview page
    rw [hready, hentered, hoptions, happ, ← hnative] at hshown
    exact ⟨device, hshown⟩

/-- What a step has rendered gets its options from the tab bar and the configuration of the app as
it was before. Only a registration has anything rendered. -/
theorem renderOptions_take (session : Session σ) (host : Host σ) (step : Step σ) :
    ∃ added, (session.take host step).renderOptions = session.renderOptions ++ added ∧
      ∀ options ∈ added, ∃ settings device, options = .create settings (host.system device)
        (host.statusbarHeight device) session.app.tabBar session.app.config := by
  cases hasks : step.asksForPage with
  | false =>
      obtain ⟨made, hmade, hother⟩ := calls_take_of_asksForPage session host hasks
      -- Options are given only where a page is created.
      have hnone : made.filterMap Call.options? = [] := by
        rw [List.filterMap_eq_nil_iff]
        intro call hmem
        have hcall := hother call hmem
        cases call with
        | createPage => exact nomatch hcall
        | _ => rfl
      refine ⟨_, renderOptions_append hmade, ?_⟩
      rw [hnone]
      exact List.forall_mem_nil _
  | true =>
  match step, hasks with
  | .event (.register request), _ =>
      obtain ⟨device, hrendered⟩ := register_renderOptions session host request
      refine ⟨_, hrendered, ?_⟩
      split
      · exact List.forall_mem_nil _
      · intro options hmem
        exact ⟨_, device, List.mem_singleton.mp hmem⟩

/-! ### Every session of an app -/

/-- An app that a teardown takes back to its beginning has the tab bar of the configuration,
webviews apart. -/
theorem tabBar_of_tearDown {app : State} {config : Config} (h : app.tearDown = .initial config) :
    app.config = config ∧ app.tabBar.clear = .ofConfig config.tabBar :=
  ⟨congrArg State.config h, congrArg State.tabBar h⟩

/-- Every page of an app is rendered with what the configuration says of its route. -/
theorem windowBottom_after (host : Host σ) (config : Config) (state : σ) (steps : List (Step σ)) :
    ∀ options ∈ ((started config state).after host steps).renderOptions,
      options.windowBottom = config.tabBar.bottomFor options.route := by
  -- the tab bar stays that of the configuration, so a step adds such options to such options
  have hkept : ∀ (reached : Session σ) (step : Step σ),
      (reached.app.tearDown = .initial config ∧ ∀ options ∈ reached.renderOptions,
        options.windowBottom = config.tabBar.bottomFor options.route) →
      (reached.take host step).app.tearDown = .initial config ∧
        ∀ options ∈ (reached.take host step).renderOptions,
          options.windowBottom = config.tabBar.bottomFor options.route := by
    rintro reached step ⟨htorn, hbottoms⟩
    refine ⟨(tearDown_take reached host step).trans htorn, ?_⟩
    obtain ⟨added, hadded, hcreated⟩ := renderOptions_take reached host step
    rw [hadded]
    intro options hmem
    rcases List.mem_append.mp hmem with hmem | hmem
    · exact hbottoms options hmem
    · obtain ⟨settings, device, rfl⟩ := hcreated options hmem
      exact coveredBottom_of_clear (tabBar_of_tearDown htorn).2 settings
  exact (after_keeps hkept steps ⟨rfl, List.forall_mem_nil _⟩).2

/-- What the tab bar covers of a page is decided by the configuration, whatever has been registered,
put in place of its placeholder and torn down before. This is so for all pages that have been
rendered. A page that is opened next and not native is rendered once, for its route, and the bottom
of the window is what the configuration says of that route. The tab bar finds a route at the first
entry whose path leads to it. -/
theorem windowBottom_byConfig (host : Host σ) (config : Config) (state : σ)
    (steps : List (Step σ)) :
    let session := (started config state).after host steps
    (∀ options ∈ session.renderOptions,
      options.windowBottom = config.tabBar.bottomFor options.route) ∧
    (∀ request,
      let registered := session.register host request
      ∃ options, options.route = (session.routeOf host request).settings.route ∧
        options.windowBottom = config.tabBar.bottomFor options.route ∧
        registered.2.renderOptions = session.renderOptions ++
          if session.putsBack request.url || (registered.2.webview registered.1).isNative then []
          else [options]) ∧
    ∀ route,
      (session.app.tabBar.indexOf? route = none ↔ ¬ config.tabBar.HasRoute route) ∧
      ∀ place, session.app.tabBar.indexOf? route = some place ↔
        (∃ item, config.tabBar.list[place]? = some item ∧ SameRoute item.pagePath route) ∧
          ∀ before < place, ∀ item ∈ config.tabBar.list[before]?,
            ¬ SameRoute item.pagePath route := by
  intro session
  obtain ⟨-, hbar⟩ := tabBar_of_tearDown (tearDown_after host config state steps)
  refine ⟨windowBottom_after host config state steps, ?_, ?_⟩
  · intro request registered
    obtain ⟨device, hrendered⟩ := register_renderOptions session host request
    exact ⟨_, rfl, coveredBottom_of_clear hbar (session.routeOf host request).settings, hrendered⟩
  · intro route
    rw [indexOf?_of_clear hbar]
    exact ⟨TabBar.indexOf?_ofConfig_eq_none_iff config.tabBar route,
      TabBar.indexOf?_ofConfig_eq_some_iff config.tabBar route⟩

/-! ### A tab bar with two entries -/

open Simulation (Platform)

/-- A tab bar that covers the pages of its two entries. -/
def twoTabs : Config where
  tabBar.list := [⟨"pages/home"⟩, ⟨"/pages/me"⟩]
  tabBar.cover := true
  tabBar.height := ⟨0x4049000000000000⟩

/-- A platform on which the webview of the first entry goes into the tab bar, and that of the second
one does not. -/
def oneTabWebview : Platform :=
  { Tracked.nativePlatform with
    routes := [("/pages/home", { route := "pages/home", isTabBar := true, isNative := true })] }

/-- Asks for the page under a path. -/
def requestFor (path : String) : Request :=
  { Tracked.nativeRequest with url := path, path }

/-- The page of the first entry is opened, is there, and is opened again behind a teardown. -/
def homeTwice : List (Step Platform) :=
  [.event (.register (requestFor "/pages/home")), .event (.nativePage 0 5),
    .event (.perform [.tearDown]), .event (.register (requestFor "/pages/home"))]

/-- The tab bar covers the page of its second entry although it has got a webview for the first one
only, and nothing of a page that is no entry. -/
theorem windowBottom_twoTabs :
    let session := (started twoTabs oneTabWebview).after Platform.host homeTwice
    session.app.tabBar.webviews = [1] ∧
      (∃ options, (session.register Platform.host (requestFor "/pages/me")).2.renderOptions =
          session.renderOptions ++ [options] ∧
        options.windowBottom = twoTabs.tabBar.height) ∧
      (∃ options, (session.register Platform.host (requestFor "/pages/all")).2.renderOptions =
          session.renderOptions ++ [options] ∧
        options.windowBottom = .zero) ∧
      session.app.tabBar.indexOf? "/pages/me" = some 1 := by
  intro session
  obtain ⟨-, hrequests, hroutes⟩ :=
    windowBottom_byConfig Platform.host twoTabs oneTabWebview homeTwice
  refine ⟨by decide, ?_, ?_, ?_⟩
  · obtain ⟨options, hroute, hbottom, hrendered⟩ := hrequests (requestFor "/pages/me")
    refine ⟨options, hrendered, hbottom.trans ?_⟩
    rw [hroute]
    decide
  · obtain ⟨options, hroute, hbottom, hrendered⟩ := hrequests (requestFor "/pages/all")
    refine ⟨options, hrendered, hbottom.trans ?_⟩
    rw [hroute]
    decide
  · exact ((hroutes "/pages/me").2 1).mpr (by decide)

end MiniApp.Session
