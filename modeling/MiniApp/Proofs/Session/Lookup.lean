import MiniApp.Proofs.Session.Teardown

/-!
# A missed lookup is harmless

A webview that a page is to be opened in is looked up again under its id, and it is used as it was
given if the host does not find it. So it makes no difference which of these lookups find their
webview: two histories on one host, of the same events, are seen alike but for what the lookups
themselves are answered with.

The two histories are followed side by side. The states of the host need not be equal, since a host
may well know whether it will find a webview; a relation says which states differ in nothing else.

* `SameHost`: that the services of a host do not tell related states apart, lookups excepted.
* `Alike`: that two sessions differ in the answers of lookups and in related states of the host
  only. Every step of a registration keeps this, and so does every event.
* `FindsOffered`: that the lookups of a step find the webview that was offered, or none.
* `watch_missedLookups`: all of this over a history.
-/

set_option autoImplicit false

namespace MiniApp.Session

open MiniApp.App MiniApp.Page

variable {σ τ α : Type}

/-! ### Hosts that differ in their lookups -/

/-- Two services answer alike in related states, and leave related states behind. -/
def SameService (R : σ → τ → Prop) (service : StateM σ α) (service' : StateM τ α) : Prop :=
  ∀ state state', R state state' →
    (service.run state).1 = (service'.run state').1 ∧
      R (service.run state).2 (service'.run state').2

/-- Two hosts serve alike in related states. Of a lookup nothing is asked but that it leaves related
states behind. -/
structure SameHost (R : σ → τ → Prop) (host : Host σ) (host' : Host τ) : Prop where
  initEntry : SameService R host.initEntry host'.initEntry
  resolveRoute : ∀ path openType,
    SameService R (host.resolveRoute path openType) (host'.resolveRoute path openType)
  createWebview : ∀ webview path route query, SameService R
    (host.createWebview webview path route query) (host'.createWebview webview path route query)
  findWebview : ∀ id state state', R state state' →
    R ((host.findWebview id).run state).2 ((host'.findWebview id).run state').2
  initWebview : ∀ webview path query settings, SameService R
    (host.initWebview webview path query settings) (host'.initWebview webview path query settings)
  createInstance : ∀ openType url query settings, SameService R
    (host.createInstance openType url query settings)
    (host'.createInstance openType url query settings)
  closeSplash : SameService R host.closeSplash host'.closeSplash
  finishNavigation : SameService R host.finishNavigation host'.finishNavigation
  createPage : ∀ id route query page options, SameService R
    (host.createPage id route query page options) (host'.createPage id route query page options)
  system : ∀ state state', R state state' → host.system state = host'.system state'
  statusbarHeight : ∀ state state', R state state' →
    host.statusbarHeight state = host'.statusbarHeight state'
  holds : ∀ state state', R state state' → host.holds state = host'.holds state'

/-- The call without what a lookup has found. -/
def Call.blind : Call → Call
  | .findWebview id _ => .findWebview id none
  | call => call

/-- What does not depend on lookups is found among the calls without them. -/
theorem findSome?_blind {pick : Call → Option α} (calls : List Call)
    (hpick : ∀ call, pick call.blind = pick call) :
    (calls.map Call.blind).reverse.findSome? pick = calls.reverse.findSome? pick := by
  rw [← List.map_reverse, List.findSome?_map]
  exact congrArg (calls.reverse.findSome? ·) (funext hpick)

/-- What is seen of a step but for what lookups have found. -/
def Sight.blind (sight : Sight) : Sight :=
  { sight with calls := sight.calls.map Call.blind }

/-! ### Sessions that differ in their lookups -/

/-- Two sessions are the same but for what lookups have found, in related states of their hosts. -/
structure Alike (R : σ → τ → Prop) (session : Session σ) (session' : Session τ) : Prop where
  app : session.app = session'.app
  isEntered : session.isEntered = session'.isEntered
  webviews : session.webviews = session'.webviews
  placeholders : session.placeholders = session'.placeholders
  host : R session.host session'.host
  calls : session.calls.map Call.blind = session'.calls.map Call.blind

/-- Whether a lookup that the call may be has found this webview or none. -/
def Call.FindsAtMost (given : Nat) : Call → Prop
  | .findWebview _ found => found = none ∨ found = some given
  | _ => True

/-- The lookups of a step find the webview that is adopted or handed over, or none. -/
def FindsOffered (host : Host σ) (session : Session σ) : Step σ → Prop
  | .event (.register request) =>
    ∀ given ∈ session.offered request,
      ∀ call ∈ (session.register host request).2.calls.drop session.calls.length,
        call.FindsAtMost given
  | _ => True

/-- So do the lookups of every step in a history. -/
def FindsOfferedThrough (host : Host σ) : List (Step σ) → Session σ → Prop
  | [], _ => True
  | step :: rest, session =>
    session.FindsOffered host step ∧ FindsOfferedThrough host rest (session.take host step)

/-- Two steps are the same event, or changes of two hosts to related states. -/
inductive SameStep (R : σ → τ → Prop) : Step σ → Step τ → Prop
  | event (event : Event) : SameStep R (.event event) (.event event)
  | hostMoves {state : σ} {state' : τ} (related : R state state') :
    SameStep R (.hostMoves state) (.hostMoves state')

instance (given : Nat) (call : Call) : Decidable (call.FindsAtMost given) :=
  match call with
  | .findWebview _ found => inferInstanceAs (Decidable (found = none ∨ found = some given))
  | .initEntry | .resolveRoute .. | .createWebview .. | .initWebview .. | .createInstance ..
  | .closeSplash | .finishNavigation | .createPage .. | .attach .. | .report _ =>
    inferInstanceAs (Decidable True)

instance (host : Host σ) (session : Session σ) (step : Step σ) :
    Decidable (session.FindsOffered host step) :=
  match step with
  | .event (.register request) => inferInstanceAs (Decidable (∀ given ∈ session.offered request,
      ∀ call ∈ (session.register host request).2.calls.drop session.calls.length,
        call.FindsAtMost given))
  | .event (.nativePage ..) | .event (.leave _) | .event (.addWebview _) | .event (.preload ..)
  | .event (.takePreload _) | .event (.perform _) | .hostMoves _ =>
    inferInstanceAs (Decidable True)

instance decidableFindsOfferedThrough (host : Host σ) :
    (steps : List (Step σ)) → (session : Session σ) →
      Decidable (FindsOfferedThrough host steps session)
  | [], _ => inferInstanceAs (Decidable True)
  | step :: rest, session =>
    have := decidableFindsOfferedThrough host rest (session.take host step)
    inferInstanceAs (Decidable (session.FindsOffered host step ∧
      FindsOfferedThrough host rest (session.take host step)))

/-- Where no webview but the offered one is found, the page is opened in that one. -/
theorem FindsOffered.openPage {session : Session σ} {host : Host σ} {request : Request}
    (h : session.FindsOffered host (.event (.register request)))
    (hanswer : session.register host request =
      (session.entered host request).openPage host request (session.offered request)) :
    ∀ given ∈ session.offered request,
      ((session.entered host request).openPage host request (some given)).1 = given := by
  intro given hgiven
  have hfinds := h given hgiven
  rw [Option.mem_def.mp hgiven] at hanswer
  obtain ⟨-, -, -, hentry⟩ := entered_spec session host request
  obtain ⟨found, hnumber, hcalls⟩ :=
    openPage_given (session.entered host request) host request given
  rw [hentry, List.append_assoc] at hcalls
  -- The lookup is one of the calls that the registration has made.
  have hlooked : .findWebview ((session.entered host request).webview given).id found ∈
      (session.register host request).2.calls.drop session.calls.length := by
    rw [hanswer]
    exact mem_addedCalls hcalls (by simp)
  rw [hnumber]
  rcases hfinds _ hlooked with rfl | rfl <;> rfl

/-! ### The small steps -/

namespace Alike

variable {R : σ → τ → Prop} {host : Host σ} {host' : Host τ} {session : Session σ}
  {session' : Session τ}

/-- Sessions that are alike have the same webviews. -/
theorem webview (h : Alike R session session') (number : Nat) :
    session.webview number = session'.webview number := by
  unfold Session.webview
  rw [h.webviews]

/-- Services that answer alike are asked for. -/
theorem ask (h : Alike R session session') {service : StateM σ α} {service' : StateM τ α}
    (hservice : SameService R service service') (call : α → Call) :
    (session.ask service call).1 = (session'.ask service' call).1 ∧
      Alike R (session.ask service call).2 (session'.ask service' call).2 := by
  obtain ⟨hanswer, hstate⟩ := hservice session.host session'.host h.host
  have hcalls : (session.calls ++ [call (service.run session.host).1]).map Call.blind =
      (session'.calls ++ [call (service'.run session'.host).1]).map Call.blind := by
    rw [List.map_append, List.map_append, h.calls, hanswer]
  exact ⟨hanswer, { h with host := hstate, calls := hcalls }⟩

/-- They are alike after telling hosts that answer alike the same. -/
theorem notify (h : Alike R session session') {service : StateM σ Unit} {service' : StateM τ Unit}
    (hservice : SameService R service service') (call : Call) :
    Alike R (session.notify service call) (session'.notify service' call) :=
  (h.ask hservice fun _ => call).2

/-- A webview is looked up, whatever is found on either side. -/
theorem askLookup (h : Alike R session session') (hhost : SameHost R host host') (id : Nat) :
    Alike R (session.ask (host.findWebview id) (.findWebview id)).2
      (session'.ask (host'.findWebview id) (.findWebview id)).2 := by
  have hcalls : ∀ found found' : Option Nat,
      (session.calls ++ [Call.findWebview id found]).map Call.blind =
        (session'.calls ++ [Call.findWebview id found']).map Call.blind := by
    intro found found'
    rw [List.map_append, List.map_append, h.calls]
    rfl
  exact { h with host := hhost.findWebview id _ _ h.host, calls := hcalls _ _ }

/-- They are alike after the same change of their apps. -/
theorem modifyApp (h : Alike R session session') (change : State → State) :
    Alike R (session.modifyApp change) (session'.modifyApp change) :=
  { h with app := congrArg change h.app }

/-- So they are after the same change of a webview. -/
theorem modifyWebview (h : Alike R session session') (number : Nat) (change : Webview → Webview) :
    Alike R (session.modifyWebview number change) (session'.modifyWebview number change) :=
  { h with webviews := congrArg (fun webviews => webviews.modify number change) h.webviews }

/-- So they are with the same webview added. -/
theorem addWebview (h : Alike R session session') (webview : Webview) :
    Alike R (session.addWebview webview) (session'.addWebview webview) :=
  { h with webviews := congrArg (fun webviews => webviews ++ [webview]) h.webviews }

/-! ### The steps of a registration -/

/-- So they are when the same request is served. -/
theorem entered (h : Alike R session session') (hhost : SameHost R host host')
    (request : Request) :
    Alike R (session.entered host request) (session'.entered host' request) := by
  unfold Session.entered enter
  rw [h.isEntered]
  split
  · split
    · exact h
    · exact { h.notify hhost.initEntry .initEntry with isEntered := rfl }
  · exact h

/-- They have the same preloads. -/
theorem preloadFor (h : Alike R session session') (url : String) :
    session.preloadFor url = session'.preloadFor url := by
  unfold Session.preloadFor Session.webview
  rw [h.app, h.webviews]

/-- They offer the same webview for a request. -/
theorem offered (h : Alike R session session') (request : Request) :
    session.offered request = session'.offered request := by
  unfold Session.offered
  rw [h.preloadFor]

/-- They use the same page again. -/
theorem reuses (h : Alike R session session') {url : String} {webview : Nat} {page : Entry} :
    session.Reuses url webview page ↔ session'.Reuses url webview page := by
  constructor
  · intro hreuse
    exact ⟨h.app ▸ hreuse.pooled, h.webview webview ▸ hreuse.kept, h.app ▸ hreuse.hidden⟩
  · intro hreuse
    exact ⟨h.app ▸ hreuse.pooled, h.webview webview ▸ hreuse.kept, h.app ▸ hreuse.hidden⟩

/-- A page comes by the same webview, unless a lookup finds another one than the one that is
given. -/
theorem provideWebview (h : Alike R session session') (hhost : SameHost R host host')
    (request : Request) (route : RouteOptions) (given : Option Nat)
    (hfound : ∀ number ∈ given,
      (session.provideWebview host request route (some number)).1 = number)
    (hfound' : ∀ number ∈ given,
      (session'.provideWebview host' request route (some number)).1 = number) :
    (session.provideWebview host request route given).1 =
        (session'.provideWebview host' request route given).1 ∧
      Alike R (session.provideWebview host request route given).2
        (session'.provideWebview host' request route given).2 := by
  cases given with
  | none =>
      -- The host is told the number of the new webview, which is that of the webviews so far.
      have hlength : session.webviews.length = session'.webviews.length :=
        congrArg List.length h.webviews
      obtain ⟨hcreated, hasked⟩ := h.ask
        (hhost.createWebview session.webviews.length request.path route request.query)
        fun _ => .createWebview session.webviews.length request.path route request.query
      rw [hlength] at hcreated hasked
      refine ⟨hlength, ?_⟩
      unfold Session.provideWebview
      dsimp only
      rw [hlength, hcreated]
      exact hasked.addWebview _
  | some number =>
      -- Whatever the two lookups have found, both sides go on with the webview that was given.
      have hsame := hfound number rfl
      have hsame' := hfound' number rfl
      refine ⟨hsame.trans hsame'.symm, ?_⟩
      unfold Session.provideWebview at hsame hsame' ⊢
      dsimp only at hsame hsame' ⊢
      rw [hsame, hsame', h.webview]
      exact (h.askLookup hhost _).modifyWebview number _

/-- They are alike when the same webview joins the tab bar. -/
theorem joinTabBar (h : Alike R session session') (settings : RouteSettings) (webview : Nat) :
    Alike R (session.joinTabBar settings webview) (session'.joinTabBar settings webview) := by
  unfold Session.joinTabBar
  split
  · exact h.modifyApp _
  · exact h

/-- So they are when the same webview is initialised. -/
theorem initWebview (h : Alike R session session') (hhost : SameHost R host host')
    (request : Request) (settings : RouteSettings) (webview : Nat) :
    Alike R (session.initWebview host request settings webview)
      (session'.initWebview host' request settings webview) := by
  unfold Session.initWebview
  rw [h.webview]
  exact (h.notify (hhost.initWebview _ _ _ _) _).modifyWebview webview _

/-- So they are when the splash screen is closed. -/
theorem closeSplash (h : Alike R session session') (hhost : SameHost R host host') :
    Alike R (session.closeSplash host) (session'.closeSplash host') := by
  unfold Session.closeSplash
  rw [h.app]
  dsimp only
  split
  · exact h.notify hhost.closeSplash _
  · exact h

/-- Actions are done one at a time. Whether the app is ready is the same on both sides, so the same
actions are left to do. -/
theorem performFor (h : Alike R session session') (hhost : SameHost R host host') (steps : Nat)
    (actions : List Action) :
    Alike R (Session.performFor host steps actions session)
      (Session.performFor host' steps actions session') := by
  -- What is left to do changes with every step, and so do both sessions.
  induction steps generalizing actions session session' with
  | zero => exact h
  | succ steps ih =>
  cases actions with
  | nil => exact h
  | cons action rest =>
  cases action with
  | report label =>
      have hcalls : (session.calls ++ [Call.report label]).map Call.blind =
          (session'.calls ++ [Call.report label]).map Call.blind := by
        rw [List.map_append, List.map_append, h.calls]
      have hnoted : Alike R (session.note (.report label)) (session'.note (.report label)) :=
        { h with calls := hcalls }
      exact ih hnoted rest
  | finishNavigation => exact ih (h.notify hhost.finishNavigation _) rest
  | becomeReady =>
      simp only [Session.performFor]
      rw [h.app]
      exact ih (h.modifyApp _) _
  | tearDown => exact ih (h.modifyApp _) rest
  | whenReady callback =>
      simp only [Session.performFor]
      rw [h.app]
      split
      · exact ih h _
      · exact ih (h.modifyApp _) rest

/-- So they are after the same actions. -/
theorem perform (h : Alike R session session') (hhost : SameHost R host host')
    (actions : List Action) :
    Alike R (session.perform host actions) (session'.perform host' actions) := by
  unfold Session.perform
  rw [h.app]
  exact h.performFor hhost _ actions

/-- So they are when the launch goes on in the same webview. -/
theorem resumeLaunch (h : Alike R session session') (hhost : SameHost R host host')
    (webview : Nat) :
    Alike R (session.resumeLaunch host webview) (session'.resumeLaunch host' webview) := by
  unfold Session.resumeLaunch whenReady
  rw [h.webview]
  split
  · exact (h.closeSplash hhost).perform hhost _
  · exact h

/-- So they are when the same page is rendered and gets on the page stack. -/
theorem pushPage (h : Alike R session session') (hhost : SameHost R host host')
    (request : Request) (settings : RouteSettings) (webview : Nat) (page : Instance) :
    Alike R (session.pushPage host request settings webview page)
      (session'.pushPage host' request settings webview page) := by
  unfold Session.pushPage
  rw [h.webview, h.app, hhost.system _ _ h.host, hhost.statusbarHeight _ _ h.host]
  dsimp only
  generalize Options.create _ _ _ _ _ = options
  obtain ⟨hcreated, hrendered⟩ := h.ask
    (hhost.createPage (session'.webview webview).id (routeOfPath request.path) request.query page
      options)
    fun created => .createPage created (session'.webview webview).id (routeOfPath request.path)
      request.query page options
  rw [hcreated]
  generalize Session.ask session _ _ = rendered, Session.ask session' _ _ = rendered' at *
  have hpushed := hrendered.modifyApp fun app => app.push (.page rendered'.1)
  rw [hpushed.webview]
  split
  · exact hpushed.modifyWebview webview _
  · exact hpushed

/-- So they are when the same page is shown. -/
theorem showPage (h : Alike R session session') (hhost : SameHost R host host')
    (request : Request) (settings : RouteSettings) (webview : Nat) (page : Instance) :
    Alike R (session.showPage host request settings webview page)
      (session'.showPage host' request settings webview page) := by
  unfold Session.showPage
  rw [h.webview]
  split
  · exact {
      app := by simp [pushPlaceholder, h.app, h.placeholders]
      isEntered := h.isEntered
      webviews := h.webviews
      placeholders := by simp [pushPlaceholder, h.placeholders]
      host := h.host
      calls := h.calls }
  · exact h.pushPage hhost request settings webview page

/-- A page is opened in the same webview, and shown in the same way. -/
theorem openPage (h : Alike R session session') (hhost : SameHost R host host')
    (request : Request) (given : Option Nat)
    (hfound : ∀ number ∈ given, (session.openPage host request (some number)).1 = number)
    (hfound' : ∀ number ∈ given, (session'.openPage host' request (some number)).1 = number) :
    (session.openPage host request given).1 = (session'.openPage host' request given).1 ∧
      Alike R (session.openPage host request given).2
        (session'.openPage host' request given).2 := by
  -- Each step is followed by what it answers with, and the two answers are made one.
  obtain ⟨hroute, hresolved⟩ := h.ask (hhost.resolveRoute request.path request.openType)
    fun _ => .resolveRoute request.path request.openType
  change (session.resolveRoute host request).1 = (session'.resolveRoute host' request).1 at hroute
  change Alike R (session.resolveRoute host request).2 (session'.resolveRoute host' request).2
    at hresolved
  unfold Session.openPage at hfound hfound' ⊢
  dsimp only at hfound hfound' ⊢
  generalize session.resolveRoute host request = resolved,
    session'.resolveRoute host' request = resolved' at *
  obtain ⟨route, resolved⟩ := resolved
  obtain ⟨route', resolved'⟩ := resolved'
  dsimp only at *
  subst hroute
  obtain ⟨hnumber, hprovided⟩ := hresolved.provideWebview hhost request route given hfound hfound'
  clear hfound hfound'
  generalize resolved.provideWebview host request route given = provided,
    resolved'.provideWebview host' request route given = provided' at *
  obtain ⟨webview, provided⟩ := provided
  obtain ⟨webview', provided'⟩ := provided'
  dsimp only at *
  subst hnumber
  rw [hprovided.webview]
  generalize ({ route.settings with id := some (provided'.webview webview).id } :
    RouteSettings) = settings
  have hinitialised := (hprovided.joinTabBar settings webview).initWebview hhost request settings
    webview
  obtain ⟨hpage, hcreated⟩ := hinitialised.ask
    (hhost.createInstance request.openType request.url request.query settings)
    fun _ => .createInstance request.openType request.url request.query settings
  refine ⟨rfl, ?_⟩
  unfold Session.createInstance
  rw [hpage]
  exact (hcreated.resumeLaunch hhost webview).showPage hhost request settings webview _

/-! ### Every event -/

/-- A registration answers with the same webview. Either the pool has a page to be put back, or the
page is opened in the webview that is offered. -/
theorem register (h : Alike R session session') (hhost : SameHost R host host')
    (request : Request) (hfinds : session.FindsOffered host (.event (.register request)))
    (hfinds' : session'.FindsOffered host' (.event (.register request))) :
    (session.register host request).1 = (session'.register host' request).1 ∧
      Alike R (session.register host request).2 (session'.register host' request).2 := by
  have hentered := h.entered hhost request
  -- The pool holds the same on both sides, so that a page is put back on both or on neither.
  rcases register_cases session host request with
    ⟨webview, page, hreuse, hanswer⟩ | ⟨hopens, hanswer⟩
  · rcases register_cases session' host' request with
      ⟨webview', page', hreuse', hanswer'⟩ | ⟨hopens', -⟩
    · have hsame := h.reuses.mp hreuse
      obtain rfl : webview' = webview :=
        Option.some.inj (hreuse'.pooled.symm.trans hsame.pooled)
      obtain rfl : page' = page := Option.some.inj (hreuse'.kept.symm.trans hsame.kept)
      rw [hanswer, hanswer']
      exact ⟨rfl, hentered.modifyApp fun app => app.push page'⟩
    · exact absurd ⟨webview, page, h.reuses.mp hreuse⟩ hopens'
  · rcases register_cases session' host' request with
      ⟨webview', page', hreuse', -⟩ | ⟨-, hanswer'⟩
    · exact absurd ⟨webview', page', h.reuses.mpr hreuse'⟩ hopens
    · have hfound := hfinds.openPage hanswer
      have hfound' := hfinds'.openPage hanswer'
      rw [← h.offered] at hfound' hanswer'
      rw [hanswer, hanswer']
      exact hentered.openPage hhost request _ hfound hfound'

/-- The same webviews are alive, since a lookup does not decide about that. -/
theorem isAlive (h : Alike R session session') (hhost : SameHost R host host') (webview : Nat) :
    session.isAlive host webview = session'.isAlive host' webview := by
  unfold Session.isAlive
  rw [h.app, hhost.holds _ _ h.host]

/-- A native page gets the same place, and the webview that it comes for keeps it or not. -/
theorem nativePageCreated (h : Alike R session session') (hhost : SameHost R host host')
    (placeholder number : Nat) :
    (session.nativePageCreated host placeholder number).1 =
        (session'.nativePageCreated host' placeholder number).1 ∧
      Alike R (session.nativePageCreated host placeholder number).2
        (session'.nativePageCreated host' placeholder number).2 := by
  unfold Session.nativePageCreated
  rw [h.placeholders, h.app]
  split
  · rename_i webview page hheld
    refine ⟨rfl, ?_⟩
    have htaken : Alike R (session.takeOver placeholder number webview page)
        (session'.takeOver placeholder number webview page) := {
      h with
      app := by simp [takeOver, h.app]
      placeholders := by simp [takeOver, h.placeholders]
      calls := by simp [takeOver, h.calls] }
    dsimp only
    unfold keepPage
    rw [htaken.isAlive hhost, htaken.webview]
    split
    · exact htaken.modifyWebview webview _
    · exact htaken
  · exact ⟨rfl, h⟩

/-- What an event is answered with is the same, and so is what it leaves. -/
theorem handle (h : Alike R session session') (hhost : SameHost R host host') (event : Event)
    (hfinds : session.FindsOffered host (.event event))
    (hfinds' : session'.FindsOffered host' (.event event)) :
    session.answer host event = session'.answer host' event ∧
      Alike R (session.handle host event) (session'.handle host' event) := by
  cases event with
  | register request =>
      obtain ⟨hnumber, hregistered⟩ := h.register hhost request hfinds hfinds'
      exact ⟨congrArg Answer.webview hnumber, hregistered⟩
  | nativePage placeholder number =>
      obtain ⟨hswapped, hcreated⟩ := h.nativePageCreated hhost placeholder number
      exact ⟨congrArg Answer.swapped hswapped, hcreated⟩
  | leave entry =>
      -- Each of these answers is read off a part of the session that the two have in common.
      refine ⟨?_, h.modifyApp fun app => app.remove entry⟩
      unfold Session.answer
      rw [h.app]
  | addWebview webview =>
      refine ⟨?_, h.addWebview webview⟩
      unfold Session.answer
      rw [h.webviews]
  | preload url webview =>
      refine ⟨?_, (h.modifyWebview webview fun known => { known with isPreload := true }).modifyApp
        fun app => { app with preloads := app.preloads.insert url webview }⟩
      unfold Session.answer
      rw [h.app]
  | takePreload url =>
      refine ⟨?_, h.modifyApp fun app => { app with preloads := app.preloads.erase url }⟩
      unfold Session.answer
      rw [h.app]
  | perform actions => exact ⟨rfl, h.perform hhost actions⟩

/-- What is seen of a step is the same but for what lookups have found. -/
theorem take (h : Alike R session session') (hhost : SameHost R host host') {step : Step σ}
    {step' : Step τ} (hstep : SameStep R step step') (hfinds : session.FindsOffered host step)
    (hfinds' : session'.FindsOffered host' step') :
    (session.sight host step).blind = (session'.sight host' step').blind ∧
      Alike R (session.take host step) (session'.take host' step') := by
  have hnext : Alike R (session.take host step) (session'.take host' step') := by
    cases hstep with
    | event event => exact (h.handle hhost event hfinds hfinds').2
    | hostMoves related => exact { h with host := related }
  refine ⟨?_, hnext⟩
  -- The calls of the step begin behind those so far, of which there are as many on both sides.
  have hlength : session.calls.length = session'.calls.length := by
    simpa using congrArg List.length h.calls
  have hcalls : ((session.take host step).calls.drop session.calls.length).map Call.blind =
      ((session'.take host' step').calls.drop session'.calls.length).map Call.blind := by
    rw [List.map_drop, List.map_drop, hnext.calls, hlength]
  unfold Sight.blind sight
  dsimp only
  rw [hcalls, hnext.app, hnext.isEntered, hnext.webviews, hnext.placeholders]
  cases hstep with
  | event event =>
      dsimp only
      rw [(h.handle hhost event hfinds hfinds').1]
  | hostMoves related => rfl

/-- The webview that an entry belongs to is the same. -/
theorem webviewOf? (h : Alike R session session') (hhost : SameHost R host host')
    (entry : Entry) : session.webviewOf? host entry = session'.webviewOf? host' entry := by
  -- An attachment is no lookup, so it is found among the calls that are not.
  have hattached : ∀ page, session.attachedWebview? page = session'.attachedWebview? page := by
    intro page
    unfold attachedWebview?
    rw [← findSome?_blind session.calls, h.calls, findSome?_blind session'.calls]
    all_goals
      intro call
      cases call <;> rfl
  have halive : session.isAlive host = session'.isAlive host' := funext (h.isAlive hhost)
  unfold Session.webviewOf?
  rw [halive]
  cases entry with
  | placeholder number =>
      dsimp only
      rw [h.placeholders]
  | page number =>
      dsimp only
      rw [hattached]

end Alike

/-! ### Histories that differ in their lookups -/

/-- Two histories on one host, of the same events, in which some lookups find the webview that was
adopted or handed over and others find none. Whichever they are, all answers, all states of the app
and of its webviews and all calls are the same but for what the lookups have found, and so is the
webview that an entry of the page stack belongs to in the end. -/
theorem watch_missedLookups {R : σ → τ → Prop} {host : Host σ} {host' : Host τ}
    (hhost : SameHost R host host') {steps : List (Step σ)} {steps' : List (Step τ)}
    (hsteps : List.Forall₂ (SameStep R) steps steps') {session : Session σ} {session' : Session τ}
    (h : Alike R session session') (hfinds : FindsOfferedThrough host steps session)
    (hfinds' : FindsOfferedThrough host' steps' session') :
    (watch host steps session).map Sight.blind = (watch host' steps' session').map Sight.blind ∧
      ∀ entry, (session.after host steps).webviewOf? host entry =
        (session'.after host' steps').webviewOf? host' entry := by
  -- Step by step, from alike sessions to alike sessions; the lookups of a step are assumed of the
  -- session in which it is taken, and so are those of the rest.
  induction hsteps generalizing session session' with
  | nil => exact ⟨rfl, h.webviewOf? hhost⟩
  | cons hstep hrest ih =>
      obtain ⟨hfirst, hfinds⟩ := hfinds
      obtain ⟨hfirst', hfinds'⟩ := hfinds'
      obtain ⟨hsight, hnext⟩ := h.take hhost hstep hfirst hfirst'
      obtain ⟨hwatched, hentries⟩ := ih hnext hfinds hfinds'
      refine ⟨?_, hentries⟩
      show _ :: _ = _ :: _
      rw [hsight, hwatched]

/-! ### A host that forgets its webviews -/

open Simulation (Platform)

/-- Two states of a host in memory that differ at most in whether any webview is found. -/
def UpToForgetting (platform platform' : Platform) : Prop :=
  ∃ isForgetful, platform' = { platform with isForgetful }

/-- A service that neither reads nor changes whether webviews are found. -/
theorem sameService_platform {service : StateM Platform α}
    (h : ∀ (platform : Platform) (isForgetful : Bool),
      service.run { platform with isForgetful } =
        ((service.run platform).1, { (service.run platform).2 with isForgetful })) :
    SameService UpToForgetting service service := by
  rintro platform _ ⟨isForgetful, rfl⟩
  rw [h platform isForgetful]
  exact ⟨rfl, isForgetful, rfl⟩

/-- A host in memory that has forgotten its webviews serves as one that has not. -/
theorem sameHost_platform : SameHost UpToForgetting Platform.host Platform.host where
  initEntry := sameService_platform fun _ _ => rfl
  resolveRoute _ _ := sameService_platform fun _ _ => rfl
  createWebview _ _ _ _ := sameService_platform fun _ _ => rfl
  findWebview _ _ _ h := h
  initWebview _ _ _ _ := sameService_platform fun _ _ => rfl
  createInstance _ _ _ _ := sameService_platform fun _ _ => rfl
  closeSplash := sameService_platform fun _ _ => rfl
  finishNavigation := sameService_platform fun _ _ => rfl
  createPage _ _ _ _ _ := sameService_platform fun _ _ => rfl
  system := by
    rintro platform _ ⟨isForgetful, rfl⟩
    rfl
  statusbarHeight := by
    rintro platform _ ⟨isForgetful, rfl⟩
    rfl
  holds := by
    rintro platform _ ⟨isForgetful, rfl⟩
    rfl

/-- A host that keeps a webview and lists it under the id 7. -/
def listing (isForgetful : Bool) : Platform :=
  { Tracked.nativePlatform with listed := [(0, 7)], held := [0], isForgetful }

/-- The webview is preloaded, a native page is registered in it, and after that it is handed over
for another page, when the host finds it. -/
def adopted (isForgetful : Bool) : List (Step Platform) :=
  [.event (.addWebview { id := 7 }), .event (.preload "/a" 0),
    .event (.register Tracked.nativeRequest), .event (.nativePage 0 5),
    .hostMoves (listing isForgetful),
    .event (.register { Tracked.nativeRequest with url := "/b", webview := some 0 })]

/-- The first lookup finds the webview on one side only, and the second one on the other. -/
theorem watch_missedLookups_adopted :
    ((started {} (listing false)).after Platform.host (adopted true)).calls[1]? =
        some (.findWebview 7 (some 0)) ∧
      ((started {} (listing true)).after Platform.host (adopted false)).calls[1]? =
        some (.findWebview 7 none) ∧
      (watch Platform.host (adopted true) (started {} (listing false))).map Sight.blind =
        (watch Platform.host (adopted false) (started {} (listing true))).map Sight.blind := by
  have hlisting : ∀ before now, UpToForgetting (listing before) (listing now) :=
    fun _ now => ⟨now, rfl⟩
  have hsteps : List.Forall₂ (SameStep UpToForgetting) (adopted true) (adopted false) := by
    refine .cons (.event _) (.cons (.event _) (.cons (.event _) (.cons (.event _) ?_)))
    exact .cons (.hostMoves (hlisting true false)) (.cons (.event _) .nil)
  have hstarted : Alike UpToForgetting (started {} (listing false)) (started {} (listing true)) :=
    ⟨rfl, rfl, rfl, rfl, hlisting false true, rfl⟩
  have hfinds : FindsOfferedThrough Platform.host (adopted true) (started {} (listing false)) := by
    decide
  have hfinds' : FindsOfferedThrough Platform.host (adopted false) (started {} (listing true)) := by
    decide
  obtain ⟨hwatched, -⟩ := watch_missedLookups sameHost_platform hsteps hstarted hfinds hfinds'
  exact ⟨rfl, rfl, hwatched⟩

end MiniApp.Session
