import MiniApp.Proofs.Session.Delivery

/-!
# What an event does to webviews

Of all that may happen to a session only two things concern a single webview: a page is opened in
it, or a native page comes for it. `Outcome` tells these apart from everything else, and says of
each what it adds to the record of calls: whether a webview was initialised, which pages were
rendered under an id, and how a page was opened that was made or handed over.

* `handle_outcome`: every event has one of these outcomes, whatever the session and the host are.
* `Keeps`: what an event leaves of the webviews, composed from the steps of the event.
* `find?_handle`: no event but one puts a webview into the preload pool.
-/

set_option autoImplicit false

namespace MiniApp.Session

open MiniApp.App MiniApp.Page

variable {σ : Type}

/-! ### The record of calls -/

/-- Whether the call has the webview initialised. -/
def Call.initialises (webview : Nat) : Call → Bool
  | .initWebview number .. => number == webview
  | _ => false

/-- The page that the call has rendered under the id. -/
def Call.rendered? (id : Nat) : Call → Option Nat
  | .createPage created other .. => if other = id then some created else none
  | _ => none

/-- The page that a call makes or hands over, with how it was opened. -/
def Call.opened? : Call → Option (Nat × Instance)
  | .createPage created _ _ _ page _ => some (created, page)
  | .attach number _ page => some (number, page)
  | _ => none

/-- Whether the call neither initialises a webview nor makes or hands over a page. -/
def Call.isPlain : Call → Bool
  | .initWebview .. | .createPage .. | .attach .. => false
  | _ => true

/-- How often a webview has been initialised. -/
def timesInitialised (session : Session σ) (webview : Nat) : Nat :=
  session.calls.countP (Call.initialises webview)

/-- The pages that have been rendered under an id, in their order. -/
def renderedPages (session : Session σ) (id : Nat) : List Nat :=
  session.calls.filterMap (Call.rendered? id)

/-- The pages that have been made or handed over, with how they were opened. -/
def openedPages (session : Session σ) : List (Nat × Instance) :=
  session.calls.filterMap Call.opened?

/-- The pages on record are those that have been made or handed over. -/
theorem knownPages_eq (session : Session σ) :
    session.knownPages = session.openedPages.map Prod.fst := by
  unfold knownPages openedPages
  rw [List.map_filterMap]
  congr 1
  funext call
  cases call <;> rfl

/-- The second session comes from the first by plain calls. -/
def AddsPlain (before after : Session σ) : Prop :=
  ∃ made, after.calls = before.calls ++ made ∧ ∀ call ∈ made, call.isPlain

/-- A session with the same calls comes from another by no call at all. -/
theorem AddsPlain.same {before after : Session σ} (h : after.calls = before.calls) :
    AddsPlain before after :=
  ⟨[], by simp [h]⟩

/-- Plain calls behind plain calls are just more of them. -/
theorem AddsPlain.trans {first second third : Session σ} (h : AddsPlain first second)
    (h' : AddsPlain second third) : AddsPlain first third := by
  obtain ⟨made, hmade, hplain⟩ := h
  obtain ⟨more, hmore, hplain'⟩ := h'
  refine ⟨made ++ more, by simp [hmade, hmore], ?_⟩
  intro call hmem
  rcases List.mem_append.mp hmem with hmem | hmem
  · exact hplain call hmem
  · exact hplain' call hmem

/-- A plain call is nothing to the record of webviews and pages. -/
theorem Call.isPlain_record {call : Call} (h : call.isPlain) :
    (∀ webview, call.initialises webview = false) ∧ (∀ id, call.rendered? id = none) ∧
      call.opened? = none := by
  cases call with
  | initWebview | createPage | attach => exact nomatch h
  | _ => exact ⟨fun _ => rfl, fun _ => rfl, rfl⟩

/-- What is on record about webviews and pages is the same. -/
structure SameRecord (before after : Session σ) : Prop where
  initialised : ∀ webview, after.timesInitialised webview = before.timesInitialised webview
  rendered : ∀ id, after.renderedPages id = before.renderedPages id
  opened : after.openedPages = before.openedPages

/-- So are any number of plain calls. -/
theorem plain_record {made : List Call} (h : ∀ call ∈ made, call.isPlain) :
    (∀ webview, made.countP (Call.initialises webview) = 0) ∧
      (∀ id, made.filterMap (Call.rendered? id) = []) ∧ made.filterMap Call.opened? = [] := by
  refine ⟨fun webview => ?_, fun id => ?_, ?_⟩
  · rw [List.countP_eq_zero]
    intro call hmem
    simp [(Call.isPlain_record (h call hmem)).1 webview]
  · rw [List.filterMap_eq_nil_iff]
    exact fun call hmem => (Call.isPlain_record (h call hmem)).2.1 id
  · rw [List.filterMap_eq_nil_iff]
    exact fun call hmem => (Call.isPlain_record (h call hmem)).2.2

/-- Plain calls put nothing about webviews and pages on record. -/
theorem AddsPlain.sameRecord {before after : Session σ} (h : AddsPlain before after) :
    SameRecord before after := by
  obtain ⟨made, hmade, hplain⟩ := h
  obtain ⟨hinitialised, hrendered, hopened⟩ := plain_record hplain
  constructor
  · intro webview
    simp [timesInitialised, hmade, hinitialised]
  · intro id
    simp [renderedPages, hmade, hrendered]
  · simp [openedPages, hmade, hopened]

/-- What is on record is the same if the calls are. -/
theorem SameRecord.of_calls {before after : Session σ} (h : after.calls = before.calls) :
    SameRecord before after :=
  (AddsPlain.same h).sameRecord

/-- However many actions are done, the calls that they make are plain. -/
theorem performFor_addsPlain (host : Host σ) (steps : Nat) (actions : List Action)
    (session : Session σ) : AddsPlain session (performFor host steps actions session) := by
  have hone : ∀ before after : Session σ, ∀ call : Call, call.isPlain →
      after.calls = before.calls ++ [call] → AddsPlain before after := by
    intro before after call hplain hcalls
    exact ⟨[call], hcalls, by simpa using hplain⟩
  fun_induction performFor host steps actions session with
  | case1 => exact AddsPlain.same rfl
  | case2 => exact AddsPlain.same rfl
  | case3 steps label rest session ih => exact (hone _ _ (.report label) rfl rfl).trans ih
  | case4 steps rest session ih => exact (hone _ _ .finishNavigation rfl rfl).trans ih
  | case5 steps rest session ih => exact ih
  | case6 steps rest session ih => exact ih
  | case7 steps callback rest session hready ih => exact ih
  | case8 steps callback rest session hready ih => exact ih

/-! ### What is left of the webviews -/

/-- Webviews are only added, and those that were there keep their ids, stay preloaded and keep their
pages. One of them may be left out of the last. -/
def Keeps (but : Option Nat) (before after : List Webview) : Prop :=
  ∀ (webview : Nat) (known : Webview), before[webview]? = some known →
    ∃ now, after[webview]? = some now ∧ now.id = known.id ∧
      (known.isPreload → now.isPreload) ∧ (webview ∉ but → now.page = known.page)

namespace Keeps

variable {but : Option Nat} {before after later : List Webview}

/-- The same webviews keep what they have. -/
theorem refl (webviews : List Webview) : Keeps but webviews webviews :=
  fun _ known h => ⟨known, h, rfl, id, fun _ => rfl⟩

/-- Webviews that keep what they have over two changes keep it over both. -/
theorem trans (h : Keeps but before after) (h' : Keeps but after later) :
    Keeps but before later := by
  intro webview known hknown
  obtain ⟨now, hnow, hid, hpreload, hpage⟩ := h webview known hknown
  obtain ⟨then', hthen, hid', hpreload', hpage'⟩ := h' webview now hnow
  exact ⟨then', hthen, hid'.trans hid, fun hyes => hpreload' (hpreload hyes),
    fun hne => (hpage' hne).trans (hpage hne)⟩

/-- If all of them keep their pages, so do all but one. -/
theorem mono (h : Keeps none before after) : Keeps but before after := by
  intro webview known hknown
  obtain ⟨now, hnow, hid, hpreload, hpage⟩ := h webview known hknown
  exact ⟨now, hnow, hid, hpreload, fun _ => hpage (by simp)⟩

/-- Webviews keep what they have when more are added. -/
theorem append (webviews more : List Webview) : Keeps but webviews (webviews ++ more) := by
  intro webview known hknown
  obtain ⟨hlt, -⟩ := List.getElem?_eq_some_iff.mp hknown
  refine ⟨known, ?_, rfl, id, fun _ => rfl⟩
  rw [List.getElem?_append_left hlt]
  exact hknown

/-- A webview is changed that keeps its id and stays preloaded. Its page is the same, or it is the
one that is left out. -/
theorem modify {webviews : List Webview} {number : Nat} {change : Webview → Webview}
    (hid : ∀ known, (change known).id = known.id)
    (hpreload : ∀ known, known.isPreload → (change known).isPreload)
    (hpage : number ∉ but → ∀ known, webviews[number]? = some known →
      (change known).page = known.page) :
    Keeps but webviews (webviews.modify number change) := by
  intro webview known hknown
  rw [List.getElem?_modify, hknown]
  by_cases hsame : number = webview
  · subst hsame
    exact ⟨change known, by simp, hid known, hpreload known, fun hne => hpage hne known hknown⟩
  · exact ⟨known, by simp [hsame], rfl, id, fun _ => rfl⟩

/-- Webviews never become fewer. -/
theorem length (h : Keeps but before after) : before.length ≤ after.length := by
  rcases Nat.eq_zero_or_pos before.length with hempty | hpos
  · omega
  · have hlast : before.length - 1 < before.length := by omega
    obtain ⟨now, hnow, -⟩ := h _ _ (List.getElem?_eq_getElem hlast)
    obtain ⟨hlt, -⟩ := List.getElem?_eq_some_iff.mp hnow
    omega

end Keeps

/-- What a session knows about a webview that is kept. -/
theorem keeps_webview {but : Option Nat} {before after : Session σ}
    (h : Keeps but before.webviews after.webviews) {webview : Nat}
    (hlt : webview < before.webviews.length) :
    (after.webview webview).id = (before.webview webview).id ∧
      ((before.webview webview).isPreload → (after.webview webview).isPreload) ∧
      (webview ∉ but → (after.webview webview).page = (before.webview webview).page) := by
  obtain ⟨now, hnow, hkept⟩ := h webview _ (List.getElem?_eq_getElem hlt)
  rw [webview_of_getElem? hnow, webview_of_getElem? (List.getElem?_eq_getElem hlt)]
  exact hkept

/-! ### Outcomes -/

/-- The route behind the path of a request, as the host resolves it. -/
def routeOf (session : Session σ) (host : Host σ) (request : Request) : RouteOptions :=
  ((host.resolveRoute request.path request.openType).run (session.entered host request).host).1

/-- The host says of a page that it was opened like this for the request. -/
def IsInstanceFor (host : Host σ) (request : Request) (page : Instance) : Prop :=
  ∃ settings state, page =
    ((host.createInstance request.openType request.url request.query settings).run state).1

/-- The webview in which a page is opened is a new one, or the one that is offered, or the one that
the host finds in its place. -/
def IsChosen (before after : Session σ) (request : Request) (webview : Nat) : Prop :=
  before.offered request = none ∧ webview = before.webviews.length ∧
      webview < after.webviews.length ∨
    ∃ given found, before.offered request = some given ∧ webview = found.getD given ∧
      .findWebview (before.webview given).id found ∈ after.calls.drop before.calls.length

/-- A page is opened in a webview, and this is its entry on the page stack. A webview that is not a
new one becomes native if the route is. -/
structure Opening (host : Host σ) (before after : Session σ) (request : Request) (webview : Nat)
    (entry : Entry) : Prop where
  answer : before.register host request = (webview, after)
  opens : ¬ ∃ pooled page, before.Reuses request.url pooled page
  chosen : IsChosen before after request webview
  pages : after.app.pages = before.app.pages ++ [entry]
  initialised : ∀ number, after.timesInitialised number =
    before.timesInitialised number + if webview = number then 1 else 0
  native : webview < before.webviews.length → before.offered request ≠ none →
    (after.webview webview).isNative = (before.routeOf host request).settings.isNative

/-- What an event comes to. -/
inductive Outcome (host : Host σ) (before : Session σ) : Event → Session σ → Prop
  /-- Nothing is registered, and no webview is concerned. -/
  | quiet {event : Event} {after : Session σ} (other : ∀ request, event ≠ .register request)
      (kept : Keeps none before.webviews after.webviews)
      (placeholders : after.placeholders = before.placeholders) (record : SameRecord before after) :
      Outcome host before event after
  /-- The page that the pooled webview keeps is put back on the stack. -/
  | putsBack {request : Request} {after : Session σ} (webview : Nat) (page : Entry)
      (reuses : before.Reuses request.url webview page)
      (answer : before.register host request = (webview, after))
      (pages : after.app.pages = before.app.pages ++ [page])
      (webviews : after.webviews = before.webviews)
      (placeholders : after.placeholders = before.placeholders) (record : SameRecord before after) :
      Outcome host before (.register request) after
  /-- A native page is opened, for which a placeholder waits. -/
  | waits {request : Request} {after : Session σ} (webview : Nat) (page : Instance)
      (made : IsInstanceFor host request page)
      (opening : Opening host before after request webview
        (.placeholder before.placeholders.length))
      (native : (after.webview webview).isNative = true)
      (kept : Keeps none before.webviews after.webviews)
      (placeholders : after.placeholders = before.placeholders ++ [⟨webview, some page⟩])
      (rendered : ∀ id, after.renderedPages id = before.renderedPages id)
      (opened : after.openedPages = before.openedPages) :
      Outcome host before (.register request) after
  /-- A page is opened and rendered. -/
  | shows {request : Request} {after : Session σ} (webview created : Nat) (page : Instance)
      (made : IsInstanceFor host request page)
      (opening : Opening host before after request webview (.page created))
      (asked : ∃ options, .createPage created (after.webview webview).id
        (routeOfPath request.path) request.query page options ∈
          after.calls.drop before.calls.length)
      (kept : Keeps (some webview) before.webviews after.webviews)
      (recorded : webview < after.webviews.length → (after.webview webview).isPreload →
        (after.webview webview).page = some (.page created))
      (placeholders : after.placeholders = before.placeholders)
      (rendered : ∀ id, after.renderedPages id = before.renderedPages id ++
        if (after.webview webview).id = id then [created] else [])
      (opened : after.openedPages = before.openedPages ++ [(created, page)]) :
      Outcome host before (.register request) after
  /-- A native page comes for its webview. -/
  | arrives {placeholder number : Nat} {after : Session σ} (webview : Nat) (page : Instance)
      (held : before.placeholders[placeholder]? = some ⟨webview, some page⟩)
      (kept : Keeps (some webview) before.webviews after.webviews)
      (recorded : (after.webview webview).page = (before.webview webview).page ∨
        (after.webview webview).page = some (.page number))
      (placeholders : after.placeholders = before.placeholders.set placeholder ⟨webview, none⟩)
      (initialised : ∀ other, after.timesInitialised other = before.timesInitialised other)
      (rendered : ∀ id, after.renderedPages id = before.renderedPages id)
      (opened : after.openedPages = before.openedPages ++ [(number, page)]) :
      Outcome host before (.nativePage placeholder number) after

/-! ### Opening a page -/

/-- The call for the entry is plain. -/
theorem entryCalls_plain (session : Session σ) (request : Request) :
    ∀ call ∈ session.entryCalls request, call.isPlain := by
  unfold entryCalls
  split <;> simp [Call.isPlain]

/-- So are the calls by which a launch goes on. -/
theorem launchCalls_plain (app : State) (marks : Nat × Bool) :
    ∀ call ∈ launchCalls app marks, call.isPlain := by
  unfold launchCalls splashCalls
  split
  · split <;> split <;> simp [Call.isPlain]
  · simp

section Provides

variable {session after : Session σ} {host : Host σ} {request : Request} {route : RouteOptions}
  {state state' : σ} {given : Option Nat} {call : Call} {number : Nat} {webviews : List Webview}

/-- The webviews that there are once a page has come by its own. -/
theorem Provides.keeps
    (h : Provides session host request route state given call number webviews state') :
    call.isPlain ∧ Keeps none session.webviews webviews := by
  cases h with
  | created added after answer => exact ⟨rfl, Keeps.append _ _⟩
  | found given found after answer =>
      exact ⟨rfl, Keeps.modify (fun _ => rfl) (fun _ => id) fun _ _ _ => rfl⟩

/-- The webview by which a page comes is the one in which it is opened. -/
theorem Provides.isChosen
    (h : Provides session host request route state (session.offered request) call number webviews
      state') (hcall : call ∈ after.calls.drop session.calls.length)
    (hlength : after.webviews.length = webviews.length) :
    IsChosen session after request number := by
  unfold IsChosen
  generalize session.offered request = given at h
  cases h with
  | created added after answer =>
      left
      simp [hlength]
  | found given found after answer => exact Or.inr ⟨given, found, rfl, rfl, hcall⟩

/-- A webview that is not a new one is native if the route is, and remains so in any change but one
of that. -/
theorem Provides.isNative
    (h : Provides session host request route state given call number webviews state')
    (hgiven : given ≠ none) (hlt : number < session.webviews.length)
    {change : Webview → Webview} (hwebviews : after.webviews = webviews.modify number change)
    (hchange : ∀ known, (change known).isNative = known.isNative) :
    (after.webview number).isNative = route.settings.isNative := by
  cases h with
  | created added after answer => exact absurd rfl hgiven
  | found given found after answer =>
      have hself : after.webview (found.getD given) = _ := webview_of_getElem? (by
        rw [hwebviews, List.getElem?_modify_eq, List.getElem?_modify_eq,
          List.getElem?_eq_getElem hlt]
        rfl)
      rw [hself, hchange]

end Provides

/-- The session in which the page for a request is shown, from the session in which it is asked for:
its webview has been chosen and initialised, and nothing has been rendered yet. -/
structure IsReady (host : Host σ) (before ready : Session σ) (request : Request) (webview : Nat) :
    Prop where
  chosen : IsChosen before ready request webview
  pages : ready.app.pages = before.app.pages
  placeholders : ready.placeholders = before.placeholders
  calls : before.calls <+: ready.calls
  kept : Keeps none before.webviews ready.webviews
  initialised : ∀ number, ready.timesInitialised number =
    before.timesInitialised number + if webview = number then 1 else 0
  rendered : ∀ id, ready.renderedPages id = before.renderedPages id
  opened : ready.openedPages = before.openedPages
  native : webview < before.webviews.length → before.offered request ≠ none →
    (ready.webview webview).isNative = (before.routeOf host request).settings.isNative

/-- Where one webview is initialised among plain calls, that is all there is on record. -/
theorem record_initWebview {before after : Session σ} {front back : List Call} {webview : Nat}
    {route : Option String} {path : String} {query : Query} {settings : RouteSettings}
    (hcalls : after.calls = before.calls ++
      (front ++ .initWebview webview route path query settings :: back))
    (hfront : ∀ call ∈ front, call.isPlain) (hback : ∀ call ∈ back, call.isPlain) :
    (∀ number, after.timesInitialised number =
        before.timesInitialised number + if webview = number then 1 else 0) ∧
      (∀ id, after.renderedPages id = before.renderedPages id) ∧
      after.openedPages = before.openedPages := by
  obtain ⟨hfrontCount, hfrontRendered, hfrontOpened⟩ := plain_record hfront
  obtain ⟨hbackCount, hbackRendered, hbackOpened⟩ := plain_record hback
  refine ⟨fun number => ?_, fun id => ?_, ?_⟩
  · simp only [timesInitialised, hcalls, List.countP_append, List.countP_cons, hfrontCount,
      hbackCount, Call.initialises, beq_iff_eq]
    omega
  · have hnone : Call.rendered? id (.initWebview webview route path query settings) = none := rfl
    simp [renderedPages, hcalls, hfrontRendered, hbackRendered, hnone]
  · have hnone : Call.opened? (.initWebview webview route path query settings) = none := rfl
    simp [openedPages, hcalls, hfrontOpened, hbackOpened, hnone]

/-- All the steps of `openPage` but the last make the session ready. -/
theorem prepare_isReady (session : Session σ) (host : Host σ) (request : Request) :
    let prepared := (session.entered host request).prepare host request (session.offered request)
    IsReady host session prepared.2.2.2 request prepared.1 := by
  intro prepared
  obtain ⟨happ, hentered, hheld, hentry⟩ := entered_spec session host request
  obtain ⟨provided, known, route, provision, hprovides, -, hcalls, hstate, hwebviews, hplaceholders,
    -⟩ := prepare_spec (session.entered host request) host request (session.offered request)
  have hprovides := hprovides.congr hentered.symm
  change Provides session host request (session.routeOf host request) _ _ _ prepared.1 _ _
    at hprovides
  generalize prepared.1 = webview, prepared.2.1 = settings, prepared.2.2.2 = ready at *
  obtain ⟨hplain, hkeeps⟩ := hprovides.keeps
  -- All calls but one are plain: those for the entry of the app and for the webview come before
  -- it, and those for the instance and for the launch behind it.
  have hmade : ready.calls = session.calls ++
      ((session.entryCalls request ++ [.resolveRoute request.path request.openType, provided]) ++
        .initWebview webview route request.path request.query settings ::
          (.createInstance request.openType request.url request.query settings ::
            launchCalls (session.entered host request).app (ready.marks webview))) := by
    rw [hcalls, hentry]
    simp
  have hfront : ∀ call ∈ session.entryCalls request ++
      [.resolveRoute request.path request.openType, provided], call.isPlain := by
    intro call hmem
    rcases List.mem_append.mp hmem with hmem | hmem
    · exact entryCalls_plain session request call hmem
    · simp only [List.mem_cons, List.not_mem_nil, or_false] at hmem
      rcases hmem with rfl | rfl
      · rfl
      · exact hplain
  have hback : ∀ call ∈ .createInstance request.openType request.url request.query settings ::
      launchCalls (session.entered host request).app (ready.marks webview), call.isPlain := by
    intro call hmem
    rcases List.mem_cons.mp hmem with rfl | hmem
    · rfl
    · exact launchCalls_plain _ _ call hmem
  obtain ⟨hinitialised, hrendered, hopened⟩ := record_initWebview hmade hfront hback
  have hmarked : Keeps none known ready.webviews := by
    rw [hwebviews]
    exact Keeps.modify (fun _ => rfl) (fun _ => id) fun _ _ _ => rfl
  exact {
    chosen := hprovides.isChosen (by rw [hmade, List.drop_left]; simp) (by simp [hwebviews])
    pages := by rw [hstate, happ]
    placeholders := hplaceholders.trans hheld
    calls := hmade ▸ List.prefix_append _ _
    kept := hkeeps.trans hmarked
    initialised := hinitialised
    rendered := hrendered
    opened := hopened
    native := fun hlt hoffered => hprovides.isNative hoffered hlt hwebviews fun _ => rfl }

section IsReady

variable {host : Host σ} {before ready after : Session σ} {request : Request} {webview : Nat}

/-- Showing the page in a session that is ready opens it. -/
theorem IsReady.opening {entry : Entry} {shown : List Call}
    (h : IsReady host before ready request webview)
    (hanswer : before.register host request = (webview, after))
    (hopens : ¬ ∃ pooled page, before.Reuses request.url pooled page)
    (happ : after.app = ready.app.push entry) (hcalls : after.calls = ready.calls ++ shown)
    (hshown : ∀ number, shown.countP (Call.initialises number) = 0)
    (hlength : after.webviews.length = ready.webviews.length)
    (hmarks : after.marks webview = ready.marks webview) :
    Opening host before after request webview entry where
  answer := hanswer
  opens := hopens
  chosen := by
    rcases h.chosen with ⟨hnone, hnew, hlt⟩ | ⟨given, found, hoffered, hfound, hmem⟩
    · exact Or.inl ⟨hnone, hnew, hlength ▸ hlt⟩
    · refine Or.inr ⟨given, found, hoffered, hfound, ?_⟩
      rw [hcalls, List.drop_append]
      exact List.mem_append_left _ hmem
  pages := by
    rw [happ, ← h.pages]
    rfl
  initialised number := by
    rw [← h.initialised number]
    simp [timesInitialised, hcalls, hshown]
  native hlt hoffered := by
    rw [← h.native hlt hoffered]
    exact congrArg Prod.snd hmarks

/-- In a native webview the page waits. -/
theorem IsReady.waits {page : Instance} (h : IsReady host before ready request webview)
    (hanswer : before.register host request = (webview, after))
    (hopens : ¬ ∃ pooled page, before.Reuses request.url pooled page)
    (hmade : IsInstanceFor host request page)
    (hnative : (ready.webview webview).isNative = true)
    (happ : after.app = ready.app.push (.placeholder ready.placeholders.length))
    (hplaceholders : after.placeholders = ready.placeholders ++ [⟨webview, some page⟩])
    (hcalls : after.calls = ready.calls) (hwebviews : after.webviews = ready.webviews) :
    Outcome host before (.register request) after := by
  have hself := webview_congr hwebviews webview
  have hcalled : SameRecord ready after := SameRecord.of_calls hcalls
  rw [h.placeholders] at happ hplaceholders
  have hopening := h.opening hanswer hopens happ (hcalls.trans (List.append_nil _).symm)
    (fun _ => rfl) (congrArg List.length hwebviews) (by rw [marks, marks, hself])
  exact .waits webview page hmade hopening (hself ▸ hnative) (hwebviews ▸ h.kept) hplaceholders
    (fun id => (hcalled.rendered id).trans (h.rendered id)) (hcalled.opened.trans h.opened)

/-- In any other webview it is rendered, and a preloaded webview keeps it. -/
theorem IsReady.shows {page : Instance} {created : Nat} {options : Options}
    (h : IsReady host before ready request webview)
    (hanswer : before.register host request = (webview, after))
    (hopens : ¬ ∃ pooled page, before.Reuses request.url pooled page)
    (hmade : IsInstanceFor host request page)
    (hnative : (ready.webview webview).isNative = false)
    (happ : after.app = ready.app.push (.page created))
    (hplaceholders : after.placeholders = ready.placeholders)
    (hcalls : after.calls = ready.calls ++ [.createPage created (ready.webview webview).id
      (routeOfPath request.path) request.query page options])
    (hwebviews : after.webviews = ready.webviews.modify webview (keeping (.page created))) :
    Outcome host before (.register request) after := by
  have hmarks : after.marks webview = ready.marks webview :=
    marks_congr hwebviews (keeping_id _) (keeping_isNative _) webview
  have hid : (after.webview webview).id = (ready.webview webview).id := congrArg Prod.fst hmarks
  have hopening := h.opening hanswer hopens happ hcalls (fun _ => rfl) (by simp [hwebviews]) hmarks
  have hkept : Keeps (some webview) ready.webviews after.webviews := by
    rw [hwebviews]
    exact Keeps.modify (keeping_id _) (fun known => by simp) fun hne => absurd rfl hne
  -- the webview is not native, so that it keeps the page if it is preloaded
  have hrecorded : webview < after.webviews.length → (after.webview webview).isPreload →
      (after.webview webview).page = some (.page created) := by
    intro hlt hpreload
    have hlt : webview < ready.webviews.length := by simpa [hwebviews] using hlt
    have hknown := List.getElem?_eq_getElem hlt
    have hself : after.webview webview = keeping (.page created) (ready.webview webview) := by
      rw [webview_of_getElem? hknown]
      exact webview_of_getElem? (by simp [hwebviews, hknown])
    rw [hself, keeping_isPreload] at hpreload
    simp [hself, keeping, hpreload, hnative]
  refine .shows webview created page hmade hopening ⟨options, ?_⟩ (h.kept.mono.trans hkept)
    hrecorded (hplaceholders.trans h.placeholders) (fun id => ?_) ?_
  · obtain ⟨more, hmore⟩ := h.calls
    rw [hcalls, ← hmore, List.append_assoc, List.drop_left, hid]
    simp
  · rw [← h.rendered id, renderedPages, hcalls, List.filterMap_append, hid]
    by_cases hsame : (ready.webview webview).id = id
    · simp [Call.rendered?, renderedPages, hsame]
    · simp [Call.rendered?, renderedPages, hsame]
  · rw [← h.opened, openedPages, hcalls, List.filterMap_append]
    rfl

end IsReady

/-- A registration that opens a page does so in the webview that it answers with. -/
theorem openPage_outcome {session : Session σ} {host : Host σ} {request : Request}
    (hopens : ¬ ∃ pooled page, session.Reuses request.url pooled page)
    (hanswer : session.register host request =
      (session.entered host request).openPage host request (session.offered request)) :
    Outcome host session (.register request) (session.register host request).2 := by
  have hready := prepare_isReady session host request
  have hmade : IsInstanceFor host request
      ((session.entered host request).prepare host request (session.offered request)).2.2.1 :=
    ⟨_, _, rfl⟩
  rw [openPage_eq] at hanswer
  generalize (session.entered host request).prepare host request (session.offered request) =
    prepared at *
  obtain ⟨webview, settings, page, ready⟩ := prepared
  dsimp only at *
  rw [hanswer]
  rcases showPage_shown ready host request settings webview page with
    ⟨hnative, happ, hplaceholders, hcalls, hwebviews, -⟩ |
    ⟨hnative, created, happ, hplaceholders, hcalls, hwebviews, -⟩
  · exact hready.waits hanswer hopens hmade hnative happ hplaceholders hcalls hwebviews
  · exact hready.shows hanswer hopens hmade hnative happ hplaceholders hcalls hwebviews

/-! ### Every event -/

/-- A native page comes for a placeholder that holds what the page gets, or nothing happens. -/
theorem nativePage_outcome (session : Session σ) (host : Host σ) (placeholder number : Nat) :
    Outcome host session (.nativePage placeholder number)
      (session.nativePageCreated host placeholder number).2 := by
  by_cases hheld : ∃ webview page, session.placeholders[placeholder]? = some ⟨webview, some page⟩
  · obtain ⟨webview, page, hheld⟩ := hheld
    let delivery : Delivery := ⟨placeholder, number, webview, page⟩
    have hdelivery : delivery.IsHeld session := hheld
    rw [nativePageCreated_held host hdelivery]
    have hwebviews : (session.arrived host delivery).webviews = session.webviews.modify webview
      (recording (session.isAlive host webview) number) := rfl
    refine .arrives webview page hheld ?_ ?_ rfl (fun other => ?_) (fun id => ?_) ?_
    · rw [hwebviews]
      refine Keeps.modify (recording_id _ number) (fun known => ?_) fun hne => absurd rfl hne
      rw [recording_isPreload]
      exact id
    · -- A webview that is not there has no page, before and after.
      unfold Session.webview
      rw [hwebviews]
      simp only [List.getD_eq_getElem?_getD, List.getElem?_modify_eq]
      cases session.webviews[webview]? with
      | none => exact Or.inl rfl
      | some known => exact recording_page _ number known
    · simp [timesInitialised, arrived, Delivery.call, Call.initialises]
    · simp [renderedPages, arrived, Delivery.call, Call.rendered?]
    · simp [openedPages, arrived, Delivery.call, Call.opened?, delivery]
  · rw [nativePageCreated_unheld host hheld]
    exact .quiet (fun _ h => by cases h) (Keeps.refl _) rfl (SameRecord.of_calls rfl)

/-- Every event has one of these outcomes. -/
theorem handle_outcome (session : Session σ) (host : Host σ) (event : Event) :
    Outcome host session event (session.handle host event) := by
  cases event with
  | register request =>
      obtain ⟨happ, hwebviews, hplaceholders, hcalls⟩ := entered_spec session host request
      -- The entry may be initialised first, which changes nothing here; then a page is put back or
      -- opened.
      rcases register_cases session host request with
        ⟨webview, page, hreuses, hanswer⟩ | ⟨hopens, hanswer⟩
      · have hpages : (session.register host request).2.app.pages =
            session.app.pages ++ [page] := by
          rw [hanswer, ← happ]
          rfl
        refine .putsBack webview page hreuses (Prod.ext (by rw [hanswer]) rfl) hpages ?_ ?_ ?_
        · show (session.register host request).2.webviews = _
          rw [hanswer]
          exact hwebviews
        · show (session.register host request).2.placeholders = _
          rw [hanswer]
          exact hplaceholders
        · show SameRecord session (session.register host request).2
          rw [hanswer]
          exact AddsPlain.sameRecord ⟨_, hcalls, entryCalls_plain session request⟩
      · exact openPage_outcome hopens hanswer
  | nativePage placeholder number => exact nativePage_outcome session host placeholder number
  | leave entry => exact .quiet (fun _ => nofun) (Keeps.refl _) rfl (SameRecord.of_calls rfl)
  | addWebview webview =>
      exact .quiet (fun _ => nofun) (Keeps.append _ _) rfl (SameRecord.of_calls rfl)
  | preload url webview =>
      refine .quiet (fun _ => nofun) ?_ rfl (SameRecord.of_calls rfl)
      exact Keeps.modify (fun _ => rfl) (fun _ _ => rfl) fun _ _ _ => rfl
  | takePreload url => exact .quiet (fun _ => nofun) (Keeps.refl _) rfl (SameRecord.of_calls rfl)
  | perform actions =>
      have hsettled := settled_perform session host actions
      have hplain : AddsPlain session (session.handle host (.perform actions)) :=
        performFor_addsPlain host _ actions session
      refine .quiet (fun _ => nofun) ?_ hsettled.placeholders hplain.sameRecord
      rw [hsettled.webviews]
      exact Keeps.refl _

/-- Whatever the outcome is, at most one webview gets another page. -/
theorem Outcome.keeps {host : Host σ} {before after : Session σ} {event : Event}
    (h : Outcome host before event after) : ∃ but, Keeps but before.webviews after.webviews := by
  cases h with
  | quiet other kept => exact ⟨none, kept⟩
  | putsBack webview page reuses answer pages webviews => exact ⟨none, webviews ▸ Keeps.refl _⟩
  | waits webview page made opening native kept => exact ⟨none, kept⟩
  | shows webview created page made opening asked kept => exact ⟨some webview, kept⟩
  | arrives webview page held kept => exact ⟨some webview, kept⟩

/-- A webview that is in the preload pool for a url was there before, or it has just been put
there. -/
theorem find?_handle {session : Session σ} {host : Host σ} {event : Event} {url : String}
    {webview : Nat} (h : (session.handle host event).app.preloads.find? url = some webview) :
    session.app.preloads.find? url = some webview ∨ event = .preload url webview := by
  -- every other event leaves the pool as it is or takes something out of it
  cases event with
  | register request =>
      refine Or.inl ?_
      have hpool : (session.register host request).2.app.preloads = session.app.preloads := by
        by_cases hback : ∃ pooled page, session.Reuses request.url pooled page
        · obtain ⟨pooled, page, hreuses⟩ := hback
          obtain ⟨-, happ, -⟩ := register_of_reuses host hreuses
          rw [happ]
          rfl
        · obtain ⟨given, made, entry, -, -, -, hopens⟩ := register_of_not_reuses host hback
          rw [hopens.app]
      rw [← hpool]
      exact h
  | nativePage placeholder number =>
      refine Or.inl ?_
      rcases nativePageCreated_spec session host placeholder number with
        hsame | ⟨alive, home, page, htakes⟩
      · rw [← hsame]
        exact h
      · rw [← Tracked.preloads_swap session.app (.placeholder placeholder) (.page number),
          ← htakes.app]
        exact h
  | leave entry => exact Or.inl h
  | addWebview added => exact Or.inl h
  | preload key pooled =>
      change (session.app.preloads.insert key pooled).find? url = some webview at h
      rw [Tracked.find_insert] at h
      split at h
      · rename_i hkey
        rw [Option.some.injEq] at h
        exact Or.inr (by rw [hkey, h])
      · exact Or.inl h
  | takePreload key =>
      change (session.app.preloads.erase key).find? url = some webview at h
      rw [Tracked.find_erase] at h
      split at h
      · exact nomatch h
      · exact Or.inl h
  | perform actions => exact Or.inl ((settled_perform session host actions).find? h)

end MiniApp.Session
