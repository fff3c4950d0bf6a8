import MiniApp.Session.Ready

/-!
# Registering pages

A page that is asked for under the url of a preloaded webview is shown in that webview: as it is
if the webview has a page that is not on the page stack, and anew if it has none. While its page
is on the stack, and where nothing is preloaded, another webview is used: the one that comes with
the request, or a new one.
-/

set_option autoImplicit false

namespace MiniApp.Session

open MiniApp.App MiniApp.Page

variable {σ : Type}

/-- A page that is asked for. -/
structure Request where
  /-- The url with its parameters, under which a webview may be preloaded. -/
  url : String
  path : String
  query : Query
  openType : OpenType
  /-- The webview of the native page that launches the app. -/
  webview : Option Nat

/-- What the preload pool has for a url. -/
inductive Preload
  | absent
  /-- A webview that has no page yet. -/
  | blank (webview : Nat)
  /-- A webview whose page is on the page stack. -/
  | shown (webview : Nat)
  /-- A webview with a page that is not on the page stack. -/
  | hidden (webview : Nat) (page : Entry)

/-- Looks up the preloaded webview for a url. -/
def preloadFor (session : Session σ) (url : String) : Preload :=
  match session.app.preloads.find? url with
  | none => .absent
  | some webview =>
    match (session.webview webview).page with
    | none => .blank webview
    | some page => if page ∈ session.app.pages then .shown webview else .hidden webview page

/-- Has the entry of the app initialised, unless that has been done. -/
def enter (session : Session σ) (host : Host σ) : Session σ :=
  if session.isEntered then session
  else { session.notify host.initEntry .initEntry with isEntered := true }

/-- Has the route behind the path of a page resolved. -/
def resolveRoute (session : Session σ) (host : Host σ) (request : Request) :
    RouteOptions × Session σ :=
  session.ask (host.resolveRoute request.path request.openType) fun _ =>
    .resolveRoute request.path request.openType

/-- The webview for a page. A webview that is given is looked up again under its id, and is used
as it is if the host does not find it; it becomes native if the route is. -/
def provideWebview (session : Session σ) (host : Host σ) (request : Request)
    (route : RouteOptions) : Option Nat → Nat × Session σ
  | none =>
    -- The host is told the number that the new webview is going to have.
    let number := session.webviews.length
    let created :=
      session.ask (host.createWebview number request.path route request.query) fun _ =>
        .createWebview number request.path route request.query
    (number, created.2.addWebview created.1)
  | some given =>
    let id := (session.webview given).id
    let found := session.ask (host.findWebview id) (.findWebview id)
    let number := found.1.getD given
    (number, found.2.modifyWebview number fun known =>
      { known with isNative := route.settings.isNative })

/-- Adds the webview of a page to the tab bar if the settings say so. -/
def joinTabBar (session : Session σ) (settings : RouteSettings) (webview : Nat) : Session σ :=
  if settings.isTabBar then
    session.modifyApp fun app => { app with tabBar := app.tabBar.append webview }
  else session

/-- Has the webview of a page initialised, and marks it with the route of the page. -/
def initWebview (session : Session σ) (host : Host σ) (request : Request)
    (settings : RouteSettings) (webview : Nat) : Session σ :=
  -- A webview that is used again still has the route of its last page, which the host gets to see.
  let before := (session.webview webview).route
  let session := session.notify (host.initWebview webview request.path request.query settings)
    (.initWebview webview before request.path request.query settings)
  session.modifyWebview webview fun known =>
    { known with route := some (routeOfPath request.path) }

/-- What a page gets to know about how it was opened. -/
def createInstance (session : Session σ) (host : Host σ) (request : Request)
    (settings : RouteSettings) : Instance × Session σ :=
  session.ask (host.createInstance request.openType request.url request.query settings) fun _ =>
    .createInstance request.openType request.url request.query settings

/-- Closes the splash screen, unless it has to stay. -/
def closeSplash (session : Session σ) (host : Host σ) : Session σ :=
  let splash := session.app.config.splash
  if splash.autoclose && !splash.alwaysShowBeforeRender then
    session.notify host.closeSplash .closeSplash
  else session

/-- Resumes a launch that was suspended in a native page: the navigation is completed as soon as
the app is ready. -/
def resumeLaunch (session : Session σ) (host : Host σ) (webview : Nat) : Session σ :=
  if (session.webview webview).isNativeLaunch then
    (session.closeSplash host).whenReady host [.finishNavigation]
  else session

/-- Puts a placeholder for a native page on the page stack. -/
def pushPlaceholder (session : Session σ) (webview : Nat) (page : Instance) : Session σ :=
  let number := session.placeholders.length
  { session with
    placeholders := session.placeholders ++ [⟨webview, some page⟩]
    app := session.app.push (.placeholder number) }

/-- Has a page rendered and puts it on the page stack. A webview that is preloaded keeps it. -/
def pushPage (session : Session σ) (host : Host σ) (request : Request) (settings : RouteSettings)
    (webview : Nat) (page : Instance) : Session σ :=
  let id := (session.webview webview).id
  let route := routeOfPath request.path
  -- The options are made from what the host says before it creates the page.
  let options := Options.create settings (host.system session.host)
    (host.statusbarHeight session.host) session.app.tabBar session.app.config
  let rendered := session.ask (host.createPage id route request.query page options) fun created =>
    .createPage created id route request.query page options
  let entry := Entry.page rendered.1
  let session := rendered.2.modifyApp fun app => app.push entry
  if (session.webview webview).isPreload then
    session.modifyWebview webview fun known => { known with page := some entry }
  else session

/-- Puts a page on the page stack, or its placeholder if the page is native. -/
def showPage (session : Session σ) (host : Host σ) (request : Request) (settings : RouteSettings)
    (webview : Nat) (page : Instance) : Session σ :=
  if (session.webview webview).isNative then session.pushPlaceholder webview page
  else session.pushPage host request settings webview page

/-- Opens a page in a webview that is given, or in a new one. -/
def openPage (session : Session σ) (host : Host σ) (request : Request) (given : Option Nat) :
    Nat × Session σ :=
  let resolved := session.resolveRoute host request
  let provided := resolved.2.provideWebview host request resolved.1 given
  let webview := provided.1
  -- The settings are those of the route, for the webview that the page is shown in.
  let settings := { resolved.1.settings with id := some (provided.2.webview webview).id }
  let placed := provided.2.joinTabBar settings webview
  let initialised := placed.initWebview host request settings webview
  let created := initialised.createInstance host request settings
  let resumed := created.2.resumeLaunch host webview
  (webview, resumed.showPage host request settings webview created.1)

/-- Registers a page and gives the webview that hosts it. -/
def register (session : Session σ) (host : Host σ) (request : Request) : Nat × Session σ :=
  -- A request that hands a webview over comes from the launch of the app, whose entry is
  -- initialised first.
  let session := if request.webview.isSome then session.enter host else session
  match session.preloadFor request.url with
  | .absent => session.openPage host request request.webview
  -- A preloaded webview is used even where the request comes with one of its own.
  | .blank webview => session.openPage host request (some webview)
  -- Its webview shows a page already, so a new one is made, whatever the request comes with.
  | .shown _ => session.openPage host request none
  -- The page is as it was left, so nothing is resolved, created or rendered.
  | .hidden webview page => (webview, session.modifyApp fun app => app.push page)

end MiniApp.Session
