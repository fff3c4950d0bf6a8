import MiniApp.Page.Instance
import MiniApp.Page.Options
import MiniApp.Page.Webview

/-!
# The host of an app

What an app needs from the platform that it runs on. A host has a state of its own, which only its
services read and change; the webviews are numbered by the app in the order in which it learns of
them, and the host is told the number that a new webview gets.
-/

set_option autoImplicit false

namespace MiniApp.Session

open MiniApp.Json MiniApp.Page

/-- The services of a host with states in `σ`. -/
structure Host (σ : Type) where
  /-- Called once before the first page that comes with a webview of its own. -/
  initEntry : StateM σ Unit
  /-- The settings of the route behind a path. -/
  resolveRoute (path : String) (openType : OpenType) : StateM σ RouteOptions
  /-- A new webview for a page, which gets the given number. -/
  createWebview (webview : Nat) (path : String) (route : RouteOptions) (query : Query) :
    StateM σ Webview
  /-- The webview that is listed under an id. -/
  findWebview (id : Nat) : StateM σ (Option Nat)
  /-- Applies size, orientation and style for the route. -/
  initWebview (webview : Nat) (path : String) (query : Query) (settings : RouteSettings) :
    StateM σ Unit
  /-- What a page gets to know about how it was opened. -/
  createInstance (openType : OpenType) (url : String) (query : Query) (settings : RouteSettings) :
    StateM σ Instance := pure (Instance.create openType url query settings)
  /-- Closes the splash screen. -/
  closeSplash : StateM σ Unit
  /-- Completes the navigation that launched the app. -/
  finishNavigation : StateM σ Unit
  /-- A new page that is rendered in the webview with the given id. -/
  createPage (id : Nat) (route : String) (query : Query) (page : Instance) (options : Options) :
    StateM σ Nat
  /-- The device. -/
  system (state : σ) : SystemInfo
  /-- The height of the status bar. -/
  statusbarHeight (state : σ) : Double
  /-- Whether the host keeps a webview alive. -/
  holds (state : σ) (webview : Nat) : Bool

/-- What the host and the pages are told in the course of a session. -/
inductive Call
  | initEntry
  | resolveRoute (path : String) (openType : OpenType)
  | createWebview (webview : Nat) (path : String) (route : RouteOptions) (query : Query)
  | findWebview (id : Nat) (found : Option Nat)
  /-- With the route that was registered in the webview before. -/
  | initWebview (webview : Nat) (before : Option String) (path : String) (query : Query)
    (settings : RouteSettings)
  | createInstance (openType : OpenType) (url : String) (query : Query) (settings : RouteSettings)
  | closeSplash
  | finishNavigation
  | createPage (created id : Nat) (route : String) (query : Query) (page : Instance)
    (options : Options)
  /-- A native page is told the webview it is in and how it was opened. -/
  | attach (number webview : Nat) (page : Instance)
  /-- A callback has been called. -/
  | report (label : Value)

end MiniApp.Session
