import MiniApp.Json.Value

/-!
# Routes

A page is reached under a path such as `/pages/index/index`; its route is the path without the slash
at the start. Every route has settings of its own.
-/

set_option autoImplicit false

namespace MiniApp.Page

open MiniApp.Json

/-- The parameters of a page, by name. -/
abbrev Query := List (String × String)

/-- How a page was asked for. -/
inductive OpenType
  | appLaunch | navigateTo | redirectTo | reLaunch | switchTab | navigateBack
  deriving DecidableEq, Repr

/-- The style of the navigation bar of a page. -/
inductive NavigationBar
  | standard | transparent | float | none
  deriving DecidableEq, Repr

/-- The settings of a route. -/
structure RouteSettings where
  /-- The webview that hosts the page, once there is one. -/
  id : Option Nat := none
  route : String
  isEntry : Bool := false
  isTabBar : Bool := false
  /-- Whether the page is rendered natively and not in its webview. -/
  isNative : Bool := false
  navigationBar : NavigationBar := .standard
  disableScroll : Bool := false
  /-- How near to the bottom the page has to be scrolled to have reached it. -/
  onReachBottomDistance : Option Nat := none
  /-- Settings that are not known here, handed on as they are. -/
  extra : List (String × Value) := []

/-- A path with the settings of its route. -/
structure RouteOptions where
  path : String
  settings : RouteSettings

/-- The route for a path, which has one slash at its start less. -/
def routeOfPath (path : String) : String :=
  match path.toList with
  | '/' :: rest => String.ofList rest
  | _ => path

end MiniApp.Page
