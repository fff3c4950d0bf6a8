import MiniApp.App.Config
import MiniApp.Page.Route

/-!
# The tab bar

The tab bar knows the routes of its entries and the webviews that have been registered for them,
which it keeps alive.
-/

set_option autoImplicit false

namespace MiniApp.App

open MiniApp.Json MiniApp.Page

/-- The tab bar of a running app; `webviews` are handles in the order of registration. -/
structure TabBar where
  routes : List String
  webviews : List Nat
  cover : Bool
  height : Double
  deriving DecidableEq, Repr

namespace TabBar

/-- The tab bar of a configuration, without webviews. -/
def ofConfig (config : TabBarConfig) : TabBar :=
  ⟨config.list.map fun item => routeOfPath item.pagePath, [], config.cover, config.height⟩

/-- Adds the webview of a page. -/
def append (bar : TabBar) (webview : Nat) : TabBar :=
  { bar with webviews := bar.webviews ++ [webview] }

/-- The place of a route or path among the entries. -/
def indexOf? (bar : TabBar) (route : String) : Option Nat :=
  bar.routes.findIdx? fun entry => entry == routeOfPath route

/-- Whether a route or path is an entry. -/
def isTab (bar : TabBar) (route : String) : Bool :=
  (bar.indexOf? route).isSome

/-- Forgets the webviews. -/
def clear (bar : TabBar) : TabBar :=
  { bar with webviews := [] }

end TabBar

end MiniApp.App
