import MiniApp.Json.Double

/-!
# The configuration of an app

Everything in the configuration has a default.
-/

set_option autoImplicit false

namespace MiniApp.App

open MiniApp.Json

/-- When the splash screen goes away. -/
structure SplashConfig where
  /-- It is closed as soon as the entry page is registered, -/
  autoclose : Bool := false
  /-- unless it has to stay until the first page has been rendered. -/
  alwaysShowBeforeRender : Bool := false
  deriving DecidableEq, Repr

/-- An entry of the tab bar: the path of its page. -/
structure TabBarItem where
  pagePath : String
  deriving DecidableEq, Repr

/-- The tab bar: its entries, whether it covers the page behind it, and its height. -/
structure TabBarConfig where
  list : List TabBarItem := []
  cover : Bool := false
  height : Double := .zero
  deriving DecidableEq, Repr

/-- The number 44. -/
def standardBarHeight : Double :=
  ⟨0x4046000000000000⟩

/-- The configuration of an app. -/
structure Config where
  splash : SplashConfig := {}
  tabBar : TabBarConfig := {}
  navigationBarHeight : Double := standardBarHeight
  onReachBottomDistance : Nat := 50
  deriving DecidableEq, Repr

end MiniApp.App
