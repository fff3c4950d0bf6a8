import MiniApp.App.TabBar

/-!
# Options of a rendered page

What the renderer of a page has to know: the device, the settings of the route, and how much of the
window the bars take.
-/

set_option autoImplicit false

namespace MiniApp.Page

open MiniApp.App MiniApp.Json

/-- The device and its window. -/
structure SystemInfo where
  platform : String
  pixelRatio : Double
  windowWidth : Double
  deriving DecidableEq, Repr

/-- The options of a page that is rendered in its webview. -/
structure Options where
  css : Bool
  route : String
  version : Nat
  locale : String
  platform : String
  pixelRatio : Double
  windowWidth : Double
  disableScroll : Bool
  onPageScroll : Bool
  onPageReachBottom : Bool
  onReachBottomDistance : Nat
  statusbarHeight : Double
  windowTop : Double
  windowBottom : Double
  deriving DecidableEq, Repr

/-- How much the bars at the top cover: both if the navigation bar floats, or else none. -/
def coveredTop (settings : RouteSettings) (statusbarHeight : Double) (config : Config) : Double :=
  if settings.navigationBar = .float then statusbarHeight.add config.navigationBarHeight else .zero

/-- How much the tab bar covers: its height if the page is one of its entries and it covers pages.
-/
def coveredBottom (settings : RouteSettings) (bar : TabBar) : Double :=
  if bar.isTab settings.route && bar.cover then bar.height else .zero

/-- The options for a page of a route. -/
def Options.create (settings : RouteSettings) (system : SystemInfo) (statusbarHeight : Double)
    (bar : TabBar) (config : Config) : Options where
  css := true
  route := settings.route
  version := 1
  locale := ""
  platform := system.platform
  pixelRatio := system.pixelRatio
  windowWidth := system.windowWidth
  disableScroll := settings.disableScroll
  onPageScroll := false
  onPageReachBottom := false
  onReachBottomDistance := settings.onReachBottomDistance.getD config.onReachBottomDistance
  statusbarHeight := statusbarHeight
  windowTop := coveredTop settings statusbarHeight config
  windowBottom := coveredBottom settings bar

end MiniApp.Page
