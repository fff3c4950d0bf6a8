import MiniApp.Page.Route

/-!
# Webviews and what is on the page stack

A webview hosts a page. A page that is rendered natively comes later than its webview; until then a
placeholder stands in for it on the page stack. Webviews, placeholders and pages are told apart by
numbers, each kind by its own.
-/

set_option autoImplicit false

namespace MiniApp.Page

/-- What stands on the page stack. -/
inductive Entry
  /-- The stand-in for a native page that does not exist yet. -/
  | placeholder (number : Nat)
  | page (number : Nat)
  deriving DecidableEq, Repr

/-- What is known about a webview. -/
structure Webview where
  /-- The number under which the host lists the webview. -/
  id : Nat
  /-- Whether the page of the webview is rendered natively. -/
  isNative : Bool := false
  /-- The route of the page that was registered last. -/
  route : Option String := none
  /-- Whether the webview has been in the preload pool. -/
  isPreload : Bool := false
  /-- The page that occupies a preloaded webview. -/
  page : Option Entry := none
  deriving DecidableEq, Repr, Inhabited

/-- The number of the webview in which an app is launched. -/
def launchId : Nat := 1

/-- Whether the app is launched in this webview with a native page. -/
def Webview.isNativeLaunch (webview : Webview) : Bool :=
  webview.id == launchId && webview.isNative

end MiniApp.Page
