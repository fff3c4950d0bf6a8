import MiniApp.Page.Route

/-!
# Page instances

What a page knows about how it was opened.
-/

set_option autoImplicit false

namespace MiniApp.Page

/-- A page as it was opened. -/
structure Instance where
  id : Option Nat
  /-- The route with one slash at its start. -/
  path : String
  route : String
  /-- The url that was asked for, with its parameters. -/
  fullPath : String
  options : Query
  settings : RouteSettings
  openType : OpenType

/-- The instance for a page that was asked for under a url. -/
def Instance.create (openType : OpenType) (url : String) (query : Query)
    (settings : RouteSettings) : Instance :=
  let route := routeOfPath settings.route
  ⟨settings.id, "/" ++ route, route, url, query, settings, openType⟩

end MiniApp.Page
