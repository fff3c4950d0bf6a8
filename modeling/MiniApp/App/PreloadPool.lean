import MiniApp.Json.Value

/-!
# The preload pool

The webviews that have been created ahead of navigation, each under the url that it is meant for.
The pool keeps its webviews alive.
-/

set_option autoImplicit false

namespace MiniApp.App

open MiniApp.Json (setMember)

/-- The preloaded webviews by url; every url occurs once. -/
structure PreloadPool where
  entries : List (String × Nat) := []
  deriving DecidableEq, Repr

namespace PreloadPool

/-- The pool without webviews. -/
def empty : PreloadPool := {}

/-- The webview for a url. -/
def find? (pool : PreloadPool) (url : String) : Option Nat :=
  pool.entries.lookup url

/-- The pool with a webview for a url, which takes the place of the one before. -/
def insert (pool : PreloadPool) (url : String) (webview : Nat) : PreloadPool :=
  ⟨setMember url webview pool.entries⟩

/-- The pool without the webview for a url. -/
def erase (pool : PreloadPool) (url : String) : PreloadPool :=
  ⟨pool.entries.filter fun entry => entry.1 ≠ url⟩

/-- The webviews in the pool. -/
def webviews (pool : PreloadPool) : List Nat :=
  pool.entries.map (·.2)

end PreloadPool

end MiniApp.App
