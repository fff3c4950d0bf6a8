/-!
# Options of the compiler
-/

set_option autoImplicit false

namespace MiniApp.Render

/-- What kind of text the compiler writes: the body of a function, which finds the helpers of the
runtime in a global, or a module, which imports them. -/
inductive Mode
  | function | module
  deriving DecidableEq, Repr

/-- The options of the compiler. -/
structure Options where
  mode : Mode := .module
  /-- Whether names are qualified with the context of the component. -/
  qualifies : Bool := true
  /-- The module that a module imports the helpers from. -/
  runtimeModule : String := "vue"
  /-- The global in which a function finds the helpers. -/
  runtimeGlobal : String := "Vue"
  deriving DecidableEq, Repr

end MiniApp.Render
