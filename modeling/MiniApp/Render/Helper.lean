/-!
# Helpers of the runtime

The functions of the runtime that compiled code calls. Each has the name by which the runtime
exports it and the name by which the code calls it.
-/

set_option autoImplicit false

namespace MiniApp.Render

/-- A function of the runtime. -/
inductive Helper
  /-- Marks a value as the handler of an event. -/
  | on
  deriving DecidableEq, Repr

/-- The name by which the runtime exports the helper. -/
def Helper.name : Helper → String
  | .on => "vOn"

/-- The name by which the code calls the helper. -/
def Helper.alias : Helper → String
  | .on => "_vOn"

end MiniApp.Render
