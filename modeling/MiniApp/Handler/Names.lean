/-!
# Names that handlers leave alone

A free name in a handler stands for a member of the component, except for the names that every
script knows and for those that the render function itself binds.
-/

set_option autoImplicit false

namespace MiniApp.Handler

/-- The globals of JavaScript that a template may use. -/
def globals : List String :=
  ["Infinity", "undefined", "NaN", "isFinite", "isNaN", "parseFloat", "parseInt", "decodeURI",
   "decodeURIComponent", "encodeURI", "encodeURIComponent", "Math", "Number", "Date", "Array",
   "Object", "Boolean", "String", "RegExp", "Map", "Set", "JSON", "Intl", "BigInt", "console",
   "Error", "Symbol", "arguments"]

/-- The name of the argument of a handler that is a statement. -/
def eventName : String :=
  "$event"

/-- The names that the render function binds. -/
def renderLocals : List String :=
  ["_ctx", "_cache", eventName]

/-- Whether the name is a global that a template may use. -/
def isGlobal (name : String) : Bool :=
  globals.contains name

/-- Whether the render function binds the name. -/
def isRenderLocal (name : String) : Bool :=
  renderLocals.contains name

end MiniApp.Handler
