import MiniApp.Template.Position

/-!
# Diagnostics

What the compiler has to say against a template. A diagnostic never stops the compilation.
-/

set_option autoImplicit false

namespace MiniApp.Template

/-- The kinds of problems. -/
inductive ErrorCode
  /-- An event is bound to nothing, without any modifier. -/
  | missingExpression
  /-- An expression cannot be read. -/
  | invalidExpression
  deriving DecidableEq, Repr

/-- The number of the kind of problem. -/
def ErrorCode.number : ErrorCode → Nat
  | .missingExpression => 35
  | .invalidExpression => 45

/-- The name of the kind of problem. -/
def ErrorCode.name : ErrorCode → String
  | .missingExpression => "VOnNoExpression"
  | .invalidExpression => "InvalidExpression"

/-- What the kind of problem means. -/
def ErrorCode.message : ErrorCode → String
  | .missingExpression => "v-on is missing expression."
  | .invalidExpression => "Error parsing JavaScript expression."

/-- A problem with its place and, where it helps, the text that it is about. -/
structure Diagnostic where
  code : ErrorCode
  location : Location
  detail : Option String
  deriving DecidableEq, Repr

/-- The text of the diagnostic: what the problem is and the text that it is about. -/
def Diagnostic.message (diagnostic : Diagnostic) : String :=
  match diagnostic.detail with
  | none => diagnostic.code.message
  | some detail => diagnostic.code.message ++ " " ++ detail

/-- The diagnostic on one line with the line and column of its place. -/
def Diagnostic.display (diagnostic : Diagnostic) : String :=
  let start := diagnostic.location.start
  diagnostic.message ++ " (" ++ toString start.line ++ ":" ++ toString start.column ++ ")"

end MiniApp.Template
