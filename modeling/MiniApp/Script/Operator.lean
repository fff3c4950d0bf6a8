/-!
# Operators of JavaScript

The operators of expressions, with the binding strength of those that take two operands.
-/

set_option autoImplicit false

namespace MiniApp.Script

/-- An operator before its only operand. -/
inductive UnaryOp
  | plus | minus | not | complement | typeOf | void | delete
  deriving DecidableEq, Repr

/-- An operator between two operands that are both evaluated. -/
inductive BinaryOp
  | equal | notEqual | same | notSame
  | less | lessEqual | greater | greaterEqual | isIn | instanceOf
  | shiftLeft | shiftRight | shiftRightZero
  | add | subtract | multiply | divide | remainder | power
  | bitAnd | bitOr | bitXor
  deriving DecidableEq, Repr

/-- An operator between two operands that may skip the second. -/
inductive LogicalOp
  | and | or | coalesce
  deriving DecidableEq, Repr

/-- An assignment: plain, or combined with an operator of two operands. -/
inductive AssignOp
  | plain
  | binary (op : BinaryOp)
  | logical (op : LogicalOp)
  deriving DecidableEq, Repr

/-- Adding or subtracting one in place. -/
inductive UpdateOp
  | increment | decrement
  deriving DecidableEq, Repr

/-- How strongly an operator binds its operands; a higher number binds more strongly. -/
def BinaryOp.strength : BinaryOp → Nat
  | .bitOr => 4
  | .bitXor => 5
  | .bitAnd => 6
  | .equal | .notEqual | .same | .notSame => 7
  | .less | .lessEqual | .greater | .greaterEqual | .isIn | .instanceOf => 8
  | .shiftLeft | .shiftRight | .shiftRightZero => 9
  | .add | .subtract => 10
  | .multiply | .divide | .remainder => 11
  | .power => 12

/-- How strongly an operator binds its operands, on the scale of `BinaryOp.strength`. -/
def LogicalOp.strength : LogicalOp → Nat
  | .coalesce => 1
  | .or => 2
  | .and => 3

end MiniApp.Script
