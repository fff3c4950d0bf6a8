import MiniApp.Script.Operator

/-!
# Tokens of JavaScript

A token is a word, a literal or a mark. Which words are keywords depends on where they stand, so
a word is kept as its name; a mark is a bracket, a separator or an operator.
-/

set_option autoImplicit false

namespace MiniApp.Script

/-- The marks of the language. The marks that are also operators carry the operator; `+` and `-`
are counted among those with two operands. -/
inductive Mark
  | braceL | braceR | parenL | parenR | bracketL | bracketR
  | dot | ellipsis | semicolon | comma | colon | question | questionDot | arrow
  | bang | tilde
  | update (op : UpdateOp)
  | binary (op : BinaryOp)
  | logical (op : LogicalOp)
  | assign (op : AssignOp)
  deriving DecidableEq, Repr

/-- The spellings of the marks, a longer one before those that it starts with. -/
def Mark.spellings : List (List Char × Mark) :=
  [(['>', '>', '>', '='], .assign (.binary .shiftRightZero)),
   (['.', '.', '.'], .ellipsis),
   (['=', '=', '='], .binary .same),
   (['!', '=', '='], .binary .notSame),
   (['*', '*', '='], .assign (.binary .power)),
   (['<', '<', '='], .assign (.binary .shiftLeft)),
   (['>', '>', '='], .assign (.binary .shiftRight)),
   (['>', '>', '>'], .binary .shiftRightZero),
   (['&', '&', '='], .assign (.logical .and)),
   (['|', '|', '='], .assign (.logical .or)),
   (['?', '?', '='], .assign (.logical .coalesce)),
   (['=', '>'], .arrow),
   (['=', '='], .binary .equal),
   (['!', '='], .binary .notEqual),
   (['<', '='], .binary .lessEqual),
   (['>', '='], .binary .greaterEqual),
   (['<', '<'], .binary .shiftLeft),
   (['>', '>'], .binary .shiftRight),
   (['*', '*'], .binary .power),
   (['+', '+'], .update .increment),
   (['-', '-'], .update .decrement),
   (['&', '&'], .logical .and),
   (['|', '|'], .logical .or),
   (['?', '?'], .logical .coalesce),
   (['?', '.'], .questionDot),
   (['+', '='], .assign (.binary .add)),
   (['-', '='], .assign (.binary .subtract)),
   (['*', '='], .assign (.binary .multiply)),
   (['/', '='], .assign (.binary .divide)),
   (['%', '='], .assign (.binary .remainder)),
   (['&', '='], .assign (.binary .bitAnd)),
   (['|', '='], .assign (.binary .bitOr)),
   (['^', '='], .assign (.binary .bitXor)),
   (['{'], .braceL), (['}'], .braceR), (['('], .parenL), ([')'], .parenR),
   (['['], .bracketL), ([']'], .bracketR),
   (['.'], .dot), ([';'], .semicolon), ([','], .comma), ([':'], .colon), (['?'], .question),
   (['!'], .bang), (['~'], .tilde),
   (['='], .assign .plain),
   (['<'], .binary .less), (['>'], .binary .greater),
   (['+'], .binary .add), (['-'], .binary .subtract), (['*'], .binary .multiply),
   (['/'], .binary .divide), (['%'], .binary .remainder),
   (['&'], .binary .bitAnd), (['|'], .binary .bitOr), (['^'], .binary .bitXor)]

/-- What a token is. -/
inductive Token.Shape
  /-- The end of the text. -/
  | finish
  /-- A word with its escapes decoded; `escaped` when it is written with one. -/
  | word (name : String) (escaped : Bool)
  | privateName (name : String)
  | number (text : String)
  | bigint (text : String)
  | string (text : String)
  | regex (text : String)
  /-- A piece of a template up to an expression or, when `isLast`, to the end of the template;
  not `valid` when an escape in it stands for no character. -/
  | chunk (text : String) (valid isLast : Bool)
  | mark (mark : Mark)
  deriving DecidableEq, Repr

/-- A token with its place, counted in characters to the end of the text, and whether a line
terminator stands between it and the token before. -/
structure Token where
  shape : Token.Shape
  start : Nat
  stop : Nat
  onNewLine : Bool
  deriving DecidableEq, Repr

end MiniApp.Script
