import MiniApp.Text.Blank
import MiniApp.Script.Grammar.Module

/-!
# Reading a text

A text is read as one expression or as a module. Each level of the grammar's recursion takes at
least one token before it comes back to itself, so the number of characters left at the first
token bounds the depth.

* `expression?` reads an expression at the start of a text and stops behind it;
* `wholeExpression?` also asks that nothing but trailing blank space follows it;
* `program?` reads a module.

A module is strict about `await`, which is an operator outside of functions, and lenient about most
else that a reader cannot decide from the syntax: repeated or missing declarations, the targets of
jumps, the rules of strict code, and what stands inside a regular expression. The language is that
of ES2024: decorators and the phases of an import (`import defer`, `import source`) are not read.
-/

set_option autoImplicit false

namespace MiniApp.Script

open MiniApp.Text

/-- One level of the grammar: reads a goal, and with `recur` the goals inside it. -/
def Reader.goal (recur : Recur) : Recur
  | .expression => Reader.expression recur
  | .assignment => Reader.assignment recur
  | .operation strength => Reader.operation recur strength
  | .unary => Reader.unary recur
  | .leftHand => Reader.leftHand recur
  | .callee => Reader.callee recur
  | .target => Reader.declaredTarget recur
  | .statement isBody => Reader.statement recur isBody

/-- Reads a goal with goals inside goals up to the given depth. -/
def Reader.upTo : Nat → Recur
  | 0 => fun _ => failure
  | depth + 1 => Reader.goal (Reader.upTo depth)

/-- The depth that suffices for a text of the given length. -/
def sufficientDepth (length : Nat) : Nat :=
  2 * length + 8

/-- The state before the first token of a text. The first token counts as standing on the line
of what is before it. -/
def State.initial? (text : List Char) : Option State := do
  let (token, rest) ← scan text
  let first := { token with onNewLine := false }
  some { token := first, rest, lastStop := first.start, setting := ⟨true, true, false, false⟩ }

/-- What a reader makes of a text, if no object literal is left that only a pattern may hold. -/
def readText (reader : Recur → Reader Node) (text : List Char) : Option Node := do
  let state ← State.initial? text
  let (tree, _) ← reader (Reader.upTo (sufficientDepth state.token.start)) state
  -- `{ name = value }` that has become a part of no pattern is no expression.
  if tree.hasCoverDefault then none else some tree

/-- The expression at the start of a text. -/
def expression? (text : List Char) : Option Node :=
  readText Reader.expression text

/-- The number of characters of a text that are blank space at its end. -/
def trailingBlanks (text : List Char) : Nat :=
  text.length - (trimEnd text).length

/-- The expression that a text consists of, up to blank space at its end. Neither a comment nor a
semicolon may follow the expression. -/
def wholeExpression? (text : List Char) : Option Node := do
  let tree ← expression? text
  -- The expression ends where its last token does, in front of any comment.
  if tree.span.stop = trailingBlanks text then some tree else none

/-- The text without a first line that says which program runs it. -/
def dropHashbang (text : List Char) : List Char :=
  match text with
  | '#' :: '!' :: rest => rest.dropWhile fun c => !isLineTerminator c
  | text => text

/-- The module that a text consists of. -/
def program? (text : List Char) : Option Node :=
  readText Reader.program (dropHashbang text)

/-- The statements of a module without the directives at its start. -/
def Node.statements (program : Node) : List Node :=
  program.parts.filter fun node => node.kind != .directive

end MiniApp.Script
