import MiniApp.Handler.Shape

/-!
# Function literals on one line

A function that is written over several lines of a template is put on one line: its head with
single spaces, then its statements in braces, each with a semicolon behind it.
-/

set_option autoImplicit false

namespace MiniApp.Handler

open MiniApp.Text MiniApp.Script

/-- The body in braces of a function literal. -/
def blockBody? (expression : Script.Node) : Option Script.Node :=
  match expression.kind with
  | .arrow _ false | .function _ _ _ => expression.parts.getLast?
  | _ => none

/-- The head of a function, with runs of blank space as single spaces and a space between the word
`function` and the parameters. -/
def collapseHead (head : List Char) : List Char :=
  replace "function(".toList "function (".toList ((words head).intersperse [' ']).flatten

/-- The function on one line, given where it starts and its body. -/
def collapseFunction (source : List Char) (start : Nat) (body : Script.Node) : List Char :=
  let head := collapseHead ((Span.mk start body.span.start).slice source)
  let statements := (nonEmptyStatements body.statements).map (statementText source)
  if statements.isEmpty then head ++ " \x7b\x7d".toList
  else head ++ " \x7b".toList ++ (statements.map fun text => ' ' :: text ++ [';']).flatten ++
    " \x7d".toList

/-- The text without blank space around it and, if it has several lines and is a function with a
body in braces, on one line. -/
def collapse (code : String) : String :=
  let source := trim code.toList
  let collapsed := do
    -- On one line a text is kept as it is written.
    if !source.contains '\n' then none
    let expression ← wholeExpression? source
    let body ← blockBody? expression
    some (collapseFunction source expression.span.start body)
  String.ofList (collapsed.getD source)

end MiniApp.Handler
