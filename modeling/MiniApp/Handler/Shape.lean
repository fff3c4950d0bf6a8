import MiniApp.Script.Parse

/-!
# The shape of a handler

What is written as the handler of an event is a reference to a function, a function literal, one
statement to be run, or several. The shape decides how the handler is wrapped.

A text that can be read neither as an expression nor as a module counts as one statement, so that a
later step can report it.
-/

set_option autoImplicit false

namespace MiniApp

open MiniApp.Text MiniApp.Script

/-- The text of a handler, sorted by what it is. -/
inductive Handler
  /-- A name or a member. -/
  | reference (text : String)
  /-- An arrow function or a function expression. -/
  | functionLiteral (text : String)
  /-- One statement, which is no reference. -/
  | inlineStatement (text : String)
  /-- The statements of a text that is no single expression. -/
  | statements (texts : List String)
  deriving DecidableEq, Repr

namespace Handler

/-- The text without the semicolons at its end. -/
def dropSemicolons (text : List Char) : List Char :=
  dropEndWhile (· == ';') text

/-- The text of a statement in its source, without the semicolons and blank space around it. -/
def statementText (source : List Char) (statement : Script.Node) : List Char :=
  trimEnd (dropSemicolons (trim (statement.span.slice source)))

/-- The statements that are not empty. -/
def nonEmptyStatements (statements : List Script.Node) : List Script.Node :=
  statements.filter fun statement => statement.kind != .empty

/-- Whether the node is a member of an object, of whatever form. -/
def isMember (node : Script.Node) : Bool :=
  match node.kind with
  | .member _ | .index _ => true
  | _ => false

/-- Whether the expression is a name or a member, possibly with optional links. -/
def isReference (expression : Script.Node) : Bool :=
  match expression with
  | .mk (.identifier _) _ _ => true
  | .mk .chain _ [inner] => isMember inner
  | expression => isMember expression

/-- Whether the expression is a function. -/
def isFunction (expression : Script.Node) : Bool :=
  match expression.kind with
  | .arrow _ _ | .function _ _ _ => true
  | _ => false

/-- The shape of a source without blank space around it. -/
def ofSource (source : List Char) : Handler :=
  match wholeExpression? source with
  | some expression =>
    let inner := expression.withoutParens
    if isFunction inner then .functionLiteral (String.ofList source)
    else if isReference inner then .reference (String.ofList source)
    else .inlineStatement (String.ofList source)
  | none =>
    match (program? source).map Node.statements with
    -- What can be read in neither way is left to the step that qualifies names, which reports it.
    | none | some [] => .inlineStatement (String.ofList source)
    | some (first :: rest) =>
      let texts := (nonEmptyStatements (first :: rest)).map (statementText source)
      .statements ((texts.filter fun text => !text.isEmpty).map String.ofList)

/-- The shape of a handler as it is written. -/
def classify (content : String) : Handler :=
  ofSource (trim content.toList)

end Handler

end MiniApp
