import MiniApp.Script.Operator

/-!
# Syntax trees of JavaScript

A tree is a `Node`: what kind of construct it is, where it stands, and its parts in the order in
which they are written. A part that may be left out and is left out is `Kind.absent` where its
place would otherwise be ambiguous, and missing elsewhere.

Positions count the characters from a place to the *end* of the text. So a tree does not depend
on what stands before the text it was read from, and a place nearer to the end has a smaller
number. Parentheses are nodes; comments and blank space are not.
-/

set_option autoImplicit false

namespace MiniApp.Script

/-- The extent of a piece of a text: the number of characters from its first character to the
end of the text, and the number of characters behind it. -/
structure Span where
  start : Nat
  stop : Nat
  deriving DecidableEq, Repr, Inhabited

/-- The characters of `text` inside the span. -/
def Span.slice (span : Span) (text : List Char) : List Char :=
  (text.drop (text.length - span.start)).take (span.start - span.stop)

/-- The word that opens a declaration of variables. -/
inductive VariableKind
  | var | let | const | using | awaitUsing
  deriving DecidableEq, Repr

/-- Where a function is written: as a statement, as an expression, or as a method. -/
inductive FunctionKind
  | declaration | expression | method
  deriving DecidableEq, Repr

/-- How a method is called: by its name, when a member is read, or when it is assigned. -/
inductive MethodKind
  | plain | getter | setter
  deriving DecidableEq, Repr

/-- The constructs of the language. The comment behind a constructor lists its parts. -/
inductive Kind
  -- Names
  /-- A name that is read or assigned. -/
  | identifier (name : String)
  /-- A name that stands for a property and its value at once, as in `{ name }`. -/
  | shorthand (name : String)
  /-- A name that is declared. -/
  | binding (name : String)
  /-- A name that refers to no variable: a member, a property key, a label. -/
  | word (name : String)
  /-- A name written behind `#`. -/
  | privateName (name : String)
  -- Literals; a text is kept as it is written
  | this | super | null
  | boolean (value : Bool)
  | number (text : String)
  | bigint (text : String)
  | string (text : String)
  | regex (text : String)
  /-- A piece of a template between its expressions. -/
  | chunk (text : String)
  /-- chunks and expressions in turn -/
  | template
  -- Expressions
  /-- A part that is left out. -/
  | absent
  /-- elements, spreads and absent parts -/
  | array (endsInComma : Bool)
  /-- properties, shorthands, methods, spreads -/
  | object (endsInComma : Bool)
  /-- expression -/
  | spread
  /-- key, then value or target -/
  | property (computed : Bool)
  /-- key, then function -/
  | method (kind : MethodKind) (isStatic computed : Bool)
  /-- shorthand, then default value; only until the object becomes a pattern -/
  | coverDefault
  /-- binding if named, parameters, body -/
  | function (kind : FunctionKind) (isAsync isGenerator : Bool)
  /-- parameters, then a body or, when `concise`, an expression -/
  | arrow (isAsync concise : Bool)
  /-- targets, the last of which may be a rest -/
  | parameters
  /-- directives, then statements -/
  | body
  /-- binding if named, heritage if any, elements -/
  | classLike (isDeclaration : Bool)
  /-- expression -/
  | heritage
  /-- key, then value if any -/
  | field (isStatic computed isAccessor : Bool)
  /-- statements -/
  | staticBlock
  /-- object, then word or private name -/
  | member (isOptional : Bool)
  /-- object, then expression -/
  | index (isOptional : Bool)
  /-- callee, then arguments -/
  | call (isOptional : Bool)
  /-- callee, then arguments -/
  | new
  /-- tag, then template -/
  | tagged
  /-- the whole of an expression with an optional link -/
  | chain
  /-- arguments -/
  | importCall
  | importMeta | newTarget
  /-- target -/
  | update (op : UpdateOp) (isPrefix : Bool)
  /-- operand -/
  | unary (op : UnaryOp)
  /-- left, right -/
  | binary (op : BinaryOp)
  /-- left, right -/
  | logical (op : LogicalOp)
  /-- private name, right -/
  | privateIn
  /-- condition, then, else -/
  | conditional
  /-- target, value -/
  | assign (op : AssignOp)
  /-- expressions -/
  | sequence
  /-- operand -/
  | await
  /-- operand if any -/
  | yield (isDelegate : Bool)
  /-- expression -/
  | parenthesized
  -- Patterns
  /-- targets, absent parts and a rest -/
  | arrayPattern
  /-- properties, shorthands or bindings, and a rest -/
  | objectPattern
  /-- target, then default value -/
  | withDefault
  /-- target -/
  | rest
  -- Statements
  /-- string -/
  | directive
  /-- expression -/
  | expressionStatement
  /-- statements -/
  | block
  | empty | debugger
  /-- condition, then, else if any -/
  | ifStatement
  /-- start, condition, step (each may be absent), body -/
  | forStatement
  /-- target or variables, object, body -/
  | forIn
  /-- target or variables, iterable, body -/
  | forOf (isAwait : Bool)
  /-- condition, body -/
  | whileStatement
  /-- body, condition -/
  | doWhile
  /-- label if any -/
  | continueStatement
  /-- label if any -/
  | breakStatement
  /-- value if any -/
  | returnStatement
  /-- value -/
  | throwStatement
  /-- object, body -/
  | withStatement
  /-- value, cases -/
  | switchStatement
  /-- test, statements -/
  | switchCase
  /-- statements -/
  | switchDefault
  /-- label, statement -/
  | labeled
  /-- block, handler if any, finalizer if any -/
  | tryStatement
  /-- parameter if any, block -/
  | catchClause
  /-- block -/
  | finallyClause
  /-- declarators -/
  | variableDeclaration (kind : VariableKind)
  /-- target, value if any -/
  | declarator
  -- Modules
  /-- specifiers, source, attributes -/
  | importDeclaration
  /-- imported name if it differs, binding -/
  | importSpecifier
  /-- binding -/
  | importNamespace
  /-- key, value -/
  | importAttribute
  /-- a declaration, or specifiers with the source if any and attributes -/
  | exportNamed
  /-- local name, exported name if it differs -/
  | exportSpecifier
  /-- declaration or expression -/
  | exportDefault
  /-- exported name if any, source, attributes -/
  | exportAll
  /-- directives, then statements -/
  | program
  deriving DecidableEq, Repr

/-- A construct with its place in the text and its parts. -/
inductive Node
  | mk (kind : Kind) (span : Span) (parts : List Node)

namespace Node

/-- What kind of construct the node is. -/
def kind : Node → Kind
  | mk kind _ _ => kind

/-- Where the node stands. -/
def span : Node → Span
  | mk _ span _ => span

/-- The parts of the node in the order in which they are written. -/
def parts : Node → List Node
  | mk _ _ parts => parts

/-- The node inside any number of parentheses. -/
def withoutParens : Node → Node
  | mk .parenthesized _ [inner] => inner.withoutParens
  | node => node

/-- A node that is no pair of parentheses is inside none. -/
theorem withoutParens_eq_self {node : Node}
    (h : ∀ span inner, node ≠ mk .parenthesized span [inner]) : node.withoutParens = node := by
  unfold withoutParens
  split
  · exact absurd rfl (h _ _)
  · rfl

/-- Whether the node is a string that stands as a statement of its own, without parentheses. -/
def isBareString : Node → Bool
  | mk .expressionStatement _ [mk (.string _) _ _] => true
  | _ => false

end Node

/-- The statements with those at the start that are bare strings turned into directives. -/
def markDirectives : List Node → List Node
  | [] => []
  | node :: rest =>
    if node.isBareString then .mk .directive node.span node.parts :: markDirectives rest
    else node :: rest

end MiniApp.Script
