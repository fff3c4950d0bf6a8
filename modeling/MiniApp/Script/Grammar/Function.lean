import MiniApp.Script.Grammar.Pattern

/-!
# Functions

The parameters and the body of a function fix what `await`, `yield` and `return` mean inside. The
name of a function expression is read with the meaning inside the function, that of a declaration
with the meaning outside.
-/

set_option autoImplicit false

namespace MiniApp.Script.Reader

variable (recur : Recur)

/-- The setting inside a function. -/
def insideFunction (isAsync isGenerator : Bool) (setting : Setting) : Setting :=
  { setting with allowsIn := true, allowsAwait := isAsync, allowsYield := isGenerator }

/-- Statements up to a closing brace, which is taken. -/
def statementsInBraces : Reader (List Node) := do
  expect .braceL
  let statements ← itemsUntil (isAt .braceR) (recur (.statement false))
  expect .braceR
  return statements

/-- The body of a function, in braces. -/
def functionBody : Reader Node := do
  let start ← start
  let statements ←
    within (fun setting => { setting with allowsReturn := true, allowsIn := true })
      (statementsInBraces recur)
  node start .body (markDirectives statements)

/-- A function from its parameters on. The node starts at `start`, and `name` is its name if it
has one. -/
def functionFrom (start : Nat) (kind : FunctionKind) (isAsync isGenerator : Bool)
    (name : List Node) : Reader Node :=
  within (insideFunction isAsync isGenerator) do
    let parameters ← parameters recur
    let body ← functionBody recur
    node start (.function kind isAsync isGenerator) (name ++ [parameters, body])

/-- A function from the word `function` on, which `start` may precede by `async`. A declaration
needs a name unless `nameless` allows none. -/
def functionLike (start : Nat) (kind : FunctionKind) (isAsync nameless : Bool) : Reader Node := do
  expectWord "function"
  let isGenerator ← eat (.binary .multiply)
  -- In the name of an expression `await` and `yield` mean what they mean inside the function.
  let inside := if kind = .expression then insideFunction isAsync isGenerator else id
  let name ←
    if nameless && (← isAt .parenL) then pure []
    else do pure [← within inside binding]
  functionFrom recur start kind isAsync isGenerator name

/-- Whether the tokens here are `async function` on one line. -/
def isAtAsyncFunction : Reader Bool := do
  if ← isAtWord "async" then
    isNext fun next => next.isWord "function" && !next.onNewLine
  else return false

/-- A function expression, which may be asynchronous and may have no name. -/
def functionExpression : Reader Node := do
  let start ← start
  let isAsync ← eatWord "async"
  functionLike recur start .expression isAsync true

/-- A function declaration. -/
def functionDeclaration (nameless : Bool) : Reader Node := do
  let start ← start
  let isAsync ← eatWord "async"
  functionLike recur start .declaration isAsync nameless

/-- A method from its parameters on, behind `key`. A getter has no parameter, and a setter has
one that is no rest. -/
def methodFrom (start : Nat) (kind : MethodKind) (isStatic computed isAsync isGenerator : Bool)
    (key : Node) : Reader Node := do
  -- The function of a method starts at its parenthesis, behind the key.
  let paren ← Reader.start
  let function ← functionFrom recur paren .method isAsync isGenerator []
  let given := (function.parts.head?.map Node.parts).getD []
  require (match kind with
    | .plain => true
    | .getter => given.isEmpty
    | .setter => given.length == 1 && !given.any isRest)
  node start (.method kind isStatic computed) [key, function]

/-- The words before a key that change what the property is. -/
structure MethodWords where
  kind : MethodKind
  isAsync : Bool
  isGenerator : Bool

/-- Whether a token can start a key, as it must behind a word that changes what a property is. -/
def startsKey (token : Token) : Bool :=
  match token.shape with
  | .word _ _ | .string _ | .number _ | .bigint _ | .privateName _ => true
  | .mark .bracketL => true
  | _ => false

/-- The words `get`, `set` and `async` and the star before a key. Such a word is itself the key
unless another key follows it, behind `async` on the same line. -/
def methodWords : Reader MethodWords := do
  if (← isAtWord "get") && (← isNext startsKey) then
    advance
    return ⟨.getter, false, false⟩
  else if (← isAtWord "set") && (← isNext startsKey) then
    advance
    return ⟨.setter, false, false⟩
  else
    let isAsync := (← isAtWord "async") && (← isNext fun next =>
      (startsKey next || next.isMark (.binary .multiply)) && !next.onNewLine)
    if isAsync then advance
    let isGenerator ← eat (.binary .multiply)
    return ⟨.plain, isAsync, isGenerator⟩

end MiniApp.Script.Reader
