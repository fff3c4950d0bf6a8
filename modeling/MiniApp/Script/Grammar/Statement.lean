import MiniApp.Script.Grammar.Expression

/-!
# Statements

A statement may be the body of another one. There a declaration of variables with block scope, a
class, and a function that is asynchronous or a generator are refused; other functions are not.

Where the words `let`, `using` and `async` open a declaration depends on the token behind them; they
are names otherwise.
-/

set_option autoImplicit false

namespace MiniApp.Script.Reader

variable (recur : Recur)

/-- Statements between braces. -/
def block : Reader Node := do
  let start ← start
  let statements ← statementsInBraces recur
  node start .block statements

/-- An expression in parentheses, as the head of a statement. -/
def condition : Reader Node := do
  expect .parenL
  let condition ← withIn (recur .expression)
  expect .parenR
  return condition

/-! ### Declarations of variables -/

/-- One declared target with its value. The value may be missing where `lenient`, and after a
plain name unless it is a constant. -/
def declarator (kind : VariableKind) (lenient : Bool) : Reader Node := do
  let start ← start
  -- What is disposed of at the end of its block has one plain name.
  let target ←
    if kind = .using || kind = .awaitUsing then binding else recur .target
  if ← eat (.assign .plain) then
    let value ← recur .assignment
    node start .declarator [target, value]
  else
    let isName := match target.kind with
      | .binding _ => true
      | _ => false
    require (lenient || (isName && (kind = .var || kind = .let)))
    node start .declarator [target]

/-- A declaration of variables from its word on, without the end of the statement. -/
def variableDeclaration (kind : VariableKind) (lenient : Bool) : Reader Node := do
  let start ← start
  advance
  if kind = .awaitUsing then advance
  let first ← declarator recur kind lenient
  let rest ← itemsUntil (do return !(← isAt .comma)) do
    expect .comma
    declarator recur kind lenient
  node start (.variableDeclaration kind) (first :: rest)

/-- Whether a token can be a declared name on the line of the word before it. -/
def namesOnSameLine (token : Token) : Bool :=
  !token.onNewLine && (token.variableName? ⟨false, false, false, false⟩).isSome

/-- The word here that declares variables with the token behind it, if it is `using` or
`await using` before a name on the same line. -/
def usingKind? (names : Token → Bool) : Reader (Option VariableKind) := do
  if ← isAtWord "using" then
    return if ← isNext names then some .using else none
  else if (← isAtWord "await") && (← get).setting.allowsAwait then
    let isUsing ← ahead do
      advance
      let next ← token
      require (next.isWord "using" && !next.onNewLine)
      isNext names
    return if isUsing = some true then some .awaitUsing else none
  else return none

/-- Whether the token makes `let` before it the left operand of an operator. -/
def goesOnWithOperator (token : Token) : Bool :=
  match token.shape with
  | .mark (.assign _) | .mark (.binary _) => true
  | _ => token.isWord "in" || token.isWord "instanceof"

/-- A declaration of variables as a statement. -/
def variableStatement (kind : VariableKind) : Reader Node := do
  let start ← start
  let declaration ← variableDeclaration recur kind false
  semicolon
  node start (.variableDeclaration kind) declaration.parts

/-! ### Loops -/

/-- The condition or the step in the head of a loop, which may be missing before `close`. -/
def loopPart (close : Mark) : Reader Node := do
  let part ← if ← isAt close then absent else withIn (recur .expression)
  expect close
  return part

/-- A counting loop from behind what starts it. -/
def countingLoop (start : Nat) (first : Node) : Reader Node := do
  expect .semicolon
  let condition ← loopPart recur .semicolon
  let step ← loopPart recur .parenR
  let body ← recur (.statement true)
  node start .forStatement [first, condition, step, body]

/-- A loop over the keys or values of an object from the word behind its target on, or nothing if
no such word stands here. -/
def eachLoop (start : Nat) (isAwait : Bool) (target : Reader Node) : Reader (Option Node) := do
  if ← isAtWord "of" then
    let target ← target
    advance
    let object ← withIn (recur .assignment)
    expect .parenR
    let body ← recur (.statement true)
    return some (← node start (.forOf isAwait) [target, object, body])
  else if !isAwait && (← isAtWord "in") then
    let target ← target
    advance
    let object ← withIn (recur .expression)
    expect .parenR
    let body ← recur (.statement true)
    return some (← node start .forIn [target, object, body])
  else return none

/-- The word that declares variables in the head of a loop, if one stands there. -/
def loopVariableKind? : Reader (Option VariableKind) := do
  if ← isAtWord "var" then return some .var
  else if ← isAtWord "const" then return some .const
  else if ← isAtWord "let" then
    -- `let` is a name in front of `in` and of what starts no target.
    let declares ← isNext fun next =>
      next.isMark .braceL || next.isMark .bracketL || (next.word?.isSome && !next.isWord "in")
    return if declares then some .let else none
  -- `for (using of …)` goes over values with a variable called `using`.
  else usingKind? fun next => namesOnSameLine next && !next.isWord "of"

/-- Whether every declarator of the declaration has the value that a declaration elsewhere needs. -/
def hasNeededValues (kind : VariableKind) (declaration : Node) : Bool :=
  declaration.parts.all fun declarator =>
    match declarator.parts with
    | [.mk (.binding _) _ _] => kind = .var || kind = .let
    | [_] => false
    | _ => true

/-- A loop with `for`. Its head starts with a declaration, an expression or nothing. A target may
not be `async` before `of`, nor start with `let`. -/
def forLoop : Reader Node := do
  let start ← start
  expectWord "for"
  let isAwait ← eatWord "await"
  require (!isAwait || (← get).setting.allowsAwait)
  expect .parenL
  if ← isAt .semicolon then
    require !isAwait
    countingLoop recur start (← absent)
  else
    match ← loopVariableKind? with
    | some kind =>
      let declaration ← withoutIn (variableDeclaration recur kind true)
      match ← eachLoop recur start isAwait (return declaration) with
      | some loop => return loop
      | none =>
        -- Only now is it clear that the loop counts and its constants need values.
        require (!isAwait && hasNeededValues kind declaration)
        countingLoop recur start declaration
    | none =>
      let first ← token
      let expression ← withoutIn (recur .expression)
      let isOf ← isAtWord "of"
      require !(isOf && first.isWord "let")
      require !(isOf && !isAwait && first.isWord "async" &&
        expression.kind = .identifier "async")
      match ← eachLoop recur start isAwait (ofOption expression.toTarget?) with
      | some loop => return loop
      | none =>
        require !isAwait
        countingLoop recur start expression

/-- A loop with `while`. -/
def whileLoop : Reader Node := do
  let start ← start
  expectWord "while"
  let condition ← condition recur
  let body ← recur (.statement true)
  node start .whileStatement [condition, body]

/-- A loop whose condition stands behind its body. A semicolon may follow. -/
def doLoop : Reader Node := do
  let start ← start
  expectWord "do"
  let body ← recur (.statement true)
  expectWord "while"
  let condition ← condition recur
  let _ ← eat .semicolon
  node start .doWhile [body, condition]

/-! ### Other statements -/

/-- A statement with `if`. -/
def ifStatement : Reader Node := do
  let start ← start
  expectWord "if"
  let condition ← condition recur
  let yes ← recur (.statement true)
  let no ← if ← eatWord "else" then pure [← recur (.statement true)] else pure []
  node start .ifStatement (condition :: yes :: no)

/-- A statement with `with`. -/
def withStatement : Reader Node := do
  let start ← start
  expectWord "with"
  let object ← condition recur
  let body ← recur (.statement true)
  node start .withStatement [object, body]

/-- A jump to the start or the end of a statement, which a label on the same line may name. -/
def jump (kind : Kind) : Reader Node := do
  let start ← start
  advance
  let label ←
    if ← atStatementEnd then pure []
    else do
      require ((← token).variableName? (← get).setting).isSome
      pure [← word]
  semicolon
  node start kind label

/-- A return from a function. -/
def returnStatement : Reader Node := do
  let start ← start
  require (← get).setting.allowsReturn
  advance
  let value ← if ← atStatementEnd then pure [] else pure [← withIn (recur .expression)]
  semicolon
  node start .returnStatement value

/-- A statement with `throw`, whose value stands on the same line. -/
def throwStatement : Reader Node := do
  let start ← start
  advance
  require !(← token).onNewLine
  let value ← withIn (recur .expression)
  semicolon
  node start .throwStatement [value]

/-- One case of a choice between statements. -/
def switchCase : Reader Node := do
  let start ← start
  let isEnd : Reader Bool := do
    return (← isAtWord "case") || (← isAtWord "default") || (← isAt .braceR)
  if ← eatWord "default" then
    expect .colon
    node start .switchDefault (← itemsUntil isEnd (recur (.statement false)))
  else
    expectWord "case"
    let test ← withIn (recur .expression)
    expect .colon
    node start .switchCase (test :: (← itemsUntil isEnd (recur (.statement false))))

/-- A choice between statements. -/
def switchStatement : Reader Node := do
  let start ← start
  expectWord "switch"
  let value ← condition recur
  expect .braceL
  let cases ← itemsUntil (isAt .braceR) (switchCase recur)
  expect .braceR
  node start .switchStatement (value :: cases)

/-- A statement with `try`, which has a handler or a finalizer. -/
def tryStatement : Reader Node := do
  let start ← start
  expectWord "try"
  let body ← block recur
  let handlerStart ← Reader.start
  let handler ←
    if ← eatWord "catch" then
      let parameter ←
        if ← eat .parenL then
          let target ← recur .target
          expect .parenR
          pure [target]
        else pure []
      let body ← block recur
      pure [← node handlerStart .catchClause (parameter ++ [body])]
    else pure []
  let finalizerStart ← Reader.start
  let finalizer ←
    if ← eatWord "finally" then
      let body ← block recur
      pure [← node finalizerStart .finallyClause [body]]
    else pure []
  require (!handler.isEmpty || !finalizer.isEmpty)
  node start .tryStatement (body :: (handler ++ finalizer))

/-- An expression as a statement, or a statement behind a label. -/
def expressionStatement : Reader Node := do
  let start ← start
  let expression ← withIn (recur .expression)
  match expression with
  | .mk (.identifier name) span [] =>
    -- A name in front of a colon is a label.
    if ← eat .colon then
      let body ← recur (.statement true)
      node start .labeled [.mk (.word name) span [], body]
    else
      semicolon
      node start .expressionStatement [expression]
  | _ =>
    semicolon
    node start .expressionStatement [expression]

/-- A function declared as a statement. -/
def functionStatement (isBody : Bool) : Reader Node := do
  let function ← functionDeclaration recur false
  let isPlain := function.kind = .function .declaration false false
  require (isPlain || !isBody)
  return function

/-- A statement that starts with `let`, which declares variables unless the token behind it makes
it a name. Behind it as a name and an operator no comma goes on with the expression. -/
def letStatement (isBody : Bool) : Reader Node := do
  if ← isNext goesOnWithOperator then
    let start ← start
    let expression ← recur .assignment
    semicolon
    node start .expressionStatement [expression]
  else if ← isNext fun next =>
      next.isMark .dot || next.isMark .parenL || next.isMark .semicolon ||
        (isBody && !next.isMark .bracketL) then
    expressionStatement recur
  else
    require !isBody
    variableStatement recur .let

/-- A statement that starts with a word, written without escapes. -/
def wordStatement (name : String) (isBody : Bool) : Reader Node := do
  match name with
  | "if" => ifStatement recur
  | "for" => forLoop recur
  | "while" => whileLoop recur
  | "do" => doLoop recur
  | "continue" => jump .continueStatement
  | "break" => jump .breakStatement
  | "with" => withStatement recur
  | "switch" => switchStatement recur
  | "throw" => throwStatement recur
  | "try" => tryStatement recur
  | "return" => returnStatement recur
  | "debugger" =>
    let start ← start
    advance
    semicolon
    node start .debugger []
  | "class" =>
    require !isBody
    classLike recur true false
  | "function" => functionStatement recur isBody
  | "var" => variableStatement recur .var
  | "const" =>
    require !isBody
    variableStatement recur .const
  | "let" => letStatement recur isBody
  | _ =>
    -- Any other word starts an expression, unless a function or a declaration follows it.
    if ← isAtAsyncFunction then functionStatement recur isBody
    else
      match ← usingKind? namesOnSameLine with
      | some kind =>
        require !isBody
        variableStatement recur kind
      | none => expressionStatement recur

end MiniApp.Script.Reader
