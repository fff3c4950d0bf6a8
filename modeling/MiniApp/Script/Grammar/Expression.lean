import MiniApp.Script.Grammar.Assignable
import MiniApp.Script.Grammar.Class
import MiniApp.Script.Grammar.Literal

/-!
# Expressions

From the operands up: what stands by itself, members and calls, operators with one operand,
operators with two by their strength, arrow functions and assignments, and commas.

An arrow function starts like other expressions. Its head, up to the arrow, is therefore tried
first, and what follows a head that has been read cannot be anything else.
-/

set_option autoImplicit false

namespace MiniApp.Script.Reader

variable (recur : Recur)

/-! ### Operands -/

/-- An expression in parentheses. -/
def parenthesized : Reader Node := do
  let start ← start
  expect .parenL
  let inner ← withIn (recur .expression)
  expect .parenR
  node start .parenthesized [inner]

/-- The word `super`, which only a member or a call may follow. -/
def superWord : Reader Node := do
  let super ← leaf .super
  require ((← isAt .dot) || (← isAt .bracketL) || (← isAt .parenL))
  return super

/-- An import that is an expression: the call with one or two arguments, or `import.meta`. -/
def importExpression : Reader Node := do
  let start ← start
  expectWord "import"
  if ← eat .dot then
    expectWord "meta"
    node start .importMeta []
  else
    expect .parenL
    let (arguments, _) ← separated .parenR (value recur)
    require (arguments.length == 1 || arguments.length == 2)
    node start .importCall arguments

/-- A construction with `new`, whose arguments may be missing, or `new.target`. -/
def newExpression : Reader Node := do
  let start ← start
  expectWord "new"
  if ← eat .dot then
    expectWord "target"
    node start .newTarget []
  else
    let callee ← recur .callee
    -- An import that is called cannot be constructed.
    require (callee.kind != .importCall)
    let arguments ← if ← isAt .parenL then arguments recur else pure []
    node start .new (callee :: arguments)

/-- An operand that starts with a word, written without escapes. -/
def wordOperand (name : String) : Reader Node := do
  match name with
  | "this" => leaf .this
  | "null" => leaf .null
  | "true" => leaf (.boolean true)
  | "false" => leaf (.boolean false)
  | "function" => functionExpression recur
  | "class" => classLike recur false true
  | "new" => newExpression recur
  | "super" => superWord
  | "import" => importExpression recur
  | _ => if ← isAtAsyncFunction then functionExpression recur else identifier

/-- An operand that stands by itself. -/
def primary : Reader Node := do
  match (← token).shape with
  | .word name false => wordOperand recur name
  | .word _ true => identifier
  | .number text => leaf (.number text)
  | .bigint text => leaf (.bigint text)
  | .string text => leaf (.string text)
  | .chunk _ _ _ => template recur false
  | .mark .parenL => parenthesized recur
  | .mark .bracketL => arrayLiteral recur
  | .mark .braceL => objectLiteral recur
  -- A slash that starts an operand starts a regular expression.
  | .mark (.binary .divide) | .mark (.assign (.binary .divide)) => regex
  | _ => failure

/-- An operand being built by what is written behind it, and whether an optional link is in it. -/
structure Linked where
  operand : Node
  inChain : Bool

/-- The name of a member: any word or a private name. -/
def memberName : Reader Node := do
  if ← isAtPrivateName then privateName else word

/-- The expression in square brackets that selects a member. -/
def memberIndex : Reader Node := do
  expect .bracketL
  let inner ← withIn (recur .expression)
  expect .bracketR
  return inner

/-- One more link behind an operand: a member, a template or, where `calls` allows them, a call or
an optional link. A template may not follow an optional link. -/
def link (start : Nat) (calls : Bool) (done : Linked) : Reader (Linked ⊕ Linked) := do
  let operand := done.operand
  match (← token).shape with
  | .mark .dot =>
    advance
    let name ← memberName
    return .inl ⟨← node start (.member false) [operand, name], done.inChain⟩
  | .mark .bracketL =>
    let inner ← memberIndex recur
    return .inl ⟨← node start (.index false) [operand, inner], done.inChain⟩
  | .chunk _ _ _ =>
    require (!done.inChain)
    let template ← template recur true
    return .inl ⟨← node start .tagged [operand, template], false⟩
  | .mark .questionDot =>
    require calls
    advance
    if ← isAt .parenL then
      let arguments ← arguments recur
      return .inl ⟨← node start (.call true) (operand :: arguments), true⟩
    else if ← isAt .bracketL then
      let inner ← memberIndex recur
      return .inl ⟨← node start (.index true) [operand, inner], true⟩
    else
      let name ← memberName
      return .inl ⟨← node start (.member true) [operand, name], true⟩
  | .mark .parenL =>
    if calls then
      let arguments ← arguments recur
      return .inl ⟨← node start (.call false) (operand :: arguments), done.inChain⟩
    else return .inr done
  | _ => return .inr done

/-- What the operator `new` constructs: members of an operand, but no calls. -/
def callee : Reader Node := do
  let start ← start
  let operand ← primary recur
  return (← iterate (link recur start false) ⟨operand, false⟩).operand

/-- Members and calls of an operand. -/
def leftHand : Reader Node := do
  let start ← start
  let operand ← primary recur
  let done ← iterate (link recur start true) ⟨operand, false⟩
  if done.inChain then node start .chain [done.operand] else return done.operand

/-! ### Operators -/

/-- The operator with one operand that a token writes. -/
def unaryOp? (token : Token) : Option UnaryOp :=
  match token.shape with
  | .mark (.binary .add) => some .plus
  | .mark (.binary .subtract) => some .minus
  | .mark .bang => some .not
  | .mark .tilde => some .complement
  | .word "typeof" false => some .typeOf
  | .word "void" false => some .void
  | .word "delete" false => some .delete
  | _ => none

/-- The operator that changes its operand in place and that a token writes. -/
def updateOp? (token : Token) : Option UpdateOp :=
  match token.shape with
  | .mark (.update op) => some op
  | _ => none

/-- Goes on with the value, if there is one. -/
def ofOption {α : Type} (a : Option α) : Reader α :=
  match a with
  | some a => pure a
  | none => failure

/-- An operand with the operators that change it in place. On the right such an operator stands
on the line of the operand. -/
def updated : Reader Node := do
  let start ← start
  match updateOp? (← token) with
  | some op =>
    advance
    let target ← ofOption (← recur .unary).toSimpleTarget?
    node start (.update op true) [target]
  | none =>
    let operand ← leftHand recur
    let next ← token
    match updateOp? next with
    | some op =>
      -- An operator on the next line belongs to the operand behind it.
      if next.onNewLine then return operand
      let target ← ofOption operand.toSimpleTarget?
      advance
      node start (.update op false) [target]
    | none => return operand

/-- An operand with the operators written directly at it. -/
def unary : Reader Node := do
  let start ← start
  let first ← token
  match unaryOp? first with
  | some op =>
    advance
    let operand ← recur .unary
    node start (.unary op) [operand]
  | none =>
    if first.isWord "await" && (← get).setting.allowsAwait then
      advance
      let operand ← recur .unary
      node start .await [operand]
    else updated recur

/-- The operator with two operands that a token writes in the setting. -/
def infixOp? (token : Token) (setting : Setting) : Option (BinaryOp ⊕ LogicalOp) :=
  match token.shape with
  | .mark (.binary op) => some (.inl op)
  | .mark (.logical op) => some (.inr op)
  | .word "in" false => if setting.allowsIn then some (.inl .isIn) else none
  | .word "instanceof" false => some (.inl .instanceOf)
  | _ => none

/-- Whether the node joins its operands by `&&` or `||`. -/
def isAndOr (node : Node) : Bool :=
  node.kind = .logical .and || node.kind = .logical .or

/-- Whether two operands may be joined: `??` mixes with `&&` and `||` only in parentheses, and an
operator with one operand may not stand before the base of a power. -/
def mayJoin (left : Node) : BinaryOp ⊕ LogicalOp → Node → Bool
  | .inl .power, _ =>
    match left.kind with
    | .unary _ | .await => false
    | _ => true
  | .inr .coalesce, right => !isAndOr left && !isAndOr right
  | _, _ => true

/-- A test whether an object has a private name. -/
def privateIn (strength : Nat) : Reader Node := do
  let start ← start
  let name ← privateName
  expectWord "in"
  let right ← recur (.operation strength)
  require (right.kind != .privateIn)
  node start .privateIn [name, right]

/-- Operands joined by operators that bind more strongly than `strength`. A power may also be of
the same strength, since powers are grouped from the right. -/
def operation (strength : Nat) : Reader Node := do
  let start ← start
  -- A private name is an operand only in front of `in`.
  let first ←
    if (← get).setting.allowsIn && (← isAtPrivateName) then privateIn recur strength
    else unary recur
  iterate (fun left => do
    match infixOp? (← token) (← get).setting with
    | none => return .inr left
    | some op =>
      let own := op.elim BinaryOp.strength LogicalOp.strength
      -- An operator that binds less strongly is left to the caller.
      if own < strength || (own == strength && op != .inl .power) then return .inr left
      advance
      let right ← recur (.operation own)
      require (mayJoin left op right)
      let kind := op.elim Kind.binary Kind.logical
      return .inl (← node start kind [left, right])) first

/-! ### Arrow functions and assignments -/

/-- The head of an arrow function: where it starts, whether it is asynchronous, and its
parameters. -/
structure ArrowHead where
  start : Nat
  isAsync : Bool
  parameters : Node

/-- A single parameter without parentheses. -/
def loneParameter : Reader Node := do
  let start ← start
  let parameter ← binding
  node start .parameters [parameter]

/-- The head of an arrow function, up to the arrow, which is not taken and stands on the line on
which the parameters end. -/
def arrowHead : Reader ArrowHead := do
  let start ← start
  -- `async` is a name of its own unless parameters follow on the same line.
  let isAsync := (← isAtWord "async") && (← isNext fun next =>
    !next.onNewLine && (next.isMark .parenL || next.word?.isSome))
  if isAsync then advance
  let parameters ←
    if ← isAt .parenL then
      within (fun setting => { setting with allowsAwait := setting.allowsAwait || isAsync })
        (parameters recur)
    else loneParameter
  let next ← token
  require (next.isMark .arrow && !next.onNewLine)
  return ⟨start, isAsync, parameters⟩

/-- An arrow function from its arrow on. -/
def arrowFrom (head : ArrowHead) : Reader Node := do
  expect .arrow
  -- A brace behind the arrow always opens a body.
  let hasBlock ← isAt .braceL
  let body ←
    within (fun setting => { setting with allowsAwait := head.isAsync, allowsYield := false })
      (if hasBlock then functionBody recur else recur .assignment)
  node head.start (.arrow head.isAsync !hasBlock) [head.parameters, body]

/-- Whether nothing can follow the word `yield` as its operand. -/
def endsYield (token : Token) : Bool :=
  token.onNewLine || token.shape = .finish || token.isWord "in" ||
    [.braceR, .bracketR, .parenR, .colon, .comma, .semicolon].any token.isMark

/-- The operator `yield`, whose operand may be missing. -/
def yieldExpression : Reader Node := do
  let start ← start
  advance
  if endsYield (← token) then node start (.yield false) []
  else
    let isDelegate ← eat (.binary .multiply)
    let operand ← recur .assignment
    node start (.yield isDelegate) [operand]

/-- The operator of an assignment that a token writes. -/
def assignOp? (token : Token) : Option AssignOp :=
  match token.shape with
  | .mark (.assign op) => some op
  | _ => none

/-- A choice by a condition, an assignment, or just operands and operators. -/
def choiceOrAssignment : Reader Node := do
  let start ← start
  let left ← operation recur 0
  match assignOp? (← token) with
  | some op =>
    -- Only a plain assignment takes arrays and objects apart.
    let target ← ofOption (if op = .plain then left.toTarget? else left.toSimpleTarget?)
    advance
    let right ← recur .assignment
    node start (.assign op) [target, right]
  | none =>
    if ← eat .question then
      let yes ← withIn (recur .assignment)
      expect .colon
      let no ← recur .assignment
      node start .conditional [left, yes, no]
    else return left

/-- An expression without commas. -/
def assignment : Reader Node := do
  if (← get).setting.allowsYield && (← isAtWord "yield") then yieldExpression recur
  else orElse (arrowHead recur) (arrowFrom recur) (choiceOrAssignment recur)

/-- Expressions separated by commas. -/
def expression : Reader Node := do
  let start ← start
  let first ← assignment recur
  if ← isAt .comma then
    let rest ← itemsUntil (do return !(← isAt .comma)) do
      expect .comma
      assignment recur
    node start .sequence (first :: rest)
  else return first

end MiniApp.Script.Reader
