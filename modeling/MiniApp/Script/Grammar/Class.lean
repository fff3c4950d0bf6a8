import MiniApp.Script.Grammar.Function

/-!
# Classes

The elements of a class are methods, fields and blocks that run once. Some names are reserved: a
field called `constructor`, a static element called `prototype`, and a constructor that is a getter,
a setter, asynchronous or a generator.
-/

set_option autoImplicit false

namespace MiniApp.Script.Reader

variable (recur : Recur)

/-- The key of a class element, and whether it is computed. -/
def classKey : Reader (Node × Bool) := do
  if ← isAtPrivateName then return (← privateName, false) else propertyKey recur

/-- The name that a key which is not computed gives. A string gives what is between its quotes. -/
def keyName? (key : Node) (computed : Bool) : Option String :=
  if computed then none
  else match key.kind with
    | .word name => some name
    | .string text => some (String.ofList (text.toList.drop 1).dropLast)
    | _ => none

/-- Whether the current token is the word and the next one makes it a word before a key. -/
def isBeforeKey (name : String) (sameLine : Bool) (also : Token → Bool) : Reader Bool := do
  if ← isAtWord name then
    isNext fun next => (startsKey next || also next) && !(sameLine && next.onNewLine)
  else return false

/-- A block of a class that runs once. -/
def staticBlock (start : Nat) : Reader Node := do
  -- In the block `await` is no name, and there is nothing to return from.
  let statements ←
    within (fun _ => ⟨true, true, false, false⟩) (statementsInBraces recur)
  node start .staticBlock statements

/-- A field from behind its key: a value if an equals sign follows, and the end of the field. -/
def fieldFrom (start : Nat) (isStatic computed isAccessor : Bool) (key : Node) : Reader Node := do
  let value ←
    if ← eat (.assign .plain) then
      pure [← within (insideFunction false false) (recur .assignment)]
    else pure []
  -- The semicolon behind it is not a part of the field.
  let field ← node start (.field isStatic computed isAccessor) (key :: value)
  semicolon
  return field

/-- An element of a class, or none for a lone semicolon. -/
def classElement : Reader (Option Node) := do
  if ← eat .semicolon then return none
  let start ← start
  let isStar := fun (token : Token) => token.isMark (.binary .multiply)
  let isStatic ← isBeforeKey "static" false fun next => isStar next || next.isMark .braceL
  if isStatic then advance
  if isStatic && (← isAt .braceL) then return some (← staticBlock recur start)
  let isAccessor ← isBeforeKey "accessor" true fun _ => false
  if isAccessor then advance
  -- Behind `accessor` the words of methods are keys.
  let words ← if isAccessor then pure ⟨.plain, false, false⟩ else methodWords
  let (key, computed) ← classKey recur
  let name := keyName? key computed
  require (!(isStatic && name == some "prototype"))
  let isPlain := words.kind = .plain && !words.isAsync && !words.isGenerator
  if !isPlain || (!isAccessor && (← isAt .parenL)) then
    require (isPlain || isStatic || name != some "constructor")
    methodFrom recur start words.kind isStatic computed words.isAsync words.isGenerator key
  else
    require (name != some "constructor")
    fieldFrom recur start isStatic computed isAccessor key

/-- A class. Its name may be missing when `nameless`. -/
def classLike (isDeclaration nameless : Bool) : Reader Node := do
  let start ← start
  expectWord "class"
  let hasName := ((← token).variableName? (← get).setting).isSome
  require (hasName || nameless)
  let name ← if hasName then pure [← binding] else pure []
  let heritageStart ← Reader.start
  let heritage ←
    if ← eatWord "extends" then
      let base ← recur .leftHand
      pure [← node heritageStart .heritage [base]]
    else pure []
  expect .braceL
  let elements ← itemsUntil (isAt .braceR) (classElement recur)
  expect .braceR
  node start (.classLike isDeclaration) (name ++ heritage ++ elements.filterMap id)

end MiniApp.Script.Reader
