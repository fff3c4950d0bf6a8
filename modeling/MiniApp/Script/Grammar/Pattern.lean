import MiniApp.Script.Grammar.Basic

/-!
# Declared patterns and property keys

What a declaration binds: a name, or a pattern that takes an array or an object apart. The keys
of object patterns are those of object literals and classes as well.
-/

set_option autoImplicit false

namespace MiniApp.Script.Reader

variable (recur : Recur)

/-- An expression without commas, in a place where `in` is an operator. -/
def value : Reader Node :=
  withIn (recur .assignment)

/-- The key of a property, and whether it is computed: a word, a string, a number, or an
expression in square brackets. -/
def propertyKey : Reader (Node × Bool) := do
  match (← token).shape with
  | .word name _ => return (← leaf (.word name), false)
  | .string text => return (← leaf (.string text), false)
  | .number text => return (← leaf (.number text), false)
  | .bigint text => return (← leaf (.bigint text), false)
  | _ =>
    expect .bracketL
    let key ← value recur
    expect .bracketR
    return (key, true)

/-- The target, with a default value if an equals sign follows. -/
def withDefault (start : Nat) (target : Node) : Reader Node := do
  if ← eat (.assign .plain) then
    let default ← value recur
    node start .withDefault [target, default]
  else return target

/-- A declared target that may have a default value. -/
def bindingElement : Reader Node := do
  let start ← start
  withDefault recur start (← recur .target)

/-- Whether the node is the rest of a pattern. -/
def isRest (node : Node) : Bool :=
  node.kind = .rest

/-- The part of a pattern behind three points. -/
def rest (target : Reader Node) : Reader Node := do
  let start ← start
  expect .ellipsis
  let target ← target
  node start .rest [target]

/-- The parts of a pattern up to its closing mark. Nothing may follow a rest, not even a comma. -/
def patternParts (close : Mark) (part : Reader Node) : Reader (List Node) := do
  let (parts, endsInComma) ← separated close part
  require (!parts.dropLast.any isRest && !(endsInComma && parts.getLast?.any isRest))
  return parts

/-- A pattern that takes an array apart. -/
def arrayPattern : Reader Node := do
  let start ← start
  expect .bracketL
  let elements ← patternParts .bracketR do
    if ← isAt .comma then absent
    else if ← isAt .ellipsis then rest (recur .target)
    else bindingElement recur
  node start .arrayPattern elements

/-- A property of a pattern that takes an object apart: a key with a target behind a colon, or a
name that is key and target at once. -/
def bindingProperty : Reader Node := do
  let first ← token
  if first.isMark .ellipsis then rest binding
  else
    -- Without a colon the key itself has to be a name that can be declared.
    let name := first.variableName? (← get).setting
    let (key, computed) ← propertyKey recur
    if ← eat .colon then
      let target ← bindingElement recur
      node first.start (.property computed) [key, target]
    else
      match name with
      | some name => withDefault recur first.start (.mk (.binding name) key.span [])
      | none => failure

/-- A pattern that takes an object apart. -/
def objectPattern : Reader Node := do
  let start ← start
  expect .braceL
  let properties ← patternParts .braceR (bindingProperty recur)
  node start .objectPattern properties

/-- What a declaration binds. -/
def declaredTarget : Reader Node := do
  if ← isAt .bracketL then arrayPattern recur
  else if ← isAt .braceL then objectPattern recur
  else binding

/-- The parameters of a function, in parentheses. -/
def parameters : Reader Node := do
  let start ← start
  expect .parenL
  let targets ← patternParts .parenR do
    if ← isAt .ellipsis then rest (recur .target) else bindingElement recur
  node start .parameters targets

end MiniApp.Script.Reader
