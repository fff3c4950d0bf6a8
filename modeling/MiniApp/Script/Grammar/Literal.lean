import MiniApp.Script.Grammar.Function

/-!
# Arrays, objects, templates and regular expressions

The literals that contain expressions, and regular expressions. An object literal may hold
`{ name = value }`, which makes sense only once it has become a pattern.
-/

set_option autoImplicit false

namespace MiniApp.Script.Reader

variable (recur : Recur)

/-- An expression behind three points. -/
def spread : Reader Node := do
  let start ← start
  expect .ellipsis
  let inner ← value recur
  node start .spread [inner]

/-- An expression or a spread. -/
def element : Reader Node := do
  if ← isAt .ellipsis then spread recur else value recur

/-- Arguments in parentheses. -/
def arguments : Reader (List Node) := do
  expect .parenL
  return (← separated .parenR (element recur)).1

/-- An array literal. A comma without an element before it leaves an element out. -/
def arrayLiteral : Reader Node := do
  let start ← start
  expect .bracketL
  let (elements, endsInComma) ← separated .bracketR do
    if ← isAt .comma then absent else element recur
  node start (.array endsInComma) elements

/-- A property of an object literal: a spread, a method, a key with a value, or a name that is
both at once. -/
def objectProperty : Reader Node := do
  if ← isAt .ellipsis then spread recur
  else
    let start ← start
    let words ← methodWords
    let keyToken ← token
    let (key, computed) ← propertyKey recur
    let isPlain := words.kind = .plain && !words.isAsync && !words.isGenerator
    if !isPlain || (← isAt .parenL) then
      methodFrom recur start words.kind false computed words.isAsync words.isGenerator key
    else if ← eat .colon then
      let value ← value recur
      node start (.property computed) [key, value]
    else
      -- Without a value the key itself has to be the name of a variable.
      match keyToken.variableName? (← get).setting with
      | none => failure
      | some name =>
        let shorthand := Node.mk (.shorthand name) key.span []
        if ← eat (.assign .plain) then
          let default ← value recur
          node start .coverDefault [shorthand, default]
        else return shorthand

/-- An object literal. -/
def objectLiteral : Reader Node := do
  let start ← start
  expect .braceL
  let (properties, endsInComma) ← separated .braceR (objectProperty recur)
  node start (.object endsInComma) properties

/-- Takes the current token again as what `rescan` makes of it. -/
def rescanned (rescan : Token → List Char → Option (Token × List Char)) : Reader Unit :=
  fun s => do
    let (token, rest) ← rescan s.token s.rest
    some ((), { s with token, rest })

/-- A template. An escape in it that stands for no character is allowed behind a tag. -/
def template (tagged : Bool) : Reader Node := do
  let start ← start
  let parts ← iterate (fun read => do
    match (← token).shape with
    | .chunk text valid isLast =>
      require (valid || tagged)
      let chunk ← leaf (.chunk text)
      if isLast then return .inr (chunk :: read)
      let inner ← withIn (recur .expression)
      require (← isAt .braceR)
      -- The brace that ends the expression opens the next piece.
      rescanned rescanChunk
      return .inl (inner :: chunk :: read)
    | _ => failure) []
  node start .template parts.reverse

/-- A regular expression, whose slash has been taken for a division. -/
def regex : Reader Node := do
  rescanned rescanRegex
  match (← token).shape with
  | .regex text => leaf (.regex text)
  | _ => failure

end MiniApp.Script.Reader
