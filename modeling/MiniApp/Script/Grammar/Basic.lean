import MiniApp.Script.Node
import MiniApp.Script.Token.Scan

/-!
# Reading by the grammar

A `Reader` takes tokens from the text and answers with what it read; it fails at the first
violation of the grammar. The state holds the current token and the text behind it, so that a
reader may look at one token without taking it.

The grammar is recursive through a few of its notions, the `Goal`s. A reader of a notion that
contains others takes a `Recur`, which reads any goal; the knot is tied in
`MiniApp.Script.Parse` with a bound on the depth.
-/

set_option autoImplicit false

namespace MiniApp.Script

/-- What the surroundings of a construct allow: the operator `in`, the words `await` and `yield`
as operators, and the statement `return`. -/
structure Setting where
  allowsIn : Bool
  allowsAwait : Bool
  allowsYield : Bool
  allowsReturn : Bool
  deriving DecidableEq, Repr

/-- Where a reader stands: the current token, the text behind it, where the token before ends,
and the setting. -/
structure State where
  token : Token
  rest : List Char
  lastStop : Nat
  setting : Setting

/-- A reader answers with what it read and where it then stands, or fails. -/
abbrev Reader := StateT State Option

/-- The notions of the grammar that contain each other. -/
inductive Goal
  /-- Expressions separated by commas. -/
  | expression
  /-- An expression without commas. -/
  | assignment
  /-- Operands joined by operators that bind more strongly than `strength`. -/
  | operation (strength : Nat)
  /-- An operand with the operators written directly at it. -/
  | unary
  /-- An operand without operators: members, calls and what they start from. -/
  | leftHand
  /-- What the operator `new` constructs. -/
  | callee
  /-- A pattern or a name that is declared. -/
  | target
  /-- A statement or declaration; a declaration may not be the only body of a statement. -/
  | statement (isBody : Bool)
  deriving DecidableEq, Repr

/-- A reader for every goal. -/
abbrev Recur := Goal → Reader Node

namespace Reader

variable {α β : Type}

/-- The current token. -/
def token : Reader Token := do return (← get).token

/-- Where the current token starts. -/
def start : Reader Nat := do return (← get).token.start

/-- Moves on to the next token. -/
def advance : Reader Unit := fun s => do
  let (token, rest) ← scan s.rest
  some ((), { s with token, rest, lastStop := s.token.stop })

/-- Goes on only if the condition holds. -/
def require (condition : Bool) : Reader Unit :=
  if condition then pure () else failure

/-- Reads with `first`; if that fails, reads with `second` from the same place. If `first`
succeeds, `next` decides the result alone. -/
def orElse (first : Reader α) (next : α → Reader β) (second : Reader β) : Reader β := fun s =>
  match first s with
  | some (a, s') => next a s'
  | none => second s

/-- What `reader` would answer; does not move. -/
def ahead (reader : Reader α) : Reader (Option α) := fun s =>
  some ((reader s).map (·.1), s)

/-- Whether the token after the current one satisfies a test. -/
def isNext (test : Token → Bool) : Reader Bool := do
  return (← ahead (do advance; token)).any test

/-- Reads in a changed setting. -/
def within (change : Setting → Setting) (reader : Reader α) : Reader α := do
  let outer := (← get).setting
  modify fun s => { s with setting := change outer }
  let a ← reader
  modify fun s => { s with setting := outer }
  return a

/-- Reads where the operator `in` is allowed. -/
def withIn (reader : Reader α) : Reader α :=
  within (fun setting => { setting with allowsIn := true }) reader

/-- Reads where the word `in` is no operator. -/
def withoutIn (reader : Reader α) : Reader α :=
  within (fun setting => { setting with allowsIn := false }) reader

/-- A node from `start` to the end of the last token that was taken. -/
def node (start : Nat) (kind : Kind) (parts : List Node) : Reader Node := do
  return .mk kind ⟨start, (← get).lastStop⟩ parts

/-- A node without extent for a part that is left out. -/
def absent : Reader Node := do
  let place := (← get).lastStop
  return .mk .absent ⟨place, place⟩ []

/-- Repeats a step that goes on with `.inl` and stops with `.inr`, at most `count` times. -/
def repeatAtMost (step : α → Reader (α ⊕ β)) : Nat → α → Reader β
  -- Not reached by a step that takes a token whenever it goes on.
  | 0, _ => failure
  | count + 1, a => do
    match ← step a with
    | .inl a => repeatAtMost step count a
    | .inr b => return b

/-- Repeats a step that goes on with `.inl` and stops with `.inr`. Each step that goes on takes
a token, so the length of the text bounds the repetitions. -/
def iterate (step : α → Reader (α ⊕ β)) (a : α) : Reader β := fun s =>
  repeatAtMost step (s.rest.length + 2) a s

/-- Reads items as long as the condition does not hold. -/
def itemsUntil (done : Reader Bool) (item : Reader α) : Reader (List α) := do
  let items ← iterate (fun read => do
    if ← done then return .inr read
    return .inl ((← item) :: read)) []
  return items.reverse

end Reader

/-- Whether the token is the mark. -/
def Token.isMark (token : Token) (mark : Mark) : Bool :=
  token.shape = .mark mark

/-- Whether the token is the word, written without escapes. -/
def Token.isWord (token : Token) (name : String) : Bool :=
  token.shape = .word name false

/-- The words that are never names of variables. -/
def reservedWords : List String :=
  ["break", "case", "catch", "class", "const", "continue", "debugger", "default", "delete", "do",
   "else", "enum", "export", "extends", "false", "finally", "for", "function", "if", "import",
   "in", "instanceof", "new", "null", "return", "super", "switch", "this", "throw", "true", "try",
   "typeof", "var", "void", "while", "with"]

/-- The name of a variable that the token can be in the setting. -/
def Token.variableName? (token : Token) (setting : Setting) : Option String :=
  match token.shape with
  | .word name _ =>
    -- An escape does not make a name of a reserved word.
    if reservedWords.contains name || (setting.allowsAwait && name == "await") ||
      (setting.allowsYield && name == "yield") then none else some name
  | _ => none

/-- The name that the token is, when any word will do. -/
def Token.word? (token : Token) : Option String :=
  match token.shape with
  | .word name _ => some name
  | _ => none

namespace Reader

variable {α : Type}

/-- Whether the current token is the mark. -/
def isAt (mark : Mark) : Reader Bool := do return (← token).isMark mark

/-- Whether the current token is the word. -/
def isAtWord (name : String) : Reader Bool := do return (← token).isWord name

/-- Takes the mark if it is the current token; answers whether it was. -/
def eat (mark : Mark) : Reader Bool := do
  if ← isAt mark then advance; return true else return false

/-- Takes the word if it is the current token; answers whether it was. -/
def eatWord (name : String) : Reader Bool := do
  if ← isAtWord name then advance; return true else return false

/-- Takes the mark. -/
def expect (mark : Mark) : Reader Unit := do require (← eat mark)

/-- Takes the word. -/
def expectWord (name : String) : Reader Unit := do require (← eatWord name)

/-- Takes the current token as a node without parts. -/
def leaf (kind : Kind) : Reader Node := do
  let token ← token
  advance
  return .mk kind ⟨token.start, token.stop⟩ []

/-- The end of a statement: a semicolon, or a place where it may be left out, which is before a
closing brace, at the end of the text, and at the start of a line. -/
def semicolon : Reader Unit := do
  if ← eat .semicolon then return
  let token ← token
  require (token.isMark .braceR || token.shape = .finish || token.onNewLine)

/-- Whether the statement ends here. -/
def atStatementEnd : Reader Bool := do
  let token ← token
  return token.isMark .semicolon || token.isMark .braceR || token.shape = .finish ||
    token.onNewLine

/-- Items separated by commas up to a closing mark, which is taken, and whether a comma stands
before it. -/
def separated (close : Mark) (item : Reader α) : Reader (List α × Bool) := do
  -- The items are collected with the last one in front.
  let (items, endsInComma) ← iterate (fun (read, afterComma) => do
    if ← eat close then return .inr (read, afterComma)
    let next ← item
    if ← eat .comma then return .inl (next :: read, true)
    expect close
    return .inr (next :: read, false)) ([], false)
  return (items.reverse, endsInComma)

/-- A name that is read or assigned. -/
def identifier : Reader Node := do
  match (← token).variableName? (← get).setting with
  | some name => leaf (.identifier name)
  | none => failure

/-- A name that is declared. -/
def binding : Reader Node := do
  match (← token).variableName? (← get).setting with
  | some name => leaf (.binding name)
  | none => failure

/-- Any word, as a name that refers to no variable. -/
def word : Reader Node := do
  match (← token).word? with
  | some name => leaf (.word name)
  | none => failure

/-- A string. -/
def string : Reader Node := do
  match (← token).shape with
  | .string text => leaf (.string text)
  | _ => failure

/-- A name behind `#`; there is none called `constructor`. -/
def privateName : Reader Node := do
  match (← token).shape with
  | .privateName name =>
    require (name != "constructor")
    leaf (.privateName name)
  | _ => failure

/-- Whether the current token is a private name. -/
def isAtPrivateName : Reader Bool := do
  match (← token).shape with
  | .privateName _ => return true
  | _ => return false

end Reader

end MiniApp.Script
