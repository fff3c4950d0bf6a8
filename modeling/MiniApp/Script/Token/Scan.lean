import MiniApp.Script.Token
import MiniApp.Script.Token.Trivia
import MiniApp.Script.Token.Word
import MiniApp.Script.Token.Number
import MiniApp.Script.Token.Quoted

/-!
# The next token

A text is read one token at a time, because what a slash or a closing brace means depends on
what the grammar expects there: by itself a slash is division, and the grammar asks for a regular
expression or the next piece of a template with `rescanRegex` and `rescanChunk`.
-/

set_option autoImplicit false

namespace MiniApp.Script

open MiniApp.Text

/-- The characters of `text` before `rest`, which is what is left of it. -/
def before (text rest : List Char) : String :=
  String.ofList (text.take (text.length - rest.length))

/-- The mark at the start of a text and what follows it. A question mark and a point before a
digit are two marks. -/
def readMark (text : List Char) : Option (Mark × List Char) := do
  let (spelling, mark) ← Mark.spellings.find? fun entry => entry.1.isPrefixOf text
  let rest := text.drop spelling.length
  if mark = .questionDot && rest.head?.any Char.isDigit then some (.question, text.drop 1)
  else some (mark, rest)

/-- The shape of the token at the start of a text, where neither blank space nor a comment
stands, and what follows it. -/
def readShape (text : List Char) : Option (Token.Shape × List Char) :=
  match text with
  | [] => some (.finish, [])
  | c :: rest =>
    if startsName c || c == '\\' then do
      let word ← readWord text
      some (.word (String.ofList word.name) word.escaped, word.rest)
    else if c.isDigit || (c == '.' && rest.head?.any Char.isDigit) then do
      let (rest, big) ← afterNumber text
      let literal := before text rest
      some (if big then .bigint literal else .number literal, rest)
    else if c == '\x22' || c == '\x27' then do
      let rest ← afterString c 0 rest
      some (.string (before text rest), rest)
    else if c == '\x60' then do
      let chunk ← readChunk true rest
      some (.chunk (before text chunk.rest) chunk.valid chunk.isLast, chunk.rest)
    else if c == '#' then do
      let word ← readWord rest
      some (.privateName (String.ofList word.name), word.rest)
    else do
      let (mark, rest) ← readMark text
      some (.mark mark, rest)

/-- The first token of a text and what follows it. -/
def scan (text : List Char) : Option (Token × List Char) := do
  let (text, onNewLine) ← skipTrivia text
  let (shape, rest) ← readShape text
  some (⟨shape, text.length, rest.length, onNewLine⟩, rest)

/-- The piece of a template behind a token that closes an expression in it. -/
def rescanChunk (closing : Token) (rest : List Char) : Option (Token × List Char) := do
  let chunk ← readChunk true rest
  let shape := .chunk ("\x7d" ++ before rest chunk.rest) chunk.valid chunk.isLast
  some (⟨shape, closing.start, chunk.rest.length, closing.onNewLine⟩, chunk.rest)

/-- The regular expression whose first characters have been read as a token of division. -/
def rescanRegex (slash : Token) (rest : List Char) : Option (Token × List Char) := do
  -- The token of division may have been one with an equals sign.
  let opening := if slash.shape = .mark (.binary .divide) then "/" else "/="
  let after ← afterRegex rest
  some (⟨.regex (opening ++ before rest after), slash.start, after.length, slash.onNewLine⟩, after)

end MiniApp.Script
