import MiniApp.Text.Letter
import MiniApp.Script.Token.Escape

/-!
# Words

A word is an identifier or a keyword: a character that starts a name, then characters that go on
with it. Each may be written as an escape; the name of the word has the escapes decoded.
-/

set_option autoImplicit false

namespace MiniApp.Script

open MiniApp.Text

/-- A word that has been read: its name, whether an escape was in it, and what follows it. -/
structure Word where
  name : List Char
  escaped : Bool
  rest : List Char

/-- Reads the characters of a word as far as they go. `allowed` decides the next one and `skip`
characters belong to an escape that has been read. Fails at an escape for a character that may
not stand in the word. -/
def readWordFrom (allowed : Char → Bool) (skip : Nat) : List Char → Option Word
  | [] => some ⟨[], false, []⟩
  | c :: rest =>
    match skip with
    | n + 1 => readWordFrom allowed n rest
    | 0 =>
      if c == '\\' then
        match rest with
        | 'u' :: digits => do
          let (code, size) ← readUnicodeEscape digits
          -- The character that is escaped has to be one that may stand here unescaped.
          let decoded := Char.ofNat code
          if code.isValidChar && allowed decoded then
            let word ← readWordFrom continuesName (size + 1) rest
            some { word with name := decoded :: word.name, escaped := true }
          else none
        | _ => none
      else if allowed c then do
        let word ← readWordFrom continuesName 0 rest
        some { word with name := c :: word.name }
      else some ⟨[], false, c :: rest⟩

/-- The word at the start of a text; fails if there is none. -/
def readWord (text : List Char) : Option Word := do
  let word ← readWordFrom startsName 0 text
  if word.name.isEmpty then none else some word

end MiniApp.Script
