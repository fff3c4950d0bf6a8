import MiniApp.Text.Hex

/-!
# Escapes by code point

The escape for a character by its code point, after the backslash and the letter `u`:
four hexadecimal digits, or any number of them in braces.
-/

set_option autoImplicit false

namespace MiniApp.Script

open MiniApp.Text

/-- The code point that an escape names and how many characters it takes after the letter `u`.
There is none beyond U+10FFFF. -/
def readUnicodeEscape (text : List Char) : Option (Nat × Nat) :=
  match text with
  | '{' :: rest =>
    let digits := rest.takeWhile isHexDigit
    let value := hexNumber digits
    if !digits.isEmpty && value ≤ 0x10FFFF && rest[digits.length]? == some '}' then
      some (value, digits.length + 2)
    else none
  | _ =>
    let digits := (text.take 4).takeWhile isHexDigit
    if digits.length == 4 then some (hexNumber digits, 4) else none

/-- Whether two hexadecimal digits stand at the start of the text. -/
def startsWithByte (text : List Char) : Bool :=
  ((text.take 2).takeWhile isHexDigit).length == 2

end MiniApp.Script
