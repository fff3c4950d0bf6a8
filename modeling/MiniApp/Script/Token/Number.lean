import MiniApp.Text.Letter
import MiniApp.Script.Token.Escape

/-!
# Numbers

The literals for numbers: decimal with a fraction and an exponent, hexadecimal, octal and binary,
and the big integers that end in `n`. A single underscore may stand between two digits. An
integer that starts with a zero and goes on with digits takes no underscore and no `n`.
-/

set_option autoImplicit false

namespace MiniApp.Script

open MiniApp.Text

/-- What follows a run of digits in which single underscores stand between digits; `inside` after
a digit. Fails where an underscore or the end of the run follows no digit. -/
def afterDigitsFrom (isDigit : Char → Bool) (inside : Bool) : List Char → Option (List Char)
  | [] => if inside then some [] else none
  | c :: rest =>
    if c == '_' then if inside then afterDigitsFrom isDigit false rest else none
    else if isDigit c then afterDigitsFrom isDigit true rest
    else if inside then some (c :: rest) else none

/-- What follows the digits at the start of a text, at least one. -/
def afterDigits (isDigit : Char → Bool) (text : List Char) : Option (List Char) :=
  afterDigitsFrom isDigit false text

/-- Whether the character is a digit of an octal number. -/
def isOctalDigit (c : Char) : Bool := '0' ≤ c && c ≤ '7'

/-- Whether the character is a digit of a binary number. -/
def isBinaryDigit (c : Char) : Bool := c == '0' || c == '1'

/-- What follows an exponent, if one stands at the start of the text, or the text itself. -/
def afterExponent (text : List Char) : Option (List Char) :=
  match text with
  | e :: rest =>
    if e == 'e' || e == 'E' then
      match rest with
      | '+' :: digits | '-' :: digits => afterDigits Char.isDigit digits
      | digits => afterDigits Char.isDigit digits
    else some text
  | [] => some []

/-- What follows a fraction behind its point, which may have no digit, and an exponent. -/
def afterFraction (text : List Char) : Option (List Char) :=
  match text with
  | c :: _ =>
    if c.isDigit then do afterExponent (← afterDigits Char.isDigit text) else afterExponent text
  | [] => some []

/-- What follows the digits of a number with a marked base, and whether it is a big integer. -/
def afterBased (isDigit : Char → Bool) (text : List Char) : Option (List Char × Bool) := do
  match ← afterDigits isDigit text with
  | 'n' :: rest => some (rest, true)
  | rest => some (rest, false)

/-- What follows a number that starts with a zero and another digit. With a digit 8 or 9 in it
it is decimal and may have a fraction and an exponent. -/
def afterZeroLed (text : List Char) : Option (List Char) :=
  let digits := text.takeWhile Char.isDigit
  let rest := text.dropWhile Char.isDigit
  -- A number with octal digits only is octal and has neither fraction nor exponent.
  if digits.all isOctalDigit then
    if rest.head? == some '_' then none else some rest
  else
    match rest with
    | '_' :: _ => none
    | '.' :: fraction => afterFraction fraction
    | _ => afterExponent rest

/-- What follows a decimal number, and whether it is a big integer. -/
def afterDecimal (text : List Char) : Option (List Char × Bool) := do
  match ← afterDigits Char.isDigit text with
  | 'n' :: rest => some (rest, true)
  | '.' :: fraction => return (← afterFraction fraction, false)
  | rest => return (← afterExponent rest, false)

/-- What follows the number at the start of a text, which is a digit or a point before a digit,
and whether it is a big integer. No name and no digit may follow it directly. -/
def afterNumber (text : List Char) : Option (List Char × Bool) := do
  let (rest, big) ←
    match text with
    | '.' :: fraction => do pure (← afterFraction fraction, false)
    | '0' :: c :: digits =>
      if c == 'x' || c == 'X' then afterBased isHexDigit digits
      else if c == 'o' || c == 'O' then afterBased isOctalDigit digits
      else if c == 'b' || c == 'B' then afterBased isBinaryDigit digits
      else if c.isDigit then do pure (← afterZeroLed text, false)
      else if c == '_' then none
      else afterDecimal text
    | _ => afterDecimal text
  match rest with
  | c :: _ => if startsName c || c.isDigit || c == '\\' then none else some (rest, big)
  | [] => some ([], big)

end MiniApp.Script
