import MiniApp.Json.Draft
import MiniApp.Json.Numeral
import MiniApp.Text.Hex

/-!
# Reading JSON

A JSON text is read into a draft. Reading stops at the first fault behind which no reader gets, be
it one that keeps what it reads or one that skips it.
-/

set_option autoImplicit false

namespace MiniApp.Json

open MiniApp.Text (isHexDigit hexNumber)

/-- Whether the character is blank space in JSON. -/
def isBlank (c : Char) : Bool :=
  c == ' ' || c == '\n' || c == '\t' || c == '\r'

/-- The text without leading blank space. -/
def skipBlank (text : List Char) : List Char :=
  text.dropWhile isBlank

/-! ### Strings -/

/-- The number of bytes of the first four characters, in UTF-8. -/
def nextBytes (text : List Char) : Nat :=
  (text.take 4).foldl (fun size c => size + c.utf8Size) 0

/-- The code unit that four hexadecimal digits write. -/
def readUnit (text : List Char) : Except Fault Nat :=
  let digits := (text.take 4).takeWhile isHexDigit
  -- Four bytes are taken at once, so a text that ends within them has ended too early.
  if nextBytes text < 4 then .error .endOfText
  else if digits.length = 4 then .ok (hexNumber digits)
  else .error .malformed

/-- Whether the unit is the first half of a pair of surrogates. -/
def isLeading (unit : Nat) : Bool := 0xD800 ≤ unit && unit < 0xDC00

/-- Whether the unit is the second half of a pair of surrogates. -/
def isTrailing (unit : Nat) : Bool := 0xDC00 ≤ unit && unit < 0xE000

/-- The character behind a backslash and the letter `u`, and the number of characters that write
it. Half of a pair of surrogates needs the other half behind it. -/
def readEscapedUnit (text : List Char) : Except Fault (Char × Nat) := do
  let unit ← readUnit text
  if isTrailing unit then .error .malformed
  else if isLeading unit then
    match text.drop 4 with
    | [] | ['\\'] => .error .endOfText
    | '\\' :: 'u' :: rest =>
      let second ← readUnit rest
      if isTrailing second then
        .ok (Char.ofNat (0x10000 + (unit - 0xD800) * 0x400 + (second - 0xDC00)), 10)
      else .error .malformed
    | _ => .error .malformed
  else .ok (Char.ofNat unit, 4)

/-- The character for a letter behind a backslash. -/
def shortEscape? (c : Char) : Option Char :=
  match c with
  | '\x22' => some c
  | '\\' => some c
  | '/' => some c
  | 'b' => some '\x08'
  | 'f' => some '\x0c'
  | 'n' => some '\n'
  | 'r' => some '\r'
  | 't' => some '\t'
  | _ => none

/-- The text of a string behind its opening quote, and what follows the string. `skip` characters
belong to an escape that has been read. -/
def readString (skip : Nat) : List Char → Except Fault (List Char × List Char)
  | [] => .error .endOfText
  | c :: rest =>
    match skip with
    | n + 1 => readString n rest
    | 0 =>
      if c == '\x22' then .ok ([], rest)
      else if c.toNat < 0x20 then .error .malformed
      else if c == '\\' then
        match rest with
        | [] => .error .endOfText
        | 'u' :: digits => do
          let (decoded, size) ← readEscapedUnit digits
          let (text, rest) ← readString (size + 1) rest
          .ok (decoded :: text, rest)
        | letter :: _ =>
          match shortEscape? letter with
          | none => .error .malformed
          | some decoded => do
            let (text, rest) ← readString 1 rest
            .ok (decoded :: text, rest)
      else do
        let (text, rest) ← readString 0 rest
        .ok (c :: text, rest)

/-- What follows a string behind its opening quote, whatever its escapes stand for. -/
def skipString (skip : Nat) : List Char → Except Fault (List Char)
  | [] => .error .endOfText
  | c :: rest =>
    match skip with
    | n + 1 => skipString n rest
    | 0 =>
      if c == '\x22' then .ok rest
      else if c.toNat < 0x20 then .error .malformed
      else if c == '\\' then
        match rest with
        | [] => .error .endOfText
        | 'u' :: digits => do
          let _ ← readUnit digits
          skipString 5 rest
        | letter :: _ =>
          if (shortEscape? letter).isSome then skipString 1 rest else .error .malformed
      else skipString 0 rest

/-- The draft of a string behind its opening quote, and what follows it if reading goes on. -/
def draftString (text : List Char) : Draft × Option (List Char) :=
  match readString 0 text with
  | .ok (value, rest) => (.string (String.ofList value), some rest)
  | .error kept =>
    match skipString 0 text with
    | .ok rest => (.brokenString kept none, some rest)
    | .error skipped => (.brokenString kept (some skipped), none)

/-! ### Numbers and words -/

/-- The digits at the start of a text, at least one, and what follows them. Where there is none the
text may have ended. -/
def readDigits (text : List Char) : Except Fault (List Char × List Char) :=
  let digits := text.takeWhile Char.isDigit
  if digits.isEmpty then .error (if text.isEmpty then .endOfText else .malformed)
  else .ok (digits, text.dropWhile Char.isDigit)

/-- The digits before the point. A zero stands alone. -/
def readWhole (text : List Char) : Except Fault (List Char × List Char) := do
  let (digits, rest) ← readDigits text
  if digits.head? = some '0' && digits.length != 1 then .error .malformed
  else .ok (digits, rest)

/-- The fraction, if there is a point. -/
def readFraction (text : List Char) : Except Fault (Option (List Char) × List Char) :=
  match text with
  | '.' :: rest => do
    let (digits, rest) ← readDigits rest
    .ok (some digits, rest)
  | _ => .ok (none, text)

/-- The exponent, if there is one. -/
def readExponent (text : List Char) : Except Fault (Option Exponent × List Char) :=
  match text with
  | e :: rest =>
    if e == 'e' || e == 'E' then do
      let (isNegative, rest) := match rest with
        | '+' :: rest => (false, rest)
        | '-' :: rest => (true, rest)
        | _ => (false, rest)
      let (digits, rest) ← readDigits rest
      .ok (some ⟨isNegative, digits⟩, rest)
    else .ok (none, text)
  | [] => .ok (none, [])

/-- The number at the start of a text and what follows it. -/
def readNumeral (text : List Char) : Except Fault (Numeral × List Char) := do
  let (isNegative, rest) := match text with
    | '-' :: rest => (true, rest)
    | _ => (false, text)
  let (whole, rest) ← readWhole rest
  let (fraction, rest) ← readFraction rest
  let (exponent, rest) ← readExponent rest
  .ok (⟨isNegative, whole, fraction, exponent⟩, rest)

/-- The draft of a number. One that is cut off is malformed for a reader that skips it. -/
def draftNumber (text : List Char) : Draft × Option (List Char) :=
  match readNumeral text with
  | .error fault => (.brokenScalar fault (some .malformed), none)
  | .ok (numeral, rest) =>
    match numeral.number? with
    | some number => (.number number, some rest)
    | none => (.brokenScalar .malformed none, some rest)

/-- What follows the word in a text. -/
def readWord : List Char → List Char → Except Fault (List Char)
  | [], text => .ok text
  | _ :: _, [] => .error .endOfText
  | c :: word, d :: text => if c = d then readWord word text else .error .malformed

/-- The draft of a word that stands for a value. -/
def draftWord (word : List Char) (value : Draft) (text : List Char) :
    Draft × Option (List Char) :=
  match readWord word text with
  | .ok rest => (value, some rest)
  | .error fault => (.brokenScalar fault (some fault), none)

/-! ### Values -/

/-- The fault where the text goes on differently from what it should, or ends. -/
def faultAt (text : List Char) : Fault :=
  if text.isEmpty then .endOfText else .malformed

mutual

/-- The draft of the value at the start of a text, where no blank space stands, and what follows it
if reading goes on. -/
def readValue (fuel : Nat) (text : List Char) : Draft × Option (List Char) :=
  match fuel with
  | 0 => (.missing .malformed, none)
  | fuel + 1 =>
    match text with
    | '[' :: rest =>
      match skipBlank rest with
      | ']' :: rest => (.array [] none, some rest)
      | [] => (.array [] (some .endOfText), none)
      | rest =>
        let (items, ending, rest) := readItems fuel rest
        (.array items ending, rest)
    | '{' :: rest =>
      match skipBlank rest with
      | '}' :: rest => (.object [] none, some rest)
      | '\x22' :: rest =>
        let (members, ending, rest) := readMembers fuel rest
        (.object members ending, rest)
      | rest => (.object [] (some (faultAt rest)), none)
    | '\x22' :: rest => draftString rest
    | 'n' :: rest => draftWord ['u', 'l', 'l'] .null rest
    | 't' :: rest => draftWord ['r', 'u', 'e'] (.bool true) rest
    | 'f' :: rest => draftWord ['a', 'l', 's', 'e'] (.bool false) rest
    | c :: _ =>
      if c == '-' || c.isDigit then draftNumber text else (.missing .malformed, none)
    | [] => (.missing .endOfText, none)

/-- The items of an array from one of them on, the fault behind them, and what follows the array if
reading goes on. -/
def readItems (fuel : Nat) (text : List Char) :
    List Draft × Option Fault × Option (List Char) :=
  match fuel with
  | 0 => ([.missing .malformed], none, none)
  | fuel + 1 =>
    let (item, rest) := readValue fuel text
    match rest.map skipBlank with
    | none => ([item], none, none)
    | some (',' :: rest) =>
      match skipBlank rest with
      | ']' :: _ => ([item, .missing .malformed], none, none)
      | rest =>
        let (items, ending, rest) := readItems fuel rest
        (item :: items, ending, rest)
    | some (']' :: rest) => ([item], none, some rest)
    | some rest => ([item], some (faultAt rest), none)

/-- The members of an object from behind the opening quote of a name on, the fault behind them, and
what follows the object if reading goes on. -/
def readMembers (fuel : Nat) (text : List Char) :
    List (Draft × Draft) × Option Fault × Option (List Char) :=
  match fuel with
  | 0 => ([(.missing .malformed, .missing .malformed)], none, none)
  | fuel + 1 =>
    let (name, rest) := draftString text
    match rest.map skipBlank with
    | none => ([(name, .missing .malformed)], none, none)
    | some (':' :: rest) =>
      let (value, rest) := readValue fuel (skipBlank rest)
      match rest.map skipBlank with
      | none => ([(name, value)], none, none)
      | some (',' :: rest) =>
        match skipBlank rest with
        | '\x22' :: rest =>
          let (members, ending, rest) := readMembers fuel rest
          ((name, value) :: members, ending, rest)
        | rest =>
          -- What should be a name is missing, and nothing behind it is read.
          let absent := Draft.missing (faultAt rest)
          ([(name, value), (absent, absent)], none, none)
      | some ('}' :: rest) => ([(name, value)], none, some rest)
      | some rest => ([(name, value)], some (faultAt rest), none)
    | some rest => ([(name, .missing (faultAt rest))], none, none)

end

/-- The draft of a text, and the fault behind it. -/
structure Document where
  draft : Draft
  ending : Option Fault

/-- The draft of a whole text, behind which only blank space may stand. -/
def readDocument (text : String) : Document :=
  let text := text.toList
  let (draft, rest) := readValue (2 * text.length + 2) (skipBlank text)
  match rest.map skipBlank with
  | some (_ :: _) => ⟨draft, some .malformed⟩
  | _ => ⟨draft, none⟩

end MiniApp.Json
