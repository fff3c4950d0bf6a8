import MiniApp.Text.Letter
import MiniApp.Script.Token.Escape
import MiniApp.Script.Token.Trivia

/-!
# Quoted literals

Strings, the pieces of templates, and regular expressions: where each ends, and what may not
stand inside it. Their contents are kept as they are written.
-/

set_option autoImplicit false

namespace MiniApp.Script

open MiniApp.Text

/-- What follows a string whose opening quote has been read; `skip` characters belong to an
escape. Fails when the line ends before the string, and at an escape by code that names no
character. -/
def afterString (quote : Char) (skip : Nat) : List Char → Option (List Char)
  | [] => none
  | c :: rest =>
    match skip with
    | n + 1 => afterString quote n rest
    | 0 =>
      if c == quote then some rest
      else if c == '\n' || c == '\r' then none
      else if c == '\\' then
        match rest with
        | [] => none
        | 'x' :: digits => if startsWithByte digits then afterString quote 3 rest else none
        | 'u' :: digits => do
          let (_, size) ← readUnicodeEscape digits
          afterString quote (size + 1) rest
        -- The two characters of a line end are escaped together.
        | '\r' :: '\n' :: _ => afterString quote 2 rest
        | _ => afterString quote 1 rest
      else afterString quote 0 rest

/-- A piece of a template that has been read: whether each escape in it stands for a character,
whether the template ends with it, and what follows. -/
structure Chunk where
  valid : Bool
  isLast : Bool
  rest : List Char

/-- Whether an escape, given by what follows its backslash, stands for a character in a
template: a digit does only if it is a zero with no digit behind it. -/
def isTemplateEscape (text : List Char) : Bool :=
  match text with
  | 'x' :: digits => startsWithByte digits
  | 'u' :: digits => (readUnicodeEscape digits).isSome
  | '0' :: c :: _ => !c.isDigit
  | '0' :: [] => true
  | c :: _ => !c.isDigit
  | [] => true

/-- Reads a piece of a template, behind the mark that opens it. -/
def readChunk (valid : Bool) : List Char → Option Chunk
  | '\x60' :: rest => some ⟨valid, true, rest⟩
  | '$' :: '{' :: rest => some ⟨valid, false, rest⟩
  -- An escape hides the character behind it, whatever it stands for.
  | '\\' :: c :: rest => readChunk (valid && isTemplateEscape (c :: rest)) rest
  | _ :: rest => readChunk valid rest
  | [] => none

/-- What follows the pattern of a regular expression behind its opening slash; `inClass` between
square brackets, where a slash does not end it. -/
def afterPattern (inClass : Bool) : List Char → Option (List Char)
  | [] => none
  | '\\' :: c :: rest => if isLineTerminator c then none else afterPattern inClass rest
  | c :: rest =>
    if isLineTerminator c || c == '\\' then none
    else if c == '/' && !inClass then some rest
    else if c == '[' then afterPattern true rest
    else if c == ']' then afterPattern false rest
    else afterPattern inClass rest

/-- The flags of regular expressions. -/
def regexFlags : List Char :=
  ['d', 'g', 'i', 'm', 's', 'u', 'v', 'y']

/-- Whether all the flags exist and none stands twice. -/
def areRegexFlags : List Char → Bool
  | [] => true
  | c :: rest => regexFlags.contains c && !rest.contains c && areRegexFlags rest

/-- What follows a regular expression behind its opening slash. -/
def afterRegex (text : List Char) : Option (List Char) := do
  let rest ← afterPattern false text
  -- A backslash is taken along, so that an escape among the flags is refused.
  let flags := rest.takeWhile fun c => continuesName c || c == '\\'
  if areRegexFlags flags then some (rest.drop flags.length) else none

end MiniApp.Script
