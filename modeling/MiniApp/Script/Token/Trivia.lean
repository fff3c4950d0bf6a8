/-!
# Between the tokens

Blank space, line terminators and comments separate tokens. What is blank for the language
differs from Unicode's white space: U+FEFF and U+200B are, and the line terminators are only
four characters.
-/

set_option autoImplicit false

namespace MiniApp.Script

/-- Whether the character ends a line. -/
def isLineTerminator (c : Char) : Bool :=
  c == '\n' || c == '\r' || c.toNat == 0x2028 || c.toNat == 0x2029

/-- Whether the character separates tokens on one line. -/
def isSpace (c : Char) : Bool :=
  let n := c.toNat
  n == 0x20 || n == 9 || n == 0xB || n == 0xC || n == 0xA0 || n == 0xFEFF || n == 0x85 ||
    n == 0x1680 || (0x2000 ≤ n && n ≤ 0x200B) || n == 0x202F || n == 0x205F || n == 0x3000

/-- Where skipping stands: between comments, in a comment up to the end of its line, or in one
that has a closing mark. -/
inductive Trivia
  | code | lineComment | blockComment

/-- Skips blank space and comments. Answers what follows them, and whether a line terminator was
among them or `newLine` was already true. Fails in a comment without its closing mark and at the
mark `<!--`, which would open a comment only in a text that is not a module. -/
def Trivia.skip : Trivia → Bool → List Char → Option (List Char × Bool)
  | .code, newLine, '/' :: '/' :: rest => skip .lineComment newLine rest
  | .code, newLine, '/' :: '*' :: rest => skip .blockComment newLine rest
  | .code, newLine, c :: rest =>
    if isLineTerminator c then skip .code true rest
    else if isSpace c then skip .code newLine rest
    else if ['<', '!', '-', '-'].isPrefixOf (c :: rest) then none
    else some (c :: rest, newLine)
  -- The end of the line ends the comment and counts as one.
  | .lineComment, newLine, c :: rest =>
    if isLineTerminator c then skip .code true rest else skip .lineComment newLine rest
  | .blockComment, newLine, '*' :: '/' :: rest => skip .code newLine rest
  | .blockComment, newLine, c :: rest =>
    skip .blockComment (newLine || isLineTerminator c) rest
  | .blockComment, _, [] => none
  -- A comment up to the end of its line may end with the text.
  | _, newLine, [] => some ([], newLine)

/-- What follows the blank space and comments at the start of a text, and whether a line
terminator was among them. -/
def skipTrivia (text : List Char) : Option (List Char × Bool) :=
  Trivia.code.skip false text

end MiniApp.Script
