/-!
# Blank space

The white space of Unicode (the property `White_Space`), and the trimming and splitting that
the toolkit does with it. A text is handled as the list of its characters.
-/

set_option autoImplicit false

namespace MiniApp.Text

/-- Whether a character has the Unicode property `White_Space`. U+FEFF does not. -/
def isBlank (c : Char) : Bool :=
  let n := c.toNat
  (9 ≤ n && n ≤ 13) || n == 0x20 || n == 0x85 || n == 0xA0 || n == 0x1680 ||
    (0x2000 ≤ n && n ≤ 0x200A) || n == 0x2028 || n == 0x2029 || n == 0x202F || n == 0x205F ||
    n == 0x3000

/-- The text without the characters at its end that satisfy `p`. -/
def dropEndWhile (p : Char → Bool) (text : List Char) : List Char :=
  (text.reverse.dropWhile p).reverse

/-- The text without leading blank space. -/
def trimStart (text : List Char) : List Char :=
  text.dropWhile isBlank

/-- The text without trailing blank space. -/
def trimEnd (text : List Char) : List Char :=
  dropEndWhile isBlank text

/-- The text without leading and trailing blank space. -/
def trim (text : List Char) : List Char :=
  trimEnd (trimStart text)

/-- The maximal runs of characters that are not blank, in order. `current` is the run being
read, last character first. -/
def wordsFrom (current : List Char) : List Char → List (List Char)
  | [] => if current.isEmpty then [] else [current.reverse]
  | c :: rest =>
    if isBlank c then
      if current.isEmpty then wordsFrom [] rest else current.reverse :: wordsFrom [] rest
    else wordsFrom (c :: current) rest

/-- The maximal runs of characters that are not blank, in order. -/
def words (text : List Char) : List (List Char) :=
  wordsFrom [] text

/-- The text in which every occurrence of `old`, found from left to right without overlap, is
replaced by `new`. `skip` characters still belong to an occurrence already replaced. -/
def replaceFrom (old new : List Char) (skip : Nat) : List Char → List Char
  | [] => []
  | c :: rest =>
    match skip with
    | n + 1 => replaceFrom old new n rest
    | 0 =>
      if old.isPrefixOf (c :: rest) then new ++ replaceFrom old new (old.length - 1) rest
      else c :: replaceFrom old new 0 rest

/-- The text in which every occurrence of `old` is replaced by `new`; `old` is not empty. -/
def replace (old new text : List Char) : List Char :=
  replaceFrom old new 0 text

/-- Trimming again at the end changes nothing. -/
theorem trimEnd_trimEnd (text : List Char) : trimEnd (trimEnd text) = trimEnd text := by
  simp only [trimEnd, dropEndWhile, List.reverse_reverse, List.reverse_inj]
  induction text.reverse with
  | nil => rfl
  | cons c rest ih =>
    by_cases h : isBlank c <;> simp [h, ih]

end MiniApp.Text
