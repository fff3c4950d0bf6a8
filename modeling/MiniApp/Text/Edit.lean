/-!
# Edits of a text

An edit replaces a range of a text by other characters. Edits that were found in one text are made
from the last to the first, so that each still finds its range where it was.
-/

set_option autoImplicit false

namespace MiniApp.Text

/-- The replacement of the characters from `start` up to `stop`, both counted from the start of
the text. -/
structure Edit where
  start : Nat
  stop : Nat
  replacement : List Char
  deriving DecidableEq, Repr

/-- Makes one edit; leaves the text as it is if the range does not lie in it. -/
def Edit.make (text : List Char) (edit : Edit) : List Char :=
  if edit.start ≤ edit.stop ∧ edit.stop ≤ text.length then
    text.take edit.start ++ edit.replacement ++ text.drop edit.stop
  else text

/-- Puts an edit in front of the first one that does not start behind it. -/
def insertByStart (edit : Edit) : List Edit → List Edit
  | [] => [edit]
  | first :: rest =>
    -- Of edits with one start, the one that came first stays in front.
    if first.start ≤ edit.start then edit :: first :: rest
    else first :: insertByStart edit rest

/-- The edits with the one that starts last in front. Those with one start keep their order. -/
def sortFromEnd (edits : List Edit) : List Edit :=
  edits.foldr insertByStart []

/-- Makes all the edits, from the last to the first. -/
def makeEdits (text : List Char) (edits : List Edit) : List Char :=
  (sortFromEnd edits).foldl Edit.make text

end MiniApp.Text
