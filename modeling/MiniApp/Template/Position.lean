/-!
# Places in a template

A position knows how far it is from the start of the template, in bytes of its UTF-8 form, and its
line and column, which count characters. A location is what lies between two positions, with the
text found there.
-/

set_option autoImplicit false

namespace MiniApp.Template

/-- A place in a template: bytes from the start, line and column, the latter two from one. -/
structure Position where
  offset : Nat
  line : Nat
  column : Nat
  deriving DecidableEq, Repr

/-- The position behind one character. A line feed starts a new line. -/
def Position.step (position : Position) (c : Char) : Position :=
  let offset := position.offset + c.utf8Size
  if c = '\n' then ⟨offset, position.line + 1, 1⟩
  else ⟨offset, position.line, position.column + 1⟩

/-- The position behind a text that starts here. -/
def Position.advance (position : Position) (text : String) : Position :=
  text.toList.foldl Position.step position

/-- The first position of a template. -/
def Position.origin : Position :=
  ⟨0, 1, 1⟩

/-- A part of a template: where it starts, where it ends, and its text. -/
structure Location where
  start : Position
  stop : Position
  source : String
  deriving DecidableEq, Repr

/-- The location of what was not written in a template. -/
def Location.stub : Location :=
  ⟨.origin, .origin, ""⟩

/-- The location of a text that starts at a position. -/
def Location.spanning (start : Position) (source : String) : Location :=
  ⟨start, start.advance source, source⟩

end MiniApp.Template
