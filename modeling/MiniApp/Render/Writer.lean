/-!
# Writing indented text
-/

set_option autoImplicit false

namespace MiniApp.Render

/-- A text that is being written, and how far its new lines are indented. -/
structure Writer where
  text : String
  level : Nat
  deriving DecidableEq, Repr

namespace Writer

/-- Nothing has been written. -/
def empty : Writer :=
  ⟨"", 0⟩

/-- Writes on the current line. -/
def push (writer : Writer) (text : String) : Writer :=
  { writer with text := writer.text ++ text }

/-- Starts a new line, with two spaces for each level. -/
def newline (writer : Writer) : Writer :=
  writer.push (String.ofList ('\n' :: List.replicate (2 * writer.level) ' '))

/-- Starts a new line without spaces. -/
def blankLine (writer : Writer) : Writer :=
  writer.push "\n"

/-- Indents new lines by one more level. -/
def indent (writer : Writer) : Writer :=
  { writer with level := writer.level + 1 }

/-- Indents new lines by one level less, if they are indented. -/
def dedent (writer : Writer) : Writer :=
  { writer with level := writer.level - 1 }

end Writer

end MiniApp.Render
