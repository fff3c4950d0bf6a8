import MiniApp.Render.Helper
import MiniApp.Render.Options
import MiniApp.Render.Writer

/-!
# The render function

A render function takes the context of the component and answers with an object, whose entries the
template refers to by their short names. In function mode it finds the helpers of the runtime in a
global; in module mode an import stands before it.
-/

set_option autoImplicit false

namespace MiniApp.Render

/-- An entry of the object: its name and the expression for its value. -/
structure Entry where
  name : String
  value : String
  deriving DecidableEq, Repr

/-- The render function, and what has to stand before it. -/
structure Code where
  function : String
  preamble : String
  deriving DecidableEq, Repr

/-- Texts with a separator between each two. -/
def joined (separator : String) (texts : List String) : String :=
  String.join (texts.intersperse separator)

/-- The object with the entries. -/
def objectText (entries : List Entry) : String :=
  if entries.isEmpty then "\x7b\x7d"
  else "\x7b " ++ joined ", " (entries.map fun entry => entry.name ++ ": " ++ entry.value) ++
    " \x7d"

/-- The statement that takes the helpers out of the global. -/
def takeHelpers (helpers : List Helper) : String :=
  "const \x7b " ++ joined ", " (helpers.map fun helper => helper.name ++ ": " ++ helper.alias) ++
    " \x7d = _Vue"

/-- What has to stand before the render function for the helpers that it calls. -/
def preambleText (helpers : List Helper) (options : Options) : String :=
  if helpers.isEmpty then ""
  else match options.mode with
    | .module =>
      "import \x7b " ++
        joined ", " (helpers.map fun helper => helper.name ++ " as " ++ helper.alias) ++
        " \x7d from \"" ++ options.runtimeModule ++ "\""
    | .function => "const _Vue = " ++ options.runtimeGlobal

/-- Writes a line that opens a block; what follows is indented. -/
def Writer.openBlock (writer : Writer) (text : String) : Writer :=
  (writer.push text).indent

/-- Closes the block that was opened last. -/
def Writer.closeBlock (writer : Writer) : Writer :=
  writer.dedent.newline.push "\x7d"

/-- The text of the render function. Where names are not qualified, a function finds the members of
the component in a block around its body. -/
def functionText (entries : List Entry) (helpers : List Helper) (options : Options) : String :=
  let isFunction := options.mode = .function
  -- A module is strict code, in which there is no `with`.
  let hasBlock := isFunction && !options.qualifies
  let writer := Writer.empty.openBlock "(_ctx, _cache) => \x7b"
  let writer := if hasBlock then writer.newline.openBlock "with (_ctx) \x7b" else writer
  let writer :=
    if isFunction && !helpers.isEmpty then writer.newline.push (takeHelpers helpers) |>.blankLine
    else writer
  let writer := writer.newline.push ("return " ++ objectText entries)
  let writer := if hasBlock then writer.closeBlock else writer
  writer.closeBlock.text

/-- The render function for the entries, which calls the helpers. -/
def generate (entries : List Entry) (helpers : List Helper) (options : Options) : Code :=
  ⟨functionText entries helpers options, preambleText helpers options⟩

end MiniApp.Render
