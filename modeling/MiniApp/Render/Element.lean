import MiniApp.Event.Binding
import MiniApp.Render.Function
import MiniApp.Render.Name

/-!
# Compiling an element

The events of an element become attributes of its tag and entries of the data object. Each attribute
refers to its entry by a short name, which is given by the place of the event.
-/

set_option autoImplicit false

namespace MiniApp.Render

open MiniApp.Event MiniApp.Template

/-- The entries for the bindings, with short names in order. -/
def entriesFor (bindings : List Binding) : List Entry :=
  bindings.zipIdx.map fun (binding, index) => ⟨shortName index, binding.value⟩

/-- The attribute of a binding, which refers to an entry. -/
def attributeText (binding : Binding) (entry : Entry) : String :=
  " " ++ binding.attributeName ++ "=\"\x7b\x7b" ++ entry.name ++ "\x7d\x7d\""

/-- The tag with an attribute for each binding. -/
def tagText (tag : String) (bindings : List Binding) (entries : List Entry) : String :=
  "<" ++ tag ++ String.join (bindings.zipWith attributeText entries) ++ "/>"

/-- A compiled element: its tag, its render function, and the diagnostics. -/
structure Element where
  tag : String
  code : Code
  diagnostics : List Diagnostic
  deriving DecidableEq, Repr

/-- Compiles the directives of an element that bind events, and no others. -/
def compileElement (tag : String) (directives : List Directive) (options : Options) : Element :=
  let events := directives.filter fun directive => directive.name == "on"
  -- The directives share one context, so that a helper is noted once.
  let (bindings, context) := (events.mapM compileDirective).run (.initial options)
  let entries := entriesFor bindings
  ⟨tagText tag bindings entries, generate entries context.helpers options, context.diagnostics⟩

end MiniApp.Render
