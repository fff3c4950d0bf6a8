import MiniApp.Template.Position

/-!
# Directives

A directive is an attribute with a meaning for the compiler, such as `v-on:click.stop="onTap"`. It
has a name (`on`), and may have an argument (`click`), modifiers (`stop`) and a value (`onTap`).
-/

set_option autoImplicit false

namespace MiniApp.Template

/-- The argument or the value of a directive. A static one is taken literally, any other is an
expression. -/
structure Expression where
  content : String
  isStatic : Bool
  location : Location
  deriving DecidableEq, Repr

/-- An attribute of an element that directs the compiler. -/
structure Directive where
  name : String
  argument : Option Expression
  value : Option Expression
  modifiers : List String
  location : Location
  deriving DecidableEq, Repr

/-- A directive that binds a static event. -/
def Directive.on (event : String) (location : Location) : Directive :=
  ⟨"on", some ⟨event, true, .stub⟩, none, [], location⟩

/-- Whether the directive has the modifier. -/
def Directive.hasModifier (directive : Directive) (name : String) : Bool :=
  directive.modifiers.contains name

end MiniApp.Template
