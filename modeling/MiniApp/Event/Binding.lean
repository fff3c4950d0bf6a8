import MiniApp.Event.Modifiers
import MiniApp.Handler.Collapse
import MiniApp.Handler.Qualify
import MiniApp.Render.Helper
import MiniApp.Render.Options
import MiniApp.Template.Diagnostic
import MiniApp.Template.Directive

/-!
# Binding an event

A directive that binds an event is compiled to an attribute of the platform and to the code of a
handler. The code is an expression: a reference and a function literal are kept as they are, and
statements are put into a function of the event.

The compilation of an element runs in a `Context`, which collects the helpers that the code calls
and the diagnostics.
-/

set_option autoImplicit false

namespace MiniApp.Event

open MiniApp.Template MiniApp.Render

/-- The code of a handler. -/
inductive HandlerCode
  /-- A reference to a function. -/
  | reference (code : String)
  /-- Statements in a function of the event. -/
  | arrow (code : String)
  /-- A function that was written as such. -/
  | functionLiteral (code : String)
  /-- A function that does nothing. -/
  | noop
  deriving DecidableEq, Repr

/-- The code as text. -/
def HandlerCode.text : HandlerCode → String
  | .reference code | .arrow code | .functionLiteral code => code
  | .noop => "() => \x7b\x7d"

/-- A compiled directive: the attribute that binds the event, the handler, and the helper that
marks it as one. -/
structure Binding where
  attributeName : String
  handler : HandlerCode
  helper : Helper
  location : Location
  deriving DecidableEq, Repr

/-- The expression that the binding puts into the data of the template. -/
def Binding.value (binding : Binding) : String :=
  binding.helper.alias ++ "(" ++ binding.handler.text ++ ")"

/-- What the compilation of an element has collected. -/
structure Context where
  options : Options
  helpers : List Helper
  diagnostics : List Diagnostic

/-- The context before the first directive. -/
def Context.initial (options : Options) : Context :=
  ⟨options, [], []⟩

/-- A step of the compilation, which may add to the context. -/
abbrev Compile := StateM Context

/-- Notes that the code calls a helper. -/
def useHelper (helper : Helper) : Compile Unit :=
  modify fun context =>
    if context.helpers.contains helper then context
    else { context with helpers := context.helpers ++ [helper] }

/-- Adds a diagnostic. -/
def report (diagnostic : Diagnostic) : Compile Unit :=
  modify fun context => { context with diagnostics := context.diagnostics ++ [diagnostic] }

/-- Qualifies the names of an expression if the options ask for it. What cannot be read is reported
and kept as it is. -/
def compileExpression (content : String) (location : Location) : Compile String := do
  if !(← get).options.qualifies then return content
  match Handler.qualify content with
  | some code => return code
  | none =>
    report ⟨.invalidExpression, location, some content⟩
    return content

/-- The attribute for the argument of a directive. Without an argument it is only its first part. -/
def compileAttribute (directive : Directive) : Compile String := do
  let family := (Modifiers.ofNames directive.modifiers).family
  match directive.argument with
  | none => return family.text
  | some argument =>
    if argument.isStatic then return staticAttribute family argument.content
    else return dynamicAttribute family (← compileExpression argument.content argument.location)

/-- The function of the event that runs a single statement. An object literal is put in
parentheses, since it would read as a block. -/
def arrowOfStatement (body : String) : String :=
  let arrow := Handler.eventName ++ " => "
  if body.toList.head? = some '{' then arrow ++ "(" ++ body ++ ")" else arrow ++ body

/-- The function of the event that runs several statements. -/
def arrowOfStatements (statements : List String) : String :=
  Handler.eventName ++ " => \x7b" ++ String.join (statements.map fun code => " " ++ code ++ ";") ++
    " \x7d"

/-- The code of a handler that is not blank. -/
def compileHandler (value : Expression) : Compile HandlerCode := do
  match Handler.classify value.content with
  | .reference text => return .reference (← compileExpression text value.location)
  | .functionLiteral text =>
    return .functionLiteral (Handler.collapse (← compileExpression text value.location))
  | .inlineStatement text =>
    return .arrow (arrowOfStatement (← compileExpression text value.location))
  | .statements texts =>
    return .arrow (arrowOfStatements
      (← texts.mapM fun text => compileExpression text value.location))

/-- Whether there is nothing but blank space in the value of a directive. -/
def isBlankValue (value : Expression) : Bool :=
  (Text.trim value.content.toList).isEmpty

/-- Compiles a directive that binds an event. A handler may be missing if there is a modifier, which
is then all that the binding is for. -/
def compileDirective (directive : Directive) : Compile Binding := do
  -- The argument is compiled first, so what is wrong with it is reported first.
  let name ← compileAttribute directive
  let handler ←
    match directive.value.filter fun value => !isBlankValue value with
    | some value => compileHandler value
    | none =>
      if directive.modifiers.isEmpty then
        report ⟨.missingExpression, directive.location, none⟩
      pure .noop
  -- A handler that does nothing is marked as well.
  useHelper .on
  return ⟨name, handler, .on, directive.location⟩

/-- Compiles a directive by itself and answers with the binding and the diagnostics. -/
def compileAlone (options : Options) (directive : Directive) : Binding × List Diagnostic :=
  let (binding, context) := (compileDirective directive).run (.initial options)
  (binding, context.diagnostics)

end MiniApp.Event
