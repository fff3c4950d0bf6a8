import MiniApp.Text.Edit
import MiniApp.Handler.Names
import MiniApp.Script.Parse

/-!
# Qualifying names

A name that a handler uses and does not declare stands for a member of the component, which the
render function reaches through its context: `name` becomes `_ctx.name`, and a shorthand `{ name }`
becomes `{ name: _ctx.name }`.

The tree is visited in the order in which it is written, with the names declared so far. Whatever
declares a name, in whatever block, hides the member of that name from there on, up to the end of
the innermost function around the declaration.
-/

set_option autoImplicit false

namespace MiniApp.Handler

open MiniApp.Text MiniApp.Script

/-- What stands before a name to make it a member of the component. -/
def contextPrefix : List Char :=
  ['_', 'c', 't', 'x', '.']

/-- Whether a name is a member of the component where the given names have been declared. -/
def isContextMember (declared : List String) (name : String) : Bool :=
  !isGlobal name && !isRenderLocal name && !declared.contains name

/-- A piece of a handler and what to write in its place. -/
structure Change where
  span : Span
  replacement : List Char
  deriving DecidableEq, Repr

/-- The change of a name that is used. -/
def qualifyName (span : Span) : Change :=
  -- Nothing is replaced; the prefix is put in front of the name.
  ⟨⟨span.start, span.start⟩, contextPrefix⟩

/-- The change of a shorthand. -/
def qualifyShorthand (name : String) (span : Span) : Change :=
  ⟨span, name.toList ++ [':', ' '] ++ contextPrefix ++ name.toList⟩

/-- Whether the construct is a function, behind which its declarations are forgotten. -/
def isScope : Kind → Bool
  | .arrow _ _ | .function _ _ _ => true
  | _ => false

mutual

/-- The changes in a tree and the names declared behind it, given those declared before. -/
def changes (declared : List String) : Script.Node → List Change × List String
  | .mk kind span parts =>
    match kind with
    | .identifier name =>
      (if isContextMember declared name then [qualifyName span] else [], declared)
    | .shorthand name =>
      (if isContextMember declared name then [qualifyShorthand name span] else [], declared)
    | .binding name => ([], name :: declared)
    -- Blocks are no scopes: what is declared in one stays declared behind it.
    | kind =>
      let (found, inside) := changesIn declared parts
      (found, if isScope kind then declared else inside)

/-- The changes in trees that follow each other and the names declared behind them. -/
def changesIn (declared : List String) : List Script.Node → List Change × List String
  | [] => ([], declared)
  | node :: rest =>
    let (found, declared) := changes declared node
    let (more, declared) := changesIn declared rest
    (found ++ more, declared)

end

/-- The change as an edit of a text of the given length. -/
def Change.toEdit (length : Nat) (change : Change) : Edit :=
  ⟨length - change.span.start, length - change.span.stop, change.replacement⟩

/-- The changes of a text: those of the expression that it consists of, or else those of its
statements. None if it can be read in neither way. -/
def changes? (source : List Char) : Option (List Change) :=
  -- An expression is tried first, since most expressions can be read as statements as well.
  match wholeExpression? source with
  | some expression => some (changes [] expression).1
  | none => (program? source).map fun program => (changesIn [] program.statements).1

/-- The text with its names qualified; none if it cannot be read. -/
def qualify (content : String) : Option String :=
  let source := content.toList
  (changes? source).map fun found =>
    String.ofList (makeEdits source (found.map (Change.toEdit source.length)))

end MiniApp.Handler
