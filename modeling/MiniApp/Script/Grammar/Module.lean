import MiniApp.Script.Grammar.Statement

/-!
# Imports, exports and programs

An import or export may stand wherever a statement may. The name that an export without a source
takes is a reference to a variable, and all other names of imports and exports are not.
-/

set_option autoImplicit false

namespace MiniApp.Script.Reader

variable (recur : Recur)

/-- The text that names a module. -/
def moduleSource : Reader Node :=
  string

/-- An attribute of an import. -/
def importAttribute : Reader Node := do
  let start ← start
  let key ← match (← token).shape with
    | .string _ => string
    | _ => word
  expect .colon
  let value ← string
  node start .importAttribute [key, value]

/-- The attributes behind the source of an import or export, if there are any. -/
def importAttributes : Reader (List Node) := do
  let first ← token
  if first.isWord "with" || (first.isWord "assert" && !first.onNewLine) then
    advance
    expect .braceL
    return (← separated .braceR importAttribute).1
  else return []

/-- The source of an import or export with its attributes, behind the word `from`. -/
def fromSource : Reader (List Node) := do
  expectWord "from"
  let source ← moduleSource
  return source :: (← importAttributes)

/-- A name that a module exports: any word, or a string. -/
def exportedName : Reader Node := do
  match (← token).shape with
  | .string _ => string
  | _ => word

/-- One imported name, with the variable that it is bound to. -/
def importSpecifier : Reader Node := do
  let start ← start
  let ownName := (← token).variableName? (← get).setting
  let name ← exportedName
  if ← eatWord "as" then
    let binding ← binding
    node start .importSpecifier [name, binding]
  else
    match ownName with
    | some own => node start .importSpecifier [.mk (.binding own) name.span []]
    | none => failure

/-- The names of an import: one for the whole module, or several in braces. -/
def importedNames : Reader (List Node) := do
  let start ← start
  if ← eat (.binary .multiply) then
    expectWord "as"
    let binding ← binding
    return [← node start .importNamespace [binding]]
  else
    expect .braceL
    return (← separated .braceR importSpecifier).1

/-- An import as a statement. -/
def importDeclaration : Reader Node := do
  let start ← start
  expectWord "import"
  match (← token).shape with
  -- A module that is imported for what it does has no names.
  | .string _ =>
    let source ← moduleSource
    let attributes ← importAttributes
    semicolon
    node start .importDeclaration (source :: attributes)
  | _ =>
    let names ←
      if (← token).word?.isSome then
        let name ← binding
        if ← eat .comma then pure (name :: (← importedNames)) else pure [name]
      else importedNames
    let source ← fromSource
    semicolon
    node start .importDeclaration (names ++ source)

/-- One exported name with the name that others see. Whether it can be a variable of this module
decides its kind. -/
def exportSpecifier : Reader Node := do
  let start ← start
  let ownName := (← token).variableName? (← get).setting
  let name ← exportedName
  let name := match ownName with
    | some own => .mk (.identifier own) name.span []
    | none => name
  if ← eatWord "as" then
    let seen ← exportedName
    node start .exportSpecifier [name, seen]
  else node start .exportSpecifier [name]

/-- The exported name as a name of another module. -/
def asForeign (specifier : Node) : Node :=
  match specifier with
  | .mk kind span (.mk (.identifier name) inner parts :: seen) =>
    .mk kind span (.mk (.word name) inner parts :: seen)
  | specifier => specifier

/-- Whether the exported name can be a variable of this module. -/
def isOwnExport (specifier : Node) : Bool :=
  match specifier.parts.head?.map Node.kind with
  | some (.identifier _) => true
  | _ => false

/-- An export of names in braces, of this module or of the one that follows `from`. -/
def exportNames (start : Nat) : Reader Node := do
  expect .braceL
  let (specifiers, _) ← separated .braceR exportSpecifier
  if ← isAtWord "from" then
    let source ← fromSource
    semicolon
    node start .exportNamed (specifiers.map asForeign ++ source)
  else
    -- Without a source the names have to be variables of this module.
    require (specifiers.all isOwnExport)
    semicolon
    node start .exportNamed specifiers

/-- An export of all that another module exports. -/
def exportAll (start : Nat) : Reader Node := do
  expect (.binary .multiply)
  let name ← if ← eatWord "as" then pure [← exportedName] else pure []
  let source ← fromSource
  semicolon
  node start .exportAll (name ++ source)

/-- The default export: a function or class that may have no name, or an expression. -/
def exportDefault (start : Nat) : Reader Node := do
  expectWord "default"
  let exported ←
    if (← isAtWord "function") || (← isAtAsyncFunction) then functionDeclaration recur true
    else if ← isAtWord "class" then classLike recur true true
    else
      let value ← value recur
      semicolon
      pure value
  node start .exportDefault [exported]

/-- Whether a declaration that can be exported starts here. -/
def isAtDeclaration : Reader Bool := do
  let first ← token
  return ["var", "let", "const", "function", "class"].any first.isWord || (← isAtAsyncFunction)

/-- An export. -/
def exportDeclaration : Reader Node := do
  let start ← start
  expectWord "export"
  if ← isAt .braceL then exportNames start
  else if ← isAt (.binary .multiply) then exportAll start
  else if ← isAtWord "default" then exportDefault recur start
  else
    require (← isAtDeclaration)
    let declaration ← recur (.statement false)
    node start .exportNamed [declaration]

/-- A statement or declaration, an import or an export. -/
def statement (isBody : Bool) : Reader Node := do
  match (← token).shape with
  | .mark .braceL => block recur
  | .mark .semicolon => leaf .empty
  | .word "import" false =>
    -- `import(…)` and `import.meta` are expressions.
    if ← isNext fun next => next.isMark .parenL || next.isMark .dot then
      expressionStatement recur
    else importDeclaration
  | .word "export" false => exportDeclaration recur
  | .word name false => wordStatement recur name isBody
  | _ => expressionStatement recur

/-- A whole module: statements up to the end of the text. -/
def program : Reader Node := do
  let start ← start
  let statements ←
    itemsUntil (do return (← token).shape = .finish) (recur (.statement false))
  node start .program (markDirectives statements)

end MiniApp.Script.Reader
