import MiniApp.Script.Node

/-!
# Scopes of names

Which names a construct binds, and in which of its parts they can be seen, by the rules of the
language for modules:

* `var` is seen in the innermost function, static block or module around it, wherever it stands
  there (`Node.varNames`);
* `let`, `const`, `using`, classes and functions that are declared are seen in the innermost
  sequence of statements around them, before and after their declaration, and so are imports
  (`Node.lexicalNames`);
* parameters are seen in their function, the name of a function or class in the function or class
  itself, the parameter of a handler of exceptions in that handler, and what the head of a loop
  declares in the whole loop (`scopeNames`).

Functions that are declared inside a block are not seen outside of it, since a module is strict.
-/

set_option autoImplicit false

namespace MiniApp.Script

namespace Node

/-! ### Names in patterns -/

mutual

/-- The names that a declared target binds. -/
def targetNames : Node → List String
  | mk (.binding name) _ _ => [name]
  | mk .arrayPattern _ parts | mk .objectPattern _ parts | mk .rest _ parts => allTargetNames parts
  | mk .withDefault _ (target :: _) => targetNames target
  | mk (.property _) _ [_, target] => targetNames target
  | _ => []

/-- The names that declared targets bind. -/
def allTargetNames : List Node → List String
  | [] => []
  | node :: rest => targetNames node ++ allTargetNames rest

end

/-- The names that a declaration of variables binds. -/
def declaredNames (declarators : List Node) : List String :=
  declarators.flatMap fun declarator => (declarator.parts.head?.map targetNames).getD []

/-- The own name of a function or class, given its parts. -/
def ownName (parts : List Node) : List String :=
  match parts with
  | mk (.binding name) _ _ :: _ => [name]
  | _ => []

/-! ### Names that statements declare -/

/-- The names that an import binds. -/
def importedNames (parts : List Node) : List String :=
  parts.flatMap fun part => match part with
    | mk (.binding name) _ _ => [name]
    | mk .importNamespace _ bindings | mk .importSpecifier _ bindings => allTargetNames bindings
    | _ => []

mutual

/-- The names that a statement declares for the sequence of statements it stands in. -/
def lexicalNames : Node → List String
  | mk (.variableDeclaration kind) _ parts => if kind = .var then [] else declaredNames parts
  | mk (.function .declaration _ _) _ parts | mk (.classLike true) _ parts => ownName parts
  | mk .importDeclaration _ parts => importedNames parts
  | mk .labeled _ parts | mk .exportNamed _ parts | mk .exportDefault _ parts =>
    allLexicalNames parts
  | _ => []

/-- The names that statements declare for the sequence they form. -/
def allLexicalNames : List Node → List String
  | [] => []
  | node :: rest => lexicalNames node ++ allLexicalNames rest

end

/-- Whether variables that are declared with `var` in the construct are seen only in it. -/
def keepsVariables : Kind → Bool
  | .function _ _ _ | .arrow _ _ | .staticBlock => true
  | _ => false

mutual

/-- The names that are declared with `var` in a tree, up to the functions in it. -/
def varNames : Node → List String
  | mk (.variableDeclaration .var) _ parts => declaredNames parts
  | mk kind _ parts => if keepsVariables kind then [] else allVarNames parts

/-- The names that are declared with `var` in trees, up to the functions in them. -/
def allVarNames : List Node → List String
  | [] => []
  | node :: rest => varNames node ++ allVarNames rest

end

/-! ### Scopes -/

/-- The names that are seen in all of the statements of a function, a static block or a module. -/
def bodyNames (statements : List Node) : List String :=
  allVarNames statements ++ allLexicalNames statements

/-- The parameters of a function, given its parts. -/
def parameterNames (parts : List Node) : List String :=
  parts.flatMap fun part => match part with
    | mk .parameters _ targets => allTargetNames targets
    | _ => []

/-- The names that a construct binds for all of its parts. -/
def scopeNames (kind : Kind) (parts : List Node) : List String :=
  match kind with
  | .function _ _ _ => ownName parts ++ parameterNames parts
  | .arrow _ _ => parameterNames parts
  | .classLike _ => ownName parts
  | .body | .staticBlock | .program => bodyNames parts
  | .block => allLexicalNames parts
  | .forStatement | .forIn | .forOf _ => (parts.head?.map lexicalNames).getD []
  | .catchClause => if parts.length = 2 then (parts.head?.map targetNames).getD [] else []
  | _ => []

/-- The names that the cases of a choice between statements declare for each other. -/
def caseNames (cases : List Node) : List String :=
  cases.flatMap fun case => match case with
    | mk .switchCase _ (_ :: statements) | mk .switchDefault _ statements =>
      allLexicalNames statements
    | _ => []

end Node

end MiniApp.Script
