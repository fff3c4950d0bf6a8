import MiniApp.Script.Grammar.Class
import MiniApp.Script.Grammar.Literal
import MiniApp.Proofs.Script.Reading
import Mathlib.Data.List.Basic

/-!
# Patterns, functions, classes and literals stand in order

Provided that the readers of all goals read trees that stand in order, so do the readers of
patterns, functions, classes and literals.
-/

set_option autoImplicit false

namespace MiniApp.Script.Reader

open State (At Read)

variable {source : List Char} {recur : Recur} (hrecur : ∀ goal, Reads source (recur goal))

include hrecur

/-! ### Patterns -/

/-- A value is read as one tree. -/
theorem reads_value : Reads source (value recur) :=
  (hrecur _).withIn

/-- A computed key is the expression in its brackets. -/
theorem computedKey_reads (place : Nat) : Triple (At source place)
    (do expect .bracketL; let key ← value recur; expect .bracketR; return (key, true))
    fun key => Read source place [key.1] := by
  refine (takes_expect _ place).bind fun _ => ?_
  refine ((reads_value hrecur).appends _ _).bind fun key => ?_
  exact ((takes_expect _).passes _ _).bind fun _ => Triple.pure fun _ h => h

/-- A key that is a name takes at least one character. -/
theorem propertyKey_spec (place : Nat) (first : Token) :
    Triple (fun s => s.At source place ∧ s.token = first) (propertyKey recur) fun key s =>
      s.Read source place [key.1] ∧ ∀ setting name, first.variableName? setting = some name →
        key.1.span.Spells source name := by
  refine Triple.token fun token => ?_
  -- A key of one token is spelled as its first token is.
  have hleaf : ∀ kind : Kind, ¬ kind.IsUse →
      Triple (fun s => (s.At source place ∧ s.token = first) ∧ s.token = token)
        (do return (← leaf kind, false)) fun (key : Node × Bool) s =>
          s.Read source place [key.1] ∧ ∀ setting name, first.variableName? setting = some name →
            key.1.span.Spells source name := by
    intro kind hkind
    refine ((leaf_spec fun huse => absurd huse hkind).weaken (fun s h => h.1) ?_).bind fun key =>
      Triple.pure fun _ h => h
    exact fun key s h => ⟨h.1, fun setting name hname =>
      (word_of_variableName hname).elim (h.2 name)⟩
  split
  · exact hleaf _ nofun
  · exact hleaf _ nofun
  · exact hleaf _ nofun
  · exact hleaf _ nofun
  · -- Any other key stands in brackets and does not start with a name.
    rename_i hword _ _ _
    intro s key s' hs heq
    obtain ⟨⟨hat, hfirst⟩, htoken⟩ := hs
    refine ⟨computedKey_reads hrecur place s key s' hat heq, fun setting name hname => ?_⟩
    unfold Token.variableName? at hname
    split at hname
    · rename_i hshape
      exact absurd (htoken ▸ hfirst ▸ hshape) (hword _ _)
    · exact nomatch hname

/-- A key of any kind is read as one tree. -/
theorem propertyKey_reads (place : Nat) :
    Triple (At source place) (propertyKey recur) fun key => Read source place [key.1] :=
  fun s key s' hs heq => (propertyKey_spec hrecur place s.token s key s' ⟨hs, rfl⟩ heq).1

/-- A target is read as one tree with its default value, if it has one. -/
theorem withDefault_reads {place own : Nat} {target : Node} (hown : own ≤ place) :
    Triple (Read source own [target]) (withDefault recur own target) fun tree =>
      Read source place [tree] := by
  refine (passes_eat _ _ _).bind fun taken => ?_
  cases taken with
  | true =>
      refine ((reads_value hrecur).appends _ _).bind fun default => ?_
      exact node_reads hown nofun
  | false => exact Triple.pure fun s hs => hs.widen hown

/-- So is a declared target. -/
theorem reads_bindingElement : Reads source (bindingElement recur) := by
  refine fun place => Triple.start fun own hown => ?_
  exact (hrecur _ own).bind fun target => withDefault_reads hrecur hown

omit hrecur in
/-- What stands behind three points is read as one tree with them. -/
theorem reads_rest {target : Reader Node} (htarget : Reads source target) :
    Reads source (rest target) := by
  refine fun place => Triple.start fun own hown => ?_
  refine (takes_expect _ own).bind fun _ => ?_
  exact (htarget.appends _ _).bind fun inner => node_reads hown nofun

omit hrecur in
/-- The parts of a pattern are read one behind the other, up to the closing mark. -/
theorem readsAll_patternParts {close : Mark} {part : Reader Node} (hpart : Appends source part) :
    ReadsAll source (patternParts close part) := by
  refine fun place nodes => (separated_reads hpart).bind fun answer => ?_
  exact Triple.require fun _ => Triple.pure fun _ h => h

/-- A pattern that takes an array apart is read as one tree around its parts. -/
theorem reads_arrayPattern : Reads source (arrayPattern recur) := by
  refine fun place => Triple.start fun own hown => ?_
  refine (takes_expect _ own).bind fun _ => ?_
  refine (readsAll_patternParts ?_ _ _).bind fun elements => node_reads hown nofun
  refine fun place nodes => (looks_isAt _).bind_triple fun isHole => ?_
  refine Triple.ite (fun _ => appends_absent _ _) fun _ => ?_
  refine (looks_isAt _).bind_triple fun isRest => ?_
  exact Triple.ite (fun _ => (reads_rest (hrecur _)).appends _ _)
    fun _ => (reads_bindingElement hrecur).appends _ _

omit hrecur in
/-- A name that stands for a key and what is bound to it, given the key. -/
theorem shorthand_reads {own : Nat} {kind : Kind} {key : Node} {s : Script.State}
    (hread : s.Read source own [key]) (huse : kind.IsUse → key.span.Spells source kind.usedName) :
    s.Read source own [.mk kind key.span []] := by
  have hkey := (Node.inOrder_cons.mp hread.inOrder).1
  have hname : Node.Fits source own s.lastStop (.mk kind key.span []) :=
    Node.fits_mk.mpr ⟨hkey.start_le, hkey.le_stop, huse, Node.inOrder_nil.mpr hkey.stop_le_start⟩
  exact ⟨hread.sound, hname.inOrder⟩

/-- A property of a pattern is read as one tree, with a key of its own or without. -/
theorem reads_bindingProperty : Reads source (bindingProperty recur) := by
  refine fun place => Triple.first fun first hfirst => ?_
  refine Triple.ite (fun _ => ?_) fun _ => looks_get.bind_triple fun state => ?_
  · exact (reads_rest reads_binding place).weaken
      (fun s h => ⟨h.1.sound, Nat.le_trans h.1.start hfirst⟩)
      fun _ _ h => h
  · refine Triple.bind ((propertyKey_reads hrecur first.start).weaken (fun s h => h.1)
      fun _ _ h => h) fun key => (passes_eat _ _ _).bind fun taken => ?_
    cases taken with
    | true =>
        refine ((reads_bindingElement hrecur).appends _ _).bind fun target => ?_
        exact node_reads hfirst nofun
    | false =>
        simp only [Bool.false_eq_true, if_false]
        split
        · rename_i name hname
          refine (withDefault_reads hrecur hfirst).weaken (fun s hs => ?_) fun _ _ h => h
          exact shorthand_reads hs nofun
        · exact Triple.failure

/-- A pattern that takes an object apart is read as one tree around its properties. -/
theorem reads_objectPattern : Reads source (objectPattern recur) := by
  refine fun place => Triple.start fun own hown => ?_
  refine (takes_expect _ own).bind fun _ => ?_
  refine (readsAll_patternParts ?_ _ _).bind fun properties => node_reads hown nofun
  exact (reads_bindingProperty hrecur).appends

/-- What a declaration binds is read as one tree. -/
theorem reads_declaredTarget : Reads source (declaredTarget recur) := by
  refine (looks_isAt _).bind_reads fun isArray => ?_
  refine Reads.ite (reads_arrayPattern hrecur) ?_
  refine (looks_isAt _).bind_reads fun isObject => ?_
  exact Reads.ite (reads_objectPattern hrecur) reads_binding

/-- The parameters of a function are read as one tree, parentheses included. -/
theorem reads_parameters : Reads source (parameters recur) := by
  refine fun place => Triple.start fun own hown => ?_
  refine (takes_expect _ own).bind fun _ => ?_
  refine (readsAll_patternParts ?_ _ _).bind fun targets => node_reads hown nofun
  refine fun place nodes => (looks_isAt _).bind_triple fun isRest => ?_
  exact Triple.ite (fun _ => (reads_rest (hrecur _)).appends _ _)
    fun _ => (reads_bindingElement hrecur).appends _ _

/-! ### Functions -/

/-- Statements are read one behind the other. -/
theorem readsAll_statements {done : Reader Bool} (hdone : Looks done) :
    ReadsAll source (itemsUntil done (recur (.statement false))) :=
  readsAll_itemsUntil hdone (hrecur _).appends

/-- So are statements in braces. -/
theorem statementsInBraces_reads (place : Nat) :
    Triple (At source place) (statementsInBraces recur) fun statements =>
      Read source place statements := by
  refine (takes_expect _ place).bind fun _ => ?_
  refine (readsAll_statements hrecur (looks_isAt _) _ _).bind fun statements => ?_
  exact ((takes_expect _).passes _ _).bind fun _ => Triple.pure fun _ h => h

/-- The body of a function is read as one tree, braces included. -/
theorem reads_functionBody : Reads source (functionBody recur) := by
  refine fun place => Triple.start fun own hown => ?_
  refine ((statementsInBraces_reads hrecur own).within (fun _ => at_setting)
    fun _ _ => read_setting).bind fun statements => ?_
  exact node_reads_of (fun s hs => ⟨hs.sound, hs.inOrder.markDirectives⟩) hown nofun

/-- A function from its parameters on, wherever these may start. -/
theorem functionFrom_reads {P : Script.State → Prop} {place own : Nat} {kind : FunctionKind}
    {isAsync isGenerator : Bool} {name : List Node} (hown : own ≤ place)
    (hP : ∀ s setting, P s → P { s with setting })
    (hparameters : Triple P (parameters recur) fun parameters =>
      Read source own (name ++ [parameters])) :
    Triple P (functionFrom recur own kind isAsync isGenerator name) fun function =>
      Read source place [function] := by
  refine Triple.within (hparameters.bind fun parameters => ?_) hP fun _ _ => read_setting
  refine ((reads_functionBody hrecur).appends _ _).bind fun body => ?_
  exact node_reads_of (fun s hs => by simpa using hs) hown nofun

/-- A method from its parameters on, behind its key. -/
theorem methodFrom_reads {place own : Nat} {kind : MethodKind}
    {isStatic computed isAsync isGenerator : Bool} {key : Node} (hown : own ≤ place) :
    Triple (Read source own [key]) (methodFrom recur own kind isStatic computed isAsync
      isGenerator key)
      fun method => Read source place [method] := by
  have hfunction : Reads source (do
      let paren ← Reader.start
      functionFrom recur paren .method isAsync isGenerator []) :=
    fun place => Triple.start fun paren hparen =>
      functionFrom_reads hrecur hparen (fun _ => at_setting) (reads_parameters hrecur paren)
  rw [methodFrom, ← bind_assoc]
  refine (hfunction.appends _ _).bind fun function => ?_
  exact Triple.require fun _ => node_reads hown nofun

/-- A function from the word `function` on. -/
theorem functionLike_reads {place own : Nat} {kind : FunctionKind} {isAsync nameless : Bool}
    (hown : own ≤ place) :
    Triple (At source own) (functionLike recur own kind isAsync nameless) fun function =>
      Read source place [function] := by
  refine (takes_expectWord _ own).bind fun _ => (passes_eat _ _ _).bind fun isGenerator => ?_
  refine (looks_isAt _).bind_triple fun isAtParameters => ?_
  simp only [pure_bind]
  refine Triple.ite (fun _ => ?_) fun _ => ?_
  · exact functionFrom_reads hrecur hown (fun _ => read_setting)
      ((reads_parameters hrecur).appends _ _)
  · refine (reads_binding.within.appends _ _).bind fun name => ?_
    exact functionFrom_reads hrecur hown (fun _ => read_setting)
      ((reads_parameters hrecur).appends _ _)

omit hrecur in
/-- The test for an asynchronous function moves nothing. -/
theorem looks_isAtAsyncFunction : Looks isAtAsyncFunction :=
  (looks_isAtWord _).bind fun _ => Looks.ite (looks_isNext _) (looks_pure _)

/-- The word `async` may stand before a function. -/
theorem asyncFunction_reads (kind : FunctionKind) (nameless : Bool) : Reads source (do
    let own ← start
    let isAsync ← eatWord "async"
    functionLike recur own kind isAsync nameless) := by
  refine fun place => Triple.start fun own hown => (eatWord_spec _ own).bind fun isAsync => ?_
  refine (functionLike_reads hrecur hown).weaken (fun s hs => ?_) fun _ _ h => h
  cases isAsync with
  | true => exact hs.at
  | false => exact hs

/-- A function expression is read as one tree. -/
theorem reads_functionExpression : Reads source (functionExpression recur) :=
  asyncFunction_reads hrecur .expression true

/-- So is a function declaration, with a name or without. -/
theorem reads_functionDeclaration (nameless : Bool) :
    Reads source (functionDeclaration recur nameless) :=
  asyncFunction_reads hrecur .declaration nameless

omit hrecur in
/-- A tree may also start with the token behind one that is no part of any tree. -/
theorem advance_at (place : Nat) : Triple (At source place) advance fun _ => At source place :=
  (takes_advance place).weaken (fun _ h => h) fun _ _ h => h.at

omit hrecur in
/-- The words before a key are not part of any tree. -/
theorem methodWords_at (place : Nat) :
    Triple (At source place) methodWords fun _ => At source place := by
  have heat : ∀ mark, Triple (At source place) (eat mark) fun _ => At source place := by
    refine fun mark => (eat_spec mark place).weaken (fun _ h => h) fun taken s hs => ?_
    cases taken with
    | true => exact hs.at
    | false => exact hs
  refine (looks_isAtWord _).bind_triple fun isGet => (looks_isNext _).bind_triple fun isBefore => ?_
  refine Triple.ite (fun _ => ?_) fun _ => ?_
  · exact (advance_at place).bind fun _ => Triple.pure fun _ h => h
  refine (looks_isAtWord _).bind_triple fun isSet => (looks_isNext _).bind_triple fun isBefore => ?_
  refine Triple.ite (fun _ => ?_) fun _ => ?_
  · exact (advance_at place).bind fun _ => Triple.pure fun _ h => h
  refine (looks_isAtWord _).bind_triple fun isAsync =>
    (looks_isNext _).bind_triple fun isBefore => ?_
  extract_lets isAsync follow
  have hfollow : ∀ u, Triple (At source place) (follow u) fun _ => At source place :=
    fun _ => (heat _).bind fun _ => Triple.pure fun _ h => h
  exact Triple.ite (fun _ => (advance_at place).bind hfollow) fun _ => hfollow ()

/-! ### Classes -/

omit hrecur in
/-- The test whether a word stands before a key moves nothing. -/
theorem looks_isBeforeKey (name : String) (sameLine : Bool) (also : Token → Bool) :
    Looks (isBeforeKey name sameLine also) :=
  (looks_isAtWord _).bind fun _ => Looks.ite (looks_isNext _) (looks_pure _)

/-- The key of a class element is read as one tree. -/
theorem classKey_reads (place : Nat) :
    Triple (At source place) (classKey recur) fun key => Read source place [key.1] := by
  refine looks_isAtPrivateName.bind_triple fun isPrivate => Triple.ite (fun _ => ?_) fun _ => ?_
  · exact (reads_privateName place).bind fun key => Triple.pure fun _ h => h
  · exact propertyKey_reads hrecur place

/-- A block of a class is read as one tree from where its element starts. -/
theorem staticBlock_reads {place own : Nat} (hown : own ≤ place) :
    Triple (At source own) (staticBlock recur own) fun block => Read source place [block] := by
  refine ((statementsInBraces_reads hrecur own).within (fun _ => at_setting)
    fun _ _ => read_setting).bind fun statements => ?_
  exact node_reads hown nofun

/-- So is a field, from its key on. -/
theorem fieldFrom_reads {place own : Nat} {isStatic computed isAccessor : Bool} {key : Node}
    (hown : own ≤ place) :
    Triple (Read source own [key]) (fieldFrom recur own isStatic computed isAccessor
      key) fun field =>
      Read source place [field] := by
  have hfield : ∀ value, Triple (Read source own (key :: value)) (do
      let field ← node own (.field isStatic computed isAccessor) (key :: value)
      semicolon
      return field) fun field => Read source place [field] := by
    refine fun value => Triple.bind (node_reads hown nofun) fun field => ?_
    exact (passes_semicolon _ _).bind fun _ => Triple.pure fun _ h => h
  simp only [fieldFrom, pure_bind]
  refine (passes_eat _ _ _).bind fun hasValue => Triple.ite (fun _ => ?_) fun _ => hfield []
  exact ((hrecur .assignment).within.appends _ _).bind fun value => hfield [value]

/-- An element of a class is a tree, unless it is a lone semicolon. -/
theorem classElement_reads (place : Nat) (nodes : List Node) :
    Triple (Read source place nodes) (classElement recur) fun element =>
      Read source place (nodes ++ element.toList) := by
  unfold classElement
  refine (passes_eat _ _ _).bind fun isAlone => Triple.ite (fun _ => ?_) fun _ => ?_
  · exact Triple.pure fun s hs => by simpa using hs
  refine Triple.framed (fun place => Triple.start fun own hown => ?_) place nodes
  extract_lets isStar
  refine (looks_isBeforeKey _ _ _).bind_triple fun isStatic => ?_
  extract_lets follow
  -- All that comes behind the word `static`, which may be missing.
  have hfollow : ∀ u, Triple (At source own) (follow u) fun element =>
    Read source place element.toList := by
    refine fun _ => (looks_isAt _).bind_triple fun isBlock => Triple.ite (fun _ => ?_) fun _ => ?_
    · exact (staticBlock_reads hrecur hown).bind fun block => Triple.pure fun _ h => h
    refine (looks_isBeforeKey _ _ _).bind_triple fun isAccessor => ?_
    extract_lets keyed follow
    have hkeyed : ∀ words, Triple (At source own) (keyed words) fun element =>
        Read source place element.toList := by
      refine fun words => (classKey_reads hrecur own).bind fun (key, computed) => ?_
      refine Triple.require fun _ => (looks_isAt _).bind_triple fun isCall => ?_
      refine Triple.ite (fun _ => Triple.require fun _ => ?_) fun _ => Triple.require fun _ => ?_
      · exact (methodFrom_reads hrecur hown).bind fun method => Triple.pure fun _ h => h
      · exact (fieldFrom_reads hrecur hown).bind fun field => Triple.pure fun _ h => h
    have hfollow : ∀ u, Triple (At source own) (follow u) fun element =>
      Read source place element.toList := by
      refine fun _ => Triple.ite (fun _ => ?_) fun _ => ?_
      · exact (Triple.pure fun _ h => h).bind hkeyed
      · exact (methodWords_at own).bind hkeyed
    exact Triple.ite (fun _ => (advance_at own).bind hfollow) fun _ => hfollow ()
  exact Triple.ite (fun _ => (advance_at own).bind hfollow) fun _ => hfollow ()

/-- A class is read as one tree, with a name or without. -/
theorem reads_classLike (isDeclaration nameless : Bool) :
    Reads source (classLike recur isDeclaration nameless) := by
  unfold classLike
  refine fun place => Triple.start fun own hown => ?_
  refine (takes_expectWord _ own).bind fun _ => ?_
  refine looks_token.bind_triple fun first => looks_get.bind_triple fun state => ?_
  extract_lets hasName follow
  -- Behind the name comes what the class is based on, if anything, and then its elements.
  have hfollow : ∀ name, Triple (Read source own name) (follow name) fun tree =>
    Read source place [tree] := by
    intro name
    have helements : ∀ heritage, Triple (Read source own (name ++ heritage)) (do
        expect .braceL
        let elements ← itemsUntil (isAt .braceR) (classElement recur)
        expect .braceR
        node own (.classLike isDeclaration) (name ++ heritage ++ elements.filterMap id)) fun tree =>
          Read source place [tree] := by
      refine fun heritage => ((takes_expect _).passes _ _).bind fun _ => ?_
      refine (itemsUntil_reads (looks_isAt _) (classElement_reads hrecur own)).bind
        fun elements => ?_
      refine ((takes_expect _).passes _ _).bind fun _ => ?_
      refine node_reads_of (fun s hs => ?_) hown nofun
      rwa [List.filterMap_eq_flatMap_toList]
    simp only [follow, pure_bind]
    refine clause_reads (fun start place hstart hname => ?_) (by simpa using helements [])
    refine ((hrecur _).appends _ _).bind fun base => ?_
    refine Triple.bind (node_reads hstart nofun) fun heritage => ?_
    exact (helements [heritage]).weaken (fun s hs => hs.behind hname) fun _ _ h => h
  refine Triple.require fun _ => Triple.ite (fun _ => ?_) fun _ => ?_
  · refine (reads_binding.appends _ _).bind fun name => ?_
    rw [pure_bind]
    exact hfollow [name]
  · rw [pure_bind]
    exact hfollow []

/-! ### Literals -/

/-- A spread is read as one tree with its points. -/
theorem reads_spread : Reads source (spread recur) := by
  refine fun place => Triple.start fun own hown => (takes_expect _ own).bind fun _ => ?_
  exact ((reads_value hrecur).appends _ _).bind fun inner => node_reads hown nofun

/-- So is an element, whether it is spread or not. -/
theorem reads_element : Reads source (element recur) :=
  (looks_isAt _).bind_reads fun _ => Reads.ite (reads_spread hrecur) (reads_value hrecur)

/-- Arguments are read one behind the other. -/
theorem arguments_reads (place : Nat) :
    Triple (At source place) (arguments recur) fun arguments => Read source place arguments := by
  refine (takes_expect _ place).bind fun _ => ?_
  refine (separated_reads (reads_element hrecur).appends).bind fun answer => ?_
  exact Triple.pure fun _ h => h

/-- An array literal is read as one tree around its elements, those that are left out included. -/
theorem reads_arrayLiteral : Reads source (arrayLiteral recur) := by
  refine fun place => Triple.start fun own hown => (takes_expect _ own).bind fun _ => ?_
  refine (separated_reads ?_).bind fun (elements, endsInComma) => node_reads hown nofun
  refine fun place nodes => (looks_isAt _).bind_triple fun isHole => ?_
  exact Triple.ite (fun _ => appends_absent _ _) fun _ => (reads_element hrecur).appends _ _

/-- A property of an object literal is read as one tree, whatever its form. -/
theorem reads_objectProperty : Reads source (objectProperty recur) := by
  refine (looks_isAt _).bind_reads fun isSpread => Reads.ite (reads_spread hrecur) ?_
  refine fun place => Triple.start fun own hown => (methodWords_at own).bind fun words => ?_
  refine Triple.token fun first => ?_
  refine (propertyKey_spec hrecur own first).bind fun (key, computed) => ?_
  refine Triple.known fun hname => (looks_isAt _).bind_triple fun isCall => ?_
  refine Triple.ite (fun _ => methodFrom_reads hrecur hown) fun _ => ?_
  refine (passes_eat _ _ _).bind fun hasValue => Triple.ite (fun _ => ?_) fun _ => ?_
  · exact ((reads_value hrecur).appends _ _).bind fun value => node_reads hown nofun
  refine looks_get.bind_triple fun state => ?_
  split
  · exact Triple.failure
  · -- Only a name can be a shorthand, and such a key takes at least one character.
    rename_i name hshorthand
    have hkey : ∀ s : Script.State, s.Read source own [key] →
        s.Read source own [.mk (.shorthand name) key.span []] :=
      fun s hs => shorthand_reads hs fun _ => hname _ _ hshorthand
    refine Triple.bind ((passes_eat _ own _).weaken hkey fun _ _ h => h) fun hasDefault => ?_
    refine Triple.ite (fun _ => ?_) fun _ => ?_
    · exact ((reads_value hrecur).appends _ _).bind fun default => node_reads hown nofun
    · exact Triple.pure fun s hs => hs.widen hown

/-- An object literal is read as one tree around its properties. -/
theorem reads_objectLiteral : Reads source (objectLiteral recur) := by
  refine fun place => Triple.start fun own hown => (takes_expect _ own).bind fun _ => ?_
  refine (separated_reads (reads_objectProperty hrecur).appends).bind
    fun (properties, endsInComma) => ?_
  exact node_reads hown nofun

omit hrecur in
/-- A mark that is read again as another token keeps its place and takes no less. -/
theorem rescanned_spec {rescan : Token → List Char → Option (Token × List Char)}
    (hrescan : ∀ old rest token after, rescan old rest = some (token, after) →
      token.stop = after.length ∧ token.start = old.start ∧ after <:+ rest ∧
        (∀ name escaped, token.shape ≠ .word name escaped) ∧ ∀ mark, token.shape ≠ .mark mark)
    {s s' : Script.State} {answer : Unit} {mark : Mark} (hs : s.IsSound source)
    (hold : s.token.shape = .mark mark) (hsemicolon : mark ≠ .semicolon)
    (heq : rescanned rescan s = some (answer, s')) :
    s'.IsSound source ∧ s'.token.start = s.token.start ∧ s'.token.stop ≤ s.token.stop ∧
      s'.lastStop = s.lastStop := by
  have hfinish : s.token.shape ≠ .finish := by
    rw [hold]
    nofun
  obtain ⟨⟨token, after⟩, hscan, hs'⟩ := Option.bind_eq_some_iff.mp heq
  obtain ⟨hstop, hstart, hafter, hword, hmark⟩ := hrescan _ _ _ _ hscan
  have hinSource := hafter.trans hs.inSource
  have hle : token.stop ≤ s.token.stop := by
    rw [hstop, hs.rest]
    exact hafter.length_le
  -- The new token starts where the old one did and goes on behind it, so it is not empty either.
  have hless : token.stop < token.start := by
    rw [hstart]
    exact Nat.lt_of_le_of_lt hle (hs.nonempty hfinish)
  obtain ⟨c, behind, hsuffix, hfirst, hsolid, honly⟩ := hs.opens hfinish
  cases hs'
  refine ⟨⟨hinSource, hstop, Nat.le_of_lt hless, ?_, fun _ => hless, fun _ => ?_,
    fun name escaped h => absurd h (hword _ _), fun mark h => absurd h (hmark _)⟩, hstart, hle, rfl⟩
  · show token.start ≤ s.lastStop
    rw [hstart]
    exact hs.start
  · refine ⟨c, behind, hsuffix, hstart.trans hfirst, hsolid, fun hc => ?_⟩
    have hmark := hold.symm.trans (honly hc)
    injection hmark with hmark
    exact absurd hmark hsemicolon

/-- A template is read as one tree around the expressions in it. -/
theorem reads_template (tagged : Bool) : Reads source (template recur tagged) := by
  refine fun place => Triple.start fun own hown => ?_
  refine Triple.bind (Q := fun parts s => s.Read source own parts.reverse) ?_ fun parts => ?_
  case refine_2 => exact node_reads hown nofun
  -- The first piece starts the template, and every other one follows what was read before.
  refine (Triple.iterate (a := []) (Q := fun read s =>
    s.At source own ∧ (read ≠ [] → s.Read source own read.reverse)) fun read => ?_).weaken
      (fun s hs => ⟨hs, fun h => absurd rfl h⟩) fun _ _ h => h
  refine looks_token.bind_triple fun token => ?_
  split
  · rename_i text valid isLast hshape
    refine Triple.require fun _ => ?_
    have hleaf : Reads source (leaf (.chunk text)) := reads_leaf nofun
    have hchunk : Triple (fun s => s.At source own ∧ (read ≠ [] → s.Read source own read.reverse))
        (leaf (.chunk text)) fun chunk s => s.Read source own (chunk :: read).reverse := by
      cases read with
      | nil => exact (hleaf own).weaken (fun s hs => hs.1) fun _ _ h => h
      | cons first more =>
          refine (hleaf.appends own _).weaken (fun s hs => hs.2 (List.cons_ne_nil _ _)) ?_
          exact fun chunk s hs => by simpa using hs
    refine hchunk.bind fun chunk => Triple.ite (fun _ => Triple.pure fun _ h => h) fun _ => ?_
    refine (((hrecur _).withIn).appends _ _).bind fun inner => ?_
    refine (isAt_spec _).bind fun isClosed => Triple.require fun hclosed => ?_
    refine Triple.bind (Q := fun _ s => s.Read source own (inner :: chunk :: read).reverse) ?_
      fun _ => Triple.pure fun s hs => ⟨hs.at, fun _ => hs⟩
    intro s a s' hs heq
    obtain ⟨hsound, -, -, hlast⟩ :=
      rescanned_spec (fun _ _ _ _ => rescanChunk_spec) hs.1.sound (hs.2 hclosed) nofun heq
    refine ⟨hsound, ?_⟩
    rw [hlast, List.reverse_cons]
    exact hs.1.inOrder
  · exact Triple.failure

omit hrecur in
/-- A regular expression is read as one node, from the slash on that was taken for a mark. -/
theorem regex_reads {mark : Mark} (hmark : mark ≠ .semicolon) (place : Nat) :
    Triple (fun s => s.At source place ∧ s.token.shape = .mark mark) regex fun regex =>
      Read source place [regex] := by
  refine Triple.bind (Q := fun _ => At source place) ?_ fun _ => ?_
  · intro s a s' hs heq
    obtain ⟨hsound, hstart, -⟩ :=
      rescanned_spec (fun _ _ _ _ => rescanRegex_spec) hs.1.sound hs.2 hmark heq
    exact ⟨hsound, hstart ▸ hs.1.start⟩
  · refine looks_token.bind_triple fun token => ?_
    split
    · exact (reads_leaf nofun : Reads source (leaf (.regex _))) place
    · exact Triple.failure

end MiniApp.Script.Reader
