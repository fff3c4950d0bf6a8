import MiniApp.Script.Parse
import MiniApp.Proofs.Script.Grammar.Expression

/-!
# Statements and texts stand in order

Provided that the readers of all goals read trees that stand in order, so do the readers of
statements, imports and exports. The knot is tied by induction on the depth of the grammar's
recursion, and with it the proviso falls away:

* `expression?_fits`, `program?_fits`: whatever is read from a text stands in it in order.
-/

set_option autoImplicit false

namespace MiniApp.Script

namespace Reader

open State (At Read)

section Statements

variable {source : List Char} {recur : Recur} (hrecur : ∀ goal, Reads source (recur goal))

include hrecur

/-- A block is read as one tree around its statements. -/
theorem reads_block : Reads source (block recur) := by
  refine fun place => Triple.start fun own hown => ?_
  exact (statementsInBraces_reads hrecur own).bind fun statements => node_reads hown nofun

/-- A condition is read as one tree, parentheses included. -/
theorem reads_condition : Reads source (condition recur) := by
  refine fun place => (takes_expect _ place).bind fun _ => ?_
  refine ((hrecur _).withIn.appends _ _).bind fun condition => ?_
  exact ((takes_expect _).passes _ _).bind fun _ => Triple.pure fun _ h => h

/-! ### Declarations of variables -/

/-- A declared target is read as one tree with its value, if it has one. -/
theorem reads_declarator (kind : VariableKind) (lenient : Bool) :
    Reads source (declarator recur kind lenient) := by
  refine fun place => Triple.start fun own hown => ?_
  extract_lets follow
  have hfollow : ∀ target, Triple (Read source own [target]) (follow target) fun tree =>
      Read source place [tree] := by
    refine fun target => (passes_eat _ _ _).bind fun hasValue =>
      Triple.ite (fun _ => ?_) fun _ => ?_
    · exact ((hrecur _).appends _ _).bind fun value => node_reads hown nofun
    · extract_lets isName
      exact Triple.require fun _ => node_reads hown nofun
  exact Triple.ite (fun _ => (reads_binding own).bind hfollow) fun _ => (hrecur _ own).bind hfollow

/-- A declaration of variables is read as one tree around its targets. -/
theorem reads_variableDeclaration (kind : VariableKind) (lenient : Bool) :
    Reads source (variableDeclaration recur kind lenient) := by
  refine fun place => Triple.start fun own hown => (takes_advance own).bind fun _ => ?_
  extract_lets follow
  have hdeclarator := reads_declarator hrecur kind lenient
  have hfollow : ∀ u, Triple (Read source own []) (follow u) fun tree =>
    Read source place [tree] := by
    refine fun _ => (hdeclarator.appends _ _).bind fun first => ?_
    exact (readsAll_behindComma hdeclarator _ _).bind fun rest => node_reads hown nofun
  exact Triple.ite (fun _ => (takes_advance.passes _ _).bind hfollow) fun _ => hfollow ()

omit hrecur in
/-- The test for the words of a declaration moves nothing. -/
theorem looks_usingKind? (names : Token → Bool) : Looks (usingKind? names) := by
  refine (looks_isAtWord _).bind fun _ => Looks.ite ?_ ?_
  · exact (looks_isNext _).bind fun _ => looks_pure _
  · refine (looks_isAtWord _).bind fun _ => looks_get.bind fun _ => Looks.ite ?_ (looks_pure _)
    exact (looks_ahead _).bind fun _ => looks_pure _

/-- A declaration is read as one tree with the end of its statement. -/
theorem reads_variableStatement (kind : VariableKind) :
    Reads source (variableStatement recur kind) := by
  refine fun place => Triple.start fun own hown => ?_
  refine (reads_variableDeclaration hrecur kind false own).bind fun declaration => ?_
  refine (passes_semicolon _ _).bind fun _ => node_reads_of (fun s hs => ?_) hown nofun
  exact ⟨hs.sound, (Node.inOrder_cons.mp hs.inOrder).1.parts⟩

/-! ### Loops -/

/-- A part of the head of a loop is read as one tree, which is left out if it is missing. -/
theorem appends_loopPart (close : Mark) : Appends source (loopPart recur close) := by
  refine fun place nodes => (looks_isAt _).bind_triple fun isMissing => ?_
  extract_lets follow
  have hfollow : ∀ part, Triple (Read source place (nodes ++ [part])) (follow part) fun part =>
      Read source place (nodes ++ [part]) :=
    fun part => ((takes_expect _).passes _ _).bind fun _ => Triple.pure fun _ h => h
  refine Triple.ite (fun _ => ?_) fun _ => ?_
  · exact (appends_absent _ _).bind hfollow
  · exact ((hrecur _).withIn.appends _ _).bind hfollow

/-- A counting loop is read as one tree around what starts it. -/
theorem countingLoop_reads {place own : Nat} {first : Node} (hown : own ≤ place) :
    Triple (Read source own [first]) (countingLoop recur own first) fun loop =>
      Read source place [loop] := by
  refine ((takes_expect _).passes _ _).bind fun _ => ?_
  refine (appends_loopPart hrecur _ _ _).bind fun condition => ?_
  refine (appends_loopPart hrecur _ _ _).bind fun step => ?_
  exact ((hrecur _).appends _ _).bind fun body => node_reads hown nofun

/-- A loop over an object, or nothing has been read. -/
theorem eachLoop_reads {place own : Nat} {isAwait : Bool} {first : Node} {target : Reader Node}
    (hown : own ≤ place)
    (htarget : Triple (Read source own [first]) target fun target => Read source own [target]) :
    Triple (Read source own [first]) (eachLoop recur own isAwait target) fun loop? s =>
      match loop? with
      | some loop => s.Read source place [loop]
      | none => s.Read source own [first] := by
  refine (looks_isAtWord _).bind_triple fun isOf => Triple.ite (fun _ => ?_) fun _ => ?_
  · refine htarget.bind fun target => (takes_advance.passes _ _).bind fun _ => ?_
    refine ((hrecur _).withIn.appends _ _).bind fun object => ?_
    refine ((takes_expect _).passes _ _).bind fun _ => ((hrecur _).appends _ _).bind fun body => ?_
    exact Triple.bind (node_reads hown nofun) fun loop => Triple.pure fun _ h => h
  refine (looks_isAtWord _).bind_triple fun isIn => Triple.ite (fun _ => ?_) fun _ => ?_
  · refine htarget.bind fun target => (takes_advance.passes _ _).bind fun _ => ?_
    refine ((hrecur _).withIn.appends _ _).bind fun object => ?_
    refine ((takes_expect _).passes _ _).bind fun _ => ((hrecur _).appends _ _).bind fun body => ?_
    exact Triple.bind (node_reads hown nofun) fun loop => Triple.pure fun _ h => h
  · exact Triple.pure fun _ h => h

omit hrecur in
/-- The test for a declaration in the head of a loop moves nothing. -/
theorem looks_loopVariableKind? : Looks loopVariableKind? := by
  refine (looks_isAtWord _).bind fun _ => Looks.ite (looks_pure _) ?_
  refine (looks_isAtWord _).bind fun _ => Looks.ite (looks_pure _) ?_
  refine (looks_isAtWord _).bind fun _ => Looks.ite ?_ (looks_usingKind? _)
  exact (looks_isNext _).bind fun _ => looks_pure _

/-- A loop with `for` is read as one tree, whatever its head. -/
theorem reads_forLoop : Reads source (forLoop recur) := by
  refine fun place => Triple.start fun own hown => (takes_expectWord _ own).bind fun _ => ?_
  refine (passes_eatWord _ _ _).bind fun isAwait => looks_get.bind_triple fun state => ?_
  refine Triple.require fun _ => ((takes_expect _).passes _ _).bind fun _ => ?_
  refine (looks_isAt _).bind_triple fun isEmpty => Triple.ite (fun _ => ?_) fun _ => ?_
  · exact Triple.require fun _ => (appends_absent _ _).bind fun first =>
      countingLoop_reads hrecur hown
  refine looks_loopVariableKind?.bind_triple fun kind? => ?_
  -- A loop starts with a declaration or an expression; what follows tells whether it goes over
  -- items or counts.
  split
  · rename_i kind
    have hdeclaration := (reads_variableDeclaration hrecur kind true).withoutIn
    refine (hdeclaration.appends _ _).bind fun declaration => ?_
    refine (eachLoop_reads hrecur hown (Triple.pure fun _ h => h)).bind fun loop? => ?_
    cases loop? with
    | some loop => exact Triple.pure fun _ h => h
    | none => exact Triple.require fun _ => countingLoop_reads hrecur hown
  · refine looks_token.bind_triple fun first => ?_
    refine ((hrecur _).withoutIn.appends _ _).bind fun expression => ?_
    refine (looks_isAtWord _).bind_triple fun isOf => ?_
    refine Triple.require fun _ => Triple.require fun _ => ?_
    refine (eachLoop_reads hrecur hown (target_reads own expression)).bind fun loop? => ?_
    cases loop? with
    | some loop => exact Triple.pure fun _ h => h
    | none => exact Triple.require fun _ => countingLoop_reads hrecur hown

/-- A loop with `while` is read as one tree. -/
theorem reads_whileLoop : Reads source (whileLoop recur) := by
  refine fun place => Triple.start fun own hown => (takes_expectWord _ own).bind fun _ => ?_
  refine ((reads_condition hrecur).appends _ _).bind fun condition => ?_
  exact ((hrecur _).appends _ _).bind fun body => node_reads hown nofun

/-- So is a loop whose condition stands behind its body. -/
theorem reads_doLoop : Reads source (doLoop recur) := by
  refine fun place => Triple.start fun own hown => (takes_expectWord _ own).bind fun _ => ?_
  refine ((hrecur _).appends _ _).bind fun body =>
    ((takes_expectWord _).passes _ _).bind fun _ => ?_
  refine ((reads_condition hrecur).appends _ _).bind fun condition => ?_
  exact (passes_eat _ _ _).bind fun _ => node_reads hown nofun

/-! ### Other statements -/

/-- A statement with `if` is read as one tree, with another branch or without. -/
theorem reads_ifStatement : Reads source (ifStatement recur) := by
  refine fun place => Triple.start fun own hown => (takes_expectWord _ own).bind fun _ => ?_
  refine ((reads_condition hrecur).appends _ _).bind fun condition => ?_
  refine ((hrecur _).appends _ _).bind fun yes => (passes_eatWord _ _ _).bind fun hasElse => ?_
  simp only [pure_bind]
  refine Triple.ite (fun _ => ?_) fun _ => node_reads hown nofun
  exact ((hrecur _).appends _ _).bind fun no => node_reads hown nofun

/-- A statement with `with` is read as one tree. -/
theorem reads_withStatement : Reads source (withStatement recur) := by
  refine fun place => Triple.start fun own hown => (takes_expectWord _ own).bind fun _ => ?_
  refine ((reads_condition hrecur).appends _ _).bind fun object => ?_
  exact ((hrecur _).appends _ _).bind fun body => node_reads hown nofun

omit hrecur in
/-- A jump is read as one tree with its label, if it has one. -/
theorem reads_jump {kind : Kind} (hkind : ¬ kind.IsUse) : Reads source (jump kind) := by
  refine fun place => Triple.start fun own hown => (takes_advance own).bind fun _ => ?_
  refine looks_atStatementEnd.bind_triple fun isEnd => ?_
  simp only [pure_bind]
  refine Triple.ite (fun _ => ?_) fun _ => ?_
  · exact (passes_semicolon _ _).bind fun _ => node_reads hown hkind
  · refine looks_token.bind_triple fun label => looks_get.bind_triple fun state => ?_
    refine Triple.require fun _ => (reads_word.appends _ _).bind fun label => ?_
    exact (passes_semicolon _ _).bind fun _ => node_reads hown hkind

/-- A return is read as one tree with its value, if it has one. -/
theorem reads_returnStatement : Reads source (returnStatement recur) := by
  refine fun place => Triple.start fun own hown => looks_get.bind_triple fun state => ?_
  refine Triple.require fun _ => (takes_advance own).bind fun _ => ?_
  refine looks_atStatementEnd.bind_triple fun isEnd => ?_
  simp only [pure_bind]
  refine Triple.ite (fun _ => ?_) fun _ => ?_
  · exact (passes_semicolon _ _).bind fun _ => node_reads hown nofun
  · refine ((hrecur _).withIn.appends _ _).bind fun value => ?_
    exact (passes_semicolon _ _).bind fun _ => node_reads hown nofun

/-- A statement with `throw` is read as one tree with its value. -/
theorem reads_throwStatement : Reads source (throwStatement recur) := by
  refine fun place => Triple.start fun own hown => (takes_advance own).bind fun _ => ?_
  refine looks_token.bind_triple fun token => Triple.require fun _ => ?_
  refine ((hrecur _).withIn.appends _ _).bind fun value => ?_
  exact (passes_semicolon _ _).bind fun _ => node_reads hown nofun

/-- A case is read as one tree around its statements. -/
theorem reads_switchCase : Reads source (switchCase recur) := by
  refine fun place => Triple.start fun own hown => ?_
  extract_lets isEnd
  have hisEnd : Looks isEnd := (looks_isAtWord _).bind fun _ => (looks_isAtWord _).bind fun _ =>
    (looks_isAt _).bind fun _ => looks_pure _
  refine (eatWord_spec _ own).bind fun isDefault => ?_
  cases isDefault with
  | true =>
      refine ((takes_expect _).passes _ _).bind fun _ => ?_
      exact (readsAll_statements hrecur hisEnd _ _).bind fun statements => node_reads hown nofun
  | false =>
      refine (takes_expectWord _ own).bind fun _ =>
        ((hrecur _).withIn.appends _ _).bind fun test => ?_
      refine ((takes_expect _).passes _ _).bind fun _ => ?_
      exact (readsAll_statements hrecur hisEnd _ _).bind fun statements => node_reads hown nofun

/-- A choice between statements is read as one tree around its cases. -/
theorem reads_switchStatement : Reads source (switchStatement recur) := by
  refine fun place => Triple.start fun own hown => (takes_expectWord _ own).bind fun _ => ?_
  refine ((reads_condition hrecur).appends _ _).bind fun value => ?_
  refine ((takes_expect _).passes _ _).bind fun _ => ?_
  refine (readsAll_itemsUntil (looks_isAt _) (reads_switchCase hrecur).appends _ _).bind
    fun cases => ?_
  exact ((takes_expect _).passes _ _).bind fun _ => node_reads hown nofun

/-- A statement with `try` is read as one tree, handler and finalizer included. -/
theorem reads_tryStatement : Reads source (tryStatement recur) := by
  refine fun place => Triple.start fun own hown => (takes_expectWord _ own).bind fun _ => ?_
  refine ((reads_block hrecur).appends _ _).bind fun body => ?_
  -- The last clause may follow the handler or the block itself.
  have hfinalizer : ∀ handler : List Node, Triple (Read source own (body :: handler)) (do
      let finalizerStart ← Reader.start
      if ← eatWord "finally" then
        let block ← block recur
        let finalizer ← node finalizerStart .finallyClause [block]
        require (!handler.isEmpty || !List.isEmpty [finalizer])
        node own .tryStatement (body :: (handler ++ [finalizer]))
      else
        require (!handler.isEmpty || !([] : List Node).isEmpty)
        node own .tryStatement (body :: (handler ++ []))) fun tree => Read source place [tree] := by
    refine fun handler => clause_reads (fun start behind hstart hbefore => ?_) ?_
    · refine ((reads_block hrecur).appends _ _).bind fun block => ?_
      refine Triple.bind (node_reads hstart nofun) fun finalizer => Triple.require fun _ => ?_
      exact node_reads_of (fun s hs => hs.behind hbefore) hown nofun
    · refine Triple.require fun _ => node_reads_of (fun s hs => ?_) hown nofun
      rwa [List.append_nil]
  simp only [pure_bind]
  refine clause_reads (fun start behind hstart hbefore => ?_) (hfinalizer [])
  refine (passes_eat _ _ _).bind fun hasParameter => Triple.ite (fun _ => ?_) fun _ => ?_
  · refine ((hrecur _).appends _ _).bind fun target =>
      ((takes_expect _).passes _ _).bind fun _ => ?_
    refine ((reads_block hrecur).appends _ _).bind fun block => ?_
    refine Triple.bind (node_reads hstart nofun) fun handler => ?_
    exact (hfinalizer [handler]).weaken (fun s hs => hs.behind hbefore) fun _ _ h => h
  · refine ((reads_block hrecur).appends _ _).bind fun block => ?_
    refine Triple.bind (node_reads hstart nofun) fun handler => ?_
    exact (hfinalizer [handler]).weaken (fun s hs => hs.behind hbefore) fun _ _ h => h

/-- An expression or a statement with a label is read as one tree. -/
theorem reads_expressionStatement : Reads source (expressionStatement recur) := by
  refine fun place => Triple.start fun own hown => ((hrecur _).withIn own).bind fun expression => ?_
  split
  · rename_i name span
    refine (passes_eat _ _ _).bind fun isLabel => Triple.ite (fun _ => ?_) fun _ => ?_
    · refine ((hrecur _).appends _ _).bind fun body => node_reads_of (fun s hs => ?_) hown nofun
      obtain ⟨hlabel, hbody⟩ := Node.inOrder_cons.mp hs.inOrder
      exact ⟨hs.sound, Node.inOrder_cons.mpr ⟨hlabel.withKind nofun, hbody⟩⟩
    · exact (passes_semicolon _ _).bind fun _ => node_reads hown nofun
  · exact (passes_semicolon _ _).bind fun _ => node_reads hown nofun

/-- A function that is declared as a statement is read as one tree. -/
theorem reads_functionStatement (isBody : Bool) :
    Reads source (functionStatement recur isBody) := by
  refine fun place => (reads_functionDeclaration hrecur false place).bind fun function => ?_
  exact Triple.require fun _ => Triple.pure fun _ h => h

/-- A statement that starts with `let` is read as one tree, whether that is a name or declares
variables. -/
theorem reads_letStatement (isBody : Bool) : Reads source (letStatement recur isBody) := by
  refine (looks_isNext _).bind_reads fun _ => Reads.ite ?_ ?_
  · refine fun place => Triple.start fun own hown => (hrecur _ own).bind fun expression => ?_
    exact (passes_semicolon _ _).bind fun _ => node_reads hown nofun
  · refine (looks_isNext _).bind_reads fun _ => Reads.ite (reads_expressionStatement hrecur) ?_
    exact fun place => Triple.require fun _ => reads_variableStatement hrecur .let place

/-- A statement that starts with a word is read as one tree, whatever the word. -/
theorem reads_wordStatement (name : String) (isBody : Bool) :
    Reads source (wordStatement recur name isBody) := by
  unfold wordStatement
  split
  · exact reads_ifStatement hrecur
  · exact reads_forLoop hrecur
  · exact reads_whileLoop hrecur
  · exact reads_doLoop hrecur
  · exact reads_jump nofun
  · exact reads_jump nofun
  · exact reads_withStatement hrecur
  · exact reads_switchStatement hrecur
  · exact reads_throwStatement hrecur
  · exact reads_tryStatement hrecur
  · exact reads_returnStatement hrecur
  · refine fun place => Triple.start fun own hown => (takes_advance own).bind fun _ => ?_
    exact (passes_semicolon _ _).bind fun _ => node_reads hown nofun
  · exact fun place => Triple.require fun _ => reads_classLike hrecur true false place
  · exact reads_functionStatement hrecur isBody
  · exact reads_variableStatement hrecur .var
  · exact fun place => Triple.require fun _ => reads_variableStatement hrecur .const place
  · exact reads_letStatement hrecur isBody
  · refine looks_isAtAsyncFunction.bind_reads fun _ =>
      Reads.ite (reads_functionStatement hrecur isBody) ?_
    refine (looks_usingKind? _).bind_reads fun kind? => ?_
    split
    · exact fun place => Triple.require fun _ => reads_variableStatement hrecur _ place
    · exact reads_expressionStatement hrecur

/-! ### Imports and exports -/

omit hrecur in
/-- An attribute of an import is read as one tree. -/
theorem reads_importAttribute : Reads source importAttribute := by
  refine fun place => Triple.start fun own hown => looks_token.bind_triple fun token => ?_
  extract_lets follow
  have hfollow : ∀ key, Triple (Read source own [key]) (follow key) fun tree =>
    Read source place [tree] := by
    refine fun key => ((takes_expect _).passes _ _).bind fun _ => ?_
    exact (reads_string.appends _ _).bind fun value => node_reads hown nofun
  split
  · exact (reads_string own).bind hfollow
  · exact (reads_word own).bind hfollow

omit hrecur in
/-- The attributes are read one behind the other. -/
theorem readsAll_importAttributes : ReadsAll source importAttributes := by
  refine fun place nodes => looks_token.bind_triple fun first =>
    Triple.ite (fun _ => ?_) fun _ => ?_
  · refine (takes_advance.passes _ _).bind fun _ => ((takes_expect _).passes _ _).bind fun _ => ?_
    refine (separated_reads reads_importAttribute.appends).bind fun answer => ?_
    exact Triple.pure fun _ h => h
  · exact Triple.pure fun s hs => by simpa using hs

omit hrecur in
/-- So is the source of an import with its attributes. -/
theorem readsAll_fromSource : ReadsAll source fromSource := by
  refine fun place nodes => ((takes_expectWord _).passes _ _).bind fun _ => ?_
  refine (reads_string.appends _ _).bind fun source => ?_
  refine (readsAll_importAttributes _ _).bind fun attributes => Triple.pure fun s hs => ?_
  simpa using hs

omit hrecur in
/-- A name of a variable is a word, and a word spells its name. -/
theorem exportedName_spec (place : Nat) (first : Token) :
    Triple (fun s => s.At source place ∧ s.token = first) exportedName fun name s =>
      s.Read source place [name] ∧
      ∀ setting own, first.variableName? setting = some own → name.span.Spells source own := by
  refine Triple.token fun token => ?_
  split
  · -- A string is no name of a variable.
    rename_i text hshape
    intro s name s' hs heq
    refine ⟨reads_string place s name s' hs.1.1 heq, fun setting own hown => ?_⟩
    rw [← hs.1.2, hs.2, Token.variableName?, hshape] at hown
    exact nomatch hown
  · refine Triple.token fun token => ?_
    split
    · rename_i word _
      have hword : ¬ (Kind.word word).IsUse := nofun
      refine (leaf_spec fun huse => absurd huse hword).weaken
        (fun s hs => hs.1.1) fun name s hs => ?_
      exact ⟨hs.1, fun setting own hown => (word_of_variableName hown).elim (hs.2 own)⟩
    · exact Triple.failure

omit hrecur in
/-- A name that a module exports is read as one node. -/
theorem reads_exportedName : Reads source exportedName :=
  fun place s name s' hs heq => (exportedName_spec place s.token s name s' ⟨hs, rfl⟩ heq).1

omit hrecur in
/-- An imported name is read as one tree with the variable that it is bound to. -/
theorem reads_importSpecifier : Reads source importSpecifier := by
  refine fun place => Triple.start fun own hown => looks_token.bind_triple fun token => ?_
  refine looks_get.bind_triple fun state => (reads_exportedName own).bind fun name => ?_
  refine (passes_eatWord _ _ _).bind fun isRenamed => Triple.ite (fun _ => ?_) fun _ => ?_
  · exact (reads_binding.appends _ _).bind fun binding => node_reads hown nofun
  · split
    · exact node_reads_of (fun s hs => shorthand_reads hs nofun) hown nofun
    · exact Triple.failure

omit hrecur in
/-- Imported names are read one behind the other. -/
theorem importedNames_reads (place : Nat) :
    Triple (At source place) importedNames fun names => Read source place names := by
  refine Triple.start fun own hown => (eat_spec _ own).bind fun isAll => ?_
  cases isAll with
  | true =>
      refine ((takes_expectWord _).passes _ _).bind fun _ =>
        (reads_binding.appends _ _).bind fun name => ?_
      exact Triple.bind (node_reads hown nofun) fun tree => Triple.pure fun _ h => h
  | false =>
      refine (takes_expect _ own).bind fun _ => ?_
      refine (separated_reads reads_importSpecifier.appends).bind fun answer => ?_
      exact Triple.pure fun s hs => hs.widen hown

omit hrecur in
/-- An import is read as one tree around its names and its source. -/
theorem reads_importDeclaration : Reads source importDeclaration := by
  refine fun place => Triple.start fun own hown => (takes_expectWord _ own).bind fun _ => ?_
  refine looks_token.bind_triple fun token => ?_
  split
  · refine (reads_string.appends _ _).bind fun source => ?_
    refine (readsAll_importAttributes _ _).bind fun attributes => ?_
    exact (passes_semicolon _ _).bind fun _ => node_reads hown nofun
  · refine looks_token.bind_triple fun first => ?_
    extract_lets follow
    have hfollow : ∀ names, Triple (Read source own names) (follow names) fun tree =>
      Read source place [tree] := by
      refine fun names => (readsAll_fromSource _ _).bind fun source => ?_
      exact (passes_semicolon _ _).bind fun _ => node_reads hown nofun
    refine Triple.ite (fun _ => ?_) fun _ => ?_
    · refine (reads_binding.appends _ _).bind fun name => (passes_eat _ _ _).bind fun hasMore => ?_
      simp only [pure_bind]
      refine Triple.ite (fun _ => ?_) fun _ => hfollow [name]
      exact (Triple.framed importedNames_reads _ _).bind fun names => hfollow (name :: names)
    · exact (Triple.framed importedNames_reads _ _).bind hfollow

omit hrecur in
/-- An exported name is read as one tree with the name that others see. -/
theorem reads_exportSpecifier : Reads source exportSpecifier := by
  refine fun place => Triple.start fun own hown => Triple.token fun first => ?_
  refine looks_get.bind_triple fun state => (exportedName_spec own first).bind fun name => ?_
  refine Triple.known fun hname => ?_
  extract_lets name'
  -- A name that can be a variable is taken as one in the same place.
  have hname' : ∀ s : Script.State, s.Read source own [name] → s.Read source own [name'] := by
    intro s hs
    unfold name'
    split
    · rename_i own hown
      exact shorthand_reads hs fun _ => hname _ _ hown
    · exact hs
  refine Triple.bind ((passes_eatWord _ own _).weaken hname' fun _ _ h => h) fun isRenamed => ?_
  refine Triple.ite (fun _ => ?_) fun _ => node_reads hown nofun
  exact (reads_exportedName.appends _ _).bind fun seen => node_reads hown nofun

omit hrecur in
/-- As names of another module, exported names stand where they are. -/
theorem asForeign_inOrder {hi lo : Nat} {specifiers : List Node}
    (h : Node.InOrder source hi lo specifiers) :
      Node.InOrder source hi lo (specifiers.map asForeign) := by
  induction specifiers generalizing hi with
  | nil => exact h
  | cons specifier rest ih =>
      obtain ⟨hspecifier, hrest⟩ := Node.inOrder_cons.mp h
      refine Node.InOrder.cons_inside hspecifier ?_ (ih hrest)
      unfold asForeign
      split
      · obtain ⟨hstart, hstop, huse, hparts⟩ := Node.fits_mk.mp hspecifier.self
        obtain ⟨hname, hseen⟩ := Node.inOrder_cons.mp hparts
        exact Node.fits_mk.mpr
          ⟨hstart, hstop, huse, Node.inOrder_cons.mpr ⟨hname.withKind nofun, hseen⟩⟩
      · exact hspecifier.self

omit hrecur in
/-- An export of names is read as one tree from where the export starts. -/
theorem exportNames_reads {place own : Nat} (hown : own ≤ place) :
    Triple (Read source own []) (exportNames own) fun tree => Read source place [tree] := by
  refine ((takes_expect _).passes _ _).bind fun _ => ?_
  refine (separated_reads reads_exportSpecifier.appends).bind fun (specifiers, _) => ?_
  refine (looks_isAtWord _).bind_triple fun isFrom => Triple.ite (fun _ => ?_) fun _ => ?_
  · have hforeign : ∀ s : Script.State, s.Read source own ([] ++ specifiers) →
        s.Read source own (specifiers.map asForeign) :=
          fun s hs => ⟨hs.sound, asForeign_inOrder hs.inOrder⟩
    refine Triple.bind ((readsAll_fromSource own _).weaken hforeign fun _ _ h => h) fun source => ?_
    exact (passes_semicolon _ _).bind fun _ => node_reads hown nofun
  · exact Triple.require fun _ => (passes_semicolon _ _).bind fun _ => node_reads hown nofun

omit hrecur in
/-- So is an export of all that another module exports. -/
theorem exportAll_reads {place own : Nat} (hown : own ≤ place) :
    Triple (Read source own []) (exportAll own) fun tree => Read source place [tree] := by
  refine ((takes_expect _).passes _ _).bind fun _ => (passes_eatWord _ _ _).bind fun isNamed => ?_
  simp only [pure_bind]
  refine Triple.ite (fun _ => ?_) fun _ => ?_
  · refine (reads_exportedName.appends _ _).bind fun name => ?_
    refine (readsAll_fromSource _ _).bind fun source => ?_
    exact (passes_semicolon _ _).bind fun _ => node_reads hown nofun
  · refine (readsAll_fromSource _ _).bind fun source => ?_
    exact (passes_semicolon _ _).bind fun _ => node_reads hown nofun

/-- So is the default export. -/
theorem exportDefault_reads {place own : Nat} (hown : own ≤ place) :
    Triple (Read source own []) (exportDefault recur own) fun tree => Read source place [tree] := by
  refine ((takes_expectWord _).passes _ _).bind fun _ => (looks_isAtWord _).bind_triple fun _ => ?_
  refine looks_isAtAsyncFunction.bind_triple fun _ => (looks_isAtWord _).bind_triple fun _ => ?_
  extract_lets follow
  have hfollow : ∀ exported, Triple (Read source own [exported]) (follow exported) fun tree =>
      Read source place [tree] := fun exported => node_reads hown nofun
  refine Triple.ite (fun _ => ?_) fun _ => Triple.ite (fun _ => ?_) fun _ => ?_
  · exact ((reads_functionDeclaration hrecur true).appends _ _).bind hfollow
  · exact ((reads_classLike hrecur true true).appends _ _).bind hfollow
  · refine ((reads_value hrecur).appends _ _).bind fun value => ?_
    refine (passes_semicolon _ _).bind fun _ => ?_
    rw [pure_bind]
    exact hfollow value

omit hrecur in
/-- The test for a declaration that can be exported moves nothing. -/
theorem looks_isAtDeclaration : Looks isAtDeclaration :=
  looks_token.bind fun _ => looks_isAtAsyncFunction.bind fun _ => looks_pure _

/-- An export of any form is read as one tree. -/
theorem reads_exportDeclaration : Reads source (exportDeclaration recur) := by
  refine fun place => Triple.start fun own hown => (takes_expectWord _ own).bind fun _ => ?_
  refine (looks_isAt _).bind_triple fun _ =>
    Triple.ite (fun _ => exportNames_reads hown) fun _ => ?_
  refine (looks_isAt _).bind_triple fun _ => Triple.ite (fun _ => exportAll_reads hown) fun _ => ?_
  refine (looks_isAtWord _).bind_triple fun _ =>
    Triple.ite (fun _ => exportDefault_reads hrecur hown) fun _ => ?_
  refine looks_isAtDeclaration.bind_triple fun _ => Triple.require fun _ => ?_
  exact ((hrecur _).appends _ _).bind fun declaration => node_reads hown nofun

/-- A statement of any form is read as one tree. -/
theorem reads_statement (isBody : Bool) : Reads source (statement recur isBody) := by
  refine looks_token.bind_reads fun token => ?_
  split
  · exact reads_block hrecur
  · exact reads_leaf nofun
  · exact (looks_isNext _).bind_reads fun _ =>
      Reads.ite (reads_expressionStatement hrecur) reads_importDeclaration
  · exact reads_exportDeclaration hrecur
  · exact reads_wordStatement hrecur _ isBody
  · exact reads_expressionStatement hrecur

end Statements

/-! ### The whole grammar -/

variable {source : List Char}

/-- One level of the grammar reads in order if the goals inside it do. -/
theorem reads_goal {recur : Recur} (hrecur : ∀ goal, Reads source (recur goal)) (goal : Goal) :
    Reads source (Reader.goal recur goal) := by
  cases goal with
  | expression => exact reads_expression hrecur
  | assignment => exact reads_assignment hrecur
  | operation strength => exact reads_operation hrecur strength
  | unary => exact reads_unary hrecur
  | leftHand => exact reads_leftHand hrecur
  | callee => exact reads_callee hrecur
  | target => exact reads_declaredTarget hrecur
  | statement isBody => exact reads_statement hrecur isBody

/-- Goals are read in order, however deep they contain each other. -/
theorem reads_upTo (depth : Nat) (goal : Goal) : Reads source (upTo depth goal) := by
  induction depth generalizing goal with
  | zero => exact reads_failure
  | succ depth ih => exact reads_goal ih goal

/-- A module may be empty, and then it takes no place. -/
theorem program_reads {recur : Recur} (hrecur : ∀ goal, Reads source (recur goal)) (place : Nat) :
    Triple (fun s => s.At source place ∧ s.Read source s.token.start []) (program recur) fun tree =>
      Read source place [tree] := by
  intro s tree s' hs heq
  have hfinish : Looks (do return decide ((← token).shape = .finish)) :=
    looks_token.bind fun _ => looks_pure _
  have hread : Triple (Read source s.token.start []) (do
      let statements ← itemsUntil (do return (← token).shape = .finish) (recur (.statement false))
      node s.token.start .program (markDirectives
        statements)) fun tree => Read source place [tree] := by
    refine (readsAll_statements hrecur hfinish _ _).bind fun statements => ?_
    exact node_reads_of (fun s hs => ⟨hs.sound, hs.inOrder.markDirectives⟩) hs.1.start nofun
  exact hread s tree s' hs.2 heq

end Reader

/-- The first token of a text stands in it. -/
theorem initial_spec {text : List Char} {s : State} (h : State.initial? text = some s) :
    s.At text text.length ∧ s.Read text s.token.start [] := by
  obtain ⟨⟨token, rest⟩, hscan, h⟩ := Option.bind_eq_some_iff.mp h
  obtain ⟨hrest, hstop, hstart, hnonempty, hsuffix⟩ := scan_spec hscan
  have hspells : ∀ name escaped, token.shape = .word name escaped →
      (Span.mk token.start token.stop).Spells text name :=
    fun _ _ hshape => Reader.spells_of_scan hscan hshape List.suffix_rfl
  have hwrites : ∀ mark, token.shape = .mark mark →
      (Span.mk token.start token.stop).Writes text mark :=
    fun _ hshape => Reader.writes_of_scan hscan hshape List.suffix_rfl
  have hopens : token.shape ≠ .finish → token.Opens text := scan_opens hscan
  cases h
  have hsound : State.IsSound text
      ⟨{ token with onNewLine := false }, rest, token.start, ⟨true, true, false, false⟩⟩ :=
    ⟨hsuffix, hrest, hstop, Nat.le_refl _, hnonempty, hopens, hspells, hwrites⟩
  exact ⟨⟨hsound, hstart⟩, ⟨hsound, Node.inOrder_nil.mpr (Nat.le_refl _)⟩⟩

/-- What is read from a text stands in it. -/
theorem readText_fits {reader : Recur → Reader Node} {text : List Char} {tree : Node}
    (hreader : ∀ depth s tree s', s.At text text.length → s.Read text s.token.start [] →
      reader (Reader.upTo depth) s = some (tree, s') → s'.Read text text.length [tree])
    (h : readText reader text = some tree) : tree.Fits text text.length 0 := by
  obtain ⟨s, hinitial, h⟩ := Option.bind_eq_some_iff.mp h
  obtain ⟨⟨read, s'⟩, hread, h⟩ := Option.bind_eq_some_iff.mp h
  obtain ⟨hat, hempty⟩ := initial_spec hinitial
  have htree := hreader _ s read s' hat hempty hread
  dsimp only at h
  split at h
  · cases h
  · cases h
    exact (Node.inOrder_cons.mp htree.inOrder).1.mono (Nat.le_refl _) (Nat.zero_le _)

/-- The expression that is read from a text stands in it in order. -/
theorem expression?_fits {text : List Char} {tree : Node} (h : expression? text = some tree) :
    tree.Fits text text.length 0 :=
  readText_fits (fun depth s tree s' hat _ =>
    Reader.reads_expression (Reader.reads_upTo depth) text.length s tree s' hat) h

/-- So does the expression that a text consists of. -/
theorem wholeExpression?_fits {text : List Char} {tree : Node}
    (h : wholeExpression? text = some tree) : tree.Fits text text.length 0 := by
  obtain ⟨read, hread, h⟩ := Option.bind_eq_some_iff.mp h
  split at h
  · cases h
    exact expression?_fits hread
  · cases h

/-- What follows a hashbang is an end of the text. -/
theorem dropHashbang_suffix (text : List Char) : dropHashbang text <:+ text := by
  unfold dropHashbang
  split
  · rename_i rest
    have hrest : (rest.dropWhile fun c => !isLineTerminator c) <:+ rest := List.dropWhile_suffix _
    exact suffix_tail (suffix_tail hrest)
  · exact List.suffix_rfl

/-- The module that is read from a text stands in it in order. -/
theorem program?_fits {text : List Char} {tree : Node} (h : program? text = some tree) :
    tree.Fits text text.length 0 := by
  have hfits : tree.Fits (dropHashbang text) (dropHashbang text).length 0 :=
    readText_fits (fun depth s tree s' hat hempty =>
      Reader.program_reads (Reader.reads_upTo depth) _ s tree s' ⟨hat, hempty⟩) h
  have hsuffix := dropHashbang_suffix text
  exact (hfits.longer hsuffix (Nat.le_refl _)).mono hsuffix.length_le (Nat.le_refl 0)

/-- The statements of a module stand in its text in order. -/
theorem statements_inOrder {text : List Char} {program : Node} (h : program? text = some program) :
    Node.InOrder text text.length 0 program.statements :=
  (program?_fits h).parts.sublist List.filter_sublist

end MiniApp.Script
