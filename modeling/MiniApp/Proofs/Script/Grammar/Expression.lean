import MiniApp.Script.Grammar.Expression
import MiniApp.Proofs.Script.Grammar.Function

/-!
# Expressions stand in order

Provided that the readers of all goals read trees that stand in order, so do the readers of
operands, of operators, and of arrow functions and assignments. What is read as an expression and
turned into a target keeps its place.
-/

set_option autoImplicit false

namespace MiniApp.Script.Reader

open State (At Read)

variable {source : List Char} {recur : Recur} (hrecur : ∀ goal, Reads source (recur goal))

include hrecur

/-! ### Operands -/

/-- Parentheses are read as one tree around their expression. -/
theorem reads_parenthesized : Reads source (parenthesized recur) := by
  refine fun place => Triple.start fun own hown => (takes_expect _ own).bind fun _ => ?_
  refine ((hrecur _).withIn.appends _ _).bind fun inner => ?_
  exact ((takes_expect _).passes _ _).bind fun _ => node_reads hown nofun

omit hrecur in
/-- The word `super` is read as one node. -/
theorem reads_superWord : Reads source superWord := by
  have hleaf : Reads source (leaf .super) := reads_leaf nofun
  refine fun place => (hleaf place).bind fun super => ?_
  refine (looks_isAt _).bind_triple fun _ => (looks_isAt _).bind_triple fun _ =>
    (looks_isAt _).bind_triple fun _ => ?_
  exact Triple.require fun _ => Triple.pure fun _ h => h

/-- An import that is an expression is read as one tree around its arguments. -/
theorem reads_importExpression : Reads source (importExpression recur) := by
  refine fun place => Triple.start fun own hown => (takes_expectWord _ own).bind fun _ => ?_
  refine (passes_eat _ _ _).bind fun isMeta => Triple.ite (fun _ => ?_) fun _ => ?_
  · exact ((takes_expectWord _).passes _ _).bind fun _ => node_reads hown nofun
  · refine ((takes_expect _).passes _ _).bind fun _ => ?_
    refine (separated_reads (reads_value hrecur).appends).bind fun (arguments, _) => ?_
    exact Triple.require fun _ => node_reads hown nofun

/-- A construction with `new` is read as one tree, arguments or none. -/
theorem reads_newExpression : Reads source (newExpression recur) := by
  refine fun place => Triple.start fun own hown => (takes_expectWord _ own).bind fun _ => ?_
  refine (passes_eat _ _ _).bind fun isTarget => Triple.ite (fun _ => ?_) fun _ => ?_
  · exact ((takes_expectWord _).passes _ _).bind fun _ => node_reads hown nofun
  · refine ((hrecur _).appends _ _).bind fun callee => Triple.require fun _ => ?_
    refine (looks_isAt _).bind_triple fun hasArguments => ?_
    simp only [pure_bind]
    refine Triple.ite (fun _ => ?_) fun _ => node_reads hown nofun
    exact (Triple.framed (arguments_reads hrecur) _ _).bind fun arguments => node_reads hown nofun

/-- An operand that starts with a word is read as one tree, whatever the word. -/
theorem reads_wordOperand (name : String) : Reads source (wordOperand recur name) := by
  unfold wordOperand
  split
  · exact reads_leaf nofun
  · exact reads_leaf nofun
  · exact reads_leaf nofun
  · exact reads_leaf nofun
  · exact reads_functionExpression hrecur
  · exact reads_classLike hrecur _ _
  · exact reads_newExpression hrecur
  · exact reads_superWord
  · exact reads_importExpression hrecur
  · exact looks_isAtAsyncFunction.bind_reads fun _ =>
      Reads.ite (reads_functionExpression hrecur) reads_identifier

/-- So is an operand of any kind that stands by itself. -/
theorem reads_primary : Reads source (primary recur) := by
  refine fun place => Triple.token fun first => ?_
  have hfirst : ∀ {r : Reader Node}, Reads source r →
      Triple (fun s => s.At source place ∧ s.token = first) r fun tree =>
        Read source place [tree] :=
    fun h => (h place).weaken (fun _ h => h.1) fun _ _ h => h
  -- A division sign at the start of an operand is read again, as the start of a regular expression.
  have hregex : ∀ op, first.shape = .mark op → op ≠ .semicolon →
      Triple (fun s => s.At source place ∧ s.token = first) regex fun tree =>
        Read source place [tree] := by
    refine fun op hshape hop => (regex_reads hop place).weaken (fun s hs => ⟨hs.1, ?_⟩)
      fun _ _ h => h
    rw [hs.2, hshape]
  split
  · exact hfirst (reads_wordOperand hrecur _)
  · exact hfirst reads_identifier
  · exact hfirst (reads_leaf nofun)
  · exact hfirst (reads_leaf nofun)
  · exact hfirst (reads_leaf nofun)
  · exact hfirst (reads_template hrecur false)
  · exact hfirst (reads_parenthesized hrecur)
  · exact hfirst (reads_arrayLiteral hrecur)
  · exact hfirst (reads_objectLiteral hrecur)
  · exact hregex (.binary .divide) ‹_› nofun
  · exact hregex (.assign (.binary .divide)) ‹_› nofun
  · exact Triple.failure

omit hrecur in
/-- The name of a member is read as one node. -/
theorem reads_memberName : Reads source memberName :=
  looks_isAtPrivateName.bind_reads fun _ => Reads.ite reads_privateName reads_word

/-- The expression that selects a member is read as one tree, without its brackets. -/
theorem reads_memberIndex : Reads source (memberIndex recur) := by
  refine fun place => (takes_expect _ place).bind fun _ => ?_
  refine ((hrecur _).withIn.appends _ _).bind fun inner => ?_
  exact ((takes_expect _).passes _ _).bind fun _ => Triple.pure fun _ h => h

/-- A link is put around the operand that it follows. -/
theorem link_reads (own : Nat) (calls : Bool) (done : Linked) :
    Triple (Read source own [done.operand]) (link recur own calls done) fun answer s =>
      answer.elim (fun next => s.Read source own [next.operand]) fun done =>
        s.Read source own [done.operand] := by
  refine looks_token.bind_triple fun token => ?_
  have hown := Nat.le_refl own
  -- By the token: a member, an index, a template, an optional link, a call, or the end of the
  -- chain.
  split
  · refine (takes_advance.passes _ _).bind fun _ =>
      (reads_memberName.appends _ _).bind fun name => ?_
    exact Triple.bind (node_reads hown nofun) fun tree => Triple.pure fun _ h => h
  · refine ((reads_memberIndex hrecur).appends _ _).bind fun inner => ?_
    exact Triple.bind (node_reads hown nofun) fun tree => Triple.pure fun _ h => h
  · refine Triple.require fun _ => ((reads_template hrecur true).appends _ _).bind
      fun template => ?_
    exact Triple.bind (node_reads hown nofun) fun tree => Triple.pure fun _ h => h
  · refine Triple.require fun _ => (takes_advance.passes _ _).bind fun _ => ?_
    refine (looks_isAt _).bind_triple fun isCall => Triple.ite (fun _ => ?_) fun _ => ?_
    · refine (Triple.framed (arguments_reads hrecur) _ _).bind fun arguments => ?_
      exact Triple.bind (node_reads hown nofun) fun tree => Triple.pure fun _ h => h
    refine (looks_isAt _).bind_triple fun isIndex => Triple.ite (fun _ => ?_) fun _ => ?_
    · refine ((reads_memberIndex hrecur).appends _ _).bind fun inner => ?_
      exact Triple.bind (node_reads hown nofun) fun tree => Triple.pure fun _ h => h
    · refine (reads_memberName.appends _ _).bind fun name => ?_
      exact Triple.bind (node_reads hown nofun) fun tree => Triple.pure fun _ h => h
  · refine Triple.ite (fun _ => ?_) fun _ => Triple.pure fun _ h => h
    refine (Triple.framed (arguments_reads hrecur) _ _).bind fun arguments => ?_
    exact Triple.bind (node_reads hown nofun) fun tree => Triple.pure fun _ h => h
  · exact Triple.pure fun _ h => h

/-- An operand with links behind it is one tree that starts where the operand does. -/
theorem links_reads (own : Nat) (calls : Bool) (operand : Node) :
    Triple (Read source own [operand]) (iterate (link recur own calls) ⟨operand, false⟩) fun done =>
      Read source own [done.operand] :=
  Triple.iterate (a := Linked.mk operand false)
    (Q := fun done s => s.Read source own [done.operand])
    (link_reads hrecur own calls)

/-- What `new` constructs is read as one tree. -/
theorem reads_callee : Reads source (callee recur) := by
  refine fun place => Triple.start fun own hown => (reads_primary hrecur own).bind fun operand => ?_
  refine (links_reads hrecur own false operand).bind fun done => Triple.pure fun s hs => ?_
  exact hs.widen hown

/-- Members and calls are read as one tree around their operand. -/
theorem reads_leftHand : Reads source (leftHand recur) := by
  refine fun place => Triple.start fun own hown => (reads_primary hrecur own).bind fun operand => ?_
  refine (links_reads hrecur own true operand).bind fun done => ?_
  exact Triple.ite (fun _ => node_reads hown nofun) fun _ => Triple.pure fun s hs => hs.widen hown

/-! ### Operators -/

omit hrecur in
/-- What a tree spells as a target takes its place. -/
theorem ofOption_reads {own : Nat} {node : Node} {target? : Option Node}
    (htarget : ∀ target ∈ target?, ∀ hi lo, node.Fits source hi lo → target.Fits source hi lo) :
    Triple (Read source own [node]) (ofOption target?) fun target => Read source own [target] := by
  cases target? with
  | none => exact Triple.failure
  | some target =>
      refine Triple.pure fun s hs => ⟨hs.sound, ?_⟩
      exact (htarget target rfl _ _ (Node.inOrder_cons.mp hs.inOrder).1).inOrder

omit hrecur in
/-- The target that is taken out of an expression stands where the expression does. -/
theorem simpleTarget_reads (own : Nat) (node : Node) :
    Triple (Read source own [node]) (ofOption node.toSimpleTarget?) fun target =>
      Read source own [target] :=
  ofOption_reads fun _ htarget _ _ h => h.toSimpleTarget? htarget

omit hrecur in
/-- So does a target that is a pattern. -/
theorem target_reads (own : Nat) (node : Node) :
    Triple (Read source own [node]) (ofOption node.toTarget?) fun target =>
      Read source own [target] :=
  ofOption_reads fun _ htarget _ _ h => h.toTarget? htarget

/-- An operand that is changed in place is read as one tree with its operator. -/
theorem reads_updated : Reads source (updated recur) := by
  refine fun place => Triple.start fun own hown => looks_token.bind_triple fun first => ?_
  split
  · refine (takes_advance own).bind fun _ => ((hrecur _).appends _ _).bind fun operand => ?_
    exact (simpleTarget_reads own operand).bind fun target => node_reads hown nofun
  · refine (reads_leftHand hrecur own).bind fun operand => looks_token.bind_triple fun next => ?_
    split
    · refine Triple.ite (fun _ => Triple.pure fun s hs => hs.widen hown) fun _ => ?_
      refine (simpleTarget_reads own operand).bind fun target => ?_
      exact (takes_advance.passes _ _).bind fun _ => node_reads hown nofun
    · exact Triple.pure fun s hs => hs.widen hown

/-- So is an operand with operators in front of it. -/
theorem reads_unary : Reads source (unary recur) := by
  refine fun place => Triple.start fun own hown => looks_token.bind_triple fun first => ?_
  split
  · refine (takes_advance own).bind fun _ => ((hrecur _).appends _ _).bind fun operand => ?_
    exact node_reads hown nofun
  · refine looks_get.bind_triple fun state => Triple.ite (fun _ => ?_) fun _ => ?_
    · refine (takes_advance own).bind fun _ => ((hrecur _).appends _ _).bind fun operand => ?_
      exact node_reads hown nofun
    · exact (reads_updated hrecur own).weaken (fun _ h => h) fun _ _ hs => hs.widen hown

/-- A test for a private name is read as one tree. -/
theorem reads_privateIn (strength : Nat) : Reads source (privateIn recur strength) := by
  refine fun place => Triple.start fun own hown => (reads_privateName own).bind fun name => ?_
  refine ((takes_expectWord _).passes _ _).bind fun _ =>
    ((hrecur _).appends _ _).bind fun right => ?_
  exact Triple.require fun _ => node_reads hown nofun

/-- Operands that are joined by operators are read as one tree, however strongly they bind. -/
theorem reads_operation (strength : Nat) : Reads source (operation recur strength) := by
  refine fun place => Triple.start fun own hown => looks_get.bind_triple fun state => ?_
  refine looks_isAtPrivateName.bind_triple fun isPrivate => ?_
  extract_lets follow
  -- The tree read so far becomes the left operand of each operator that follows, so the loop keeps
  -- one tree.
  have hfollow : ∀ first, Triple (Read source own [first]) (follow first) fun tree =>
    Read source place [tree] := by
    refine fun first => (Triple.iterate (Q := fun left => Read source own [left])
      (R := fun tree s =>
      s.Read source own [tree]) fun left => ?_).weaken (fun _ h => h) fun tree s hs => hs.widen hown
    refine looks_token.bind_triple fun token => looks_get.bind_triple fun state => ?_
    split
    · exact Triple.pure fun _ h => h
    · rename_i op _
      extract_lets strength' kind
      refine Triple.ite (fun _ => Triple.pure fun _ h => h) fun _ => ?_
      refine (takes_advance.passes _ _).bind fun _ => ((hrecur _).appends _ _).bind fun right => ?_
      have hkind : ¬ kind.IsUse := by cases op <;> exact nofun
      exact Triple.require fun _ => Triple.bind (node_reads (Nat.le_refl _) hkind) fun tree =>
        Triple.pure fun _ h => h
  refine Triple.ite (fun _ => ?_) fun _ => ?_
  · exact (reads_privateIn hrecur strength own).bind hfollow
  · exact (reads_unary hrecur own).bind hfollow

/-! ### Arrow functions and assignments -/

omit hrecur in
/-- A parameter without parentheses is read as one tree. -/
theorem reads_loneParameter : Reads source loneParameter := by
  refine fun place => Triple.start fun own hown => (reads_binding own).bind fun parameter => ?_
  exact node_reads hown nofun

/-- The head of an arrow function is read with its parameters as the only tree. -/
theorem arrowHead_reads (place : Nat) : Triple (At source place) (arrowHead recur) fun head s =>
    s.Read source head.start [head.parameters] ∧ head.start ≤ place := by
  refine Triple.start fun own hown => (looks_isAtWord _).bind_triple fun isAsync => ?_
  refine (looks_isNext _).bind_triple fun isBefore => ?_
  extract_lets isAsync arrow follow
  have harrow : ∀ parameters, Triple (Read source own [parameters]) (arrow parameters) fun head s =>
      s.Read source head.start [head.parameters] ∧ head.start ≤ place := by
    refine fun parameters => looks_token.bind_triple fun next => ?_
    exact Triple.require fun _ => Triple.pure fun s hs => ⟨hs, hown⟩
  have hfollow : ∀ u, Triple (At source own) (follow u) fun head s =>
      s.Read source head.start [head.parameters] ∧ head.start ≤ place := by
    refine fun _ => (looks_isAt _).bind_triple fun hasParens => Triple.ite (fun _ => ?_) fun _ => ?_
    · exact ((reads_parameters hrecur).within own).bind harrow
    · exact (reads_loneParameter own).bind harrow
  exact Triple.ite (fun _ => (advance_at own).bind hfollow) fun _ => hfollow ()

/-- From its arrow on, an arrow function is read as one tree around its head. -/
theorem arrowFrom_reads {place : Nat} {head : ArrowHead} (hhead : head.start ≤ place) :
    Triple (Read source head.start [head.parameters]) (arrowFrom recur head) fun tree =>
      Read source place [tree] := by
  refine ((takes_expect _).passes _ _).bind fun _ => (looks_isAt _).bind_triple fun hasBlock => ?_
  have hbody : Reads source (if hasBlock then functionBody recur else recur .assignment) :=
    Reads.ite (reads_functionBody hrecur) (hrecur _)
  exact (hbody.within.appends _ _).bind fun body => node_reads hhead nofun

/-- The operator `yield` is read as one tree, with its operand or without. -/
theorem reads_yieldExpression : Reads source (yieldExpression recur) := by
  refine fun place => Triple.start fun own hown => (takes_advance own).bind fun _ => ?_
  refine looks_token.bind_triple fun token =>
    Triple.ite (fun _ => node_reads hown nofun) fun _ => ?_
  refine (passes_eat _ _ _).bind fun isDelegate => ((hrecur _).appends _ _).bind fun operand => ?_
  exact node_reads hown nofun

/-- A choice or an assignment is read as one tree. -/
theorem reads_choiceOrAssignment : Reads source (choiceOrAssignment recur) := by
  refine fun place => Triple.start fun own hown =>
    (reads_operation hrecur 0 own).bind fun left => ?_
  refine looks_token.bind_triple fun token => ?_
  split
  · rename_i op _
    -- The left side is turned into a target of the same extent.
    refine Triple.bind (Q := fun target => Read source own [target]) ?_ fun target => ?_
    · split
      · exact target_reads own left
      · exact simpleTarget_reads own left
    · refine (takes_advance.passes _ _).bind fun _ => ((hrecur _).appends _ _).bind fun right => ?_
      exact node_reads hown nofun
  · refine (passes_eat _ _ _).bind fun isChoice => Triple.ite (fun _ => ?_) fun _ => ?_
    · refine ((hrecur _).withIn.appends _ _).bind fun yes => ?_
      refine ((takes_expect _).passes _ _).bind fun _ => ((hrecur _).appends _ _).bind fun no => ?_
      exact node_reads hown nofun
    · exact Triple.pure fun s hs => hs.widen hown

/-- So is any expression without commas. -/
theorem reads_assignment : Reads source (assignment recur) := by
  refine looks_get.bind_reads fun state => (looks_isAtWord _).bind_reads fun isYield => ?_
  refine Reads.ite (reads_yieldExpression hrecur) fun place => ?_
  exact Triple.orElse (arrowHead_reads hrecur place)
    (fun head => Triple.known fun hhead => arrowFrom_reads hrecur hhead)
    (reads_choiceOrAssignment hrecur place)

omit hrecur in
/-- Items behind the first one, each behind a comma. -/
theorem readsAll_behindComma {item : Reader Node} (hitem : Reads source item) :
    ReadsAll source (itemsUntil (do return !(← isAt .comma)) do expect .comma; item) := by
  refine readsAll_itemsUntil ((looks_isAt _).bind fun _ => looks_pure _) fun place nodes => ?_
  exact ((takes_expect _).passes _ _).bind fun _ => hitem.appends _ _

/-- So are expressions with commas between them. -/
theorem reads_expression : Reads source (expression recur) := by
  refine fun place => Triple.start fun own hown =>
    (reads_assignment hrecur own).bind fun first => ?_
  refine (looks_isAt _).bind_triple fun goesOn => Triple.ite (fun _ => ?_) fun _ => ?_
  · refine (readsAll_behindComma (reads_assignment hrecur) _ _).bind fun rest => ?_
    exact node_reads hown nofun
  · exact Triple.pure fun s hs => hs.widen hown

end MiniApp.Script.Reader
