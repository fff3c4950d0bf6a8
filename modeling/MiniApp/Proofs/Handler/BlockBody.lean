import MiniApp.Handler.Collapse
import MiniApp.Proofs.Handler.EventFunction

/-!
# Functions with a body in braces

What is read as an expression and has a body in braces is a function that ends with it. The braces
stand in the text around the statements, and nothing else is read of the function behind them.

* `functionBody_inBraces`: a body is read with its braces, and its statements between these.
* `wholeExpression?_endsInBody`: an expression that has such a body ends with it.

Only a few readers answer with a function: those of the function itself, and each of those up to an
expression when there is nothing for it to add. All others put another kind of node on top.
-/

set_option autoImplicit false

namespace MiniApp.Handler

open MiniApp.Text MiniApp.Script
open MiniApp.Script.Node (InOrder inOrder_nil inOrder_cons)

/-- The tree stands in braces, and its parts between them in order. -/
structure InBraces (source : List Char) (body : Script.Node) : Prop where
  opening : (Span.mk body.span.start (body.span.start - 1)).Writes source .braceL
  closing : (Span.mk (body.span.stop + 1) body.span.stop).Writes source .braceR
  inside : InOrder source (body.span.start - 1) (body.span.stop + 1) body.parts

/-- If the tree has a body in braces, it ends with this body. -/
def EndsInBody (source : List Char) (tree : Script.Node) : Prop :=
  ∀ body, blockBody? tree = some body →
    InBraces source body ∧ body.span.stop = tree.span.stop

end MiniApp.Handler

namespace MiniApp.Script.Reader

open MiniApp.Handler (InBraces EndsInBody blockBody?)
open State (At Read)

variable {α β : Type} {source : List Char} {P : State → Prop}

/-! ### Braces -/

/-- Taking a mark that may stand here, as a computation with options. -/
theorem eat_eq (mark : Mark) (s : State) :
    eat mark s = if s.token.isMark mark then (advance s).map fun answer => (true, answer.2)
      else some (false, s) := by
  show ((if s.token.isMark mark = true then do advance; return true else return false :
    Reader Bool) s) = _
  split
  · show (advance s).bind _ = _
    cases advance s <;> rfl
  · rfl

/-- A mark that is expected is the current token, and the reader then stands right behind it. -/
theorem expect_spec {mark : Mark} {s s' : State} {answer : Unit}
    (h : expect mark s = some (answer, s')) :
    s.token.shape = .mark mark ∧ s'.lastStop = s.token.stop := by
  obtain ⟨⟨taken, mid⟩, heat, hrequire⟩ := Option.bind_eq_some_iff.mp h
  rw [eat_eq] at heat
  split at heat
  · rename_i hmark
    obtain ⟨⟨⟨⟩, behind⟩, hadvance, heat⟩ := Option.map_eq_some_iff.mp heat
    obtain ⟨⟨token, rest⟩, -, hbehind⟩ := Option.bind_eq_some_iff.mp hadvance
    cases hbehind
    cases heat
    cases hrequire
    exact ⟨by simpa [Token.isMark] using hmark, rfl⟩
  · cases heat
    cases hrequire

/-- An opening or closing brace takes one character. -/
theorem brace_start {mark : Mark} {span : Span} (h : span.Writes source mark)
    (hmark : mark = .braceL ∨ mark = .braceR) : span.start = span.stop + 1 := by
  obtain ⟨spelling, hmem, hstart, -⟩ := h
  have hspelling : ∀ entry ∈ Mark.spellings, entry.2 = .braceL ∨ entry.2 = .braceR →
      entry.1.length = 1 := by
    decide
  rw [hstart, hspelling _ hmem hmark]

section Recur

variable {recur : Recur} (hrecur : ∀ goal, Reads source (recur goal))

include hrecur

/-- Statements in braces stand between the braces. -/
theorem statementsInBraces_spec {place : Nat} {s s' : State} {statements : List Node}
    (hs : s.At source place) (h : statementsInBraces recur s = some (statements, s')) :
    (Span.mk s.token.start (s.token.start - 1)).Writes source .braceL ∧
      (Span.mk (s'.lastStop + 1) s'.lastStop).Writes source .braceR ∧
        Node.InOrder source (s.token.start - 1) (s'.lastStop + 1) statements := by
  obtain ⟨⟨⟨⟩, opened⟩, hopen, h⟩ := Option.bind_eq_some_iff.mp h
  obtain ⟨⟨read, last⟩, hread, h⟩ := Option.bind_eq_some_iff.mp h
  obtain ⟨⟨⟨⟩, closed⟩, hclose, h⟩ := Option.bind_eq_some_iff.mp h
  cases h
  obtain ⟨hleft, hopened⟩ := expect_spec hopen
  obtain ⟨hright, hclosed⟩ := expect_spec hclose
  have hopenedRead := takes_expect .braceL place s () opened hs hopen
  -- The statements follow the opening brace, whatever was read before it.
  have hstart : opened.Read source opened.lastStop [] :=
    ⟨hopenedRead.sound, Node.inOrder_nil.mpr (Nat.le_refl _)⟩
  have hstatements := readsAll_statements hrecur (looks_isAt .braceR) _ _ opened statements last
    hstart hread
  have hwritesLeft := hs.sound.writes _ hleft
  have hwritesRight := hstatements.sound.writes _ hright
  have hlengthLeft := brace_start hwritesLeft (.inl rfl)
  have hlengthRight := brace_start hwritesRight (.inr rfl)
  have hlast : last.token.start ≤ last.lastStop := hstatements.sound.start
  dsimp only at hlengthLeft hlengthRight
  have hbefore : s.token.start - 1 = s.token.stop := by omega
  have hbehind : s'.lastStop + 1 = last.token.start := by omega
  rw [hbefore, hbehind, hclosed, ← hopened]
  refine ⟨hopened ▸ hwritesLeft, hwritesRight, hstatements.inOrder.mono (Nat.le_refl _) hlast⟩

/-- A body of a function is read with its braces, up to the closing one. -/
theorem functionBody_inBraces {place : Nat} {s s' : State} {body : Node} (hs : s.At source place)
    (h : functionBody recur s = some (body, s')) :
    InBraces source body ∧ body.span.stop = s'.lastStop ∧ body.span.start = s.token.start := by
  replace h : (within _ (statementsInBraces recur) s).bind (fun answer =>
      node s.token.start .body (markDirectives answer.1) answer.2) = some (body, s') := h
  obtain ⟨⟨statements, behind⟩, hstatements, h⟩ := Option.bind_eq_some_iff.mp h
  cases h
  rw [within_eq] at hstatements
  obtain ⟨⟨read, last⟩, hread, hbehind⟩ := Option.map_eq_some_iff.mp hstatements
  cases hbehind
  obtain ⟨hopening, hclosing, hinside⟩ :=
    statementsInBraces_spec hrecur (at_setting _ hs) hread
  exact ⟨⟨hopening, hclosing, hinside.markDirectives⟩, rfl, rfl⟩

end Recur

/-! ### What is no function -/

/-- Where nothing has to be known of what is read first. -/
theorem Triple.skip {Q : β → State → Prop} {r : Reader α} {next : α → Reader β}
    (hnext : ∀ a, Triple (fun _ => True) (next a) Q) : Triple P (r >>= next) Q := by
  have hany : Triple P r fun _ _ => True := fun _ _ _ _ _ => trivial
  exact hany.bind hnext

/-- The reader answers with nothing that has a body in braces. -/
def Plain (r : Reader Node) : Prop :=
  Triple (fun _ => True) r fun tree _ => blockBody? tree = none

/-- Whether a reader is plain is decided by what it reads last. -/
theorem Plain.bind {r : Reader α} {next : α → Reader Node} (hnext : ∀ a, Plain (next a)) :
    Plain (r >>= next) :=
  Triple.skip hnext

/-- What a plain reader reads has no body in braces that could end elsewhere. -/
theorem Plain.ends {r : Reader Node} (h : Plain r) :
    Triple P r fun tree _ => EndsInBody source tree := by
  refine h.weaken (fun _ _ => trivial) fun tree _ hnone body hbody => ?_
  rw [hnone] at hbody
  cases hbody

/-- A node is plain if its kind has no body in braces. -/
theorem plain_node {start : Nat} {kind : Kind} {parts : List Node}
    (hkind : ∀ span, blockBody? (.mk kind span parts) = none) : Plain (node start kind parts) := by
  intro s tree s' _ h
  cases h
  exact hkind _

/-- So is a node made of a single token. -/
theorem plain_leaf {kind : Kind} (hkind : ∀ span, blockBody? (.mk kind span []) = none) :
    Plain (leaf kind) :=
  Plain.bind fun _ => Plain.bind fun _ => Triple.pure fun _ _ => hkind _

/-- A name has no body in braces. -/
theorem plain_identifier : Plain identifier := by
  refine Plain.bind fun token => Plain.bind fun state => ?_
  split
  · exact plain_leaf fun _ => rfl
  · exact Triple.failure

/-- A template has none. -/
theorem plain_template (recur : Recur) (tagged : Bool) : Plain (template recur tagged) :=
  Plain.bind fun _ => Plain.bind fun _ => plain_node fun _ => rfl

/-- A regular expression has none. -/
theorem plain_regex : Plain regex := by
  refine Plain.bind fun _ => Plain.bind fun token => ?_
  split
  · exact plain_leaf fun _ => rfl
  · exact Triple.failure

/-- Parentheses have none, even around a function that has one. -/
theorem plain_parenthesized (recur : Recur) : Plain (parenthesized recur) :=
  Plain.bind fun _ => Plain.bind fun _ => Plain.bind fun _ => Plain.bind fun _ =>
    plain_node fun _ => rfl

/-- An array literal has none. -/
theorem plain_arrayLiteral (recur : Recur) : Plain (arrayLiteral recur) :=
  Plain.bind fun _ => Plain.bind fun _ => Plain.bind fun _ => plain_node fun _ => rfl

/-- An object literal stands in braces, but these are no body. -/
theorem plain_objectLiteral (recur : Recur) : Plain (objectLiteral recur) :=
  Plain.bind fun _ => Plain.bind fun _ => Plain.bind fun _ => plain_node fun _ => rfl

/-- The word `super` has no body in braces. -/
theorem plain_superWord : Plain superWord := by
  have hleaf : Plain (leaf .super) := plain_leaf fun _ => rfl
  refine Triple.bind hleaf fun super => ?_
  refine (looks_isAt _).bind_triple fun _ => (looks_isAt _).bind_triple fun _ =>
    (looks_isAt _).bind_triple fun _ => ?_
  exact Triple.require fun _ => Triple.pure fun _ h => h

/-- An import that is an expression has none. -/
theorem plain_importExpression (recur : Recur) : Plain (importExpression recur) := by
  refine Plain.bind fun _ => Plain.bind fun _ => Plain.bind fun _ => ?_
  refine Triple.ite (fun _ => ?_) fun _ => ?_
  · exact Plain.bind fun _ => plain_node fun _ => rfl
  · exact Plain.bind fun _ => Plain.bind fun _ => Plain.bind fun _ => plain_node fun _ => rfl

/-- A construction with `new` has none. -/
theorem plain_newExpression (recur : Recur) : Plain (newExpression recur) := by
  refine Plain.bind fun _ => Plain.bind fun _ => Plain.bind fun _ => ?_
  refine Triple.ite (fun _ => ?_) fun _ => ?_
  · exact Plain.bind fun _ => plain_node fun _ => rfl
  · refine Plain.bind fun _ => Plain.bind fun _ => Plain.bind fun _ => ?_
    refine Triple.ite (fun _ => ?_) fun _ => ?_
    · exact Plain.bind fun _ => plain_node fun _ => rfl
    · exact plain_node fun _ => rfl

/-- The braces of a class are no body of statements. -/
theorem plain_classLike (recur : Recur) (isDeclaration nameless : Bool) :
    Plain (classLike recur isDeclaration nameless) := by
  unfold classLike
  refine Plain.bind fun start => Plain.bind fun _ => Plain.bind fun first => Plain.bind fun _ => ?_
  extract_lets hasName follow
  have hfollow : ∀ name, Plain (follow name) := by
    refine fun name => Plain.bind fun _ => Plain.bind fun hasHeritage => ?_
    extract_lets elements
    have helements : ∀ heritage, Plain (elements heritage) := fun heritage =>
      Plain.bind fun _ => Plain.bind fun _ => Plain.bind fun _ => plain_node fun _ => rfl
    refine Triple.ite (fun _ => ?_) fun _ => helements _
    exact Plain.bind fun _ => Plain.bind fun _ => helements _
  refine Plain.bind fun _ => Triple.ite (fun _ => ?_) fun _ => hfollow _
  exact Plain.bind fun _ => hfollow _

/-- The operator `yield` has no body in braces. -/
theorem plain_yieldExpression (recur : Recur) : Plain (yieldExpression recur) := by
  refine Plain.bind fun _ => Plain.bind fun _ => Plain.bind fun _ => ?_
  refine Triple.ite (fun _ => plain_node fun _ => rfl) fun _ => ?_
  exact Plain.bind fun _ => Plain.bind fun _ => plain_node fun _ => rfl

/-- A test for a private name has none. -/
theorem plain_privateIn (recur : Recur) (strength : Nat) : Plain (privateIn recur strength) :=
  Plain.bind fun _ => Plain.bind fun _ => Plain.bind fun _ => Plain.bind fun _ =>
    Plain.bind fun _ => plain_node fun _ => rfl

/-! ### What may be a function -/

/-- Right behind a body in braces. -/
def Behind (source : List Char) (body : Node) (s : State) : Prop :=
  InBraces source body ∧ body.span.stop = s.lastStop

/-- A node that is completed by a body ends with it. -/
theorem node_ends {start : Nat} {kind : Kind} {parts : List Node} {body : Node}
    (hlast : parts.getLast? = some body) :
    Triple (Behind source body) (node start kind parts) fun tree _ => EndsInBody source tree := by
  intro s tree s' hs h
  cases h
  intro last hbody
  unfold blockBody? at hbody
  split at hbody
  · cases hlast.symm.trans hbody
    exact hs
  · cases hlast.symm.trans hbody
    exact hs
  · cases hbody

section Recur

variable {recur : Recur} (hrecur : ∀ goal, Reads source (recur goal))

include hrecur

/-- The body of a function ends with its closing brace. -/
theorem functionBody_behind {place : Nat} (hP : ∀ s, P s → s.At source place) :
    Triple P (functionBody recur) (Behind source) := by
  intro s body s' hs h
  obtain ⟨hbraces, hstop, -⟩ := functionBody_inBraces hrecur (hP s hs) h
  exact ⟨hbraces, hstop⟩

/-- A function from its parameters on, wherever these may start. -/
theorem functionFrom_ends {place own : Nat} {kind : FunctionKind} {isAsync isGenerator : Bool}
    {name : List Node} (hP : ∀ s setting, P s → P { s with setting })
    (hparameters : Triple P (parameters recur) fun _ => At source place) :
    Triple P (functionFrom recur own kind isAsync isGenerator name) fun tree _ =>
      EndsInBody source tree := by
  refine Triple.within (hparameters.bind fun parameters => ?_) hP fun _ _ _ h => h
  refine (functionBody_behind hrecur fun _ h => h).bind fun body => node_ends ?_
  simp

/-- A function that starts with its word ends with its body. -/
theorem functionLike_ends (place : Nat) {own : Nat} {kind : FunctionKind}
    {isAsync nameless : Bool} :
    Triple (At source place) (functionLike recur own kind isAsync nameless) fun tree _ =>
      EndsInBody source tree := by
  have hparameters : ∀ nodes, Triple (Read source place nodes) (parameters recur) fun _ =>
      At source place :=
    fun nodes => ((reads_parameters hrecur).appends _ _).weaken (fun _ h => h) fun _ _ h => h.at
  refine (takes_expectWord _ place).bind fun _ => (passes_eat _ _ _).bind fun isGenerator => ?_
  refine (looks_isAt _).bind_triple fun isAtParameters => ?_
  simp only [pure_bind]
  refine Triple.ite (fun _ => ?_) fun _ => ?_
  · exact functionFrom_ends hrecur (fun _ => read_setting) (hparameters _)
  · refine (reads_binding.within.appends _ _).bind fun name => ?_
    exact functionFrom_ends hrecur (fun _ => read_setting) (hparameters _)

/-- So does a function expression, asynchronous or not. -/
theorem functionExpression_ends (place : Nat) :
    Triple (At source place) (functionExpression recur) fun tree _ => EndsInBody source tree := by
  refine Triple.start fun own hown => (eatWord_spec _ own).bind fun isAsync => ?_
  refine (functionLike_ends hrecur own).weaken (fun s hs => ?_) fun _ _ h => h
  cases isAsync with
  | true => exact hs.at
  | false => exact hs

/-- So does an arrow function with a body in braces. -/
theorem arrowFrom_ends (head : ArrowHead) :
    Triple (Read source head.start [head.parameters]) (arrowFrom recur head) fun tree _ =>
      EndsInBody source tree := by
  refine ((takes_expect _).passes _ _).bind fun _ => (looks_isAt _).bind_triple fun hasBlock => ?_
  cases hasBlock with
  | false => exact (Plain.bind fun _ => plain_node fun _ => rfl).ends
  | true =>
      have hbody : Triple (Read source head.start [head.parameters]) (functionBody recur)
          (Behind source) := functionBody_behind hrecur fun _ h => h.at
      refine (hbody.within (fun _ => read_setting) fun _ _ _ h => h).bind fun body => ?_
      exact node_ends rfl

/-- An operand that starts with a word ends with its body if it has one. -/
theorem wordOperand_ends (place : Nat) (name : String) :
    Triple (At source place) (wordOperand recur name) fun tree _ => EndsInBody source tree := by
  unfold wordOperand
  split
  · exact (plain_leaf fun _ => rfl).ends
  · exact (plain_leaf fun _ => rfl).ends
  · exact (plain_leaf fun _ => rfl).ends
  · exact (plain_leaf fun _ => rfl).ends
  · exact functionExpression_ends hrecur place
  · exact (plain_classLike recur _ _).ends
  · exact (plain_newExpression recur).ends
  · exact plain_superWord.ends
  · exact (plain_importExpression recur).ends
  · exact looks_isAtAsyncFunction.bind_triple fun _ =>
      Triple.ite (fun _ => functionExpression_ends hrecur place) fun _ => plain_identifier.ends

/-- So does an operand that stands by itself. -/
theorem primary_ends (place : Nat) :
    Triple (At source place) (primary recur) fun tree _ => EndsInBody source tree := by
  refine looks_token.bind_triple fun first => ?_
  split
  · exact wordOperand_ends hrecur place _
  · exact plain_identifier.ends
  · exact (plain_leaf fun _ => rfl).ends
  · exact (plain_leaf fun _ => rfl).ends
  · exact (plain_leaf fun _ => rfl).ends
  · exact (plain_template recur false).ends
  · exact (plain_parenthesized recur).ends
  · exact (plain_arrayLiteral recur).ends
  · exact (plain_objectLiteral recur).ends
  · exact plain_regex.ends
  · exact plain_regex.ends
  · exact Triple.failure

omit hrecur in
/-- A link is put on top of the operand that it follows. -/
theorem link_ends (start : Nat) (calls : Bool) (done : Linked)
    (hdone : EndsInBody source done.operand) :
    Triple (fun _ => True) (link recur start calls done) fun answer _ =>
      answer.elim (fun next => EndsInBody source next.operand) fun done =>
        EndsInBody source done.operand := by
  -- What is put on top of the operand is no body, so it may end anywhere.
  have hnode : ∀ kind parts inChain, (∀ span, blockBody? (.mk kind span parts) = none) →
      Triple (fun _ => True)
        (do return .inl ⟨← node start kind parts, inChain⟩ : Reader (Linked ⊕ Linked))
        fun answer _ => answer.elim (fun next => EndsInBody source next.operand) fun done =>
          EndsInBody source done.operand := by
    intro kind parts inChain hkind
    have htree : Triple (fun _ => True) (node start kind parts) fun tree _ =>
        EndsInBody source tree := (plain_node hkind).ends
    exact htree.bind fun tree => Triple.pure fun _ h => h
  refine Triple.skip fun token => ?_
  -- By the token: a member, an index, a template, an optional link, a call, or the end of the
  -- chain.
  split
  · exact Triple.skip fun _ => Triple.skip fun name => hnode _ _ _ fun _ => rfl
  · exact Triple.skip fun inner => hnode _ _ _ fun _ => rfl
  · exact Triple.skip fun _ => Triple.skip fun template => hnode _ _ _ fun _ => rfl
  · refine Triple.skip fun _ => Triple.skip fun _ => Triple.skip fun isCall => ?_
    refine Triple.ite (fun _ => ?_) fun _ => ?_
    · exact Triple.skip fun arguments => hnode _ _ _ fun _ => rfl
    refine Triple.skip fun isIndex => Triple.ite (fun _ => ?_) fun _ => ?_
    · exact Triple.skip fun inner => hnode _ _ _ fun _ => rfl
    · exact Triple.skip fun name => hnode _ _ _ fun _ => rfl
  · refine Triple.ite (fun _ => ?_) fun _ => Triple.pure fun _ _ => hdone
    exact Triple.skip fun arguments => hnode _ _ _ fun _ => rfl
  · exact Triple.pure fun _ _ => hdone

/-- So does an operand with members and calls behind it, since there it has no body of its own. -/
theorem leftHand_ends (place : Nat) :
    Triple (At source place) (leftHand recur) fun tree _ => EndsInBody source tree := by
  refine Triple.start fun own hown => (primary_ends hrecur own).bind fun operand => ?_
  have hlinks : Triple (fun _ => EndsInBody source operand)
      (iterate (link recur own true) ⟨operand, false⟩) fun done _ =>
        EndsInBody source done.operand :=
    Triple.iterate (a := Linked.mk operand false)
      (Q := fun done _ => EndsInBody source done.operand)
      fun done s answer s' hdone => link_ends own true done hdone s answer s' trivial
  refine hlinks.bind fun done => Triple.ite (fun _ => ?_) fun _ => Triple.pure fun _ h => h
  exact (plain_node fun _ => rfl).ends

/-- So does an operand that is changed in place. -/
theorem updated_ends (place : Nat) :
    Triple (At source place) (updated recur) fun tree _ => EndsInBody source tree := by
  refine Triple.start fun own hown => looks_token.bind_triple fun first => ?_
  split
  · exact Triple.skip fun _ => Triple.skip fun _ => Triple.skip fun _ =>
      (plain_node fun _ => rfl).ends
  · refine (leftHand_ends hrecur own).bind fun operand => looks_token.bind_triple fun next => ?_
    split
    · refine Triple.ite (fun _ => Triple.pure fun _ h => h) fun _ => ?_
      exact Triple.skip fun _ => Triple.skip fun _ => (plain_node fun _ => rfl).ends
    · exact Triple.pure fun _ h => h

/-- So does an operand with operators in front of it. -/
theorem unary_ends (place : Nat) :
    Triple (At source place) (unary recur) fun tree _ => EndsInBody source tree := by
  refine Triple.start fun own hown => looks_token.bind_triple fun first => ?_
  split
  · exact Triple.skip fun _ => Triple.skip fun _ => (plain_node fun _ => rfl).ends
  · refine looks_get.bind_triple fun state => Triple.ite (fun _ => ?_) fun _ => ?_
    · exact Triple.skip fun _ => Triple.skip fun _ => (plain_node fun _ => rfl).ends
    · exact updated_ends hrecur own

/-- So do operands that are joined by operators. -/
theorem operation_ends (place strength : Nat) :
    Triple (At source place) (operation recur strength) fun tree _ => EndsInBody source tree := by
  refine Triple.start fun own hown => looks_get.bind_triple fun state => ?_
  refine looks_isAtPrivateName.bind_triple fun isPrivate => ?_
  extract_lets follow
  -- Each further operator puts what has been read so far under a node that is no body.
  have hfollow : ∀ first, Triple (fun _ => EndsInBody source first) (follow first) fun tree _ =>
      EndsInBody source tree := by
    refine fun first => Triple.iterate (Q := fun left _ => EndsInBody source left) fun left => ?_
    refine looks_token.bind_triple fun token => looks_get.bind_triple fun state => ?_
    split
    · exact Triple.pure fun _ h => h
    · rename_i op _
      extract_lets strength' kind
      refine Triple.ite (fun _ => Triple.pure fun _ h => h) fun _ => ?_
      refine Triple.skip fun _ => Triple.skip fun right => Triple.skip fun _ => ?_
      have hkind : ∀ span, blockBody? (.mk kind span [left, right]) = none := by
        cases op <;> exact fun _ => rfl
      have hnode : Triple (fun _ => True) (node own kind [left, right]) fun tree _ =>
          EndsInBody source tree := (plain_node hkind).ends
      exact hnode.bind fun tree => Triple.pure fun _ h => h
  refine Triple.ite (fun _ => ?_) fun _ => ?_
  · exact Triple.bind (plain_privateIn recur strength).ends hfollow
  · exact (unary_ends hrecur own).bind hfollow

/-- So does a choice or an assignment. -/
theorem choiceOrAssignment_ends (place : Nat) :
    Triple (At source place) (choiceOrAssignment recur) fun tree _ => EndsInBody source tree := by
  refine Triple.start fun own hown => (operation_ends hrecur own 0).bind fun left => ?_
  refine looks_token.bind_triple fun token => ?_
  split
  · exact Triple.skip fun _ => Triple.skip fun _ => Triple.skip fun _ =>
      (plain_node fun _ => rfl).ends
  · have heat : Triple (fun _ => EndsInBody source left) (eat .question) fun _ _ =>
        EndsInBody source left := fun _ _ _ h _ => h
    refine heat.bind fun isChoice => Triple.ite (fun _ => ?_) fun _ => Triple.pure fun _ h => h
    exact Triple.skip fun _ => Triple.skip fun _ => Triple.skip fun _ =>
      (plain_node fun _ => rfl).ends

/-- So does an expression without commas, arrow functions among them. -/
theorem assignment_ends (place : Nat) :
    Triple (At source place) (assignment recur) fun tree _ => EndsInBody source tree := by
  refine looks_get.bind_triple fun state => (looks_isAtWord _).bind_triple fun isYield => ?_
  refine Triple.ite (fun _ => (plain_yieldExpression recur).ends) fun _ => ?_
  exact Triple.orElse (arrowHead_reads hrecur place)
    (fun head => Triple.known fun _ => arrowFrom_ends hrecur head)
    (choiceOrAssignment_ends hrecur place)

/-- What is read as an expression and has a body in braces ends with this body. -/
theorem expression_ends (place : Nat) :
    Triple (At source place) (expression recur) fun tree _ => EndsInBody source tree := by
  refine Triple.start fun own hown => (assignment_ends hrecur own).bind fun first => ?_
  refine (looks_isAt _).bind_triple fun goesOn => Triple.ite (fun _ => ?_) fun _ => ?_
  · exact Triple.skip fun _ => (plain_node fun _ => rfl).ends
  · exact Triple.pure fun _ h => h

end Recur

end MiniApp.Script.Reader

namespace MiniApp.Handler

open MiniApp.Script

/-- An expression that has a body in braces, and that a text consists of, ends with this body. -/
theorem wholeExpression?_endsInBody {source : List Char} {tree : Script.Node}
    (h : wholeExpression? source = some tree) : EndsInBody source tree := by
  obtain ⟨s, s', hinitial, hread, -⟩ := wholeExpression?_eq_some_iff.mp h
  obtain ⟨hat, -⟩ := initial_spec hinitial
  exact Reader.expression_ends (Reader.reads_upTo _) _ s tree s' hat hread

end MiniApp.Handler
