import MiniApp.Proofs.Script.Inside

/-!
# No expression ends in white space

Every reader of the grammar stays inside the text (`StaysInside`), from the patterns up to the
statements and so whatever depth it may go to. An expression takes at least one token, hence
`expression?_inside`: it ends before the white space at the end of a text begins.
-/

set_option autoImplicit false

namespace MiniApp.Script

open State (IsInside)

namespace Reader

/-! ### Patterns -/

section Grammar

variable (recur : Recur) [∀ goal, StaysInside (recur goal)]

instance : StaysInside (value recur) := by
  unfold value
  infer_instance

instance : StaysInside (propertyKey recur) := by
  refine stays_token fun first => ?_
  split
  all_goals first
    | exact (leaf_from (by simp [*])).bind fun _ => inferInstance
    | infer_instance

instance {own : Nat} {target : Node} : StaysInside (withDefault recur own target) := by
  unfold withDefault
  infer_instance

instance : StaysInside (bindingElement recur) := by
  unfold bindingElement
  infer_instance

instance {target : Reader Node} [StaysInside target] : StaysInside (rest target) := by
  unfold rest
  infer_instance

instance {close : Mark} {part : Reader Node} [StaysInside part] :
    StaysInside (patternParts close part) := by
  unfold patternParts
  infer_instance

instance : StaysInside (arrayPattern recur) := by
  unfold arrayPattern
  infer_instance

instance : StaysInside (bindingProperty recur) := by
  unfold bindingProperty
  repeat' first | infer_instance | refine .seq fun _ => ?_ | split

instance : StaysInside (objectPattern recur) := by
  unfold objectPattern
  infer_instance

instance : StaysInside (declaredTarget recur) := by
  unfold declaredTarget
  infer_instance

instance : StaysInside (parameters recur) := by
  unfold parameters
  infer_instance

/-! ### Functions -/

instance : StaysInside (statementsInBraces recur) := by
  unfold statementsInBraces
  infer_instance

instance : StaysInside (functionBody recur) := by
  unfold functionBody
  infer_instance

instance {own : Nat} {kind : FunctionKind} {isAsync isGenerator : Bool} {name : List Node} :
    StaysInside (functionFrom recur own kind isAsync isGenerator name) := by
  unfold functionFrom
  infer_instance

instance {own : Nat} {kind : FunctionKind} {isAsync nameless : Bool} :
    StaysInside (functionLike recur own kind isAsync nameless) := by
  unfold functionLike
  infer_instance

instance : StaysInside isAtAsyncFunction := by
  unfold isAtAsyncFunction
  infer_instance

instance : StaysInside (functionExpression recur) := by
  unfold functionExpression
  infer_instance

instance {nameless : Bool} : StaysInside (functionDeclaration recur nameless) := by
  unfold functionDeclaration
  infer_instance

instance {own : Nat} {kind : MethodKind} {isStatic computed isAsync isGenerator : Bool}
    {key : Node} :
    StaysInside (methodFrom recur own kind isStatic computed isAsync isGenerator key) := by
  unfold methodFrom
  infer_instance

instance : StaysInside methodWords := by
  -- Each word is taken on a condition that has this word in it.
  refine .of_from fun first => (spots_isAtWord "get").bind fun get hget => ?_
  refine (looks_isNext _).bind_staysFrom fun _ => .ite (fun h => ?_) fun _ => ?_
  · exact (advance_from (hget (Bool.and_eq_true_iff.mp h).1)).bind fun _ => inferInstance
  refine (spots_isAtWord "set").bind fun set hset => ?_
  refine (looks_isNext _).bind_staysFrom fun _ => .ite (fun h => ?_) fun _ => ?_
  · exact (advance_from (hset (Bool.and_eq_true_iff.mp h).1)).bind fun _ => inferInstance
  refine (spots_isAtWord "async").bind fun async hasync => ?_
  refine (looks_isNext _).bind_staysFrom fun _ => .ite (fun h => ?_) fun _ => ?_
  · exact (advance_from (hasync (Bool.and_eq_true_iff.mp h).1)).bind fun _ => inferInstance
  · infer_instance

/-! ### Classes -/

instance : StaysInside (classKey recur) := by
  unfold classKey
  infer_instance

instance {own : Nat} : StaysInside (staticBlock recur own) := by
  unfold staticBlock
  infer_instance

instance {own : Nat} {isStatic computed isAccessor : Bool} {key : Node} :
    StaysInside (fieldFrom recur own isStatic computed isAccessor key) := by
  unfold fieldFrom
  infer_instance

/-- The test whether a word stands before a key answers yes only at a token. -/
theorem spots_isBeforeKey (name : String) (sameLine : Bool) (also : Token → Bool) :
    Spots (isBeforeKey name sameLine also) :=
  (spots_isAtWord name).andThen (looks_isNext _)

instance : StaysInside (classElement recur) := by
  refine .seq fun ended => .ite _ inferInstance (.seq fun own => ?_)
  dsimp only
  -- Both words that may stand in front, `static` and `accessor`, are taken where they stand; what
  -- comes behind does not depend on whether they were taken.
  refine .of_from fun first => (spots_isBeforeKey _ _ _).bind fun isStatic hstatic => ?_
  refine .ite (fun h => (advance_from (hstatic h)).bind fun _ => ?_)
    fun _ => StaysInside.toFrom ?_
  all_goals
    refine .seq fun braced => .ite _ inferInstance (.of_from fun first => ?_)
    refine (spots_isBeforeKey _ _ _).bind fun isAccessor haccessor => ?_
    refine .ite (fun h => (advance_from (haccessor h)).bind fun _ => ?_)
      fun _ => StaysInside.toFrom ?_
    all_goals repeat' first | infer_instance | refine .seq fun _ => ?_ | split

instance {isDeclaration nameless : Bool} :
    StaysInside (classLike recur isDeclaration nameless) := by
  unfold classLike
  repeat' first | infer_instance | refine .seq fun _ => ?_ | split

/-! ### Literals -/

instance : StaysInside (spread recur) := by
  unfold spread
  infer_instance

instance : StaysInside (element recur) := by
  unfold element
  infer_instance

instance : StaysInside (arguments recur) := by
  unfold arguments
  infer_instance

instance : StaysInside (arrayLiteral recur) := by
  unfold arrayLiteral
  infer_instance

instance : StaysInside (objectProperty recur) := by
  unfold objectProperty
  repeat' first | infer_instance | refine .seq fun _ => ?_ | split

instance : StaysInside (objectLiteral recur) := by
  unfold objectLiteral
  infer_instance

/-- A token that is taken again as another one does not go up to the end of the text. -/
theorem rescanned_inside {rescan : Token → List Char → Option (Token × List Char)}
    (hrest : ∀ closing rest token after, rescan closing rest = some (token, after) →
      token.stop = after.length ∧ after <:+ rest ∧ rest ≠ [] ∧ (EndsInGap rest → EndsInGap after)) :
    StaysInside (rescanned rescan) := by
  refine ⟨fun source hgap s a s' hs heq => ?_⟩
  obtain ⟨⟨token, after⟩, hrescan, hs'⟩ := Option.bind_eq_some_iff.mp heq
  obtain ⟨hstop, hsuffix, hne, hafter⟩ := hrest _ _ _ _ hrescan
  cases hs'
  refine ⟨hsuffix.trans hs.rest, hstop, fun _ hempty => ?_, hs.last⟩
  have hend := hafter (hgap.of_suffix hs.rest hne)
  rw [show after = [] from hempty] at hend
  exact hend

instance : StaysInside (rescanned rescanChunk) := by
  refine rescanned_inside fun closing rest token after h => ?_
  obtain ⟨hstop, -, hsuffix, -⟩ := rescanChunk_spec h
  obtain ⟨chunk, hchunk, h⟩ := Option.bind_eq_some_iff.mp h
  cases h
  refine ⟨hstop, hsuffix, ?_, readChunk_gap hchunk⟩
  rintro rfl
  cases hchunk

instance : StaysInside (rescanned rescanRegex) := by
  refine rescanned_inside fun slash rest token after h => ?_
  obtain ⟨hstop, -, hsuffix, -⟩ := rescanRegex_spec h
  obtain ⟨behind, hbehind, h⟩ := Option.bind_eq_some_iff.mp h
  cases h
  refine ⟨hstop, hsuffix, ?_, afterRegex_gap hbehind⟩
  rintro rfl
  cases hbehind

instance {tagged : Bool} : StaysInside (template recur tagged) := by
  refine .seq fun own => ?_
  -- One turn of the loop: the chunk that stands here, and the expression behind it.
  have hpiece : ∀ read : List Node, StaysInside (do
      match (← token).shape with
      | .chunk text valid isLast =>
        require (valid || tagged)
        let chunk ← leaf (.chunk text)
        if isLast then return .inr (chunk :: read)
        let inner ← withIn (recur .expression)
        require (← isAt .braceR)
        rescanned rescanChunk
        return .inl (inner :: chunk :: read)
      | _ => failure : Reader (List Node ⊕ List Node)) := by
    refine fun read => stays_token fun first => ?_
    split
    · refine (looks_require _).bind_staysFrom fun _ => ?_
      exact (leaf_from (by simp [*])).bind fun _ => inferInstance
    · infer_instance
  infer_instance

instance : StaysInside regex := by
  refine .seq fun _ => stays_token fun first => ?_
  split
  · exact leaf_from (by simp [*])
  · infer_instance

/-! ### Operands -/

instance : StaysInside (parenthesized recur) := by
  unfold parenthesized
  infer_instance

instance : StaysInside (importExpression recur) := by
  unfold importExpression
  repeat' first | infer_instance | refine .seq fun _ => ?_

instance : StaysInside (newExpression recur) := by
  unfold newExpression
  repeat' first | infer_instance | refine .seq fun _ => ?_

/-- An operand that starts with a word stays inside. -/
theorem wordOperand_from {first : Token} (h : first.shape ≠ .finish) (name : String) :
    StaysFrom first (wordOperand recur name) := by
  unfold wordOperand
  split
  all_goals first
    | exact leaf_from h
    | exact (leaf_from h).bind fun _ => inferInstance
    | infer_instance

instance : StaysInside (primary recur) := by
  refine stays_token fun first => ?_
  split
  all_goals first
    | infer_instance
    | exact leaf_from (by simp [*])
    | exact wordOperand_from recur (by simp [*]) _

instance : StaysInside memberName := by
  unfold memberName
  infer_instance

instance : StaysInside (memberIndex recur) := by
  unfold memberIndex
  infer_instance

instance {own : Nat} {calls : Bool} {done : Linked} : StaysInside (link recur own calls done) := by
  refine stays_token fun first => ?_
  split
  all_goals first
    | infer_instance
    | exact (advance_from (by simp [*])).bind fun _ => inferInstance
    | exact (looks_require _).bind_staysFrom fun _ =>
        (advance_from (by simp [*])).bind fun _ => inferInstance

instance : StaysInside (callee recur) := by
  unfold callee
  infer_instance

instance : StaysInside (leftHand recur) := by
  unfold leftHand
  infer_instance

/-! ### Operators -/

/-- An operator with one operand is not the end of the text. -/
theorem shape_of_unaryOp {token : Token} {op : UnaryOp} (h : unaryOp? token = some op) :
    token.shape ≠ .finish := by
  intro hfinish
  simp [unaryOp?, hfinish] at h

/-- Nor is an operator that changes its operand. -/
theorem shape_of_updateOp {token : Token} {op : UpdateOp} (h : updateOp? token = some op) :
    token.shape ≠ .finish := by
  intro hfinish
  simp [updateOp?, hfinish] at h

/-- Nor is an operator between operands. -/
theorem shape_of_infixOp {token : Token} {setting : Setting} {op : BinaryOp ⊕ LogicalOp}
    (h : infixOp? token setting = some op) : token.shape ≠ .finish := by
  intro hfinish
  simp [infixOp?, hfinish] at h

/-- Nor is the operator of an assignment. -/
theorem shape_of_assignOp {token : Token} {op : AssignOp} (h : assignOp? token = some op) :
    token.shape ≠ .finish := by
  intro hfinish
  simp [assignOp?, hfinish] at h

/-- Going on with a value that may be missing moves nothing. -/
theorem looks_ofOption {α : Type} (a : Option α) : Looks (ofOption a) := by
  cases a with
  | none => exact looks_failure
  | some a => exact looks_pure a

instance {α : Type} {a : Option α} : StaysInside (ofOption a) :=
  (looks_ofOption a).staysInside

instance : StaysInside (updated recur) := by
  refine .seq fun own => stays_token fun first => ?_
  split
  · exact (advance_from (shape_of_updateOp ‹_›)).bind fun _ => inferInstance
  refine StaysInside.toFrom (.seq fun operand => stays_token fun next => ?_)
  split
  · refine .ite (fun _ => inferInstance) fun _ => ?_
    refine (looks_ofOption _).bind_staysFrom fun _ => ?_
    exact (advance_from (shape_of_updateOp ‹_›)).bind fun _ => inferInstance
  · infer_instance

instance : StaysInside (unary recur) := by
  refine .seq fun own => stays_token fun first => ?_
  split
  · exact (advance_from (shape_of_unaryOp ‹_›)).bind fun _ => inferInstance
  refine looks_get.bind_staysFrom fun s => .ite (fun hawait => ?_) fun _ => inferInstance
  have hword := (Bool.and_eq_true_iff.mp hawait).1
  exact (advance_from (shape_of_isWord hword)).bind fun _ => inferInstance

instance {strength : Nat} : StaysInside (privateIn recur strength) := by
  unfold privateIn
  infer_instance

instance {strength : Nat} : StaysInside (operation recur strength) := by
  have hstep : ∀ (own : Nat) (left : Node), StaysInside (do
      match infixOp? (← token) (← get).setting with
      | none => return .inr left
      | some op =>
        let own' := op.elim BinaryOp.strength LogicalOp.strength
        if own' < strength || (own' == strength && op != .inl .power) then return .inr left
        advance
        let right ← recur (.operation own')
        require (mayJoin left op right)
        let kind := op.elim Kind.binary Kind.logical
        return .inl (← node own kind [left, right]) : Reader (Node ⊕ Node)) := by
    refine fun own left => stays_token fun first => looks_get.bind_staysFrom fun s => ?_
    split
    · infer_instance
    · refine .ite (fun _ => inferInstance) fun _ => ?_
      exact (advance_from (shape_of_infixOp ‹_›)).bind fun _ => inferInstance
  unfold operation
  infer_instance

/-! ### Arrow functions and assignments -/

instance : StaysInside loneParameter := by
  unfold loneParameter
  infer_instance

instance : StaysInside (arrowHead recur) := by
  refine .seq fun own => .of_from fun first => (spots_isAtWord "async").bind fun async hasync => ?_
  refine (looks_isNext _).bind_staysFrom fun _ => .ite (fun h => ?_) fun _ => ?_
  · exact (advance_from (hasync (Bool.and_eq_true_iff.mp h).1)).bind fun _ => inferInstance
  · infer_instance

instance {head : ArrowHead} : StaysInside (arrowFrom recur head) := by
  unfold arrowFrom
  infer_instance

/-- The operator `yield` stays inside. -/
theorem yieldExpression_from {first : Token} (h : first.shape ≠ .finish) :
    StaysFrom first (yieldExpression recur) :=
  looks_start.bind_staysFrom fun _ =>
    (advance_from h).bind fun _ => inferInstance

instance : StaysInside (choiceOrAssignment recur) := by
  refine .seq fun own => .seq fun left => stays_token fun first => ?_
  split
  · refine (looks_ofOption _).bind_staysFrom fun _ => ?_
    exact (advance_from (shape_of_assignOp ‹_›)).bind fun _ => inferInstance
  · infer_instance

instance : StaysInside (assignment recur) := by
  refine .seq fun s => .of_from fun first => (spots_isAtWord "yield").bind fun here hhere => ?_
  refine .ite (fun h => yieldExpression_from recur (hhere (Bool.and_eq_true_iff.mp h).2))
    fun _ => inferInstance

instance : StaysInside (expression recur) := by
  unfold expression
  infer_instance

/-! ### Statements -/

instance : StaysInside (block recur) := by
  unfold block
  infer_instance

instance : StaysInside (condition recur) := by
  unfold condition
  infer_instance

instance {kind : VariableKind} {lenient : Bool} : StaysInside (declarator recur kind lenient) := by
  unfold declarator
  infer_instance

/-- The words with which a declaration of variables starts stand here. -/
def Declares (kind : VariableKind) (s : State) : Prop :=
  s.token.shape ≠ .finish ∧ (kind = .awaitUsing →
    ∀ next rest, scan s.rest = some (next, rest) → next.shape ≠ .finish)

/-- Where a test answers yes, a token stands. -/
theorem Spots.triple {r : Reader Bool} (h : Spots r) {P : State → Prop} :
    Triple P r fun here s => P s ∧ (here = true → s.token.shape ≠ .finish) := by
  intro s here s' hs heq
  obtain rfl := h.looks s here s' heq
  exact ⟨hs, fun hhere => h.token s' s' (hhere ▸ heq)⟩

/-- A word that is found here to declare variables does so with the token behind it. -/
theorem usingKind?_declares {P : State → Prop} (names : Token → Bool) :
    Triple P (usingKind? names) fun kind? s => P s ∧ ∀ kind ∈ kind?, Declares kind s := by
  refine (spots_isAtWord "using").triple.bind fun here => ?_
  -- By itself `using` is known from the look at it, but `await using` is two words.
  cases here with
  | true =>
      refine (looks_isNext names).bind_triple fun declares => Triple.pure fun s hs => ?_
      refine ⟨hs.1, fun kind hkind => ⟨hs.2 rfl, ?_⟩⟩
      rintro rfl
      cases declares <;> cases hkind
  | false =>
      refine (spots_isAtWord "await").triple.bind fun here => looks_get.bind_triple fun state => ?_
      refine Triple.ite (fun h => ?_) fun _ => Triple.pure fun s hs => ⟨hs.1.1, nofun⟩
      intro s kind? s' hs heq
      cases heq
      refine ⟨hs.1.1, fun kind hkind => ⟨hs.2 (Bool.and_eq_true_iff.mp h).1, fun _ => ?_⟩⟩
      intro next rest hscan
      split at hkind
      · rename_i hnext
        obtain ⟨⟨isUsing, s'⟩, hread, rfl⟩ := Option.map_eq_some_iff.mp hnext
        obtain ⟨⟨⟨⟩, behind⟩, hadvance, hread⟩ := Option.bind_eq_some_iff.mp hread
        obtain ⟨⟨token, after⟩, htoken, hbehind⟩ := Option.bind_eq_some_iff.mp hadvance
        cases hbehind
        cases hscan.symm.trans htoken
        -- The token behind `await` was required to be the word `using` when it was looked at.
        have hrequired : Triple (fun s => s.token = next) (Reader.token >>= fun next =>
            require (next.isWord "using" && !next.onNewLine) >>= fun _ => isNext names)
            fun _ _ => next.shape ≠ .finish := by
          refine Triple.token fun token => Triple.require fun hword => ?_
          refine (looks_isNext names).triple.weaken (fun s hs => ?_) fun _ _ h => h
          exact hs.2.symm.trans hs.1 ▸ shape_of_isWord (Bool.and_eq_true_iff.mp hword).1
        exact hrequired _ _ _ rfl hread
      · cases hkind

/-- The word and what follows it are read where they declare variables. -/
theorem variableDeclaration_inside {source : List Char} (hgap : EndsInGap source)
    (kind : VariableKind) (lenient : Bool) :
    Triple (fun s => s.IsInside source ∧ Declares kind s)
      (variableDeclaration recur kind lenient) fun _ => IsInside source := by
  -- Behind `await` there is `using`, so the text does not end between the two.
  have hfirst : Triple (fun s => s.IsInside source ∧ Declares kind s) advance fun _ s =>
      s.IsInside source ∧ (kind = .awaitUsing → s.token.shape ≠ .finish) := by
    intro s answer s' hs heq
    refine ⟨advance_inside hgap s answer s' ⟨hs.1, hs.2.1⟩ heq, fun hkind => ?_⟩
    obtain ⟨⟨token, rest⟩, hscan, hs'⟩ := Option.bind_eq_some_iff.mp heq
    cases hs'
    exact hs.2.2 hkind token rest hscan
  refine looks_start.bind_triple fun own =>
    hfirst.bind fun _ => ?_
  dsimp only
  refine Triple.ite (fun hkind => ?_) fun _ => ?_
  · refine Triple.bind (Q := fun _ => IsInside source) ?_ fun _ =>
      StaysInside.triple source hgap
    exact (advance_inside hgap).weaken (fun _ hs => ⟨hs.1, hs.2 hkind⟩) fun _ _ hs => hs
  · exact (StaysInside.triple source hgap).weaken (fun _ hs => hs.1) fun _ _ hs => hs

instance {close : Mark} : StaysInside (loopPart recur close) := by
  unfold loopPart
  infer_instance

instance {own : Nat} {first : Node} : StaysInside (countingLoop recur own first) := by
  unfold countingLoop
  infer_instance

instance : StaysInside (whileLoop recur) := by
  unfold whileLoop
  infer_instance

instance : StaysInside (doLoop recur) := by
  unfold doLoop
  infer_instance

instance : StaysInside (ifStatement recur) := by
  unfold ifStatement
  infer_instance

instance : StaysInside (withStatement recur) := by
  unfold withStatement
  infer_instance

instance : StaysInside (switchCase recur) := by
  unfold switchCase
  repeat' first | infer_instance | refine .seq fun _ => ?_

instance : StaysInside (switchStatement recur) := by
  unfold switchStatement
  infer_instance

instance : StaysInside (tryStatement recur) := by
  unfold tryStatement
  repeat' first | infer_instance | refine .seq fun _ => ?_ | split

instance : StaysInside (expressionStatement recur) := by
  unfold expressionStatement
  repeat' first | infer_instance | refine .seq fun _ => ?_ | split

instance {isBody : Bool} : StaysInside (functionStatement recur isBody) := by
  unfold functionStatement
  infer_instance

/-- A declaration is read where its word stands. -/
theorem variableStatement_inside {source : List Char} (hgap : EndsInGap source)
    (kind : VariableKind) : Triple (fun s => s.IsInside source ∧ Declares kind s)
      (variableStatement recur kind) fun _ => IsInside source :=
  looks_start.bind_triple fun _ =>
    (variableDeclaration_inside recur hgap kind false).bind fun _ =>
      StaysInside.triple source hgap

/-- A declaration of variables that starts with a single word stays inside. -/
theorem variableStatement_from {first : Token} (h : first.shape ≠ .finish) {kind : VariableKind}
    (hkind : kind ≠ .awaitUsing) : StaysFrom first (variableStatement recur kind) :=
  ⟨fun _ hgap => (variableStatement_inside recur hgap kind).weaken
    (fun _ hs => ⟨hs.1, hs.2 ▸ h, fun h => absurd h hkind⟩) fun _ _ hs => hs⟩

/-- A loop over keys or values stays inside, given how its target is made. -/
theorem eachLoop_inside {own : Nat} {isAwait : Bool} {target : Reader Node}
    (htarget : Looks target) : StaysInside (eachLoop recur own isAwait target) := by
  refine .of_from fun first => (spots_isAtWord "of").bind fun here hhere => ?_
  refine .ite (fun h => ?_) fun _ => ?_
  · exact htarget.bind_staysFrom fun _ => (advance_from (hhere h)).bind fun _ => inferInstance
  refine (spots_isAtWord "in").bind fun here hhere => .ite (fun h => ?_) fun _ => inferInstance
  exact htarget.bind_staysFrom fun _ =>
    (advance_from (hhere (Bool.and_eq_true_iff.mp h).2)).bind fun _ => inferInstance

/-- A declaration that is found in the head of a loop starts with its words. -/
theorem loopVariableKind?_declares {P : State → Prop} :
    Triple P loopVariableKind? fun kind? s => P s ∧ ∀ kind ∈ kind?, Declares kind s := by
  -- Each of these words declares variables by itself.
  have hone : ∀ {here : Bool} {kind : VariableKind} {s : State}, kind ≠ .awaitUsing →
      (here = true → s.token.shape ≠ .finish) → here = true → Declares kind s :=
    fun hkind htoken hhere => ⟨htoken hhere, fun h => absurd h hkind⟩
  refine (spots_isAtWord "var").triple.bind fun here => Triple.ite (fun h => ?_) fun _ => ?_
  · exact Triple.pure fun s hs => ⟨hs.1, fun _ hkind => by cases hkind; exact hone nofun hs.2 h⟩
  refine (spots_isAtWord "const").triple.bind fun here => Triple.ite (fun h => ?_) fun _ => ?_
  · exact Triple.pure fun s hs => ⟨hs.1.1, fun _ hkind => by cases hkind; exact hone nofun hs.2 h⟩
  refine (spots_isAtWord "let").triple.bind fun here => Triple.ite (fun h => ?_) fun _ => ?_
  · refine (looks_isNext _).bind_triple fun declares => Triple.pure fun s hs => ⟨hs.1.1.1, ?_⟩
    intro kind hkind
    cases declares <;> cases hkind
    exact hone nofun hs.2 h
  · exact (usingKind?_declares _).weaken (fun _ hs => hs.1.1.1) fun _ _ hs => hs

/-- A loop whose variables are declared in its head. -/
theorem declaredLoop_inside {source : List Char} (hgap : EndsInGap source) {own : Nat}
    {isAwait : Bool} (kind : VariableKind) :
    Triple (fun s => s.IsInside source ∧ Declares kind s) (do
      let declaration ← withoutIn (variableDeclaration recur kind true)
      match ← eachLoop recur own isAwait (return declaration) with
      | some loop => return loop
      | none =>
        require (!isAwait && hasNeededValues kind declaration)
        countingLoop recur own declaration) fun _ => IsInside source := by
  refine ((variableDeclaration_inside recur hgap kind true).within
    (fun _ setting hs => ⟨inside_setting setting hs.1, hs.2⟩)
      fun _ _ setting => inside_setting setting).bind fun declaration => ?_
  refine ((eachLoop_inside recur (looks_pure declaration)).triple source hgap).bind fun loop? => ?_
  cases loop? <;> exact StaysInside.triple source hgap

instance : StaysInside (forLoop recur) := by
  refine .seq fun own => .seq fun _ => .seq fun isAwait => .seq fun _ => .seq fun _ => ?_
  refine .seq fun _ => .seq fun here => .ite _ inferInstance ⟨fun source hgap => ?_⟩
  refine loopVariableKind?_declares.bind fun kind? => ?_
  -- With a declaration in its head, or with an expression.
  cases kind? with
  | some kind =>
      exact (declaredLoop_inside recur hgap kind).weaken (fun s hs => ⟨hs.1, hs.2 kind rfl⟩)
        fun _ _ hs => hs
  | none =>
      have heach : ∀ expression : Node,
          StaysInside (eachLoop recur own isAwait (ofOption expression.toTarget?)) :=
        fun _ => eachLoop_inside recur (looks_ofOption _)
      have hloop : StaysInside (do
          let first ← token
          let expression ← withoutIn (recur .expression)
          let isOf ← isAtWord "of"
          require !(isOf && first.isWord "let")
          require !(isOf && !isAwait && first.isWord "async" &&
            expression.kind = .identifier "async")
          match ← eachLoop recur own isAwait (ofOption expression.toTarget?) with
          | some loop => return loop
          | none =>
            require !isAwait
            countingLoop recur own expression) := by
        repeat' first | infer_instance | refine .seq fun _ => ?_ | split
      exact (hloop.triple source hgap).weaken (fun _ hs => hs.1) fun _ _ hs => hs

/-- A jump stays inside. -/
theorem jump_from {first : Token} (h : first.shape ≠ .finish) (kind : Kind) :
    StaysFrom first (jump kind) :=
  looks_start.bind_staysFrom fun _ =>
    (advance_from h).bind fun _ => inferInstance

/-- So does a return. -/
theorem returnStatement_from {first : Token} (h : first.shape ≠ .finish) :
    StaysFrom first (returnStatement recur) :=
  looks_start.bind_staysFrom fun _ =>
    looks_get.bind_staysFrom fun _ => (looks_require _).bind_staysFrom fun _ =>
      (advance_from h).bind fun _ => inferInstance

/-- So does a statement with `throw`. -/
theorem throwStatement_from {first : Token} (h : first.shape ≠ .finish) :
    StaysFrom first (throwStatement recur) :=
  looks_start.bind_staysFrom fun _ =>
    (advance_from h).bind fun _ => inferInstance

/-- So does a statement that starts with `let`. -/
theorem letStatement_from {first : Token} (h : first.shape ≠ .finish) (isBody : Bool) :
    StaysFrom first (letStatement recur isBody) := by
  refine (looks_isNext _).bind_staysFrom fun _ => .ite (fun _ => inferInstance) fun _ => ?_
  refine (looks_isNext _).bind_staysFrom fun _ => .ite (fun _ => inferInstance) fun _ => ?_
  exact (looks_require _).bind_staysFrom fun _ => variableStatement_from recur h nofun

/-- So does a statement that starts with any other word. -/
theorem wordStatement_from {first : Token} (h : first.shape ≠ .finish) (name : String)
    (isBody : Bool) : StaysFrom first (wordStatement recur name isBody) := by
  unfold wordStatement
  split
  -- A statement that may end behind its word starts from a token that is not the end of the text.
  all_goals first
    | infer_instance
    | exact jump_from h _
    | exact throwStatement_from recur h
    | exact returnStatement_from recur h
    | exact variableStatement_from recur h nofun
    | exact letStatement_from recur h isBody
    | exact looks_start.bind_staysFrom fun _ => (advance_from h).bind fun _ => inferInstance
    | exact (looks_require _).bind_staysFrom fun _ => variableStatement_from recur h nofun
    | refine StaysInside.toFrom (.seq fun _ => .ite _ inferInstance ⟨fun source hgap => ?_⟩)
  refine (usingKind?_declares _).bind fun kind? => ?_
  cases kind? with
  | none => exact (StaysInside.triple source hgap).weaken (fun _ hs => hs.1) fun _ _ hs => hs
  | some kind =>
      refine (looks_require _).bind_triple fun _ => ?_
      exact (variableStatement_inside recur hgap kind).weaken (fun _ hs => ⟨hs.1, hs.2 kind rfl⟩)
        fun _ _ hs => hs

/-! ### Modules -/

instance : StaysInside moduleSource := by
  unfold moduleSource
  infer_instance

instance : StaysInside importAttribute := by
  unfold importAttribute
  repeat' first | infer_instance | refine .seq fun _ => ?_ | split

instance : StaysInside importAttributes := by
  refine stays_token fun first => .ite (fun h => ?_) fun _ => inferInstance
  refine (advance_from ?_).bind fun _ => inferInstance
  rcases Bool.or_eq_true_iff.mp h with h | h
  · exact shape_of_isWord h
  · exact shape_of_isWord (Bool.and_eq_true_iff.mp h).1

instance : StaysInside fromSource := by
  unfold fromSource
  infer_instance

instance : StaysInside exportedName := by
  unfold exportedName
  repeat' first | infer_instance | refine .seq fun _ => ?_ | split

instance : StaysInside importSpecifier := by
  unfold importSpecifier
  repeat' first | infer_instance | refine .seq fun _ => ?_ | split

instance : StaysInside importedNames := by
  unfold importedNames
  infer_instance

instance : StaysInside importDeclaration := by
  unfold importDeclaration
  repeat' first | infer_instance | refine .seq fun _ => ?_ | split

instance : StaysInside exportSpecifier := by
  unfold exportSpecifier
  infer_instance

instance {own : Nat} : StaysInside (exportNames own) := by
  unfold exportNames
  infer_instance

instance {own : Nat} : StaysInside (exportAll own) := by
  unfold exportAll
  infer_instance

instance {own : Nat} : StaysInside (exportDefault recur own) := by
  unfold exportDefault
  repeat' first | infer_instance | refine .seq fun _ => ?_

instance : StaysInside isAtDeclaration := by
  unfold isAtDeclaration
  infer_instance

instance : StaysInside (exportDeclaration recur) := by
  unfold exportDeclaration
  repeat' first | infer_instance | refine .seq fun _ => ?_

instance {isBody : Bool} : StaysInside (statement recur isBody) := by
  refine stays_token fun first => ?_
  split
  all_goals first
    | infer_instance
    | exact leaf_from (by simp [*])
    | exact wordStatement_from recur (by simp [*]) _ _

instance {goal : Goal} : StaysInside (Reader.goal recur goal) := by
  cases goal <;> unfold Reader.goal <;> infer_instance

end Grammar

instance staysInside_upTo (depth : Nat) (goal : Goal) : StaysInside (upTo depth goal) := by
  induction depth generalizing goal with
  | zero => exact inferInstanceAs (StaysInside (failure : Reader Node))
  | succ depth ih => exact inferInstanceAs (StaysInside (Reader.goal (upTo depth) goal))

/-- There is no expression at the end of a text. -/
theorem expression_finish (recur : Recur) {s : State} (h : s.token.shape = .finish) :
    expression recur s = none := by
  obtain ⟨⟨shape, start, stop, onNewLine⟩, rest, lastStop, setting⟩ := s
  obtain ⟨allowsIn, allowsAwait, allowsYield, allowsReturn⟩ := setting
  cases h
  cases allowsIn <;> cases allowsAwait <;> cases allowsYield <;> rfl

end Reader

open Node in
/-- No expression goes up to the end of a text that ends in white space. -/
theorem expression?_inside {text : List Char} (hgap : EndsInGap text) {tree : Node}
    (h : expression? text = some tree) : 0 < tree.span.stop := by
  obtain ⟨s, hinitial, h⟩ := Option.bind_eq_some_iff.mp h
  obtain ⟨⟨read, s'⟩, hread, h⟩ := Option.bind_eq_some_iff.mp h
  obtain ⟨hat, -⟩ := initial_spec hinitial
  have hshape : s.token.shape ≠ .finish := by
    intro hfinish
    cases hread.symm.trans (Reader.expression_finish _ hfinish)
  -- The reader starts inside the text, and every token it takes leaves it there.
  have hinside : s.IsInside text := by
    obtain ⟨⟨token, rest⟩, hscan, hs⟩ := Option.bind_eq_some_iff.mp hinitial
    cases hs
    refine ⟨hat.sound.inSource, hat.sound.rest, fun _ hempty => ?_, ?_⟩
    · have hend : EndsInGap rest := scan_gap hscan hshape hgap
      rw [show rest = [] from hempty] at hend
      exact hend
    · exact Nat.lt_of_le_of_lt (Nat.zero_le _) (hat.sound.nonempty hshape)
  have hlast := (Reader.StaysInside.triple text hgap s read s' hinside hread).last
  have htree := Reader.reads_expression (Reader.reads_upTo _) _ s read s' hat hread
  dsimp only at h
  split at h
  · cases h
  · cases h
    exact Nat.lt_of_lt_of_le hlast (Node.inOrder_cons.mp htree.inOrder).1.le_stop

end MiniApp.Script
