import MiniApp.Proofs.Script.Grammar.Inside

/-!
# Statements start with their first token

Every statement starts where its first token starts, and it takes at least this token. So a
statement is not empty in the text, it starts with a character that is no blank space, and only an
empty statement starts with a semicolon.

* `TakesFirst`: the reader takes at least the current token. Readers of expressions do, down to the
  operand that an expression starts with (`takesFirst_expression`).
* `Begins`: the reader reads a tree that starts with the current token and takes it. Readers of
  statements do (`begins_statement`).
* `program?_statements`: the statements of a module, as they stand in its text.

How readers behave behind the first token is known from where they read (`Reads`): whatever they
read, they do not go back (`Passes`).
-/

set_option autoImplicit false

namespace MiniApp.Script

/-- The token is the current one. -/
structure State.Faces (source : List Char) (first : Token) (s : State) : Prop where
  sound : s.IsSound source
  token : s.token = first

open State (Read Faces)

/-- What was read before stays where it is when more is read. -/
theorem State.Read.forget {source : List Char} {place : Nat} {nodes more : List Node} {s : State}
    (h : s.Read source place (nodes ++ more)) : s.Read source place nodes := by
  obtain ⟨mid, hnodes, hmore⟩ := h.inOrder.split
  exact ⟨h.sound, hnodes.mono (Nat.le_refl _) hmore.le⟩

/-- The tree starts with the token and takes at least this one. It is no directive: a statement can
only become one. -/
structure Node.StartsWith (first : Token) (tree : Node) : Prop where
  start : tree.span.start = first.start
  stop : tree.span.stop ≤ first.stop
  kind : tree.kind ≠ .directive

/-- The statement takes a stretch of the source that starts neither with white space nor, unless it
is empty, with a semicolon. It is no directive yet. -/
structure Node.IsSolid (source : List Char) (statement : Node) : Prop where
  nonempty : statement.span.stop < statement.span.start
  opens : ∃ c rest, c :: rest <:+ source ∧ statement.span.start = (c :: rest).length ∧ ¬ IsGap c ∧
    (c = ';' → statement.kind = .empty)
  kind : statement.kind ≠ .directive

/-- A tree has been read that starts with the token and takes at least this one. -/
structure State.Began (source : List Char) (first : Token) (tree : Node) (s : State) : Prop where
  read : s.Read source first.stop []
  tree : tree.StartsWith first

namespace Reader

open State (Began)

variable {α β : Type} {source : List Char} {first : Token}

/-! ### Readers do not go back -/

/-- A reader of a tree does not go back behind what was read before. -/
theorem Appends.passes {r : Reader Node} (h : Appends source r) : Passes source r :=
  fun place nodes => (h place nodes).weaken (fun _ hs => hs) fun _ _ hs => hs.forget

/-- Nor does a reader of several trees. -/
theorem ReadsAll.passes {r : Reader (List Node)} (h : ReadsAll source r) : Passes source r :=
  fun place nodes => (h place nodes).weaken (fun _ hs => hs) fun _ _ hs => hs.forget

/-- Nor does a reader whose tree starts with the current token. -/
theorem Reads.passes {r : Reader Node} (h : Reads source r) : Passes source r :=
  h.appends.passes

/-- A choice does not go back if neither of its branches does. -/
theorem Passes.ite {c : Prop} [Decidable c] {yes no : Reader α} (hyes : Passes source yes)
    (hno : Passes source no) : Passes source (if c then yes else no) := by
  split
  · exact hyes
  · exact hno

/-- A loop does not go back if none of its steps does. -/
theorem Passes.iterate {step : α → Reader (α ⊕ β)} {a : α} (h : ∀ a, Passes source (step a)) :
    Passes source (iterate step a) := by
  refine fun place nodes => Triple.iterate (Q := fun _ => Read source place nodes) fun a => ?_
  refine (h a place nodes).weaken (fun _ hs => hs) fun answer s hs => ?_
  cases answer <;> exact hs

/-- Making a node of what has been read moves nothing. -/
theorem looks_node (start : Nat) (kind : Kind) (parts : List Node) :
    Looks (node start kind parts) :=
  looks_get.bind fun _ => looks_pure _

/-- So it does not go back. -/
theorem passes_node {start : Nat} {kind : Kind} {parts : List Node} :
    Passes source (node start kind parts) :=
  (looks_node start kind parts).passes

/-- Items between commas do not go back. -/
theorem passes_separated {close : Mark} {item : Reader Node} (hitem : Appends source item) :
    Passes source (separated close item) :=
  fun _ _ => (separated_reads hitem).weaken (fun _ hs => hs) fun _ _ hs => hs.forget

/-- Nor do items up to the place where a condition holds. -/
theorem passes_itemsUntil {done : Reader Bool} {item : Reader α} (hdone : Looks done)
    (hitem : Passes source item) : Passes source (itemsUntil done item) := by
  refine Passes.bind (Passes.iterate fun read => ?_) fun items => passes_pure _
  refine hdone.passes.bind fun isDone => ?_
  cases isDone with
  | true => exact passes_pure _
  | false => exact hitem.bind fun _ => passes_pure _

/-! ### Readers that take the current token -/

/-- The reader takes at least the current token. -/
def TakesFirst (source : List Char) (r : Reader α) : Prop :=
  ∀ first, Triple (Faces source first) r fun _ => Read source first.stop []

/-- If the first step takes the current token, the next one has only not to go back. -/
theorem TakesFirst.bind {r : Reader α} {next : α → Reader β} (h : TakesFirst source r)
    (hnext : ∀ a, Passes source (next a)) : TakesFirst source (r >>= next) :=
  fun first => (h first).bind fun a => hnext a first.stop []

/-- The current token may be taken after a look at it. -/
theorem Looks.bind_takesFirst {r : Reader α} {next : α → Reader β} (h : Looks r)
    (hnext : ∀ a, TakesFirst source (next a)) : TakesFirst source (r >>= next) :=
  fun first => h.bind_triple fun a => hnext a first

/-- A reader that fails takes whatever is asked for. -/
theorem takesFirst_failure : TakesFirst source (failure : Reader α) :=
  fun _ => Triple.failure

/-- A choice takes the current token if both of its branches do. -/
theorem TakesFirst.ite {c : Prop} [Decidable c] {yes no : Reader α} (hyes : TakesFirst source yes)
    (hno : TakesFirst source no) : TakesFirst source (if c then yes else no) := by
  split
  · exact hyes
  · exact hno

/-- The current token is taken in a changed setting as in any. -/
theorem TakesFirst.within {change : Setting → Setting} {r : Reader α} (h : TakesFirst source r) :
    TakesFirst source (within change r) :=
  fun first => (h first).within (fun _ setting hs => ⟨sound_setting setting hs.sound, hs.token⟩)
    fun _ _ => read_setting

/-- What is taken is more if the token has become a longer one. -/
theorem TakesFirst.atLeast {r : Reader α} {place : Nat} (h : TakesFirst source r) :
    Triple (fun s => s.IsSound source ∧ s.token.stop ≤ place) r fun _ => Read source place [] :=
  fun s a s' hs heq => (h s.token s a s' ⟨hs.1, rfl⟩ heq).widen hs.2

/-- A reader that takes the current token does not go back. -/
theorem TakesFirst.passes {r : Reader α} (h : TakesFirst source r) : Passes source r := by
  intro place nodes s a s' hs heq
  have hread := h s.token s a s' ⟨hs.sound, rfl⟩ heq
  have hle : s.token.stop ≤ s.lastStop := Nat.le_trans hs.sound.stop hs.sound.start
  exact ⟨hread.sound, hs.inOrder.mono (Nat.le_refl _) (Nat.le_trans hread.inOrder.le hle)⟩

/-- A loop takes the current token in its first step. -/
theorem TakesFirst.iterate {step : α → Reader (α ⊕ β)} {a : α}
    (h : ∀ a, TakesFirst source (step a)) : TakesFirst source (iterate step a) := by
  have hrepeat : ∀ count a, TakesFirst source (repeatAtMost step count a) := by
    intro count
    induction count with
    | zero => exact fun _ => takesFirst_failure
    | succ count ih =>
        -- Behind the first step it is enough that the loop does not go back.
        refine fun a => (h a).bind fun answer => ?_
        cases answer with
        | inl a => exact (ih a).passes
        | inr b => exact passes_pure _
  exact fun first s => hrepeat _ a first s

/-- So does a reader with another one in its place if it fails. -/
theorem TakesFirst.orElse {read : Reader α} {next : α → Reader β} {second : Reader β}
    (hread : TakesFirst source read) (hnext : ∀ a, Passes source (next a))
    (hsecond : TakesFirst source second) : TakesFirst source (orElse read next second) :=
  fun first => Triple.orElse (hread first) (fun a => hnext a _ _) (hsecond first)

/-- Moving on takes the current token. -/
theorem takesFirst_advance : TakesFirst source advance := by
  rintro first s a s' ⟨hs, rfl⟩ heq
  have hread := takes_advance s.token.start s a s' ⟨hs, Nat.le_refl _⟩ heq
  obtain ⟨⟨token, rest⟩, -, hs'⟩ := Option.bind_eq_some_iff.mp heq
  cases hs'
  exact ⟨hread.sound, Node.inOrder_nil.mpr (Nat.le_refl _)⟩

/-- A word that may be left out: the current token is taken, or it still is the current one. -/
theorem eatWord_faces (name : String) (first : Token) :
    Triple (Faces source first) (eatWord name) fun taken s =>
      if taken then s.Read source first.stop [] else s.Faces source first := by
  refine (looks_isAtWord name).bind_triple fun here => ?_
  cases here with
  | false => exact Triple.pure fun _ h => h
  | true => exact (takesFirst_advance first).bind fun _ => Triple.pure fun _ h => h

/-- A word that has to stand here is the current token. -/
theorem takesFirst_expectWord (name : String) : TakesFirst source (expectWord name) := by
  refine fun first => (eatWord_faces name first).bind fun taken => ?_
  cases taken with
  | false => exact Triple.failure
  | true => exact Triple.pure fun _ h => h

/-- So is a mark that has to stand here. -/
theorem takesFirst_expect (mark : Mark) : TakesFirst source (expect mark) := by
  refine fun first => Triple.bind (Q := fun taken s =>
    taken = true → s.Read source first.stop []) ?_ fun taken => ?_
  · refine (looks_isAt mark).bind_triple fun here => ?_
    cases here with
    | false => exact Triple.pure fun _ _ => nofun
    | true => exact (takesFirst_advance first).bind fun _ => Triple.pure fun _ h _ => h
  · cases taken with
    | false => exact Triple.failure
    | true => exact Triple.pure fun _ h => h rfl

/-- A node without parts takes the current token. -/
theorem takesFirst_leaf (kind : Kind) : TakesFirst source (leaf kind) :=
  looks_token.bind_takesFirst fun _ => takesFirst_advance.bind fun _ => passes_pure _

/-- A name of a variable does. -/
theorem takesFirst_identifier : TakesFirst source identifier := by
  refine looks_token.bind_takesFirst fun token => looks_get.bind_takesFirst fun state => ?_
  split
  · exact takesFirst_leaf _
  · exact takesFirst_failure

/-- A declared name does. -/
theorem takesFirst_binding : TakesFirst source binding := by
  refine looks_token.bind_takesFirst fun token => looks_get.bind_takesFirst fun state => ?_
  split
  · exact takesFirst_leaf _
  · exact takesFirst_failure

/-- A private name does. -/
theorem takesFirst_privateName : TakesFirst source privateName := by
  refine looks_token.bind_takesFirst fun token => ?_
  split
  · exact (looks_require _).bind_takesFirst fun _ => takesFirst_leaf _
  · exact takesFirst_failure

/-! ### Readers of trees that start with the current token -/

/-- The reader reads a tree that starts with the current token and takes at least this one. -/
def Begins (source : List Char) (r : Reader Node) : Prop :=
  ∀ first, Triple (Faces source first) r (Began source first)

/-- A reader whose tree begins with the current token takes this token. -/
theorem Begins.takesFirst {r : Reader Node} (h : Begins source r) : TakesFirst source r :=
  fun first => (h first).weaken (fun _ hs => hs) fun _ _ hs => hs.1

/-- A tree may begin with the current token after a look at it. -/
theorem Looks.bind_begins {r : Reader α} {next : α → Reader Node} (h : Looks r)
    (hnext : ∀ a, Begins source (next a)) : Begins source (r >>= next) :=
  fun first => h.bind_triple fun a => hnext a first

/-- A reader that fails begins as it is asked to. -/
theorem begins_failure : Begins source failure :=
  fun _ => Triple.failure

/-- A choice begins with the current token if both of its branches do. -/
theorem Begins.ite {c : Prop} [Decidable c] {yes no : Reader Node} (hyes : Begins source yes)
    (hno : Begins source no) : Begins source (if c then yes else no) := by
  split
  · exact hyes
  · exact hno

/-- A tree that starts where the current token does. -/
theorem Begins.start {next : Nat → Reader Node}
    (h : ∀ first, Triple (Faces source first) (next first.start) (Began source first)) :
    Begins source (start >>= next) := by
  rintro first s tree s' ⟨hs, rfl⟩ heq
  exact h s.token s tree s' ⟨hs, rfl⟩ heq

/-- Behind its first token, a node that is made from there begins with this token. -/
theorem node_begins {kind : Kind} {parts : List Node} (hkind : kind ≠ .directive) :
    Triple (Read source first.stop []) (node first.start kind parts) (Began source first) := by
  intro s tree s' hs heq
  cases heq
  exact ⟨hs, rfl, Node.inOrder_nil.mp hs.inOrder, hkind⟩

/-- A node without parts begins with its one token. -/
theorem begins_leaf {kind : Kind} (hkind : kind ≠ .directive) : Begins source (leaf kind) := by
  rintro first s tree s' ⟨hs, rfl⟩ heq
  refine ⟨takesFirst_leaf kind s.token s tree s' ⟨hs, rfl⟩ heq, ?_⟩
  obtain ⟨⟨⟨⟩, mid⟩, -, hmid⟩ := Option.bind_eq_some_iff.mp heq
  cases hmid
  exact ⟨rfl, Nat.le_refl _, hkind⟩

section Recur

variable {recur : Recur} (hrecur : ∀ goal, Reads source (recur goal))

include hrecur

/-! ### Functions and classes -/

/-- A function whose start is the first token begins with it, once that has been taken. -/
theorem functionFrom_begins {kind : FunctionKind} {isAsync isGenerator : Bool} {name : List Node} :
    Triple (Read source first.stop [])
      (functionFrom recur first.start kind isAsync isGenerator name) (Began source first) := by
  refine Triple.within ?_ (fun _ => read_setting)
    fun _ _ setting hs => ⟨read_setting setting hs.1, hs.2⟩
  refine ((reads_parameters hrecur).passes _ _).bind fun parameters => ?_
  exact ((reads_functionBody hrecur).passes _ _).bind fun body => node_begins nofun

/-- A function starts with its word, or with the one in front of it. -/
theorem functionLike_begins {P : Script.State → Prop} {kind : FunctionKind}
    {isAsync nameless : Bool}
    (hword : Triple P (expectWord "function") fun _ => Read source first.stop []) :
    Triple P (functionLike recur first.start kind isAsync nameless) (Began source first) := by
  refine hword.bind fun _ => (passes_eat _ _ _).bind fun isGenerator => ?_
  refine (looks_isAt _).bind_triple fun isAtParameters => ?_
  simp only [pure_bind]
  refine Triple.ite (fun _ => functionFrom_begins hrecur) fun _ => ?_
  exact (reads_binding.within.passes _ _).bind fun name => functionFrom_begins hrecur

/-- A function begins with the word `async`, or else with its own word. -/
theorem begins_asyncFunction (kind : FunctionKind) (nameless : Bool) : Begins source (do
    let own ← start
    let isAsync ← eatWord "async"
    functionLike recur own kind isAsync nameless) := by
  refine Begins.start fun first => (eatWord_faces _ first).bind fun isAsync => ?_
  cases isAsync with
  | true => exact functionLike_begins hrecur ((takes_expectWord _).passes _ _)
  | false => exact functionLike_begins hrecur (takesFirst_expectWord _ first)

/-- So does a function expression. -/
theorem begins_functionExpression : Begins source (functionExpression recur) :=
  begins_asyncFunction hrecur .expression true

/-- So does a function declaration. -/
theorem begins_functionDeclaration (nameless : Bool) :
    Begins source (functionDeclaration recur nameless) :=
  begins_asyncFunction hrecur .declaration nameless

/-- An element of a class does not go back, even if it is only a semicolon. -/
theorem passes_classElement : Passes source (classElement recur) := fun place nodes =>
  (classElement_reads hrecur place nodes).weaken (fun _ hs => hs) fun _ _ hs => hs.forget

/-- A class begins with its word. -/
theorem begins_classLike (isDeclaration nameless : Bool) :
    Begins source (classLike recur isDeclaration nameless) := by
  unfold classLike
  refine Begins.start fun first => (takesFirst_expectWord _ first).bind fun _ => ?_
  refine looks_token.bind_triple fun token => looks_get.bind_triple fun state => ?_
  extract_lets hasName follow
  have hfollow : ∀ name, Triple (Read source first.stop []) (follow name) (Began source first) := by
    refine fun name => looks_start.bind_triple fun own => (passes_eatWord _ _ _).bind fun _ => ?_
    extract_lets elements
    have helements : ∀ heritage, Triple (Read source first.stop []) (elements heritage)
        (Began source first) := by
      refine fun heritage => ((takes_expect _).passes _ _).bind fun _ => ?_
      refine (passes_itemsUntil (looks_isAt _) (passes_classElement hrecur) _ _).bind fun _ => ?_
      exact ((takes_expect _).passes _ _).bind fun _ => node_begins nofun
    refine Triple.ite (fun _ => ?_) fun _ => helements _
    exact ((hrecur _).passes _ _).bind fun base => (passes_node _ _).bind fun _ => helements _
  refine Triple.require fun _ => Triple.ite (fun _ => ?_) fun _ => hfollow _
  exact (reads_binding.passes _ _).bind fun name => hfollow _

/-! ### Operands -/

/-- A template takes its first piece. -/
theorem takesFirst_template (tagged : Bool) : TakesFirst source (template recur tagged) := by
  refine looks_start.bind_takesFirst fun own => TakesFirst.bind ?_ fun parts => passes_node
  refine TakesFirst.iterate fun read => looks_token.bind_takesFirst fun token => ?_
  split
  · refine (looks_require _).bind_takesFirst fun _ => (takesFirst_leaf _).bind fun chunk => ?_
    -- The brace behind an expression is read again as text, from where it starts.
    refine Passes.ite (passes_pure _) ((hrecur _).withIn.passes.bind fun inner place nodes => ?_)
    refine (isAt_spec _).bind fun isClosed => Triple.require fun hclosed => ?_
    refine Triple.bind (Q := fun _ => Read source place nodes) ?_ fun _ => passes_pure _ _ _
    intro s a s' hs heq
    obtain ⟨hsound, -, -, hlast⟩ :=
      rescanned_spec (fun _ _ _ _ => rescanChunk_spec) hs.1.sound (hs.2 hclosed) (by decide) heq
    exact ⟨hsound, hlast ▸ hs.1.inOrder⟩
  · exact takesFirst_failure

omit hrecur in
/-- A regular expression takes the slash that it starts with, and more. -/
theorem regex_takesFirst {mark : Mark} (hmark : mark ≠ .semicolon)
    (hshape : first.shape = .mark mark) :
    Triple (Faces source first) regex fun _ => Read source first.stop [] := by
  refine Triple.bind (Q := fun _ s => s.IsSound source ∧ s.token.stop ≤ first.stop) ?_ fun _ => ?_
  · intro s a s' hs heq
    obtain ⟨hsound, -, hstop, -⟩ :=
      rescanned_spec (fun _ _ _ _ => rescanRegex_spec) hs.sound (hs.token ▸ hshape) hmark heq
    exact ⟨hsound, hs.token ▸ hstop⟩
  · refine TakesFirst.atLeast (looks_token.bind_takesFirst fun token => ?_)
    split
    · exact takesFirst_leaf _
    · exact takesFirst_failure

/-- Parentheses take their opening mark. -/
theorem takesFirst_parenthesized : TakesFirst source (parenthesized recur) := by
  refine looks_start.bind_takesFirst fun own => (takesFirst_expect _).bind fun _ => ?_
  exact (hrecur _).withIn.passes.bind fun inner => (takes_expect _).passes.bind fun _ => passes_node

/-- So does an array literal. -/
theorem takesFirst_arrayLiteral : TakesFirst source (arrayLiteral recur) := by
  refine looks_start.bind_takesFirst fun own => (takesFirst_expect _).bind fun _ => ?_
  refine Passes.bind (passes_separated fun place nodes => ?_) fun (elements, endsInComma) =>
    passes_node
  refine (looks_isAt _).bind_triple fun isHole => ?_
  exact Triple.ite (fun _ => appends_absent _ _) fun _ => (reads_element hrecur).appends _ _

/-- So does an object literal. -/
theorem takesFirst_objectLiteral : TakesFirst source (objectLiteral recur) := by
  refine looks_start.bind_takesFirst fun own => (takesFirst_expect _).bind fun _ => ?_
  exact (passes_separated (reads_objectProperty hrecur).appends).bind
    fun (properties, endsInComma) => passes_node

omit hrecur in
/-- The word `super` is taken. -/
theorem takesFirst_superWord : TakesFirst source superWord := by
  refine (takesFirst_leaf _).bind fun super => ?_
  refine (looks_isAt _).passes.bind fun _ => (looks_isAt _).passes.bind fun _ => ?_
  exact (looks_isAt _).passes.bind fun _ => (looks_require _).passes.bind fun _ => passes_pure _

/-- Arguments do not go back. -/
theorem passes_arguments : Passes source (arguments recur) :=
  ReadsAll.passes (Triple.framed (arguments_reads hrecur))

/-- An import that is an expression takes its word. -/
theorem takesFirst_importExpression : TakesFirst source (importExpression recur) := by
  refine looks_start.bind_takesFirst fun own => (takesFirst_expectWord _).bind fun _ => ?_
  refine (passes_eat _).bind fun isMeta => Passes.ite ?_ ?_
  · exact (takes_expectWord _).passes.bind fun _ => passes_node
  · refine (takes_expect _).passes.bind fun _ => ?_
    refine (passes_separated (reads_value hrecur).appends).bind fun (arguments, _) => ?_
    exact (looks_require _).passes.bind fun _ => passes_node

/-- So does a construction with `new`. -/
theorem takesFirst_newExpression : TakesFirst source (newExpression recur) := by
  refine looks_start.bind_takesFirst fun own => (takesFirst_expectWord _).bind fun _ => ?_
  refine (passes_eat _).bind fun isTarget => Passes.ite ?_ ?_
  · exact (takes_expectWord _).passes.bind fun _ => passes_node
  · refine (hrecur _).passes.bind fun callee => (looks_require _).passes.bind fun _ => ?_
    refine (looks_isAt _).passes.bind fun hasArguments => Passes.ite ?_ passes_node
    exact (passes_arguments hrecur).bind fun arguments => passes_node

/-- An operand that starts with a word takes this word. -/
theorem takesFirst_wordOperand (name : String) : TakesFirst source (wordOperand recur name) := by
  unfold wordOperand
  split
  · exact takesFirst_leaf _
  · exact takesFirst_leaf _
  · exact takesFirst_leaf _
  · exact takesFirst_leaf _
  · exact (begins_functionExpression hrecur).takesFirst
  · exact (begins_classLike hrecur _ _).takesFirst
  · exact takesFirst_newExpression hrecur
  · exact takesFirst_superWord
  · exact takesFirst_importExpression hrecur
  · refine looks_isAtAsyncFunction.bind_takesFirst fun _ => TakesFirst.ite ?_ takesFirst_identifier
    exact (begins_functionExpression hrecur).takesFirst

/-- An operand that stands by itself takes its first token, whatever it is. -/
theorem takesFirst_primary : TakesFirst source (primary recur) := by
  refine fun first => Triple.token fun token => ?_
  have htakes : ∀ {r : Reader Node}, TakesFirst source r →
      Triple (fun s => s.Faces source first ∧ s.token = token) r fun _ =>
        Read source first.stop [] :=
    fun h => (h first).weaken (fun _ hs => hs.1) fun _ _ hs => hs
  -- A division sign is read again as the start of a regular expression, for which the token has to
  -- be known.
  have hregex : ∀ op, token.shape = .mark op → op ≠ .semicolon →
      Triple (fun s => s.Faces source first ∧ s.token = token) regex fun _ =>
        Read source first.stop [] := by
    intro op hshape hop s tree s' hs heq
    have hfirst : first = token := hs.1.token.symm.trans hs.2
    exact regex_takesFirst hop (hfirst ▸ hshape) s tree s' hs.1 heq
  split
  · exact htakes (takesFirst_wordOperand hrecur _)
  · exact htakes takesFirst_identifier
  · exact htakes (takesFirst_leaf _)
  · exact htakes (takesFirst_leaf _)
  · exact htakes (takesFirst_leaf _)
  · exact htakes (takesFirst_template hrecur false)
  · exact htakes (takesFirst_parenthesized hrecur)
  · exact htakes (takesFirst_arrayLiteral hrecur)
  · exact htakes (takesFirst_objectLiteral hrecur)
  · exact hregex (.binary .divide) ‹_› (by decide)
  · exact hregex (.assign (.binary .divide)) ‹_› (by decide)
  · exact Triple.failure

/-! ### Members, calls and operators -/

/-- A link behind an operand does not go back. -/
theorem passes_link (own : Nat) (calls : Bool) (done : Linked) :
    Passes source (link recur own calls done) := by
  refine looks_token.passes.bind fun token => ?_
  -- Making a node takes no token.
  have hlink : ∀ {kind : Kind} {parts : List Node} {inChain : Bool}, Passes source (do
      return .inl ⟨← node own kind parts, inChain⟩ : Reader (Linked ⊕ Linked)) :=
    passes_node.bind fun _ => passes_pure _
  split
  · exact takes_advance.passes.bind fun _ => reads_memberName.passes.bind fun name => hlink
  · exact (reads_memberIndex hrecur).passes.bind fun inner => hlink
  · exact (looks_require _).passes.bind fun _ => (reads_template hrecur true).passes.bind
      fun template => hlink
  · refine (looks_require _).passes.bind fun _ => takes_advance.passes.bind fun _ => ?_
    refine (looks_isAt _).passes.bind fun isCall => Passes.ite ?_ ?_
    · exact (passes_arguments hrecur).bind fun arguments => hlink
    refine (looks_isAt _).passes.bind fun isIndex => Passes.ite ?_ ?_
    · exact (reads_memberIndex hrecur).passes.bind fun inner => hlink
    · exact reads_memberName.passes.bind fun name => hlink
  · exact Passes.ite ((passes_arguments hrecur).bind fun arguments => hlink) (passes_pure _)
  · exact passes_pure _

/-- Members and calls take the first token of their operand. -/
theorem takesFirst_leftHand : TakesFirst source (leftHand recur) := by
  refine looks_start.bind_takesFirst fun own =>
    (takesFirst_primary hrecur).bind fun operand => ?_
  refine Passes.bind (Passes.iterate (passes_link hrecur own true)) fun done => ?_
  exact Passes.ite passes_node (passes_pure _)

/-- An operand that is changed in place takes its first token, or the operator in front of it. -/
theorem takesFirst_updated : TakesFirst source (updated recur) := by
  refine looks_start.bind_takesFirst fun own => looks_token.bind_takesFirst fun token => ?_
  split
  · refine takesFirst_advance.bind fun _ => (hrecur _).passes.bind fun operand => ?_
    exact (looks_ofOption _).passes.bind fun target => passes_node
  · refine (takesFirst_leftHand hrecur).bind fun operand => looks_token.passes.bind fun next => ?_
    split
    · refine Passes.ite (passes_pure _) ?_
      refine (looks_ofOption _).passes.bind fun target => takes_advance.passes.bind fun _ => ?_
      exact passes_node
    · exact passes_pure _

/-- So does an operand with operators in front of it. -/
theorem takesFirst_unary : TakesFirst source (unary recur) := by
  refine looks_start.bind_takesFirst fun own => looks_token.bind_takesFirst fun token => ?_
  split
  · exact takesFirst_advance.bind fun _ => (hrecur _).passes.bind fun operand => passes_node
  · refine looks_get.bind_takesFirst fun state => TakesFirst.ite ?_ (takesFirst_updated hrecur)
    exact takesFirst_advance.bind fun _ => (hrecur _).passes.bind fun operand => passes_node

/-- A test for a private name takes this name. -/
theorem takesFirst_privateIn (strength : Nat) : TakesFirst source (privateIn recur strength) := by
  refine looks_start.bind_takesFirst fun own => takesFirst_privateName.bind fun name => ?_
  refine (takes_expectWord _).passes.bind fun _ => (hrecur _).passes.bind fun right => ?_
  exact (looks_require _).passes.bind fun _ => passes_node

/-- Operands that are joined take the first token of the first one. -/
theorem takesFirst_operation (strength : Nat) : TakesFirst source (operation recur strength) := by
  refine looks_start.bind_takesFirst fun own => looks_get.bind_takesFirst fun state => ?_
  refine looks_isAtPrivateName.bind_takesFirst fun isPrivate => ?_
  extract_lets follow
  have hfollow : ∀ left, Passes source (follow left) := by
    refine fun left => Passes.iterate fun left => looks_token.passes.bind fun token => ?_
    refine looks_get.passes.bind fun state => ?_
    split
    · exact passes_pure _
    · refine Passes.ite (passes_pure _) (takes_advance.passes.bind fun _ => ?_)
      refine (hrecur _).passes.bind fun right => (looks_require _).passes.bind fun _ => ?_
      exact passes_node.bind fun _ => passes_pure _
  refine TakesFirst.ite ?_ ?_
  · exact (takesFirst_privateIn hrecur strength).bind hfollow
  · exact (takesFirst_unary hrecur).bind hfollow

/-! ### Arrow functions, assignments and commas -/

omit hrecur in
/-- A parameter without parentheses takes its name. -/
theorem takesFirst_loneParameter : TakesFirst source loneParameter :=
  looks_start.bind_takesFirst fun _ => takesFirst_binding.bind fun _ => passes_node

/-- Parameters take their opening parenthesis. -/
theorem takesFirst_parameters : TakesFirst source (parameters recur) := by
  refine looks_start.bind_takesFirst fun own => (takesFirst_expect _).bind fun _ => ?_
  refine Passes.bind (ReadsAll.passes (readsAll_patternParts fun place nodes => ?_))
    fun targets => passes_node
  refine (looks_isAt _).bind_triple fun isRest => ?_
  exact Triple.ite (fun _ => (reads_rest (hrecur _)).appends _ _)
    fun _ => (reads_bindingElement hrecur).appends _ _

/-- The head of an arrow function takes its first token. -/
theorem takesFirst_arrowHead : TakesFirst source (arrowHead recur) := by
  refine looks_start.bind_takesFirst fun own => (looks_isAtWord _).bind_takesFirst fun isAsync => ?_
  refine (looks_isNext _).bind_takesFirst fun isBefore => ?_
  extract_lets isAsync arrow follow
  have harrow : ∀ parameters, Passes source (arrow parameters) := fun parameters =>
    looks_token.passes.bind fun next => (looks_require _).passes.bind fun _ => passes_pure _
  have hfollow : ∀ u, TakesFirst source (follow u) := by
    refine fun _ => (looks_isAt _).bind_takesFirst fun hasParens => TakesFirst.ite ?_ ?_
    · exact (takesFirst_parameters hrecur).within.bind harrow
    · exact takesFirst_loneParameter.bind harrow
  exact TakesFirst.ite (takesFirst_advance.bind fun u => (hfollow u).passes) (hfollow ())

/-- From its arrow on an arrow function does not go back. -/
theorem passes_arrowFrom (head : ArrowHead) : Passes source (arrowFrom recur head) := by
  refine (takes_expect _).passes.bind fun _ => (looks_isAt _).passes.bind fun hasBlock => ?_
  have hbody : Reads source (if hasBlock then functionBody recur else recur .assignment) :=
    Reads.ite (reads_functionBody hrecur) (hrecur _)
  exact hbody.within.passes.bind fun body => passes_node

/-- The operator `yield` is taken. -/
theorem takesFirst_yieldExpression : TakesFirst source (yieldExpression recur) := by
  refine looks_start.bind_takesFirst fun own => takesFirst_advance.bind fun _ => ?_
  refine looks_token.passes.bind fun token => Passes.ite passes_node ?_
  exact (passes_eat _).bind fun isDelegate => (hrecur _).passes.bind fun operand => passes_node

/-- A choice or an assignment takes the first token of its first operand. -/
theorem takesFirst_choiceOrAssignment : TakesFirst source (choiceOrAssignment recur) := by
  refine looks_start.bind_takesFirst fun own =>
    (takesFirst_operation hrecur 0).bind fun left => looks_token.passes.bind fun token => ?_
  split
  · refine (looks_ofOption _).passes.bind fun target => takes_advance.passes.bind fun _ => ?_
    exact (hrecur _).passes.bind fun right => passes_node
  · refine (passes_eat _).bind fun isChoice => Passes.ite ?_ (passes_pure _)
    refine (hrecur _).withIn.passes.bind fun yes => (takes_expect _).passes.bind fun _ => ?_
    exact (hrecur _).passes.bind fun no => passes_node

/-- An expression without commas takes its first token, arrow functions among them. -/
theorem takesFirst_assignment : TakesFirst source (assignment recur) := by
  refine looks_get.bind_takesFirst fun state => (looks_isAtWord _).bind_takesFirst fun isYield => ?_
  refine TakesFirst.ite (takesFirst_yieldExpression hrecur) ?_
  exact (takesFirst_arrowHead hrecur).orElse (passes_arrowFrom hrecur)
    (takesFirst_choiceOrAssignment hrecur)

/-- An expression takes at least one token. -/
theorem takesFirst_expression : TakesFirst source (expression recur) := by
  refine looks_start.bind_takesFirst fun own => (takesFirst_assignment hrecur).bind fun first => ?_
  refine (looks_isAt _).passes.bind fun goesOn => Passes.ite ?_ (passes_pure _)
  refine (readsAll_behindComma (reads_assignment hrecur)).passes.bind fun rest => passes_node

/-! ### Statements -/

/-- A block begins with its opening brace. -/
theorem begins_block : Begins source (block recur) := by
  refine Begins.start fun first => Triple.bind ?_ fun statements => node_begins nofun
  refine (takesFirst_expect _ first).bind fun _ => ?_
  refine ((readsAll_statements hrecur (looks_isAt _)).passes _ _).bind fun statements => ?_
  exact ((takes_expect _).passes _ _).bind fun _ => Triple.pure fun _ hs => hs

/-- A declaration of variables takes its first target. -/
theorem takesFirst_variableDeclaration (kind : VariableKind) (lenient : Bool) :
    TakesFirst source (variableDeclaration recur kind lenient) := by
  refine looks_start.bind_takesFirst fun own => takesFirst_advance.bind fun _ => ?_
  extract_lets follow
  have hdeclarator := reads_declarator hrecur kind lenient
  have hfollow : ∀ u, Passes source (follow u) := fun _ =>
    hdeclarator.passes.bind fun first =>
      (readsAll_behindComma hdeclarator).passes.bind fun rest => passes_node
  exact Passes.ite (takes_advance.passes.bind hfollow) (hfollow ())

/-- As a statement it begins with its word. -/
theorem begins_variableStatement (kind : VariableKind) :
    Begins source (variableStatement recur kind) := by
  refine Begins.start fun first => ?_
  refine (takesFirst_variableDeclaration hrecur kind false first).bind fun declaration => ?_
  exact (passes_semicolon _ _).bind fun _ => node_begins nofun

/-- A counting loop whose start is the first token begins with it, once that has been taken. -/
theorem countingLoop_begins {start : Node} :
    Triple (Read source first.stop []) (countingLoop recur first.start start)
      (Began source first) := by
  refine ((takes_expect _).passes _ _).bind fun _ => ?_
  refine ((appends_loopPart hrecur _).passes _ _).bind fun condition => ?_
  refine ((appends_loopPart hrecur _).passes _ _).bind fun step => ?_
  exact ((hrecur _).passes _ _).bind fun body => node_begins nofun

/-- A loop over an object, or nothing has been read. -/
theorem eachLoop_begins {isAwait : Bool} {target : Reader Node} (htarget : Looks target) :
    Triple (Read source first.stop []) (eachLoop recur first.start isAwait target) fun loop? s =>
      s.Read source first.stop [] ∧ ∀ loop ∈ loop?, loop.StartsWith first := by
  have hloop : ∀ {kind : Kind} {parts : List Node}, kind ≠ .directive →
      Triple (Read source first.stop []) (do
        return some (← node first.start kind parts) : Reader (Option Node)) fun loop? s =>
          s.Read source first.stop [] ∧ ∀ loop ∈ loop?, loop.StartsWith first := by
    refine fun hkind => (node_begins hkind).bind fun tree => Triple.pure fun s hs => ⟨hs.1, ?_⟩
    rintro loop ⟨⟩
    exact hs.2
  refine (looks_isAtWord _).bind_triple fun isOf => Triple.ite (fun _ => ?_) fun _ => ?_
  · refine htarget.bind_triple fun target => (takes_advance.passes _ _).bind fun _ => ?_
    refine ((hrecur _).withIn.passes _ _).bind fun object => ?_
    exact ((takes_expect _).passes _ _).bind fun _ => ((hrecur _).passes _ _).bind fun body =>
      hloop nofun
  refine (looks_isAtWord _).bind_triple fun isIn => Triple.ite (fun _ => ?_) fun _ => ?_
  · refine htarget.bind_triple fun target => (takes_advance.passes _ _).bind fun _ => ?_
    refine ((hrecur _).withIn.passes _ _).bind fun object => ?_
    exact ((takes_expect _).passes _ _).bind fun _ => ((hrecur _).passes _ _).bind fun body =>
      hloop nofun
  · exact Triple.pure fun s hs => ⟨hs, nofun⟩

/-- A loop with `for` begins with this word, whatever its head. -/
theorem begins_forLoop : Begins source (forLoop recur) := by
  refine Begins.start fun first => (takesFirst_expectWord _ first).bind fun _ => ?_
  refine (passes_eatWord _ _ _).bind fun isAwait => looks_get.bind_triple fun state => ?_
  refine Triple.require fun _ => ((takes_expect _).passes _ _).bind fun _ => ?_
  -- Whatever the head starts with, the loop goes on as one over an object or as a counting one.
  have hloop : ∀ {target : Reader Node} {next : Option Node → Reader Node}, Looks target →
      (∀ loop, next (some loop) = pure loop) →
        Triple (Read source first.stop []) (next none) (Began source first) →
          Triple (Read source first.stop []) (eachLoop recur first.start isAwait target >>= next)
            (Began source first) := by
    intro target next htarget hsome hnone
    refine (eachLoop_begins hrecur htarget).bind fun loop? => ?_
    cases loop? with
    | some loop =>
        rw [hsome]
        exact Triple.pure fun s hs => ⟨hs.1, hs.2 loop rfl⟩
    | none => exact hnone.weaken (fun _ hs => hs.1) fun _ _ hs => hs
  have hcounting : ∀ {condition : Bool} {start : Node}, Triple (Read source first.stop []) (do
      require condition
      countingLoop recur first.start start) (Began source first) :=
    Triple.require fun _ => countingLoop_begins hrecur
  refine (looks_isAt _).bind_triple fun isEmpty => Triple.ite (fun _ => ?_) fun _ => ?_
  · exact Triple.require fun _ => (appends_absent.passes _ _).bind fun start =>
      countingLoop_begins hrecur
  refine looks_loopVariableKind?.bind_triple fun kind? => ?_
  split
  · rename_i kind
    have hdeclaration := (reads_variableDeclaration hrecur kind true).withoutIn
    exact (hdeclaration.passes _ _).bind fun declaration =>
      hloop (looks_pure _) (fun _ => rfl) hcounting
  · refine looks_token.bind_triple fun start => ?_
    refine ((hrecur _).withoutIn.passes _ _).bind fun expression => ?_
    refine (looks_isAtWord _).bind_triple fun isOf => Triple.require fun _ => ?_
    exact Triple.require fun _ => hloop (looks_ofOption _) (fun _ => rfl) hcounting

/-- A loop with `while` begins with this word. -/
theorem begins_whileLoop : Begins source (whileLoop recur) := by
  refine Begins.start fun first => (takesFirst_expectWord _ first).bind fun _ => ?_
  refine ((reads_condition hrecur).passes _ _).bind fun condition => ?_
  exact ((hrecur _).passes _ _).bind fun body => node_begins nofun

/-- A loop whose condition stands behind its body begins with `do`. -/
theorem begins_doLoop : Begins source (doLoop recur) := by
  refine Begins.start fun first => (takesFirst_expectWord _ first).bind fun _ => ?_
  refine ((hrecur _).passes _ _).bind fun body => ((takes_expectWord _).passes _ _).bind fun _ => ?_
  refine ((reads_condition hrecur).passes _ _).bind fun condition => ?_
  exact (passes_eat _ _ _).bind fun _ => node_begins nofun

/-- A statement with `if` begins with this word. -/
theorem begins_ifStatement : Begins source (ifStatement recur) := by
  refine Begins.start fun first => (takesFirst_expectWord _ first).bind fun _ => ?_
  refine ((reads_condition hrecur).passes _ _).bind fun condition => ?_
  refine ((hrecur _).passes _ _).bind fun yes => (passes_eatWord _ _ _).bind fun hasElse => ?_
  simp only [pure_bind]
  exact Triple.ite (fun _ => ((hrecur _).passes _ _).bind fun no => node_begins nofun) fun _ =>
    node_begins nofun

/-- So does a statement with `with`. -/
theorem begins_withStatement : Begins source (withStatement recur) := by
  refine Begins.start fun first => (takesFirst_expectWord _ first).bind fun _ => ?_
  refine ((reads_condition hrecur).passes _ _).bind fun object => ?_
  exact ((hrecur _).passes _ _).bind fun body => node_begins nofun

omit hrecur in
/-- A jump begins with its word. -/
theorem begins_jump {kind : Kind} (hkind : kind ≠ .directive) : Begins source (jump kind) := by
  refine Begins.start fun first => (takesFirst_advance first).bind fun _ => ?_
  refine looks_atStatementEnd.bind_triple fun isEnd => ?_
  simp only [pure_bind]
  refine Triple.ite (fun _ => (passes_semicolon _ _).bind fun _ => node_begins hkind) fun _ => ?_
  refine looks_token.bind_triple fun label => looks_get.bind_triple fun state => ?_
  refine Triple.require fun _ => (reads_word.passes _ _).bind fun label => ?_
  exact (passes_semicolon _ _).bind fun _ => node_begins hkind

/-- So does a return. -/
theorem begins_returnStatement : Begins source (returnStatement recur) := by
  refine Begins.start fun first => looks_get.bind_triple fun state => Triple.require fun _ => ?_
  refine (takesFirst_advance first).bind fun _ => looks_atStatementEnd.bind_triple fun isEnd => ?_
  simp only [pure_bind]
  refine Triple.ite (fun _ => (passes_semicolon _ _).bind fun _ => node_begins nofun) fun _ => ?_
  refine ((hrecur _).withIn.passes _ _).bind fun value => ?_
  exact (passes_semicolon _ _).bind fun _ => node_begins nofun

/-- So does a statement with `throw`. -/
theorem begins_throwStatement : Begins source (throwStatement recur) := by
  refine Begins.start fun first => (takesFirst_advance first).bind fun _ => ?_
  refine looks_token.bind_triple fun token => Triple.require fun _ => ?_
  refine ((hrecur _).withIn.passes _ _).bind fun value => ?_
  exact (passes_semicolon _ _).bind fun _ => node_begins nofun

/-- So does a choice between statements. -/
theorem begins_switchStatement : Begins source (switchStatement recur) := by
  refine Begins.start fun first => (takesFirst_expectWord _ first).bind fun _ => ?_
  refine ((reads_condition hrecur).passes _ _).bind fun value => ?_
  refine ((takes_expect _).passes _ _).bind fun _ => ?_
  refine (passes_itemsUntil (looks_isAt _) (reads_switchCase hrecur).passes _ _).bind
    fun cases => ?_
  exact ((takes_expect _).passes _ _).bind fun _ => node_begins nofun

/-- So does a statement with `try`. -/
theorem begins_tryStatement : Begins source (tryStatement recur) := by
  refine Begins.start fun first => (takesFirst_expectWord _ first).bind fun _ => ?_
  refine ((reads_block hrecur).passes _ _).bind fun body => looks_start.bind_triple fun own => ?_
  refine (passes_eatWord _ _ _).bind fun hasHandler => ?_
  extract_lets follow handle
  -- The rest is gone through from the end: the node, the last clause, the handler.
  have hfollow : ∀ handler, Triple (Read source first.stop []) (follow handler)
      (Began source first) := by
    refine fun handler => looks_start.bind_triple fun own => (passes_eatWord _ _ _).bind fun _ => ?_
    extract_lets finish
    have hfinish : ∀ finalizer, Triple (Read source first.stop []) (finish finalizer)
        (Began source first) := fun finalizer => Triple.require fun _ => node_begins nofun
    refine Triple.ite (fun _ => ?_) fun _ => hfinish _
    exact ((reads_block hrecur).passes _ _).bind fun block => (passes_node _ _).bind fun _ =>
      hfinish _
  have hhandle : ∀ parameter, Triple (Read source first.stop []) (handle parameter)
      (Began source first) := fun parameter =>
    ((reads_block hrecur).passes _ _).bind fun block => (passes_node _ _).bind fun _ => hfollow _
  refine Triple.ite (fun _ => ?_) fun _ => hfollow _
  refine (passes_eat _ _ _).bind fun hasParameter => Triple.ite (fun _ => ?_) fun _ => hhandle _
  exact ((hrecur _).passes _ _).bind fun target => ((takes_expect _).passes _ _).bind fun _ =>
    hhandle _

/-- An expression or a statement with a label begins with the first token of the expression. -/
theorem begins_expressionStatement
    (hexpression : TakesFirst source (recur .expression)) :
    Begins source (expressionStatement recur) := by
  refine Begins.start fun first => (hexpression.within first).bind fun expression => ?_
  split
  · refine (passes_eat _ _ _).bind fun isLabel => Triple.ite (fun _ => ?_) fun _ => ?_
    · exact ((hrecur _).passes _ _).bind fun body => node_begins (by decide)
    · exact (passes_semicolon _ _).bind fun _ => node_begins (by decide)
  · exact (passes_semicolon _ _).bind fun _ => node_begins (by decide)

/-- A function that is declared as a statement begins with its first word. -/
theorem begins_functionStatement (isBody : Bool) :
    Begins source (functionStatement recur isBody) := by
  refine fun first => (begins_functionDeclaration hrecur false first).bind fun function => ?_
  exact Triple.require fun _ => Triple.pure fun _ hs => hs

/-- A statement that starts with `let` begins with this word, whether that is a name or declares
variables. -/
theorem begins_letStatement (hexpression : TakesFirst source (recur .expression))
    (hassignment : TakesFirst source (recur .assignment)) (isBody : Bool) :
    Begins source (letStatement recur isBody) := by
  refine (looks_isNext _).bind_begins fun _ => Begins.ite ?_ ?_
  · refine Begins.start fun first => (hassignment first).bind fun expression => ?_
    exact (passes_semicolon _ _).bind fun _ => node_begins nofun
  · refine (looks_isNext _).bind_begins fun _ =>
      Begins.ite (begins_expressionStatement hrecur hexpression) ?_
    exact (looks_require _).bind_begins fun _ => begins_variableStatement hrecur .let

/-- A statement that starts with any word begins with it. -/
theorem begins_wordStatement (hexpression : TakesFirst source (recur .expression))
    (hassignment : TakesFirst source (recur .assignment)) (name : String) (isBody : Bool) :
    Begins source (wordStatement recur name isBody) := by
  unfold wordStatement
  split
  · exact begins_ifStatement hrecur
  · exact begins_forLoop hrecur
  · exact begins_whileLoop hrecur
  · exact begins_doLoop hrecur
  · exact begins_jump nofun
  · exact begins_jump nofun
  · exact begins_withStatement hrecur
  · exact begins_switchStatement hrecur
  · exact begins_throwStatement hrecur
  · exact begins_tryStatement hrecur
  · exact begins_returnStatement hrecur
  · -- The word alone makes a statement.
    refine Begins.start fun first => (takesFirst_advance first).bind fun _ => ?_
    exact (passes_semicolon _ _).bind fun _ => node_begins nofun
  · exact (looks_require _).bind_begins fun _ => begins_classLike hrecur true false
  · exact begins_functionStatement hrecur isBody
  · exact begins_variableStatement hrecur .var
  · exact (looks_require _).bind_begins fun _ => begins_variableStatement hrecur .const
  · exact begins_letStatement hrecur hexpression hassignment isBody
  · refine looks_isAtAsyncFunction.bind_begins fun _ =>
      Begins.ite (begins_functionStatement hrecur isBody) ?_
    refine (looks_usingKind? _).bind_begins fun kind? => ?_
    split
    · exact (looks_require _).bind_begins fun _ => begins_variableStatement hrecur _
    · exact begins_expressionStatement hrecur hexpression

/-! ### Imports and exports -/

omit hrecur in
/-- Imported names do not go back. -/
theorem passes_importedNames : Passes source importedNames :=
  ReadsAll.passes (Triple.framed importedNames_reads)

omit hrecur in
/-- An import begins with its word. -/
theorem begins_importDeclaration : Begins source importDeclaration := by
  refine Begins.start fun first => (takesFirst_expectWord _ first).bind fun _ => ?_
  refine looks_token.bind_triple fun token => ?_
  split
  · refine (reads_string.passes _ _).bind fun source => ?_
    refine (readsAll_importAttributes.passes _ _).bind fun attributes => ?_
    exact (passes_semicolon _ _).bind fun _ => node_begins (by decide)
  · refine looks_token.bind_triple fun word => ?_
    extract_lets follow
    have hfollow : ∀ names, Triple (Read source first.stop []) (follow names)
        (Began source first) := fun names =>
      (readsAll_fromSource.passes _ _).bind fun source =>
        (passes_semicolon _ _).bind fun _ => node_begins (by decide)
    refine Triple.ite (fun _ => ?_) fun _ => (passes_importedNames _ _).bind hfollow
    refine (reads_binding.passes _ _).bind fun name => (passes_eat _ _ _).bind fun hasMore => ?_
    exact Triple.ite (fun _ => (passes_importedNames _ _).bind fun names => hfollow _)
      fun _ => hfollow _

omit hrecur in
/-- An export of names begins with its word, once that has been taken. -/
theorem exportNames_begins :
    Triple (Read source first.stop []) (exportNames first.start) (Began source first) := by
  refine ((takes_expect _).passes _ _).bind fun _ => ?_
  refine (passes_separated reads_exportSpecifier.appends _ _).bind fun (specifiers, _) => ?_
  refine (looks_isAtWord _).bind_triple fun isFrom => Triple.ite (fun _ => ?_) fun _ => ?_
  · refine (readsAll_fromSource.passes _ _).bind fun source => ?_
    exact (passes_semicolon _ _).bind fun _ => node_begins nofun
  · exact Triple.require fun _ => (passes_semicolon _ _).bind fun _ => node_begins nofun

omit hrecur in
/-- So does an export of all that another module exports. -/
theorem exportAll_begins :
    Triple (Read source first.stop []) (exportAll first.start) (Began source first) := by
  refine ((takes_expect _).passes _ _).bind fun _ => (passes_eatWord _ _ _).bind fun isNamed => ?_
  extract_lets follow
  have hfollow : ∀ name, Triple (Read source first.stop []) (follow name) (Began source first) :=
    fun name => (readsAll_fromSource.passes _ _).bind fun source =>
      (passes_semicolon _ _).bind fun _ => node_begins nofun
  refine Triple.ite (fun _ => ?_) fun _ => hfollow _
  exact (reads_exportedName.passes _ _).bind fun name => hfollow _

/-- So does the default export. -/
theorem exportDefault_begins :
    Triple (Read source first.stop []) (exportDefault recur first.start) (Began source first) := by
  refine ((takes_expectWord _).passes _ _).bind fun _ => (looks_isAtWord _).bind_triple fun _ => ?_
  refine looks_isAtAsyncFunction.bind_triple fun _ => (looks_isAtWord _).bind_triple fun _ => ?_
  refine Triple.ite (fun _ => ?_) fun _ => Triple.ite (fun _ => ?_) fun _ => ?_
  · exact ((reads_functionDeclaration hrecur true).passes _ _).bind fun exported =>
      node_begins nofun
  · exact ((reads_classLike hrecur true true).passes _ _).bind fun exported => node_begins nofun
  · refine ((reads_value hrecur).passes _ _).bind fun value => ?_
    exact (passes_semicolon _ _).bind fun _ => node_begins nofun

/-- An export of any form begins with its word. -/
theorem begins_exportDeclaration : Begins source (exportDeclaration recur) := by
  refine Begins.start fun first => (takesFirst_expectWord _ first).bind fun _ => ?_
  refine (looks_isAt _).bind_triple fun _ => Triple.ite (fun _ => exportNames_begins) fun _ => ?_
  refine (looks_isAt _).bind_triple fun _ => Triple.ite (fun _ => exportAll_begins) fun _ => ?_
  refine (looks_isAtWord _).bind_triple fun _ =>
    Triple.ite (fun _ => exportDefault_begins hrecur) fun _ => ?_
  refine looks_isAtDeclaration.bind_triple fun _ => Triple.require fun _ => ?_
  exact ((hrecur _).passes _ _).bind fun declaration => node_begins nofun

/-- A statement takes at least one token. -/
theorem begins_statement (hexpression : TakesFirst source (recur .expression))
    (hassignment : TakesFirst source (recur .assignment)) (isBody : Bool) :
    Begins source (statement recur isBody) := by
  refine looks_token.bind_begins fun token => ?_
  split
  · exact begins_block hrecur
  · exact begins_leaf (by decide)
  · exact (looks_isNext _).bind_begins fun _ =>
      Begins.ite (begins_expressionStatement hrecur hexpression) begins_importDeclaration
  · exact begins_exportDeclaration hrecur
  · exact begins_wordStatement hrecur hexpression hassignment _ isBody
  · exact begins_expressionStatement hrecur hexpression

end Recur

/-! ### Modules -/

/-- To any depth, an expression takes its first token. -/
theorem takesFirst_upTo_expression (depth : Nat) : TakesFirst source (upTo depth .expression) := by
  cases depth with
  | zero => exact takesFirst_failure
  | succ depth => exact takesFirst_expression (reads_upTo depth)

/-- So does one without commas. -/
theorem takesFirst_upTo_assignment (depth : Nat) : TakesFirst source (upTo depth .assignment) := by
  cases depth with
  | zero => exact takesFirst_failure
  | succ depth => exact takesFirst_assignment (reads_upTo depth)

/-- To any depth, a statement begins with its first token. -/
theorem begins_upTo (depth : Nat) (isBody : Bool) :
    Begins source (upTo depth (.statement isBody)) := by
  -- No induction on the depth: a statement that starts with an expression takes the first token
  -- there, and an expression takes it on its own level.
  cases depth with
  | zero => exact begins_failure
  | succ depth =>
      exact begins_statement (reads_upTo depth) (takesFirst_upTo_expression depth)
        (takesFirst_upTo_assignment depth) isBody

/-- Only an empty statement starts with a semicolon. -/
theorem upTo_semicolon {depth : Nat} {isBody : Bool} {s s' : Script.State} {tree : Node}
    (hshape : s.token.shape = .mark .semicolon)
    (h : upTo depth (.statement isBody) s = some (tree, s')) : tree.kind = .empty := by
  cases depth with
  | zero => cases h
  | succ depth =>
      -- The token decides which statement is read, so the state is taken apart down to its shape.
      have hleaf : statement (upTo depth) isBody s = leaf .empty s := by
        obtain ⟨⟨shape, start, stop, onNewLine⟩, rest, lastStop, setting⟩ := s
        cases hshape
        rfl
      obtain ⟨⟨⟨⟩, mid⟩, -, hmid⟩ := Option.bind_eq_some_iff.mp (hleaf.symm.trans h)
      cases hmid
      rfl

/-- Where the text goes on, the reader of a statement reads one that is solid. -/
theorem upTo_isSolid (depth : Nat) (isBody : Bool) :
    Triple (fun s => s.IsSound source ∧ s.token.shape ≠ .finish) (upTo depth (.statement isBody))
      fun tree s => s.IsSound source ∧ tree.IsSolid source := by
  intro s tree s' ⟨hsound, hshape⟩ heq
  obtain ⟨hread, hstart, hstop, hkind⟩ :=
    begins_upTo depth isBody s.token s tree s' ⟨hsound, rfl⟩ heq
  obtain ⟨c, rest, hsuffix, hfirst, hsolid, hsemicolon⟩ := hsound.opens hshape
  refine ⟨hread.sound, ?_, ⟨c, rest, hsuffix, hstart.trans hfirst, not_or.mpr hsolid,
    fun hc => ?_⟩, hkind⟩
  · exact hstart ▸ Nat.lt_of_le_of_lt hstop (hsound.nonempty hshape)
  · exact upTo_semicolon (hsemicolon hc) heq

/-- What holds of each item that is read where the reader is not done. -/
theorem itemsUntil_all {P R : Script.State → Prop} {Q : α → Prop} {done : Reader Bool}
    {item : Reader α} (hdone : Triple P done fun isDone s => P s ∧ (isDone = false → R s))
    (hitem : Triple (fun s => P s ∧ R s) item fun a s => P s ∧ Q a) :
    Triple P (itemsUntil done item) fun items s => P s ∧ ∀ a ∈ items, Q a := by
  refine Triple.bind (Q := fun (read : List α) s => P s ∧ ∀ a ∈ read, Q a) ?_ fun read =>
    Triple.pure fun s hs => ⟨hs.1, fun a ha => hs.2 a (List.mem_reverse.mp ha)⟩
  refine (Triple.iterate (Q := fun (read : List α) s => P s ∧ ∀ a ∈ read, Q a)
    fun read => ?_).weaken (fun _ hs => ⟨hs, nofun⟩) fun _ _ h => h
  refine Triple.known fun hread => hdone.bind fun isDone => ?_
  cases isDone with
  | true => exact Triple.pure fun s hs => ⟨hs.1, hread⟩
  | false =>
      refine Triple.bind (hitem.weaken (fun s hs => ⟨hs.1, hs.2 rfl⟩) fun _ _ hs => hs) fun a =>
        Triple.pure fun s hs => ⟨hs.1, ?_⟩
      exact List.forall_mem_cons.mpr ⟨hs.2, hread⟩

/-- The parts of a module are solid statements, of which the first ones may become directives. -/
theorem program_isSolid (depth : Nat) :
    Triple (fun s => s.IsSound source) (program (upTo depth)) fun tree _ =>
      ∃ read, tree.parts = markDirectives read ∧ ∀ statement ∈ read, statement.IsSolid source := by
  refine looks_start.bind_triple fun own => ?_
  refine Triple.bind (itemsUntil_all (R := fun s => s.token.shape ≠ .finish) ?_
    (upTo_isSolid depth false)) fun read => ?_
  · intro s isDone s' hs heq
    cases heq
    exact ⟨hs, of_decide_eq_false⟩
  · intro s tree s' hs heq
    cases heq
    exact ⟨read, rfl, hs.2⟩

end Reader

/-- A statement that is solid in a text is solid in a longer one with this end. -/
theorem Node.IsSolid.longer {text source : List Char} {statement : Node}
    (h : statement.IsSolid text) (hlonger : text <:+ source) : statement.IsSolid source := by
  obtain ⟨hnonempty, ⟨c, rest, hsuffix, hfirst⟩, hkind⟩ := h
  exact ⟨hnonempty, ⟨c, rest, hsuffix.trans hlonger, hfirst⟩, hkind⟩

/-- A module is read from solid statements, the first of which may have become directives. -/
theorem program?_isSolid {text : List Char} {program : Node} (h : program? text = some program) :
    ∃ read, program.parts = markDirectives read ∧
      ∀ statement ∈ read, statement.IsSolid text := by
  obtain ⟨s, hinitial, h⟩ := Option.bind_eq_some_iff.mp h
  obtain ⟨⟨tree, s'⟩, hread, h⟩ := Option.bind_eq_some_iff.mp h
  obtain ⟨read, hparts, hsolid⟩ :=
    Reader.program_isSolid _ s tree s' (initial_spec hinitial).1.sound hread
  dsimp only at h
  split at h
  · cases h
  · cases h
    refine ⟨read, hparts, fun statement hstatement => ?_⟩
    exact (hsolid statement hstatement).longer (dropHashbang_suffix text)

/-- The first statements of a module become directives, and the others stay what they are. -/
theorem markDirectives_split (read : List Node) :
    ∃ front, (∀ directive ∈ front, directive.kind = .directive) ∧
      markDirectives read = front ++ read.dropWhile Node.isBareString := by
  induction read with
  | nil => exact ⟨[], nofun, rfl⟩
  | cons statement rest ih =>
      by_cases hstring : statement.isBareString
      · obtain ⟨front, hfront, hsplit⟩ := ih
        refine ⟨.mk .directive statement.span statement.parts :: front,
          List.forall_mem_cons.mpr ⟨rfl, hfront⟩, ?_⟩
        rw [markDirectives, if_pos hstring, hsplit, List.dropWhile_cons_of_pos hstring,
          List.cons_append]
      · refine ⟨[], nofun, ?_⟩
        rw [markDirectives, if_neg hstring, List.dropWhile_cons_of_neg hstring, List.nil_append]

/-- The statements of a module are solid, and they are all that stands behind its directives. -/
theorem program?_statements {text : List Char} {program : Node} (h : program? text = some program) :
    program.statements = program.parts.dropWhile (fun part => part.kind == .directive) ∧
      ∀ statement ∈ program.statements, statement.IsSolid text := by
  obtain ⟨read, hparts, hsolid⟩ := program?_isSolid h
  obtain ⟨front, hfront, hsplit⟩ := markDirectives_split read
  have hbehind : ∀ statement ∈ read.dropWhile Node.isBareString, statement.IsSolid text :=
    fun statement hstatement => hsolid statement (List.dropWhile_subset _ hstatement)
  -- A solid statement is no directive, so only those in front are left out.
  have hstatements : program.statements = read.dropWhile Node.isBareString := by
    rw [Node.statements, hparts, hsplit, List.filter_append, List.filter_eq_nil_iff.mpr,
      List.filter_eq_self.mpr, List.nil_append]
    · exact fun statement hstatement => by simpa using (hbehind statement hstatement).kind
    · exact fun directive hdirective => by simp [hfront directive hdirective]
  refine ⟨?_, hstatements ▸ hbehind⟩
  rw [hstatements, hparts, hsplit, List.dropWhile_append_of_pos fun directive hdirective => by
    simp [hfront directive hdirective]]
  cases hrest : read.dropWhile Node.isBareString with
  | nil => rfl
  | cons statement rest =>
      have hkind := (hbehind statement (hrest ▸ List.mem_cons_self)).kind
      exact (List.dropWhile_cons_of_neg (by simpa using hkind)).symm

end MiniApp.Script
