import MiniApp.Proofs.Handler.Uses

/-!
# Qualifying twice

A text whose names have been qualified is left as it is when they are qualified again. The second
time a different tree is visited: members of the context have come in the place of names, and full
properties in the place of shorthands. `qualified` is that tree, and `changes_qualified` says that
there is nothing to change in it and that it declares what the first one declares. So it is the same
tree that comes of it once more (`qualified_qualified`).

Reading the new text gives that tree up to the places of its nodes (`isLike`), which qualifying does
not look at to decide what it changes (`isLike_changes`). That the text is read so is a matter of
the parser alone; it is `ReadsQualified`, which `qualify_idempotent` assumes.
-/

set_option autoImplicit false

namespace MiniApp.Handler

open MiniApp.Script MiniApp.Text

/-! ### The tree of a qualified text -/

/-- The member of the component with this name, as it is reached through the context. -/
def contextMember (name : String) (span : Span) : Script.Node :=
  .mk (.member false) span [.mk (.identifier "_ctx") span [], .mk (.word name) span []]

/-- A property with its value or target, which has a name for its key. -/
def fullProperty (name : String) (span : Span) (value : Script.Node) : Script.Node :=
  .mk (.property false) span [.mk (.word name) span [], value]

mutual

/-- The tree in which the names that are changed have become members of the context, given the names
declared before it. A shorthand with a default value, which is a target, becomes a property whose
target has that default value. -/
def qualified (declared : List String) : Script.Node → Script.Node
  | .mk (.identifier name) span parts =>
    if isContextMember declared name then contextMember name span
    else .mk (.identifier name) span parts
  | .mk (.shorthand name) span parts =>
    if isContextMember declared name then fullProperty name span (contextMember name span)
    else .mk (.shorthand name) span parts
  | .mk (.binding name) span parts => .mk (.binding name) span parts
  | .mk .withDefault span (.mk (.shorthand name) place parts :: rest) =>
    if isContextMember declared name then
      fullProperty name span
        (.mk .withDefault span (contextMember name place :: qualifiedAll declared rest))
    else .mk .withDefault span (.mk (.shorthand name) place parts :: qualifiedAll declared rest)
  | .mk kind span parts => .mk kind span (qualifiedAll declared parts)

/-- The same for trees that follow each other. -/
def qualifiedAll (declared : List String) : List Script.Node → List Script.Node
  | [] => []
  | node :: rest => qualified declared node :: qualifiedAll (changes declared node).2 rest

end

/-! ### There is nothing to change in it -/

/-- A member of the context is found through the context, which the render function binds. -/
theorem changes_contextMember (declared : List String) (name : String) (span : Span) :
    changes declared (contextMember name span) = ([], declared) := by
  have hlocal : isContextMember declared "_ctx" = false := by
    simp [isContextMember, isRenderLocal, renderLocals]
  simp [contextMember, changes, changesIn, hlocal, isScope]

/-- In a property with a name for its key, all changes are those of its value. -/
theorem changes_fullProperty (declared : List String) (name : String) (span : Span)
    (value : Script.Node) :
    changes declared (fullProperty name span value) = changes declared value := by
  simp [fullProperty, changes, changesIn, isScope]

/-- Names apart, what is changed in a tree is what is changed in its parts. -/
theorem changes_mk {kind : Kind} (hidentifier : ∀ name, kind ≠ .identifier name)
    (hshorthand : ∀ name, kind ≠ .shorthand name) (hbinding : ∀ name, kind ≠ .binding name)
    (declared : List String) (span : Span) (parts : List Script.Node) :
    changes declared (.mk kind span parts) = ((changesIn declared parts).1,
      if isScope kind then declared else (changesIn declared parts).2) := by
  rw [changes]
  · exact hidentifier
  · exact hshorthand
  · exact hbinding

mutual

/-- In the tree of a qualified text there is nothing to change, and the names that it leaves
declared are those of the tree before. -/
theorem changes_qualified (declared : List String) (node : Script.Node) :
    changes declared (qualified declared node) = ([], (changes declared node).2) := by
  unfold qualified
  -- Names, shorthands and bindings first, then shorthands with a default value, which stand one
  -- level deeper, and then all constructs that are looked at only through their parts.
  split
  · rename_i name span parts
    cases hmember : isContextMember declared name with
    | true => simp [changes_contextMember, changes]
    | false => simp [changes, hmember]
  · rename_i name span parts
    cases hmember : isContextMember declared name with
    | true => simp [changes_fullProperty, changes_contextMember, changes]
    | false => simp [changes, hmember]
  · simp [changes]
  · rename_i span name place parts rest
    have hrest := changesIn_qualifiedAll declared rest
    cases hmember : isContextMember declared name with
    | true => simp [changes_fullProperty, changes_contextMember, changes, changesIn, hrest]
    | false => simp [changes, changesIn, hmember, hrest]
  · rename_i kind span parts hidentifier hshorthand hbinding hdefault
    have hparts := changesIn_qualifiedAll declared parts
    rw [changes_mk hidentifier hshorthand hbinding, changes_mk hidentifier hshorthand hbinding,
      hparts]

/-- Nor is there anything in qualified trees that follow each other. -/
theorem changesIn_qualifiedAll (declared : List String) (nodes : List Script.Node) :
    changesIn declared (qualifiedAll declared nodes) = ([], (changesIn declared nodes).2) := by
  cases nodes with
  | nil => rfl
  | cons node rest =>
      have hnode := changes_qualified declared node
      have hrest := changesIn_qualifiedAll (changes declared node).2 rest
      simp [qualifiedAll, changesIn, hnode, hrest]

end

mutual

/-- A tree in which there is nothing to change stays as it is. -/
theorem qualified_eq_self (declared : List String) (node : Script.Node)
    (h : (changes declared node).1 = []) : qualified declared node = node := by
  unfold qualified
  split
  · rename_i name span parts
    cases hmember : isContextMember declared name with
    | true => simp [changes, hmember] at h
    | false => simp
  · rename_i name span parts
    cases hmember : isContextMember declared name with
    | true => simp [changes, hmember] at h
    | false => simp
  · rfl
  · rename_i span name place parts rest
    cases hmember : isContextMember declared name with
    | true => simp [changes, changesIn, hmember] at h
    | false =>
        have hnone : (changesIn declared rest).1 = [] := by
          simpa [changes, changesIn, hmember] using h
        simp [qualifiedAll_eq_self declared rest hnone]
  · rename_i kind span parts hidentifier hshorthand hbinding hdefault
    -- Any other tree changes only in its parts.
    rw [changes_mk hidentifier hshorthand hbinding] at h
    rw [qualifiedAll_eq_self declared parts h]

/-- So do trees that follow each other. -/
theorem qualifiedAll_eq_self (declared : List String) (nodes : List Script.Node)
    (h : (changesIn declared nodes).1 = []) : qualifiedAll declared nodes = nodes := by
  cases nodes with
  | nil => rfl
  | cons node rest =>
      simp only [changesIn, List.append_eq_nil_iff] at h
      rw [qualifiedAll, qualified_eq_self declared node h.1, qualifiedAll_eq_self _ rest h.2]

end

/-- So the tree of a qualified text is the same for the tree of the text qualified again. -/
theorem qualified_qualified (declared : List String) (node : Script.Node) :
    qualified declared (qualified declared node) = qualified declared node := by
  have hnone := congrArg Prod.fst (changes_qualified declared node)
  exact qualified_eq_self declared _ hnone

/-! ### Places -/

mutual

/-- Whether two trees are the same up to the places of their nodes. -/
def isLike : Script.Node → Script.Node → Bool
  | .mk kind _ parts, .mk other _ others => kind == other && areLike parts others

/-- Whether trees are the same one by one up to the places of their nodes. -/
def areLike : List Script.Node → List Script.Node → Bool
  | [], [] => true
  | node :: rest, other :: others => isLike node other && areLike rest others
  | _, _ => false

end

mutual

/-- Places do not decide whether there is anything to change, nor which names are declared. -/
theorem isLike_changes (declared : List String) {node other : Script.Node}
    (h : isLike node other = true) :
    ((changes declared node).1 = [] ↔ (changes declared other).1 = []) ∧
      (changes declared node).2 = (changes declared other).2 := by
  obtain ⟨kind, span, parts⟩ := node
  obtain ⟨kind', span', parts'⟩ := other
  simp only [isLike, Bool.and_eq_true, beq_iff_eq] at h
  obtain ⟨rfl, hparts⟩ := h
  have hin := areLike_changes declared hparts
  -- A name is changed by itself, and any other tree in its parts.
  by_cases hidentifier : ∃ name, kind = .identifier name
  · obtain ⟨name, rfl⟩ := hidentifier
    simp only [changes, and_true]
    split <;> simp
  by_cases hshorthand : ∃ name, kind = .shorthand name
  · obtain ⟨name, rfl⟩ := hshorthand
    simp only [changes, and_true]
    split <;> simp
  by_cases hbinding : ∃ name, kind = .binding name
  · obtain ⟨name, rfl⟩ := hbinding
    simp [changes]
  rw [not_exists] at hidentifier hshorthand hbinding
  rw [changes_mk hidentifier hshorthand hbinding, changes_mk hidentifier hshorthand hbinding, hin.2]
  exact ⟨hin.1, rfl⟩

/-- Nor do they decide it in trees that follow each other. -/
theorem areLike_changes (declared : List String) {nodes others : List Script.Node}
    (h : areLike nodes others = true) :
    ((changesIn declared nodes).1 = [] ↔ (changesIn declared others).1 = []) ∧
      (changesIn declared nodes).2 = (changesIn declared others).2 := by
  cases nodes with
  | nil => cases others with
    | nil => exact ⟨Iff.rfl, rfl⟩
    | cons other others => exact nomatch h
  | cons node rest => cases others with
    | nil => exact nomatch h
    | cons other others =>
        simp only [areLike, Bool.and_eq_true] at h
        obtain ⟨hnode, hdeclared⟩ := isLike_changes declared h.1
        obtain ⟨hrest, hbehind⟩ := areLike_changes (changes declared node).2 h.2
        simp only [changesIn, List.append_eq_nil_iff, ← hdeclared]
        exact ⟨and_congr hnode hrest, hbehind⟩

end

/-! ### Texts -/

/-- What is assumed of the parser: a text that consists of this expression is read, once it is
qualified, as the tree in which every name that was changed has become a member of the context, and
every shorthand that was changed a property. -/
def ReadsQualified (content : String) (expression : Script.Node) : Prop :=
  ∀ out, qualify content = some out →
    ∃ reread, wholeExpression? out.toList = some reread ∧
      isLike reread (qualified [] expression) = true

/-- A text that can be qualified and in which nothing is to be changed is left as it is. -/
theorem qualify_eq_self {out : String} (h : changes? out.toList = some []) :
    qualify out = some out := by
  simp [qualify, h, makeEdits, sortFromEnd]

/-- A text that consists of an expression can be qualified, and is left as it is when it is
qualified again. The second time there is nothing to change, and the names declared behind the
expression are those of the first time. -/
theorem qualify_idempotent (content : String) (expression : Script.Node)
    (hexpression : wholeExpression? content.toList = some expression)
    (hreads : ReadsQualified content expression) :
    ∃ out reread, qualify content = some out ∧ wholeExpression? out.toList = some reread ∧
      changes [] reread = ([], (changes [] expression).2) ∧ qualify out = some out := by
  have hsome : ∃ out, qualify content = some out := by
    simp [qualify, changes?, hexpression]
  obtain ⟨out, hout⟩ := hsome
  obtain ⟨reread, hreread, hlike⟩ := hreads out hout
  obtain ⟨hnone, hdeclared⟩ := isLike_changes [] hlike
  rw [changes_qualified] at hnone hdeclared
  have hchanges : changes [] reread = ([], (changes [] expression).2) :=
    Prod.ext (hnone.mpr rfl) hdeclared
  refine ⟨out, reread, hout, hreread, hchanges, qualify_eq_self ?_⟩
  simp [changes?, hreread, hchanges]

/-- An expression with a shorthand, a target with a default value, and a name that a function
declares. -/
def namesOfAllKinds : String :=
  "f({ a }, ({ b = c } = d), (e) => e + g)"

/-- The expression when its names have been qualified. -/
def namesQualified : String :=
  "_ctx.f({ a: _ctx.a }, ({ b: _ctx.b = _ctx.c } = _ctx.d), (e) => e + _ctx.g)"

/-- The parser reads the qualified text as it should, and nothing is qualified twice. -/
theorem qualify_namesOfAllKinds :
    qualify namesOfAllKinds = some namesQualified ∧
      qualify namesQualified = some namesQualified := by
  have hqualify : qualify namesOfAllKinds = some namesQualified := by decide +kernel
  -- Both texts are read, and what is read is as the parser is assumed to read it.
  have hread : ((wholeExpression? namesOfAllKinds.toList).any fun expression =>
      (wholeExpression? namesQualified.toList).any fun reread =>
        isLike reread (qualified [] expression)) = true := by decide +kernel
  simp only [Option.any_eq_true] at hread
  obtain ⟨expression, hexpression, reread, hreread, hlike⟩ := hread
  have hreads : ReadsQualified namesOfAllKinds expression := by
    intro out hout
    obtain rfl : namesQualified = out := Option.some.inj (hqualify.symm.trans hout)
    exact ⟨reread, hreread, hlike⟩
  obtain ⟨out, -, hout, -, -, hagain⟩ :=
    qualify_idempotent namesOfAllKinds expression hexpression hreads
  obtain rfl : namesQualified = out := Option.some.inj (hqualify.symm.trans hout)
  exact ⟨hqualify, hagain⟩

end MiniApp.Handler
