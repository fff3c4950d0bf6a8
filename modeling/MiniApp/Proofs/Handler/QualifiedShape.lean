import MiniApp.Proofs.Handler.Collapsing
import MiniApp.Proofs.Handler.Requalify

/-!
# Qualifying names keeps the shape

Qualifying the names of an expression puts members of the context in the place of names. A reference
stays a reference by that, and a function a function, with any parentheses around it. What remains
is that the new text is read as the tree with these members, which is `ReadsQualified`.

* `isReference_qualified`, `isFunction_qualified`: the tree keeps its shape.
* `isLike_isReference`: so does what is read of the text, as it is the tree up to places.
* `ReadsQualified.isReference`, `ReadsQualified.isFunction`: both together, for a text.
* `KeepsTree.isFunction`: on one line a function is one still, if its tree is kept.
-/

set_option autoImplicit false

namespace MiniApp.Handler

open MiniApp.Script

/-! ### Trees up to places -/

/-- Trees that are the same up to places are of the same kind. -/
theorem isLike_kind {node other : Script.Node} (h : isLike node other = true) :
    node.kind = other.kind := by
  obtain ⟨kind, span, parts⟩ := node
  obtain ⟨kind', span', parts'⟩ := other
  simp only [isLike, Bool.and_eq_true, beq_iff_eq] at h
  exact h.1

/-- They have as many parts. -/
theorem areLike_length {nodes others : List Script.Node} (h : areLike nodes others = true) :
    nodes.length = others.length := by
  induction nodes generalizing others with
  | nil =>
      cases others with
      | nil => rfl
      | cons other others => cases h
  | cons node rest ih =>
      cases others with
      | nil => cases h
      | cons other others =>
          simp only [areLike, Bool.and_eq_true] at h
          simp [ih h.2]

/-- They stay the same when parentheses are taken off both. -/
theorem isLike_withoutParens {node other : Script.Node} (h : isLike node other = true) :
    isLike node.withoutParens other.withoutParens = true := by
  fun_induction Node.withoutParens node generalizing other with
  | case1 span inner ih =>
      obtain ⟨kind', span', parts'⟩ := other
      simp only [isLike, Bool.and_eq_true, beq_iff_eq] at h
      obtain ⟨rfl, hparts⟩ := h
      obtain ⟨inner', rfl⟩ := List.length_eq_one_iff.mp (areLike_length hparts).symm
      simp only [areLike, Bool.and_true] at hparts
      exact @ih inner' hparts
  | case2 node hparens =>
      have hother : ∀ place inner, other ≠ .mk .parenthesized place [inner] := by
        rintro place inner rfl
        obtain ⟨kind, span, parts⟩ := node
        simp only [isLike, Bool.and_eq_true, beq_iff_eq] at h
        obtain ⟨rfl, hparts⟩ := h
        -- The first tree has just as many parts, so it would be in parentheses as well.
        obtain ⟨part, rfl⟩ := List.length_eq_one_iff.mp (areLike_length hparts)
        exact hparens span part rfl
      rw [Node.withoutParens_eq_self hother]
      exact h

/-- A chain is a reference only if it holds a single expression. -/
theorem isReference_chain_eq_false {span : Span} {parts : List Script.Node}
    (h : ¬ ∃ inner, parts = [inner]) : isReference (.mk .chain span parts) = false := by
  cases parts with
  | nil => rfl
  | cons inner rest =>
      cases rest with
      | nil => exact absurd ⟨inner, rfl⟩ h
      | cons => rfl

/-- Whether a tree is a reference is seen from the kinds of its nodes. -/
theorem isLike_isReference {node other : Script.Node} (h : isLike node other = true) :
    isReference node = isReference other := by
  obtain ⟨kind, span, parts⟩ := node
  obtain ⟨kind', span', parts'⟩ := other
  simp only [isLike, Bool.and_eq_true, beq_iff_eq] at h
  obtain ⟨rfl, hparts⟩ := h
  cases kind with
  | chain =>
      have hlength := areLike_length hparts
      by_cases hone : ∃ inner, parts = [inner]
      · obtain ⟨inner, rfl⟩ := hone
        obtain ⟨inner', rfl⟩ := List.length_eq_one_iff.mp hlength.symm
        simp only [areLike, Bool.and_true] at hparts
        simp only [isReference, isMember, isLike_kind hparts]
      · have hone' : ¬ ∃ inner', parts' = [inner'] := by
          rwa [← List.length_eq_one_iff, ← hlength, List.length_eq_one_iff]
        rw [isReference_chain_eq_false hone, isReference_chain_eq_false hone']
  | _ => rfl

/-! ### Trees of qualified texts -/

/-- Parentheses stand around a qualified tree as they do around the tree. -/
theorem withoutParens_qualified (declared : List String) (node : Script.Node) :
    (qualified declared node).withoutParens =
      (qualified declared node.withoutParens).withoutParens := by
  fun_induction Node.withoutParens node with
  | case1 span inner ih => simpa [qualified, qualifiedAll, Node.withoutParens] using ih
  | case2 node hparens => rfl

/-- A reference whose names are qualified is a reference still. -/
theorem isReference_qualified (declared : List String) {node : Script.Node}
    (h : isReference node = true) :
    isReference (qualified declared node).withoutParens = true := by
  obtain ⟨kind, span, parts⟩ := node
  cases kind with
  | identifier name =>
      -- A member of the context has come in the place of the name, or the name stays.
      cases hmember : isContextMember declared name with
      | true =>
          rw [qualified, if_pos hmember]
          rfl
      | false =>
          rw [qualified, if_neg (Bool.eq_false_iff.mp hmember)]
          rfl
  | member isOptional => rfl
  | index isOptional => rfl
  | chain =>
      by_cases hone : ∃ inner, parts = [inner]
      · obtain ⟨⟨kind, place, inside⟩, rfl⟩ := hone
        simp only [isReference, isMember, Node.kind] at h
        cases kind with
        | member | index => rfl
        | _ => cases h
      · rw [isReference_chain_eq_false hone] at h
        cases h
  | _ => cases h

/-- So is a function. -/
theorem isFunction_qualified (declared : List String) {node : Script.Node}
    (h : isFunction node = true) :
    isFunction (qualified declared node).withoutParens = true := by
  obtain ⟨kind, span, parts⟩ := node
  cases kind with
  | arrow | function => rfl
  | _ => cases h

/-! ### Texts -/

/-- A reference is one still when its names are qualified and the text is read as it should. -/
theorem ReadsQualified.isReference {content out : String} {expression : Script.Node}
    (h : ReadsQualified content expression) (hout : qualify content = some out)
    (hreference : isReference expression.withoutParens) :
    ∃ reread, wholeExpression? out.toList = some reread ∧
      Handler.isReference reread.withoutParens := by
  obtain ⟨reread, hreread, hlike⟩ := h out hout
  refine ⟨reread, hreread, ?_⟩
  rw [isLike_isReference (isLike_withoutParens hlike), withoutParens_qualified]
  exact isReference_qualified [] hreference

/-- So is a function. -/
theorem ReadsQualified.isFunction {content out : String} {expression : Script.Node}
    (h : ReadsQualified content expression) (hout : qualify content = some out)
    (hfunction : isFunction expression.withoutParens) :
    ∃ reread, wholeExpression? out.toList = some reread ∧
      Handler.isFunction reread.withoutParens := by
  obtain ⟨reread, hreread, hlike⟩ := h out hout
  refine ⟨reread, hreread, ?_⟩
  unfold Handler.isFunction
  rw [isLike_kind (isLike_withoutParens hlike), withoutParens_qualified]
  exact isFunction_qualified [] hfunction

/-- A function whose tree is kept is a function still. -/
theorem KeepsTree.isFunction {code : String} (h : KeepsTree code) {tree : Script.Node}
    (htree : wholeExpression? code.toList = some tree) (hfunction : isFunction tree.withoutParens) :
    ∃ tree', wholeExpression? (collapse code).toList = some tree' ∧
      isFunction tree'.withoutParens := by
  obtain ⟨tree', htree', houtline⟩ := h tree htree
  have hkind : tree'.withoutParens.kind = tree.withoutParens.kind := by
    rw [← Node.kind_outline, ← Node.withoutParens_outline, houtline, Node.withoutParens_outline,
      Node.kind_outline]
  refine ⟨tree', htree', ?_⟩
  unfold Handler.isFunction at hfunction ⊢
  rw [hkind]
  exact hfunction

end MiniApp.Handler
