import Mathlib.Data.List.Nodup
import MiniApp.Handler.Qualify
import MiniApp.Proofs.Script.Scope
import MiniApp.Proofs.Script.Grammar.Statement

/-!
# Names that are used

Every place where a tree uses a name is a `Use`. It keeps two lists of names: those that are
declared before it, by the rule that qualifying names goes by, and those that are in scope by the
rules of the language. Both are found from the place of the use in the tree alone.

* `changes_eq`: qualifying changes exactly the uses of names that are not declared before them, one
  change for each and in their order.
* `usesOf_fits`: each use stands in the text behind the uses before it, and takes at least one
  character, so that no two uses share a change.
-/

set_option autoImplicit false

namespace MiniApp.Handler

open MiniApp.Script
open MiniApp.Script.Node (Fits InOrder fits_mk inOrder_nil inOrder_cons)

/-- A place where a name is used, alone or as a shorthand for a property and its value. -/
structure Use where
  name : String
  span : Span
  isShorthand : Bool
  /-- The names declared before the use, outside of functions that have ended. -/
  before : List String
  /-- The names in scope. -/
  visible : List String
  deriving DecidableEq, Repr

/-- What makes the used name a member of the component. -/
def Use.change (use : Use) : Change :=
  if use.isShorthand then qualifyShorthand use.name use.span else qualifyName use.span

mutual

/-- The names that a tree leaves declared behind it, the last one first. -/
def leaves : Script.Node → List String
  | .mk (.identifier _) _ _ | .mk (.shorthand _) _ _ => []
  | .mk (.binding name) _ _ => [name]
  | .mk kind _ parts => if isScope kind then [] else allLeaves parts

/-- The names that trees leave declared behind them, the last one first. -/
def allLeaves : List Script.Node → List String
  | [] => []
  | node :: rest => allLeaves rest ++ leaves node

end

mutual

/-- The uses in a tree, given the names declared before it and those in scope. The value that a
choice between statements is made by does not see what the cases declare. -/
def usesOf (before visible : List String) : Script.Node → List Use
  | .mk (.identifier name) span _ => [⟨name, span, false, before, visible⟩]
  | .mk (.shorthand name) span _ => [⟨name, span, true, before, visible⟩]
  | .mk (.binding _) _ _ => []
  | .mk .switchStatement _ (value :: cases) =>
    usesOf before visible value ++
      usesOfAll (leaves value ++ before) (Node.caseNames cases ++ visible) cases
  | .mk kind _ parts => usesOfAll before (Node.scopeNames kind parts ++ visible) parts

/-- The uses in trees that follow each other. -/
def usesOfAll (before visible : List String) : List Script.Node → List Use
  | [] => []
  | node :: rest => usesOf before visible node ++ usesOfAll (leaves node ++ before) visible rest

end

/-- The uses in a text: those in the expression that it consists of, or else those in its
statements, which see each other's declarations. -/
def uses? (source : List Char) : Option (List Use) :=
  match wholeExpression? source with
  | some expression => some (usesOf [] [] expression)
  | none => (program? source).map fun program =>
    usesOfAll [] (Node.bodyNames program.statements) program.statements

/-! ### Uses and changes -/

/-- Without declarations only the names of globals and of the render function are no members. -/
theorem isContextMember_nil_iff (name : String) :
    isContextMember [] name ↔ ¬ isGlobal name ∧ ¬ isRenderLocal name := by
  simp [isContextMember]

/-- Declarations take their names away from the members, and no others. -/
theorem isContextMember_iff (declared : List String) (name : String) :
    isContextMember declared name ↔ isContextMember [] name ∧ name ∉ declared := by
  simp [isContextMember, and_assoc]

/-- Of two lists of declared names both hide members of the component. -/
theorem isContextMember_append_iff (before declared : List String) (name : String) :
    isContextMember (before ++ declared) name ↔
      isContextMember before name ∧ name ∉ declared := by
  rw [isContextMember_iff (before ++ declared), isContextMember_iff before, List.mem_append, not_or,
    and_assoc]

/-- The changes of those uses whose names are not declared before them. -/
def changesOf (uses : List Use) : List Change :=
  (uses.filter fun use => isContextMember use.before use.name).map Use.change

/-- Uses one behind the other are changed one by one. -/
@[simp] theorem changesOf_append (uses more : List Use) :
    changesOf (uses ++ more) = changesOf uses ++ changesOf more := by
  simp [changesOf]

mutual

/-- Qualifying changes the uses of names that are not declared before them, and leaves the names of
the tree declared. What is in scope does not matter to it. -/
theorem changes_eq (declared visible : List String) (node : Script.Node) :
    changes declared node = (changesOf (usesOf declared visible node),
      leaves node ++ declared) := by
  unfold usesOf
  split
  · rename_i name span parts
    by_cases hmember : isContextMember declared name <;>
      simp [changes, changesOf, Use.change, leaves, hmember]
  · rename_i name span parts
    by_cases hmember : isContextMember declared name <;>
      simp [changes, changesOf, Use.change, leaves, hmember]
  · simp [changes, leaves, changesOf]
  · -- The value and the cases are visited one after another, in different scopes.
    rename_i span value cases
    have hvalue := changes_eq declared visible value
    have hcases := changesIn_eq (leaves value ++ declared) (Node.caseNames cases ++ visible) cases
    simp [changes, changesIn, hvalue, hcases, leaves, allLeaves, isScope]
  · rename_i kind span parts hidentifier hshorthand hbinding hswitch
    have hparts := changesIn_eq declared (Node.scopeNames kind parts ++ visible) parts
    have hchanges : changes declared (.mk kind span parts) =
        ((changesIn declared parts).1, if isScope kind then declared else
          (changesIn declared parts).2) := by
      rw [changes]
      all_goals assumption
    have hleaves : leaves (.mk kind span parts) = if isScope kind then [] else allLeaves parts := by
      rw [leaves]
      all_goals assumption
    rw [hchanges, hleaves, hparts]
    split <;> rfl

/-- So are those in trees that follow each other. -/
theorem changesIn_eq (declared visible : List String) (nodes : List Script.Node) :
    changesIn declared nodes =
      (changesOf (usesOfAll declared visible nodes), allLeaves nodes ++ declared) := by
  cases nodes with
  | nil => simp [changesIn, usesOfAll, changesOf, allLeaves]
  | cons node rest =>
      rw [changesIn, usesOfAll, allLeaves, changes_eq declared visible node]
      dsimp only
      rw [changesIn_eq (leaves node ++ declared) visible rest]
      simp

end

/-! ### Where uses stand -/

/-- The use as a tree of its own. -/
def Use.leaf (use : Use) : Script.Node :=
  .mk (if use.isShorthand then .shorthand use.name else .identifier use.name) use.span []

mutual

/-- Uses in a tree stand in its stretch of the text, one behind the other. -/
theorem usesOf_fits {source : List Char} {hi lo : Nat} (before visible : List String)
    (node : Script.Node)
    (h : node.Fits source hi lo) :
      InOrder source hi lo ((usesOf before visible node).map Use.leaf) := by
  unfold usesOf
  split
  · obtain ⟨hstart, hstop, huse, hparts⟩ := fits_mk.mp h
    exact Fits.inOrder (fits_mk.mpr ⟨hstart, hstop, huse, inOrder_nil.mpr hparts.le⟩)
  · obtain ⟨hstart, hstop, huse, hparts⟩ := fits_mk.mp h
    exact Fits.inOrder (fits_mk.mpr ⟨hstart, hstop, huse, inOrder_nil.mpr hparts.le⟩)
  · exact inOrder_nil.mpr h.inOrder.le
  · rename_i span value cases
    obtain ⟨hvalue, hcases⟩ := inOrder_cons.mp h.parts
    rw [List.map_append]
    refine InOrder.append (usesOf_fits before visible value ?_)
      (usesOfAll_inOrder _ (Node.caseNames cases ++ visible) cases hcases)
    exact hvalue.self.mono hvalue.start_le (Nat.le_refl _)
  · rename_i kind span parts hidentifier hshorthand hbinding hswitch
    exact usesOfAll_inOrder before (Node.scopeNames kind parts ++ visible) parts h.parts

/-- So do those in trees that follow each other. -/
theorem usesOfAll_inOrder {source : List Char} {hi lo : Nat} (before visible : List String)
    (nodes : List Script.Node)
    (h : InOrder source hi lo nodes) :
      InOrder source hi lo ((usesOfAll before visible nodes).map Use.leaf) := by
  cases nodes with
  | nil =>
      rw [usesOfAll]
      exact h
  | cons node rest =>
      obtain ⟨hnode, hrest⟩ := inOrder_cons.mp h
      rw [usesOfAll, List.map_append]
      refine InOrder.append (usesOf_fits before visible node ?_)
        (usesOfAll_inOrder (leaves node ++ before) visible rest hrest)
      exact hnode.self.mono hnode.start_le (Nat.le_refl _)

end

/-- As a tree, a use is one that refers to a variable. -/
theorem Use.leaf_isUse (use : Use) : use.leaf.kind.IsUse := by
  obtain ⟨name, span, isShorthand, before, visible⟩ := use
  cases isShorthand <;> trivial

/-- A use that stands behind another one starts behind it. -/
theorem uses_starts {source : List Char} {hi lo : Nat} {uses : List Use}
    (h : InOrder source hi lo (uses.map Use.leaf)) :
    (∀ use ∈ uses, use.span.start ≤ hi) ∧
      uses.Pairwise fun use other => other.span.start < use.span.start := by
  induction uses generalizing hi with
  | nil => exact ⟨nofun, List.Pairwise.nil⟩
  | cons use rest ih =>
      obtain ⟨huse, hrest⟩ := inOrder_cons.mp h
      obtain ⟨hstart, -, hnonempty, -⟩ := fits_mk.mp huse
      have hless : use.span.stop < use.span.start := (hnonempty use.leaf_isUse).nonempty
      obtain ⟨hbehind, hpairwise⟩ := ih hrest
      have hall : ∀ other ∈ rest, other.span.start < use.span.start :=
        fun other hmem => Nat.lt_of_le_of_lt (hbehind other hmem) hless
      refine ⟨fun other hmem => ?_, List.Pairwise.cons hall hpairwise⟩
      rcases List.mem_cons.mp hmem with rfl | hmem
      · exact hstart
      · exact Nat.le_trans (Nat.le_of_lt (hall other hmem)) hstart

/-- A use is changed from where it starts. -/
theorem Use.change_start (use : Use) : use.change.span.start = use.span.start := by
  unfold Use.change
  split <;> rfl

/-- No two uses share a change. -/
theorem change_injective {source : List Char} {hi lo : Nat} {uses : List Use}
    (h : InOrder source hi lo (uses.map Use.leaf))
    {use other : Use} (huse : use ∈ uses) (hother : other ∈ uses)
    (hchange : use.change = other.change) : use = other := by
  have hnodup : (uses.map fun use => use.span.start).Nodup :=
    List.Pairwise.map _ (fun _ _ hless => Nat.ne_of_gt hless) (uses_starts h).2
  refine List.inj_on_of_nodup_map hnodup huse hother ?_
  show use.span.start = other.span.start
  rw [← use.change_start, ← other.change_start, hchange]

/-- The uses of a text stand in it in order. -/
theorem uses?_inOrder {source : List Char} {uses : List Use} (h : uses? source = some uses) :
    InOrder source source.length 0 (uses.map Use.leaf) := by
  unfold uses? at h
  split at h
  · rename_i expression hexpression
    cases h
    exact usesOf_fits [] [] expression (wholeExpression?_fits hexpression)
  · obtain ⟨program, hprogram, rfl⟩ := Option.map_eq_some_iff.mp h
    exact usesOfAll_inOrder [] _ _ (statements_inOrder hprogram)

/-- A use is changed if and only if its name is a member of the component that is not declared
before it. -/
theorem change_mem_iff {source : List Char} {uses : List Use} (huses : uses? source = some uses)
    {use : Use} (huse : use ∈ uses) :
    use.change ∈ changesOf uses ↔ isContextMember use.before use.name := by
  unfold changesOf
  rw [List.mem_map]
  constructor
  · rintro ⟨other, hother, hchange⟩
    obtain ⟨hmem, hmember⟩ := List.mem_filter.mp hother
    have hsame := change_injective (uses?_inOrder huses) hmem huse hchange
    exact hsame ▸ hmember
  · intro hmember
    exact ⟨use, List.mem_filter.mpr ⟨huse, hmember⟩, rfl⟩

end MiniApp.Handler
