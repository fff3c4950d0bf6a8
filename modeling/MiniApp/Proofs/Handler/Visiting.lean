import MiniApp.Proofs.Handler.Splice
import MiniApp.Proofs.Script.Place

/-!
# Which names are qualified, place by place

Qualifying goes through a tree with the list of the names declared so far, which is cut back behind
every function. What becomes of a name that is used can be said without the list: it is qualified
unless a declaration of the name comes before it, in the order of the visit, that stands in no
function whose visit has ended by then.

* `changesIn_eq_rewrites`: the changes are those of the places that this rule picks, in order.
* `isHidden_of_parameter`: a parameter hides its name in the whole of what follows the
  parameters in its function, at any depth.
* `isHidden_outside_iff`: outside of a function its declarations hide nothing.
* `qualified_by_place`: all of this together, and that no other leaf of the tree is touched.
-/

set_option autoImplicit false

namespace MiniApp.Handler

open MiniApp.Script

/-! ### The rule -/

/-- The name that a node uses: of a reference, or of a shorthand. -/
def usedName? : Kind → Option String
  | .identifier name | .shorthand name => some name
  | _ => none

/-- How a node that uses a name is rewritten. -/
def rewrite (node : Script.Node) : Change :=
  match node.kind with
  | .shorthand name => qualifyShorthand name node.span
  | _ => qualifyName node.span

/-- A declaration hides the name at a place: it comes before, and no function around it has ended
there. -/
def Hides (places : List Place) (declaration place : Place) : Prop :=
  declaration.Precedes place ∧
    ∀ scope ∈ places, isScope scope.node.kind → scope.Encloses declaration →
      ¬ scope.EndsBefore place

/-- Some declaration of the name hides it at the place. -/
def IsHidden (places : List Place) (name : String) (place : Place) : Prop :=
  ∃ declaration ∈ places, declaration.node.kind = .binding name ∧ Hides places declaration place

/-- The node at the place uses a name which is a member of the component where the given names have
been declared, and no declaration among the places hides it. -/
def IsRewritten (declared : List String) (places : List Place) (place : Place) : Prop :=
  ∃ name ∈ usedName? place.node.kind, isContextMember declared name ∧ ¬ IsHidden places name place

instance (places : List Place) (declaration place : Place) :
    Decidable (Hides places declaration place) :=
  inferInstanceAs (Decidable (_ ∧ _))

instance (places : List Place) (name : String) (place : Place) :
    Decidable (IsHidden places name place) :=
  inferInstanceAs (Decidable (∃ declaration ∈ places, _))

instance (declared : List String) (places : List Place) (place : Place) :
    Decidable (IsRewritten declared places place) :=
  inferInstanceAs (Decidable (∃ name ∈ usedName? place.node.kind, _))

/-- The changes at the places that are rewritten, in the order of the visit. -/
def rewrites (declared : List String) (places : List Place) : List Change :=
  (places.filter fun place => IsRewritten declared places place).map fun place => rewrite place.node

/-! ### Declarations that are left -/

/-- A declaration of the name stands in no function among the places. -/
def IsLeft (places : List Place) (name : String) : Prop :=
  ∃ declaration ∈ places, declaration.node.kind = .binding name ∧
    ∀ scope ∈ places, isScope scope.node.kind → ¬ scope.Encloses declaration

/-- Places that are told apart do not change what is left of each other. -/
theorem isLeft_append_iff {places more : List Place}
    (hapart : ∀ place ∈ places, ∀ other ∈ more, ¬ place.Encloses other ∧ ¬ other.Encloses place)
    (name : String) : IsLeft (places ++ more) name ↔ IsLeft places name ∨ IsLeft more name := by
  constructor
  · rintro ⟨declaration, hmem, hkind, hscopes⟩
    rcases List.mem_append.mp hmem with hmem | hmem
    · exact Or.inl ⟨declaration, hmem, hkind, fun scope hscope =>
        hscopes scope (List.mem_append_left _ hscope)⟩
    · exact Or.inr ⟨declaration, hmem, hkind, fun scope hscope =>
        hscopes scope (List.mem_append_right _ hscope)⟩
  · rintro (⟨declaration, hmem, hkind, hscopes⟩ | ⟨declaration, hmem, hkind, hscopes⟩)
    -- Functions on the other side are around none of the declarations here.
    · refine ⟨declaration, List.mem_append_left _ hmem, hkind, fun scope hscope hkind => ?_⟩
      rcases List.mem_append.mp hscope with hscope | hscope
      · exact hscopes scope hscope hkind
      · exact (hapart _ hmem _ hscope).2
    · refine ⟨declaration, List.mem_append_right _ hmem, hkind, fun scope hscope hkind => ?_⟩
      rcases List.mem_append.mp hscope with hscope | hscope
      · exact (hapart _ hscope _ hmem).1
      · exact hscopes scope hscope hkind

/-- Of places in two parts of a tree neither encloses the other. -/
theorem apart_encloses {path : List Nat} {index : Nat} {node : Script.Node}
    {rest : List Script.Node} :
    ∀ place ∈ placesOf (path ++ [index]) node, ∀ other ∈ placesIn path (index + 1) rest,
      ¬ place.Encloses other ∧ ¬ other.Encloses place :=
  fun _ hplace _ hother => (apart hplace hother).2

mutual

/-- The names that a tree leaves declared are those of the declarations that stand in none of its
functions. -/
theorem mem_leaves_iff (path : List Nat) (node : Script.Node) (name : String) :
    name ∈ leaves node ↔ IsLeft (placesOf path node) name := by
  unfold leaves
  split
  · simp [placesOf, Kind.isName, IsLeft, Node.kind]
  · simp [placesOf, Kind.isName, IsLeft, Node.kind]
  · rename_i declared span parts
    -- A declaration leaves its own name, and there is no function around it.
    simp only [placesOf, Kind.isName, if_true, IsLeft, Node.kind, List.mem_singleton,
      exists_eq_left, forall_eq, isScope, Bool.false_eq_true, false_implies, and_true,
      Kind.binding.injEq]
    exact eq_comm
  · rename_i kind span parts hidentifier hshorthand hbinding
    have hname : kind.isName = false := by cases kind <;> simp_all [Kind.isName]
    have hplaces : placesOf path (.mk kind span parts) =
        ⟨path, .mk kind span parts⟩ :: placesIn path 0 parts := by
      simp [placesOf, hname]
    rw [hplaces]
    split
    · -- The function itself is around all declarations in it.
      rename_i hscope
      refine iff_of_false List.not_mem_nil ?_
      rintro ⟨declaration, hmem, -, hscopes⟩
      refine hscopes ⟨path, .mk kind span parts⟩ List.mem_cons_self hscope ?_
      exact path_placesOf (hplaces ▸ hmem)
    · rename_i hscope
      -- The node is neither a function nor a declaration, and only its parts count.
      rw [mem_allLeaves_iff path 0 parts]
      constructor
      · rintro ⟨declaration, hmem, hkind, hscopes⟩
        refine ⟨declaration, List.mem_cons_of_mem _ hmem, hkind, fun scope hmem hkind => ?_⟩
        rcases List.mem_cons.mp hmem with rfl | hmem
        · exact absurd hkind hscope
        · exact hscopes scope hmem hkind
      · rintro ⟨declaration, hmem, hkind, hscopes⟩
        rcases List.mem_cons.mp hmem with rfl | hmem
        · exact absurd hkind (hbinding name)
        · exact ⟨declaration, hmem, hkind, fun scope hmem =>
            hscopes scope (List.mem_cons_of_mem _ hmem)⟩

/-- So do trees that follow each other. -/
theorem mem_allLeaves_iff (path : List Nat) (index : Nat) (nodes : List Script.Node)
    (name : String) : name ∈ allLeaves nodes ↔ IsLeft (placesIn path index nodes) name := by
  cases nodes with
  | nil => simp [allLeaves, placesIn, IsLeft]
  | cons node rest =>
      rw [allLeaves, placesIn, isLeft_append_iff apart_encloses, List.mem_append,
        mem_leaves_iff (path ++ [index]) node, mem_allLeaves_iff path (index + 1) rest]
      exact or_comm

end

/-! ### What is hidden where -/

/-- What encloses a place neither hides it nor ends before it. -/
theorem isHidden_cons_iff {outer place : Place} {places : List Place}
    (houter : outer.Encloses place) (hbinding : ∀ name, outer.node.kind ≠ .binding name)
    (name : String) : IsHidden (outer :: places) name place ↔ IsHidden places name place := by
  constructor
  · rintro ⟨declaration, hmem, hkind, hprecedes, hscopes⟩
    rcases List.mem_cons.mp hmem with rfl | hmem
    · exact absurd hkind (hbinding name)
    · exact ⟨declaration, hmem, hkind, hprecedes, fun scope hscope =>
        hscopes scope (List.mem_cons_of_mem _ hscope)⟩
  · rintro ⟨declaration, hmem, hkind, hprecedes, hscopes⟩
    refine ⟨declaration, List.mem_cons_of_mem _ hmem, hkind, hprecedes, fun scope hscope => ?_⟩
    rcases List.mem_cons.mp hscope with rfl | hscope
    · exact fun _ _ hends => hends.2 houter
    · exact hscopes scope hscope

section Append

variable {places more : List Place}
  (hapart : ∀ place ∈ places, ∀ other ∈ more,
    place.Precedes other ∧ ¬ place.Encloses other ∧ ¬ other.Encloses place)

include hapart

/-- What comes later hides nothing. -/
theorem isHidden_append_left_iff {place : Place} (hplace : place ∈ places) (name : String) :
    IsHidden (places ++ more) name place ↔ IsHidden places name place := by
  constructor
  · rintro ⟨declaration, hmem, hkind, hprecedes, hscopes⟩
    rcases List.mem_append.mp hmem with hmem | hmem
    · exact ⟨declaration, hmem, hkind, hprecedes, fun scope hscope =>
        hscopes scope (List.mem_append_left _ hscope)⟩
    -- A declaration that comes later is not met before the place.
    · have hbefore := (hapart _ hplace _ hmem).1
      exact absurd (hbefore.trans hprecedes) (Place.Precedes.irrefl place)
  · rintro ⟨declaration, hmem, hkind, hprecedes, hscopes⟩
    refine ⟨declaration, List.mem_append_left _ hmem, hkind, hprecedes, fun scope hscope => ?_⟩
    rcases List.mem_append.mp hscope with hscope | hscope
    · exact hscopes scope hscope
    · exact fun _ hencloses => absurd hencloses (hapart _ hmem _ hscope).2.2

/-- What comes before hides what is left of it, since all its functions have ended. -/
theorem isHidden_append_right_iff {place : Place} (hplace : place ∈ more) (name : String) :
    IsHidden (places ++ more) name place ↔ IsLeft places name ∨ IsHidden more name place := by
  have hends : ∀ scope ∈ places, scope.EndsBefore place := fun scope hscope =>
    ⟨(hapart _ hscope _ hplace).1, (hapart _ hscope _ hplace).2.1⟩
  constructor
  · rintro ⟨declaration, hmem, hkind, hprecedes, hscopes⟩
    -- A declaration among the earlier places is seen if it stands in none of their functions.
    rcases List.mem_append.mp hmem with hmem | hmem
    · refine Or.inl ⟨declaration, hmem, hkind, fun scope hscope hkind hencloses => ?_⟩
      exact hscopes scope (List.mem_append_left _ hscope) hkind hencloses (hends scope hscope)
    · exact Or.inr ⟨declaration, hmem, hkind, hprecedes, fun scope hscope =>
        hscopes scope (List.mem_append_right _ hscope)⟩
  · rintro (⟨declaration, hmem, hkind, hscopes⟩ | ⟨declaration, hmem, hkind, hprecedes, hscopes⟩)
    · refine ⟨declaration, List.mem_append_left _ hmem, hkind, (hapart _ hmem _ hplace).1, ?_⟩
      intro scope hscope hkind hencloses
      rcases List.mem_append.mp hscope with hscope | hscope
      · exact absurd hencloses (hscopes scope hscope hkind)
      · exact absurd hencloses (hapart _ hmem _ hscope).2.2
    · refine ⟨declaration, List.mem_append_right _ hmem, hkind, hprecedes, ?_⟩
      intro scope hscope hkind hencloses
      rcases List.mem_append.mp hscope with hscope | hscope
      · exact absurd hencloses (hapart _ hscope _ hmem).2.1
      · exact hscopes scope hscope hkind hencloses

end Append

/-! ### Changes -/

/-- Where the rule says the same about every place, the changes are the same. -/
theorem rewritten_congr {declared other : List String} {places more picked : List Place}
    (h : ∀ place ∈ picked, IsRewritten declared places place ↔ IsRewritten other more place) :
    (picked.filter fun place => IsRewritten declared places place) =
      picked.filter fun place => IsRewritten other more place := by
  refine List.filter_congr fun place hplace => ?_
  rw [decide_eq_decide]
  exact h place hplace

/-- In trees that follow each other the first one is rewritten by itself, and those behind it as
where the names that it leaves have been declared. -/
theorem rewrites_append (declared : List String) (path : List Nat) (index : Nat)
    (node : Script.Node) (rest : List Script.Node) :
    rewrites declared (placesOf (path ++ [index]) node ++ placesIn path (index + 1) rest) =
      rewrites declared (placesOf (path ++ [index]) node) ++
        rewrites (leaves node ++ declared) (placesIn path (index + 1) rest) := by
  have hapart : ∀ place ∈ placesOf (path ++ [index]) node,
      ∀ other ∈ placesIn path (index + 1) rest,
        place.Precedes other ∧ ¬ place.Encloses other ∧ ¬ other.Encloses place :=
    fun _ hplace _ hother => apart hplace hother
  -- The list behind the first tree holds what the rule finds left in it.
  have hmember : ∀ name, isContextMember (leaves node ++ declared) name ↔
      isContextMember declared name ∧ ¬ IsLeft (placesOf (path ++ [index]) node) name := by
    intro name
    rw [isContextMember_iff, isContextMember_iff declared, List.mem_append, not_or,
      mem_leaves_iff (path ++ [index])]
    tauto
  unfold rewrites
  rw [List.filter_append, List.map_append]
  congr 2
  · refine rewritten_congr fun place hplace => ?_
    simp only [IsRewritten, isHidden_append_left_iff hapart hplace]
  · refine rewritten_congr fun place hplace => ?_
    simp only [IsRewritten, isHidden_append_right_iff hapart hplace, hmember, not_or, and_assoc]

/-- A node that is no name is rewritten in its parts. -/
theorem rewrites_cons (declared : List String) (path : List Nat) {kind : Kind} (span : Span)
    (parts : List Script.Node) (hname : kind.isName = false) :
    rewrites declared (placesOf path (.mk kind span parts)) =
      rewrites declared (placesIn path 0 parts) := by
  have hplaces : placesOf path (.mk kind span parts) =
      ⟨path, .mk kind span parts⟩ :: placesIn path 0 parts := by
    simp [placesOf, hname]
  have hself : ¬ IsRewritten declared (placesOf path (.mk kind span parts))
      ⟨path, .mk kind span parts⟩ := by
    rintro ⟨name, hused, -⟩
    cases kind <;> simp_all [usedName?, Kind.isName, Node.kind]
  unfold rewrites
  rw [hplaces] at hself ⊢
  rw [List.filter_cons_of_neg (by simpa using hself)]
  congr 1
  refine rewritten_congr fun place hplace => ?_
  -- A node that is no binding hides nothing from the places inside it.
  have houter : Place.Encloses ⟨path, .mk kind span parts⟩ place :=
    path_placesOf (hplaces ▸ List.mem_cons_of_mem _ hplace)
  have hbinding : ∀ name, (Place.mk path (.mk kind span parts)).node.kind ≠ .binding name := by
    rintro name rfl
    exact nomatch hname
  simp only [IsRewritten, isHidden_cons_iff houter hbinding]

mutual

/-- The changes in a tree are those at the places that the rule picks. The visit of a list hands on
what it has met, and the rule looks for it among the places; both take the same from the first tree
to the ones behind it (`rewrites_append`). -/
theorem changes_eq_rewrites (declared : List String) (path : List Nat) (node : Script.Node) :
    (changes declared node).1 = rewrites declared (placesOf path node) := by
  obtain ⟨kind, span, parts⟩ := node
  cases hname : kind.isName with
  | true =>
      -- A name is the only place, so that nothing is left that could hide it.
      have hplaces : placesOf path (.mk kind span parts) = [⟨path, .mk kind span parts⟩] := by
        simp [placesOf, hname]
      rw [hplaces]
      cases kind with
      | identifier name =>
          by_cases hmember : isContextMember declared name <;>
            simp [changes, rewrites, IsRewritten, IsHidden, usedName?, rewrite, Node.kind,
              Node.span, hmember]
      | shorthand name =>
          by_cases hmember : isContextMember declared name <;>
            simp [changes, rewrites, IsRewritten, IsHidden, usedName?, rewrite, Node.kind,
              Node.span, hmember]
      | binding name => simp [changes, rewrites, IsRewritten, usedName?, Node.kind]
      | _ => exact nomatch hname
  | false =>
      have hparts : (changes declared (.mk kind span parts)).1 = (changesIn declared parts).1 := by
        cases kind <;> first | rfl | exact nomatch hname
      rw [hparts, rewrites_cons declared path span parts hname]
      exact changesIn_eq_rewrites declared path 0 parts

/-- So are the changes in trees that follow each other. -/
theorem changesIn_eq_rewrites (declared : List String) (path : List Nat) (index : Nat)
    (nodes : List Script.Node) :
    (changesIn declared nodes).1 = rewrites declared (placesIn path index nodes) := by
  cases nodes with
  | nil => simp [changesIn, placesIn, rewrites]
  | cons node rest =>
      have hleft : (changes declared node).2 = leaves node ++ declared := by
        rw [changes_eq declared []]
      rw [changesIn, placesIn, rewrites_append, ← changes_eq_rewrites declared _ node,
        ← changesIn_eq_rewrites (leaves node ++ declared) path (index + 1) rest, ← hleft]

end

/-! ### Functions and their parameters -/

mutual

/-- A target leaves the names that it binds. -/
theorem mem_leaves_of_targetNames {node : Script.Node} {name : String}
    (h : name ∈ Node.targetNames node) : name ∈ leaves node := by
  unfold Node.targetNames at h
  split at h
  · simpa [leaves] using h
  · exact mem_allLeaves_of_targetNames h
  · exact mem_allLeaves_of_targetNames h
  · exact mem_allLeaves_of_targetNames h
  · rename_i span target parts
    show name ∈ allLeaves parts ++ leaves target
    exact List.mem_append_right _ (mem_leaves_of_targetNames h)
  · rename_i computed span key target
    show name ∈ ([] ++ leaves target) ++ leaves key
    exact List.mem_append_left _ (mem_leaves_of_targetNames h)
  · exact nomatch h

/-- So are the names that several declared targets bind. -/
theorem mem_allLeaves_of_targetNames {nodes : List Script.Node} {name : String}
    (h : name ∈ Node.allTargetNames nodes) : name ∈ allLeaves nodes := by
  cases nodes with
  | nil => exact nomatch h
  | cons node rest =>
      rw [Node.allTargetNames, List.mem_append] at h
      rw [allLeaves, List.mem_append]
      rcases h with h | h
      · exact Or.inr (mem_leaves_of_targetNames h)
      · exact Or.inl (mem_allLeaves_of_targetNames h)

end

section Places

variable {path : List Nat} {index : Nat} {nodes : List Script.Node}

/-- A parameter hides its name in all parts of its function behind the parameters. No function ends
between the parameter and such a place: one that is around the parameter is that function or around
it, since targets bind names outside of the functions in them. -/
theorem isHidden_of_parameter {scope place : Place} (hscope : scope ∈ placesIn path index nodes)
    (hkind : isScope scope.node.kind) {position later : Nat} {span : Span}
    {targets : List Script.Node}
    (hparameters : scope.node.parts[position]? = some (.mk .parameters span targets))
    {name : String} (hname : name ∈ Node.allTargetNames targets) (hlater : position < later)
    (hinside : scope.path ++ [later] <+: place.path) :
    IsHidden (placesIn path index nodes) name place := by
  have hnode : scope.node.kind.isName = false := by
    generalize scope.node.kind = kind at hkind
    cases kind <;> first | rfl | exact nomatch hkind
  have hmem : ⟨scope.path ++ [position], .mk .parameters span targets⟩ ∈
      placesIn path index nodes :=
    ((mem_placesIn_inside hscope).mp (part_mem_placesOf hnode hparameters)).1
  have hleft : name ∈ leaves (.mk .parameters span targets) := by
    show name ∈ allLeaves targets
    exact mem_allLeaves_of_targetNames hname
  obtain ⟨declaration, hdeclaration, hbinding, hnone⟩ :=
    (mem_leaves_iff (scope.path ++ [position]) _ name).mp hleft
  obtain ⟨hfound, hencloses⟩ := (mem_placesIn_inside hmem).mp hdeclaration
  refine ⟨declaration, hfound, hbinding, ?_, ?_⟩
  · obtain ⟨rest, hrest⟩ := hencloses
    obtain ⟨more, hmore⟩ := hinside
    have hbefore : declaration.path = scope.path ++ position :: rest := by
      rw [← hrest, List.append_assoc]
      rfl
    have hbehind : place.path = scope.path ++ later :: more := by
      rw [← hmore, List.append_assoc]
      rfl
    exact (fork hbefore hbehind hlater).1
  · intro around haround hfunction hdeclared hends
    have hinner : ¬ Place.Encloses ⟨scope.path ++ [position], .mk .parameters span targets⟩
        around := by
      intro h
      exact hnone around ((mem_placesIn_inside hmem).mpr ⟨haround, h⟩) hfunction hdeclared
    -- The function lies on the path to the declaration: it is around the parameters, it is the
    -- function that has them, or it is inside of them.
    rcases List.prefix_or_prefix_of_prefix hdeclared hencloses with h | h
    · rcases List.prefix_concat_iff.mp h with h | h
      · exact hinner (h ▸ List.prefix_refl _)
      · have hwhole : scope.path <+: place.path := (List.prefix_append _ _).trans hinside
        exact hends.2 (h.trans hwhole)
    · exact hinner h

/-- Outside of a function only declarations outside of it hide a name. -/
theorem isHidden_outside_iff {scope place : Place} (hscope : scope ∈ placesIn path index nodes)
    (hkind : isScope scope.node.kind) (houtside : ¬ scope.Encloses place) (name : String) :
    IsHidden (placesIn path index nodes) name place ↔
      ∃ declaration ∈ placesIn path index nodes, ¬ scope.Encloses declaration ∧
        declaration.node.kind = .binding name ∧
          Hides (placesIn path index nodes) declaration place := by
  constructor
  · rintro ⟨declaration, hmem, hbinding, hprecedes, hscopes⟩
    refine ⟨declaration, hmem, fun hinside => ?_, hbinding, hprecedes, hscopes⟩
    exact hscopes scope hscope hkind hinside ⟨hinside.precedes hprecedes, houtside⟩
  · rintro ⟨declaration, hmem, -, hbinding, hhides⟩
    exact ⟨declaration, hmem, hbinding, hhides⟩

end Places

/-! ### Places in the text -/

/-- The trees that a text is read as: the expression that it consists of, or else its statements. -/
def trees? (source : List Char) : Option (List Script.Node) :=
  match wholeExpression? source with
  | some expression => some [expression]
  | none => (program? source).map Node.statements

/-- The changes of a text are those in the trees that it is read as. -/
theorem changes?_eq_trees (source : List Char) :
    changes? source = (trees? source).map fun nodes => (changesIn [] nodes).1 := by
  unfold changes? trees?
  cases wholeExpression? source with
  | some expression => simp [changesIn]
  | none =>
      rw [Option.map_map]
      rfl

/-- These trees stand in the text in order. -/
theorem trees?_inOrder {source : List Char} {nodes : List Script.Node}
    (h : trees? source = some nodes) : Node.InOrder source source.length 0 nodes := by
  unfold trees? at h
  split at h
  · rename_i expression hexpression
    cases h
    exact (wholeExpression?_fits hexpression).inOrder
  · obtain ⟨program, hprogram, rfl⟩ := Option.map_eq_some_iff.mp h
    exact statements_inOrder hprogram

section Leaves

variable {path : List Nat} {index : Nat} {nodes : List Script.Node} {place other : Place}

/-- A place without parts that are visited. -/
def IsLeaf (place : Place) : Prop :=
  placesOf place.path place.node = [place]

/-- A node that uses a name has no parts that are visited. -/
theorem isLeaf_of_usedName {name : String} (h : usedName? place.node.kind = some name) :
    IsLeaf place := by
  obtain ⟨path, kind, span, parts⟩ := place
  change usedName? kind = some name at h
  cases kind with
  | identifier used => simp [IsLeaf, placesOf, Kind.isName]
  | shorthand used => simp [IsLeaf, placesOf, Kind.isName]
  | _ => cases h

/-- Nor has a node without parts. -/
theorem isLeaf_of_parts (h : place.node.parts = []) : IsLeaf place := by
  obtain ⟨path, kind, span, parts⟩ := place
  obtain rfl : parts = [] := h
  simp [IsLeaf, placesOf, placesIn]

/-- Of two different leaves the visit of one has ended when the other is visited. -/
theorem endsBefore_or_eq (hplace : place ∈ placesIn path index nodes)
    (hother : other ∈ placesIn path index nodes) (hleaf : IsLeaf place) (hleaf' : IsLeaf other) :
    place = other ∨ place.EndsBefore other ∨ other.EndsBefore place := by
  -- A leaf encloses nothing but itself.
  have hencloses : place.Encloses other → place = other := by
    intro h
    have hmem := (mem_placesIn_inside hplace).mpr ⟨hother, h⟩
    rw [hleaf, List.mem_singleton] at hmem
    exact hmem.symm
  have hencloses' : other.Encloses place → place = other := by
    intro h
    have hmem := (mem_placesIn_inside hother).mpr ⟨hplace, h⟩
    rw [hleaf', List.mem_singleton] at hmem
    exact hmem
  rcases precedes_or_eq hplace hother with heq | hbefore | hbefore
  · exact Or.inl heq
  · by_cases h : place.Encloses other
    · exact Or.inl (hencloses h)
    · exact Or.inr (Or.inl ⟨hbefore, h⟩)
  · by_cases h : other.Encloses place
    · exact Or.inl (hencloses' h)
    · exact Or.inr (Or.inr ⟨hbefore, h⟩)

/-- A change stands in the stretch of the node that is rewritten. -/
theorem rewrite_bounds (node : Script.Node) (h : node.span.stop ≤ node.span.start) :
    (rewrite node).span.start = node.span.start ∧ node.span.stop ≤ (rewrite node).span.stop := by
  unfold rewrite
  split
  · exact ⟨rfl, Nat.le_refl _⟩
  · exact ⟨rfl, h⟩

variable {source : List Char}

/-- A place where a name is used takes at least one character. -/
theorem use_nonempty {hi lo : Nat} (h : Node.InOrder source hi lo nodes)
    (hplace : place ∈ placesIn path index nodes) {name : String}
    (hname : usedName? place.node.kind = some name) :
    place.node.span.stop < place.node.span.start := by
  have hfits := span_placesIn h hplace
  obtain ⟨path, kind, span, parts⟩ := place
  obtain ⟨-, -, hspells, -⟩ := Node.fits_mk.mp hfits
  change usedName? kind = some name at hname
  cases kind with
  | identifier used => exact (hspells trivial).nonempty
  | shorthand used => exact (hspells trivial).nonempty
  | _ => cases hname

/-- No change touches a leaf that uses no name. -/
theorem rewrites_beside_leaf {hi lo : Nat} {declared : List String}
    (h : Node.InOrder source hi lo nodes)
    (hplace : place ∈ placesIn path index nodes) (hleaf : IsLeaf place)
    (hused : usedName? place.node.kind = none) {change : Change}
    (hchange : change ∈ rewrites declared (placesIn path index nodes)) :
    place.node.span.start ≤ change.span.stop ∨ change.span.start ≤ place.node.span.stop := by
  obtain ⟨other, hother, rfl⟩ := List.mem_map.mp hchange
  obtain ⟨hother, hrewritten⟩ := List.mem_filter.mp hother
  obtain ⟨name, hname, -⟩ := of_decide_eq_true hrewritten
  obtain ⟨hstart, hstop⟩ := rewrite_bounds other.node (span_placesIn h hother).stop_le_start
  rcases endsBefore_or_eq hplace hother hleaf (isLeaf_of_usedName hname) with rfl | hends | hends
  · rw [hused] at hname
    exact nomatch hname
  · have hbehind := spans_placesIn h hplace hother hends
    exact Or.inr (by omega)
  · have hbehind := spans_placesIn h hother hplace hends
    exact Or.inl (by omega)

/-- A place that uses a name has its change made if and only if the rule picks it. -/
theorem rewrite_mem_iff {hi lo : Nat} {declared : List String} (h : Node.InOrder source hi lo nodes)
    (hplace : place ∈ placesIn path index nodes) {name : String}
    (hname : usedName? place.node.kind = some name) :
    rewrite place.node ∈ rewrites declared (placesIn path index nodes) ↔
      IsRewritten declared (placesIn path index nodes) place := by
  constructor
  · intro hmem
    obtain ⟨other, hother, hsame⟩ := List.mem_map.mp hmem
    obtain ⟨hother, hrewritten⟩ := List.mem_filter.mp hother
    have hrewritten : IsRewritten declared (placesIn path index nodes) other :=
      of_decide_eq_true hrewritten
    have hrule := hrewritten
    obtain ⟨used, hused, -⟩ := hrule
    have hplaced := use_nonempty h hplace hname
    have hothered := use_nonempty h hother hused
    have hstart : other.node.span.start = place.node.span.start := by
      rw [← (rewrite_bounds other.node (Nat.le_of_lt hothered)).1, hsame,
        (rewrite_bounds place.node (Nat.le_of_lt hplaced)).1]
    rcases endsBefore_or_eq hplace hother (isLeaf_of_usedName hname) (isLeaf_of_usedName hused)
      with rfl | hends | hends
    · exact hrewritten
    -- Two leaves that follow each other do not start together, as they are not empty.
    · have hbehind := spans_placesIn h hplace hother hends
      omega
    · have hbehind := spans_placesIn h hother hplace hends
      omega
  · intro hrewritten
    exact List.mem_map.mpr ⟨place, List.mem_filter.mpr ⟨hplace, decide_eq_true hrewritten⟩, rfl⟩

end Leaves

/-- What qualifying names does to trees, place by place. The changes are those of the places where a
name is used that is neither a global nor bound by the render function, and that no declaration
hides. A parameter hides its
name in all that follows the parameters in its function, and outside of a function the declarations
in it hide nothing. In a text that is read as the trees, all these changes are made and no other, so
that a place where a name is used is changed if and only if the rule picks it, and every other leaf
(the name of a member, a property, a label or a declaration) is left as it is. -/
theorem qualified_by_place (nodes : List Script.Node) :
    let places := placesIn [] 0 nodes
    places.Pairwise Place.Precedes ∧
      (changesIn [] nodes).1 = rewrites [] places ∧
      (∀ place, IsRewritten [] places place ↔ ∃ name ∈ usedName? place.node.kind,
        ¬ isGlobal name ∧ ¬ isRenderLocal name ∧ ¬ IsHidden places name place) ∧
      (∀ scope ∈ places, isScope scope.node.kind →
        (∀ (position later : Nat) (span : Span) (targets : List Script.Node),
          scope.node.parts[position]? = some (.mk .parameters span targets) → position < later →
            ∀ name ∈ Node.allTargetNames targets, ∀ place ∈ places,
              scope.path ++ [later] <+: place.path → usedName? place.node.kind = some name →
                ¬ IsRewritten [] places place) ∧
        ∀ place ∈ places, ¬ scope.Encloses place → ∀ name,
          IsHidden places name place ↔
            ∃ declaration ∈ places, ¬ scope.Encloses declaration ∧
              declaration.node.kind = .binding name ∧ Hides places declaration place) ∧
      ∀ content : String, trees? content.toList = some nodes →
        changes? content.toList = some (rewrites [] places) ∧
          qualify content = some (String.ofList (spliced (rewrites [] places) content.toList)) ∧
          (∀ place ∈ places, ∀ name ∈ usedName? place.node.kind,
            (rewrite place.node ∈ rewrites [] places ↔
              ¬ isGlobal name ∧ ¬ isRenderLocal name ∧ ¬ IsHidden places name place)) ∧
          ∀ place ∈ places, usedName? place.node.kind = none → place.node.parts = [] →
            ∀ change ∈ rewrites [] places,
              place.node.span.start ≤ change.span.stop ∨
                change.span.start ≤ place.node.span.stop := by
  intro places
  have hrewrites : (changesIn [] nodes).1 = rewrites [] places :=
    changesIn_eq_rewrites [] [] 0 nodes
  have hrule : ∀ place, IsRewritten [] places place ↔ ∃ name ∈ usedName? place.node.kind,
      ¬ isGlobal name ∧ ¬ isRenderLocal name ∧ ¬ IsHidden places name place := by
    intro place
    simp only [IsRewritten, isContextMember_nil_iff, and_assoc]
  refine ⟨placesIn_pairwise [] 0 nodes, hrewrites, hrule, ?_, ?_⟩
  · intro scope hscope hkind
    refine ⟨?_, fun place hplace houtside => isHidden_outside_iff hscope hkind houtside⟩
    intro position later span targets hparameters hlater name hname place hplace hinside hused
    rintro ⟨used, hused', -, hvisible⟩
    obtain rfl : used = name := Option.some.inj (hused'.symm.trans hused)
    exact hvisible (isHidden_of_parameter hscope hkind hparameters hname hlater hinside)
  · intro content htrees
    have hinOrder := trees?_inOrder htrees
    -- A text is read as its trees, and its changes are those of the trees.
    have hchanges : changes? content.toList = some (rewrites [] places) := by
      rw [changes?_eq_trees, htrees, ← hrewrites]
      rfl
    refine ⟨hchanges, ?_, ?_, ?_⟩
    · rw [changes?_eq] at hchanges
      obtain ⟨uses, huses, hsame⟩ := Option.map_eq_some_iff.mp hchanges
      rw [qualify_eq_spliced, huses, ← hsame]
      rfl
    · intro place hplace name hname
      rw [rewrite_mem_iff hinOrder hplace hname, hrule]
      constructor
      · rintro ⟨used, hused, hmember⟩
        obtain rfl : used = name := Option.some.inj (hused.symm.trans hname)
        exact hmember
      · exact fun hmember => ⟨name, hname, hmember⟩
    · intro place hplace hused hparts change hchange
      exact rewrites_beside_leaf hinOrder hplace (isLeaf_of_parts hparts) hused hchange

end MiniApp.Handler
