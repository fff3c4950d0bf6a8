import MiniApp.Proofs.Script.Extent

/-!
# Places in a tree

A `Place` is a node together with the path that leads to it from the top: which part is taken at
each step down. Trees are visited from the front to the end and every node before its parts, which
is the lexicographic order of the paths; a node encloses those whose paths begin with its own.

* `placesIn_pairwise`: the places of trees come in the order in which they are visited.
* `mem_placesIn_inside`: the places of a node inside the trees are those that it encloses.
* `spans_placesIn`: what is visited after the visit of a node has ended stands behind it in the
  text.

Names have no parts, and a visit does not look for any.
-/

set_option autoImplicit false

namespace MiniApp.Script

/-- A node with the path that leads to it. -/
structure Place where
  path : List Nat
  node : Node

/-- Whether the node is a name of a variable, which is read or declared. -/
def Kind.isName : Kind → Bool
  | .identifier _ | .shorthand _ | .binding _ => true
  | _ => false

mutual

/-- The places in a tree that stands at the end of a path. -/
def placesOf (path : List Nat) : Node → List Place
  | .mk kind span parts =>
    ⟨path, .mk kind span parts⟩ :: if kind.isName then [] else placesIn path 0 parts

/-- The places in parts of the tree at the end of a path, the first of which has the index. -/
def placesIn (path : List Nat) (index : Nat) : List Node → List Place
  | [] => []
  | node :: rest => placesOf (path ++ [index]) node ++ placesIn path (index + 1) rest

end

/-- A path comes before every longer one that begins with it. -/
theorem lt_append_cons (path : List Nat) (step : Nat) (rest : List Nat) :
    path < path ++ step :: rest := by
  have hbehind : path ++ [] < path ++ step :: rest :=
    List.append_left_lt (List.nil_lt_cons step rest)
  rwa [List.append_nil] at hbehind

namespace Place

/-- The one place is visited before the other. -/
def Precedes (place other : Place) : Prop :=
  place.path < other.path

/-- The other place is the one itself or stands in its parts. -/
def Encloses (place other : Place) : Prop :=
  place.path <+: other.path

/-- The visit of the one place has ended when the other is visited. -/
def EndsBefore (place other : Place) : Prop :=
  place.Precedes other ∧ ¬ place.Encloses other

instance (place other : Place) : Decidable (place.Precedes other) :=
  inferInstanceAs (Decidable (place.path < other.path))

instance (place other : Place) : Decidable (place.Encloses other) :=
  inferInstanceAs (Decidable (place.path <+: other.path))

instance (place other : Place) : Decidable (place.EndsBefore other) :=
  inferInstanceAs (Decidable (_ ∧ _))

/-! ### Order -/

/-- No place is visited before itself. -/
theorem Precedes.irrefl (place : Place) : ¬ place.Precedes place :=
  List.lt_irrefl place.path

/-- The order of the visit is transitive. -/
theorem Precedes.trans {first second third : Place} (h : first.Precedes second)
    (h' : second.Precedes third) : first.Precedes third :=
  List.lt_trans h h'

/-- A place that is enclosed is visited later, or it is the place itself. -/
theorem Encloses.precedes_or_eq {place other : Place} (h : place.Encloses other) :
    place.Precedes other ∨ place.path = other.path := by
  obtain ⟨rest, hrest⟩ := h
  cases rest with
  | nil => exact Or.inr (by rw [← hrest, List.append_nil])
  | cons index rest =>
      refine Or.inl ?_
      show place.path < other.path
      rw [← hrest]
      exact lt_append_cons place.path index rest

/-- What encloses a place is visited before all that comes behind it. -/
theorem Encloses.precedes {place inner other : Place} (h : place.Encloses inner)
    (h' : inner.Precedes other) : place.Precedes other := by
  rcases h.precedes_or_eq with hbefore | heq
  · exact hbefore.trans h'
  · show place.path < other.path
    rw [heq]
    exact h'

end Place

/-! ### Paths of places -/

mutual

/-- The places of a tree lie at the end of its path. -/
theorem path_placesOf {path : List Nat} {node : Node} {place : Place}
    (h : place ∈ placesOf path node) : path <+: place.path := by
  obtain ⟨kind, span, parts⟩ := node
  rw [placesOf, List.mem_cons] at h
  rcases h with rfl | h
  · exact List.prefix_refl path
  · split at h
    · exact nomatch h
    · obtain ⟨index, rest, -, hpath⟩ := path_placesIn h
      rw [hpath]
      exact List.prefix_append path _

/-- The places of parts lie at the end of the path, through one of the parts. -/
theorem path_placesIn {path : List Nat} {index : Nat} {nodes : List Node} {place : Place}
    (h : place ∈ placesIn path index nodes) :
    ∃ step rest, index ≤ step ∧ place.path = path ++ step :: rest := by
  cases nodes with
  | nil => exact nomatch h
  | cons node rest =>
      rw [placesIn, List.mem_append] at h
      rcases h with h | h
      · obtain ⟨more, hmore⟩ := path_placesOf h
        exact ⟨index, more, Nat.le_refl index, by rw [← hmore]; simp⟩
      · obtain ⟨step, more, hstep, hpath⟩ := path_placesIn h
        exact ⟨step, more, by omega, hpath⟩

end

/-- Where a path forks, all that follows is told apart: neither place encloses the other, and the
one with the smaller step is visited first. -/
theorem fork {path rest more : List Nat} {step later : Nat} {place other : Place}
    (hplace : place.path = path ++ step :: rest) (hother : other.path = path ++ later :: more)
    (hlt : step < later) :
    place.Precedes other ∧ ¬ place.Encloses other ∧ ¬ other.Encloses place := by
  refine ⟨?_, ?_, ?_⟩
  · show place.path < other.path
    rw [hplace, hother]
    exact List.append_left_lt (List.cons_lt_cons_iff.mpr (Or.inl hlt))
  · show ¬ place.path <+: other.path
    rw [hplace, hother, List.prefix_append_right_inj, List.cons_prefix_cons]
    omega
  · show ¬ other.path <+: place.path
    rw [hplace, hother, List.prefix_append_right_inj, List.cons_prefix_cons]
    omega

/-- A place in one part and a place in the parts behind it are told apart. -/
theorem apart {path : List Nat} {index : Nat} {node : Node} {rest : List Node} {place other : Place}
    (hplace : place ∈ placesOf (path ++ [index]) node)
    (hother : other ∈ placesIn path (index + 1) rest) :
    place.Precedes other ∧ ¬ place.Encloses other ∧ ¬ other.Encloses place := by
  obtain ⟨more, hmore⟩ := path_placesOf hplace
  obtain ⟨later, behind, hlater, hpath⟩ := path_placesIn hother
  have hpath' : place.path = path ++ index :: more := by
    rw [← hmore]
    simp
  exact fork hpath' hpath (by omega)

/-! ### The order of a visit -/

mutual

/-- The places of a tree are listed in the order of the visit. -/
theorem placesOf_pairwise (path : List Nat) (node : Node) :
    (placesOf path node).Pairwise Place.Precedes := by
  obtain ⟨kind, span, parts⟩ := node
  rw [placesOf, List.pairwise_cons]
  split
  · exact ⟨nofun, List.Pairwise.nil⟩
  -- The node comes first, since the paths of its parts go on from its own.
  · refine ⟨fun place hplace => ?_, placesIn_pairwise path 0 parts⟩
    obtain ⟨step, rest, -, hpath⟩ := path_placesIn hplace
    show path < place.path
    rw [hpath]
    exact lt_append_cons path step rest

/-- The places of trees come in the order of their visit. -/
theorem placesIn_pairwise (path : List Nat) (index : Nat) (nodes : List Node) :
    (placesIn path index nodes).Pairwise Place.Precedes := by
  cases nodes with
  | nil => exact List.Pairwise.nil
  | cons node rest =>
      rw [placesIn, List.pairwise_append]
      -- Two places of different parts are where their paths fork.
      refine ⟨placesOf_pairwise _ node, placesIn_pairwise path (index + 1) rest, ?_⟩
      intro place hplace other hother
      exact (apart hplace hother).1

end

/-- Of two places one is visited before the other, unless they are the same. -/
theorem precedes_or_eq {path : List Nat} {index : Nat} {nodes : List Node} {place other : Place}
    (hplace : place ∈ placesIn path index nodes) (hother : other ∈ placesIn path index nodes) :
    place = other ∨ place.Precedes other ∨ other.Precedes place := by
  have hpairwise := List.pairwise_iff_getElem.mp (placesIn_pairwise path index nodes)
  obtain ⟨m, hm, rfl⟩ := List.getElem_of_mem hplace
  obtain ⟨n, hn, rfl⟩ := List.getElem_of_mem hother
  rcases Nat.lt_trichotomy m n with hlt | rfl | hlt
  · exact Or.inr (Or.inl (hpairwise m n hm hn hlt))
  · exact Or.inl rfl
  · exact Or.inr (Or.inr (hpairwise n m hn hm hlt))

/-! ### Places inside a place -/

/-- The tree itself is one of its places. -/
theorem self_mem_placesOf (path : List Nat) (node : Node) : ⟨path, node⟩ ∈ placesOf path node := by
  obtain ⟨kind, span, parts⟩ := node
  rw [placesOf]
  exact List.mem_cons_self

mutual

/-- The places of a node inside a tree are those of the tree that it encloses. -/
theorem mem_placesOf_inside {path : List Nat} {node : Node} {place other : Place}
    (hplace : place ∈ placesOf path node) :
    other ∈ placesOf place.path place.node ↔
      other ∈ placesOf path node ∧ place.Encloses other := by
  obtain ⟨kind, span, parts⟩ := node
  rw [placesOf, List.mem_cons] at hplace
  rcases hplace with rfl | hplace
  · exact ⟨fun h => ⟨h, path_placesOf h⟩, fun h => h.1⟩
  · split at hplace
    · exact nomatch hplace
    · rename_i hname
      rw [mem_placesIn_inside hplace, placesOf, if_neg hname, List.mem_cons]
      -- The node itself is not inside one of its parts.
      have hself : ¬ place.Encloses ⟨path, .mk kind span parts⟩ := by
        obtain ⟨step, rest, -, hpath⟩ := path_placesIn hplace
        intro h
        have hle : place.path.length ≤ path.length := h.length_le
        rw [hpath, List.length_append, List.length_cons] at hle
        omega
      constructor
      · exact fun h => ⟨Or.inr h.1, h.2⟩
      · rintro ⟨rfl | h, hencloses⟩
        · exact absurd hencloses hself
        · exact ⟨h, hencloses⟩

/-- The places of a node inside the trees are those of the trees that it encloses. -/
theorem mem_placesIn_inside {path : List Nat} {index : Nat} {nodes : List Node}
    {place other : Place} (hplace : place ∈ placesIn path index nodes) :
    other ∈ placesOf place.path place.node ↔
      other ∈ placesIn path index nodes ∧ place.Encloses other := by
  cases nodes with
  | nil => exact nomatch hplace
  | cons node rest =>
      rw [placesIn, List.mem_append] at hplace ⊢
      rcases hplace with hplace | hplace
      -- What the place encloses is in the same part.
      · rw [mem_placesOf_inside hplace]
        refine and_congr_left fun hencloses => ⟨Or.inl, ?_⟩
        rintro (h | h)
        · exact h
        · exact absurd hencloses (apart hplace h).2.1
      · rw [mem_placesIn_inside hplace]
        refine and_congr_left fun hencloses => ⟨Or.inr, ?_⟩
        rintro (h | h)
        · exact absurd hencloses (apart h hplace).2.2
        · exact h

end

/-- A part of a node has its place behind that of the node. -/
theorem part_mem_placesOf {path : List Nat} {node part : Node} {index : Nat}
    (hname : node.kind.isName = false) (hpart : node.parts[index]? = some part) :
    ⟨path ++ [index], part⟩ ∈ placesOf path node := by
  -- The parts are taken from the front and the index is counted up, so both are general here.
  have hfrom : ∀ (nodes : List Node) (first step : Nat), nodes[step]? = some part →
      ⟨path ++ [first + step], part⟩ ∈ placesIn path first nodes := by
    intro nodes
    induction nodes with
    | nil => exact fun _ _ h => nomatch h
    | cons node rest ih =>
        intro first step h
        rw [placesIn, List.mem_append]
        cases step with
        | zero =>
            obtain rfl : node = part := by simpa using h
            exact Or.inl (self_mem_placesOf _ node)
        | succ step =>
            refine Or.inr ?_
            rw [show first + (step + 1) = first + 1 + step by omega]
            exact ih (first + 1) step (by simpa using h)
  obtain ⟨kind, span, parts⟩ := node
  rw [placesOf, if_neg (by simpa [Node.kind] using hname), List.mem_cons]
  have hmem := hfrom parts 0 index hpart
  rw [Nat.zero_add] at hmem
  exact Or.inr hmem

/-! ### Where places stand in the text -/

section Extent

variable {source : List Char}

open Node (Fits InOrder fits_mk inOrder_cons)

mutual

/-- A place of a tree stands inside the stretch of the tree. -/
theorem span_placesOf {hi lo : Nat} {path : List Nat} {node : Node} (h : node.Fits source hi lo)
    {place : Place} (hplace : place ∈ placesOf path node) :
    place.node.Fits source node.span.start node.span.stop := by
  obtain ⟨kind, span, parts⟩ := node
  obtain ⟨hstart, hstop, huse, hparts⟩ := fits_mk.mp h
  rw [placesOf, List.mem_cons] at hplace
  rcases hplace with rfl | hplace
  · exact h.self
  · split at hplace
    · exact nomatch hplace
    · exact span_placesIn hparts hplace

/-- The places in trees that follow each other stand where the trees do. -/
theorem span_placesIn {hi lo : Nat} {path : List Nat} {index : Nat} {nodes : List Node}
    (h : InOrder source hi lo nodes) {place : Place} (hplace : place ∈ placesIn path index nodes) :
    place.node.Fits source hi lo := by
  cases nodes with
  | nil => exact nomatch hplace
  | cons node rest =>
      obtain ⟨hnode, hrest⟩ := inOrder_cons.mp h
      rw [placesIn, List.mem_append] at hplace
      rcases hplace with hplace | hplace
      · exact (span_placesOf hnode hplace).mono hnode.start_le hnode.le_stop
      · refine (span_placesIn hrest hplace).mono ?_ (Nat.le_refl lo)
        exact Nat.le_trans hnode.stop_le_start hnode.start_le

end

mutual

/-- In the text, a place stands behind another one if the visit of that has ended before. -/
theorem spans_placesOf {hi lo : Nat} {path : List Nat} {node : Node} (h : node.Fits source hi lo)
    {place other : Place} (hplace : place ∈ placesOf path node)
    (hother : other ∈ placesOf path node) (hends : place.EndsBefore other) :
    other.node.span.start ≤ place.node.span.stop := by
  obtain ⟨hprecedes, houtside⟩ := hends
  -- The node itself encloses every place, and no place is visited before it.
  have hfirst : ∀ place ∈ placesOf path node, ¬ place.Precedes ⟨path, node⟩ := by
    intro place hplace hbefore
    have hself : Place.Encloses ⟨path, node⟩ place := path_placesOf hplace
    exact Place.Precedes.irrefl _ (hself.precedes hbefore)
  have hself := hfirst place hplace
  obtain ⟨kind, span, parts⟩ := node
  obtain ⟨hstart, hstop, huse, hparts⟩ := fits_mk.mp h
  have houter := path_placesOf hother
  rw [placesOf, List.mem_cons] at hplace hother
  rcases hplace with rfl | hplace
  · exact absurd houter houtside
  rcases hother with rfl | hother
  · exact absurd hprecedes hself
  split at hplace
  · exact nomatch hplace
  · rename_i hname
    rw [if_neg hname] at hother
    exact spans_placesIn hparts hplace hother ⟨hprecedes, houtside⟩

/-- What is visited after a visit has ended stands behind that place in the text. -/
theorem spans_placesIn {hi lo : Nat} {path : List Nat} {index : Nat} {nodes : List Node}
    (h : InOrder source hi lo nodes) {place other : Place}
    (hplace : place ∈ placesIn path index nodes) (hother : other ∈ placesIn path index nodes)
    (hends : place.EndsBefore other) : other.node.span.start ≤ place.node.span.stop := by
  cases nodes with
  | nil => exact nomatch hplace
  | cons node rest =>
      obtain ⟨hnode, hrest⟩ := inOrder_cons.mp h
      rw [placesIn, List.mem_append] at hplace hother
      rcases hplace with hplace | hplace
      · rcases hother with hother | hother
        · exact spans_placesOf hnode hplace hother hends
        -- Parts that come later stand further behind.
        · exact Nat.le_trans (span_placesIn hrest hother).start_le
            (span_placesOf hnode hplace).le_stop
      · rcases hother with hother | hother
        · -- The other place stands in a part before.
          have hbefore := (apart hother hplace).1
          exact absurd (hbefore.trans hends.1) (Place.Precedes.irrefl other)
        · exact spans_placesIn hrest hplace hother hends

end

end Extent

end MiniApp.Script
