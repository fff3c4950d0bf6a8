import MiniApp.Script.Grammar.Assignable
import MiniApp.Proofs.Script.Tokens

/-!
# Trees that stand in their text in order

A tree is read from a text from the front to the end, and every part of it stands inside the whole,
behind the parts before it. `Node.Fits` says so of a tree and a stretch of the text, and
`Node.InOrder` of trees that follow each other; a name that is used is spelled in its place.
Since positions count from the end of the text, the upper bound of a stretch is where it starts.

* `InOrder.append`: trees that follow each other in two stretches do so in both together.
* `Fits.toTarget?`: what an expression spells as a target stands inside the expression.
-/

set_option autoImplicit false

namespace MiniApp.Script

/-- The characters of the source inside the extent spell a word with the name. -/
structure Span.Spells (source : List Char) (name : String) (span : Span) : Prop where
  nonempty : span.stop < span.start
  letters : ∀ c ∈ span.slice source, IsSpelling c
  isName : IsName name.toList

/-- The characters of the source inside the extent write the mark. -/
def Span.Writes (source : List Char) (mark : Mark) (span : Span) : Prop :=
  ∃ spelling, (spelling, mark) ∈ Mark.spellings ∧ span.start = span.stop + spelling.length ∧
    span.slice source = spelling

/-- What is written in a source before the rest of it stands between the places of the two. -/
theorem Span.slice_written {source raw rest : List Char} (h : raw ++ rest <:+ source) :
    (Span.mk (raw ++ rest).length rest.length).slice source = raw := by
  obtain ⟨front, rfl⟩ := h
  have hdrop : (front ++ (raw ++ rest)).length - (raw ++ rest).length = front.length := by
    simp
  have htake : (raw ++ rest).length - rest.length = raw.length := by
    simp
  rw [Span.slice, hdrop, htake, List.drop_left, List.take_left]

/-- Behind a place stands as much of a text as the place counts from its end. -/
theorem length_behind {text : List Char} {place : Nat} (h : place ≤ text.length) :
    (text.drop (text.length - place)).length = place := by
  rw [List.length_drop, Nat.sub_sub_self h]

/-- An extent in the source holds as many characters as it says. -/
theorem Span.length_slice {span : Span} {source : List Char} (h : span.start ≤ source.length) :
    (span.slice source).length = span.start - span.stop := by
  rw [Span.slice, List.length_take, List.length_drop]
  omega

/-- A text is what stands in front of a stretch, in it and behind it. -/
theorem Span.split_text {span : Span} {text : List Char} (hstop : span.stop ≤ span.start)
    (hstart : span.start ≤ text.length) :
    text = text.take (text.length - span.start) ++
      (span.slice text ++ text.drop (text.length - span.stop)) := by
  have hbehind : text.length - span.stop =
      (text.length - span.start) + (span.start - span.stop) := by omega
  rw [Span.slice, hbehind, ← List.drop_drop, List.take_append_drop, List.take_append_drop]

/-- What stands in front of a source does not change the stretches of it. -/
theorem Span.slice_of_suffix {text longer : List Char} {span : Span} (h : text <:+ longer)
    (hstart : span.start ≤ text.length) : span.slice longer = span.slice text := by
  obtain ⟨front, rfl⟩ := h
  unfold Span.slice
  have hdrop : (front ++ text).length - span.start = front.length + (text.length - span.start) := by
    rw [List.length_append]
    omega
  rw [hdrop, List.drop_length_add_append]

/-- An extent that spells a word in a source does so in a longer one with this end. -/
theorem Span.Spells.longer {text longer : List Char} {name : String} {span : Span}
    (h : span.Spells text name) (hlonger : text <:+ longer) (hstart : span.start ≤ text.length) :
    span.Spells longer name :=
  ⟨h.nonempty, Span.slice_of_suffix hlonger hstart ▸ h.letters, h.isName⟩

/-- A name that refers to a variable. -/
def Kind.IsUse : Kind → Prop
  | .identifier _ | .shorthand _ => True
  | _ => False

/-- The name of a kind that refers to a variable. -/
def Kind.usedName : Kind → String
  | .identifier name | .shorthand name => name
  | _ => ""

namespace Node

mutual

/-- The tree stands between two places of the source, and so do its parts, one behind the other. -/
def Fits (source : List Char) (hi lo : Nat) : Node → Prop
  | mk kind span parts =>
    span.start ≤ hi ∧ lo ≤ span.stop ∧ (kind.IsUse → span.Spells source kind.usedName) ∧
      InOrder source span.start span.stop parts

/-- The trees stand between two places of the source, one behind the other. -/
def InOrder (source : List Char) (hi lo : Nat) : List Node → Prop
  | [] => lo ≤ hi
  | node :: rest => Fits source hi lo node ∧ InOrder source node.span.stop lo rest

end

variable {source : List Char}

/-- Where a tree stands, in terms of its kind, its extent and its parts. -/
theorem fits_mk {hi lo : Nat} {kind : Kind} {span : Span} {parts : List Node} :
    (mk kind span parts).Fits source hi lo ↔ span.start ≤ hi ∧ lo ≤ span.stop ∧
      (kind.IsUse → span.Spells source kind.usedName) ∧
        InOrder source span.start span.stop parts := by
  rw [Fits]

/-- No trees stand between two places that do not come in the wrong order. -/
@[simp] theorem inOrder_nil {hi lo : Nat} : InOrder source hi lo [] ↔ lo ≤ hi := by
  rw [InOrder]

/-- Trees stand one behind the other if the first does and the rest stand behind it. -/
@[simp] theorem inOrder_cons {hi lo : Nat} {node : Node} {rest : List Node} :
    InOrder source hi lo (node :: rest) ↔
      node.Fits source hi lo ∧ InOrder source node.span.stop lo rest := by
  rw [InOrder]

/-! ### Bounds -/

/-- A tree does not start before the place in front of it. -/
theorem Fits.start_le {hi lo : Nat} {node : Node} (h : node.Fits source hi lo) :
    node.span.start ≤ hi := by
  obtain ⟨kind, span, parts⟩ := node
  exact (fits_mk.mp h).1

/-- It does not go beyond the place behind it. -/
theorem Fits.le_stop {hi lo : Nat} {node : Node} (h : node.Fits source hi lo) :
    lo ≤ node.span.stop := by
  obtain ⟨kind, span, parts⟩ := node
  exact (fits_mk.mp h).2.1

/-- A tree that stands between two places stands between two that are further apart. -/
theorem Fits.mono {hi lo hi' lo' : Nat} {node : Node} (h : node.Fits source hi lo) (hhi : hi ≤ hi')
    (hlo : lo' ≤ lo) : node.Fits source hi' lo' := by
  obtain ⟨kind, span, parts⟩ := node
  obtain ⟨hstart, hstop, hrest⟩ := fits_mk.mp h
  exact fits_mk.mpr ⟨Nat.le_trans hstart hhi, Nat.le_trans hlo hstop, hrest⟩

/-- The place behind trees does not come before the place in front of them. -/
theorem InOrder.le {hi lo : Nat} : {nodes : List Node} → InOrder source hi lo nodes → lo ≤ hi
  | [], h => inOrder_nil.mp h
  | mk _ _ _ :: _, h => by
    obtain ⟨hstart, hstop, -, hparts⟩ := fits_mk.mp (inOrder_cons.mp h).1
    exact Nat.le_trans hstop (Nat.le_trans (InOrder.le hparts) hstart)

/-- A tree does not stop before it starts. -/
theorem Fits.stop_le_start {hi lo : Nat} {node : Node} (h : node.Fits source hi lo) :
    node.span.stop ≤ node.span.start := by
  obtain ⟨kind, span, parts⟩ := node
  exact (fits_mk.mp h).2.2.2.le

/-- Without its place among others a tree stands where its extent says. -/
theorem Fits.self {hi lo : Nat} {node : Node} (h : node.Fits source hi lo) :
    node.Fits source node.span.start node.span.stop := by
  obtain ⟨kind, span, parts⟩ := node
  obtain ⟨-, -, hrest⟩ := fits_mk.mp h
  exact fits_mk.mpr ⟨Nat.le_refl _, Nat.le_refl _, hrest⟩

/-- So do trees one behind the other. -/
theorem InOrder.mono {hi lo hi' lo' : Nat} {nodes : List Node} (h : InOrder source hi lo nodes)
    (hhi : hi ≤ hi') (hlo : lo' ≤ lo) : InOrder source hi' lo' nodes := by
  induction nodes generalizing hi hi' with
  | nil => exact inOrder_nil.mpr (Nat.le_trans hlo (Nat.le_trans (inOrder_nil.mp h) hhi))
  | cons node rest ih =>
      obtain ⟨hnode, hrest⟩ := inOrder_cons.mp h
      exact inOrder_cons.mpr ⟨hnode.mono hhi hlo, ih hrest (Nat.le_refl _)⟩

/-- A single tree stands in order. -/
theorem Fits.inOrder {hi lo : Nat} {node : Node} (h : node.Fits source hi lo) :
    InOrder source hi lo [node] :=
  inOrder_cons.mpr ⟨h, inOrder_nil.mpr h.le_stop⟩

/-- Without the whole around them the parts stand in the same stretch. -/
theorem Fits.parts {hi lo : Nat} {node : Node} (h : node.Fits source hi lo) :
    InOrder source hi lo node.parts := by
  obtain ⟨kind, span, parts⟩ := node
  obtain ⟨hstart, hstop, -, hparts⟩ := fits_mk.mp h
  exact hparts.mono hstart hstop

/-- Trees in one stretch of a text and trees in the next one follow each other. -/
theorem InOrder.append {hi mid lo : Nat} {nodes more : List Node} (h : InOrder source hi mid nodes)
    (h' : InOrder source mid lo more) : InOrder source hi lo (nodes ++ more) := by
  induction nodes generalizing hi with
  | nil => exact h'.mono (inOrder_nil.mp h) (Nat.le_refl _)
  | cons node rest ih =>
      obtain ⟨hnode, hrest⟩ := inOrder_cons.mp h
      exact inOrder_cons.mpr ⟨hnode.mono (Nat.le_refl _) h'.le, ih hrest⟩

/-- A row of trees can be split where one of them ends. -/
theorem InOrder.split {hi lo : Nat} {nodes more : List Node}
    (h : InOrder source hi lo (nodes ++ more)) :
    ∃ mid, InOrder source hi mid nodes ∧ InOrder source mid lo more := by
  induction nodes generalizing hi with
  | nil => exact ⟨hi, inOrder_nil.mpr (Nat.le_refl _), h⟩
  | cons node rest ih =>
      obtain ⟨hnode, hrest⟩ := inOrder_cons.mp h
      obtain ⟨mid, hfront, hmore⟩ := ih hrest
      exact ⟨mid, inOrder_cons.mpr ⟨hnode.self.mono hnode.start_le hfront.le, hfront⟩, hmore⟩

/-- Trees can be taken out of a row without disturbing the order of the others. -/
theorem InOrder.sublist {hi lo : Nat} {nodes kept : List Node} (h : InOrder source hi lo nodes)
    (hkept : kept.Sublist nodes) : InOrder source hi lo kept := by
  induction hkept generalizing hi with
  | slnil => exact h
  | cons node hsub ih =>
      obtain ⟨hnode, hrest⟩ := inOrder_cons.mp h
      exact ih (hrest.mono (Nat.le_trans hnode.stop_le_start hnode.start_le) (Nat.le_refl _))
  | cons_cons node hsub ih =>
      obtain ⟨hnode, hrest⟩ := inOrder_cons.mp h
      exact inOrder_cons.mpr ⟨hnode, ih hrest⟩

/-- Each tree of a row stands where the row does. -/
theorem InOrder.fits {hi lo : Nat} {node : Node} {nodes : List Node}
    (h : InOrder source hi lo nodes) (hnode : node ∈ nodes) : node.Fits source hi lo :=
  (inOrder_cons.mp (h.sublist (List.singleton_sublist.mpr hnode))).1

/-- No tree of a row starts before those in front of it stop. -/
theorem InOrder.pairwise {hi lo : Nat} {nodes : List Node} (h : InOrder source hi lo nodes) :
    nodes.Pairwise fun node later => later.span.start ≤ node.span.stop := by
  induction nodes generalizing hi with
  | nil => exact List.Pairwise.nil
  | cons node rest ih =>
      obtain ⟨-, hrest⟩ := inOrder_cons.mp h
      exact List.Pairwise.cons (fun later hlater => (hrest.fits hlater).start_le) (ih hrest)

/-- A tree that takes the place of another one may be smaller. -/
theorem InOrder.cons_inside {hi lo : Nat} {node inner : Node} {rest : List Node}
    (hnode : node.Fits source hi lo) (hinner : inner.Fits source node.span.start node.span.stop)
    (hrest : InOrder source node.span.stop lo rest) : InOrder source hi lo (inner :: rest) :=
  inOrder_cons.mpr ⟨hinner.mono hnode.start_le hnode.le_stop,
    hrest.mono hinner.le_stop (Nat.le_refl _)⟩

/-- Another kind that is no use of a name changes nothing of where a tree stands. -/
theorem Fits.withKind {hi lo : Nat} {kind other : Kind} {span : Span} {parts : List Node}
    (h : (mk kind span parts).Fits source hi lo) (hother : ¬ other.IsUse) :
    (mk other span parts).Fits source hi lo := by
  obtain ⟨hstart, hstop, -, hparts⟩ := fits_mk.mp h
  exact fits_mk.mpr ⟨hstart, hstop, fun huse => absurd huse hother, hparts⟩

/-! ### Longer sources -/

mutual

/-- A tree that stands in a source stands in a longer one with this end. -/
theorem Fits.longer {text longer : List Char} {hi lo : Nat} {node : Node} (h : node.Fits text hi lo)
    (hlonger : text <:+ longer) (hhi : hi ≤ text.length) : node.Fits longer hi lo := by
  obtain ⟨kind, span, parts⟩ := node
  obtain ⟨hstart, hstop, huse, hparts⟩ := fits_mk.mp h
  have hle : span.start ≤ text.length := Nat.le_trans hstart hhi
  exact fits_mk.mpr ⟨hstart, hstop, fun hkind => (huse hkind).longer hlonger hle,
    InOrder.longer hparts hlonger hle⟩

/-- So do trees one behind the other. -/
theorem InOrder.longer {text longer : List Char} {hi lo : Nat} {nodes : List Node}
    (h : InOrder text hi lo nodes) (hlonger : text <:+ longer) (hhi : hi ≤ text.length) :
    InOrder longer hi lo nodes := by
  cases nodes with
  | nil => exact inOrder_nil.mpr (inOrder_nil.mp h)
  | cons node rest =>
      obtain ⟨hnode, hrest⟩ := inOrder_cons.mp h
      have hle : node.span.stop ≤ text.length :=
        Nat.le_trans hnode.stop_le_start (Nat.le_trans hnode.start_le hhi)
      exact inOrder_cons.mpr ⟨hnode.longer hlonger hhi, InOrder.longer hrest hlonger hle⟩

end

/-! ### Targets -/

/-- The name or member that an expression spells stands inside the expression. -/
theorem Fits.toSimpleTarget? {hi lo : Nat} {node target : Node} (h : node.Fits source hi lo)
    (htarget : node.toSimpleTarget? = some target) : target.Fits source hi lo := by
  fun_induction Node.toSimpleTarget? node generalizing hi lo with
  | case1 name span parts => exact Option.some.inj htarget ▸ h
  | case2 span parts => exact Option.some.inj htarget ▸ h
  | case3 span parts => exact Option.some.inj htarget ▸ h
  | case4 span inner ih =>
      obtain ⟨hstart, hstop, -, hparts⟩ := fits_mk.mp h
      exact ih ((inOrder_cons.mp hparts).1.mono hstart hstop) htarget
  | case5 node => exact nomatch htarget

mutual

/-- The target that an expression spells stands inside the expression. -/
theorem Fits.asTarget? {hi lo : Nat} {allowsDefault : Bool} {node target : Node}
    (h : node.Fits source hi lo) (htarget : node.asTarget? allowsDefault = some target) :
    target.Fits source hi lo := by
  unfold Node.asTarget? at htarget
  split at htarget
  · obtain ⟨targets, htargets, rfl⟩ := Option.map_eq_some_iff.mp htarget
    obtain ⟨hstart, hstop, -, hparts⟩ := fits_mk.mp h
    exact fits_mk.mpr ⟨hstart, hstop, False.elim, hparts.asElements? htargets⟩
  · obtain ⟨targets, htargets, rfl⟩ := Option.map_eq_some_iff.mp htarget
    obtain ⟨hstart, hstop, -, hparts⟩ := fits_mk.mp h
    exact fits_mk.mpr ⟨hstart, hstop, False.elim, hparts.asProperties? htargets⟩
  · split at htarget
    · exact Option.some.inj htarget ▸ h.withKind False.elim
    · exact nomatch htarget
  · exact h.toSimpleTarget? htarget

/-- So do the elements of a pattern that those of an array literal spell. -/
theorem InOrder.asElements? {hi lo : Nat} {endsInComma : Bool} {nodes targets : List Node}
    (h : InOrder source hi lo nodes)
    (htargets : Node.asElements? endsInComma nodes = some targets) :
    InOrder source hi lo targets := by
  unfold Node.asElements? at htargets
  split at htargets
  · exact Option.some.inj htargets ▸ h
  · split at htargets
    · obtain ⟨target, htarget, rfl⟩ := Option.map_eq_some_iff.mp htargets
      obtain ⟨hspread, hrest⟩ := inOrder_cons.mp h
      obtain ⟨hstart, hstop, -, hparts⟩ := fits_mk.mp hspread
      have hinner := ((inOrder_cons.mp hparts).1.asTarget? htarget).inOrder
      exact Fits.inOrder (fits_mk.mpr ⟨hstart, hstop, False.elim, hinner⟩)
    · exact nomatch htargets
  · obtain ⟨hnode, hrest⟩ := inOrder_cons.mp h
    obtain ⟨more, hmore, rfl⟩ := Option.map_eq_some_iff.mp htargets
    exact inOrder_cons.mpr ⟨hnode, hrest.asElements? hmore⟩
  · obtain ⟨hnode, hrest⟩ := inOrder_cons.mp h
    obtain ⟨target, htarget, htargets⟩ := Option.bind_eq_some_iff.mp htargets
    obtain ⟨more, hmore, rfl⟩ := Option.map_eq_some_iff.mp htargets
    exact InOrder.cons_inside hnode (hnode.self.asTarget? htarget) (hrest.asElements? hmore)

/-- So do the properties of a pattern that those of an object literal spell. -/
theorem InOrder.asProperties? {hi lo : Nat} {endsInComma : Bool} {nodes targets : List Node}
    (h : InOrder source hi lo nodes)
    (htargets : Node.asProperties? endsInComma nodes = some targets) :
    InOrder source hi lo targets := by
  unfold Node.asProperties? at htargets
  -- By the first property: none is left, a rest, a shorthand, one with a default, one with a key,
  -- or one that is no target.
  split at htargets
  · exact Option.some.inj htargets ▸ h
  · split at htargets
    · obtain ⟨target, htarget, rfl⟩ := Option.map_eq_some_iff.mp htargets
      obtain ⟨hspread, hrest⟩ := inOrder_cons.mp h
      obtain ⟨hstart, hstop, -, hparts⟩ := fits_mk.mp hspread
      have hinner := ((inOrder_cons.mp hparts).1.toSimpleTarget? htarget).inOrder
      exact Fits.inOrder (fits_mk.mpr ⟨hstart, hstop, False.elim, hinner⟩)
    · exact nomatch htargets
  · obtain ⟨hnode, hrest⟩ := inOrder_cons.mp h
    obtain ⟨more, hmore, rfl⟩ := Option.map_eq_some_iff.mp htargets
    exact inOrder_cons.mpr ⟨hnode, hrest.asProperties? hmore⟩
  · obtain ⟨hnode, hrest⟩ := inOrder_cons.mp h
    obtain ⟨more, hmore, rfl⟩ := Option.map_eq_some_iff.mp htargets
    exact inOrder_cons.mpr ⟨hnode.withKind False.elim, hrest.asProperties? hmore⟩
  · obtain ⟨hnode, hrest⟩ := inOrder_cons.mp h
    obtain ⟨target, htarget, htargets⟩ := Option.bind_eq_some_iff.mp htargets
    obtain ⟨more, hmore, rfl⟩ := Option.map_eq_some_iff.mp htargets
    obtain ⟨hstart, hstop, -, hparts⟩ := fits_mk.mp hnode
    obtain ⟨hkey, hvalue⟩ := inOrder_cons.mp hparts
    have hparts' := inOrder_cons.mpr ⟨hkey, ((inOrder_cons.mp hvalue).1.asTarget? htarget).inOrder⟩
    exact inOrder_cons.mpr
      ⟨fits_mk.mpr ⟨hstart, hstop, False.elim, hparts'⟩, hrest.asProperties? hmore⟩
  · exact nomatch htargets

end

/-- The target that an expression spells stands inside the expression. -/
theorem Fits.toTarget? {hi lo : Nat} {node target : Node} (h : node.Fits source hi lo)
    (htarget : node.toTarget? = some target) : target.Fits source hi lo :=
  h.asTarget? htarget

/-- Statements that become directives stay where they are. -/
theorem InOrder.markDirectives {hi lo : Nat} {nodes : List Node} (h : InOrder source hi lo nodes) :
    InOrder source hi lo (Script.markDirectives nodes) := by
  induction nodes generalizing hi with
  | nil => exact h
  | cons node rest ih =>
      unfold Script.markDirectives
      split
      · obtain ⟨hnode, hrest⟩ := inOrder_cons.mp h
        obtain ⟨kind, span, parts⟩ := node
        exact inOrder_cons.mpr ⟨hnode.withKind False.elim, ih hrest⟩
      · exact h

end Node

end MiniApp.Script
