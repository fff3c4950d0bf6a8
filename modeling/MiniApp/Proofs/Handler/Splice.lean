import MiniApp.Handler.Qualify
import MiniApp.Proofs.Handler.Uses

/-!
# Changes in their places

The changes of a text are made as edits, one after the other and from the end of the text.
`spliced` writes a text anew from its front, with each change in its place. Since positions count
from the end, what stands behind a change is a text of its own, with the remaining changes in it.

* `makeEdits_eq_spliced`: changes that stand in a text in order are all made, in their places.
* `qualify_eq_spliced`: so are those that qualify the names of a handler.
-/

set_option autoImplicit false

namespace MiniApp.Handler

open MiniApp.Text MiniApp.Script
open MiniApp.Script.Node (Fits InOrder fits_mk inOrder_nil inOrder_cons)

/-- The text with the replacement of each change in the place of its stretch. -/
def spliced : List Change → List Char → List Char
  | [], text => text
  | change :: rest, text =>
    text.take (text.length - change.span.start) ++ change.replacement ++
      spliced rest (text.drop (text.length - change.span.stop))

/-- The changes stand in a text of the given length, one behind the other, and no two of them
start in the same place. -/
def Separate (length : Nat) : List Change → Prop
  | [] => True
  | change :: rest =>
    change.span.stop ≤ change.span.start ∧ change.span.start ≤ length ∧
      (∀ other ∈ rest, other.span.start < change.span.start) ∧ Separate change.span.stop rest

/-! ### The order of edits -/

/-- An edit that starts before all others is made after them. -/
theorem insertByStart_eq {edit : Edit} {edits : List Edit}
    (h : ∀ other ∈ edits, edit.start < other.start) :
      insertByStart edit edits = edits ++ [edit] := by
  induction edits with
  | nil => rfl
  | cons first rest ih =>
      have hfirst : ¬ first.start ≤ edit.start := Nat.not_le.mpr (h first List.mem_cons_self)
      have hrest := ih fun other hother => h other (List.mem_cons_of_mem first hother)
      simp [insertByStart, hfirst, hrest]

/-- Edits that start one behind the other are made from the last one to the first. -/
theorem sortFromEnd_eq {edits : List Edit}
    (h : edits.Pairwise fun edit other => edit.start < other.start) :
    sortFromEnd edits = edits.reverse := by
  induction edits with
  | nil => rfl
  | cons edit rest ih =>
      obtain ⟨hedit, hrest⟩ := List.pairwise_cons.mp h
      show insertByStart edit (sortFromEnd rest) = (edit :: rest).reverse
      rw [ih hrest, List.reverse_cons]
      exact insertByStart_eq fun other hother => hedit other (List.mem_reverse.mp hother)

/-- Changes that stand in a text stand in a longer one. -/
theorem Separate.mono {length longer : Nat} {changes : List Change} (h : Separate length changes)
    (hle : length ≤ longer) : Separate longer changes := by
  cases changes with
  | nil => trivial
  | cons change rest =>
      obtain ⟨hstop, hstart, hrest⟩ := h
      exact ⟨hstop, Nat.le_trans hstart hle, hrest⟩

/-- Every change starts in the text. -/
theorem Separate.le {length : Nat} {changes : List Change} (h : Separate length changes)
    {change : Change} (hchange : change ∈ changes) : change.span.start ≤ length := by
  cases changes with
  | nil => exact nomatch hchange
  | cons first rest =>
      obtain ⟨-, hle, hbehind, -⟩ := h
      rcases List.mem_cons.mp hchange with rfl | hchange
      · exact hle
      · exact Nat.le_trans (Nat.le_of_lt (hbehind change hchange)) hle

/-- No change stops before it starts. -/
theorem Separate.stop_le_start {length : Nat} {changes : List Change} (h : Separate length changes)
    {change : Change} (hchange : change ∈ changes) : change.span.stop ≤ change.span.start := by
  induction changes generalizing length with
  | nil => exact nomatch hchange
  | cons first rest ih =>
      obtain ⟨hstop, -, -, hrest⟩ := h
      rcases List.mem_cons.mp hchange with rfl | hchange
      · exact hstop
      · exact ih hrest hchange

/-- The first ones of separate changes are separate. -/
theorem Separate.front {length : Nat} {changes more : List Change}
    (h : Separate length (changes ++ more)) : Separate length changes := by
  induction changes generalizing length with
  | nil => trivial
  | cons change rest ih =>
      obtain ⟨hstop, hstart, hbehind, hrest⟩ := h
      exact ⟨hstop, hstart, fun other hother => hbehind other (List.mem_append_left more hother),
        ih hrest⟩

/-- The last changes stand in every end of the text in which all of them start. -/
theorem Separate.behind {length shorter : Nat} {changes more : List Change}
    (h : Separate length (changes ++ more))
    (hstart : ∀ change ∈ more, change.span.start ≤ shorter) :
    Separate shorter more := by
  induction changes generalizing length with
  | nil =>
      cases more with
      | nil => trivial
      | cons change rest =>
          obtain ⟨hstop, -, hrest⟩ := h
          exact ⟨hstop, hstart change List.mem_cons_self, hrest⟩
  | cons change rest ih => exact ih h.2.2.2

/-- So are any of them that are kept in their order. -/
theorem Separate.sublist {length : Nat} {changes kept : List Change} (h : Separate length changes)
    (hkept : kept.Sublist changes) : Separate length kept := by
  induction hkept generalizing length with
  | slnil => trivial
  | cons change hsub ih =>
      obtain ⟨hstop, hstart, -, hrest⟩ := h
      exact (ih hrest).mono (Nat.le_trans hstop hstart)
  | cons_cons change hsub ih =>
      obtain ⟨hstop, hstart, hbehind, hrest⟩ := h
      exact ⟨hstop, hstart, fun other hother => hbehind other (hsub.subset hother), ih hrest⟩

/-- As edits of a text they start one behind the other. -/
theorem Separate.pairwise {length total : Nat} {changes : List Change} (h : Separate length changes)
    (htotal : length ≤ total) :
    (changes.map (Change.toEdit total)).Pairwise fun edit other => edit.start < other.start := by
  induction changes generalizing length with
  | nil => exact List.Pairwise.nil
  | cons change rest ih =>
      obtain ⟨hstop, hle, hbehind, hrest⟩ := h
      refine List.Pairwise.cons ?_ (ih hrest (by omega))
      intro edit hedit
      obtain ⟨other, hother, rfl⟩ := List.mem_map.mp hedit
      have hless := hbehind other hother
      show total - change.span.start < total - other.span.start
      omega

/-! ### Making the edits -/

/-- A change that stands in the second part of a text is made there. -/
theorem make_append {front text behind : List Char} {change : Change} {total : Nat}
    (htotal : total = front.length + text.length) (hstop : change.span.stop ≤ change.span.start)
    (hstart : change.span.start ≤ text.length) :
    Edit.make (front ++ text.take (text.length - change.span.stop) ++ behind)
      (change.toEdit total) =
      front ++ (text.take (text.length - change.span.start) ++ change.replacement ++ behind) := by
  obtain ⟨⟨start, stop⟩, replacement⟩ := change
  dsimp only at hstop hstart
  have hfront : total - start = front.length + (text.length - start) := by omega
  have hkept : total - stop = (front ++ text.take (text.length - stop)).length := by
    simp only [List.length_append, List.length_take]
    omega
  -- The range of the edit lies in the text, so that it is made and not left out.
  have hinside : total - start ≤ total - stop ∧
      total - stop ≤ (front ++ text.take (text.length - stop) ++ behind).length := by
    rw [List.length_append, ← hkept]
    omega
  -- In front of the edit and behind it, the text is kept as it is.
  have htake : (front ++ text.take (text.length - stop) ++ behind).take (total - start) =
      front ++ text.take (text.length - start) := by
    have hmin : min (text.length - start) (text.length - stop) = text.length - start := by omega
    have hshort : text.length - start - (text.take (text.length - stop)).length = 0 := by
      simp only [List.length_take]
      omega
    rw [hfront, List.append_assoc, List.take_length_add_append, List.take_append, List.take_take,
      hmin, hshort, List.take_zero, List.append_nil]
  have hdrop : (front ++ text.take (text.length - stop) ++ behind).drop
    (total - stop) = behind := by
    rw [hkept]
    exact List.drop_left
  dsimp only
  refine (if_pos hinside).trans ?_
  show List.take (total - start) _ ++ replacement ++ List.drop (total - stop) _ = _
  rw [htake, hdrop]
  simp only [List.append_assoc]

/-- Making the edits of the second part of a text, from the last one to the first, writes this part
anew and leaves the first part alone. -/
theorem foldr_make_eq {front text : List Char} {changes : List Change} {total : Nat}
    (htotal : total = front.length + text.length) (h : Separate text.length changes) :
    changes.foldr (fun change text => Edit.make text (change.toEdit total)) (front ++ text) =
      front ++ spliced changes text := by
  induction changes generalizing front text with
  | nil => rfl
  | cons change rest ih =>
      obtain ⟨hstop, hstart, -, hrest⟩ := h
      -- The later changes are made in what stands behind this one.
      have hbehind : (text.drop (text.length - change.span.stop)).length = change.span.stop :=
        length_behind (Nat.le_trans hstop hstart)
      have hfront : total = (front ++ text.take (text.length - change.span.stop)).length +
          (text.drop (text.length - change.span.stop)).length := by
        rw [List.length_append, List.length_take, List.length_drop]
        omega
      have hmade := ih hfront (hbehind.symm ▸ hrest)
      rw [List.append_assoc, List.take_append_drop] at hmade
      rw [List.foldr_cons, hmade]
      exact make_append htotal hstop hstart

/-- Changes that stand in a text in order are all made, each in its place. -/
theorem makeEdits_eq_spliced {text : List Char} {changes : List Change}
    (h : Separate text.length changes) :
    makeEdits text (changes.map (Change.toEdit text.length)) = spliced changes text := by
  unfold makeEdits
  rw [sortFromEnd_eq (h.pairwise (Nat.le_refl _)), List.foldl_reverse, List.foldr_map]
  have htotal : text.length = ([] : List Char).length + text.length := (Nat.zero_add _).symm
  exact foldr_make_eq htotal h

/-! ### The changes of a handler -/

/-- A change takes the place of the use, or stands in front of it. -/
theorem Use.change_stop {source : List Char} {hi lo : Nat} {use : Use}
    (h : use.leaf.Fits source hi lo) :
    use.span.stop ≤ use.change.span.stop ∧ use.change.span.stop ≤ use.change.span.start := by
  have hle : use.span.stop ≤ use.span.start := h.stop_le_start
  unfold Use.change
  split
  · exact ⟨Nat.le_refl _, hle⟩
  · exact ⟨hle, Nat.le_refl _⟩

/-- Uses that stand in a text in order are changed one behind the other. -/
theorem changesOf_separate {source : List Char} {hi lo : Nat} {uses : List Use}
    (h : InOrder source hi lo (uses.map Use.leaf)) :
    Separate hi (changesOf uses) := by
  induction uses generalizing hi with
  | nil => trivial
  | cons use rest ih =>
      obtain ⟨huse, hrest⟩ := inOrder_cons.mp h
      have hnonempty : use.span.stop < use.span.start :=
        ((fits_mk.mp huse).2.2.1 use.leaf_isUse).nonempty
      have hstart : use.span.start ≤ hi := huse.start_le
      have hbehind : Separate use.span.stop (changesOf rest) := ih hrest
      -- A use that is no member of the context changes nothing, and the bound is only lowered.
      by_cases hmember : isContextMember use.before use.name
      · have hchanges : changesOf (use :: rest) = use.change :: changesOf rest := by
          simp [changesOf, hmember]
        obtain ⟨hstop, hspan⟩ := use.change_stop huse
        rw [hchanges]
        refine ⟨hspan, ?_, ?_, hbehind.mono hstop⟩
        · rw [use.change_start]
          exact hstart
        · intro other hother
          have hother := hbehind.le hother
          rw [use.change_start]
          omega
      · have hchanges : changesOf (use :: rest) = changesOf rest := by
          simp [changesOf, hmember]
        rw [hchanges]
        exact hbehind.mono (by omega)

/-- The changes of a text are those of its uses. -/
theorem changes?_eq (source : List Char) : changes? source = (uses? source).map changesOf := by
  unfold changes? uses?
  cases wholeExpression? source with
  | some expression =>
      show some (changes [] expression).1 = some (changesOf (usesOf [] [] expression))
      rw [changes_eq [] [] expression]
  | none =>
      rw [Option.map_map]
      show Option.map (fun program => (changesIn [] program.statements).1) (program? source) = _
      refine congrArg (Option.map · (program? source)) (funext fun program => ?_)
      rw [changesIn_eq [] (Node.bodyNames program.statements) program.statements]
      rfl

/-- Qualifying the names of a handler makes all the changes of its uses, each in its place. -/
theorem qualify_eq_spliced (content : String) :
    qualify content =
      (uses? content.toList).map fun uses =>
        String.ofList (spliced (changesOf uses) content.toList) := by
  unfold qualify
  dsimp only
  rw [changes?_eq, Option.map_map]
  cases huses : uses? content.toList with
  | none => rfl
  | some uses =>
      have hseparate := changesOf_separate (uses?_inOrder huses)
      show some (String.ofList (makeEdits _ _)) = some (String.ofList _)
      rw [makeEdits_eq_spliced hseparate]

end MiniApp.Handler
