import MiniApp.Proofs.Handler.InPlace

/-!
# Statements in a changed text

The changes of a text move its statements, and each statement takes the changes that were made in
it along. Since names have no blank space or semicolons at their ends, the text of the statement is
cut out there as it was before.

* `slice_movedSpan`: what stands in the place to which a stretch of a text is moved.
* `sameEdges_qualified`: qualifying the names of a text leaves its edges as they are.
* `textInPlace_eq`: what the changes of a text make of the text of a statement.
-/

set_option autoImplicit false

namespace MiniApp.Handler

open MiniApp.Text MiniApp.Script
open MiniApp.Script.Node (Fits InOrder fits_mk inOrder_nil inOrder_cons)

/-! ### Places behind changes -/

/-- Where the changes of a source put a place of it. What is written at the place itself stands
behind it. -/
def movedPlace (found : List Change) (source : List Char) (place : Nat) : Nat :=
  (spliced (found.filter fun change => change.span.start ≤ place)
    (source.drop (source.length - place))).length

/-- Where the changes of a source put a stretch of it. -/
def movedSpan (found : List Change) (source : List Char) (span : Span) : Span :=
  ⟨movedPlace found source span.start, movedPlace found source span.stop⟩

/-- The changes in front of a stretch, in it and behind it. -/
structure Around (span : Span) (front inside behind : List Change) : Prop where
  front : ∀ change ∈ front, span.start ≤ change.span.stop ∧ span.start < change.span.start
  inside : ∀ change ∈ inside, change.span.start ≤ span.start ∧ span.stop ≤ change.span.stop ∧
    span.stop < change.span.start
  behind : ∀ change ∈ behind, change.span.start ≤ span.stop

section Moved

variable {source : List Char} {span : Span} {front inside behind : List Change}

/-- The changes in a stretch and behind it start at its start or later. -/
theorem Around.start_le (h : Around span front inside behind) (hstop : span.stop ≤ span.start)
    {change : Change} (hchange : change ∈ inside ++ behind) : change.span.start ≤ span.start := by
  rcases List.mem_append.mp hchange with hchange | hchange
  · exact (h.inside change hchange).1
  · exact Nat.le_trans (h.behind change hchange) hstop

/-- The end of a stretch is moved by the changes behind it. -/
theorem Around.filter_stop (h : Around span front inside behind) (hstop : span.stop ≤ span.start) :
    (front ++ inside ++ behind).filter (fun change => change.span.start ≤ span.stop) = behind := by
  rw [List.filter_append, List.filter_append, List.filter_eq_nil_iff.mpr,
    List.filter_eq_nil_iff.mpr, List.filter_eq_self.mpr]
  · rfl
  · intro change hchange
    simpa using h.behind change hchange
  · intro change hchange
    have hafter := (h.inside change hchange).2.2
    simpa using hafter
  · intro change hchange
    have hbefore := (h.front change hchange).2
    simp only [decide_eq_true_eq]
    omega

/-- And its start by those in it as well. -/
theorem Around.filter_start (h : Around span front inside behind)
    (hstop : span.stop ≤ span.start) :
    (front ++ inside ++ behind).filter (fun change => change.span.start ≤ span.start) =
      inside ++ behind := by
  rw [List.append_assoc, List.filter_append, List.filter_eq_nil_iff.mpr, List.filter_eq_self.mpr]
  · rfl
  · intro change hchange
    simpa using h.start_le hstop hchange
  · intro change hchange
    have hbefore := (h.front change hchange).2
    simpa using hbefore

/-- In the place to which a stretch is moved stands what its own changes make of it. -/
theorem slice_movedSpan (hstop : span.stop ≤ span.start) (hstart : span.start ≤ source.length)
    (hseparate : Separate source.length (front ++ inside ++ behind))
    (haround : Around span front inside behind) :
    (movedSpan (front ++ inside ++ behind) source span).slice
        (spliced (front ++ inside ++ behind) source) =
      spliced (inside.map (Change.shortened span.stop)) (span.slice source) := by
  have hrest : source.drop (source.length - span.start) =
      span.slice source ++ source.drop (source.length - span.stop) :=
    List.append_cancel_left
      ((List.take_append_drop _ _).trans (Span.split_text hstop hstart))
  have hlength : (source.drop (source.length - span.start)).length = span.start :=
    length_behind hstart
  have hbehindLength : (source.drop (source.length - span.stop)).length = span.stop :=
    length_behind (Nat.le_trans hstop hstart)
  have hbehind : Separate span.stop behind := hseparate.behind haround.behind
  rw [List.append_assoc] at hseparate
  have hinside : Separate span.start (inside ++ behind) :=
    hseparate.behind fun _ hchange => haround.start_le hstop hchange
  -- Each part of the changes is made in its part of the source: first what is in front of the
  -- stretch is split off, then what is behind it.
  have hwhole : spliced (front ++ (inside ++ behind)) source =
      spliced (front.map (Change.shortened span.start))
          (source.take (source.length - span.start)) ++
        spliced (inside ++ behind) (source.drop (source.length - span.start)) := by
    have happend := @spliced_append (source.take (source.length - span.start))
      (source.drop (source.length - span.start)) front (inside ++ behind)
    rw [hlength, List.take_append_drop] at happend
    exact happend hseparate.front (fun change hchange => (haround.front change hchange).1) hinside
  have hparts : spliced (inside ++ behind) (source.drop (source.length - span.start)) =
      spliced (inside.map (Change.shortened span.stop)) (span.slice source) ++
        spliced behind (source.drop (source.length - span.stop)) := by
    have happend := @spliced_append (span.slice source) (source.drop (source.length - span.stop))
      inside behind
    rw [hbehindLength, ← hrest, hlength] at happend
    exact happend hinside.front (fun change hchange => (haround.inside change hchange).2.1) hbehind
  unfold movedSpan movedPlace
  rw [haround.filter_stop hstop, haround.filter_start hstop, List.append_assoc, hwhole, hparts,
    Span.slice]
  simp only [List.length_append, Nat.add_sub_cancel_right]
  rw [List.drop_left, List.take_left]

end Moved

/-! ### The text of a statement -/

/-- The text of a statement behind changes of the source: what is cut out in the place to which the
statement is moved. -/
def textInPlace (found : List Change) (source : List Char) (statement : Script.Node) : List Char :=
  cut ((movedSpan found source statement.span).slice (spliced found source))

/-- Where the text of a statement ends. -/
def textStop (source : List Char) (statement : Script.Node) : Nat :=
  statement.span.start - ((statement.span.slice source).takeWhile isBlank).length -
    (statementText source statement).length

/-- Names are spelled in what stays of a text when it is cut out. -/
theorem Spells.kept {front text tail : List Char} {name : String} {span : Span}
    (h : span.Spells (front ++ text ++ tail) name)
    (hstart : span.start ≤ (front ++ text ++ tail).length) (hfront : ∀ c ∈ front, isBlank c)
    (htail : ∀ c ∈ tail, isBlank c ∨ c = ';') :
    span.start ≤ (text ++ tail).length ∧ tail.length ≤ span.stop := by
  have hless := h.nonempty
  have hlength := hstart
  simp only [List.length_append] at hlength
  constructor
  · -- Otherwise the first character of the name would be blank.
    by_contra hbefore
    obtain ⟨c, hc, hedge⟩ := Spells.letter h hstart h.nonempty (Nat.le_refl _)
    simp only [List.length_append] at hbefore hc
    rw [List.append_assoc, List.getElem?_append_left (by omega)] at hc
    have hsolid : isBlank c = false := congrArg Prod.fst hedge
    exact absurd (hfront c (List.mem_of_getElem? hc)) (by simp [hsolid])
  · -- Otherwise its last character would be blank or a semicolon.
    by_contra hbehind
    obtain ⟨c, hc, hedge⟩ := @Spells.letter _ _ _ h hstart (span.stop + 1)
      (Nat.lt_succ_self _) hless
    simp only [List.length_append] at hc
    rw [List.getElem?_append_right (by simp only [List.length_append]; omega)] at hc
    rcases htail c (List.mem_of_getElem? hc) with hblank | rfl
    · have hsolid : isBlank c = false := congrArg Prod.fst hedge
      exact absurd hblank (by simp [hsolid])
    · exact absurd (congrArg Prod.snd hedge) (by decide)

/-- Where uses stand and how they are spelled. -/
theorem uses_spelled {source : List Char} {hi lo : Nat} {uses : List Use}
    (h : InOrder source hi lo (uses.map Use.leaf)) {use : Use} (huse : use ∈ uses) :
    use.span.Spells source use.name ∧ use.span.start ≤ hi ∧ lo ≤ use.span.stop := by
  induction uses generalizing hi with
  | nil => exact nomatch huse
  | cons first rest ih =>
      obtain ⟨hfirst, hrest⟩ := inOrder_cons.mp h
      rcases List.mem_cons.mp huse with rfl | huse
      · obtain ⟨hstart, hstop, hspells, -⟩ := fits_mk.mp hfirst
        have hname : use.leaf.kind.usedName = use.name := by
          obtain ⟨name, span, isShorthand, before, visible⟩ := use
          cases isShorthand <;> rfl
        exact ⟨hname ▸ hspells use.leaf_isUse, hstart, hstop⟩
      · obtain ⟨hspells, hstart, hstop⟩ := ih hrest huse
        have hless : first.span.stop ≤ first.span.start := hfirst.stop_le_start
        have hle : first.span.start ≤ hi := hfirst.start_le
        replace hstart : use.span.start ≤ first.span.stop := hstart
        exact ⟨hspells, by omega, hstop⟩

/-- A change takes the place of its use or stands in front of it. -/
theorem Use.stop_le_change {text : List Char} {use : Use} (h : use.span.Spells text use.name) :
    use.span.stop ≤ use.change.span.stop := by
  have hless := h.nonempty
  unfold Use.change
  split
  · exact Nat.le_refl _
  · exact Nat.le_of_lt hless

/-- The changes of uses stand where the uses do. -/
theorem changesOf_bounds {source : List Char} {hi lo : Nat} {uses : List Use}
    (h : InOrder source hi lo (uses.map Use.leaf)) {change : Change}
    (hchange : change ∈ changesOf uses) :
    change.span.start ≤ hi ∧ lo ≤ change.span.stop ∧ lo < change.span.start := by
  obtain ⟨use, huse, rfl⟩ := List.mem_map.mp hchange
  obtain ⟨hspells, hstart, hstop⟩ := uses_spelled h (List.mem_of_mem_filter huse)
  have hless := hspells.nonempty
  have hchangeStart := use.change_start
  have hchangeStop := use.stop_le_change hspells
  omega

/-- Qualifying the names of a text leaves its edges as they are. -/
theorem sameEdges_qualified {source : List Char} {uses : List Use}
    (huses : uses? source = some uses) :
    SameEdges (spliced (changesOf uses) source) source := by
  have hinOrder := uses?_inOrder huses
  apply sameEdges_spliced (changesOf_separate hinOrder)
  intro change hchange
  obtain ⟨use, huse, rfl⟩ := List.mem_map.mp hchange
  obtain ⟨hspells, hstart, -⟩ := uses_spelled hinOrder (List.mem_of_mem_filter huse)
  exact Use.change_writesWords hspells hstart

/-- Uses in a text from which blank space and semicolons are cut off are changed in what stays. -/
theorem spliced_kept {front text tail : List Char} {uses : List Use}
    (hseparate : Separate (front ++ text ++ tail).length (changesOf uses))
    (hspells : ∀ use ∈ uses, use.span.Spells (front ++ text ++ tail) use.name ∧
      use.span.start ≤ (front ++ text ++ tail).length)
    (hfront : ∀ c ∈ front, isBlank c) (htail : ∀ c ∈ tail, isBlank c ∨ c = ';') :
    spliced (changesOf uses) (front ++ text ++ tail) =
        front ++ spliced ((changesOf uses).map (Change.shortened tail.length)) text ++ tail ∧
      SameEdges (spliced ((changesOf uses).map (Change.shortened tail.length)) text) text := by
  have hkept : ∀ use ∈ uses, use.span.start ≤ (text ++ tail).length ∧
      tail.length ≤ use.span.stop :=
    fun use huse => Spells.kept (hspells use huse).1 (hspells use huse).2 hfront htail
  have hinside : ∀ change ∈ changesOf uses, change.span.start ≤ (text ++ tail).length ∧
      tail.length ≤ change.span.stop := by
    intro change hchange
    obtain ⟨use, huse, rfl⟩ := List.mem_map.mp hchange
    have hmem := List.mem_of_mem_filter huse
    obtain ⟨hstart, hstop⟩ := hkept use hmem
    exact ⟨use.change_start ▸ hstart, Nat.le_trans hstop (use.stop_le_change (hspells use hmem).1)⟩
  have hbehind : Separate (text ++ tail).length (changesOf uses) :=
    @Separate.behind _ _ [] _ hseparate fun change hchange => (hinside change hchange).1
  have htext : Separate text.length ((changesOf uses).map (Change.shortened tail.length)) := by
    have hshort := hbehind.shortened fun change hchange => (hinside change hchange).2
    rwa [List.length_append, Nat.add_sub_cancel_right] at hshort
  constructor
  · have happend := @spliced_append text tail (changesOf uses) [] hbehind
      (fun change hchange => (hinside change hchange).2) trivial
    rw [List.append_nil] at happend
    rw [List.append_assoc, spliced_front hbehind, happend, spliced]
    simp only [List.append_assoc]
  · refine sameEdges_spliced htext fun short hshort => ?_
    obtain ⟨change, hchange, rfl⟩ := List.mem_map.mp hshort
    obtain ⟨use, huse, rfl⟩ := List.mem_map.mp hchange
    have hmem := List.mem_of_mem_filter huse
    obtain ⟨hstart, hstop⟩ := hkept use hmem
    -- What stays is the stretch of the text between the two parts that are cut off.
    have hslice : (Span.mk (text ++ tail).length tail.length).slice
      (front ++ text ++ tail) = text := by
      have hdrop : (front ++ text ++ tail).length - (text ++ tail).length = front.length := by
        simp only [List.length_append]
        omega
      rw [Span.slice, hdrop, List.append_assoc, List.drop_left, List.length_append,
        Nat.add_sub_cancel_right, List.take_left]
    have houter : (text ++ tail).length ≤ (front ++ text ++ tail).length := by
      simp only [List.length_append]
      omega
    have hinner := @Spells.inside _ _ _ (Span.mk (text ++ tail).length tail.length)
      (hspells use hmem).1 houter hstart hstop
    rw [hslice] at hinner
    rw [← use.change_shortened tail.length]
    refine Use.change_writesWords hinner ?_
    show use.span.start - tail.length ≤ text.length
    rw [List.length_append] at hstart
    omega

/-- The changes of a statement are made in its text, which keeps its edges. -/
theorem textInPlace_eq {source : List Char} {statement : Script.Node} {uses : List Use}
    {front behind : List Change} (hfits : statement.Fits source source.length 0)
    (huses : InOrder source statement.span.start statement.span.stop (uses.map Use.leaf))
    (hseparate : Separate source.length (front ++ changesOf uses ++ behind))
    (haround : Around statement.span front (changesOf uses) behind) :
    textInPlace (front ++ changesOf uses ++ behind) source statement =
        spliced ((changesOf uses).map (Change.shortened (textStop source statement)))
          (statementText source statement) ∧
      SameEdges (textInPlace (front ++ changesOf uses ++ behind) source statement)
        (statementText source statement) := by
  obtain ⟨tail, hsplit, htail, hcut⟩ := cut_split (statement.span.slice source)
  have hslice := slice_movedSpan hfits.stop_le_start hfits.start_le hseparate haround
  have hlength := Span.length_slice hfits.start_le
  have hstop : textStop source statement = statement.span.stop + tail.length := by
    have hcount := congrArg List.length hsplit
    have hle := hfits.stop_le_start
    simp only [List.length_append, hlength] at hcount
    unfold textStop
    rw [statementText_eq]
    omega
  -- The uses of the statement as they are seen in its stretch of the source.
  have hchanges := changesOf_shortened statement.span.stop uses
  have hinner : Separate (statement.span.slice source).length
      (changesOf (uses.map (Use.shortened statement.span.stop))) := by
    rw [hlength, hchanges]
    refine Separate.shortened (changesOf_separate huses) fun change hchange => ?_
    exact (changesOf_bounds huses hchange).2.1
  have hspells : ∀ use ∈ uses.map (Use.shortened statement.span.stop),
      use.span.Spells (statement.span.slice source) use.name ∧
        use.span.start ≤ (statement.span.slice source).length := by
    intro short hshort
    obtain ⟨use, huse, rfl⟩ := List.mem_map.mp hshort
    obtain ⟨hspells, hstart, hend⟩ := uses_spelled huses huse
    refine ⟨Spells.inside hspells hfits.start_le hstart hend, ?_⟩
    rw [hlength]
    exact Nat.sub_le_sub_right hstart _
  rw [hsplit] at hinner hspells
  obtain ⟨hspliced, hedges⟩ := spliced_kept hinner hspells
    (fun c hc => List.all_eq_true.mp List.all_takeWhile c hc) htail
  have hshort : (changesOf (uses.map (Use.shortened statement.span.stop))).map
      (Change.shortened tail.length) =
        (changesOf uses).map (Change.shortened (textStop source statement)) := by
    rw [hchanges, hstop, List.map_map]
    refine List.map_congr_left fun change _ => ?_
    exact change.shortened_shortened _ _
  rw [hshort] at hspliced hedges
  have htext : textInPlace (front ++ changesOf uses ++ behind) source statement =
      spliced ((changesOf uses).map (Change.shortened (textStop source statement)))
        (statementText source statement) := by
    rw [textInPlace, hslice, ← hchanges, hsplit, hspliced]
    exact hcut _ hedges.symm
  exact ⟨htext, htext ▸ hedges⟩

end MiniApp.Handler
