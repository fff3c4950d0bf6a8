import MiniApp.Proofs.Handler.Splice
import MiniApp.Proofs.Handler.Trimming

/-!
# Changes in a part of a text

What the changes of a text make of a part of it: the changes of the parts are made in each part by
itself (`spliced_append`), and a part keeps its edges, so that it is cut out of the changed text as
it is cut out of the text itself (`sameEdges_spliced`). The number of points tells how many changes
have been made (`count_spliced`).
-/

set_option autoImplicit false

namespace MiniApp.Handler

open MiniApp.Text MiniApp.Script
open MiniApp.Script.Node (Fits InOrder fits_mk inOrder_nil inOrder_cons)

/-! ### Parts -/

/-- The extent as seen in the text without so many characters at its end. -/
def shortened (count : Nat) (span : Span) : Span :=
  ⟨span.start - count, span.stop - count⟩

/-- The change as seen in the text without so many characters at its end. -/
def Change.shortened (count : Nat) (change : Change) : Change :=
  { change with span := Handler.shortened count change.span }

/-- The use as seen in the text without so many characters at its end. -/
def Use.shortened (count : Nat) (use : Use) : Use :=
  { use with span := Handler.shortened count use.span }

/-- A use that is seen in a shorter text has the change that is seen there. -/
theorem Use.change_shortened (count : Nat) (use : Use) :
    (use.shortened count).change = use.change.shortened count := by
  obtain ⟨name, span, isShorthand, before, visible⟩ := use
  cases isShorthand <;> rfl

/-- So have several uses, of which the same ones are changed. -/
theorem changesOf_shortened (count : Nat) (uses : List Use) :
    changesOf (uses.map (Use.shortened count)) =
      (changesOf uses).map (Change.shortened count) := by
  unfold changesOf
  rw [List.filter_map, List.map_map, List.map_map]
  exact List.map_congr_left fun use _ => use.change_shortened count

/-- Characters that are taken off the end twice can be taken off at once. -/
theorem Change.shortened_shortened (count more : Nat) (change : Change) :
    (change.shortened count).shortened more = change.shortened (count + more) := by
  obtain ⟨⟨start, stop⟩, replacement⟩ := change
  simp only [Change.shortened, Handler.shortened, Nat.sub_sub]

/-- Changes that stand in the first part of a text are separate in it. -/
theorem Separate.shortened {length count : Nat} {changes : List Change}
    (h : Separate length changes)
    (hinside : ∀ change ∈ changes, count ≤ change.span.stop) :
    Separate (length - count) (changes.map (Change.shortened count)) := by
  induction changes generalizing length with
  | nil => trivial
  | cons change rest ih =>
      obtain ⟨hstop, hstart, hbehind, hrest⟩ := h
      have hle := hinside change List.mem_cons_self
      have hrestInside : ∀ other ∈ rest, count ≤ other.span.stop :=
        fun other hother => hinside other (List.mem_cons_of_mem change hother)
      refine ⟨Nat.sub_le_sub_right hstop count, Nat.sub_le_sub_right hstart count, ?_,
        ih hrest hrestInside⟩
      intro moved hmoved
      obtain ⟨other, hother, rfl⟩ := List.mem_map.mp hmoved
      have hless := hbehind other hother
      have hother := Nat.le_trans (hrestInside other hother) (hrest.stop_le_start hother)
      show other.span.start - count < change.span.start - count
      omega

/-- Changes in the second part of a text leave the first part alone. -/
theorem spliced_front {front text : List Char} {changes : List Change}
    (h : Separate text.length changes) :
    spliced changes (front ++ text) = front ++ spliced changes text := by
  cases changes with
  | nil => rfl
  | cons change rest =>
      obtain ⟨hstop, hstart, -, -⟩ := h
      have hfront : (front ++ text).length - change.span.start =
          front.length + (text.length - change.span.start) := by
        rw [List.length_append]
        omega
      have hbehind : (front ++ text).length - change.span.stop =
          front.length + (text.length - change.span.stop) := by
        rw [List.length_append]
        omega
      rw [spliced, spliced, hfront, hbehind, List.take_length_add_append,
        List.drop_length_add_append]
      simp only [List.append_assoc]

/-- Changes that stand in two parts of a text are made in each part by itself. -/
theorem spliced_append {front text : List Char} {changes more : List Change}
    (hfront : Separate (front ++ text).length changes)
    (hinside : ∀ change ∈ changes, text.length ≤ change.span.stop)
    (hmore : Separate text.length more) :
    spliced (changes ++ more) (front ++ text) =
      spliced (changes.map (Change.shortened text.length)) front ++ spliced more text := by
  induction changes generalizing front with
  | nil => exact spliced_front hmore
  | cons change rest ih =>
      obtain ⟨hstop, hstart, -, hrest⟩ := hfront
      have hle := hinside change List.mem_cons_self
      rw [List.length_append] at hstart
      -- What stands behind the change is the rest of the first part and the second part.
      have hdrop : (front ++ text).drop ((front ++ text).length - change.span.stop) =
          front.drop (front.length - (change.span.stop - text.length)) ++ text := by
        have hcount : (front ++ text).length - change.span.stop =
            front.length - (change.span.stop - text.length) := by
          rw [List.length_append]
          omega
        rw [hcount, List.drop_append_of_le_length (by omega)]
      have htake : (front ++ text).take ((front ++ text).length - change.span.start) =
          front.take (front.length - (change.span.start - text.length)) := by
        have hcount : (front ++ text).length - change.span.start =
            front.length - (change.span.start - text.length) := by
          rw [List.length_append]
          omega
        rw [hcount, List.take_append_of_le_length (by omega)]
      have hlength : (front.drop (front.length - (change.span.stop - text.length)) ++ text).length =
          change.span.stop := by
        rw [List.length_append, List.length_drop]
        omega
      have hbehind := ih (hlength.symm ▸ hrest) fun other hother =>
        hinside other (List.mem_cons_of_mem change hother)
      rw [List.cons_append, spliced, htake, hdrop, hbehind, List.map_cons, spliced]
      simp only [List.append_assoc]
      rfl

/-! ### Edges -/

/-- A character that goes on with a name is neither blank nor a semicolon nor a point. -/
theorem edge_of_continuesName {c : Char} (h : continuesName c) :
    edge c = (false, false) ∧ c ≠ '.' := by
  -- Blank characters are few, so each of them is checked not to go on with a name.
  have hcodes : ∀ n ∈ [9, 10, 11, 12, 13, 0x20, 0x85, 0xA0, 0x1680, 0x2000, 0x2001, 0x2002, 0x2003,
      0x2004, 0x2005, 0x2006, 0x2007, 0x2008, 0x2009, 0x200A, 0x2028, 0x2029, 0x202F, 0x205F,
      0x3000], ¬ continuesName (Char.ofNat n) := by
    decide +kernel
  have hblank : isBlank c = false := by
    by_contra hblank
    have hblank : isBlank c = true := by simpa using hblank
    refine hcodes c.toNat ?_ (by rwa [Char.ofNat_toNat])
    simp only [isBlank, Bool.or_eq_true, Bool.and_eq_true, decide_eq_true_eq, beq_iff_eq] at hblank
    simp only [List.mem_cons, List.not_mem_nil, or_false]
    omega
  have hsemicolon : c ≠ ';' := by
    rintro rfl
    exact absurd h (by decide +kernel)
  have hpoint : c ≠ '.' := by
    rintro rfl
    exact absurd h (by decide +kernel)
  refine ⟨?_, hpoint⟩
  rw [edge, hblank, beq_eq_false_iff_ne.mpr hsemicolon]

/-- A character of a word is neither blank nor a semicolon, nor is it a point. -/
theorem edge_of_isSpelling {c : Char} (h : IsSpelling c) : edge c = (false, false) ∧ c ≠ '.' := by
  rcases h with h | rfl | rfl | rfl
  · exact edge_of_continuesName h
  · exact ⟨by decide, by decide⟩
  · exact ⟨by decide, by decide⟩
  · exact ⟨by decide, by decide⟩

/-- A change that puts the characters of a word in the place of others, or in front of them. -/
structure Change.WritesWords (text : List Char) (change : Change) : Prop where
  /-- What is written has no edges that would be cut off. -/
  first : change.replacement.head?.map edge = some (false, false)
  last : change.replacement.getLast?.map edge = some (false, false)
  /-- And neither has what was written there before. -/
  before : (text.drop (text.length - change.span.start)).head?.map edge = some (false, false)
  behind : change.span.stop = 0 → text.getLast?.map edge = some (false, false)

/-- Of two texts one behind the other, the first one has the first character. -/
theorem head_append {front behind : List Char} (h : (front.head?.map edge).isSome) :
    (front ++ behind).head?.map edge = front.head?.map edge := by
  cases front with
  | nil => exact nomatch h
  | cons c rest => rfl

/-- Of two texts one behind the other, the second one has the last character. -/
theorem last_append {front behind : List Char} (h : (behind.getLast?.map edge).isSome) :
    (front ++ behind).getLast?.map edge = behind.getLast?.map edge := by
  rw [List.getLast?_append]
  cases hbehind : behind.getLast? with
  | none => exact absurd h (by simp [hbehind])
  | some c => rfl

/-- Words in the place of others leave the edges of a text as they are. -/
theorem sameEdges_spliced {text : List Char} {changes : List Change}
    (h : Separate text.length changes) (hword : ∀ change ∈ changes, change.WritesWords text) :
    SameEdges (spliced changes text) text := by
  induction changes generalizing text with
  | nil => exact ⟨rfl, rfl⟩
  | cons change rest ih =>
      obtain ⟨hstop, hstart, hbehind, hrest⟩ := h
      obtain ⟨hfirst, hlast, hbefore, hend⟩ := hword change List.mem_cons_self
      have hlength : (text.drop (text.length - change.span.stop)).length = change.span.stop :=
        length_behind (Nat.le_trans hstop hstart)
      have hsplit : text = text.take (text.length - change.span.stop) ++
          text.drop (text.length - change.span.stop) := (List.take_append_drop _ _).symm
      have hwordRest : ∀ other ∈ rest,
          other.WritesWords (text.drop (text.length - change.span.stop)) := by
        intro other hother
        have hle := hrest.le hother
        obtain ⟨hfirst, hlast, hbefore, hend⟩ := hword other (List.mem_cons_of_mem change hother)
        have hdrop : (text.drop (text.length - change.span.stop)).drop
            ((text.drop (text.length - change.span.stop)).length - other.span.start) =
              text.drop (text.length - other.span.start) := by
          rw [List.drop_drop, hlength]
          congr 1
          omega
        refine ⟨hfirst, hlast, hdrop ▸ hbefore, fun hzero => ?_⟩
        have hsome := hend hzero
        cases hempty : text.drop (text.length - change.span.stop) with
        | nil =>
            -- Then nothing would stand where the other change starts.
            rw [← hdrop, hempty, List.drop_nil] at hbefore
            exact nomatch hbefore
        | cons c tail =>
            rw [hsplit, hempty, last_append (by simp)] at hsome
            exact hsome
      have hedges := ih (hlength.symm ▸ hrest) hwordRest
      constructor
      · by_cases hatFront : text.length - change.span.start = 0
        · rw [hatFront, List.drop_zero] at hbefore
          rw [spliced, hatFront, List.take_zero, List.nil_append, head_append (by rw [hfirst]; rfl),
            hfirst, hbefore]
        · have hhead : (text.take (text.length - change.span.start)).head? = text.head? := by
            rw [List.head?_take, if_neg hatFront]
          cases htext : text with
          | nil => exact absurd (by rw [htext]; exact Nat.zero_sub _) hatFront
          | cons c tail =>
              rw [← htext, spliced, List.append_assoc,
                head_append (by rw [hhead, htext]; rfl), hhead]
      · by_cases hempty : text.drop (text.length - change.span.stop) = []
        · have hzero : change.span.stop = 0 := by
            rw [← hlength, hempty]
            rfl
          have hnil := hedges.nil_iff.mpr hempty
          rw [spliced, hnil, List.append_nil, last_append (by rw [hlast]; rfl), hlast, hend hzero]
        · have hsome : ((text.drop (text.length - change.span.stop)).getLast?.map edge).isSome := by
            rw [Option.isSome_map, List.getLast?_isSome]
            exact hempty
          have htext := congrArg (fun text => text.getLast?.map edge) hsplit
          rw [last_append hsome] at htext
          rw [spliced, last_append (by rw [hedges.2]; exact hsome), hedges.2, htext]

/-- Every character where a name is spelled is one of a word. -/
theorem Spells.letter {text : List Char} {name : String} {span : Span}
    (h : span.Spells text name) (hstart : span.start ≤ text.length) {place : Nat}
    (hstop : span.stop < place) (hplace : place ≤ span.start) :
    ∃ c, text[text.length - place]? = some c ∧ edge c = (false, false) := by
  have hslice : (span.slice text)[span.start - place]? = text[text.length - place]? := by
    rw [Span.slice, List.getElem?_take_of_lt (by omega), List.getElem?_drop]
    congr 1
    omega
  have hless : text.length - place < text.length := by omega
  refine ⟨text[text.length - place], List.getElem?_eq_getElem hless, ?_⟩
  refine (edge_of_isSpelling (h.letters _ ?_)).1
  rw [List.getElem?_eq_getElem hless] at hslice
  exact List.mem_of_getElem? hslice

/-- The first character of a name that is spelled is one of a word. -/
theorem Spells.first {text : List Char} {name : String} {span : Span}
    (h : span.Spells text name) (hstart : span.start ≤ text.length) :
    (text.drop (text.length - span.start)).head?.map edge = some (false, false) := by
  obtain ⟨c, hc, hedge⟩ := Spells.letter h hstart h.nonempty (Nat.le_refl _)
  rw [List.head?_drop, hc]
  exact congrArg some hedge

/-- And so is the last one. -/
theorem Spells.last {text : List Char} {name : String} {span : Span}
    (h : span.Spells text name) (hstart : span.start ≤ text.length) (hstop : span.stop = 0) :
    text.getLast?.map edge = some (false, false) := by
  have hless := h.nonempty
  obtain ⟨c, hc, hedge⟩ := @Spells.letter text name span h hstart 1 (by omega) (by omega)
  rw [List.getLast?_eq_getElem?, hc]
  exact congrArg some hedge

/-- Inside a stretch of the text the name is spelled as well. -/
theorem Spells.inside {text : List Char} {name : String} {span outer : Span}
    (h : span.Spells text name) (houter : outer.start ≤ text.length)
    (hstart : span.start ≤ outer.start) (hstop : outer.stop ≤ span.stop) :
    (shortened outer.stop span).Spells (outer.slice text) name := by
  have hless := h.nonempty
  have hlength := Span.length_slice houter
  have hslice : (shortened outer.stop span).slice (outer.slice text) = span.slice text := by
    unfold shortened
    rw [Span.slice, hlength, Span.slice, Span.slice, List.drop_take, List.drop_drop, List.take_take]
    dsimp only
    congr 1
    · omega
    · congr 1
      omega
  exact ⟨by show _ - _ < _ - _; omega, hslice ▸ h.letters, h.isName⟩

/-- Qualifying a name writes a word in the place of another one, or in front of it. -/
theorem Use.change_writesWords {text : List Char} {use : Use}
    (h : use.span.Spells text use.name) (hstart : use.span.start ≤ text.length) :
    use.change.WritesWords text := by
  obtain ⟨name, span, isShorthand, before, visible⟩ := use
  obtain ⟨hne, hletters⟩ := h.isName
  have hword : ∀ c ∈ name.toList, edge c = (false, false) :=
    fun c hc => (edge_of_continuesName (hletters c hc)).1
  have hbefore := Spells.first h hstart
  cases isShorthand with
  | false =>
      -- The prefix is put in front of the name, so the text does not end there.
      refine ⟨rfl, rfl, hbefore, fun hzero => ?_⟩
      have hless : span.stop < span.start := h.nonempty
      replace hzero : span.start = 0 := hzero
      omega
  | true =>
      have hfirst : name.toList.head?.map edge = some (false, false) := by
        cases hname : name.toList with
        | nil => exact absurd hname hne
        | cons c rest => exact congrArg some (hword c (hname ▸ List.mem_cons_self))
      have hlast : name.toList.getLast?.map edge = some (false, false) := by
        rw [List.getLast?_eq_some_getLast hne]
        exact congrArg some (hword _ (List.getLast_mem hne))
      -- What is written in the place of a shorthand starts and ends with the name.
      refine ⟨?_, ?_, hbefore, Spells.last h hstart⟩
      · show (name.toList ++ [':', ' '] ++ contextPrefix ++ name.toList).head?.map edge = _
        rw [List.append_assoc, List.append_assoc, head_append (by rw [hfirst]; rfl), hfirst]
      · show (name.toList ++ [':', ' '] ++ contextPrefix ++ name.toList).getLast?.map edge = _
        rw [last_append (by rw [hlast]; rfl), hlast]

/-! ### Counting changes -/

/-- Each qualified name writes one point more. -/
theorem count_spliced {text : List Char} {changes : List Change}
    (h : Separate text.length changes)
    (hpoint : ∀ change ∈ changes, change.replacement.count '.' = 1 ∧ '.' ∉ change.span.slice text) :
    (spliced changes text).count '.' = text.count '.' + changes.length := by
  induction changes generalizing text with
  | nil => rfl
  | cons change rest ih =>
      obtain ⟨hstop, hstart, hbehind, hrest⟩ := h
      obtain ⟨hone, hnone⟩ := hpoint change List.mem_cons_self
      have hlength : (text.drop (text.length - change.span.stop)).length = change.span.stop :=
        length_behind (Nat.le_trans hstop hstart)
      have hcount := ih (hlength.symm ▸ hrest) fun other hother => by
        obtain ⟨hone, hnone⟩ := hpoint other (List.mem_cons_of_mem change hother)
        have hle : other.span.start ≤ (text.drop (text.length - change.span.stop)).length :=
          hlength.symm ▸ hrest.le hother
        exact ⟨hone, Span.slice_of_suffix (List.drop_suffix _ text) hle ▸ hnone⟩
      -- The text falls into what stands in front of the change, in its place and behind it.
      have hsplit : text = text.take (text.length - change.span.start) ++ change.span.slice text ++
          text.drop (text.length - change.span.stop) := by
        have hdrop : text.drop (text.length - change.span.stop) =
            (text.drop (text.length - change.span.start)).drop
              (change.span.start - change.span.stop) := by
          rw [List.drop_drop]
          congr 1
          omega
        rw [hdrop, Span.slice, List.append_assoc, List.take_append_drop, List.take_append_drop]
      have htext := congrArg (List.count '.') hsplit
      simp only [List.count_append, List.count_eq_zero_of_not_mem hnone] at htext
      simp only [spliced, List.count_append, hone, hcount, List.length_cons]
      omega

/-- A change writes one point, that of the context, and there is none in what it replaces. -/
theorem Use.change_points {text : List Char} {use : Use} (h : use.span.Spells text use.name) :
    use.change.replacement.count '.' = 1 ∧ '.' ∉ use.change.span.slice text := by
  obtain ⟨name, span, isShorthand, before, visible⟩ := use
  cases isShorthand with
  | false =>
      refine ⟨rfl, ?_⟩
      show '.' ∉ (Span.mk span.start span.start).slice text
      rw [Span.slice, Nat.sub_self, List.take_zero]
      exact List.not_mem_nil
  | true =>
      have hname : name.toList.count '.' = 0 := by
        refine List.count_eq_zero_of_not_mem fun hmem => ?_
        exact (edge_of_continuesName (h.isName.2 '.' hmem)).2 rfl
      refine ⟨?_, fun hmem => (edge_of_isSpelling (h.letters '.' hmem)).2 rfl⟩
      show (name.toList ++ [':', ' '] ++ contextPrefix ++ name.toList).count '.' = 1
      simp only [List.count_append, hname]
      rfl

end MiniApp.Handler
