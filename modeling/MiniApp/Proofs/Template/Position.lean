import MiniApp.Template.Position
import Mathlib.Algebra.Group.Nat.Defs
import Mathlib.Data.List.DropRight
import Mathlib.Data.List.Infix

/-!
# Positions and the text between them

A diagnostic may point into the middle of a template, at a piece that was cut out of a longer text.
Its position is found by going over the texts in front of it, so it must not matter how these have
been cut.

* `advance_append`: going over two texts one after the other is going over both at once. So texts
  act on positions.
* `offset_advance`, `line_advance`, `column_advance`: where a text leads to, counted at once. The
  three counters have units of their own, which are bytes, lines and characters.
* `toPosition_advance`: the same counting in words of 32 bits, as long as they do not overflow.
* `advance_isAction`: all of this, and what follows for locations.
-/

set_option autoImplicit false

namespace MiniApp.Template

namespace Position

/-! ### Texts act on positions -/

/-- Going on over two texts is going on over one and then over the other. -/
theorem advance_append (position : Position) (first second : String) :
    position.advance (first ++ second) = (position.advance first).advance second := by
  unfold advance
  rw [String.toList_append, List.foldl_append]

/-- The last character is one step more. -/
theorem advance_push (position : Position) (text : String) (c : Char) :
    position.advance (text.push c) = (position.advance text).step c := by
  unfold advance
  rw [String.toList_push, List.foldl_append]
  rfl

/-! ### Counting at once -/

/-- A step moves on by the bytes of the character. -/
theorem offset_step (position : Position) (c : Char) :
    (position.step c).offset = position.offset + c.utf8Size := by
  unfold step
  split <;> rfl

/-- Only a line feed begins another line. -/
theorem line_step (position : Position) (c : Char) :
    (position.step c).line = position.line + [c].count '\n' := by
  unfold step
  by_cases h : c = '\n' <;> simp [h]

/-- A line feed leads to the first column, any other character to the next one. -/
theorem column_step (position : Position) (c : Char) :
    (position.step c).column = if c = '\n' then 1 else position.column + 1 := by
  unfold step
  split <;> rfl

/-- The offset grows by the bytes of a text. -/
theorem offset_advance (position : Position) (text : String) :
    (position.advance text).offset = position.offset + text.utf8ByteSize := by
  induction text using String.push_induction with
  | empty => rfl
  | push text c ih =>
      rw [advance_push, offset_step, ih, String.utf8ByteSize_push, Nat.add_assoc]

/-- The line grows by the line feeds of a text. -/
theorem line_advance (position : Position) (text : String) :
    (position.advance text).line = position.line + text.toList.count '\n' := by
  induction text using String.push_induction with
  | empty => rfl
  | push text c ih =>
      rw [advance_push, line_step, ih, String.toList_push, List.count_append, Nat.add_assoc]

/-- What stands behind the last line feed of a text, or all of it if there is none. -/
def lastLine (text : String) : List Char :=
  text.toList.rtakeWhile fun c => c ≠ '\n'

/-- The column counts the characters from the last line feed on. Where there is none it goes on from
where it was. -/
theorem column_advance (position : Position) (text : String) :
    (position.advance text).column =
      if '\n' ∈ text.toList then 1 + (lastLine text).length
      else position.column + text.length := by
  induction text using String.push_induction with
  | empty => rfl
  | push text c ih =>
      -- a line feed leaves nothing behind it, and any other character is one more on its line
      have hlast : lastLine (text.push c) = if c = '\n' then [] else lastLine text ++ [c] := by
        unfold lastLine
        rw [String.toList_push, List.rtakeWhile_concat]
        by_cases h : c = '\n' <;> simp [h]
      rw [advance_push, column_step, ih, hlast, String.toList_push, String.length_push]
      by_cases hfeed : c = '\n'
      · simp [hfeed]
      · have hmem : '\n' ∈ text.toList ++ [c] ↔ '\n' ∈ text.toList := by
          simp [Ne.symm hfeed]
        simp only [hmem, if_neg hfeed, List.length_append, List.length_singleton]
        split <;> omega

end Position

/-! ### Counting in 32 bits -/

/-- A position with counters of 32 bits, which begin at zero again when they are full. -/
structure WordPosition where
  offset : UInt32
  line : UInt32
  column : UInt32

namespace WordPosition

/-- The position that the counters show. -/
def toPosition (words : WordPosition) : Position :=
  ⟨words.offset.toNat, words.line.toNat, words.column.toNat⟩

/-- The counters behind one character. -/
def step (words : WordPosition) (c : Char) : WordPosition :=
  let offset := words.offset + UInt32.ofNat c.utf8Size
  if c = '\n' then ⟨offset, words.line + 1, 1⟩ else ⟨offset, words.line, words.column + 1⟩

/-- The counters behind a text that starts here. -/
def advance (words : WordPosition) (text : String) : WordPosition :=
  text.toList.foldl step words

end WordPosition

namespace Position

/-- The counters of a position fit into 32 bits. -/
def Fits (position : Position) : Prop :=
  position.offset < 2 ^ 32 ∧ position.line < 2 ^ 32 ∧ position.column < 2 ^ 32

/-- The counters fit into 32 bits all the way from a position to the end of a text. -/
def StaysFit (position : Position) (text : String) : Prop :=
  ∀ front ∈ text.toList.inits, (front.foldl step position).Fits

instance (position : Position) : Decidable position.Fits :=
  inferInstanceAs (Decidable (_ ∧ _ ∧ _))

instance (position : Position) (text : String) : Decidable (position.StaysFit text) :=
  inferInstanceAs (Decidable (∀ front ∈ text.toList.inits, (front.foldl step position).Fits))

end Position

namespace WordPosition

/-- A word counts as a number does while the sum fits. -/
theorem toNat_add_of_lt {word more : UInt32} (h : word.toNat + more.toNat < 2 ^ 32) :
    (word + more).toNat = word.toNat + more.toNat := by
  rw [UInt32.toNat_add, Nat.mod_eq_of_lt h]

/-- No counter overflows behind a character whose position fits. -/
theorem toPosition_step {words : WordPosition} {c : Char}
    (hfits : (words.toPosition.step c).Fits) :
    (words.step c).toPosition = words.toPosition.step c := by
  -- The width of a character fits into a word, and so do the sums by assumption.
  have hsize : (UInt32.ofNat c.utf8Size).toNat = c.utf8Size :=
    UInt32.toNat_ofNat_of_lt' (Nat.lt_of_le_of_lt c.utf8Size_le_four (by decide))
  obtain ⟨hoffset, hline, hcolumn⟩ := hfits
  rw [Position.offset_step] at hoffset
  rw [Position.column_step] at hcolumn
  have hbytes : (words.offset + UInt32.ofNat c.utf8Size).toNat =
      words.offset.toNat + c.utf8Size := by
    rw [toNat_add_of_lt, hsize]
    rw [hsize]
    exact hoffset
  by_cases hfeed : c = '\n'
  · have hnext : (words.line + 1).toNat = words.line.toNat + 1 := by
      rw [Position.line_step, hfeed] at hline
      exact toNat_add_of_lt hline
    simp only [step, Position.step, toPosition, if_pos hfeed, hbytes, hnext]
    rfl
  · have hnext : (words.column + 1).toNat = words.column.toNat + 1 := by
      rw [if_neg hfeed] at hcolumn
      exact toNat_add_of_lt hcolumn
    simp only [step, Position.step, toPosition, if_neg hfeed, hbytes, hnext]

/-- Counting in 32 bits is counting, as long as the counters fit. -/
theorem toPosition_advance {words : WordPosition} {text : String}
    (hfits : words.toPosition.StaysFit text) :
    (words.advance text).toPosition = words.toPosition.advance text := by
  unfold advance Position.advance
  unfold Position.StaysFit at hfits
  generalize text.toList = chars at hfits ⊢
  induction chars generalizing words with
  | nil => rfl
  | cons c rest ih =>
      have hstep : (words.step c).toPosition = words.toPosition.step c :=
        toPosition_step (hfits [c] (by simp))
      rw [List.foldl_cons, List.foldl_cons, ← hstep]
      -- a front of the rest is a front of the whole without its first character
      refine ih fun front hfront => ?_
      rw [hstep]
      refine hfits (c :: front) ?_
      rw [List.mem_inits] at hfront ⊢
      exact (List.prefix_cons_inj c).mpr hfront

end WordPosition

/-! ### What a location covers -/

/-- The bytes of a template from the start of a location to its end are those of its text. -/
def Location.Covers (location : Location) (template : String) : Prop :=
  template.toByteArray.extract location.start.offset location.stop.offset =
    location.source.toByteArray

/-- The location of a text that stands in a template covers just that text. -/
theorem Location.spanning_covers {start : Position} {before : String}
    (h : start.offset = before.utf8ByteSize) (text after : String) :
    (spanning start text).Covers (before ++ text ++ after) := by
  have hstop : (start.advance text).offset = before.toByteArray.size + text.toByteArray.size := by
    rw [Position.offset_advance, h]
    rfl
  show (before ++ text ++ after).toByteArray.extract start.offset (start.advance text).offset =
    text.toByteArray
  rw [hstop, h, String.append_assoc, String.toByteArray_append, String.toByteArray_append]
  calc (before.toByteArray ++ (text.toByteArray ++ after.toByteArray)).extract
        (before.toByteArray.size + 0) (before.toByteArray.size + text.toByteArray.size)
      = (text.toByteArray ++ after.toByteArray).extract 0 text.toByteArray.size :=
        ByteArray.extract_append_size_add
    _ = text.toByteArray := ByteArray.extract_append_eq_left rfl

/-! ### Every text and every position -/

/-- Texts act on positions: an empty text stays where it is, and two texts one after the other lead
where both lead together. A text moves the offset by its bytes and the line by its line feeds, and
the column counts the characters behind the last line feed, or goes on where there is none. Counters
of 32 bits show the same, as long as every position on the way fits into them.

So wherever a text stands in a template, the location that spans it covers just this text, the
location of the next text starts where it stops, and the two are joined by the location of both
texts together. -/
theorem Position.advance_isAction (position : Position) (first second : String) :
    position.advance "" = position ∧
    position.advance (first ++ second) = (position.advance first).advance second ∧
    position.advance first =
      ⟨position.offset + first.utf8ByteSize, position.line + first.toList.count '\n',
        if '\n' ∈ first.toList then 1 + (lastLine first).length
        else position.column + first.length⟩ ∧
    (∀ words : WordPosition, words.toPosition = position → position.StaysFit first →
      (words.advance first).toPosition = position.advance first) ∧
    (∀ before after : String, position.offset = before.utf8ByteSize →
      (Location.spanning position first).Covers (before ++ first ++ after)) ∧
    ∀ front : String,
      let location := Location.spanning (position.advance front) first
      let next := Location.spanning (position.advance (front ++ first)) second
      location.stop = next.start ∧
        Location.spanning (position.advance front) (first ++ second) =
          ⟨location.start, next.stop, first ++ second⟩ := by
  refine ⟨rfl, advance_append position first second, ?_, ?_, ?_, ?_⟩
  · rw [← offset_advance, ← line_advance, ← column_advance]
  · rintro words rfl hfits
    exact WordPosition.toPosition_advance hfits
  · intro before after hoffset
    exact Location.spanning_covers hoffset first after
  · intro front location next
    have hstop : location.stop = next.start := (advance_append position front first).symm
    refine ⟨hstop, ?_⟩
    have hboth : (position.advance front).advance (first ++ second) = next.stop := by
      rw [advance_append, ← advance_append position front first]
      rfl
    unfold Location.spanning
    rw [hboth]
    rfl

/-- A text of two lines with a letter of two bytes, behind such a letter. -/
theorem Position.advance_isAction_twoLines :
    let words : WordPosition := ⟨3, 1, 3⟩
    let position : Position := ⟨3, 1, 3⟩
    words.toPosition = position ∧ position.StaysFit "é\nbc" ∧
      position.offset = "aé".utf8ByteSize ∧
      (words.advance "é\nbc").toPosition = ⟨8, 2, 3⟩ ∧
      (Location.spanning position "é\nbc").Covers ("aé" ++ "é\nbc" ++ "d") := by
  intro words position
  obtain ⟨-, -, hcounts, hwords, hcovers, -⟩ := advance_isAction position "é\nbc" "d"
  have hfits : position.StaysFit "é\nbc" := by decide
  refine ⟨rfl, hfits, by decide, (hwords words rfl hfits).trans hcounts, ?_⟩
  exact hcovers "aé" "d" (by decide)

end MiniApp.Template
