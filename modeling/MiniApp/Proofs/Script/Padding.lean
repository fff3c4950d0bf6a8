import MiniApp.Proofs.Script.Gap
import MiniApp.Script.Parse

/-!
# White space and comments in front of a text

Reading begins behind white space and complete comments (`IsPadding`), so that a text is read the
same with more of them in front of it, as an expression (`expression?_padding`) and as a module
(`program?_padding`). A first line that says which program runs the text is read only where it is
the first line indeed.
-/

set_option autoImplicit false

namespace MiniApp.Script

open MiniApp.Text

/-- White space, line ends and complete comments, in any order. -/
inductive IsPadding : List Char → Prop
  | nil : IsPadding []
  | space {c : Char} {rest : List Char} (hspace : IsGap c) (hrest : IsPadding rest) :
      IsPadding (c :: rest)
  | lineComment {text rest : List Char} {c : Char} (htext : ∀ d ∈ text, ¬ isLineTerminator d)
      (hend : isLineTerminator c) (hrest : IsPadding rest) :
      IsPadding ('/' :: '/' :: (text ++ c :: rest))
  | blockComment {text rest : List Char} (htext : ¬ ['*', '/'] <:+: text)
      (hrest : IsPadding rest) : IsPadding ('/' :: '*' :: (text ++ '*' :: '/' :: rest))

/-! ### Skipping -/

variable {text lead rest : List Char}

/-- What is left behind white space and comments does not depend on what was skipped before. -/
theorem skip_rest (mode : Trivia) (newLine after : Bool) (text : List Char) :
    (mode.skip newLine text).map Prod.fst = (mode.skip after text).map Prod.fst := by
  fun_induction Trivia.skip mode newLine text generalizing after <;>
    grind [Trivia.skip]

/-- A comment on a line is skipped up to the end of its line. -/
theorem skip_lineComment {newLine : Bool} {c : Char} (htext : ∀ d ∈ text, ¬ isLineTerminator d)
    (hend : isLineTerminator c) :
    Trivia.lineComment.skip newLine (text ++ c :: rest) = Trivia.code.skip true rest := by
  induction text with
  | nil => simp [Trivia.skip, hend]
  | cons d text ih =>
      have hd : ¬ isLineTerminator d := htext d List.mem_cons_self
      simp only [List.cons_append, Trivia.skip, hd]
      exact ih fun e he => htext e (List.mem_cons_of_mem d he)

/-- A comment between marks is skipped up to the first closing mark. -/
theorem skip_blockComment (newLine : Bool) (rest : List Char) (htext : ¬ ['*', '/'] <:+: text) :
    ∃ after, Trivia.blockComment.skip newLine (text ++ '*' :: '/' :: rest) =
      Trivia.code.skip after rest := by
  induction text generalizing newLine with
  | nil => exact ⟨newLine, by simp [Trivia.skip]⟩
  | cons d text ih =>
      have hrest : ¬ ['*', '/'] <:+: text :=
        fun h => htext (h.trans (List.suffix_cons d text).isInfix)
      obtain ⟨after, hafter⟩ := ih (newLine || isLineTerminator d) hrest
      refine ⟨after, ?_⟩
      rw [← hafter, List.cons_append, Trivia.skip]
      -- The comment does not end here: what follows a star is another one, or no slash.
      intro tail hstar hslash
      cases text with
      | nil => cases hslash
      | cons e text =>
          obtain rfl : e = '/' := (List.cons_eq_cons.mp hslash).1
          exact htext (hstar ▸ (List.prefix_append ['*', '/'] text).isInfix)

/-- Padding in front of a text is skipped. -/
theorem skip_padding (hlead : IsPadding lead) (newLine : Bool) (text : List Char) :
    ∃ after, Trivia.code.skip newLine (lead ++ text) = Trivia.code.skip after text := by
  -- The induction is on what the padding consists of.
  induction hlead generalizing newLine with
  | nil => exact ⟨newLine, rfl⟩
  | @space c rest hspace hrest ih =>
      have hslash : c ≠ '/' := by
        rintro rfl
        exact absurd hspace (by decide)
      -- An end of line is noted by the skipper, other blank space is not.
      by_cases hend : isLineTerminator c
      · obtain ⟨after, hafter⟩ := ih true
        refine ⟨after, ?_⟩
        rw [← hafter, List.cons_append, Trivia.skip, if_pos hend]
        · exact fun _ h => absurd h hslash
        · exact fun _ h => absurd h hslash
      · obtain ⟨after, hafter⟩ := ih newLine
        refine ⟨after, ?_⟩
        rw [← hafter, List.cons_append, Trivia.skip, if_neg hend,
          if_pos (hspace.resolve_right hend)]
        · exact fun _ h => absurd h hslash
        · exact fun _ h => absurd h hslash
  | @lineComment comment rest c htext hend hrest ih =>
      obtain ⟨after, hafter⟩ := ih true
      refine ⟨after, ?_⟩
      rw [← hafter, List.cons_append, List.cons_append, List.append_assoc, List.cons_append,
        Trivia.skip, skip_lineComment htext hend]
  | @blockComment comment rest htext hrest ih =>
      obtain ⟨mid, hmid⟩ := skip_blockComment newLine (rest ++ text) htext
      obtain ⟨after, hafter⟩ := ih mid
      refine ⟨after, ?_⟩
      rw [← hafter, ← hmid, List.cons_append, List.cons_append, List.append_assoc,
        List.cons_append, List.cons_append, Trivia.skip]

/-! ### Reading behind padding -/

/-- Where reading starts depends only on what stands behind white space and comments. -/
theorem initial?_eq (text : List Char) :
    State.initial? text = ((skipTrivia text).map Prod.fst).bind fun behind =>
      (readShape behind).map fun (shape, rest) =>
        { token := ⟨shape, behind.length, rest.length, false⟩, rest, lastStop := behind.length,
          setting := ⟨true, true, false, false⟩ } := by
  unfold State.initial? scan
  cases hskip : skipTrivia text with
  | none => simp
  | some skipped =>
      cases hshape : readShape skipped.1 with
      | none => simp [hshape]
      | some shape => simp [hshape]

/-- A reader starts at the same place with padding in front of the text. -/
theorem initial?_padding (hlead : IsPadding lead) (text : List Char) :
    State.initial? (lead ++ text) = State.initial? text := by
  obtain ⟨after, hafter⟩ := skip_padding hlead false text
  rw [initial?_eq, initial?_eq, skipTrivia, skipTrivia, hafter, skip_rest]

/-- Padding in front of a text does not change the expression that is read there. -/
theorem expression?_padding (hlead : IsPadding lead) (text : List Char) :
    expression? (lead ++ text) = expression? text := by
  rw [expression?, expression?, readText, readText, initial?_padding hlead]

/-- Without a hashbang nothing is dropped. -/
theorem dropHashbang_eq (h : ¬ ['#', '!'] <+: text) : dropHashbang text = text := by
  unfold dropHashbang
  split
  · exact absurd (List.prefix_append ['#', '!'] _) h
  · rfl

/-- Padding in front of a text makes no hashbang. -/
theorem IsPadding.not_hashbang (hlead : IsPadding lead) (htext : ¬ ['#', '!'] <+: text) :
    ¬ ['#', '!'] <+: lead ++ text := by
  cases hlead with
  | nil => exact htext
  | space hspace _ =>
      rw [List.cons_append, List.cons_prefix_cons]
      rintro ⟨rfl, -⟩
      exact absurd hspace (by decide)
  | lineComment => simp
  | blockComment => simp

/-- Padding in front of a text does not change the module that is read, unless the first line of the
text says which program runs it. -/
theorem program?_padding (hlead : IsPadding lead) (htext : ¬ ['#', '!'] <+: text) :
    program? (lead ++ text) = program? text := by
  rw [program?, program?, dropHashbang_eq htext, dropHashbang_eq (hlead.not_hashbang htext),
    readText, readText, initial?_padding hlead]

/-- No expression starts like the line that says which program runs a text. -/
theorem expression?_hashbang (h : ['#', '!'] <+: text) : expression? text = none := by
  obtain ⟨rest, rfl⟩ := h
  have hinitial : State.initial? (['#', '!'] ++ rest) = none := by
    rw [initial?_eq]
    rfl
  rw [expression?, readText, hinitial]
  rfl

/-- Nor does a text with an expression at its start, whatever stands behind the text. -/
theorem not_hashbang_append {expression : Node} (h : expression? text = some expression)
    (tail : List Char) : ¬ ['#', '!'] <+: text ++ tail := by
  intro hprefix
  have hnone : expression? text = none := by
    match text with
    | [] => exact Option.isNone_iff_eq_none.mp (by decide +kernel)
    | [c] =>
        obtain ⟨rfl, -⟩ := List.cons_prefix_cons.mp hprefix
        exact Option.isNone_iff_eq_none.mp (by decide +kernel)
    | c :: d :: rest =>
        obtain ⟨rfl, hrest⟩ := List.cons_prefix_cons.mp hprefix
        obtain ⟨rfl, -⟩ := List.cons_prefix_cons.mp hrest
        exact expression?_hashbang (List.prefix_append ['#', '!'] rest)
  cases hnone.symm.trans h

/-! ### Padding that is trimmed -/

/-- What is trimmed is white space or a line end. -/
theorem isGap_of_isBlank {c : Char} (h : isBlank c) : IsGap c := by
  have hchar : ∀ d : Char, c = d ↔ c.toNat = d.toNat := fun d =>
    ⟨fun h => h ▸ rfl, fun h => Char.toNat_inj.mp h⟩
  simp only [IsGap, isBlank, isSpace, isLineTerminator, Bool.or_eq_true, Bool.and_eq_true,
    decide_eq_true_eq, beq_iff_eq, hchar] at h ⊢
  have hline : '\n'.toNat = 10 := rfl
  have hreturn : '\r'.toNat = 13 := rfl
  omega

/-- What is cut off a text is padding. -/
theorem isPadding_of_isBlank (h : ∀ c ∈ text, isBlank c) : IsPadding text := by
  induction text with
  | nil => exact .nil
  | cons c rest ih =>
      exact .space (isGap_of_isBlank (h c List.mem_cons_self))
        (ih fun d hd => h d (List.mem_cons_of_mem c hd))

/-- Padding behind padding is padding. -/
theorem IsPadding.append (hlead : IsPadding lead) (hrest : IsPadding rest) :
    IsPadding (lead ++ rest) := by
  induction hlead with
  | nil => exact hrest
  | space hspace _ ih => exact .space hspace ih
  | lineComment htext hend _ ih =>
      rw [List.cons_append, List.cons_append, List.append_assoc, List.cons_append]
      exact .lineComment htext hend ih
  | blockComment htext _ ih =>
      rw [List.cons_append, List.cons_append, List.append_assoc, List.cons_append,
        List.cons_append]
      exact .blockComment htext ih

/-- Trimming the start of a text with padding in front of it leaves padding in front of it. -/
theorem trimStart_padding (hlead : IsPadding lead) (htext : trimStart text = text) :
    ∃ left, IsPadding left ∧ trimStart (lead ++ text) = left ++ text := by
  induction hlead with
  | nil => exact ⟨[], .nil, htext⟩
  | @space c rest hspace hrest ih =>
      by_cases hblank : isBlank c
      · obtain ⟨left, hleft, htrim⟩ := ih
        exact ⟨left, hleft, (List.dropWhile_cons_of_pos hblank).trans htrim⟩
      · exact ⟨c :: rest, .space hspace hrest, List.dropWhile_cons_of_neg hblank⟩
  | lineComment hcomment hend hrest ih =>
      exact ⟨_, .lineComment hcomment hend hrest, List.dropWhile_cons_of_neg (by decide)⟩
  | blockComment hcomment hrest ih =>
      exact ⟨_, .blockComment hcomment hrest, List.dropWhile_cons_of_neg (by decide)⟩

end MiniApp.Script
