import MiniApp.Handler.Collapse
import MiniApp.Proofs.Handler.Trimming
import Mathlib.Data.List.Chain

/-!
# Heads with single spaces

The head of a function is collapsed as a text: its words are put together again with single spaces,
and `function(` is written with a space in it. Neither looks at what the words mean.

* `collapseHead_quoted`: what stands in quotation marks in a head is rewritten by itself.
* `squeeze_eq_self_iff`: a text inside of a head stays as it is if and only if its blank space is
  single spaces and `function(` does not stand in it.
-/

set_option autoImplicit false

namespace MiniApp.Handler

open MiniApp.Text

/-! ### Runs of blank space -/

/-- The text with each run of blank space as one space; `gap` if blank space stands in front. -/
def squeezed (gap : Bool) : List Char → List Char
  | [] => if gap then [' '] else []
  | c :: rest =>
    if isBlank c then squeezed true rest
    else (if gap then [' '] else []) ++ c :: squeezed false rest

/-- The words with single spaces between them. -/
def joined (words : List (List Char)) : List Char :=
  (words.intersperse [' ']).flatten

/-- A word is joined to the words behind it by a space. -/
theorem joined_cons {word : List Char} {words : List (List Char)} (h : words ≠ []) :
    joined (word :: words) = word ++ ' ' :: joined words := by
  cases words with
  | nil => exact absurd rfl h
  | cons second more => simp [joined, List.intersperse_cons_cons]

/-- A text whose last character is not blank has a word. -/
theorem wordsFrom_ne_nil {last : Char} (hlast : ¬ isBlank last) (current text : List Char) :
    wordsFrom current (text ++ [last]) ≠ [] := by
  induction text generalizing current with
  | nil => simp [wordsFrom, hlast]
  | cons c rest ih =>
      rw [List.cons_append, wordsFrom]
      split
      · split
        · exact ih []
        · exact List.cons_ne_nil _ _
      · exact ih (c :: current)

/-- The words of a text that ends in one, read behind the start of a word and behind blank space. -/
theorem joined_wordsFrom {last : Char} (hlast : ¬ isBlank last) (text : List Char) :
    (∀ current, current ≠ [] → joined (wordsFrom current (text ++ [last])) =
        current.reverse ++ (squeezed false text ++ [last])) ∧
      ' ' :: joined (wordsFrom [] (text ++ [last])) = squeezed true text ++ [last] := by
  induction text with
  | nil => simp [wordsFrom, hlast, squeezed, joined]
  | cons c rest ih =>
      obtain ⟨hword, hgap⟩ := ih
      by_cases hc : isBlank c
      -- A blank ends the word; where none has been started it changes nothing.
      · refine ⟨fun current hcurrent => ?_, ?_⟩
        · have hnonempty : current.isEmpty = false := by simpa using hcurrent
          rw [List.cons_append, wordsFrom, if_pos hc, hnonempty, squeezed, if_pos hc, ← hgap]
          exact joined_cons (wordsFrom_ne_nil hlast [] rest)
        · rw [List.cons_append, wordsFrom, if_pos hc, squeezed, if_pos hc]
          exact hgap
      · have hbehind : ∀ current, joined (wordsFrom current (c :: rest ++ [last])) =
            current.reverse ++ (c :: squeezed false rest ++ [last]) := by
          intro current
          rw [List.cons_append, wordsFrom, if_neg hc, hword (c :: current) (List.cons_ne_nil _ _)]
          simp
        refine ⟨fun current _ => ?_, ?_⟩
        · rw [hbehind, squeezed, if_neg hc]
          rfl
        · rw [hbehind, squeezed, if_neg hc]
          rfl

/-- A blank behind a text changes none of its words. -/
theorem wordsFrom_append_blank {blank : Char} (hblank : isBlank blank) (current text : List Char) :
    wordsFrom current (text ++ [blank]) = wordsFrom current text := by
  induction text generalizing current with
  | nil => simp [wordsFrom, hblank]
  | cons c rest ih => simp only [List.cons_append, wordsFrom, ih]

/-- No run of blank space goes over a character that is not blank. -/
theorem squeezed_append {mark : Char} (hmark : ¬ isBlank mark) (gap : Bool)
    (text more : List Char) :
    squeezed gap (text ++ mark :: more) = squeezed gap text ++ mark :: squeezed false more := by
  induction text generalizing gap with
  | nil => simp [squeezed, hmark]
  | cons c rest ih =>
      rw [List.cons_append, squeezed, squeezed, ih, ih]
      split <;> simp

/-- Squeezing writes spaces and what was there before. -/
theorem mem_squeezed {c : Char} {gap : Bool} {text : List Char} (h : c ∈ squeezed gap text) :
    c = ' ' ∨ c ∈ text ∧ ¬ isBlank c := by
  induction text generalizing gap with
  | nil => cases gap <;> simp_all [squeezed]
  | cons first rest ih =>
      have hrest : ∀ {gap : Bool}, c ∈ squeezed gap rest →
          c = ' ' ∨ c ∈ first :: rest ∧ ¬ isBlank c :=
        fun h => (ih h).imp_right fun hc => ⟨List.mem_cons_of_mem first hc.1, hc.2⟩
      rw [squeezed] at h
      split at h
      · exact hrest h
      · rename_i hfirst
        rcases List.mem_append.mp h with h | h
        · cases gap <;> simp_all
        · rcases List.mem_cons.mp h with rfl | h
          · exact .inr ⟨List.mem_cons_self, hfirst⟩
          · exact hrest h

/-! ### Occurrences -/

/-- A text without the mark is found at the start of another text whatever stands from the mark
on. -/
theorem isPrefixOf_append {old text more : List Char} {mark : Char} (hmark : mark ∉ old) :
    old.isPrefixOf (text ++ mark :: more) = old.isPrefixOf text := by
  induction old generalizing text with
  | nil => simp
  | cons c rest ih =>
      rw [List.mem_cons, not_or] at hmark
      cases text with
      | nil => simp [List.isPrefixOf, Ne.symm hmark.1]
      | cons first text => simp [List.isPrefixOf, ih hmark.2]

/-- No occurrence goes over a character that is not in it. -/
theorem replaceFrom_append {old new more : List Char} {mark : Char} (hmark : mark ∉ old)
    (hold : old ≠ []) {skip : Nat} {text : List Char} (hskip : skip ≤ text.length) :
    replaceFrom old new skip (text ++ mark :: more) =
      replaceFrom old new skip text ++ mark :: replaceFrom old new 0 more := by
  induction text generalizing skip with
  | nil =>
      obtain rfl : skip = 0 := Nat.le_zero.mp hskip
      -- What occurs here would start with the mark.
      have hoccurs : old.isPrefixOf (mark :: more) = false := by
        have hnil : old.isPrefixOf ([] : List Char) = false := by
          cases old with
          | nil => exact absurd rfl hold
          | cons c rest => rfl
        rw [← hnil]
        exact @isPrefixOf_append old [] more mark hmark
      simp [replaceFrom, hoccurs]
  | cons c rest ih =>
      cases skip with
      | succ n => exact ih (Nat.le_of_succ_le_succ hskip)
      | zero =>
          -- Whether it occurs here is seen in front of the mark.
          have hsame : old.isPrefixOf (c :: (rest ++ mark :: more)) = old.isPrefixOf (c :: rest) :=
            @isPrefixOf_append old (c :: rest) more mark hmark
          rw [List.cons_append, replaceFrom, replaceFrom, hsame]
          split
          · rename_i hoccurs
            have hle := (List.isPrefixOf_iff_prefix.mp hoccurs).length_le
            rw [ih (by simpa using hle), List.append_assoc]
          · rw [ih (Nat.zero_le _)]
            rfl

/-- Replacing writes characters of the new text and of what was there before. -/
theorem mem_replaceFrom {c : Char} {old new text : List Char} {skip : Nat}
    (h : c ∈ replaceFrom old new skip text) : c ∈ new ∨ c ∈ text := by
  fun_induction replaceFrom old new skip text with
  | case1 => exact nomatch h
  | case2 first rest n ih => exact (ih h).imp_right (List.mem_cons_of_mem first)
  | case3 first rest hoccurs ih =>
      rcases List.mem_append.mp h with h | h
      · exact .inl h
      · exact (ih h).imp_right (List.mem_cons_of_mem first)
  | case4 first rest hoccurs ih =>
      rcases List.mem_cons.mp h with rfl | h
      · exact .inr List.mem_cons_self
      · exact (ih h).imp_right (List.mem_cons_of_mem first)

/-- Nothing is replaced if and only if nothing occurs, unless the new text starts with the old. -/
theorem replace_eq_self_iff {old new text : List Char} (hnew : ¬ old <+: new)
    (hlength : old.length ≤ new.length) : replace old new text = text ↔ ¬ old <:+: text := by
  unfold replace
  induction text with
  | nil =>
      have hold : old ≠ [] := fun h => hnew (h ▸ List.nil_prefix)
      simp [replaceFrom, hold]
  | cons c rest ih =>
      rw [replaceFrom, List.infix_cons_iff]
      split
      · rename_i hoccurs
        have hoccurs := List.isPrefixOf_iff_prefix.mp hoccurs
        -- The result starts with the new text, and would have to start with the old one.
        refine iff_of_false (fun heq => hnew ?_) fun h => h (.inl hoccurs)
        exact List.prefix_of_prefix_length_le hoccurs ⟨_, heq⟩ hlength
      · rename_i hoccurs
        rw [List.cons_inj_right, ih, ← List.isPrefixOf_iff_prefix]
        simp [hoccurs]

/-! ### Texts that stay as they are -/

/-- The blank space of the text is spaces, no two of which stand together. -/
structure IsSingleSpaced (text : List Char) : Prop where
  spaces : ∀ c ∈ text, isBlank c → c = ' '
  apart : text.IsChain fun c next => ¬ (isBlank c ∧ isBlank next)

/-- What has been squeezed is spaced by single spaces. -/
theorem isSingleSpaced_squeezed (text : List Char) : IsSingleSpaced (squeezed false text) := by
  -- With a gap in front, what follows the one space must not be blank itself.
  have happart : (squeezed false text).IsChain (fun c next => ¬ (isBlank c ∧ isBlank next)) ∧
      ∃ tail, squeezed true text = ' ' :: tail ∧ (∀ c ∈ tail.head?, ¬ isBlank c) ∧
        tail.IsChain fun c next => ¬ (isBlank c ∧ isBlank next) := by
    induction text with
    | nil => exact ⟨List.isChain_nil, [], rfl, nofun, List.isChain_nil⟩
    | cons c rest ih =>
        obtain ⟨hrest, tail, htail, hhead, hchain⟩ := ih
        by_cases hc : isBlank c
        · simp only [squeezed, hc, if_true]
          refine ⟨?_, tail, htail, hhead, hchain⟩
          rw [htail]
          exact hchain.cons fun next hnext h => hhead next hnext h.2
        · have hcons : (c :: squeezed false rest).IsChain
              (fun c next => ¬ (isBlank c ∧ isBlank next)) :=
            hrest.cons fun next _ h => hc h.1
          simp only [squeezed, hc]
          exact ⟨hcons, c :: squeezed false rest, rfl, by simpa using hc, hcons⟩
  refine ⟨fun c hc hblank => ?_, happart.1⟩
  exact (mem_squeezed hc).resolve_right fun h => h.2 hblank

/-- A text that is spaced by single spaces is squeezed to itself. -/
theorem IsSingleSpaced.squeezed_eq {text : List Char} (h : IsSingleSpaced text) :
    squeezed false text = text := by
  -- A gap is left open by one blank and closed by the next character, so both are followed at once.
  have hboth : squeezed false text = text ∧
      ((∀ c ∈ text.head?, ¬ isBlank c) → squeezed true text = ' ' :: text) := by
    induction text with
    | nil => exact ⟨rfl, fun _ => rfl⟩
    | cons c rest ih =>
        obtain ⟨hspaces, happart⟩ := h
        obtain ⟨hnext, hchain⟩ := List.isChain_cons.mp happart
        obtain ⟨hsame, hgap⟩ := ih ⟨fun d hd => hspaces d (List.mem_cons_of_mem c hd), hchain⟩
        by_cases hc : isBlank c
        · have hrest : ∀ d ∈ rest.head?, ¬ isBlank d := fun d hd hblank => hnext d hd ⟨hc, hblank⟩
          refine ⟨?_, fun hfirst => absurd hc (hfirst c rfl)⟩
          rw [squeezed, if_pos hc, hgap hrest, hspaces c List.mem_cons_self hc]
        · refine ⟨?_, fun _ => ?_⟩
          · simp [squeezed, hc, hsame]
          · simp [squeezed, hc, hsame]
  exact hboth.1

/-- Single spaces stay single if what replaces an occurrence has only such, starts as it does, and
does not end in one. -/
theorem IsSingleSpaced.replaceFrom {old new text : List Char} {skip : Nat} (hold : old ≠ [])
    (hnew : IsSingleSpaced new) (hhead : new.head? = old.head?)
    (hlast : ∀ c ∈ new.getLast?, ¬ isBlank c) (h : IsSingleSpaced text) :
    IsSingleSpaced (Text.replaceFrom old new skip text) := by
  -- The first character is kept along, since the character in front of the rest has to get on with
  -- it.
  have happart : (text.drop skip).IsChain (fun c next => ¬ (isBlank c ∧ isBlank next)) →
      (Text.replaceFrom old new skip text).IsChain (fun c next => ¬ (isBlank c ∧ isBlank next)) ∧
        (Text.replaceFrom old new skip text).head? = (text.drop skip).head? := by
    clear h
    fun_induction Text.replaceFrom old new skip text with
    | case1 => simp
    | case2 c rest n ih => exact ih
    | case3 c rest hoccurs ih =>
        intro hchain
        obtain ⟨tail, htail⟩ := List.isPrefixOf_iff_prefix.mp hoccurs
        obtain ⟨first, more, rfl⟩ := List.exists_cons_of_ne_nil hold
        obtain ⟨rfl, rfl⟩ := List.cons_eq_cons.mp htail
        have hdrop : (more.append tail).drop ((first :: more).length - 1) = tail := by simp
        rw [hdrop] at ih
        have hbehind := (ih (@List.IsChain.right_of_append _ _ (first :: more) tail hchain)).1
        refine ⟨hnew.apart.append hbehind fun last hmem next _ hboth => hlast last hmem hboth.1, ?_⟩
        rw [List.head?_append, hhead]
        rfl
    | case4 c rest hoccurs ih =>
        intro hchain
        obtain ⟨hnext, hrest⟩ := List.isChain_cons.mp hchain
        obtain ⟨hbehind, hsame⟩ := ih hrest
        exact ⟨hbehind.cons fun next hmem => hnext next (hsame ▸ hmem), rfl⟩
  refine ⟨fun c hc hblank => ?_, (happart (h.apart.suffix (List.drop_suffix skip text))).1⟩
  rcases mem_replaceFrom hc with hc | hc
  · exact hnew.spaces c hc hblank
  · exact h.spaces c hc hblank

/-! ### Heads -/

/-- What becomes of a text that stands in a head between marks that are not blank. -/
def squeeze (text : List Char) : List Char :=
  replace "function(".toList "function (".toList (squeezed false text)

/-- A text in a head stays as it is if and only if its blank space is single spaces and `function(`
does not stand in it. -/
theorem squeeze_eq_self_iff {text : List Char} :
    squeeze text = text ↔ IsSingleSpaced text ∧ ¬ "function(".toList <:+: text := by
  have hreplace : ∀ text, replace "function(".toList "function (".toList text = text ↔
      ¬ "function(".toList <:+: text :=
    fun text => replace_eq_self_iff (by decide) (by decide)
  have hword : IsSingleSpaced "function (".toList := isSingleSpaced_squeezed "function (".toList
  have hlast : ∀ c ∈ "function (".toList.getLast?, ¬ isBlank c := by
    rintro c ⟨⟩
    decide
  constructor
  · intro heq
    -- Squeezing makes single spaces, after which only the replacement can change anything.
    have hspaced : IsSingleSpaced (squeeze text) :=
      IsSingleSpaced.replaceFrom (by decide) hword (by decide) hlast
        (isSingleSpaced_squeezed text)
    rw [heq] at hspaced
    rw [squeeze, hspaced.squeezed_eq, hreplace] at heq
    exact ⟨hspaced, heq⟩
  · rintro ⟨hspaced, hnone⟩
    rw [squeeze, hspaced.squeezed_eq]
    exact (hreplace text).mpr hnone

/-- What stands in front of a mark that is neither blank nor in `function(`, and what stands behind
it, are squeezed each by itself. -/
theorem squeeze_append {mark : Char} (hblank : ¬ isBlank mark)
    (hmark : mark ∉ "function(".toList) (text more : List Char) :
    squeeze (text ++ mark :: more) = squeeze text ++ mark :: squeeze more := by
  rw [squeeze, squeezed_append hblank, replace,
    replaceFrom_append hmark (by decide) (Nat.zero_le _)]
  rfl

/-- Trimming the start of a text stops at the latest in front of a mark that is not blank. -/
theorem trimStart_append {mark : Char} (hmark : ¬ isBlank mark) (text more : List Char) :
    trimStart (text ++ mark :: more) = trimStart text ++ mark :: more := by
  rw [trimStart, List.dropWhile_append, List.dropWhile_cons_of_neg hmark]
  split
  · rename_i hnone
    rw [trimStart, List.isEmpty_iff.mp hnone, List.nil_append]
  · rfl

/-- Trimming the end of a text stops at the latest behind such a mark. -/
theorem trimEnd_append {mark : Char} (hmark : ¬ isBlank mark) (text more : List Char) :
    trimEnd (text ++ mark :: more) = text ++ mark :: trimEnd more := by
  have hreverse : (text ++ mark :: more).reverse = more.reverse ++ mark :: text.reverse := by
    simp
  have hstart := trimStart_append hmark more.reverse text.reverse
  unfold trimStart at hstart
  rw [trimEnd, dropEndWhile, hreverse, hstart]
  simp [trimEnd, dropEndWhile]

/-- Blank space around a text changes none of its words. -/
theorem words_trim (head : List Char) : words (trim head) = words head := by
  obtain ⟨tail, htrim, htail⟩ := dropEndWhile_split isBlank (trimStart head)
  -- Blank space at the end makes no word, and neither does blank space at the start.
  have hend : ∀ text, words (text ++ tail) = words text := by
    clear htrim
    induction tail with
    | nil => simp
    | cons blank tail ih =>
        obtain ⟨hblank, htail⟩ := List.forall_mem_cons.mp htail
        intro text
        rw [List.append_cons, ih htail, words, wordsFrom_append_blank hblank, words]
  have hstart : words head = words (trimStart head) := by
    clear hend htail htrim tail
    induction head with
    | nil => rfl
    | cons c rest ih =>
        by_cases hc : isBlank c
        · rw [trimStart, List.dropWhile_cons_of_pos hc, words, wordsFrom, if_pos hc]
          exact ih
        · rw [trimStart, List.dropWhile_cons_of_neg hc]
  rw [hstart, htrim, hend]
  rfl

/-- The words of a trimmed text, joined by spaces, are the text with its blank space squeezed. -/
theorem joined_words {text : List Char} (h : IsTrimmed text) :
    joined (words text) = squeezed false text := by
  obtain ⟨hhead, hend⟩ := h
  rcases List.eq_nil_or_concat text with rfl | ⟨front, last, rfl⟩
  · rfl
  rw [List.concat_eq_append] at hhead hend ⊢
  have hlast : ¬ isBlank last := hend last (by simp)
  cases front with
  | nil => simp [words, wordsFrom, hlast, joined, squeezed]
  | cons first more =>
      have hfirst : ¬ isBlank first := hhead first rfl
      rw [words, List.cons_append, wordsFrom, if_neg hfirst, squeezed, if_neg hfirst,
        squeezed_append hlast]
      exact (joined_wordsFrom hlast more).1 [first] (List.cons_ne_nil _ _)

/-- A head is squeezed without the blank space around it. -/
theorem collapseHead_eq (head : List Char) : collapseHead head = squeeze (trim head) := by
  rw [squeeze, ← joined_words (isTrimmed_trim head), words_trim]
  rfl

/-- What stands in quotation marks in a head is squeezed by itself, whatever it means. -/
theorem collapseHead_quoted {quote : Char} (hquote : quote ∈ ['\x22', '\x27', '\x60'])
    (front content behind : List Char) :
    collapseHead (front ++ quote :: (content ++ quote :: behind)) =
      squeeze (trimStart front) ++ quote :: (squeeze content ++ quote ::
        squeeze (trimEnd behind)) := by
  obtain ⟨hblank, hmark⟩ : ¬ isBlank quote ∧ quote ∉ "function(".toList := by
    simp only [List.mem_cons, List.not_mem_nil, or_false] at hquote
    rcases hquote with rfl | rfl | rfl <;> decide
  have htrim : trim (front ++ quote :: (content ++ quote :: behind)) =
      trimStart front ++ quote :: (content ++ quote :: trimEnd behind) := by
    have hend := trimEnd_append hblank (trimStart front ++ quote :: content) behind
    rw [trim, trimStart_append hblank]
    simpa using hend
  rw [collapseHead_eq, htrim, squeeze_append hblank hmark, squeeze_append hblank hmark]

end MiniApp.Handler
