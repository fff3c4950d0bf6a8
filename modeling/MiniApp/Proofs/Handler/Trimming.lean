import MiniApp.Handler.Shape

/-!
# Trimming looks at the ends of a text only

The text of a statement is cut out of its source: blank space is cut off at both ends, and
semicolons at the last one. What is cut off depends on the first and last characters of what stays,
and on these only by whether they are blank or semicolons (`edge`).

* `cut_split`: if another text with the same edges takes the place of what stays, then just this
  text stays instead.
* `IsTrimmed.trim_eq`: trimming changes nothing where there is no blank space at the ends.
* `trim_append`: text put behind a text stays there; only blank space is cut off again.
-/

set_option autoImplicit false

namespace MiniApp.Handler

open MiniApp.Text MiniApp.Script

/-- What trimming looks at: whether a character is blank, and whether it is a semicolon. -/
def edge (c : Char) : Bool × Bool :=
  (isBlank c, c == ';')

/-- The texts have the same edges. -/
def SameEdges (text other : List Char) : Prop :=
  text.head?.map edge = other.head?.map edge ∧ text.getLast?.map edge = other.getLast?.map edge

/-- Texts have the same edges either way round. -/
theorem SameEdges.symm {text other : List Char} (h : SameEdges text other) :
    SameEdges other text :=
  ⟨h.1.symm, h.2.symm⟩

/-- Of texts with the same edges both are empty or neither is. -/
theorem SameEdges.nil_iff {text other : List Char} (h : SameEdges text other) :
    text = [] ↔ other = [] := by
  have hhead := congrArg Option.isSome h.1
  cases text <;> cases other <;> simp_all

/-- What is cut off behind a text depends on the last character of this text only. -/
theorem dropEndWhile_replace {p : Char → Bool} {text other tail kept : List Char} {a b : Char}
    (hsame : p a = p b) (h : dropEndWhile p (text ++ [a] ++ tail) = text ++ [a] ++ kept) :
    dropEndWhile p (other ++ [b] ++ tail) = other ++ [b] ++ kept := by
  have hdrop : ∀ (front : List Char) (c : Char), dropEndWhile p (front ++ [c] ++ tail) =
      if (tail.reverse.dropWhile p).isEmpty then ((c :: front.reverse).dropWhile p).reverse
      else front ++ [c] ++ (tail.reverse.dropWhile p).reverse := by
    intro front c
    simp only [dropEndWhile, List.reverse_append, List.reverse_singleton, List.singleton_append,
      List.dropWhile_append]
    split <;> simp
  rw [hdrop] at h ⊢
  by_cases htail : (tail.reverse.dropWhile p).isEmpty
  · rw [if_pos htail] at h ⊢
    by_cases ha : p a
    · -- Then something of the text itself would be cut off.
      rw [List.dropWhile_cons_of_pos ha] at h
      have hlength := congrArg List.length h
      have hle := (List.dropWhile_sublist p (l := text.reverse)).length_le
      simp only [List.length_reverse, List.length_append, List.length_singleton] at hlength hle
      omega
    · have hb : ¬ p b := hsame ▸ ha
      rw [List.dropWhile_cons_of_neg ha, List.reverse_cons, List.reverse_reverse] at h
      rw [List.dropWhile_cons_of_neg hb, List.reverse_cons, List.reverse_reverse]
      have hkept : kept = [] := List.self_eq_append_right.mp h
      rw [hkept, List.append_nil]
  · rw [if_neg htail] at h ⊢
    rw [List.append_cancel_left h]

/-- What is cut off in front of a text depends on the first character of this text only. -/
theorem trimStart_replace {front text other : List Char} {a b : Char}
    (hsame : isBlank a = isBlank b) (h : trimStart (front ++ a :: text) = a :: text) :
    trimStart (front ++ b :: other) = b :: other := by
  unfold trimStart at h ⊢
  rw [List.dropWhile_append] at h ⊢
  -- All that stands in front is blank, since something of it would be left otherwise.
  by_cases hfront : (front.dropWhile isBlank).isEmpty
  · rw [if_pos hfront] at h ⊢
    have ha : ¬ isBlank a := by
      intro ha
      rw [List.dropWhile_cons_of_pos ha] at h
      have hle := (List.dropWhile_sublist isBlank (l := text)).length_le
      rw [h, List.length_cons] at hle
      omega
    exact List.dropWhile_cons_of_neg (hsame ▸ ha)
  · rw [if_neg hfront] at h
    have hnil : front.dropWhile isBlank = [] := List.append_left_eq_self.mp h
    exact absurd (hnil ▸ rfl) hfront

/-- What is dropped at the end of a text is a stretch of characters that are to be dropped. -/
theorem dropEndWhile_split (p : Char → Bool) (text : List Char) :
    ∃ tail, text = dropEndWhile p text ++ tail ∧ ∀ c ∈ tail, p c := by
  refine ⟨(text.reverse.takeWhile p).reverse, ?_, ?_⟩
  · rw [dropEndWhile, ← List.reverse_append, List.takeWhile_append_dropWhile, List.reverse_reverse]
  · intro c hc
    exact List.all_eq_true.mp List.all_takeWhile c (List.mem_reverse.mp hc)

/-- What stays of the text of a statement when it is cut out of its stretch of the source. -/
def cut (text : List Char) : List Char :=
  trimEnd (dropSemicolons (trim text))

/-- The text of a statement is what stays of its stretch of the source. -/
theorem statementText_eq (source : List Char) (statement : Script.Node) :
    statementText source statement = cut (statement.span.slice source) :=
  rfl

/-- If what stays is not empty, another text with the same edges stays in its place. -/
theorem cut_replace {text front other more semicolons blanks : List Char}
    (hfront : text = front ++ trimStart text) (htrim : trimStart text = trim text ++ blanks)
    (hdrop : trim text = dropSemicolons (trim text) ++ semicolons)
    (hcut : dropSemicolons (trim text) = cut text ++ more) (hedges : SameEdges (cut text) other)
    (hne : cut text ≠ []) : cut (front ++ other ++ (more ++ semicolons ++ blanks)) = other := by
  have hne' : other ≠ [] := fun h => hne (hedges.nil_iff.mpr h)
  obtain ⟨first, behind, hcons⟩ := List.exists_cons_of_ne_nil hne
  obtain ⟨first', behind', hcons'⟩ := List.exists_cons_of_ne_nil hne'
  obtain ⟨before, last, hconcat⟩ := (List.eq_nil_or_concat _).resolve_left hne
  obtain ⟨before', last', hconcat'⟩ := (List.eq_nil_or_concat _).resolve_left hne'
  have hfirst : edge first = edge first' := by
    have hhead := hedges.1
    rw [hcons, hcons'] at hhead
    exact Option.some.inj hhead
  have hlast : edge last = edge last' := by
    have hend := hedges.2
    rw [hconcat, hconcat', List.concat_eq_append, List.concat_eq_append, List.getLast?_concat,
      List.getLast?_concat] at hend
    exact Option.some.inj hend
  have hblank : isBlank last = isBlank last' := congrArg Prod.fst hlast
  have hsemicolon : (last == ';') = (last' == ';') := congrArg Prod.snd hlast
  have hwhole : trimStart text = cut text ++ (more ++ semicolons ++ blanks) := by
    rw [htrim, hdrop, hcut]
    simp only [List.append_assoc]
  -- Each of the four steps cuts off the same as from the text itself.
  have hstart : trimStart (front ++ other ++ (more ++ semicolons ++ blanks)) =
      other ++ (more ++ semicolons ++ blanks) := by
    have hkept : trimStart text = first :: (behind ++ (more ++ semicolons ++ blanks)) := by
      rw [hwhole, hcons]
      rfl
    have hagain : trimStart (front ++ first :: (behind ++ (more ++ semicolons ++ blanks))) =
        first :: (behind ++ (more ++ semicolons ++ blanks)) := by
      rw [← hkept, ← hfront]
    rw [hcons', List.append_assoc, List.cons_append]
    exact trimStart_replace (congrArg Prod.fst hfirst) hagain
  have hend : ∀ {p : Char → Bool} {tail kept : List Char}, p last = p last' →
      dropEndWhile p (cut text ++ tail) = cut text ++ kept →
        dropEndWhile p (other ++ tail) = other ++ kept := by
    intro p tail kept hsame h
    rw [hconcat, List.concat_eq_append] at h
    rw [hconcat', List.concat_eq_append]
    exact dropEndWhile_replace hsame h
  have hblanks : trimEnd (other ++ (more ++ semicolons ++ blanks)) =
      other ++ (more ++ semicolons) := by
    refine hend hblank ?_
    rw [← hwhole, ← List.append_assoc, ← hcut, ← hdrop]
    rfl
  have hsemicolons : dropSemicolons (other ++ (more ++ semicolons)) = other ++ more := by
    refine hend hsemicolon ?_
    rw [← List.append_assoc, ← hcut, ← hdrop]
    rfl
  have hmore : trimEnd (other ++ more) = other := by
    have hnone : trimEnd (other ++ more) = other ++ [] := by
      refine hend hblank ?_
      rw [← hcut, List.append_nil]
      rfl
    rwa [List.append_nil] at hnone
  rw [cut, trim, hstart, hblanks, hsemicolons, hmore]

/-- What is cut off a text is blank, or semicolons behind it, and it is cut off as well if another
text with the same edges takes the place of what stays. -/
theorem cut_split (text : List Char) :
    ∃ tail, text = text.takeWhile isBlank ++ cut text ++ tail ∧
      (∀ c ∈ tail, isBlank c ∨ c = ';') ∧
        ∀ other, SameEdges (cut text) other →
          cut (text.takeWhile isBlank ++ other ++ tail) = other := by
  obtain ⟨blanks, htrim, hblanks⟩ := dropEndWhile_split isBlank (trimStart text)
  obtain ⟨semicolons, hdrop, hsemicolons⟩ := dropEndWhile_split (· == ';') (trim text)
  obtain ⟨more, hcut, hmore⟩ := dropEndWhile_split isBlank (dropSemicolons (trim text))
  have hfront : text = text.takeWhile isBlank ++ trimStart text :=
    List.takeWhile_append_dropWhile.symm
  -- What is cut off at the end comes off in three turns: blanks, semicolons, and blanks again.
  have hsplit : text = text.takeWhile isBlank ++ cut text ++ (more ++ semicolons ++ blanks) := by
    have hwhole : trimStart text = cut text ++ (more ++ semicolons ++ blanks) := by
      show trimStart text = cut text ++ _
      rw [htrim]
      show trim text ++ blanks = _
      rw [hdrop]
      show dropSemicolons (trim text) ++ semicolons ++ blanks = _
      rw [hcut]
      show cut text ++ more ++ semicolons ++ blanks = _
      simp only [List.append_assoc]
    rw [List.append_assoc, ← hwhole]
    exact hfront
  refine ⟨more ++ semicolons ++ blanks, hsplit, ?_, ?_⟩
  · intro c hc
    rcases List.mem_append.mp hc with hc | hc
    · rcases List.mem_append.mp hc with hc | hc
      · exact .inl (hmore c hc)
      · exact .inr (beq_iff_eq.mp (hsemicolons c hc))
    · exact .inl (hblanks c hc)
  · intro other hedges
    by_cases hempty : cut text = []
    · rw [hedges.nil_iff.mp hempty, ← hempty, ← hsplit]
    · exact cut_replace hfront htrim hdrop hcut hedges hempty

/-! ### Texts without blank space around them -/

/-- Neither the first nor the last character is blank. -/
def IsTrimmed (text : List Char) : Prop :=
  (∀ c ∈ text.head?, ¬ isBlank c) ∧ ∀ c ∈ text.getLast?, ¬ isBlank c

/-- The first character that is left is not one to be dropped. -/
theorem dropWhile_head {p : Char → Bool} {text : List Char} {c : Char}
    (h : c ∈ (text.dropWhile p).head?) : ¬ p c := by
  induction text with
  | nil => exact nomatch h
  | cons first rest ih =>
      by_cases hfirst : p first
      · rw [List.dropWhile_cons_of_pos hfirst] at h
        exact ih h
      · rw [List.dropWhile_cons_of_neg hfirst] at h
        exact Option.some.inj h ▸ hfirst

/-- Nothing blank is left around a text that has been trimmed. -/
theorem isTrimmed_trim (text : List Char) : IsTrimmed (trim text) := by
  constructor
  · intro c hc
    obtain ⟨tail, htrim, htail⟩ := dropEndWhile_split isBlank (trimStart text)
    have hhead : c ∈ (trimStart text).head? := by
      rw [htrim]
      show c ∈ (trim text ++ tail).head?
      rw [List.head?_append, Option.mem_def.mp hc]
      rfl
    exact dropWhile_head hhead
  · intro c hc
    rw [trim, trimEnd, dropEndWhile, List.getLast?_reverse] at hc
    exact dropWhile_head hc

/-- Trimming such a text again changes nothing. -/
theorem IsTrimmed.trim_eq {text : List Char} (h : IsTrimmed text) : trim text = text := by
  cases text with
  | nil => rfl
  | cons first rest =>
      have hstart : trimStart (first :: rest) = first :: rest :=
        List.dropWhile_cons_of_neg (h.1 first rfl)
      obtain ⟨before, last, hconcat⟩ :=
        (List.eq_nil_or_concat (first :: rest)).resolve_left (List.cons_ne_nil _ _)
      have hlast : ¬ isBlank last := by
        apply h.2
        rw [hconcat, List.concat_eq_append, List.getLast?_concat]
        rfl
      rw [trim, hstart, hconcat, List.concat_eq_append, trimEnd, dropEndWhile, List.reverse_append]
      rw [List.reverse_singleton, List.singleton_append, List.dropWhile_cons_of_neg hlast,
        List.reverse_cons, List.reverse_reverse]

/-- A text with the edges of a trimmed one is trimmed. -/
theorem SameEdges.isTrimmed {text other : List Char} (h : SameEdges text other)
    (htext : IsTrimmed text) : IsTrimmed other := by
  have hblank : ∀ {first second : Option Char}, first.map edge = second.map edge →
      (∀ c ∈ first, ¬ isBlank c) → ∀ c ∈ second, ¬ isBlank c := by
    intro first second hsame hfirst c hc
    rw [Option.mem_def.mp hc] at hsame
    obtain ⟨d, hd, hedge⟩ := Option.map_eq_some_iff.mp hsame
    have hsame : isBlank d = isBlank c := congrArg Prod.fst hedge
    exact hsame ▸ hfirst d hd
  exact ⟨hblank h.1 htext.1, hblank h.2 htext.2⟩

/-! ### Texts with something around them -/

section Around

variable {content trail : List Char}

/-- Trimming again at the start changes nothing. -/
theorem trimStart_trimStart (text : List Char) : trimStart (trimStart text) = trimStart text := by
  cases htext : trimStart text with
  | nil => rfl
  | cons c rest =>
      have hsolid : c ∈ (text.dropWhile isBlank).head? := by
        rw [← trimStart, htext]
        rfl
      exact List.dropWhile_cons_of_neg (dropWhile_head hsolid)

/-- A text of which nothing is left at the end is blank. -/
theorem isBlank_of_trimEnd {text : List Char} (h : trimEnd text = []) : ∀ c ∈ text, isBlank c := by
  obtain ⟨tail, htext, htail⟩ := dropEndWhile_split isBlank text
  rw [htext, show dropEndWhile isBlank text = [] from h, List.nil_append]
  exact htail

/-- What stands behind a text with a character that is not blank does not matter to the start. -/
theorem trimStart_append_of_ne_nil (hsolid : trim content ≠ []) (trail : List Char) :
    trimStart (content ++ trail) = trimStart content ++ trail := by
  unfold trimStart
  rw [List.dropWhile_append, if_neg]
  intro hempty
  have hnone : trimStart content = [] := List.isEmpty_iff.mp hempty
  rw [trim, hnone] at hsolid
  exact hsolid rfl

/-- What stands in front of a text with a character that is not blank does not matter to the end. -/
theorem trimEnd_append_of_ne_nil {text : List Char} (lead : List Char)
    (hsolid : trimEnd text ≠ []) :
    trimEnd (lead ++ text) = lead ++ trimEnd text := by
  unfold trimEnd dropEndWhile at *
  rw [List.reverse_append, List.dropWhile_append, if_neg, List.reverse_append,
    List.reverse_reverse]
  simpa using hsolid

/-- Blank space behind a text is trimmed. -/
theorem trimEnd_append_blank (text : List Char) (hblank : ∀ c ∈ trail, isBlank c) :
    trimEnd (text ++ trail) = trimEnd text := by
  unfold trimEnd dropEndWhile
  rw [List.reverse_append, List.dropWhile_append_of_pos]
  exact fun c hc => hblank c (List.mem_reverse.mp hc)

/-- Blank space behind a text that is not blank makes no difference to what is left of it. -/
theorem trim_append_blank (hsolid : trim content ≠ []) (hblank : ∀ c ∈ trail, isBlank c) :
    trim (content ++ trail) = trim content := by
  rw [trim, trimStart_append_of_ne_nil hsolid, trimEnd_append_blank _ hblank, trim]

/-- Whatever stands behind it, a text that is not blank begins where its start has been trimmed. -/
theorem trim_append (hsolid : trim content ≠ []) (trail : List Char) :
    ∃ tail, trim (content ++ trail) = trim content ++ tail := by
  obtain ⟨blanks, htrim, -⟩ := dropEndWhile_split isBlank (trimStart content)
  have hwhole : trim (content ++ trail) = trimEnd (trim content ++ (blanks ++ trail)) := by
    rw [trim, trimStart_append_of_ne_nil hsolid, htrim, List.append_assoc]
    rfl
  rw [hwhole]
  by_cases hempty : trimEnd (blanks ++ trail) = []
  · refine ⟨[], ?_⟩
    rw [trimEnd_append_blank _ (isBlank_of_trimEnd hempty), List.append_nil, trim, trimEnd_trimEnd]
  · exact ⟨_, trimEnd_append_of_ne_nil _ hempty⟩

end Around

end MiniApp.Handler
