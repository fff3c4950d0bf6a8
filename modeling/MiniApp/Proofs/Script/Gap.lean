import MiniApp.Proofs.Script.Reading

/-!
# Tokens end before white space

A token is spelled with characters that are no white space, up to its last one: white space stands
only between two quotation marks, in a template or in a regular expression. So what is left behind a
token of a text that ends in white space ends in white space too, and is not empty (`scan_gap`).
-/

set_option autoImplicit false

namespace MiniApp.Script

open MiniApp.Text

/-- White space or the end of a line. -/
def IsGap (c : Char) : Prop :=
  isSpace c ∨ isLineTerminator c

instance : DecidablePred IsGap := fun c =>
  inferInstanceAs (Decidable (isSpace c ∨ isLineTerminator c))

/-- The text ends in white space or with the end of a line. -/
def EndsInGap : List Char → Prop
  | [] => False
  | [c] => IsGap c
  | _ :: rest => EndsInGap rest

/-- Whether a text ends in white space is seen from its last character. -/
@[grind =] theorem endsInGap_cons (c : Char) (rest : List Char) :
    EndsInGap (c :: rest) ↔ (rest = [] ∧ IsGap c) ∨ EndsInGap rest := by
  cases rest with
  | nil => simp [EndsInGap]
  | cons d rest => simp [EndsInGap]

/-- An empty text does not end in white space. -/
@[grind .] theorem not_endsInGap_nil : ¬ EndsInGap [] :=
  id

/-- What stands in front of a gap without a gap in it stands in front of the rest. -/
theorem EndsInGap.of_append {front rest : List Char} (h : EndsInGap (front ++ rest))
    (hfront : ∀ c ∈ front, ¬ IsGap c) : EndsInGap rest := by
  induction front with
  | nil => exact h
  | cons c front ih =>
      rw [List.cons_append, endsInGap_cons] at h
      rcases h with ⟨-, hgap⟩ | h
      · exact absurd hgap (hfront c List.mem_cons_self)
      · exact ih h fun d hd => hfront d (List.mem_cons_of_mem c hd)

/-- A text with white space put behind it ends in white space. -/
theorem endsInGap_append {rest : List Char} (front : List Char) (hne : rest ≠ [])
    (hgap : ∀ c ∈ rest, IsGap c) :
    EndsInGap (front ++ rest) := by
  induction front with
  | nil =>
      induction rest with
      | nil => exact absurd rfl hne
      | cons c rest ih =>
          rw [List.nil_append, endsInGap_cons]
          by_cases hrest : rest = []
          · exact .inl ⟨hrest, hgap c List.mem_cons_self⟩
          · exact .inr (ih hrest fun d hd => hgap d (List.mem_cons_of_mem c hd))
  | cons c front ih => exact (endsInGap_cons c _).mpr (.inr ih)

/-- The codes of the characters of gaps. -/
def gapCodes : List Nat :=
  [9, 0xA, 0xB, 0xC, 0xD, 0x20, 0x85, 0xA0, 0x1680, 0x2000, 0x2001, 0x2002, 0x2003, 0x2004, 0x2005,
    0x2006, 0x2007, 0x2008, 0x2009, 0x200A, 0x200B, 0x2028, 0x2029, 0x202F, 0x205F, 0x3000, 0xFEFF]

/-- White space and line ends are listed by their codes. -/
theorem IsGap.code {c : Char} (h : IsGap c) : c.toNat ∈ gapCodes := by
  have hchar : ∀ d : Char, c = d ↔ c.toNat = d.toNat := fun d =>
    ⟨fun h => h ▸ rfl, fun h => Char.toNat_inj.mp h⟩
  simp only [IsGap, isSpace, isLineTerminator, Bool.or_eq_true, Bool.and_eq_true,
    decide_eq_true_eq, beq_iff_eq, hchar] at h
  have hline : '\n'.toNat = 10 := rfl
  have hreturn : '\r'.toNat = 13 := rfl
  simp only [gapCodes, List.mem_cons, List.not_mem_nil, or_false]
  omega

/-- A test that no character of the list passes holds of no white space. -/
theorem not_isGap_of {p : Char → Bool} (hp : ∀ n ∈ gapCodes, p (Char.ofNat n) = false) {c : Char}
    (h : p c) : ¬ IsGap c := by
  intro hgap
  have hnot := hp c.toNat hgap.code
  rw [Char.ofNat_toNat, h] at hnot
  cases hnot

/-- No character of a word is white space. -/
theorem IsSpelling.not_isGap {c : Char} (h : IsSpelling c) : ¬ IsGap c := by
  rcases h with h | rfl | rfl | rfl
  · exact not_isGap_of (by decide +kernel) h
  all_goals decide

/-- No digit is white space. -/
@[grind →] theorem not_isGap_of_isDigit {c : Char} (h : c.isDigit) : ¬ IsGap c :=
  not_isGap_of (by decide +kernel) h

/-! ### Numbers -/

/-- Behind digits the text still ends in white space, since that is no digit. -/
theorem afterDigitsFrom_gap {isDigit : Char → Bool} (hdigit : ∀ c, isDigit c → ¬ IsGap c)
    {inside : Bool} {text rest : List Char} (h : afterDigitsFrom isDigit inside text = some rest)
    (hgap : EndsInGap text) : EndsInGap rest := by
  have hline : ¬ IsGap '_' := by decide
  fun_induction afterDigitsFrom isDigit inside text <;> grind

/-- So it does behind digits that start here. -/
theorem afterDigits_gap {isDigit : Char → Bool} (hdigit : ∀ c, isDigit c → ¬ IsGap c)
    {text rest : List Char} (h : afterDigits isDigit text = some rest) (hgap : EndsInGap text) :
    EndsInGap rest :=
  afterDigitsFrom_gap hdigit h hgap

/-- So it does behind decimal digits. -/
theorem afterDecimalDigits_gap {text rest : List Char}
    (h : afterDigits Char.isDigit text = some rest) (hgap : EndsInGap text) : EndsInGap rest :=
  afterDigitsFrom_gap (fun _ => not_isGap_of_isDigit) h hgap

/-- So it does behind an exponent. -/
theorem afterExponent_gap {text rest : List Char} (h : afterExponent text = some rest)
    (hgap : EndsInGap text) : EndsInGap rest := by
  have he : ¬ IsGap 'e' := by decide
  have hE : ¬ IsGap 'E' := by decide
  have hplus : ¬ IsGap '+' := by decide
  have hminus : ¬ IsGap '-' := by decide
  unfold afterExponent at h
  grind [→ afterDecimalDigits_gap]

/-- So it does behind a fraction. -/
theorem afterFraction_gap {text rest : List Char} (h : afterFraction text = some rest)
    (hgap : EndsInGap text) : EndsInGap rest := by
  unfold afterFraction at h
  simp only [Option.bind_eq_bind] at h
  grind [→ afterDecimalDigits_gap, → afterExponent_gap, Option.bind_eq_some_iff]

/-- So it does behind a number with its base in front. -/
theorem afterBased_gap {isDigit : Char → Bool} (hdigit : ∀ c, isDigit c → ¬ IsGap c)
    {text rest : List Char} {big : Bool} (h : afterBased isDigit text = some (rest, big))
    (hgap : EndsInGap text) : EndsInGap rest := by
  have hn : ¬ IsGap 'n' := by decide
  obtain ⟨behind, hbehind, h⟩ := Option.bind_eq_some_iff.mp h
  have hrest := afterDigits_gap hdigit hbehind hgap
  grind

/-- So it does behind a decimal number. -/
theorem afterDecimal_gap {text rest : List Char} {big : Bool}
    (h : afterDecimal text = some (rest, big)) (hgap : EndsInGap text) : EndsInGap rest := by
  have hn : ¬ IsGap 'n' := by decide
  have hpoint : ¬ IsGap '.' := by decide
  obtain ⟨behind, hbehind, h⟩ := Option.bind_eq_some_iff.mp h
  have hrest := afterDecimalDigits_gap hbehind hgap
  simp only [Option.bind_eq_bind] at h
  grind [→ afterExponent_gap, → afterFraction_gap, Option.bind_eq_some_iff]

/-- So it does behind a number that starts with a zero. -/
theorem afterZeroLed_gap {text rest : List Char} (h : afterZeroLed text = some rest)
    (hgap : EndsInGap text) : EndsInGap rest := by
  have hpoint : ¬ IsGap '.' := by decide
  have hsplit : text.takeWhile Char.isDigit ++ text.dropWhile Char.isDigit = text :=
    List.takeWhile_append_dropWhile
  have hdrop : EndsInGap (text.dropWhile Char.isDigit) := by
    rw [← hsplit] at hgap
    exact hgap.of_append fun c hc =>
      not_isGap_of_isDigit (List.all_eq_true.mp List.all_takeWhile c hc)
  unfold afterZeroLed at h
  grind [→ afterExponent_gap, → afterFraction_gap]

/-- So it does behind a number of any form. -/
theorem afterNumber_gap {text rest : List Char} {big : Bool}
    (h : afterNumber text = some (rest, big)) (hgap : EndsInGap text) : EndsInGap rest := by
  have hpoint : ¬ IsGap '.' := by decide
  have hhex : ∀ c, isHexDigit c → ¬ IsGap c := fun _ => not_isGap_of (by decide +kernel)
  have hoctal : ∀ c, isOctalDigit c → ¬ IsGap c := fun _ => not_isGap_of (by decide +kernel)
  have hbinary : ∀ c, isBinaryDigit c → ¬ IsGap c := fun _ => not_isGap_of (by decide +kernel)
  unfold afterNumber at h
  extract_lets follow at h
  -- What follows a number is only looked at, so each kind of number is followed up alike.
  have hfollow : ∀ behind, follow behind = some (rest, big) → rest = behind.1 := by
    intro behind hbehind
    grind
  clear_value follow
  have hdecimal : (afterDecimal text).bind follow = some (rest, big) → EndsInGap rest := by
    intro h
    obtain ⟨⟨behind, isBig⟩, hbehind, h⟩ := Option.bind_eq_some_iff.mp h
    rw [hfollow _ h]
    exact afterDecimal_gap hbehind hgap
  split at h
  · rename_i fraction
    obtain ⟨behind, hbehind, h⟩ := Option.bind_eq_some_iff.mp h
    rw [hfollow _ h]
    exact afterFraction_gap hbehind (by grind)
  · rename_i c digits
    have hbased : ∀ (isDigit : Char → Bool), (∀ d, isDigit d → ¬ IsGap d) → ¬ IsGap c →
        (afterBased isDigit digits).bind follow = some (rest, big) → EndsInGap rest := by
      intro isDigit hdigit hc h
      obtain ⟨⟨behind, isBig⟩, hbehind, h⟩ := Option.bind_eq_some_iff.mp h
      rw [hfollow _ h]
      exact afterBased_gap hdigit hbehind (by grind)
    split at h
    · exact hbased _ hhex (not_isGap_of (p := fun d => d == 'x' || d == 'X') (by decide) ‹_›) h
    split at h
    · exact hbased _ hoctal (not_isGap_of (p := fun d => d == 'o' || d == 'O') (by decide) ‹_›) h
    split at h
    · exact hbased _ hbinary (not_isGap_of (p := fun d => d == 'b' || d == 'B') (by decide) ‹_›) h
    split at h
    · obtain ⟨behind, hbehind, h⟩ := Option.bind_eq_some_iff.mp h
      rw [hfollow _ h]
      exact afterZeroLed_gap hbehind hgap
    split at h
    · cases h
    · exact hdecimal h
  · exact hdecimal h

/-! ### Quoted literals -/

/-- Behind a string the text still ends in white space, which the quotation mark is not. -/
theorem afterString_gap {quote : Char} {skip : Nat} {text rest : List Char} (hquote : ¬ IsGap quote)
    (h : afterString quote skip text = some rest) (hgap : EndsInGap text) : EndsInGap rest := by
  have hnil : ∀ n, afterString quote n [] = none := fun n => by rw [afterString]
  fun_induction afterString quote skip text with
  | case8 c hend hline hescape digits ih =>
      obtain ⟨⟨code, size⟩, -, h⟩ := Option.bind_eq_some_iff.mp h
      exact ih size h (by grind)
  | _ => grind

/-- So it does behind a piece of a template. -/
theorem readChunk_gap {valid : Bool} {text : List Char} {chunk : Chunk}
    (h : readChunk valid text = some chunk) (hgap : EndsInGap text) : EndsInGap chunk.rest := by
  have hquote : ¬ IsGap '\x60' := by decide
  have hbrace : ¬ IsGap '{' := by decide
  have hnil : ∀ valid, readChunk valid [] = none := fun valid => by rw [readChunk]
  fun_induction readChunk valid text <;> grind

/-- So it does behind the pattern of a regular expression. -/
theorem afterPattern_gap {inClass : Bool} {text rest : List Char}
    (h : afterPattern inClass text = some rest) (hgap : EndsInGap text) : EndsInGap rest := by
  have hslash : ¬ IsGap '/' := by decide
  have hnil : ∀ inClass, afterPattern inClass [] = none := fun inClass => by rw [afterPattern]
  fun_induction afterPattern inClass text <;> grind

/-- So it does behind a regular expression with its flags. -/
theorem afterRegex_gap {text rest : List Char} (h : afterRegex text = some rest)
    (hgap : EndsInGap text) : EndsInGap rest := by
  obtain ⟨behind, hbehind, h⟩ := Option.bind_eq_some_iff.mp h
  have hbehind := afterPattern_gap hbehind hgap
  dsimp only at h
  split at h
  · cases h
    -- The flags are spelled like a name, which has no gap in it.
    generalize hflags : behind.takeWhile (fun c => continuesName c || c == '\\') = flags
    have hsplit : flags ++ behind.drop flags.length = behind := by
      rw [← hflags]
      exact List.prefix_iff_eq_append.mp (List.takeWhile_prefix _)
    rw [← hsplit] at hbehind
    refine hbehind.of_append fun c hc => ?_
    have hletter : continuesName c || c == '\\' :=
      List.all_eq_true.mp List.all_takeWhile c (hflags ▸ hc)
    rcases Bool.or_eq_true _ _ ▸ hletter with hletter | hletter
    · exact IsSpelling.not_isGap (.inl hletter)
    · exact IsSpelling.not_isGap (.inr (.inl (beq_iff_eq.mp hletter)))
  · cases h

/-! ### Tokens -/

/-- So it does behind a word. -/
theorem readWord_gap {text : List Char} {word : Word} (h : readWord text = some word)
    (hgap : EndsInGap text) : EndsInGap word.rest := by
  obtain ⟨⟨raw, hraw, hspelling⟩, -⟩ := readWord_spelling h
  rw [← hraw] at hgap
  exact hgap.of_append fun c hc => (hspelling c hc).not_isGap

/-- So it does behind a mark. -/
theorem readMark_gap {text rest : List Char} {mark : Mark}
    (h : readMark text = some (mark, rest)) (hgap : EndsInGap text) : EndsInGap rest := by
  obtain ⟨spelling, hmem, hspelling⟩ := readMark_spelling h
  have hsolid : Mark.spellings.all fun entry => entry.1.all fun c => ¬ IsGap c := by
    decide +kernel
  have hentry := List.all_eq_true.mp hsolid _ hmem
  rw [← hspelling] at hgap
  exact hgap.of_append fun c hc => of_decide_eq_true (List.all_eq_true.mp hentry c hc)

/-- No token goes up to the end of a text that ends in white space. -/
theorem readShape_gap {text rest : List Char} {shape : Token.Shape}
    (h : readShape text = some (shape, rest)) (hgap : EndsInGap text) : EndsInGap rest := by
  cases text with
  | nil => exact hgap.elim
  | cons c tail =>
      -- The first character may be given up where it is no gap, as the first mark of a literal.
      have htail : ¬ IsGap c → EndsInGap tail := by grind
      simp only [readShape, Option.bind_eq_bind] at h
      split at h
      · obtain ⟨word, hword, h⟩ := Option.bind_eq_some_iff.mp h
        cases h
        exact readWord_gap hword hgap
      split at h
      · obtain ⟨⟨after, big⟩, hafter, h⟩ := Option.bind_eq_some_iff.mp h
        cases h
        exact afterNumber_gap hafter hgap
      split at h
      · rename_i hquote
        have hquote : ¬ IsGap c :=
          not_isGap_of (p := fun d => d == '\x22' || d == '\x27') (by decide) hquote
        obtain ⟨after, hafter, h⟩ := Option.bind_eq_some_iff.mp h
        cases h
        exact afterString_gap hquote hafter (htail hquote)
      split at h
      · rename_i htick
        obtain ⟨chunk, hchunk, h⟩ := Option.bind_eq_some_iff.mp h
        cases h
        exact readChunk_gap hchunk (htail (not_isGap_of (p := (· == '\x60')) (by decide) htick))
      split at h
      · rename_i hhash
        obtain ⟨word, hword, h⟩ := Option.bind_eq_some_iff.mp h
        cases h
        exact readWord_gap hword (htail (not_isGap_of (p := (· == '#')) (by decide) hhash))
      · obtain ⟨⟨mark, after⟩, hmark, h⟩ := Option.bind_eq_some_iff.mp h
        cases h
        exact readMark_gap hmark hgap

/-- An end of the text that is not empty ends in white space as the text does. -/
theorem EndsInGap.of_suffix {text rest : List Char} (hgap : EndsInGap text) (h : rest <:+ text)
    (hne : rest ≠ []) : EndsInGap rest := by
  obtain ⟨front, rfl⟩ := h
  induction front with
  | nil => exact hgap
  | cons c front ih =>
      rw [List.cons_append, endsInGap_cons] at hgap
      rcases hgap with ⟨hnil, -⟩ | hgap
      · exact absurd (List.append_eq_nil_iff.mp hnil).2 hne
      · exact ih hgap

/-- Behind any token but the end of a text, what is left ends in white space as the text does. -/
theorem scan_gap {text rest : List Char} {token : Token} (h : scan text = some (token, rest))
    (hshape : token.shape ≠ .finish) (hgap : EndsInGap text) : EndsInGap rest := by
  obtain ⟨⟨behind, onNewLine⟩, hskip, h⟩ := Option.bind_eq_some_iff.mp h
  obtain ⟨⟨shape, after⟩, hread, h⟩ := Option.bind_eq_some_iff.mp h
  cases h
  refine readShape_gap hread (hgap.of_suffix (skip_suffix hskip) ?_)
  -- Where nothing is left behind the white space, the token is the end.
  rintro rfl
  cases hread
  exact hshape rfl

end MiniApp.Script
