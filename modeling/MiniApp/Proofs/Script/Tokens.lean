import MiniApp.Script.Token.Scan

/-!
# Where tokens stand

Every token is cut off the front of what is left of a text, behind blank space and comments, and it
takes at least one character unless it is the end of the text. A word is written with the characters
of names and of escapes.

* `scan_spec`: the token that is read next stands in the text and ends where the rest begins.
* `scan_word`: the characters of a token that is a word, in the text and in its name.
* `scan_mark`: the characters of a token that is a mark.
* `scan_opens`: the first character of a token.
* `rescanChunk_spec`, `rescanRegex_spec`: where a token stands that is read again as another one.
-/

set_option autoImplicit false

namespace MiniApp.Script

open MiniApp.Text

/-- A character that may stand in a word as it is written: one of a name, or one of an escape. -/
def IsSpelling (c : Char) : Prop :=
  continuesName c ∨ c = '\\' ∨ c = '{' ∨ c = '}'

/-- A name of a variable: characters that go on with a name, at least one. -/
def IsName (name : List Char) : Prop :=
  name ≠ [] ∧ ∀ c ∈ name, continuesName c

/-! ### The rest of a text -/

/-- An end of a text is one with a character more in front. -/
@[grind ←] theorem suffix_tail {c : Char} {text rest : List Char} (h : rest <:+ text) :
    rest <:+ c :: text :=
  h.trans (List.suffix_cons c text)

/-- What stands behind the first character of an end of a text is an end as well. -/
theorem suffix_of_cons {c : Char} {text rest : List Char} (h : c :: rest <:+ text) :
    rest <:+ text :=
  (List.suffix_cons c rest).trans h

/-- What skipping leaves is the end of the text. -/
theorem skip_suffix {mode : Trivia} {newLine after : Bool} {text rest : List Char}
    (h : mode.skip newLine text = some (rest, after)) : rest <:+ text := by
  fun_induction Trivia.skip mode newLine text <;> grind

/-- What skipping leaves starts with a character that separates no tokens. -/
theorem skip_solid {mode : Trivia} {newLine after : Bool} {c : Char} {text rest : List Char}
    (h : mode.skip newLine text = some (c :: rest, after)) :
    ¬ isSpace c ∧ ¬ isLineTerminator c := by
  fun_induction Trivia.skip mode newLine text <;> grind

/-! ### Numbers -/

/-- What follows digits is an end of the text. -/
theorem afterDigitsFrom_suffix {isDigit : Char → Bool} {inside : Bool} {text rest : List Char}
    (h : afterDigitsFrom isDigit inside text = some rest) : rest <:+ text := by
  fun_induction afterDigitsFrom isDigit inside text <;> grind

/-- So is what follows digits that start here. -/
theorem afterDigits_suffix {isDigit : Char → Bool} {text rest : List Char}
    (h : afterDigits isDigit text = some rest) : rest <:+ text :=
  afterDigitsFrom_suffix h

/-- So is what follows an exponent, which may be missing. -/
theorem afterExponent_suffix {text rest : List Char} (h : afterExponent text = some rest) :
    rest <:+ text := by
  unfold afterExponent at h
  grind [→ afterDigits_suffix]

/-- So is what follows a fraction. -/
theorem afterFraction_suffix {text rest : List Char} (h : afterFraction text = some rest) :
    rest <:+ text := by
  unfold afterFraction at h
  simp only [Option.bind_eq_bind] at h
  grind [→ afterDigits_suffix, → afterExponent_suffix, Option.bind_eq_some_iff, List.IsSuffix.trans]

/-- So is what follows the digits of a base. -/
theorem afterBased_suffix {isDigit : Char → Bool} {text rest : List Char} {big : Bool}
    (h : afterBased isDigit text = some (rest, big)) : rest <:+ text := by
  obtain ⟨behind, hbehind, h⟩ := Option.bind_eq_some_iff.mp h
  have hsuffix := afterDigits_suffix hbehind
  split at h
  · cases h
    exact suffix_of_cons hsuffix
  · cases h
    exact hsuffix

/-- So is what follows a decimal number. -/
theorem afterDecimal_suffix {text rest : List Char} {big : Bool}
    (h : afterDecimal text = some (rest, big)) : rest <:+ text := by
  obtain ⟨behind, hbehind, h⟩ := Option.bind_eq_some_iff.mp h
  have hsuffix := afterDigits_suffix hbehind
  simp only [Option.bind_eq_bind] at h
  grind [→ afterExponent_suffix, → afterFraction_suffix, Option.bind_eq_some_iff,
    List.IsSuffix.trans]

/-- So is what follows a number that starts with a zero. -/
theorem afterZeroLed_suffix {text rest : List Char} (h : afterZeroLed text = some rest) :
    rest <:+ text := by
  have hdrop : text.dropWhile Char.isDigit <:+ text := List.dropWhile_suffix _
  unfold afterZeroLed at h
  grind [→ afterExponent_suffix, → afterFraction_suffix, List.IsSuffix.trans]

/-- What follows a number is the end of the text. -/
theorem afterNumber_suffix {text rest : List Char} {big : Bool}
    (h : afterNumber text = some (rest, big)) : rest <:+ text := by
  unfold afterNumber at h
  extract_lets follow at h
  -- what must not follow a number is looked at, but never taken
  have hfollow : ∀ behind, follow behind = some (rest, big) → rest = behind.1 := by
    intro behind hbehind
    grind
  clear_value follow
  have hbased : ∀ (isDigit : Char → Bool) (c d : Char) (digits : List Char),
      (afterBased isDigit digits).bind follow = some (rest, big) → rest <:+ c :: d :: digits := by
    intro isDigit c d digits h
    obtain ⟨⟨behind, isBig⟩, hbehind, h⟩ := Option.bind_eq_some_iff.mp h
    rw [hfollow _ h]
    exact suffix_tail (suffix_tail (afterBased_suffix hbehind))
  have hdecimal : (afterDecimal text).bind follow = some (rest, big) → rest <:+ text := by
    intro h
    obtain ⟨⟨behind, isBig⟩, hbehind, h⟩ := Option.bind_eq_some_iff.mp h
    rw [hfollow _ h]
    exact afterDecimal_suffix hbehind
  split at h
  · obtain ⟨behind, hbehind, h⟩ := Option.bind_eq_some_iff.mp h
    rw [hfollow _ h]
    exact suffix_tail (afterFraction_suffix hbehind)
  · split at h
    · exact hbased _ _ _ _ h
    split at h
    · exact hbased _ _ _ _ h
    split at h
    · exact hbased _ _ _ _ h
    split at h
    · obtain ⟨behind, hbehind, h⟩ := Option.bind_eq_some_iff.mp h
      rw [hfollow _ h]
      exact afterZeroLed_suffix hbehind
    split at h
    · exact nomatch h
    · exact hdecimal h
  · exact hdecimal h

/-- Digits take at least one character, unless some have been read before. -/
theorem afterDigitsFrom_length {isDigit : Char → Bool} {inside : Bool} {text rest : List Char}
    (h : afterDigitsFrom isDigit inside text = some rest) :
    rest.length ≤ text.length ∧ (inside = false → rest.length < text.length) := by
  fun_induction afterDigitsFrom isDigit inside text <;> grind

/-- Digits that start here take at least one. -/
theorem afterDigits_length {isDigit : Char → Bool} {text rest : List Char}
    (h : afterDigits isDigit text = some rest) : rest.length < text.length :=
  (afterDigitsFrom_length h).2 rfl

/-- So do the digits of a base. -/
theorem afterBased_length {isDigit : Char → Bool} {text rest : List Char} {big : Bool}
    (h : afterBased isDigit text = some (rest, big)) : rest.length < text.length := by
  obtain ⟨behind, hbehind, h⟩ := Option.bind_eq_some_iff.mp h
  have hlength := afterDigits_length hbehind
  grind

/-- So does a decimal number. -/
theorem afterDecimal_length {text rest : List Char} {big : Bool}
    (h : afterDecimal text = some (rest, big)) : rest.length < text.length := by
  obtain ⟨behind, hbehind, h⟩ := Option.bind_eq_some_iff.mp h
  have hlength := afterDigits_length hbehind
  simp only [Option.bind_eq_bind] at h
  grind [→ afterExponent_suffix, → afterFraction_suffix, → List.IsSuffix.length_le,
    Option.bind_eq_some_iff]

/-- So does a number that starts with a zero. -/
theorem afterZeroLed_length {text rest : List Char} (h : afterZeroLed ('0' :: text) = some rest) :
    rest.length < text.length + 1 := by
  have hdrop : (('0' :: text).dropWhile Char.isDigit).length ≤ text.length := by
    rw [List.dropWhile_cons_of_pos (by decide)]
    exact (List.dropWhile_sublist _).length_le
  unfold afterZeroLed at h
  grind [→ afterExponent_suffix, → afterFraction_suffix, → List.IsSuffix.length_le]

/-- So does a number of any form. -/
theorem afterNumber_length {text rest : List Char} {big : Bool}
    (h : afterNumber text = some (rest, big)) : rest.length < text.length := by
  unfold afterNumber at h
  extract_lets follow at h
  have hfollow : ∀ behind, follow behind = some (rest, big) → rest.length = behind.1.length := by
    intro behind hbehind
    grind
  clear_value follow
  simp only [Option.bind_eq_bind] at h
  grind [→ afterFraction_suffix, → afterBased_length, → afterZeroLed_length,
    → afterDecimal_length, → List.IsSuffix.length_le, Option.bind_eq_some_iff]

/-! ### Quoted literals and marks -/

/-- What follows a string is an end of the text. -/
theorem afterString_suffix {quote : Char} {skip : Nat} {text rest : List Char}
    (h : afterString quote skip text = some rest) : rest <:+ text := by
  fun_induction afterString quote skip text with
  | case8 c hend hline hescape digits ih =>
      obtain ⟨⟨code, size⟩, -, h⟩ := Option.bind_eq_some_iff.mp h
      have hlength := ih size h
      grind
  | _ => grind

/-- So is what follows a piece of a template. -/
theorem readChunk_suffix {valid : Bool} {text : List Char} {chunk : Chunk}
    (h : readChunk valid text = some chunk) : chunk.rest <:+ text := by
  fun_induction readChunk valid text <;> grind

/-- So is what follows the pattern of a regular expression. -/
theorem afterPattern_suffix {inClass : Bool} {text rest : List Char}
    (h : afterPattern inClass text = some rest) : rest <:+ text := by
  fun_induction afterPattern inClass text <;> grind

/-- So is what follows a regular expression with its flags. -/
theorem afterRegex_suffix {text rest : List Char} (h : afterRegex text = some rest) :
    rest <:+ text := by
  obtain ⟨behind, hbehind, h⟩ := Option.bind_eq_some_iff.mp h
  have hsuffix := afterPattern_suffix hbehind
  dsimp only at h
  split at h
  · cases h
    exact (List.drop_suffix _ behind).trans hsuffix
  · exact nomatch h

/-- A mark is written in front of what follows it, in one of its spellings. -/
theorem readMark_spelling {text rest : List Char} {mark : Mark}
    (h : readMark text = some (mark, rest)) :
    ∃ spelling, (spelling, mark) ∈ Mark.spellings ∧ spelling ++ rest = text := by
  obtain ⟨⟨spelling, found⟩, hfound, h⟩ := Option.bind_eq_some_iff.mp h
  have hmem := List.mem_of_find?_eq_some hfound
  have hfront := List.find?_some hfound
  have hprefix : spelling <+: text := List.isPrefixOf_iff_prefix.mp hfront
  have hdrop : spelling ++ text.drop spelling.length = text :=
    List.prefix_iff_eq_append.mp hprefix
  dsimp only at h
  split at h
  · -- A question mark and a point before a digit are two marks.
    rename_i hdigit
    cases h
    obtain rfl : found = .questionDot := by simp_all
    have hquestion : ∀ entry ∈ Mark.spellings, entry.2 = .questionDot → entry.1 = ['?', '.'] := by
      decide
    obtain rfl : spelling = ['?', '.'] := hquestion _ hmem rfl
    refine ⟨['?'], by decide, ?_⟩
    obtain ⟨tail, rfl⟩ := hprefix
    rfl
  · cases h
    exact ⟨spelling, hmem, hdrop⟩

/-- So is what follows a mark. -/
theorem readMark_suffix {text rest : List Char} {mark : Mark}
    (h : readMark text = some (mark, rest)) : rest <:+ text := by
  obtain ⟨spelling, -, hspelling⟩ := readMark_spelling h
  exact ⟨spelling, hspelling⟩

/-- A mark takes at least one character. -/
theorem readMark_length {c : Char} {text rest : List Char} {mark : Mark}
    (h : readMark (c :: text) = some (mark, rest)) : rest.length < (c :: text).length := by
  obtain ⟨⟨spelling, found⟩, hfound, h⟩ := Option.bind_eq_some_iff.mp h
  have hnonempty : ∀ entry ∈ Mark.spellings, entry.1 ≠ [] := by decide
  have hspelling := hnonempty _ (List.mem_of_find?_eq_some hfound)
  have hpositive : 0 < spelling.length := List.length_pos_iff.mpr hspelling
  grind

/-! ### Words -/

/-- What follows a word is an end of the text. -/
theorem readWordFrom_suffix {allowed : Char → Bool} {skip : Nat} {text : List Char} {word : Word}
    (h : readWordFrom allowed skip text = some word) : word.rest <:+ text := by
  fun_induction readWordFrom allowed skip text generalizing word with
  | case3 allowed c hc digits ih =>
      obtain ⟨⟨code, size⟩, -, h⟩ := Option.bind_eq_some_iff.mp h
      dsimp only at h
      split at h
      · obtain ⟨read, hread, hsome⟩ := Option.bind_eq_some_iff.mp h
        have hsuffix := ih size hread
        grind
      · exact nomatch h
  | case5 allowed c rest hc hallowed ih =>
      obtain ⟨read, hread, hsome⟩ := Option.bind_eq_some_iff.mp h
      have hsuffix := ih hread
      grind
  | _ => grind

/-- A word with a name takes at least one character. -/
theorem readWordFrom_length {allowed : Char → Bool} {skip : Nat} {text : List Char} {word : Word}
    (h : readWordFrom allowed skip text = some word) :
    word.rest.length ≤ text.length ∧ (word.name ≠ [] → word.rest.length < text.length) := by
  fun_induction readWordFrom allowed skip text generalizing word with
  | case3 allowed c hc digits ih =>
      obtain ⟨⟨code, size⟩, -, h⟩ := Option.bind_eq_some_iff.mp h
      dsimp only at h
      split at h
      · obtain ⟨read, hread, hsome⟩ := Option.bind_eq_some_iff.mp h
        have hlength := (ih size hread).1
        grind
      · exact nomatch h
  | case5 allowed c rest hc hallowed ih =>
      obtain ⟨read, hread, hsome⟩ := Option.bind_eq_some_iff.mp h
      have hlength := (ih hread).1
      grind
  | _ => grind

/-- So does a word with the characters that it may start with. -/
theorem readWord_length {text : List Char} {word : Word} (h : readWord text = some word) :
    word.rest.length < text.length := by
  unfold readWord at h
  obtain ⟨read, hread, hsome⟩ := Option.bind_eq_some_iff.mp h
  have hlength := readWordFrom_length hread
  grind

/-- A hexadecimal digit may stand in a name. -/
theorem continuesName_of_isHexDigit {c : Char} (h : isHexDigit c) : continuesName c := by
  have hascii : c.toNat < 128 := by
    have hle : ∀ d : Char, c ≤ d ↔ c.toNat ≤ d.toNat := fun d => Iff.rfl
    simp only [isHexDigit, hexValue?, hle] at h
    grind
  have hall : ∀ n < 128, isHexDigit (Char.ofNat n) → continuesName (Char.ofNat n) := by
    decide +kernel
  rw [← Char.ofNat_toNat c] at h ⊢
  exact hall c.toNat hascii h

/-- An escape is written in digits, possibly in braces. -/
theorem readUnicodeEscape_spelling {text : List Char} {code size : Nat}
    (h : readUnicodeEscape text = some (code, size)) : ∀ c ∈ text.take size, IsSpelling c := by
  have hdigits : ∀ (digits : List Char), ∀ c ∈ digits.takeWhile isHexDigit, IsSpelling c :=
    fun digits c hc => .inl (continuesName_of_isHexDigit
      (List.all_eq_true.mp List.all_takeWhile c hc))
  unfold readUnicodeEscape at h
  split at h
  · rename_i rest
    dsimp only at h
    split at h
    · rename_i hclosed
      cases h
      have hbehind : rest[(rest.takeWhile isHexDigit).length]? = some '}' := by grind
      have hprefix := List.prefix_iff_eq_take.mp (List.takeWhile_prefix (l := rest) isHexDigit)
      intro c hc
      rw [List.take_succ_cons, List.take_add_one, hbehind, ← hprefix] at hc
      rcases List.mem_cons.mp hc with rfl | hc
      · exact .inr (.inr (.inl rfl))
      rcases List.mem_append.mp hc with hc | hc
      · exact hdigits rest c hc
      · exact .inr (.inr (.inr (List.mem_singleton.mp hc)))
    · exact nomatch h
  · dsimp only at h
    split at h
    · rename_i hfour
      cases h
      -- Four digits are asked for, so all of the four characters are.
      have hall : (text.take 4).takeWhile isHexDigit = text.take 4 := by
        refine (List.takeWhile_prefix isHexDigit).eq_of_length_le ?_
        grind
      exact hall ▸ hdigits (text.take 4)
    · exact nomatch h

/-- What has been read of a word, in the text and decoded. -/
theorem readWordFrom_spelling {allowed : Char → Bool} {skip : Nat} {text : List Char} {word : Word}
    (hallowed : ∀ c, allowed c → continuesName c) (hskip : ∀ c ∈ text.take skip, IsSpelling c)
    (h : readWordFrom allowed skip text = some word) :
    (∃ raw, raw ++ word.rest = text ∧ ∀ c ∈ raw, IsSpelling c) ∧
      ∀ c ∈ word.name, continuesName c := by
  -- behind an escape `skip` runs over its characters, which are in the text and not in the name
  fun_induction readWordFrom allowed skip text generalizing word with
  | case1 =>
      cases h
      exact ⟨⟨[], rfl, nofun⟩, nofun⟩
  | case2 allowed c rest n ih =>
      obtain ⟨⟨raw, hraw, hspelling⟩, hname⟩ :=
        ih hallowed (fun d hd => hskip d (List.mem_cons_of_mem c hd)) h
      refine ⟨⟨c :: raw, congrArg (c :: ·) hraw, ?_⟩, hname⟩
      exact List.forall_mem_cons.mpr ⟨hskip c List.mem_cons_self, hspelling⟩
  | case3 allowed c hc digits ih =>
      obtain ⟨⟨code, size⟩, hescape, h⟩ := Option.bind_eq_some_iff.mp h
      dsimp only at h
      split at h
      · rename_i hdecoded
        obtain ⟨read, hread, hsome⟩ := Option.bind_eq_some_iff.mp h
        cases hsome
        have hbehind : ∀ d ∈ ('u' :: digits).take (size + 1), IsSpelling d := by
          rw [List.take_succ_cons]
          refine List.forall_mem_cons.mpr ⟨.inl (by decide), ?_⟩
          exact readUnicodeEscape_spelling hescape
        obtain ⟨⟨raw, hraw, hspelling⟩, hname⟩ := ih size (fun _ hd => hd) hbehind hread
        have hletter : continuesName (Char.ofNat code) := hallowed _ (by grind)
        refine ⟨⟨c :: raw, congrArg (c :: ·) hraw, ?_⟩, List.forall_mem_cons.mpr ⟨hletter, hname⟩⟩
        exact List.forall_mem_cons.mpr ⟨.inr (.inl (by grind)), hspelling⟩
      · exact nomatch h
  | case4 => exact nomatch h
  | case5 allowed c rest hc hletter ih =>
      obtain ⟨read, hread, hsome⟩ := Option.bind_eq_some_iff.mp h
      cases hsome
      have hletter := hallowed c hletter
      obtain ⟨⟨raw, hraw, hspelling⟩, hname⟩ := ih (fun _ hd => hd) (fun _ hd => nomatch hd) hread
      refine ⟨⟨c :: raw, congrArg (c :: ·) hraw, ?_⟩, List.forall_mem_cons.mpr ⟨hletter, hname⟩⟩
      exact List.forall_mem_cons.mpr ⟨.inl hletter, hspelling⟩
  | case6 =>
      cases h
      exact ⟨⟨[], rfl, nofun⟩, nofun⟩

/-- The characters of a word, in the text and in its name. -/
theorem readWord_spelling {text : List Char} {word : Word} (h : readWord text = some word) :
    (∃ raw, raw ++ word.rest = text ∧ ∀ c ∈ raw, IsSpelling c) ∧ IsName word.name := by
  obtain ⟨read, hread, hsome⟩ := Option.bind_eq_some_iff.mp h
  have hstart : ∀ c, startsName c → continuesName c := fun _ => continuesName_of_startsName
  have hskip : ∀ c ∈ text.take 0, IsSpelling c := fun _ hc => nomatch hc
  obtain ⟨hraw, hname⟩ := readWordFrom_spelling hstart hskip hread
  split at hsome
  · exact nomatch hsome
  · rename_i hnonempty
    cases hsome
    exact ⟨hraw, by simpa using hnonempty, hname⟩

/-! ### Tokens -/

/-- What follows a word that may start here is an end of the text. -/
theorem readWord_suffix {text : List Char} {word : Word} (h : readWord text = some word) :
    word.rest <:+ text := by
  obtain ⟨read, hread, hsome⟩ := Option.bind_eq_some_iff.mp h
  have hsuffix := readWordFrom_suffix hread
  grind

/-- What follows a token of any shape is an end of the text. -/
theorem readShape_suffix {text rest : List Char} {shape : Token.Shape}
    (h : readShape text = some (shape, rest)) : rest <:+ text := by
  cases text with
  | nil => grind [readShape]
  | cons c tail =>
      simp only [readShape, Option.bind_eq_bind] at h
      grind [→ readWord_suffix, → afterNumber_suffix, → afterString_suffix, → readChunk_suffix,
          → readMark_suffix, Option.bind_eq_some_iff]

/-- A token takes at least one character, unless it is the end of the text. -/
theorem readShape_length {text rest : List Char} {shape : Token.Shape}
    (h : readShape text = some (shape, rest)) : shape ≠ .finish → rest.length < text.length := by
  cases text with
  | nil => grind [readShape]
  | cons c tail =>
      have hless : rest.length < (c :: tail).length := by
        simp only [readShape, Option.bind_eq_bind] at h
        grind [→ readWord_length, → afterNumber_length, → afterString_suffix, → readChunk_suffix,
          → readMark_length, → List.IsSuffix.length_le, Option.bind_eq_some_iff]
      exact fun _ => hless

/-- The next token ends where the rest of the text begins. -/
theorem scan_spec {text rest : List Char} {token : Token} (h : scan text = some (token, rest)) :
    token.stop = rest.length ∧ token.stop ≤ token.start ∧ token.start ≤ text.length ∧
      (token.shape ≠ .finish → token.stop < token.start) ∧ rest <:+ text := by
  obtain ⟨⟨behind, onNewLine⟩, hskip, h⟩ := Option.bind_eq_some_iff.mp h
  obtain ⟨⟨shape, after⟩, hshape, h⟩ := Option.bind_eq_some_iff.mp h
  have hbehind := skip_suffix hskip
  have hafter := readShape_suffix hshape
  cases h
  exact ⟨rfl, hafter.length_le, hbehind.length_le, readShape_length hshape, hafter.trans hbehind⟩

/-- A token that is a word is written in the text before the rest. -/
theorem scan_word {text rest : List Char} {token : Token} {name : String} {escaped : Bool}
    (h : scan text = some (token, rest)) (hshape : token.shape = .word name escaped) :
    IsName name.toList ∧ ∃ raw, raw ++ rest <:+ text ∧ token.start = (raw ++ rest).length ∧
      ∀ c ∈ raw, IsSpelling c := by
  obtain ⟨⟨behind, onNewLine⟩, hskip, h⟩ := Option.bind_eq_some_iff.mp h
  obtain ⟨⟨shape, after⟩, hread, h⟩ := Option.bind_eq_some_iff.mp h
  have hbehind := skip_suffix hskip
  cases h
  replace hshape : shape = .word name escaped := hshape
  subst hshape
  cases behind with
  | nil => exact absurd hread (by simp [readShape])
  | cons c tail =>
      -- No other branch makes a token of this shape.
      have hword : ∃ word, readWord (c :: tail) = some word ∧ name = String.ofList word.name ∧
          rest = word.rest := by
        simp only [readShape, Option.bind_eq_bind] at hread
        grind [Option.bind_eq_some_iff]
      obtain ⟨word, hword, rfl, rfl⟩ := hword
      obtain ⟨⟨raw, hraw, hspelling⟩, hname⟩ := readWord_spelling hword
      refine ⟨by rwa [String.toList_ofList], raw, ?_, ?_, hspelling⟩
      · rw [hraw]
        exact hbehind
      · rw [hraw]

/-- A token that is a mark is written in the text before the rest. -/
theorem scan_mark {text rest : List Char} {token : Token} {mark : Mark}
    (h : scan text = some (token, rest)) (hshape : token.shape = .mark mark) :
    ∃ spelling, (spelling, mark) ∈ Mark.spellings ∧ spelling ++ rest <:+ text ∧
      token.start = (spelling ++ rest).length := by
  obtain ⟨⟨behind, onNewLine⟩, hskip, h⟩ := Option.bind_eq_some_iff.mp h
  obtain ⟨⟨shape, after⟩, hread, h⟩ := Option.bind_eq_some_iff.mp h
  have hbehind := skip_suffix hskip
  cases h
  replace hshape : shape = .mark mark := hshape
  subst hshape
  cases behind with
  | nil => exact absurd hread (by simp [readShape])
  | cons c tail =>
      have hmark : readMark (c :: tail) = some (mark, rest) := by
        simp only [readShape, Option.bind_eq_bind] at hread
        grind [Option.bind_eq_some_iff]
      obtain ⟨spelling, hmem, hspelling⟩ := readMark_spelling hmark
      exact ⟨spelling, hmem, hspelling ▸ hbehind, hspelling ▸ rfl⟩

/-- A semicolon is always the mark. -/
theorem readShape_semicolon (rest : List Char) :
    readShape (';' :: rest) = some (.mark .semicolon, rest) :=
  rfl

/-- The token starts in the source with a character that separates no tokens. If this character is
a semicolon, the token is this mark. -/
def Token.Opens (source : List Char) (token : Token) : Prop :=
  ∃ c rest, c :: rest <:+ source ∧ token.start = (c :: rest).length ∧
    (¬ isSpace c ∧ ¬ isLineTerminator c) ∧ (c = ';' → token.shape = .mark .semicolon)

/-- A token that opens in a text opens in a longer one with this end. -/
theorem Token.Opens.longer {text source : List Char} {token : Token} (h : token.Opens text)
    (hlonger : text <:+ source) : token.Opens source := by
  obtain ⟨c, rest, hsuffix, hfirst⟩ := h
  exact ⟨c, rest, hsuffix.trans hlonger, hfirst⟩

/-- What is scanned starts behind blank space and comments. -/
theorem scan_opens {text rest : List Char} {token : Token} (h : scan text = some (token, rest))
    (hshape : token.shape ≠ .finish) : token.Opens text := by
  obtain ⟨⟨behind, onNewLine⟩, hskip, h⟩ := Option.bind_eq_some_iff.mp h
  obtain ⟨⟨shape, after⟩, hread, h⟩ := Option.bind_eq_some_iff.mp h
  cases h
  cases behind with
  | nil =>
      cases hread
      exact absurd rfl hshape
  | cons c tail =>
      refine ⟨c, tail, skip_suffix hskip, rfl, skip_solid hskip, ?_⟩
      rintro rfl
      rw [readShape_semicolon] at hread
      cases hread
      rfl

/-- The rest of a template starts with the closing brace that was taken for a mark, and is neither a
word nor a mark. -/
theorem rescanChunk_spec {closing token : Token} {rest after : List Char}
    (h : rescanChunk closing rest = some (token, after)) :
    token.stop = after.length ∧ token.start = closing.start ∧ after <:+ rest ∧
      (∀ name escaped, token.shape ≠ .word name escaped) ∧ ∀ mark, token.shape ≠ .mark mark := by
  obtain ⟨chunk, hchunk, h⟩ := Option.bind_eq_some_iff.mp h
  have hafter := readChunk_suffix hchunk
  cases h
  exact ⟨rfl, rfl, hafter, nofun, nofun⟩

/-- So a regular expression starts with the slash that was taken for a division. -/
theorem rescanRegex_spec {slash token : Token} {rest after : List Char}
    (h : rescanRegex slash rest = some (token, after)) :
    token.stop = after.length ∧ token.start = slash.start ∧ after <:+ rest ∧
      (∀ name escaped, token.shape ≠ .word name escaped) ∧ ∀ mark, token.shape ≠ .mark mark := by
  obtain ⟨behind, hbehind, h⟩ := Option.bind_eq_some_iff.mp h
  have hafter := afterRegex_suffix hbehind
  cases h
  exact ⟨rfl, rfl, hafter, nofun, nofun⟩

end MiniApp.Script
