import MiniApp.Proofs.Render.Name
import Mathlib.Data.List.Shortlex
import Mathlib.Data.Set.Card

/-!
# Short names in order

The texts of letters from `a` to `z` are ordered by length, and those of one length alphabetically.
The short names go through them in this order, one after the other. A name is not its number written
in base 26, since there is no digit zero: the names of two letters begin at 26 and not at 27, and
those of three at 702.

* `shortLetters_concat`: a letter behind a name, and the number of the name that comes of it. All
  that follows is by induction on the last letter.
* `precedes_shortName`: greater numbers have later names.
* `exists_shortName`: no name is left out.
* `spellFor_eq`: the letters can be found by a loop, from the last one on, and nothing is ever taken
  from zero.
* `shortName_enumerates`: so the number of a name is the number of names before it.
-/

set_option autoImplicit false

namespace MiniApp.Render

/-! ### Names and their order -/

/-- A text that a short name can be: letters from `a` to `z`, and at least one. -/
def IsName (name : String) : Prop :=
  name ≠ "" ∧ ∀ c ∈ name.toList, 'a' ≤ c ∧ c ≤ 'z'

/-- Whether a text comes before another one: a shorter one does, and of two with one length the one
that is first in the alphabet. -/
def Precedes (name other : String) : Prop :=
  List.Shortlex (· < ·) name.toList other.toList

/-- The names that come before a text. -/
def namesBefore (name : String) : Set String :=
  {other | IsName other ∧ Precedes other name}

/-! ### One letter more -/

/-- The number of the name that another one becomes with a letter behind it. -/
theorem shortLetters_concat (front : Nat) {last : Nat} (h : last < 26) :
    shortLetters (26 * (front + 1) + last) = shortLetters front ++ [letter last] := by
  have hquotient : (26 * (front + 1) + last) / 26 - 1 = front := by omega
  have hremainder : (26 * (front + 1) + last) % 26 = last := by omega
  rw [shortLetters_of_le (by omega), hquotient, hremainder]

/-- A number is that of a single letter, or of a name with a letter behind it. -/
theorem number_cases (index : Nat) :
    index < 26 ∨ ∃ front last, last < 26 ∧ index = 26 * (front + 1) + last := by
  by_cases h : index < 26
  · exact Or.inl h
  · exact Or.inr ⟨index / 26 - 1, index % 26, by omega, by omega⟩

/-- Induction on the letters of a name: what holds of single letters, and with every name of that
name with a letter behind it, holds of all numbers. -/
theorem number_induction {motive : Nat → Prop} (single : ∀ index < 26, motive index)
    (concat : ∀ front last, last < 26 → motive front → motive (26 * (front + 1) + last))
    (index : Nat) : motive index := by
  induction index using Nat.strongRecOn with
  | ind index ih =>
      rcases number_cases index with h | ⟨front, last, hlast, rfl⟩
      · exact single index h
      · exact concat front last hlast (ih front (by omega))

/-- Letters come in the order of the alphabet. -/
theorem letter_lt {m n : Nat} (h : m < n) (hn : n < 26) : letter m < letter n := by
  show (letter m).toNat < (letter n).toNat
  rw [toNat_letter (h.trans hn), toNat_letter hn]
  exact Nat.add_lt_add_left h 97

/-- The letters for the numbers below 26 are those from `a` to `z`. -/
theorem letter_mem {n : Nat} (h : n < 26) : 'a' ≤ letter n ∧ letter n ≤ 'z' := by
  show 97 ≤ (letter n).toNat ∧ (letter n).toNat ≤ 122
  rw [toNat_letter h]
  omega

/-- Every letter from `a` to `z` has a number. -/
theorem exists_letter {c : Char} (ha : 'a' ≤ c) (hz : c ≤ 'z') : ∃ n < 26, letter n = c := by
  have hlow : 97 ≤ c.toNat := ha
  have hhigh : c.toNat ≤ 122 := hz
  refine ⟨c.toNat - 97, by omega, ?_⟩
  have hsum : 'a'.toNat + (c.toNat - 97) = c.toNat := by
    show 97 + (c.toNat - 97) = c.toNat
    omega
  rw [letter, hsum, Char.ofNat_toNat]

/-! ### Greater numbers have later names -/

/-- Of two lists of one length the first stays first, whatever is put behind them. -/
theorem lex_concat {front other : List Char} (h : List.Lex (· < ·) front other)
    (hlength : front.length = other.length) (c d : Char) :
    List.Lex (· < ·) (front ++ [c]) (other ++ [d]) := by
  induction h with
  | nil => exact nomatch hlength
  | cons hrest ih => exact .cons (ih (Nat.succ.inj hlength))
  | rel hlt => exact .rel hlt

/-- A letter behind a name does not put it in front of a later one with a letter behind. -/
theorem shortlex_concat {front other : List Char} (h : List.Shortlex (· < ·) front other)
    (c d : Char) : List.Shortlex (· < ·) (front ++ [c]) (other ++ [d]) := by
  rcases List.shortlex_def.mp h with hlength | ⟨hlength, hlex⟩
  · exact .of_length_lt (by simpa using hlength)
  · exact .of_lex (by simpa using hlength) (lex_concat hlex hlength c d)

/-- The induction is on the letters of the first name. Where both names have several, the letters in
front of the last decide unless they are the same. -/
theorem shortlex_shortLetters {m n : Nat} (h : m < n) :
    List.Shortlex (· < ·) (shortLetters m) (shortLetters n) := by
  induction m using number_induction generalizing n with
  | single m hm =>
      rw [shortLetters_of_lt hm]
      rcases number_cases n with hn | ⟨front, last, hlast, rfl⟩
      · rw [shortLetters_of_lt hn, List.shortlex_singleton_iff]
        exact letter_lt h hn
      · have hmore := List.length_pos_iff.mpr (shortLetters_ne_nil front)
        rw [shortLetters_concat front hlast]
        exact .of_length_lt (by simpa using hmore)
  | concat front last hlast ih =>
      rcases number_cases n with hn | ⟨other, ending, hending, rfl⟩
      · omega
      · rw [shortLetters_concat front hlast, shortLetters_concat other hending]
        rcases Nat.lt_or_ge front other with hlt | hge
        · exact shortlex_concat (ih hlt) _ _
        · obtain rfl : front = other := by omega
          have hletter : List.Shortlex (· < ·) [letter last] [letter ending] :=
            (List.shortlex_singleton_iff _ _).mpr (letter_lt (by omega) hending)
          exact hletter.append_left _

/-- A number is greater than another one if its name is later. -/
theorem precedes_shortName {m n : Nat} : Precedes (shortName m) (shortName n) ↔ m < n := by
  unfold Precedes shortName
  rw [String.toList_ofList, String.toList_ofList]
  refine ⟨fun h => ?_, shortlex_shortLetters⟩
  rcases Nat.lt_trichotomy m n with hlt | rfl | hgt
  · exact hlt
  · exact absurd h (Std.Asymm.asymm _ _ h)
  · exact absurd h (Std.Asymm.asymm _ _ (shortlex_shortLetters hgt))

/-! ### No name is left out -/

/-- A short name has letters from `a` to `z` only. -/
theorem isName_shortName (index : Nat) : IsName (shortName index) := by
  have hletters : ∀ c ∈ shortLetters index, 'a' ≤ c ∧ c ≤ 'z' := by
    induction index using number_induction with
    | single index h =>
        rw [shortLetters_of_lt h]
        simpa using letter_mem h
    | concat front last hlast ih =>
        intro c hmem
        rw [shortLetters_concat front hlast, List.mem_append, List.mem_singleton] at hmem
        rcases hmem with hmem | rfl
        · exact ih c hmem
        · exact letter_mem hlast
  refine ⟨fun hempty => shortLetters_ne_nil index ?_, ?_⟩
  · simpa [shortName] using hempty
  · simpa [shortName] using hletters

/-- The induction is on the last letter: the name in front of it has a number if there is one. -/
theorem exists_shortLetters {letters : List Char} (hne : letters ≠ [])
    (h : ∀ c ∈ letters, 'a' ≤ c ∧ c ≤ 'z') : ∃ index, shortLetters index = letters := by
  induction letters using List.reverseRecOn with
  | nil => exact absurd rfl hne
  | append_singleton front c ih =>
      obtain ⟨ha, hz⟩ := h c (by simp)
      obtain ⟨last, hlast, rfl⟩ := exists_letter ha hz
      rcases eq_or_ne front [] with rfl | hfront
      · exact ⟨last, shortLetters_of_lt hlast⟩
      · obtain ⟨number, rfl⟩ := ih hfront fun d hmem => h d (List.mem_append_left _ hmem)
        exact ⟨26 * (number + 1) + last, shortLetters_concat number hlast⟩

/-- Every name is a short name. -/
theorem exists_shortName {name : String} (h : IsName name) : ∃ index, shortName index = name := by
  obtain ⟨hne, hletters⟩ := h
  obtain ⟨index, hindex⟩ := exists_shortLetters (by simpa using hne) hletters
  exact ⟨index, by rw [shortName, hindex, String.ofList_toList]⟩

/-- The names before a short name are those of the numbers below. -/
theorem namesBefore_shortName (index : Nat) :
    namesBefore (shortName index) = shortName '' Set.Iio index := by
  ext name
  constructor
  · rintro ⟨hname, hprecedes⟩
    obtain ⟨number, rfl⟩ := exists_shortName hname
    exact ⟨number, precedes_shortName.mp hprecedes, rfl⟩
  · rintro ⟨number, hlt, rfl⟩
    exact ⟨isName_shortName number, precedes_shortName.mpr hlt⟩

/-- The number of a short name is the number of names before it. -/
theorem encard_namesBefore (index : Nat) :
    (namesBefore (shortName index)).encard = index := by
  rw [namesBefore_shortName, shortName_injective.encard_image, ← Finset.coe_range,
    Set.encard_coe_eq_coe_finsetCard, Finset.card_range]

/-! ### How long a name is, and how it is spelled -/

/-- The number of names with at most so many letters. -/
def namesWithin : Nat → Nat
  | 0 => 0
  | length + 1 => 26 * (namesWithin length + 1)

/-- A name gets one letter longer where the shorter names are used up. -/
theorem length_shortLetters_le_iff (index length : Nat) :
    (shortLetters index).length ≤ length ↔ index < namesWithin length := by
  induction index using number_induction generalizing length with
  | single index h =>
      rw [shortLetters_of_lt h, List.length_singleton]
      cases length with
      | zero => simp [namesWithin]
      | succ length =>
          rw [namesWithin]
          omega
  | concat front last hlast ih =>
      rw [shortLetters_concat front hlast, List.length_append, List.length_singleton]
      cases length with
      | zero => simp [namesWithin]
      | succ length =>
          rw [Nat.add_le_add_iff_right, ih, namesWithin]
          omega

example : [1, 2, 3].map namesWithin = [26, 702, 18278] := by decide

/-- Spells a name in a loop, from the last letter on, with the letters found so far behind. It gives
none where more would be taken than there is, or where the loop has not ended after a number of
rounds. -/
def spellFor : Nat → Nat → List Char → Option (List Char)
  | 0, _, _ => none
  | rounds + 1, index, back =>
    let letters := letter (index % 26) :: back
    if index < 26 then some letters
    else if index / 26 < 1 then none
    else spellFor rounds (index / 26 - 1) letters

/-- The loop ends after one round for each letter, and nothing is ever taken from zero. -/
theorem spellFor_eq {rounds index : Nat} (h : (shortLetters index).length ≤ rounds)
    (back : List Char) : spellFor rounds index back = some (shortLetters index ++ back) := by
  induction index using number_induction generalizing rounds back with
  | single index hindex =>
      rw [shortLetters_of_lt hindex] at h ⊢
      obtain ⟨rounds, rfl⟩ := Nat.exists_eq_add_of_le' h
      rw [List.length_singleton, spellFor, if_pos hindex, Nat.mod_eq_of_lt hindex]
      rfl
  | concat front last hlast ih =>
      rw [shortLetters_concat front hlast] at h ⊢
      rw [List.length_append, List.length_singleton] at h
      obtain ⟨rounds, rfl⟩ := Nat.exists_eq_add_of_le' (Nat.le_of_add_left_le h)
      have hlonger : ¬ 26 * (front + 1) + last < 26 := by omega
      -- the quotient is that of the front, counted from one
      have hquotient : (26 * (front + 1) + last) / 26 = front + 1 := by omega
      have hremainder : (26 * (front + 1) + last) % 26 = last := by omega
      rw [spellFor, if_neg hlonger, hquotient, hremainder, if_neg (by omega), Nat.add_sub_cancel,
        ih (by omega), List.append_assoc]
      rfl

/-! ### Every name and every number -/

/-- The short names are all names in order: each number is the number of names that come before its
name, so that no two numbers have one name, greater numbers have later names, and every name with
fewer names before it than there are numbers belongs to just one of these. The names of one letter
more begin where the shorter ones are used up. And for every number of 64 bits the loop that spells
its name ends, after fourteen rounds at most, without taking anything from zero. -/
theorem shortName_enumerates :
    (∀ index, IsName (shortName index) ∧ (namesBefore (shortName index)).encard = index) ∧
    (∀ m n, Precedes (shortName m) (shortName n) ↔ m < n) ∧
    Function.Injective shortName ∧
    (∀ name, IsName name → ∀ count : Nat, (namesBefore name).encard < count →
      ∃! index, index < count ∧ shortName index = name) ∧
    (∀ index length, (shortName index).length ≤ length ↔ index < namesWithin length) ∧
    ∀ index < 2 ^ 64, spellFor 14 index [] = some (shortName index).toList := by
  refine ⟨fun index => ⟨isName_shortName index, encard_namesBefore index⟩,
    fun _ _ => precedes_shortName, shortName_injective, ?_, ?_, ?_⟩
  · intro name hname count hcount
    obtain ⟨index, rfl⟩ := exists_shortName hname
    rw [encard_namesBefore, Nat.cast_lt] at hcount
    exact ⟨index, ⟨hcount, rfl⟩, fun _ h => shortName_injective h.2⟩
  · intro index length
    rw [← String.length_toList, shortName, String.toList_ofList]
    exact length_shortLetters_le_iff index length
  · intro index hindex
    have hlength : (shortLetters index).length ≤ 14 := by
      rw [length_shortLetters_le_iff]
      exact Nat.lt_trans hindex (by decide)
    rw [spellFor_eq hlength, List.append_nil, shortName, String.toList_ofList]

/-- The greatest number of 64 bits has a name of fourteen letters, and `ba` is the name with
fifty-two names before it. -/
theorem shortName_enumerates_words :
    2 ^ 64 - 1 < 2 ^ 64 ∧ shortName (2 ^ 64 - 1) = "gkgwbylwrxtlpp" ∧
      IsName "ba" ∧ (namesBefore "ba").encard < 53 ∧
      ∃! index, index < 53 ∧ shortName index = "ba" := by
  obtain ⟨hnames, -, -, hunique, -, hspelled⟩ := shortName_enumerates
  -- the loop can be run, other than the recursion on the quotient
  have hnamed : ∀ index name, index < 2 ^ 64 → spellFor 14 index [] = some name.toList →
      shortName index = name := by
    intro index name hindex hspell
    rw [hspelled index hindex] at hspell
    exact String.toList_inj.mp (Option.some.inj hspell)
  have hba : shortName 52 = "ba" := hnamed 52 "ba" (by decide) (by decide)
  obtain ⟨hname, hbefore⟩ := hnames 52
  rw [hba] at hname hbefore
  have hfewer : (namesBefore "ba").encard < (53 : Nat) := by
    rw [hbefore]
    exact Nat.cast_lt.mpr (by decide)
  have hgreatest : shortName (2 ^ 64 - 1) = "gkgwbylwrxtlpp" :=
    hnamed _ "gkgwbylwrxtlpp" (by decide) (by decide)
  exact ⟨by decide, hgreatest, hname, hfewer, hunique "ba" hname 53 hfewer⟩

end MiniApp.Render
