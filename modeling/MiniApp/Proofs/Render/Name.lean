import MiniApp.Render.Name
import Mathlib.Logic.Function.Basic

/-!
# Short names are told apart

`shortName_injective`: no two numbers have the same short name. The last letter of a name gives the
remainder of its number by 26, and the letters before give the quotient.
-/

set_option autoImplicit false

namespace MiniApp.Render

/-- The letters stand in the order of their numbers, from `'a'` on. -/
theorem toNat_letter {n : Nat} (h : n < 26) : (letter n).toNat = 97 + n := by
  -- numbers up to `'z'` are far below the surrogates, so `Char.ofNat` keeps them
  have hall : ∀ n < 26, (letter n).toNat = 97 + n := by decide
  exact hall n h

/-- Letters for different numbers below 26 are different. -/
theorem letter_inj {m n : Nat} (hm : m < 26) (hn : n < 26) (h : letter m = letter n) : m = n := by
  have hsame := congrArg Char.toNat h
  rw [toNat_letter hm, toNat_letter hn] at hsame
  exact Nat.add_left_cancel hsame

/-- The first names are single letters. -/
theorem shortLetters_of_lt {index : Nat} (h : index < 26) :
    shortLetters index = [letter index] := by
  rw [shortLetters, if_pos h]

/-- Behind them a name is an earlier one with one more letter. -/
theorem shortLetters_of_le {index : Nat} (h : 26 ≤ index) :
    shortLetters index = shortLetters (index / 26 - 1) ++ [letter (index % 26)] := by
  rw [shortLetters, if_neg (Nat.not_lt.mpr h)]

/-- A short name has letters. -/
theorem shortLetters_ne_nil (index : Nat) : shortLetters index ≠ [] := by
  by_cases h : index < 26
  · simp [shortLetters_of_lt h]
  · simp [shortLetters_of_le (Nat.not_lt.mp h)]

/-- A name of one letter is not one of several. -/
theorem shortLetters_ne {short long : Nat} (hshort : short < 26) (hlong : 26 ≤ long) :
    shortLetters short ≠ shortLetters long := by
  intro h
  have hlength := congrArg List.length h
  have hmore := List.length_pos_iff.mpr (shortLetters_ne_nil (long / 26 - 1))
  rw [shortLetters_of_lt hshort, shortLetters_of_le hlong, List.length_append,
    List.length_singleton, List.length_singleton] at hlength
  omega

/-- The induction follows the recursion of `shortLetters`, which goes on with the quotient. -/
theorem shortLetters_inj {m n : Nat} (h : shortLetters m = shortLetters n) : m = n := by
  induction m using shortLetters.induct generalizing n with
  | case1 m hm =>
      by_cases hn : n < 26
      · rw [shortLetters_of_lt hm, shortLetters_of_lt hn, List.singleton_inj] at h
        exact letter_inj hm hn h
      · exact absurd h (shortLetters_ne hm (Nat.not_lt.mp hn))
  | case2 m hm ih =>
      have hm := Nat.not_lt.mp hm
      by_cases hn : n < 26
      · exact absurd h.symm (shortLetters_ne hn hm)
      · have hn := Nat.not_lt.mp hn
        rw [shortLetters_of_le hm, shortLetters_of_le hn] at h
        obtain ⟨hfront, hlast⟩ := List.append_inj' h rfl
        rw [List.singleton_inj] at hlast
        have hquotient := ih hfront
        have hremainder := letter_inj (Nat.mod_lt m (by omega)) (Nat.mod_lt n (by omega)) hlast
        omega

/-- No two numbers have the same short name. -/
theorem shortName_injective : Function.Injective shortName := by
  intro m n h
  exact shortLetters_inj (String.ofList_injective h)

end MiniApp.Render
