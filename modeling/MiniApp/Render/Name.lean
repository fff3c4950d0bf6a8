/-!
# Short names

The entries of the data object have the names `a` to `z`, then `aa`, `ab` and so on.
-/

set_option autoImplicit false

namespace MiniApp.Render

/-- The letter for a number below 26. -/
def letter (n : Nat) : Char :=
  Char.ofNat ('a'.toNat + n)

/-- The letters of the short name with the given number: the last one is its remainder by 26, and
those before it name the quotient less one. -/
def shortLetters (index : Nat) : List Char :=
  if index < 26 then [letter index]
  else shortLetters (index / 26 - 1) ++ [letter (index % 26)]
termination_by index
decreasing_by omega

/-- The short name with the given number. -/
def shortName (index : Nat) : String :=
  String.ofList (shortLetters index)

end MiniApp.Render
