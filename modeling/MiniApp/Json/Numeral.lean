import MiniApp.Json.Value

/-!
# Numbers as they are written

The digits of a number in a JSON text, and the number that they write. A number that is not an
integer of 64 bits is computed from the leading digits that fit into 64 bits, multiplied or
divided by a power of ten in double precision; the result may differ from the nearest number in
its last place. A number too big for double precision has no value.
-/

set_option autoImplicit false

namespace MiniApp.Json

/-- The exponent of a number: its sign and its digits. -/
structure Exponent where
  isNegative : Bool
  digits : List Char

/-- A number as it is written: the sign, the digits before and behind the point, the exponent. -/
structure Numeral where
  isNegative : Bool
  whole : List Char
  fraction : Option (List Char)
  exponent : Option Exponent

/-- The value of a decimal digit. -/
def digitValue (c : Char) : Nat :=
  c.toNat - 48

/-- The greatest integer of 64 bits. -/
def maxSignificand : Nat :=
  UInt64.size - 1

/-- Takes digits into a number as long as it fits into 64 bits; answers with the number and the
digits that are left. -/
def takeDigits (n : Nat) : List Char → Nat × List Char
  | [] => (n, [])
  | c :: rest =>
    let next := 10 * n + digitValue c
    if next ≤ maxSignificand then takeDigits next rest else (n, c :: rest)

/-- The greatest power of ten that is used at once. -/
def maxPower : Nat := 308

/-- A power of ten in double precision. -/
def powerOfTen (n : Nat) : Float :=
  Float.ofScientific 1 false n

/-- Divides by the power of ten of the exponent, in steps that stay in double precision. -/
def scaleDown (x : Float) : Nat → Nat → Float
  | 0, _ => x
  | fuel + 1, power =>
    if power ≤ maxPower then x / powerOfTen power
    else if x == 0.0 then x
    else scaleDown (x / powerOfTen maxPower) fuel (power - maxPower)

/-- The number `significand * 10 ^ exponent` in double precision, if there is one. -/
def scaled? (isNegative : Bool) (significand : Nat) (exponent : Int) : Option Double :=
  let x := significand.toUInt64.toFloat
  let sized :=
    if 0 ≤ exponent then
      if exponent ≤ maxPower then
        let y := x * powerOfTen exponent.toNat
        if y.isInf then none else some y
      else if x == 0.0 then some x
      else none
    else some (scaleDown x 8 (-exponent).toNat)
  sized.map fun y => .ofFloat (if isNegative then -y else y)

/-- The number that digits write as an integer, if it fits into 64 bits with its sign. Zero with a
sign is no integer. -/
def integer? (isNegative : Bool) (n : Nat) : Option Number :=
  if !isNegative then some (.integer n)
  else if n = 0 then some (.double (.ofFloat (-0.0)))
  else if n ≤ 1 <<< 63 then some (.integer (-n))
  else some (.double (.ofFloat (-n.toUInt64.toFloat)))

/-- The greatest exponent of 32 bits. -/
def maxExponent : Nat :=
  (1 <<< 31) - 1

/-- The number with an exponent of many digits: zero, or too big to have a value. -/
def extreme? (isNegative : Bool) (significand : Nat) (exponent : Exponent) : Option Number :=
  if significand != 0 && !exponent.isNegative then none
  else some (.double (.ofFloat (if isNegative then -0.0 else 0.0)))

/-- An exponent brought into the range of 32 bits. -/
def clampExponent (exponent : Int) : Int :=
  max (-(maxExponent + 1 : Nat)) (min maxExponent exponent)

/-- The number that a numeral writes, if it is not too big. -/
def Numeral.number? (numeral : Numeral) : Option Number :=
  let (significand, dropped) := takeDigits 0 numeral.whole
  match numeral.fraction, numeral.exponent with
  | none, none =>
    if dropped.isEmpty then integer? numeral.isNegative significand
    else (scaled? numeral.isNegative significand dropped.length).map .double
  | fraction, exponent =>
    let fraction := fraction.getD []
    let (significand, left) := takeDigits significand fraction
    -- Digits before the point that did not fit raise the exponent, and those behind it that did
    -- lower it.
    let start : Int := dropped.length - (fraction.length - left.length : Nat)
    match exponent with
    | none => (scaled? numeral.isNegative significand start).map .double
    | some exponent =>
      let size := exponent.digits.foldl (fun n c => 10 * n + digitValue c) 0
      if maxExponent < size then extreme? numeral.isNegative significand exponent
      else
        let shift := if exponent.isNegative then start - size else start + size
        (scaled? numeral.isNegative significand (clampExponent shift)).map .double

end MiniApp.Json
