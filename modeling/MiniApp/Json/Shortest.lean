import MiniApp.Json.Double

/-!
# The shortest decimal that reads back

Among the decimals that read back as a given number of double precision, the one with the fewest
digits that is nearest to it. A number reads back as the given one if it lies in the interval around
it that rounds to it; the ends belong to the interval if the mantissa is even.
-/

set_option autoImplicit false

namespace MiniApp.Json

/-- A positive rational number. -/
structure Ratio where
  num : Nat
  den : Nat

/-- The rational number `n * 2 ^ exponent / 4`. -/
def Ratio.quarter (n : Nat) (exponent : Int) : Ratio :=
  if 0 ≤ exponent then ⟨n <<< exponent.toNat, 4⟩ else ⟨n, 4 <<< (-exponent).toNat⟩

/-- The number of decimal digits of a natural number. -/
def digitCount (n : Nat) : Nat :=
  (Nat.toDigits 10 n).length

/-- The least number of powers of ten, from `from` on, by which `a` must be multiplied to reach
`b`. -/
def powersToReach (a b : Nat) : Nat → Nat → Nat
  | 0, count => count
  | fuel + 1, count =>
    if b ≤ a * Nat.pow 10 count then count else powersToReach a b fuel (count + 1)

/-- The exponent of the greatest power of ten that is not above the number. -/
def Ratio.magnitude (r : Ratio) : Int :=
  if r.den ≤ r.num then digitCount (r.num / r.den) - 1
  else -(powersToReach r.num r.den 400 1 : Nat)

/-- The number in units of a power of ten. -/
def Ratio.inUnits (r : Ratio) (exponent : Int) : Ratio :=
  if 0 ≤ exponent then ⟨r.num, r.den * Nat.pow 10 exponent.toNat⟩
  else ⟨r.num * Nat.pow 10 (-exponent).toNat, r.den⟩

/-- Whether `n` lies between two numbers, which may be reached if `closed`. -/
def isBetween (low high : Ratio) (closed : Bool) (n : Nat) : Bool :=
  if closed then low.num ≤ n * low.den && n * high.den ≤ high.num
  else low.num < n * low.den && n * high.den < high.num

/-- The multiple of a power of ten that lies between two numbers and is nearest to a third between
them, if there is one. Of two equally near ones it is the even one. -/
def nearestUnits? (low value high : Ratio) (closed : Bool) : Option Nat :=
  let below := value.num / value.den
  let twice := 2 * (value.num % value.den)
  let above := below + 1
  match isBetween low high closed below && below != 0, isBetween low high closed above with
  | true, true =>
    if twice < value.den || (twice == value.den && below % 2 == 0) then some below
    else some above
  | true, false => some below
  | false, true => some above
  | false, false => none

/-- Removes the zeros at the end of a decimal integer, counting them in the exponent. -/
def dropZeros : Nat → Nat → Int → Nat × Int
  | 0, n, exponent => (n, exponent)
  | fuel + 1, n, exponent =>
    if n % 10 = 0 then dropZeros fuel (n / 10) (exponent + 1) else (n, exponent)

/-- The digits, as a number, and the exponent of the shortest decimal for a positive number with
`mantissa * 2 ^ exponent`, trying `digits` and more digits. -/
def shortestFrom (mantissa : Nat) (exponent : Int) : Nat → Nat → Nat × Int
  | 0, _ => (mantissa, exponent)
  | fuel + 1, digits =>
    let value := Ratio.quarter (4 * mantissa) exponent
    -- Below a power of two the numbers lie closer together, so the interval is shorter on that
    -- side.
    let isEdge := mantissa = 1 <<< 52 && exponent != -1074
    let low := Ratio.quarter (4 * mantissa - (if isEdge then 1 else 2)) exponent
    let high := Ratio.quarter (4 * mantissa + 2) exponent
    let unit := value.magnitude - (digits - 1 : Nat)
    match nearestUnits? (low.inUnits unit) (value.inUnits unit) (high.inUnits unit)
        (mantissa % 2 = 0) with
    | some n => dropZeros 20 n unit
    | none => shortestFrom mantissa exponent fuel (digits + 1)

/-- The digits and the exponent of the shortest decimal for a number that is not zero, without its
sign. -/
def Double.shortest (d : Double) : Nat × Int :=
  let (mantissa, exponent) := d.parts
  shortestFrom mantissa exponent 17 1

/-- The number as text: positional from 0.00001 up to below 10^16, always with a digit behind the
point, and otherwise with an exponent. -/
def Double.text (d : Double) : String :=
  let sign := if d.isNegative then "-" else ""
  if d.parts.1 = 0 then sign ++ "0.0"
  else
    let (n, exponent) := d.shortest
    let digits := Nat.toDigits 10 n
    let point : Int := digits.length + exponent
    sign ++ String.ofList
      (if 0 ≤ exponent && point ≤ 16 then
        digits ++ List.replicate exponent.toNat '0' ++ ['.', '0']
      else if 0 < point && point ≤ 16 then
        digits.take point.toNat ++ '.' :: digits.drop point.toNat
      else if -5 < point && point ≤ 0 then
        '0' :: '.' :: List.replicate (-point).toNat '0' ++ digits
      else
        let shown := match digits with
          | [digit] => [digit]
          | first :: rest => first :: '.' :: rest
          | [] => []
        shown ++ 'e' :: (toString (point - 1)).toList)

end MiniApp.Json
