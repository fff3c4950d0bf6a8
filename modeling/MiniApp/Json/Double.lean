/-!
# Numbers of double precision

A number of IEEE 754 double precision is kept by its bits, so that two of them are equal only if
they are the same number, with the same sign of zero. Arithmetic goes through `Float`.
-/

set_option autoImplicit false

namespace MiniApp.Json

/-- A number of double precision by its bits. -/
structure Double where
  bits : UInt64
  deriving DecidableEq, Repr

namespace Double

/-- The number as one that can be computed with. -/
def toFloat (d : Double) : Float :=
  .ofBits d.bits

/-- The number that has been computed. -/
def ofFloat (x : Float) : Double :=
  ⟨x.toBits⟩

/-- The number nearest to an integer whose size fits into 64 bits. -/
def ofInt (n : Int) : Double :=
  let size := n.natAbs.toUInt64.toFloat
  ofFloat (if n < 0 then -size else size)

/-- The sum of two numbers. -/
def add (a b : Double) : Double :=
  ofFloat (a.toFloat + b.toFloat)

/-- Zero without a sign. -/
def zero : Double :=
  ⟨0⟩

/-- Whether the sign of the number is negative. -/
def isNegative (d : Double) : Bool :=
  d.bits >>> 63 == 1

/-- The number as `mantissa * 2 ^ exponent`, without its sign. -/
def parts (d : Double) : Nat × Int :=
  let field := ((d.bits >>> 52) &&& 0x7FF).toNat
  let fraction := (d.bits &&& 0xFFFFFFFFFFFFF).toNat
  if field = 0 then (fraction, -1074) else (fraction + (1 <<< 52), (field : Int) - 1075)

end Double

end MiniApp.Json
