import MiniApp.Json.Double

/-!
# JSON values

A value of JSON. A number that is written without a point and an exponent and fits into 64 bits is
an integer; any other is of double precision.
-/

set_option autoImplicit false

namespace MiniApp.Json

/-- A number of JSON. -/
inductive Number
  | integer (value : Int)
  | double (value : Double)
  deriving DecidableEq, Repr

/-- A value of JSON. The members of an object are in the order in which they were met first. -/
inductive Value
  | null
  | bool (value : Bool)
  | number (value : Number)
  | string (value : String)
  | array (items : List Value)
  | object (members : List (String × Value))

/-- The members with one more; one with the same name is replaced where it is. -/
def setMember {α : Type} (name : String) (value : α) : List (String × α) → List (String × α)
  | [] => [(name, value)]
  | (first, old) :: rest =>
    if first = name then (name, value) :: rest else (first, old) :: setMember name value rest

end MiniApp.Json
