import MiniApp.Json.Draft
import MiniApp.Json.Shortest
import MiniApp.Text.Printable

/-!
# What can be wrong with data

The reasons why a JSON value is not data of a type, and their wording. A text can also have faults
of its own, and three of the reasons count as such faults when the value comes from a text.
-/

set_option autoImplicit false

namespace MiniApp.Json

/-- What was found where something else was expected. -/
inductive Found
  | null
  | bool (value : Bool)
  | integer (value : Int)
  | double (value : Double)
  | string (value : String)
  | sequence
  | map
  deriving DecidableEq, Repr

/-- The text of a string with quotes around it and escapes for quotes, backslashes and what cannot
be printed. -/
def quoted (text : String) : String :=
  "\"" ++ String.join (text.toList.map Text.escapedForPrint) ++ "\""

/-- The wording for what was found. -/
def Found.text : Found → String
  | .null => "null"
  | .bool value => "boolean \x60" ++ (if value then "true" else "false") ++ "\x60"
  | .integer value => "integer \x60" ++ toString value ++ "\x60"
  | .double value => "floating point \x60" ++ value.text ++ "\x60"
  | .string value => "string " ++ quoted value
  | .sequence => "sequence"
  | .map => "map"

/-- The reasons why a value is not data of a type. -/
inductive DecodeError
  /-- The text itself is at fault. -/
  | fault (fault : Fault)
  | missingField (name : String)
  | duplicateField (name : String)
  | unknownVariant (given : String) (expected : List String)
  | invalidType (found : Found) (expected : String)
  | invalidValue (found : Found) (expected : String)
  | invalidLength (length : Nat) (expected : String)
  /-- An array is longer than the fields that it should give. -/
  | tooManyItems (length : Nat)
  /-- A choice is written neither as a string nor as an object. -/
  | noVariant (found : Found)
  /-- A choice is written as an object that has not exactly one member. -/
  | noSingleVariant
  deriving DecidableEq, Repr

/-- A name between backquotes. -/
def backquoted (name : String) : String :=
  "\x60" ++ name ++ "\x60"

/-- The wording for the variants that would have been right. -/
def variantsText (expected : List String) : String :=
  match expected with
  | [only] => backquoted only
  | [first, second] => backquoted first ++ " or " ++ backquoted second
  | names => "one of " ++ String.join ((names.map backquoted).intersperse ", ")

/-- The wording of the error; a fault of the text has none. -/
def DecodeError.message? : DecodeError → Option String
  | .fault _ => none
  | .missingField name => some ("missing field " ++ backquoted name)
  | .duplicateField name => some ("duplicate field " ++ backquoted name)
  | .unknownVariant given expected =>
    some ("unknown variant " ++ backquoted given ++ ", expected " ++ variantsText expected)
  | .invalidType found expected =>
    some ("invalid type: " ++ found.text ++ ", expected " ++ expected)
  | .invalidValue found expected =>
    some ("invalid value: " ++ found.text ++ ", expected " ++ expected)
  | .invalidLength length expected =>
    some ("invalid length " ++ toString length ++ ", expected " ++ expected)
  | .tooManyItems length =>
    some ("invalid length " ++ toString length ++ ", expected fewer elements in array")
  | .noVariant found => some ("invalid type: " ++ found.text ++ ", expected string or map")
  | .noSingleVariant => some "invalid value: map, expected map with a single key"

/-- The error as it is met in a text, where only a value that could be right is looked at further.
-/
def DecodeError.inText : DecodeError → DecodeError
  | .tooManyItems _ | .noVariant _ | .noSingleVariant => .fault .malformed
  | error => error

end MiniApp.Json
