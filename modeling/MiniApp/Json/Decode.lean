import MiniApp.Json.DecodeError
import MiniApp.Json.Text

/-!
# Decoding and encoding data

A decoder makes data of a draft, or gives the first reason against it in the order of the text. A
record is written as an object, or as an array of its fields in their order. In an object fields
may stand in any order and unknown ones are skipped; none may stand twice. A field that is not
given takes its default if it has one.

A choice between names is written as a string, or as an object with that name for a member which is
null.
-/

set_option autoImplicit false

namespace MiniApp.Json

/-- Makes data of a draft. -/
abbrev Decoder (α : Type) := Draft → Except DecodeError α

/-- A type whose values can be written as JSON and read again. -/
class Codec (α : Type) where
  decode : Decoder α
  encode : α → Value

export Codec (encode)

namespace Decoder

variable {α : Type}

/-- Fails if there is a fault. -/
def faultless (fault : Option Fault) : Except DecodeError Unit :=
  match fault with
  | none => .ok ()
  | some fault => .error (.fault fault)

/-- The error for a value of another kind than expected. A fault of the value comes first. -/
def mismatch (expected : String) : Decoder α := fun draft =>
  .error <| match draft with
    | .null => .invalidType .null expected
    | .bool value => .invalidType (.bool value) expected
    | .number (.integer value) => .invalidType (.integer value) expected
    | .number (.double value) => .invalidType (.double value) expected
    | .string value => .invalidType (.string value) expected
    | .array _ _ => .invalidType .sequence expected
    | .object _ _ => .invalidType .map expected
    | .missing fault | .brokenString fault _ | .brokenScalar fault _ => .fault fault

/-- A truth value. -/
def bool : Decoder Bool
  | .bool value => .ok value
  | draft => mismatch "a boolean" draft

/-- Text. -/
def string : Decoder String
  | .string value => .ok value
  | draft => mismatch "a string" draft

/-- The greatest integer of 32 bits. -/
def maxWord : Nat :=
  UInt32.size - 1

/-- A natural number of 32 bits. -/
def word : Decoder Nat
  | .number (.integer value) =>
    if 0 ≤ value ∧ value ≤ maxWord then .ok value.toNat
    else .error (.invalidValue (.integer value) "u32")
  | draft => mismatch "u32" draft

/-- A number of double precision, which may be written as an integer. -/
def double : Decoder Double
  | .number (.integer value) => .ok (.ofInt value)
  | .number (.double value) => .ok value
  | draft => mismatch "f64" draft

/-- Data, or null for none. -/
def optional (decoder : Decoder α) : Decoder (Option α)
  | .null => .ok none
  | draft => (decoder draft).map some

/-- An array of data. -/
def list (decoder : Decoder α) : Decoder (List α)
  | .array items ending => do
    let values ← items.mapM decoder
    faultless ending
    return values
  | draft => mismatch "a sequence" draft

/-- The members of an object of data. Of two members with one name the later is taken. -/
def membersOf (decoder : Decoder α) (known : List (String × α)) :
    List (Draft × Draft) → Except DecodeError (List (String × α))
  | [] => .ok known
  | (name, value) :: rest => do
    let name ← string name
    let value ← decoder value
    membersOf decoder (setMember name value known) rest

/-- An object of data. -/
def dictionary (decoder : Decoder α) : Decoder (List (String × α))
  | .object members ending => do
    let values ← membersOf decoder [] members
    faultless ending
    return values
  | draft => mismatch "a map" draft

/-! ### Choices -/

/-- The choice with a name. -/
def variant (variants : List (String × α)) (name : String) : Except DecodeError α :=
  match variants.lookup name with
  | some value => .ok value
  | none => .error (.unknownVariant name (variants.map (·.1)))

/-- Null, which stands for no content. -/
def unit : Decoder Unit
  | .null => .ok ()
  | draft => mismatch "unit" draft

/-- A choice between names. -/
def choice (variants : List (String × α)) : Decoder α
  | .string name => variant variants name
  | .object [] ending => do
    faultless ending
    .error .noSingleVariant
  | .object ((name, content) :: rest) ending => do
    let value ← variant variants (← string name)
    unit content
    if rest.isEmpty then
      faultless ending
      return value
    else .error .noSingleVariant
  | .missing fault | .brokenString fault _ => .error (.fault fault)
  | .null => .error (.noVariant .null)
  | .bool value => .error (.noVariant (.bool value))
  | .number (.integer value) => .error (.noVariant (.integer value))
  | .number (.double value) => .error (.noVariant (.double value))
  | .array _ _ => .error (.noVariant .sequence)
  | .brokenScalar _ _ => .error (.fault .malformed)

/-! ### Records -/

/-- A field of a record: its name, and the reason, if any, why a draft is not its value. -/
structure Field where
  name : String
  check : Draft → Except DecodeError Unit

/-- The field with a name whose values a decoder makes. -/
def field (name : String) (decoder : Decoder α) : Field :=
  ⟨name, fun draft => (decoder draft).map fun _ => ()⟩

/-- The fields that were given for a record, and the error for one that was not. -/
structure Given where
  fields : List (String × Draft)
  absent : String → DecodeError

/-- Takes the members of an object that are fields, with what is done with the others. -/
def takeMembers {β : Type} (fields : List Field)
    (other : β → String → Draft → Except DecodeError β) (given : List (String × Draft)) (acc : β) :
    List (Draft × Draft) → Except DecodeError (List (String × Draft) × β)
  | [] => .ok (given, acc)
  | (name, value) :: rest => do
    let name ← string name
    match fields.find? fun field => field.name == name with
    | none => takeMembers fields other given (← other acc name value) rest
    | some field =>
      -- A name that stands twice is reported before the second value is looked at.
      if (given.lookup name).isSome then .error (.duplicateField name)
      else
        field.check value
        takeMembers fields other ((name, value) :: given) acc rest

/-- Checks the items of an array as the fields of a record. -/
def takeItems : List Field → List Draft → Except DecodeError (List (String × Draft))
  | field :: fields, item :: items => do
    field.check item
    return (field.name, item) :: (← takeItems fields items)
  -- Items that are missing or too many are reported by the caller.
  | _, _ => .ok []

/-- The wording for the number of fields of a record. -/
def recordText (record : String) (count : Nat) : String :=
  record ++ " with " ++ toString count ++ (if count = 1 then " element" else " elements")

/-- The fields that a draft gives for a record. -/
def record (name : String) (fields : List Field) (draft : Draft) : Except DecodeError Given :=
  let expected := "struct " ++ name
  match draft with
  | .object members ending => do
    -- Of members with other names only the faults count that are met in skipping them.
    let skip := fun (_ : Unit) _ value => faultless (Draft.skipped? value)
    let (given, _) ← takeMembers fields skip [] () members
    faultless ending
    return ⟨given, .missingField⟩
  | .array items ending => do
    let given ← takeItems fields items
    if fields.length < items.length then .error (.tooManyItems items.length)
    else
      faultless ending
      let place := fun name => (fields.map Field.name).idxOf name
      return ⟨given, fun name => .invalidLength (place name) (recordText expected fields.length)⟩
  | draft => mismatch expected draft

/-- The value of a field, or what stands for it when it is not given. -/
def Given.get (given : Given) (name : String) (decoder : Decoder α)
    (default : Except DecodeError α) : Except DecodeError α :=
  match given.fields.lookup name with
  | some draft => decoder draft
  | none => default

/-- The value of a field that has to be given. -/
def Given.need (given : Given) (name : String) (decoder : Decoder α) : Except DecodeError α :=
  given.get name decoder (.error (given.absent name))

/-- The value of a field with a default. -/
def Given.default (given : Given) (name : String) (decoder : Decoder α) (default : α) :
    Except DecodeError α :=
  given.get name decoder (.ok default)

end Decoder

/-! ### Values that are kept as they are -/

/-- The number of containers that may lie in one another in a value that is kept. -/
def maxDepth : Nat := 127

mutual

/-- The value of a draft, in which at most `depth` containers lie in one another. -/
def Draft.value (depth : Nat) : Draft → Except DecodeError Value
  | .null => .ok .null
  | .bool value => .ok (.bool value)
  | .number value => .ok (.number value)
  | .string value => .ok (.string value)
  | .array items ending =>
    match depth with
    -- A container that lies too deep is refused before its parts are looked at.
    | 0 => .error (.fault .malformed)
    | depth + 1 => do
      let items ← valueItems depth items
      Decoder.faultless ending
      return .array items
  | .object members ending =>
    match depth with
    | 0 => .error (.fault .malformed)
    | depth + 1 => do
      let members ← valueMembers depth [] members
      Decoder.faultless ending
      return .object members
  | .missing fault | .brokenString fault _ | .brokenScalar fault _ => .error (.fault fault)

/-- The values of the items of an array. -/
def valueItems (depth : Nat) : List Draft → Except DecodeError (List Value)
  | [] => .ok []
  | item :: rest => do
    let value ← item.value depth
    return value :: (← valueItems depth rest)

/-- The values of the members of an object, behind those before them. Of two with one name the later
is taken. -/
def valueMembers (depth : Nat) (known : List (String × Value)) :
    List (Draft × Draft) → Except DecodeError (List (String × Value))
  | [] => .ok known
  | member :: rest => do
    let (name, value) ← valueMember depth member
    valueMembers depth (setMember name value known) rest

/-- The name and the value of a member. -/
def valueMember (depth : Nat) : Draft × Draft → Except DecodeError (String × Value)
  | (name, value) => do
    let name ← Decoder.string name
    return (name, ← value.value depth)

end

/-! ### Texts -/

/-- The data that a text writes. -/
def decodeText {α : Type} [Codec α] (text : String) : Except DecodeError α := do
  let document := readDocument text
  let value ← (Codec.decode document.draft).mapError DecodeError.inText
  Decoder.faultless document.ending
  return value

/-! ### Encoding -/

/-- The value of an integer. -/
def ofNat (n : Nat) : Value :=
  .number (.integer n)

/-- The value of a number of double precision. -/
def ofDouble (d : Double) : Value :=
  .number (.double d)

/-- The value of data that may be missing. -/
def ofOption (value : Option Value) : Value :=
  value.getD .null

/-- The member for data that is left out when it is missing. -/
def presentMember (name : String) (value : Option Value) : List (String × Value) :=
  (value.map fun value => (name, value)).toList

end MiniApp.Json
