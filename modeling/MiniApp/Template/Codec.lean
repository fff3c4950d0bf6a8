import MiniApp.Json.Decode
import MiniApp.Template.Diagnostic

/-!
# Places and error codes as JSON
-/

set_option autoImplicit false

namespace MiniApp.Template

open MiniApp.Json

namespace Position

/-- The fields of a position. -/
def fields : List Decoder.Field :=
  [Decoder.field "offset" Decoder.word,
   Decoder.field "line" Decoder.word,
   Decoder.field "column" Decoder.word]

/-- The position from the fields that are given. -/
def ofGiven (given : Decoder.Given) : Except DecodeError Position := do
  return {
    offset := ← given.need "offset" Decoder.word
    line := ← given.need "line" Decoder.word
    column := ← given.need "column" Decoder.word }

instance : Codec Position where
  decode draft := do ofGiven (← Decoder.record "Position" fields draft)
  encode position := .object
    [("offset", ofNat position.offset),
     ("line", ofNat position.line),
     ("column", ofNat position.column)]

end Position

namespace Location

/-- The fields of a location. -/
def fields : List Decoder.Field :=
  [Decoder.field "start" (Codec.decode (α := Position)),
   Decoder.field "end" (Codec.decode (α := Position)),
   Decoder.field "source" Decoder.string]

/-- The location from the fields that are given. -/
def ofGiven (given : Decoder.Given) : Except DecodeError Location := do
  return {
    start := ← given.need "start" Codec.decode
    stop := ← given.need "end" Codec.decode
    source := ← given.need "source" Decoder.string }

instance : Codec Location where
  decode draft := do ofGiven (← Decoder.record "SourceLocation" fields draft)
  encode location := .object
    [("start", encode location.start),
     ("end", encode location.stop),
     ("source", .string location.source)]

end Location

instance : Codec ErrorCode where
  decode := Decoder.choice
    [("VOnNoExpression", .missingExpression), ("InvalidExpression", .invalidExpression)]
  encode code := .string code.name

end MiniApp.Template
