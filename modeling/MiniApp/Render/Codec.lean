import MiniApp.Json.Decode
import MiniApp.Render.Helper
import MiniApp.Render.Options

/-!
# Options of the compiler as JSON

The mode, the helpers and the options of the compiler. Every option may be left out.
-/

set_option autoImplicit false

namespace MiniApp.Render

open MiniApp.Json

/-- The name of a mode. -/
def Mode.name : Mode → String
  | .function => "function"
  | .module => "module"

instance : Codec Mode where
  decode := Decoder.choice [("function", .function), ("module", .module)]
  encode mode := .string mode.name

/-- The name of a helper in data. -/
def Helper.label : Helper → String
  | .on => "VOn"

instance : Codec Helper where
  decode := Decoder.choice [("VOn", .on)]
  encode helper := .string helper.label

namespace Options

/-- The fields of the options. -/
def fields : List Decoder.Field :=
  [Decoder.field "mode" (Codec.decode (α := Mode)),
   Decoder.field "prefixIdentifiers" Decoder.bool,
   Decoder.field "runtimeModuleName" Decoder.string,
   Decoder.field "runtimeGlobalName" Decoder.string]

/-- The options from the fields that are given. -/
def ofGiven (given : Decoder.Given) : Except DecodeError Options := do
  let standard : Options := {}
  return {
    mode := ← given.default "mode" Codec.decode standard.mode
    qualifies := ← given.default "prefixIdentifiers" Decoder.bool standard.qualifies
    runtimeModule := ← given.default "runtimeModuleName" Decoder.string standard.runtimeModule
    runtimeGlobal := ← given.default "runtimeGlobalName" Decoder.string standard.runtimeGlobal }

instance : Codec Options where
  decode draft := do ofGiven (← Decoder.record "MpCompilerOptions" fields draft)
  encode options := .object
    [("mode", encode options.mode),
     ("prefixIdentifiers", .bool options.qualifies),
     ("runtimeModuleName", .string options.runtimeModule),
     ("runtimeGlobalName", .string options.runtimeGlobal)]

end Options

end MiniApp.Render
