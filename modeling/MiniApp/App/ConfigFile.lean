import MiniApp.App.Codec

/-!
# The configuration file

The configuration is read from a file. An app starts with the defaults if the file is missing or
cannot be used.
-/

set_option autoImplicit false

namespace MiniApp.App

open MiniApp.Json

/-- What stands where the file should be. -/
inductive FileContent
  | missing
  | directory
  | bytes (content : ByteArray)

/-- Why the configuration cannot be read. -/
inductive ConfigError
  | missing | directory | notUnicode
  | data (error : DecodeError)
  deriving DecidableEq, Repr

/-- The wording of an error of the file itself. -/
def ConfigError.message? : ConfigError → Option String
  | .missing => some "IO error: No such file or directory (os error 2)"
  | .directory => some "IO error: Is a directory (os error 21)"
  | .notUnicode => some "IO error: stream did not contain valid UTF-8"
  | .data _ => none

/-- The configuration in the file. -/
def readConfig : FileContent → Except ConfigError Config
  | .missing => .error .missing
  | .directory => .error .directory
  | .bytes content =>
    match String.fromUTF8? content with
    | none => .error .notUnicode
    | some text => (decodeText text).mapError .data

/-- The configuration in the file, or the defaults if it cannot be read. -/
def loadConfig (content : FileContent) : Config :=
  match readConfig content with
  | .ok config => config
  | .error _ => {}

end MiniApp.App
