import MiniApp.Json.Value

/-!
# Values with faults

A draft is what was made of a JSON text: a value in which every fault of the text stands at its
place. So a reader of the draft meets the faults in the order in which they stand in the text,
between whatever else it finds wrong.

Some faults matter only if the value is kept: text with an escape for half of a pair of
surrogates, and a number that is too big. A reader that skips the value does not meet them.
-/

set_option autoImplicit false

namespace MiniApp.Json

/-- What is wrong with a text: it breaks the grammar, or it ends too early. -/
inductive Fault
  | malformed | endOfText
  deriving DecidableEq, Repr

/-- A value with the faults of its text. -/
inductive Draft
  | null
  | bool (value : Bool)
  | number (value : Number)
  | string (value : String)
  /-- Items, and what is wrong behind the last one where a comma or the end should stand. -/
  | array (items : List Draft) (ending : Option Fault)
  /-- Names with values, and what is wrong behind the last where a comma or the end should stand. -/
  | object (members : List (Draft × Draft)) (ending : Option Fault)
  /-- No value starts where one should. -/
  | missing (fault : Fault)
  /-- A string with the fault that is met when it is kept, and the one when it is skipped. -/
  | brokenString (kept : Fault) (skipped : Option Fault)
  /-- A number or a word with the fault that is met when it is kept, and the one when it is
  skipped. -/
  | brokenScalar (kept : Fault) (skipped : Option Fault)

mutual

/-- The first fault that is met when the value is skipped. -/
def Draft.skipped? : Draft → Option Fault
  | .null | .bool _ | .number _ | .string _ => none
  | .array items ending => (skippedItems? items).or ending
  | .object members ending => (skippedMembers? members).or ending
  | .missing fault => some fault
  | .brokenString _ skipped | .brokenScalar _ skipped => skipped

/-- The first fault that is met when the items are skipped. -/
def skippedItems? : List Draft → Option Fault
  | [] => none
  | item :: rest => item.skipped?.or (skippedItems? rest)

/-- The first fault that is met when the members are skipped. -/
def skippedMembers? : List (Draft × Draft) → Option Fault
  | [] => none
  | member :: rest => (skippedMember? member).or (skippedMembers? rest)

/-- The first fault that is met when the member is skipped. -/
def skippedMember? : Draft × Draft → Option Fault
  | (name, value) => name.skipped?.or value.skipped?

end

mutual

/-- The draft of a text without faults for the value. -/
def Value.toDraft : Value → Draft
  | .null => .null
  | .bool value => .bool value
  | .number value => .number value
  | .string value => .string value
  | .array items => .array (draftItems items) none
  | .object members => .object (draftMembers members) none

/-- The drafts of the items. -/
def draftItems : List Value → List Draft
  | [] => []
  | item :: rest => item.toDraft :: draftItems rest

/-- The drafts of the members. -/
def draftMembers : List (String × Value) → List (Draft × Draft)
  | [] => []
  | member :: rest => draftMember member :: draftMembers rest

/-- The draft of the member. -/
def draftMember : String × Value → Draft × Draft
  | (name, value) => (.string name, value.toDraft)

end

end MiniApp.Json
