import MiniApp.Event.Attribute

/-!
# Modifiers of events

The modifiers behind the name of an event say how it is handled. Those that are no known modifier
name keys.
-/

set_option autoImplicit false

namespace MiniApp.Event

/-- The modifiers of an event: which of the known ones were given, and all others in order. -/
structure Modifiers where
  stop : Bool
  prevent : Bool
  self : Bool
  capture : Bool
  once : Bool
  passive : Bool
  keys : List String
  deriving DecidableEq, Repr

/-- The known modifiers. -/
def knownModifiers : List String :=
  ["stop", "prevent", "self", "capture", "once", "passive"]

/-- Sorts the modifiers of an event. -/
def Modifiers.ofNames (names : List String) : Modifiers where
  stop := names.contains "stop"
  prevent := names.contains "prevent"
  self := names.contains "self"
  capture := names.contains "capture"
  once := names.contains "once"
  passive := names.contains "passive"
  keys := names.filter fun name => !knownModifiers.contains name

/-- Whether the event does not go on to the elements around. -/
def Modifiers.isCatch (modifiers : Modifiers) : Bool :=
  modifiers.stop || modifiers.prevent

/-- How the event is bound. -/
def Modifiers.family (modifiers : Modifiers) : Family :=
  .of modifiers.isCatch modifiers.capture

end MiniApp.Event
