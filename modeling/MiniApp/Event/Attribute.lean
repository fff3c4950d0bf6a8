/-!
# Attributes of events

The platform binds an event with an attribute. Its first part says whether the event goes on to the
elements around and in which phase it is taken; the name of the event follows, behind a colon if it
must keep its spelling.
-/

set_option autoImplicit false

namespace MiniApp.Event

/-- How an event is bound: whether it is caught or goes on, and in which phase. -/
inductive Family
  | bind | catching | captureBind | captureCatch
  deriving DecidableEq, Repr

/-- The family for events that are caught or not, in the capture phase or not. -/
def Family.of (isCatch isCapture : Bool) : Family :=
  match isCatch, isCapture with
  | false, false => .bind
  | true, false => .catching
  | false, true => .captureBind
  | true, true => .captureCatch

/-- The first part of the attribute. -/
def Family.text : Family → String
  | .bind => "bind"
  | .catching => "catch"
  | .captureBind => "capture-bind"
  | .captureCatch => "capture-catch"

/-- The events in the life of a component, in both spellings. -/
def lifecycleHooks : List String :=
  ["vnode-before-mount", "vnode-mounted", "vnode-before-update", "vnode-updated",
   "vnode-before-unmount", "vnode-unmounted", "vnodeBeforeMount", "vnodeMounted",
   "vnodeBeforeUpdate", "vnodeUpdated", "vnodeBeforeUnmount", "vnodeUnmounted"]

/-- Whether the name of the event keeps its spelling behind a colon. -/
def isSeparated (event : String) : Bool :=
  event.toList.contains '-' || lifecycleHooks.contains event

/-- The name that the platform has for an event. -/
def platformName (event : String) : String :=
  if event = "click" then "tap" else event

/-- The attribute that binds a known event. -/
def staticAttribute (family : Family) (event : String) : String :=
  if isSeparated event then family.text ++ ":" ++ event
  else family.text ++ platformName event

/-- The attribute that binds the event which an expression names. -/
def dynamicAttribute (family : Family) (expression : String) : String :=
  family.text ++ ":\x7b\x7b" ++ expression ++ "\x7d\x7d"

end MiniApp.Event
