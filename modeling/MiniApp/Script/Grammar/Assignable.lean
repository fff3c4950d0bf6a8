import MiniApp.Script.Node

/-!
# What can be assigned

The left side of an assignment is read as an expression first, since nothing tells an array or
object from a pattern before the equals sign is met. Here an expression is turned into the target
that it spells, if it spells one: a name, a member, or a pattern of targets.

`{ name = value }` is no expression. It is read as one all the same, because it may become part of
a pattern; `Node.hasCoverDefault` finds those that did not.
-/

set_option autoImplicit false

namespace MiniApp.Script

namespace Node

/-- The target that is no pattern and that the expression spells: a name or a member, in any
number of parentheses. -/
def toSimpleTarget? : Node → Option Node
  | mk (.identifier name) span parts => some (mk (.identifier name) span parts)
  | mk (.member false) span parts => some (mk (.member false) span parts)
  | mk (.index false) span parts => some (mk (.index false) span parts)
  | mk .parenthesized _ [inner] => inner.toSimpleTarget?
  | _ => none

mutual

/-- The target that the expression spells. An array or object literal spells a pattern unless it
is in parentheses. With `allowsDefault` an assignment spells its target with a default value. -/
def asTarget? (allowsDefault : Bool) : Node → Option Node
  | mk (.array endsInComma) span parts =>
    (asElements? endsInComma parts).map (mk .arrayPattern span)
  | mk (.object endsInComma) span parts =>
    (asProperties? endsInComma parts).map (mk .objectPattern span)
  | mk (.assign .plain) span parts =>
    if allowsDefault then some (mk .withDefault span parts) else none
  | node => node.toSimpleTarget?

/-- The elements of an array as the elements of a pattern. A spread has to be the last and no
comma may follow it. -/
def asElements? (endsInComma : Bool) : List Node → Option (List Node)
  | [] => some []
  | mk .spread span [inner] :: rest =>
    if rest.isEmpty && !endsInComma then
      (asTarget? false inner).map fun target => [mk .rest span [target]]
    else none
  | mk .absent span parts :: rest =>
    (asElements? endsInComma rest).map (mk .absent span parts :: ·)
  | element :: rest => do
    let target ← asTarget? true element
    (asElements? endsInComma rest).map (target :: ·)

/-- The properties of an object as the properties of a pattern. A spread has to be the last, no
comma may follow it, and what it spreads is no pattern. -/
def asProperties? (endsInComma : Bool) : List Node → Option (List Node)
  | [] => some []
  | mk .spread span [inner] :: rest =>
    if rest.isEmpty && !endsInComma then
      inner.toSimpleTarget?.map fun target => [mk .rest span [target]]
    else none
  | mk (.shorthand name) span parts :: rest =>
    (asProperties? endsInComma rest).map (mk (.shorthand name) span parts :: ·)
  | mk .coverDefault span parts :: rest =>
    (asProperties? endsInComma rest).map (mk .withDefault span parts :: ·)
  | mk (.property computed) span [key, value] :: rest => do
    let target ← asTarget? true value
    (asProperties? endsInComma rest).map (mk (.property computed) span [key, target] :: ·)
  | _ :: _ => none

end

/-- The target that the expression spells. -/
def toTarget? (node : Node) : Option Node :=
  node.asTarget? false

mutual

/-- Whether `{ name = value }` stands anywhere in the tree outside a pattern. -/
def hasCoverDefault : Node → Bool
  | mk kind _ parts => kind = .coverDefault || anyHasCoverDefault parts

/-- Whether `{ name = value }` stands anywhere in one of the trees outside a pattern. -/
def anyHasCoverDefault : List Node → Bool
  | [] => false
  | node :: rest => node.hasCoverDefault || anyHasCoverDefault rest

end

end Node

end MiniApp.Script
