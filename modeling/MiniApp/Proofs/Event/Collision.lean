import MiniApp.Proofs.Event.Report

/-!
# Two bindings with one attribute

An element has one value for an attribute. Where two events are bound by the same attribute, one of
the two handlers takes the place of the other, and nothing is reported. The name of an attribute is
put together from the family of the event and its name, behind a colon for some names only, and the
one name that the platform spells differently is replaced. So it has to be shown that no two of
these texts run into each other by accident.

* `Family.text_append_inj`: the families are told apart at the start of any text.
* `shownName_eq_iff`: the names that are shown alike. A name that begins with a colon looks like a
  name that is put behind one, and this happens only where the second has no hyphen, since a hyphen
  would put the first one behind a colon as well.
* `attributeName_eq_iff`: when two directives have the same attribute, whatever else is in them.
-/

set_option autoImplicit false

namespace MiniApp.Event

open MiniApp.Template

/-! ### Families -/

/-- No family begins with another one, so that what follows is told apart from it. -/
theorem Family.text_append_inj {family family' : Family} {rest rest' : String}
    (h : family.text ++ rest = family'.text ++ rest') : family = family' ∧ rest = rest' := by
  -- The first letter tells `bind` from the others, the third one `catch` from the capture phase,
  -- and the one behind the hyphen the two families of that phase from each other.
  cases family <;> cases family' <;>
    simp_all [Family.text, String.ext_iff, String.toList_append]

/-- The family of an event is decided by the modifiers that are given, and only by three of them. -/
theorem family_ofNames_eq_iff (names names' : List String) :
    (Modifiers.ofNames names).family = (Modifiers.ofNames names').family ↔
      ("stop" ∈ names ∨ "prevent" ∈ names ↔ "stop" ∈ names' ∨ "prevent" ∈ names') ∧
        ("capture" ∈ names ↔ "capture" ∈ names') := by
  have hcatch : ∀ names : List String, (Modifiers.ofNames names).isCatch = true ↔
      "stop" ∈ names ∨ "prevent" ∈ names := by
    intro names
    simp [Modifiers.isCatch, Modifiers.ofNames]
  have hcapture : ∀ names : List String, (Modifiers.ofNames names).capture = true ↔
      "capture" ∈ names := by
    intro names
    simp [Modifiers.ofNames]
  rw [← hcatch, ← hcatch, ← hcapture, ← hcapture]
  unfold Modifiers.family
  cases (Modifiers.ofNames names).isCatch <;> cases (Modifiers.ofNames names').isCatch <;>
    cases (Modifiers.ofNames names).capture <;> cases (Modifiers.ofNames names').capture <;>
    simp [Family.of]

/-! ### Names -/

/-- What follows the family in an attribute. -/
def shownName (event : String) : String :=
  if isSeparated event then ":" ++ event else platformName event

/-- An attribute is the text of its family with the shown name behind it. -/
theorem staticAttribute_eq (family : Family) (event : String) :
    staticAttribute family event = family.text ++ shownName event := by
  unfold staticAttribute shownName
  split
  · rw [String.append_assoc]
  · rfl

/-- A lifecycle hook in the spelling without hyphens. -/
def IsCamelHook (event : String) : Prop :=
  event ∈ lifecycleHooks ∧ '-' ∉ event.toList

instance (event : String) : Decidable (IsCamelHook event) :=
  inferInstanceAs (Decidable (_ ∧ _))

/-- A colon separates an event from its family if the event has a hyphen or is a lifecycle hook. -/
theorem isSeparated_iff (event : String) :
    isSeparated event = true ↔ '-' ∈ event.toList ∨ event ∈ lifecycleHooks := by
  simp [isSeparated]

/-- A name behind a colon is not separated by another colon, unless it has a hyphen. -/
theorem isSeparated_colon_iff (event : String) :
    isSeparated (":" ++ event) = true ↔ '-' ∈ event.toList := by
  have hcolon : ∀ hook ∈ lifecycleHooks, hook.toList.head? ≠ some ':' := by decide
  have hunknown : ":" ++ event ∉ lifecycleHooks := by
    intro hmem
    exact hcolon _ hmem (by simp)
  simp [isSeparated_iff, hunknown]

/-- The only name that the platform changes is that of a click. -/
theorem platformName_eq_iff (event other : String) :
    platformName event = platformName other ↔
      event = other ∨ (event = "click" ∧ other = "tap") ∨ (event = "tap" ∧ other = "click") := by
  unfold platformName
  by_cases hevent : event = "click" <;> by_cases hother : other = "click"
  · simp [hevent, hother]
  · -- A click is shown as a tap, which only a tap is as well.
    simp [hevent, hother, Ne.symm hother, eq_comm]
  · simp [hevent, hother]
  · simp [hevent, hother]

/-- A separated name is shown like one that is not separated only if that one spells out the colon,
and then it is a lifecycle hook. -/
theorem shownName_separated_eq_iff {event other : String} (hevent : isSeparated event = true)
    (hother : ¬ isSeparated other = true) :
    shownName event = shownName other ↔ IsCamelHook event ∧ other = ":" ++ event := by
  unfold shownName
  rw [if_pos hevent, if_neg hother]
  constructor
  · intro h
    have hspelled : other = ":" ++ event := by
      unfold platformName at h
      split at h
      · -- A tap does not begin with a colon.
        have hfirst := congrArg (fun name : String => name.toList.head?) h
        simp at hfirst
      · exact h.symm
    rw [hspelled, isSeparated_colon_iff] at hother
    rcases (isSeparated_iff event).mp hevent with hhyphen | hhook
    · exact absurd hhyphen hother
    · exact ⟨⟨hhook, hother⟩, hspelled⟩
  · rintro ⟨-, rfl⟩
    have hne : ":" ++ event ≠ "click" := by
      intro hclick
      have hfirst := congrArg (fun name : String => name.toList.head?) hclick
      simp at hfirst
    rw [platformName, if_neg hne]

/-- The names that are shown alike: a name and itself, a click and a tap, and a lifecycle hook
without hyphens and the same hook behind a colon. -/
theorem shownName_eq_iff (event other : String) :
    shownName event = shownName other ↔
      event = other ∨ (event = "click" ∧ other = "tap") ∨ (event = "tap" ∧ other = "click") ∨
        (IsCamelHook event ∧ other = ":" ++ event) ∨
        (IsCamelHook other ∧ event = ":" ++ other) := by
  -- Neither of the two names that the platform changes is separated.
  have hplain : isSeparated "click" = false ∧ isSeparated "tap" = false := by decide
  -- A hook is separated, and behind a colon it is not.
  have hhook : ∀ name, IsCamelHook name →
      isSeparated name = true ∧ isSeparated (":" ++ name) = false := by
    intro name h
    rw [isSeparated_iff, ← Bool.not_eq_true, isSeparated_colon_iff]
    exact ⟨Or.inr h.1, h.2⟩
  by_cases hevent : isSeparated event = true <;> by_cases hother : isSeparated other = true
  · have hsame : shownName event = shownName other ↔ event = other := by
      simp [shownName, hevent, hother, String.ext_iff]
    grind
  · rw [shownName_separated_eq_iff hevent hother]
    grind
  · rw [eq_comm, shownName_separated_eq_iff hother hevent]
    grind
  · have hsame : shownName event = shownName other ↔ platformName event = platformName other := by
      simp [shownName, hevent, hother]
    rw [hsame, platformName_eq_iff]
    grind

/-! ### Directives -/

/-- The event that a directive binds, if it is known. -/
def staticEvent? (directive : Directive) : Option String :=
  (directive.argument.filter Expression.isStatic).map Expression.content

/-- The attribute of a directive with a known event depends on nothing but the event and the family
that the modifiers give. -/
theorem attributeText_of_static {directive : Directive} {event : String}
    (h : staticEvent? directive = some event) (code : String → String) :
    attributeText code directive =
      staticAttribute (Modifiers.ofNames directive.modifiers).family event := by
  unfold staticEvent? at h
  unfold attributeText
  cases hargument : directive.argument with
  | none => simp [hargument] at h
  | some argument =>
      obtain ⟨hstatic, rfl⟩ : argument.isStatic = true ∧ argument.content = event := by
        simpa [hargument, Option.filter_some] using h
      exact if_pos hstatic

/-- Two directives with known events have the same attribute if and only if both or neither stop the
event, both or neither take it in the capture phase, and the events are the same, or a click and a
tap, or a lifecycle hook without hyphens and the same hook behind a colon. Neither the other
modifiers nor their order and number matter, nor do the handlers and what has been compiled
before. -/
theorem attributeName_eq_iff {first second : Directive} {event other : String}
    (hfirst : staticEvent? first = some event) (hsecond : staticEvent? second = some other)
    (context context' : Context) :
    ((compileDirective first).run context).1.attributeName =
        ((compileDirective second).run context').1.attributeName ↔
      ("stop" ∈ first.modifiers ∨ "prevent" ∈ first.modifiers ↔
          "stop" ∈ second.modifiers ∨ "prevent" ∈ second.modifiers) ∧
        ("capture" ∈ first.modifiers ↔ "capture" ∈ second.modifiers) ∧
        (event = other ∨ (event = "click" ∧ other = "tap") ∨ (event = "tap" ∧ other = "click") ∨
          (IsCamelHook event ∧ other = ":" ++ event) ∨
          (IsCamelHook other ∧ event = ":" ++ other)) := by
  rw [compileDirective_reports, compileDirective_reports]
  show attributeText _ first = attributeText _ second ↔ _
  rw [attributeText_of_static hfirst, attributeText_of_static hsecond, staticAttribute_eq,
    staticAttribute_eq, ← shownName_eq_iff, ← and_assoc, ← family_ofNames_eq_iff]
  constructor
  · exact Family.text_append_inj
  · rintro ⟨hfamily, hname⟩
    rw [hfamily, hname]

/-- A click that is stopped and a tap that is prevented, whatever other modifiers there are. -/
theorem attributeName_stoppedClick :
    let click := { Directive.on "click" .stub with modifiers := ["once", "stop"] }
    let tap := { Directive.on "tap" .stub with modifiers := ["prevent", "prevent"] }
    ((compileDirective click).run (.initial {})).1.attributeName =
      ((compileDirective tap).run (.initial {})).1.attributeName := by
  intro click tap
  have hclick : staticEvent? click = some "click" := rfl
  have htap : staticEvent? tap = some "tap" := rfl
  exact (attributeName_eq_iff hclick htap (.initial {}) (.initial {})).mpr (by decide)

/-- A hook is shown behind a colon, and so is a name that spells the colon out. -/
example : staticAttribute .bind "vnodeMounted" = staticAttribute .bind ":vnodeMounted" := by
  decide

end MiniApp.Event
