import MiniApp.Handler.Shape
import MiniApp.Proofs.Handler.Trimming
import MiniApp.Proofs.Script.Grammar.Statement

/-!
# Functions of the event

What is no function by itself is put behind `$event => `, and the outcome should be read as a
function literal. Whether it is depends on what the text makes behind the arrow: statements in
braces or an expression, which must be read up to the last character.

* `isExpression_event_iff`: the outcome is a function literal if and only if it is.

Behind the arrow an expression is read without commas and outside of the module, where `await` is a
name; so what is an expression by itself may end too early there, or not be read at all.
-/

set_option autoImplicit false

namespace MiniApp.Handler

open MiniApp.Text MiniApp.Script

/-! ### Up to the arrow -/

/-- What stands before a body to make it a function of the event. -/
def eventHead : List Char :=
  ['$', 'e', 'v', 'e', 'n', 't', ' ', '=', '>', ' ']

/-- What a module allows outside of functions. -/
def moduleSetting : Setting :=
  ⟨true, true, false, false⟩

/-- At the first token of a function of the event. -/
def atEvent (text : List Char) : State :=
  ⟨⟨.word "$event" false, text.length + 10, text.length + 4, false⟩,
    ' ' :: '=' :: '>' :: ' ' :: text, text.length + 10, moduleSetting⟩

/-- At its arrow. -/
def atArrow (text : List Char) : State :=
  ⟨⟨.mark .arrow, text.length + 3, text.length + 1, false⟩, ' ' :: text, text.length + 4,
    moduleSetting⟩

/-- Its parameter. -/
def eventParameter (text : List Char) : Script.Node :=
  .mk .parameters ⟨text.length + 10, text.length + 4⟩
    [.mk (.binding "$event") ⟨text.length + 10, text.length + 4⟩ []]

/-- A text behind the head is read from the event on. -/
theorem initial?_event (text : List Char) :
    State.initial? (eventHead ++ text) = some (atEvent text) :=
  rfl

/-- The head of the function is read as its one parameter, whatever stands behind the arrow. -/
theorem arrowHead_event (recur : Recur) (text : List Char) :
    Reader.arrowHead recur (atEvent text) =
      some (⟨text.length + 10, false, eventParameter text⟩, atArrow text) :=
  rfl

/-- The state behind the arrow, at the first token of the body. -/
def behindArrow (text : List Char) (token : Token) (rest : List Char) : State :=
  ⟨token, rest, text.length + 1, moduleSetting⟩

/-- Behind the arrow the reader stands at the first token of the text, if there is one. -/
theorem expect_arrow (text : List Char) :
    Reader.expect .arrow (atArrow text) =
      (scan text).map fun next => ((), behindArrow text next.1 next.2) := by
  have hadvance : Reader.advance (atArrow text) =
      (scan text).map fun next => ((), behindArrow text next.1 next.2) := by
    have hblank : scan (' ' :: text) = scan text := rfl
    show (scan (' ' :: text)).bind _ = _
    rw [hblank]
    cases scan text <;> rfl
  have heat : Reader.eat .arrow (atArrow text) =
      (Reader.advance (atArrow text)).bind fun answer => some (true, answer.2) := rfl
  have hexpect : Reader.expect .arrow (atArrow text) =
      (Reader.eat .arrow (atArrow text)).bind fun answer =>
        Reader.require answer.1 answer.2 := rfl
  rw [hexpect, heat, hadvance]
  cases scan text <;> rfl

/-! ### From the arrow on -/

/-- Reads the body of an arrow function: statements in braces or an expression without commas. -/
def readBody (recur : Recur) : Reader Script.Node := do
  if ← Reader.isAt .braceL then Reader.functionBody recur else recur .assignment

/-- The setting in the body of an arrow function that is not asynchronous. -/
def bodySetting : Setting :=
  ⟨true, false, false, false⟩

/-- A function of the event is read as its parameter and what its text makes behind the arrow. -/
theorem assignment_event (recur : Recur) (text : List Char) :
    Reader.assignment recur (atEvent text) =
      (scan text).bind fun next =>
        (readBody recur { behindArrow text next.1 next.2 with setting := bodySetting }).map
          fun answer =>
            (.mk (.arrow false (!next.1.isMark .braceL)) ⟨text.length + 10, answer.2.lastStop⟩
              [eventParameter text, answer.1], { answer.2 with setting := moduleSetting }) := by
  -- The head of the function is read, so nothing else is tried.
  have htry : Reader.assignment recur (atEvent text) =
      Reader.orElse (Reader.arrowHead recur) (Reader.arrowFrom recur)
        (Reader.choiceOrAssignment recur) (atEvent text) := rfl
  rw [htry, Reader.orElse, arrowHead_event]
  show (Reader.expect .arrow (atArrow text)).bind _ = _
  rw [expect_arrow]
  cases scan text with
  | none => rfl
  | some next =>
      obtain ⟨token, rest⟩ := next
      have hbody : readBody recur { behindArrow text token rest with setting := bodySetting } =
          (if token.isMark .braceL then Reader.functionBody recur else recur .assignment)
            { behindArrow text token rest with setting := bodySetting } := rfl
      show (Reader.within _ (if token.isMark .braceL = true then Reader.functionBody recur
        else recur .assignment) (behindArrow text token rest)).bind _ = Option.map _ _
      rw [Reader.within_eq, hbody]
      show ((Option.map _ ((if token.isMark .braceL = true then Reader.functionBody recur
        else recur .assignment)
          { behindArrow text token rest with setting := bodySetting })).bind _) = _
      cases (if token.isMark .braceL = true then Reader.functionBody recur else recur .assignment)
        { behindArrow text token rest with setting := bodySetting } <;> rfl

/-- The body that a text makes behind the arrow, if it is read up to its last character. -/
def arrowBody? (text : List Char) : Option Script.Node := do
  let (token, rest) ← scan text
  let (body, s) ← readBody (Reader.upTo (sufficientDepth (text.length + 10)))
    { behindArrow text token rest with setting := bodySetting }
  if body.hasCoverDefault || s.lastStop != 0 then none else some body

/-- Expressions without a comma behind the first one are just this one. -/
theorem expression_iff {recur : Recur} {s s' : State} {tree : Script.Node}
    (hkind : tree.kind ≠ .sequence) :
    Reader.expression recur s = some (tree, s') ↔
      Reader.assignment recur s = some (tree, s') ∧ s'.token.isMark .comma = false := by
  -- the reader as a computation with options, where the test for the comma can be split
  have hexpression : Reader.expression recur s =
      (Reader.assignment recur s).bind fun answer =>
        if answer.2.token.isMark .comma then
          (Reader.itemsUntil (do return !(← Reader.isAt .comma)) (do
            Reader.expect .comma
            Reader.assignment recur) answer.2).map fun more =>
              (.mk .sequence ⟨s.token.start, more.2.lastStop⟩ (answer.1 :: more.1), more.2)
        else some answer := by
    show (Reader.assignment recur s).bind _ = _
    refine congrArg (Option.bind _) (funext fun answer => ?_)
    obtain ⟨first, mid⟩ := answer
    show (if mid.token.isMark .comma = true then _ else pure first : Reader Script.Node) mid = _
    dsimp only
    split
    · show (Reader.itemsUntil _ _ mid).bind _ = _
      cases Reader.itemsUntil (do return !(← Reader.isAt .comma)) (do
        Reader.expect .comma
        Reader.assignment recur) mid <;> rfl
    · rfl
  rw [hexpression, Option.bind_eq_some_iff]
  constructor
  · rintro ⟨⟨first, mid⟩, hfirst, hrest⟩
    dsimp only at hrest
    split at hrest
    · obtain ⟨more, -, hmore⟩ := Option.map_eq_some_iff.mp hrest
      cases hmore
      exact absurd rfl hkind
    · rename_i hcomma
      cases hrest
      exact ⟨hfirst, Bool.eq_false_iff.mpr hcomma⟩
  · rintro ⟨hfirst, hcomma⟩
    exact ⟨(tree, s'), hfirst, by simp [hcomma]⟩

/-- A text consists of an expression if one is read from it up to the blank space at its end. -/
theorem wholeExpression?_eq_some_iff {text : List Char} {tree : Script.Node} :
    wholeExpression? text = some tree ↔
      ∃ s s', State.initial? text = some s ∧
        Reader.expression (Reader.upTo (sufficientDepth s.token.start)) s = some (tree, s') ∧
          tree.hasCoverDefault = false ∧ tree.span.stop = trailingBlanks text := by
  unfold wholeExpression? expression? readText
  constructor
  · intro h
    obtain ⟨read, hread, h⟩ := Option.bind_eq_some_iff.mp h
    obtain ⟨s, hinitial, hread⟩ := Option.bind_eq_some_iff.mp hread
    obtain ⟨⟨whole, s'⟩, hwhole, hread⟩ := Option.bind_eq_some_iff.mp hread
    dsimp only at hread
    split at hread
    · cases hread
    · rename_i hcover
      cases hread
      split at h
      · rename_i hstop
        cases h
        exact ⟨s, s', hinitial, hwhole, Bool.eq_false_iff.mpr hcover, hstop⟩
      · cases h
  · rintro ⟨s, s', hinitial, hwhole, hcover, hstop⟩
    refine Option.bind_eq_some_iff.mpr ⟨tree, ?_, if_pos hstop⟩
    refine Option.bind_eq_some_iff.mpr ⟨s, hinitial, ?_⟩
    refine Option.bind_eq_some_iff.mpr ⟨(tree, s'), hwhole, ?_⟩
    exact if_neg (Bool.eq_false_iff.mp hcover)

/-- A text makes a body if a body is read from its first token up to its last character, with no
default value in the place of a property. -/
theorem arrowBody?_isSome_iff {text : List Char} :
    (arrowBody? text).isSome ↔
      ∃ token rest body s, scan text = some (token, rest) ∧
        readBody (Reader.upTo (sufficientDepth (text.length + 10)))
            { behindArrow text token rest with setting := bodySetting } = some (body, s) ∧
          body.hasCoverDefault = false ∧ s.lastStop = 0 := by
  unfold arrowBody?
  rw [Option.isSome_iff_exists]
  constructor
  · rintro ⟨tree, h⟩
    obtain ⟨⟨token, rest⟩, hscan, h⟩ := Option.bind_eq_some_iff.mp h
    obtain ⟨⟨body, s⟩, hbody, h⟩ := Option.bind_eq_some_iff.mp h
    dsimp only at h
    split at h
    · cases h
    · rename_i hend
      rw [Bool.or_eq_true, not_or, Bool.not_eq_true, bne_iff_ne, not_not] at hend
      exact ⟨token, rest, body, s, hscan, hbody, hend.1, hend.2⟩
  · rintro ⟨token, rest, body, s, hscan, hbody, hcover, hstop⟩
    refine ⟨body, Option.bind_eq_some_iff.mpr ⟨(token, rest), hscan, ?_⟩⟩
    refine Option.bind_eq_some_iff.mpr ⟨(body, s), hbody, ?_⟩
    simp [hcover, hstop]

/-- A function of the event holds what makes no sense outside a pattern only in its body. -/
theorem hasCoverDefault_event (text : List Char) (isExpression : Bool) (span : Span)
    (body : Script.Node) :
    (Node.mk (.arrow false isExpression) span [eventParameter text, body]).hasCoverDefault =
      body.hasCoverDefault := by
  simp [eventParameter, Node.hasCoverDefault, Node.anyHasCoverDefault]

/-- A function of the event is one if and only if the text behind the arrow is a body. -/
theorem wholeExpression?_event_iff {text : List Char}
    (hend : trailingBlanks (eventHead ++ text) = 0) :
    (∃ tree, wholeExpression? (eventHead ++ text) = some tree ∧ isFunction tree.withoutParens) ↔
      (arrowBody? text).isSome := by
  rw [arrowBody?_isSome_iff]
  constructor
  · rintro ⟨tree, htree, hfunction⟩
    obtain ⟨s, s', hinitial, hread, hcover, hstop⟩ := wholeExpression?_eq_some_iff.mp htree
    rw [initial?_event] at hinitial
    cases hinitial
    have hkind : tree.kind ≠ .sequence := by
      intro hkind
      obtain ⟨kind, span, parts⟩ := tree
      cases hkind
      cases hfunction
    obtain ⟨hassignment, -⟩ := (expression_iff hkind).mp hread
    rw [assignment_event] at hassignment
    obtain ⟨⟨token, rest⟩, hscan, hassignment⟩ := Option.bind_eq_some_iff.mp hassignment
    obtain ⟨⟨body, behind⟩, hbody, hassignment⟩ := Option.map_eq_some_iff.mp hassignment
    cases hassignment
    rw [hasCoverDefault_event] at hcover
    exact ⟨token, rest, body, behind, hscan, hbody, hcover, hstop.trans hend⟩
  · rintro ⟨token, rest, body, behind, hscan, hbody, hcover, hstop⟩
    have hassignment : Reader.assignment (Reader.upTo (sufficientDepth (text.length + 10)))
        (atEvent text) = some (.mk (.arrow false (!token.isMark .braceL))
          ⟨text.length + 10, behind.lastStop⟩ [eventParameter text, body],
            { behind with setting := moduleSetting }) := by
      rw [assignment_event, hscan, Option.bind_some, hbody]
      rfl
    -- Nothing is left behind the last character, so no comma stands there.
    have hcomma : behind.token.isMark .comma = false := by
      obtain ⟨hat, -⟩ := initial_spec (initial?_event text)
      have hread := Reader.reads_assignment (Reader.reads_upTo _) _ _ _ _ hat hassignment
      have hstart : behind.token.start ≤ behind.lastStop := hread.sound.start
      have hnonempty : behind.token.shape ≠ .finish → behind.token.stop < behind.token.start :=
        hread.sound.nonempty
      by_contra hcomma
      have hshape : behind.token.shape = .mark .comma := by
        simpa [Token.isMark] using hcomma
      have hless := hnonempty (by simp [hshape])
      omega
    have hkind : (Node.mk (.arrow false (!token.isMark .braceL))
        ⟨text.length + 10, behind.lastStop⟩ [eventParameter text, body]).kind ≠ .sequence := by
      simp [Node.kind]
    have hread := (expression_iff hkind).mpr ⟨hassignment, hcomma⟩
    rw [← hasCoverDefault_event text (!token.isMark .braceL)] at hcover
    exact ⟨_, wholeExpression?_eq_some_iff.mpr
      ⟨_, _, initial?_event text, hread, hcover, hstop.trans hend.symm⟩, rfl⟩

/-! ### Shapes of handlers -/

/-- The text is an expression of the shape when its names are read as they stand. -/
def IsExpression (shape : Script.Node → Bool) (text : List Char) : Prop :=
  ∃ tree, wholeExpression? text = some tree ∧ shape tree.withoutParens

/-- A source is sorted as a function literal if and only if it is an expression that is a
function. -/
theorem ofSource_function_iff {source : List Char} :
    (∃ text, ofSource source = .functionLiteral text) ↔ IsExpression isFunction source := by
  unfold ofSource IsExpression
  cases wholeExpression? source with
  | some tree =>
      by_cases hfunction : isFunction tree.withoutParens
      · simp [hfunction]
      · by_cases hreference : isReference tree.withoutParens
        · simp [hfunction, hreference]
        · simp [hfunction, hreference]
  | none =>
      dsimp only
      split
      · simp
      · simp
      · simp

/-- No reference is a function. -/
theorem isFunction_of_isReference {tree : Script.Node} (h : isReference tree) :
    isFunction tree = false := by
  obtain ⟨kind, span, parts⟩ := tree
  cases kind <;> first | rfl | exact nomatch h

/-- It is sorted as a reference if and only if it is an expression that is one. -/
theorem ofSource_reference_iff {source : List Char} :
    (∃ text, ofSource source = .reference text) ↔ IsExpression isReference source := by
  unfold ofSource IsExpression
  cases wholeExpression? source with
  | some tree =>
      by_cases hreference : isReference tree.withoutParens
      · simp [hreference, isFunction_of_isReference hreference]
      · by_cases hfunction : isFunction tree.withoutParens
        · simp [hfunction, hreference]
        · simp [hfunction, hreference]
  | none =>
      dsimp only
      split
      · simp
      · simp
      · simp

/-- A text behind an arrow is a function of the event if and only if it is a body. -/
theorem isExpression_event_iff {text : List Char} (htrimmed : IsTrimmed text) (hne : text ≠ []) :
    (∃ code, ofSource (trim (eventHead ++ text)) = .functionLiteral code) ↔
      (arrowBody? text).isSome := by
  -- Trimming takes nothing off: the head starts with `$`, and the text behind it is trimmed.
  have htrim : trim (eventHead ++ text) = eventHead ++ text := by
    apply IsTrimmed.trim_eq
    constructor
    · intro c hc
      have hfirst : some '$' = some c := hc
      cases hfirst
      decide
    · rw [List.getLast?_append_of_ne_nil _ hne]
      exact htrimmed.2
  have hend : trailingBlanks (eventHead ++ text) = 0 := by
    have htrimEnd : trimEnd (eventHead ++ text) = eventHead ++ text := htrim
    rw [trailingBlanks, htrimEnd, Nat.sub_self]
  rw [htrim, ofSource_function_iff]
  exact wholeExpression?_event_iff hend

end MiniApp.Handler
