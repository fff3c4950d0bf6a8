import MiniApp.Proofs.Event.Independence

/-!
# What is reported of a binding

A directive is compiled piece by piece: its argument if that is an expression, then the texts that
its handler falls into. Where names are qualified, each piece that cannot be read is reported once
and kept as it is written. A missing handler is reported as well, unless there is a modifier.

* `compileDirective_reports`: the binding of a directive, and what is added to the diagnostics.
* `ofSource_cases`: a handler that counts as an expression has been read, so that it is read again
  when its names are qualified.
* `diagnostics_of_binding`: what kinds of diagnostics a directive adds, how many of each and where.
-/

set_option autoImplicit false

namespace MiniApp.Handler

open MiniApp.Text MiniApp.Script

/-- The text can be read, as one expression or as a module. -/
def IsReadable (text : List Char) : Prop :=
  (wholeExpression? text).isSome ∨ (program? text).isSome

instance (text : List Char) : Decidable (IsReadable text) :=
  inferInstanceAs (Decidable (_ ∨ _))

/-- A text that is one expression can be read. -/
theorem isReadable_of_expression {text : List Char} {expression : Script.Node}
    (h : wholeExpression? text = some expression) : IsReadable text :=
  .inl (by rw [h]; rfl)

/-- The names of a text are qualified if and only if it can be read. -/
theorem qualify_isSome_iff (content : String) :
    (qualify content).isSome ↔ IsReadable content.toList := by
  unfold qualify changes? IsReadable
  cases hexpression : wholeExpression? content.toList with
  | some expression => simp [hexpression]
  | none => simp [hexpression]

/-- The names of a text cannot be qualified if and only if the text cannot be read. -/
theorem qualify_eq_none_iff (content : String) :
    qualify content = none ↔ ¬ IsReadable content.toList := by
  rw [← qualify_isSome_iff, Option.not_isSome_iff_eq_none]

/-- The shape of a source: it is read as an expression, it is one statement that is no expression
(an empty module, or not to be read at all), or it falls into its statements. -/
theorem ofSource_cases (source : List Char) :
    (IsReadable source ∧
        (ofSource source = .reference (String.ofList source) ∨
          ofSource source = .functionLiteral (String.ofList source))) ∨
      ofSource source = .inlineStatement (String.ofList source) ∨
      IsReadable source ∧ ∃ texts, ofSource source = .statements texts := by
  unfold ofSource
  cases hexpression : wholeExpression? source with
  | some expression =>
      have hreadable := isReadable_of_expression hexpression
      dsimp only
      split
      · exact .inl ⟨hreadable, .inr rfl⟩
      · split
        · exact .inl ⟨hreadable, .inl rfl⟩
        · exact .inr (.inl rfl)
  | none =>
      cases hprogram : program? source with
      | none => exact .inr (.inl rfl)
      | some program =>
          dsimp only [Option.map_some]
          cases program.statements with
          | nil => exact .inr (.inl rfl)
          | cons first rest => exact .inr (.inr ⟨.inr (by rw [hprogram]; rfl), _, rfl⟩)

end MiniApp.Handler

namespace MiniApp.Event

open MiniApp.Text MiniApp.Template MiniApp.Render MiniApp.Handler

/-! ### Expressions -/

/-- The code of an expression: with its names qualified, if that is asked for and possible. -/
def expressionCode (options : Options) (content : String) : String :=
  if options.qualifies then (qualify content).getD content else content

/-- What is reported of an expression. -/
def expressionReports (options : Options) (location : Location) (content : String) :
    List Diagnostic :=
  if options.qualifies ∧ ¬ IsReadable content.toList then
    [⟨.invalidExpression, location, some content⟩]
  else []

/-- The context with more diagnostics behind those that are there. -/
def Context.reporting (context : Context) (reports : List Diagnostic) : Context :=
  { context with diagnostics := context.diagnostics ++ reports }

/-- Reporting nothing leaves the context as it is. -/
theorem Context.reporting_nil (context : Context) : context.reporting [] = context := by
  simp [Context.reporting]

/-- Reports one after another are one report of all of them. -/
theorem Context.reporting_reporting (context : Context) (reports more : List Diagnostic) :
    (context.reporting reports).reporting more = context.reporting (reports ++ more) := by
  simp [Context.reporting]

/-- An expression is compiled to its code, and what is reported of it is put behind the other
diagnostics. -/
theorem compileExpression_run (content : String) (location : Location) (context : Context) :
    (compileExpression content location).run context =
      (expressionCode context.options content,
        context.reporting (expressionReports context.options location content)) := by
  show (if !context.options.qualifies then _ else _ : Compile String).run context = _
  unfold expressionCode expressionReports
  cases hqualifies : context.options.qualifies with
  | false =>
      simp only [Bool.not_false, if_true, Bool.false_eq_true, false_and, if_false,
        Context.reporting_nil]
      rfl
  | true =>
      cases hcode : qualify content with
      | some code =>
          have hreadable := (qualify_isSome_iff content).mp (by rw [hcode]; rfl)
          simp only [hreadable, not_true_eq_false, and_false, if_false, Bool.not_true,
            Bool.false_eq_true, if_true, Context.reporting_nil]
          rfl
      | none =>
          have hunreadable := (qualify_eq_none_iff content).mp hcode
          simp only [hunreadable, not_false_eq_true, and_true, if_true, Option.getD_none,
            Bool.not_true, Bool.false_eq_true, if_false]
          rfl

/-- Expressions behind each other report one behind the other. -/
theorem compileExpressions_run (texts : List String) (location : Location) (context : Context) :
    (texts.mapM fun text => compileExpression text location).run context =
      (texts.map (expressionCode context.options),
        context.reporting (texts.flatMap (expressionReports context.options location))) := by
  induction texts generalizing context with
  | nil => exact congrArg (Prod.mk []) context.reporting_nil.symm
  | cons text rest ih =>
      rw [List.mapM_cons, run_bind, compileExpression_run, run_bind, ih]
      show (_ :: _, (context.reporting _).reporting _) = _
      rw [Context.reporting_reporting]
      rfl

/-! ### Handlers -/

/-- The texts that a handler falls into, which are compiled one by one. -/
def pieces : Handler → List String
  | .reference text | .functionLiteral text | .inlineStatement text => [text]
  | .statements texts => texts

/-- The code of a handler, given that of its pieces. -/
def handlerCode (code : String → String) : Handler → HandlerCode
  | .reference text => .reference (code text)
  | .functionLiteral text => .functionLiteral (collapse (code text))
  | .inlineStatement text => .arrow (arrowOfStatement (code text))
  | .statements texts => .arrow (arrowOfStatements (texts.map code))

/-- A handler is compiled to its code, and what is reported of its pieces comes in their order. -/
theorem compileHandler_run (value : Expression) (context : Context) :
    (compileHandler value).run context =
      (handlerCode (expressionCode context.options) (classify value.content),
        context.reporting ((pieces (classify value.content)).flatMap
          (expressionReports context.options value.location))) := by
  unfold compileHandler
  cases classify value.content with
  | reference text =>
      dsimp only
      rw [run_bind, compileExpression_run, pieces, List.flatMap_singleton]
      rfl
  | functionLiteral text =>
      dsimp only
      rw [run_bind, compileExpression_run, pieces, List.flatMap_singleton]
      rfl
  | inlineStatement text =>
      dsimp only
      rw [run_bind, compileExpression_run, pieces, List.flatMap_singleton]
      rfl
  | statements texts =>
      dsimp only
      rw [run_bind, compileExpressions_run]
      rfl

/-! ### Directives -/

/-- The attribute of a directive, given the code of expressions. -/
def attributeText (code : String → String) (directive : Directive) : String :=
  let family := (Modifiers.ofNames directive.modifiers).family
  match directive.argument with
  | none => family.text
  | some argument =>
    if argument.isStatic then staticAttribute family argument.content
    else dynamicAttribute family (code argument.content)

/-- What is reported of the argument of a directive. -/
def argumentReports (options : Options) (directive : Directive) : List Diagnostic :=
  match directive.argument with
  | none => []
  | some argument =>
    if argument.isStatic then [] else expressionReports options argument.location argument.content

/-- The value of a directive, unless it is blank. -/
def givenValue (directive : Directive) : Option Expression :=
  directive.value.filter fun value => !isBlankValue value

/-- The code of the handler of a directive, given that of expressions. -/
def valueCode (code : String → String) (directive : Directive) : HandlerCode :=
  match givenValue directive with
  | none => .noop
  | some value => handlerCode code (classify value.content)

/-- What is reported of the value of a directive. -/
def valueReports (options : Options) (directive : Directive) : List Diagnostic :=
  match givenValue directive with
  | none =>
    if directive.modifiers.isEmpty then [⟨.missingExpression, directive.location, none⟩] else []
  | some value =>
    (pieces (classify value.content)).flatMap (expressionReports options value.location)

/-- An attribute is compiled to its text with the reports of its argument. -/
theorem compileAttribute_run (directive : Directive) (context : Context) :
    (compileAttribute directive).run context =
      (attributeText (expressionCode context.options) directive,
        context.reporting (argumentReports context.options directive)) := by
  unfold compileAttribute attributeText argumentReports
  cases directive.argument with
  | none => exact congrArg (Prod.mk _) context.reporting_nil.symm
  | some argument =>
      dsimp only
      split
      · exact congrArg (Prod.mk _) context.reporting_nil.symm
      · rw [run_bind, compileExpression_run]
        rfl

/-- What becomes of a directive: the binding, and the diagnostics behind those that are there. -/
theorem compileDirective_reports (directive : Directive) (context : Context) :
    (compileDirective directive).run context =
      (⟨attributeText (expressionCode context.options) directive,
          valueCode (expressionCode context.options) directive, .on, directive.location⟩,
        { context.reporting (argumentReports context.options directive ++
            valueReports context.options directive) with
          helpers := withHelper context.helpers .on }) := by
  -- Whatever the handler is, the helper is noted and the binding is put together.
  have hend : ∀ (name : String) (handler : HandlerCode) (context : Context),
      (do
        useHelper .on
        return (⟨name, handler, .on, directive.location⟩ : Binding)).run context =
      (⟨name, handler, .on, directive.location⟩,
        { context with helpers := withHelper context.helpers .on }) := by
    intro name handler context
    show (_, if context.helpers.contains .on then context
      else { context with helpers := context.helpers ++ [.on] }) = _
    unfold withHelper
    split <;> rfl
  unfold compileDirective valueCode valueReports givenValue
  rw [run_bind, compileAttribute_run]
  cases directive.value.filter fun value => !isBlankValue value with
  | some value =>
      dsimp only
      rw [run_bind, compileHandler_run, hend, Context.reporting_reporting]
      rfl
  | none =>
      dsimp only
      cases directive.modifiers.isEmpty with
      | false =>
          refine (hend _ .noop _).trans ?_
          simp [Context.reporting]
      | true =>
          refine (hend _ .noop _).trans ?_
          rw [← Context.reporting_reporting]
          rfl

/-! ### Kinds of diagnostics -/

section Kinds

variable {options : Options} {location : Location}

/-- At most one diagnostic is reported of an expression. -/
theorem expressionReports_length_le (content : String) :
    (expressionReports options location content).length ≤ 1 := by
  unfold expressionReports
  split
  · exact Nat.le_refl 1
  · exact Nat.zero_le 1

/-- Nothing is reported of an expression that can be read. -/
theorem expressionReports_of_readable {content : String} (h : IsReadable content.toList) :
    expressionReports options location content = [] :=
  if_neg fun hreported => hreported.2 h

/-- Nothing is reported of any expression where names are not qualified. -/
theorem expressionReports_of_plain (hplain : options.qualifies = false) (content : String) :
    expressionReports options location content = [] :=
  if_neg fun hreported => by simp [hplain] at hreported

/-- There the code of an expression is its text. -/
theorem expressionCode_of_plain (hplain : options.qualifies = false) :
    expressionCode options = id :=
  funext fun content => by simp [expressionCode, hplain]

/-- All that is reported of texts is that they cannot be read, at the place of the whole. -/
theorem mem_reports {texts : List String} {report : Diagnostic}
    (h : report ∈ texts.flatMap (expressionReports options location)) :
    report.code = .invalidExpression ∧ report.location = location ∧ options.qualifies := by
  obtain ⟨text, -, htext⟩ := List.mem_flatMap.mp h
  unfold expressionReports at htext
  split at htext
  · rename_i hreported
    rw [List.mem_singleton.mp htext]
    exact ⟨rfl, rfl, hreported.1⟩
  · exact nomatch htext

/-- Texts that are compiled one by one are reported in order, each at most once. -/
theorem reports_sublist (texts : List String) :
    ((texts.flatMap (expressionReports options location)).map Diagnostic.detail).Sublist
      (texts.map some) := by
  induction texts with
  | nil => exact List.Sublist.slnil
  | cons text rest ih =>
      rw [List.flatMap_cons, List.map_append, List.map_cons]
      unfold expressionReports
      split
      · exact ih.cons_cons (some text)
      · exact ih.cons (some text)

end Kinds

/-! ### The parts of a directive -/

section Parts

variable {options : Options} {directive : Directive} {value : Expression}

/-- Of the argument of a directive one diagnostic is reported at most. -/
theorem argumentReports_cases (options : Options) (directive : Directive) :
    argumentReports options directive = [] ∨
      ∃ argument ∈ directive.argument, argument.isStatic = false ∧
        argumentReports options directive =
          [⟨.invalidExpression, argument.location, some argument.content⟩] := by
  unfold argumentReports
  cases directive.argument with
  | none => exact .inl rfl
  | some argument =>
      cases hstatic : argument.isStatic with
      | true => exact .inl (if_pos hstatic)
      | false =>
          dsimp only
          rw [if_neg (Bool.eq_false_iff.mp hstatic)]
          unfold expressionReports
          split
          · exact .inr ⟨argument, rfl, hstatic, rfl⟩
          · exact .inl rfl

/-- Nor is anything reported of an argument there. -/
theorem argumentReports_of_plain (hplain : options.qualifies = false) :
    argumentReports options directive = [] := by
  unfold argumentReports
  split
  · rfl
  · split
    · rfl
    · exact expressionReports_of_plain hplain _

/-- A directive whose value is missing or blank gives no value. -/
theorem givenValue_of_blank (hblank : ∀ value ∈ directive.value, isBlankValue value) :
    givenValue directive = none := by
  unfold givenValue
  rw [Option.filter_eq_none_iff]
  simpa using hblank

/-- A value that is not blank is the one that the directive gives. -/
theorem givenValue_of_given (hvalue : value ∈ directive.value) (hgiven : ¬ isBlankValue value) :
    givenValue directive = some value := by
  rw [givenValue, hvalue, Option.filter_some_pos (by simpa using hgiven)]

/-- Where the value is missing or blank, this is reported unless the directive has modifiers. -/
theorem valueReports_of_blank (hblank : ∀ value ∈ directive.value, isBlankValue value) :
    valueReports options directive =
      if directive.modifiers = [] then [⟨.missingExpression, directive.location, none⟩]
      else [] := by
  unfold valueReports
  rw [givenValue_of_blank hblank]
  simp only [List.isEmpty_iff]

/-- Where a value is given, the reports are those of its pieces, one piece after another. -/
theorem valueReports_of_given (hvalue : value ∈ directive.value) (hgiven : ¬ isBlankValue value) :
    valueReports options directive =
      (pieces (classify value.content)).flatMap (expressionReports options value.location) := by
  unfold valueReports
  rw [givenValue_of_given hvalue hgiven]

/-- An expression that cannot be read is reported only of a value that is given. -/
theorem given_of_invalid {report : Diagnostic} (h : report ∈ valueReports options directive)
    (hinvalid : report.code = .invalidExpression) :
    ∃ value ∈ directive.value, ¬ isBlankValue value ∧
      report.location = value.location ∧ options.qualifies := by
  by_cases hblank : ∀ value ∈ directive.value, isBlankValue value
  · rw [valueReports_of_blank hblank] at h
    split at h
    · rw [List.mem_singleton.mp h] at hinvalid
      exact nomatch hinvalid
    · exact nomatch h
  · obtain ⟨value, hvalue, hgiven⟩ : ∃ value ∈ directive.value, ¬ isBlankValue value := by
      simpa using hblank
    rw [valueReports_of_given hvalue hgiven] at h
    exact ⟨value, hvalue, hgiven, (mem_reports h).2⟩

/-- A missing expression is reported where there is neither a handler nor a modifier. -/
theorem missing_valueReports (options : Options) (directive : Directive) :
    (valueReports options directive).filter (fun report => report.code = .missingExpression) =
      if (∀ value ∈ directive.value, isBlankValue value) ∧ directive.modifiers = [] then
        [⟨.missingExpression, directive.location, none⟩] else [] := by
  by_cases hblank : ∀ value ∈ directive.value, isBlankValue value
  · rw [valueReports_of_blank hblank]
    by_cases hmodifiers : directive.modifiers = []
    · rw [if_pos hmodifiers, if_pos ⟨hblank, hmodifiers⟩]
      rfl
    · rw [if_neg hmodifiers, if_neg fun h => hmodifiers h.2]
      rfl
  · rw [if_neg fun h => hblank h.1, List.filter_eq_nil_iff]
    obtain ⟨value, hvalue, hgiven⟩ : ∃ value ∈ directive.value, ¬ isBlankValue value := by
      simpa using hblank
    rw [valueReports_of_given hvalue hgiven]
    intro report hreport
    simp [(mem_reports hreport).1]

end Parts

/-- What is reported of a handler, by its shape. A reference and a function literal have been read
to be told as such. -/
theorem pieces_reports (options : Options) (location : Location) (content : String) :
    match classify content with
    | .reference _ | .functionLiteral _ =>
      (pieces (classify content)).flatMap (expressionReports options location) = []
    | .inlineStatement _ =>
      ((pieces (classify content)).flatMap (expressionReports options location)).length ≤ 1
    | .statements texts =>
      (((pieces (classify content)).flatMap (expressionReports options location)).map
        Diagnostic.detail).Sublist (texts.map some) := by
  -- What has been read to tell the shape is not reported.
  have hread : ∀ text, IsReadable (trim content.toList) →
      text = String.ofList (trim content.toList) →
      [text].flatMap (expressionReports options location) = [] := by
    rintro text hreadable rfl
    rw [List.flatMap_singleton]
    exact expressionReports_of_readable (by rwa [String.toList_ofList])
  unfold classify
  rcases ofSource_cases (trim content.toList) with
    ⟨hreadable, hshape | hshape⟩ | hshape | ⟨-, texts, hshape⟩
  · rw [hshape]
    exact hread _ hreadable rfl
  · rw [hshape]
    exact hread _ hreadable rfl
  · rw [hshape]
    dsimp only [pieces]
    rw [List.flatMap_singleton]
    exact expressionReports_length_le _
  · rw [hshape]
    exact reports_sublist texts

/-- What a directive adds to the diagnostics, whose old ones stay in front. If it has no handler but
blank space, its binding does nothing, and this is reported once if there is no modifier either. All
other reports are of expressions that cannot be read: first one of the argument at most, if that is
an expression, and then those of the handler: none if it is a reference or a function literal, one
at most if it is one statement, and at most one for each of several statements. Where names are not
qualified no expression is reported, and their texts are taken over as they are. -/
theorem diagnostics_of_binding (directive : Directive) (context : Context) :
    let answer := (compileDirective directive).run context
    ∃ ofArgument ofValue : List Diagnostic,
      answer.2.diagnostics = context.diagnostics ++ (ofArgument ++ ofValue) ∧
      (ofArgument ++ ofValue).filter (fun report => report.code = .missingExpression) =
        (if (∀ value ∈ directive.value, isBlankValue value) ∧ directive.modifiers = [] then
          [⟨.missingExpression, directive.location, none⟩] else []) ∧
      ((∀ value ∈ directive.value, isBlankValue value) → answer.1.handler = .noop) ∧
      ofArgument.length ≤ 1 ∧
      (∀ report ∈ ofArgument, report.code = .invalidExpression ∧
        ∃ argument ∈ directive.argument, argument.isStatic = false ∧
          report.location = argument.location) ∧
      (∀ report ∈ ofValue, report.code = .invalidExpression →
        ∃ value ∈ directive.value, ¬ isBlankValue value ∧ report.location = value.location) ∧
      (∀ value ∈ directive.value, ¬ isBlankValue value →
        match classify value.content with
        | .reference _ | .functionLiteral _ => ofValue = []
        | .inlineStatement _ => ofValue.length ≤ 1
        | .statements texts => (ofValue.map Diagnostic.detail).Sublist (texts.map some)) ∧
      (context.options.qualifies = false →
        (∀ report ∈ ofArgument ++ ofValue, report.code ≠ .invalidExpression) ∧
        answer.1.attributeName = attributeText id directive ∧
        answer.1.handler = valueCode id directive) := by
  intro answer
  have hanswer : answer = _ := compileDirective_reports directive context
  refine ⟨argumentReports context.options directive, valueReports context.options directive,
    by rw [hanswer]; rfl, ?_, ?_, ?_, ?_, ?_, ?_, ?_⟩
  · have hnone : (argumentReports context.options directive).filter
        (fun report => report.code = .missingExpression) = [] := by
      rcases argumentReports_cases context.options directive with hnil | ⟨_, -, -, hone⟩
      · rw [hnil, List.filter_nil]
      · rw [hone]
        rfl
    rw [List.filter_append, hnone, List.nil_append, missing_valueReports]
  · intro hblank
    rw [hanswer]
    dsimp only
    rw [valueCode, givenValue_of_blank hblank]
  · rcases argumentReports_cases context.options directive with hnil | ⟨_, -, -, hone⟩
    · rw [hnil]
      exact Nat.zero_le 1
    · rw [hone]
      exact Nat.le_refl 1
  · intro report hreport
    rcases argumentReports_cases context.options directive with
      hnil | ⟨argument, hargument, hstatic, hone⟩
    · rw [hnil] at hreport
      exact nomatch hreport
    · rw [hone, List.mem_singleton] at hreport
      rw [hreport]
      exact ⟨rfl, argument, hargument, hstatic, rfl⟩
  · intro report hreport hinvalid
    obtain ⟨value, hvalue, hgiven, hlocation, -⟩ := given_of_invalid hreport hinvalid
    exact ⟨value, hvalue, hgiven, hlocation⟩
  · intro value hvalue hgiven
    rw [valueReports_of_given hvalue hgiven]
    exact pieces_reports context.options value.location value.content
  · intro hplain
    rw [hanswer]
    dsimp only
    rw [expressionCode_of_plain hplain, argumentReports_of_plain hplain, List.nil_append]
    refine ⟨fun report hreport hinvalid => ?_, rfl, rfl⟩
    obtain ⟨-, -, -, -, hqualifies⟩ := given_of_invalid hreport hinvalid
    exact absurd hqualifies (by simp [hplain])

end MiniApp.Event
