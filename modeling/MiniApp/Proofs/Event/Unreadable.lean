import MiniApp.Proofs.Event.Marking
import MiniApp.Proofs.Event.Report

/-!
# Handlers that cannot be read

A handler that can be read neither as an expression nor as a module is reported once. One that can
be read should not be reported at all; but a handler of several statements is compiled statement by
statement, each by its own text, and without the semicolon at its end. Where this semicolon was the
body of the statement, as in `while (busy());`, the text that is left cannot be read any more.

* `count_invalid`: as many expressions are reported as there are texts that cannot be read.
* `reported_once_iff`: a handler is reported as it should be if and only if each of its statements
  can still be read by itself.
-/

set_option autoImplicit false

namespace MiniApp.Event

open MiniApp.Text MiniApp.Template MiniApp.Render MiniApp.Handler

/-- Whether the diagnostic says that an expression cannot be read. -/
def isInvalid (report : Diagnostic) : Bool :=
  report.code = .invalidExpression

/-- The diagnostics say that the text cannot be read if and only if this is so, and at most once. -/
def ReportedOnce (text : List Char) (reports : List Diagnostic) : Prop :=
  ((∃ report ∈ reports, isInvalid report) ↔ ¬ IsReadable text) ∧ reports.countP isInvalid ≤ 1

/-- Of texts that are compiled one by one, each is reported that cannot be read. -/
theorem count_invalid {options : Options} (hqualifies : options.qualifies) (location : Location)
    (texts : List String) :
    (texts.flatMap (expressionReports options location)).countP isInvalid =
      texts.countP fun text => ¬ IsReadable text.toList := by
  induction texts with
  | nil => rfl
  | cons text rest ih =>
      rw [List.flatMap_cons, List.countP_append, ih, List.countP_cons, Nat.add_comm]
      congr 1
      unfold expressionReports
      by_cases hreadable : IsReadable text.toList
      · simp [hreadable]
      · simp [hreadable, hqualifies, isInvalid]

/-- Reports are right for a text if and only if as many of them are invalid expressions as there
should be. -/
theorem reportedOnce_iff_count (text : List Char) (reports : List Diagnostic) :
    ReportedOnce text reports ↔
      reports.countP isInvalid = if IsReadable text then 0 else 1 := by
  have hsome : (∃ report ∈ reports, isInvalid report) ↔ 0 < reports.countP isInvalid :=
    List.countP_pos_iff.symm
  unfold ReportedOnce
  rw [hsome]
  split
  · rename_i hreadable
    simp only [hreadable, not_true_eq_false, iff_false]
    omega
  · rename_i hreadable
    simp only [hreadable, not_false_eq_true, iff_true]
    omega

/-- The texts of a handler are counted right if and only if all its statements can be read. -/
theorem count_unreadable_iff (content : String) :
    ((pieces (classify content)).countP fun text => ¬ IsReadable text.toList) =
        (if IsReadable (trim content.toList) then 0 else 1) ↔
      ∀ texts, classify content = .statements texts → ∀ text ∈ texts, IsReadable text.toList := by
  unfold classify
  generalize trim content.toList = source
  -- A handler that is one text is counted by this text alone.
  have hone : ∀ handler, pieces handler = [String.ofList source] →
      ((pieces handler).countP fun text => ¬ IsReadable text.toList) =
        if IsReadable source then 0 else 1 := by
    intro handler hpieces
    by_cases hreadable : IsReadable source
    · simp [hpieces, hreadable]
    · simp [hpieces, hreadable]
  rcases ofSource_cases source with ⟨-, hshape | hshape⟩ | hshape | ⟨hreadable, texts, hshape⟩
  · rw [hshape]
    exact iff_of_true (hone _ rfl) nofun
  · rw [hshape]
    exact iff_of_true (hone _ rfl) nofun
  · rw [hshape]
    exact iff_of_true (hone _ rfl) nofun
  · rw [hshape, if_pos hreadable, pieces, List.countP_eq_zero]
    simp

/-- Take a directive whose argument is no expression and whose handler is not blank, where names are
qualified. The expressions that are reported of it are those of its texts that cannot be read. So
what is reported is right, namely that the handler cannot be read, just in this case and once, if
and only if each statement of a handler with several can be read by itself. -/
theorem reported_once_iff {directive : Directive} {value : Expression} {context : Context}
    (hqualifies : context.options.qualifies)
    (hstatic : ∀ argument ∈ directive.argument, argument.isStatic)
    (hvalue : directive.value = some value) (hgiven : ¬ isBlankValue value) :
    ∃ added, ((compileDirective directive).run context).2.diagnostics =
        context.diagnostics ++ added ∧
      added.countP isInvalid =
        ((pieces (classify value.content)).countP fun text => ¬ IsReadable text.toList) ∧
      (ReportedOnce (trim value.content.toList) added ↔
        ∀ texts, classify value.content = .statements texts →
          ∀ text ∈ texts, IsReadable text.toList) := by
  have hargument : argumentReports context.options directive = [] := by
    rcases argumentReports_cases context.options directive with
      hnil | ⟨argument, hargument, hdynamic, -⟩
    · exact hnil
    · exact absurd (hstatic argument hargument) (by simp [hdynamic])
  have hcount := count_invalid hqualifies value.location (pieces (classify value.content))
  refine ⟨valueReports context.options directive, ?_, ?_, ?_⟩
  · rw [compileDirective_reports, hargument]
    rfl
  · rw [valueReports_of_given hvalue hgiven, hcount]
  · rw [reportedOnce_iff_count, valueReports_of_given hvalue hgiven, hcount, count_unreadable_iff]

/-- Two statements that can be read by themselves are not reported. -/
theorem reported_once_increments :
    ∃ added, ((compileDirective (onClick "i++; j++")).run (.initial {})).2.diagnostics = added ∧
      ReportedOnce "i++; j++".toList added := by
  have hstatic : ∀ argument ∈ (onClick "i++; j++").argument, argument.isStatic := by
    intro argument hargument
    cases hargument
    rfl
  have hshape : classify "i++; j++" = .statements ["i++", "j++"] := by decide +kernel
  obtain ⟨added, hadded, -, honce⟩ := @reported_once_iff (onClick "i++; j++")
    ⟨"i++; j++", false, .stub⟩ (.initial {}) rfl hstatic rfl (by decide +kernel)
  refine ⟨added, hadded, honce.mpr fun texts htexts => ?_⟩
  cases hshape.symm.trans htexts
  decide +kernel

/-- A loop whose body is the empty statement can be read, and is reported. -/
theorem emptyBody_reported :
    ¬ ∀ (directive : Directive) (value : Expression) (context : Context),
      context.options.qualifies → (∀ argument ∈ directive.argument, argument.isStatic) →
        directive.value = some value → ¬ isBlankValue value →
          ∀ added, ((compileDirective directive).run context).2.diagnostics =
            context.diagnostics ++ added → ReportedOnce (trim value.content.toList) added := by
  intro honce
  have hstatic : ∀ argument ∈ (onClick "while ($event);").argument, argument.isStatic := by
    intro argument hargument
    cases hargument
    rfl
  have hreported := honce (onClick "while ($event);") ⟨"while ($event);", false, .stub⟩
    (.initial {}) rfl hstatic rfl (by decide +kernel)
    [⟨.invalidExpression, .stub, some "while ($event)"⟩] (by decide +kernel)
  exact absurd (by decide +kernel : IsReadable (trim "while ($event);".toList))
    (hreported.1.mp ⟨_, List.mem_singleton_self _, rfl⟩)

end MiniApp.Event
