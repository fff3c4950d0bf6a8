import MiniApp.Event.Binding

/-!
# Directives are compiled independently

All directives of an element are compiled in one context, which carries what the directives before
have collected. `compileDirective` reads the options in it and nothing else: whatever has been
collected, it answers with the same binding, appends the same diagnostics, and sees to it that the
helper of the binding is in the list.

* `Independent`: that a step does not depend on what has been collected. Steps of this kind follow
  one another (`Independent.bind`) and are repeated (`Independent.mapM`).
* `compileDirective_run`: a directive among others gives what it gives by itself.
* `mapM_compileDirective_run`: what a list of directives comes to.
-/

set_option autoImplicit false

namespace MiniApp.Event

open MiniApp.Template MiniApp.Render

/-- The helpers with one more, unless it is there. -/
def withHelper (helpers : List Helper) (helper : Helper) : List Helper :=
  if helpers.contains helper then helpers else helpers ++ [helper]

section Steps

variable {α β : Type} {options : Options}

/-- With these options the step gives one answer and adds the same diagnostics and helpers, whatever
has been collected before. -/
def Independent (options : Options) (called : List Helper) (step : Compile α) : Prop :=
  ∃ answer found, ∀ helpers diagnostics, step.run ⟨options, helpers, diagnostics⟩ =
    (answer, ⟨options, called.foldl withHelper helpers, diagnostics ++ found⟩)

/-- An answer that is given at once does not depend on what has been collected. -/
theorem independent_pure (a : α) : Independent options [] (pure a : Compile α) := by
  refine ⟨a, [], fun helpers diagnostics => ?_⟩
  rw [List.append_nil]
  rfl

/-- A report adds its diagnostic, whatever has been collected before. -/
theorem independent_report (diagnostic : Diagnostic) :
    Independent options [] (report diagnostic) :=
  ⟨(), [diagnostic], fun _ _ => rfl⟩

/-- The use of a helper adds this helper, whatever has been collected before. -/
theorem independent_useHelper (helper : Helper) :
    Independent options [helper] (useHelper helper) := by
  refine ⟨(), [], fun helpers diagnostics => ?_⟩
  show ((), if helpers.contains helper then (⟨options, helpers, diagnostics⟩ : Context)
    else ⟨options, helpers ++ [helper], diagnostics⟩) = _
  simp only [List.foldl_cons, List.foldl_nil, withHelper, List.append_nil]
  split <;> rfl

/-- A step that looks at the context sees the options. -/
theorem Independent.get_bind {called : List Helper} {next : Context → Compile α}
    (hnext : ∀ helpers diagnostics, next ⟨options, helpers, diagnostics⟩ = next (.initial options))
    (h : Independent options called (next (.initial options))) :
    Independent options called (get >>= next) := by
  obtain ⟨answer, found, hrun⟩ := h
  refine ⟨answer, found, fun helpers diagnostics => ?_⟩
  show (next ⟨options, helpers, diagnostics⟩).run ⟨options, helpers, diagnostics⟩ = _
  rw [hnext, hrun]

/-- The second of two steps goes on where the first one ended. -/
theorem run_bind (first : Compile α) (next : α → Compile β) (context : Context) :
    (first >>= next).run context = (next (first.run context).1).run (first.run context).2 :=
  rfl

/-- Two steps add what they call for one after the other, if neither of them looks at what has been
collected. -/
theorem Independent.bind {called more : List Helper} {first : Compile α} {next : α → Compile β}
    (hfirst : Independent options called first)
    (hnext : ∀ a, Independent options more (next a)) :
    Independent options (called ++ more) (first >>= next) := by
  obtain ⟨a, found, hrun⟩ := hfirst
  obtain ⟨b, behind, hbehind⟩ := hnext a
  refine ⟨b, found ++ behind, fun helpers diagnostics => ?_⟩
  rw [run_bind, hrun, hbehind, List.foldl_append, List.append_assoc]

/-- A step is repeated for every item of a list. The induction is on the list, since its items are
taken from the front. -/
theorem Independent.mapM {step : α → Compile β} (hstep : ∀ a, Independent options [] (step a))
    (items : List α) : Independent options [] (items.mapM step) := by
  induction items with
  | nil => exact independent_pure []
  | cons item rest ih =>
      rw [List.mapM_cons]
      exact (hstep item).bind fun b => ih.bind fun bs => independent_pure (b :: bs)

end Steps

/-! ### The parts of a directive -/

/-- What an expression is compiled to depends on the options only, and it calls for no helper. -/
theorem independent_compileExpression (options : Options) (content : String)
    (location : Location) : Independent options [] (compileExpression content location) := by
  unfold compileExpression
  apply Independent.get_bind
  · intro helpers diagnostics
    rfl
  · show Independent options [] (if !options.qualifies then _ else _)
    split
    · exact independent_pure content
    · split
      · exact independent_pure _
      · exact (independent_report _).bind fun _ => independent_pure content

/-- So does the attribute of a directive. -/
theorem independent_compileAttribute (options : Options) (directive : Directive) :
    Independent options [] (compileAttribute directive) := by
  unfold compileAttribute
  dsimp only
  split
  · exact independent_pure _
  · split
    · exact independent_pure _
    · exact (independent_compileExpression options _ _).bind fun _ => independent_pure _

/-- So does the code of a handler. -/
theorem independent_compileHandler (options : Options) (value : Expression) :
    Independent options [] (compileHandler value) := by
  unfold compileHandler
  split
  · exact (independent_compileExpression options _ _).bind fun _ => independent_pure _
  · exact (independent_compileExpression options _ _).bind fun _ => independent_pure _
  · exact (independent_compileExpression options _ _).bind fun _ => independent_pure _
  · -- The statements are compiled one by one.
    refine Independent.bind (Independent.mapM (fun text => ?_) _) fun _ => independent_pure _
    exact independent_compileExpression options text _

/-- A directive calls for the helper of the bindings, and for no other. -/
theorem independent_compileDirective (options : Options) (directive : Directive) :
    Independent options [.on] (compileDirective directive) := by
  -- Whatever becomes of the handler, the directive ends in its helper and its binding.
  have hend : ∀ name handler, Independent options [.on] (do
      useHelper .on
      return (⟨name, handler, .on, directive.location⟩ : Binding)) :=
    fun name handler => (independent_useHelper .on).bind fun _ => independent_pure _
  unfold compileDirective
  refine (independent_compileAttribute options directive).bind fun name => ?_
  split
  · exact (independent_compileHandler options _).bind fun handler => hend name handler
  · split
    · exact (independent_report _).bind fun _ => hend name .noop
    · exact hend name .noop

/-! ### Directives among others -/

/-- A directive among others gives the binding and the diagnostics that it gives by itself. -/
theorem compileDirective_run (options : Options) (directive : Directive) (helpers : List Helper)
    (diagnostics : List Diagnostic) :
    (compileDirective directive).run ⟨options, helpers, diagnostics⟩ =
      ((compileAlone options directive).1, ⟨options, withHelper helpers .on,
        diagnostics ++ (compileAlone options directive).2⟩) := by
  obtain ⟨binding, found, hrun⟩ := independent_compileDirective options directive
  have halone : compileAlone options directive = (binding, found) := by
    show (((compileDirective directive).run ⟨options, [], []⟩).1,
      ((compileDirective directive).run ⟨options, [], []⟩).2.diagnostics) = _
    rw [hrun, List.nil_append]
  rw [hrun, halone]
  rfl

/-- A list of directives gives what each of them gives by itself, in order. -/
theorem mapM_compileDirective_run (options : Options) (directives : List Directive)
    (helpers : List Helper) (diagnostics : List Diagnostic) :
    (directives.mapM compileDirective).run ⟨options, helpers, diagnostics⟩ =
      (directives.map fun directive => (compileAlone options directive).1,
        ⟨options, directives.foldl (fun known _ => withHelper known .on) helpers,
          diagnostics ++ directives.flatMap fun directive =>
            (compileAlone options directive).2⟩) := by
  induction directives generalizing helpers diagnostics with
  | nil =>
      rw [List.flatMap_nil, List.append_nil]
      rfl
  | cons directive rest ih =>
      rw [List.mapM_cons, run_bind, compileDirective_run, run_bind, ih]
      rw [List.flatMap_cons, ← List.append_assoc]
      rfl

end MiniApp.Event
