import MiniApp.Event.Binding
import MiniApp.Proofs.Handler.Collapsing
import MiniApp.Proofs.Handler.EventFunction
import MiniApp.Proofs.Handler.Padding
import MiniApp.Proofs.Handler.QualifiedShape
import MiniApp.Proofs.Handler.Statements

/-!
# Handlers are what they are marked as

The code of a handler is marked as a reference or as one of several kinds of functions, and the
binding calls its helper with this code as its argument. So the code has to be one expression of
the marked shape.

* `compileDirective_silent`: which code a directive is compiled to, if no diagnostic is added.
* `asMarked_iff`: the code has its shape if and only if what the handler says has it where it ends
  up: a reference and a function when their names are qualified, statements behind the arrow of a
  function of the event.
* `keepsShape_reference`, `keepsShape_functionLiteral`: a reference does if the text is read as it
  should with its names qualified; a function, if it is also read as the same tree on one line.
-/

set_option autoImplicit false

namespace MiniApp.Event

open MiniApp.Text MiniApp.Template MiniApp.Handler
open MiniApp.Script (wholeExpression?)

/-! ### Steps without a diagnostic -/

section Steps

variable {α β : Type}

/-- The step keeps the options, and the diagnostics that are there. -/
structure Adds (step : Compile α) : Prop where
  options : ∀ context, (step.run context).2.options = context.options
  diagnostics : ∀ context, context.diagnostics <+: (step.run context).2.diagnostics

/-- A step that only answers adds nothing. -/
theorem adds_pure (a : α) : Adds (pure a : Compile α) :=
  ⟨fun _ => rfl, fun _ => List.prefix_rfl⟩

/-- Two steps that only add diagnostics do so one after the other. -/
theorem Adds.bind {first : Compile α} {next : α → Compile β} (hfirst : Adds first)
    (hnext : ∀ a, Adds (next a)) : Adds (first >>= next) := by
  constructor
  · intro context
    show ((next (first.run context).1).run (first.run context).2).2.options = _
    rw [(hnext _).options, hfirst.options]
  · intro context
    exact (hfirst.diagnostics context).trans ((hnext _).diagnostics _)

/-- A step that looks at the context adds nothing. -/
theorem adds_get : Adds (get : Compile Context) :=
  ⟨fun _ => rfl, fun _ => List.prefix_rfl⟩

/-- A report puts one diagnostic behind the others. -/
theorem adds_report (diagnostic : Diagnostic) : Adds (report diagnostic) :=
  ⟨fun _ => rfl, fun _ => List.prefix_append _ _⟩

/-- The use of a helper adds no diagnostic. -/
theorem adds_useHelper (helper : Render.Helper) : Adds (useHelper helper) := by
  constructor
  · intro context
    show (if context.helpers.contains helper then context
      else { context with helpers := context.helpers ++ [helper] }).options = _
    split <;> rfl
  · intro context
    show _ <+: (if context.helpers.contains helper then context
      else { context with helpers := context.helpers ++ [helper] }).diagnostics
    split <;> exact List.prefix_rfl

/-- Steps for one item after another only add diagnostics if each of them does. -/
theorem Adds.mapM {step : α → Compile β} (hstep : ∀ a, Adds (step a)) (items : List α) :
    Adds (items.mapM step) := by
  induction items with
  | nil => exact adds_pure []
  | cons item rest ih =>
      rw [List.mapM_cons]
      exact (hstep item).bind fun b => ih.bind fun bs => adds_pure (b :: bs)

/-- The step takes the context to an answer and another context without a diagnostic. -/
structure Silently (step : Compile α) (context : Context) (a : α) (after : Context) : Prop where
  run : step.run context = (a, after)
  diagnostics : after.diagnostics = context.diagnostics

/-- If two steps add no diagnostic, neither of them does. -/
theorem Silently.of_bind {first : Compile α} {next : α → Compile β}
    {context after : Context} {b : β}
    (h : Silently (first >>= next) context b after) (hfirst : Adds first)
    (hnext : ∀ a, Adds (next a)) :
    ∃ a mid, Silently first context a mid ∧ mid.options = context.options ∧
      Silently (next a) mid b after := by
  generalize hmid : first.run context = answer
  obtain ⟨a, mid⟩ := answer
  have hrun : (next a).run mid = (b, after) := by
    have hbind : (first >>= next).run context =
        (next (first.run context).1).run (first.run context).2 := rfl
    rw [h.run, hmid] at hbind
    exact hbind.symm
  have hbefore : context.diagnostics <+: mid.diagnostics := by
    have hadded := hfirst.diagnostics context
    rwa [hmid] at hadded
  have hbehind : mid.diagnostics <+: context.diagnostics := by
    have hadded := (hnext a).diagnostics mid
    rwa [hrun, h.diagnostics] at hadded
  -- Each step adds its diagnostics behind those before, and in all nothing has been added.
  have hsame : mid.diagnostics = context.diagnostics :=
    (hbefore.eq_of_length (Nat.le_antisymm hbefore.length_le hbehind.length_le)).symm
  refine ⟨a, mid, ⟨hmid, hsame⟩, ?_, hrun, h.diagnostics.trans hsame.symm⟩
  have hoptions := hfirst.options context
  rwa [hmid] at hoptions

end Steps

/-! ### Compiling expressions -/

/-- The compilation of an expression only adds diagnostics. -/
theorem adds_compileExpression (content : String) (location : Location) :
    Adds (compileExpression content location) := by
  unfold compileExpression
  apply adds_get.bind
  intro context
  split
  · exact adds_pure content
  · split
    · exact adds_pure _
    · exact (adds_report _).bind fun _ => adds_pure content

/-- Where names are qualified, an expression that can be read is compiled without a diagnostic. -/
theorem Silently.qualify {content code : String} {location : Location} {context after : Context}
    (h : Silently (compileExpression content location) context code after)
    (hqualifies : context.options.qualifies) : Handler.qualify content = some code := by
  obtain ⟨hrun, hsame⟩ := h
  have hcompile : (compileExpression content location).run context =
      (Handler.qualify content).elim
        (content, { context with
          diagnostics := context.diagnostics ++ [⟨.invalidExpression, location, some content⟩] })
        (fun code => (code, context)) := by
    show (if !context.options.qualifies then _ else _ : Compile String).run context = _
    rw [hqualifies]
    cases Handler.qualify content <;> rfl
  rw [hcompile] at hrun
  cases hcode : Handler.qualify content with
  | some other =>
      rw [hcode] at hrun
      cases hrun
      rfl
  | none =>
      rw [hcode] at hrun
      cases hrun
      -- Otherwise there would be one diagnostic more than before.
      have hlength := congrArg List.length hsame
      rw [List.length_append, List.length_singleton] at hlength
      omega

/-- So are statements. -/
theorem Silently.qualifyAll {texts codes : List String} {location : Location}
    {context after : Context}
    (h : Silently (texts.mapM fun text => compileExpression text location) context codes after)
    (hqualifies : context.options.qualifies) :
    texts.map Handler.qualify = codes.map some := by
  induction texts generalizing context codes with
  | nil =>
      have hcodes : ([], context) = (codes, after) := h.run
      cases hcodes
      rfl
  | cons text rest ih =>
      rw [List.mapM_cons] at h
      obtain ⟨code, mid, hfirst, hoptions, hmore⟩ :=
        h.of_bind (adds_compileExpression text location)
        fun code => (Adds.mapM (fun text => adds_compileExpression text location) rest).bind
          fun more => adds_pure (code :: more)
      obtain ⟨more, last, hrest, -, hanswer⟩ := hmore.of_bind
        (Adds.mapM (fun text => adds_compileExpression text location) rest)
          fun more => adds_pure (code :: more)
      have hcodes : (code :: more, last) = (codes, after) := hanswer.run
      cases hcodes
      rw [List.map_cons, List.map_cons, hfirst.qualify hqualifies,
        ih hrest (hoptions ▸ hqualifies)]

/-! ### Compiling handlers -/

/-- So does the compilation of a handler, whatever its shape. -/
theorem adds_compileHandler (value : Expression) : Adds (compileHandler value) := by
  unfold compileHandler
  split
  · exact (adds_compileExpression _ _).bind fun _ => adds_pure _
  · exact (adds_compileExpression _ _).bind fun _ => adds_pure _
  · exact (adds_compileExpression _ _).bind fun _ => adds_pure _
  · exact (Adds.mapM (fun text => adds_compileExpression text _) _).bind fun _ => adds_pure _

/-- The code that a handler is compiled to when its names are qualified. -/
inductive CompilesTo (content : String) : HandlerCode → Prop
  | reference {text code : String} (hshape : classify content = .reference text)
      (hcode : Handler.qualify text = some code) : CompilesTo content (.reference code)
  | functionLiteral {text code : String} (hshape : classify content = .functionLiteral text)
      (hcode : Handler.qualify text = some code) :
      CompilesTo content (.functionLiteral (collapse code))
  | inlineStatement {text code : String} (hshape : classify content = .inlineStatement text)
      (hcode : Handler.qualify text = some code) :
        CompilesTo content (.arrow (arrowOfStatement code))
  | statements {texts codes : List String} (hshape : classify content = .statements texts)
      (hcodes : texts.map Handler.qualify = codes.map some) :
      CompilesTo content (.arrow (arrowOfStatements codes))

/-- A handler that is compiled without a diagnostic is compiled to the code of its shape, with its
names qualified. -/
theorem Silently.compilesTo {value : Expression} {handler : HandlerCode} {context after : Context}
    (h : Silently (compileHandler value) context handler after)
    (hqualifies : context.options.qualifies) : CompilesTo value.content handler := by
  unfold compileHandler at h
  -- Every shape is compiled in two steps: its expressions, and then what is made of their codes,
  -- which reports nothing.
  split at h
  · rename_i text hshape
    obtain ⟨code, mid, hcode, -, hhandler⟩ :=
      h.of_bind (adds_compileExpression _ _) fun _ => adds_pure _
    have hanswer : (HandlerCode.reference code, mid) = (handler, after) := hhandler.run
    cases hanswer
    exact .reference hshape (hcode.qualify hqualifies)
  · rename_i text hshape
    obtain ⟨code, mid, hcode, -, hhandler⟩ :=
      h.of_bind (adds_compileExpression _ _) fun _ => adds_pure _
    have hanswer : (HandlerCode.functionLiteral (collapse code), mid) =
      (handler, after) := hhandler.run
    cases hanswer
    exact .functionLiteral hshape (hcode.qualify hqualifies)
  · rename_i text hshape
    obtain ⟨code, mid, hcode, -, hhandler⟩ :=
      h.of_bind (adds_compileExpression _ _) fun _ => adds_pure _
    have hanswer : (HandlerCode.arrow (arrowOfStatement code), mid) =
      (handler, after) := hhandler.run
    cases hanswer
    exact .inlineStatement hshape (hcode.qualify hqualifies)
  · rename_i texts hshape
    obtain ⟨codes, mid, hcodes, -, hhandler⟩ := h.of_bind
      (Adds.mapM (fun text => adds_compileExpression text _) texts) fun _ => adds_pure _
    have hanswer : (HandlerCode.arrow (arrowOfStatements codes), mid) =
      (handler, after) := hhandler.run
    cases hanswer
    exact .statements hshape (hcodes.qualifyAll hqualifies)

/-! ### Compiling directives -/

/-- The compilation of an attribute only adds diagnostics. -/
theorem adds_compileAttribute (directive : Directive) : Adds (compileAttribute directive) := by
  unfold compileAttribute
  dsimp only
  split
  · exact adds_pure _
  · split
    · exact adds_pure _
    · exact (adds_compileExpression _ _).bind fun _ => adds_pure _

/-- A directive that is compiled without a diagnostic gets the code of its handler, or none if there
is nothing but blank space. -/
theorem compileDirective_silent {directive : Directive} {binding : Binding}
    {context after : Context}
    (h : Silently (compileDirective directive) context binding after)
    (hqualifies : context.options.qualifies) :
    match directive.value.filter fun value => !isBlankValue value with
    | some value => CompilesTo value.content binding.handler
    | none => binding.handler = .noop := by
  -- What comes behind the handler reports nothing.
  have hend : ∀ (name : String) (handler : HandlerCode), Adds (do
      useHelper .on
      return ⟨name, handler, .on, directive.location⟩ : Compile Binding) :=
    fun name handler => (adds_useHelper _).bind fun _ => adds_pure _
  unfold compileDirective at h
  cases hvalue : directive.value.filter fun value => !isBlankValue value with
  | some value =>
      rw [hvalue] at h
      obtain ⟨name, named, -, hoptions, hrest⟩ := h.of_bind (adds_compileAttribute directive)
        fun name => (adds_compileHandler value).bind (hend name)
      obtain ⟨handler, handled, hhandler, -, hbinding⟩ :=
        hrest.of_bind (adds_compileHandler value) (hend name)
      have hanswer := congrArg Prod.fst hbinding.run
      cases hanswer
      exact hhandler.compilesTo (hoptions ▸ hqualifies)
  | none =>
      rw [hvalue] at h
      obtain ⟨name, named, -, -, hrest⟩ :=
        h.of_bind (adds_compileAttribute directive) fun name => by
        dsimp only
        split
        · exact (adds_report _).bind fun _ => (adds_pure _).bind (hend name)
        · exact (adds_pure _).bind (hend name)
      have hanswer := congrArg Prod.fst hrest.run
      -- Whether the missing handler is reported depends on the modifiers; the binding does not.
      cases hempty : directive.modifiers.isEmpty with
      | false =>
          rw [hempty] at hanswer
          have hbinding : ⟨name, .noop, .on, directive.location⟩ = binding := hanswer
          exact hbinding ▸ rfl
      | true =>
          rw [hempty] at hanswer
          have hbinding : ⟨name, .noop, .on, directive.location⟩ = binding := hanswer
          exact hbinding ▸ rfl

/-! ### Behind the arrow -/

/-- What is put behind the arrow for a single statement. -/
def statementBody (code : String) : List Char :=
  if code.toList.head? = some '{' then '(' :: code.toList ++ [')'] else code.toList

/-- What is put behind the arrow for several statements. -/
def statementsBody (codes : List String) : List Char :=
  '{' :: (codes.flatMap fun code => ' ' :: code.toList ++ [';']) ++ [' ', '}']

/-- The function made of a statement is the head with the event, and the body behind it. -/
theorem toList_arrowOfStatement (code : String) :
    (arrowOfStatement code).toList = eventHead ++ statementBody code := by
  have hhead : (eventName ++ " => ").toList = eventHead := by decide
  unfold arrowOfStatement statementBody
  dsimp only
  split
  · rw [String.toList_append, String.toList_append, String.toList_append, hhead,
      List.append_assoc, List.append_assoc]
    rfl
  · rw [String.toList_append, hhead]

/-- So is the function made of several statements. -/
theorem toList_arrowOfStatements (codes : List String) :
    (arrowOfStatements codes).toList = eventHead ++ statementsBody codes := by
  have hjoin : (String.join (codes.map fun code => " " ++ code ++ ";")).toList =
      codes.flatMap fun code => ' ' :: code.toList ++ [';'] := by
    induction codes with
    | nil => rfl
    | cons code rest ih =>
        rw [List.map_cons, String.join_cons, String.toList_append, ih, List.flatMap_cons,
          String.toList_append, String.toList_append]
        rfl
  have hhead : (eventName ++ " => \x7b").toList = eventHead ++ ['{'] := by decide
  rw [arrowOfStatements, String.toList_append, String.toList_append, hhead, hjoin, statementsBody]
  simp only [List.append_assoc, List.cons_append, List.nil_append]
  rfl

/-- The body for a statement is not empty if the statement is not. -/
theorem statementBody_ne_nil {code : String} (h : code.toList ≠ []) : statementBody code ≠ [] := by
  unfold statementBody
  split
  · exact List.cons_ne_nil _ _
  · exact h

/-- The body for a statement has no blank space around it. -/
theorem isTrimmed_statementBody {code : String} (htrimmed : IsTrimmed code.toList) :
    IsTrimmed (statementBody code) := by
  unfold statementBody
  split
  · constructor
    · intro c hc
      have hfirst : some '(' = some c := hc
      cases hfirst
      decide
    · intro c hc
      rw [List.getLast?_concat] at hc
      cases hc
      decide
  · exact htrimmed

/-- Nor has the body for several statements, which stands in braces. -/
theorem isTrimmed_statementsBody (codes : List String) : IsTrimmed (statementsBody codes) := by
  constructor
  · intro c hc
    have hfirst : some '{' = some c := hc
    cases hfirst
    decide
  · intro c hc
    have hlast : (statementsBody codes).getLast? = some '}' := by
      rw [statementsBody, List.getLast?_append_of_ne_nil _ (List.cons_ne_nil _ _)]
      rfl
    rw [hlast] at hc
    cases hc
    decide

/-! ### Texts of handlers -/

/-- The text that a handler is compiled from as a whole. Statements are compiled one by one. -/
def wholeText? : Handler → Option String
  | .reference text | .functionLiteral text | .inlineStatement text => some text
  | .statements _ => none

/-- A handler that is compiled as a whole is taken over without the blank space around it. -/
theorem eq_trim_of_classify {content text : String}
    (h : wholeText? (classify content) = some text) :
    text = String.ofList (trim content.toList) := by
  unfold classify ofSource at h
  split at h
  · dsimp only at h
    split at h
    · exact (Option.some.inj h).symm
    · split at h <;> exact (Option.some.inj h).symm
  · split at h
    · exact (Option.some.inj h).symm
    · exact (Option.some.inj h).symm
    · cases h

/-- The code of what is compiled as a whole has no blank space around it, and it is not empty if the
handler is not blank. -/
theorem isTrimmed_qualify {content text code : String}
    (h : wholeText? (classify content) = some text) (hcode : Handler.qualify text = some code) :
    IsTrimmed code.toList ∧ (trim content.toList ≠ [] → code.toList ≠ []) := by
  rw [qualify_eq_spliced, eq_trim_of_classify h, String.toList_ofList] at hcode
  obtain ⟨uses, huses, rfl⟩ := Option.map_eq_some_iff.mp hcode
  rw [String.toList_ofList]
  have hedges := sameEdges_qualified huses
  exact ⟨hedges.symm.isTrimmed (isTrimmed_trim _), fun hne hnil => hne (hedges.nil_iff.mp hnil)⟩

/-! ### Marks -/

/-- The code has the shape that it is marked as. -/
structure HandlerCode.IsAsMarked (handler : HandlerCode) : Prop where
  reference : ∀ code, handler = .reference code → ∃ text, classify code = .reference text
  function : (∀ code, handler ≠ .reference code) →
    ∃ text, classify handler.text = .functionLiteral text

/-- Code that is marked as a reference has to be classified as one. -/
theorem isAsMarked_reference_iff (code : String) :
    HandlerCode.IsAsMarked (.reference code) ↔ ∃ text, classify code = .reference text := by
  constructor
  · exact fun hmark => hmark.reference code rfl
  · intro hreference
    exact ⟨fun _ hcode => HandlerCode.reference.inj hcode ▸ hreference,
      fun hnone => absurd rfl (hnone code)⟩

/-- Code with any other mark has to be classified as a function. -/
theorem isAsMarked_function_iff {handler : HandlerCode} (h : ∀ code, handler ≠ .reference code) :
    handler.IsAsMarked ↔ ∃ text, classify handler.text = .functionLiteral text := by
  constructor
  · exact fun hmark => hmark.function h
  · exact fun hfunction => ⟨fun code hcode => absurd hcode (h code), fun _ => hfunction⟩

/-- What a handler says still has its shape where it ends up: a reference and a function when their
names are qualified, and statements behind the arrow of a function of the event. -/
def KeepsShape : Handler → Prop
  | .reference text =>
    ∃ code, Handler.qualify text = some code ∧ IsExpression isReference (trim code.toList)
  | .functionLiteral text =>
    ∃ code, Handler.qualify text = some code ∧
      IsExpression isFunction (trim (collapse code).toList)
  | .inlineStatement text =>
    ∃ code, Handler.qualify text = some code ∧ (arrowBody? (statementBody code)).isSome
  | .statements texts =>
    ∃ codes, texts.map Handler.qualify = codes.map some ∧ (arrowBody? (statementsBody codes)).isSome

/-- A text that is an expression can be qualified. -/
theorem exists_qualify {text : String} {expression : Script.Node}
    (h : wholeExpression? text.toList = some expression) :
    ∃ code, Handler.qualify text = some code := by
  simp [Handler.qualify, changes?, h]

/-- A reference keeps its shape if it is read as it should with its names qualified. -/
theorem keepsShape_reference {content text : String} (hshape : classify content = .reference text)
    (hreads : ∀ expression, wholeExpression? text.toList = some expression →
      ReadsQualified text expression) : KeepsShape (.reference text) := by
  have htext : wholeText? (classify content) = some text := hshape ▸ rfl
  obtain ⟨expression, hexpression, hreference⟩ := ofSource_reference_iff.mp ⟨text, hshape⟩
  rw [← String.toList_ofList (l := trim _), ← eq_trim_of_classify htext] at hexpression
  obtain ⟨code, hcode⟩ := exists_qualify hexpression
  obtain ⟨reread, hreread, hkept⟩ :=
    (hreads expression hexpression).isReference hcode hreference
  refine ⟨code, hcode, reread, ?_, hkept⟩
  rw [(isTrimmed_qualify htext hcode).1.trim_eq]
  exact hreread

/-- A function keeps its shape if it is read as it should with its names qualified, and as the same
tree when it has been put on one line. -/
theorem keepsShape_functionLiteral {content text : String}
    (hshape : classify content = .functionLiteral text)
    (hreads : ∀ expression, wholeExpression? text.toList = some expression →
      ReadsQualified text expression)
    (hkeeps : ∀ code, Handler.qualify text = some code → KeepsTree code) :
    KeepsShape (.functionLiteral text) := by
  have htext : wholeText? (classify content) = some text := hshape ▸ rfl
  obtain ⟨expression, hexpression, hfunction⟩ := ofSource_function_iff.mp ⟨text, hshape⟩
  rw [← String.toList_ofList (l := trim _), ← eq_trim_of_classify htext] at hexpression
  obtain ⟨code, hcode⟩ := exists_qualify hexpression
  obtain ⟨reread, hreread, hkept⟩ := (hreads expression hexpression).isFunction hcode hfunction
  obtain ⟨tree, htree, hsame⟩ := (hkeeps code hcode).isFunction hreread hkept
  refine ⟨code, hcode, tree, ?_, hsame⟩
  rw [wholeExpression?_trim (trimEnd_collapse code)]
  exact htree

/-- The code of a handler has the shape that it is marked as if and only if the handler keeps its
shape. -/
theorem CompilesTo.isAsMarked_iff {content : String} {handler : HandlerCode}
    (h : CompilesTo content handler) (hblank : trim content.toList ≠ []) :
    handler.IsAsMarked ↔ KeepsShape (classify content) := by
  -- `hmark` puts the mark in terms of the text, which is how `KeepsShape` has it
  cases h with
  | @reference text code hshape hcode =>
      have hmark : HandlerCode.IsAsMarked (.reference code) ↔
          IsExpression isReference (trim code.toList) := by
        rw [isAsMarked_reference_iff, ← ofSource_reference_iff]
        rfl
      rw [hshape, hmark]
      simp [KeepsShape, hcode]
  | @functionLiteral text code hshape hcode =>
      have hmark : HandlerCode.IsAsMarked (.functionLiteral (collapse code)) ↔
          IsExpression isFunction (trim (collapse code).toList) := by
        rw [@isAsMarked_function_iff (.functionLiteral (collapse code)) fun _ => nofun,
          ← ofSource_function_iff]
        rfl
      rw [hshape, hmark]
      simp [KeepsShape, hcode]
  | @inlineStatement text code hshape hcode =>
      have htext : wholeText? (classify content) = some text := hshape ▸ rfl
      obtain ⟨htrimmed, hne⟩ := isTrimmed_qualify htext hcode
      have hmark : HandlerCode.IsAsMarked (.arrow (arrowOfStatement code)) ↔
          (arrowBody? (statementBody code)).isSome := by
        rw [@isAsMarked_function_iff (.arrow (arrowOfStatement code)) fun _ => nofun,
          ← isExpression_event_iff (isTrimmed_statementBody htrimmed)
            (statementBody_ne_nil (hne hblank)),
          ← toList_arrowOfStatement]
        rfl
      rw [hshape, hmark]
      simp [KeepsShape, hcode]
  | @statements texts codes hshape hcodes =>
      have hmark : HandlerCode.IsAsMarked (.arrow (arrowOfStatements codes)) ↔
          (arrowBody? (statementsBody codes)).isSome := by
        rw [@isAsMarked_function_iff (.arrow (arrowOfStatements codes)) fun _ => nofun,
          ← isExpression_event_iff (isTrimmed_statementsBody codes) (List.cons_ne_nil _ _),
          ← toList_arrowOfStatements]
        rfl
      have hsome : Function.Injective (List.map (some : String → Option String)) :=
        List.map_injective_iff.mpr fun _ _ h => Option.some.inj h
      rw [hshape, hmark]
      simp [KeepsShape, hcodes, hsome.eq_iff]

/-- The code of a directive that is compiled without a diagnostic has the shape that it is marked as
if and only if its handler, should it have one, keeps its shape. -/
theorem asMarked_iff {directive : Directive} {context : Context}
    (hqualifies : context.options.qualifies)
    (hsilent : ((compileDirective directive).run context).2.diagnostics = context.diagnostics) :
    ((compileDirective directive).run context).1.handler.IsAsMarked ↔
      ∀ value ∈ directive.value, ¬ isBlankValue value → KeepsShape (classify value.content) := by
  generalize hcompile : (compileDirective directive).run context = answer at hsilent ⊢
  obtain ⟨binding, after⟩ := answer
  have hcode := compileDirective_silent ⟨hcompile, hsilent⟩ hqualifies
  have hnoop : HandlerCode.IsAsMarked .noop :=
    (@isAsMarked_function_iff .noop fun _ => nofun).mpr ⟨"() => \x7b\x7d", by decide +kernel⟩
  cases hvalue : directive.value with
  | none =>
      rw [hvalue] at hcode
      have hhandler : binding.handler = .noop := hcode
      rw [hhandler]
      simp [hnoop]
  | some value =>
      rw [hvalue] at hcode
      by_cases hblank : isBlankValue value
      · rw [Option.filter_some_neg (by simpa using hblank)] at hcode
        have hhandler : binding.handler = .noop := hcode
        rw [hhandler]
        simp [hnoop, hblank]
      · rw [Option.filter_some_pos (by simpa using hblank)] at hcode
        have hne : trim value.content.toList ≠ [] := by
          simpa [isBlankValue] using hblank
        rw [CompilesTo.isAsMarked_iff hcode hne]
        simp [hblank]

/-- A directive that binds the handler to the event `click`. -/
def onClick (handler : String) : Directive :=
  { Directive.on "click" .stub with value := some ⟨handler, false, .stub⟩ }

/-- A statement becomes a function of the event. -/
theorem asMarked_increment :
    ((compileDirective (onClick "i++")).run (.initial {})).1.handler.IsAsMarked := by
  have hshape : classify "i++" = .inlineStatement "i++" := by decide +kernel
  have hcode : Handler.qualify "i++" = some "_ctx.i++" := by decide +kernel
  have hbody : (arrowBody? (statementBody "_ctx.i++")).isSome := by decide +kernel
  have hvalues : ∀ value ∈ (onClick "i++").value, ¬ isBlankValue value →
      KeepsShape (classify value.content) := by
    intro value hvalue _
    cases hvalue
    rw [hshape]
    exact ⟨"_ctx.i++", hcode, hbody⟩
  exact (@asMarked_iff (onClick "i++") (.initial {}) rfl (by decide +kernel)).mpr hvalues

/-- Expressions behind each other become a function and another argument behind it. -/
theorem sequence_notAsMarked :
    ¬ ∀ (directive : Directive) (context : Context), context.options.qualifies →
      ((compileDirective directive).run context).2.diagnostics = context.diagnostics →
        ((compileDirective directive).run context).1.handler.IsAsMarked := by
  intro hmarked
  have hmark := hmarked (onClick "a, b") (.initial {}) rfl (by decide +kernel)
  have hcompile : ((compileDirective (onClick "a, b")).run (.initial {})).1.handler =
      .arrow "$event => _ctx.a, _ctx.b" := by
    decide +kernel
  rw [hcompile] at hmark
  obtain ⟨text, htext⟩ := hmark.function fun _ => nofun
  have hshape : classify "$event => _ctx.a, _ctx.b" =
      .inlineStatement "$event => _ctx.a, _ctx.b" := by
    decide +kernel
  have hsame : classify "$event => _ctx.a, _ctx.b" = .functionLiteral text := htext
  rw [hshape] at hsame
  exact nomatch hsame

end MiniApp.Event
