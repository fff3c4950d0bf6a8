import MiniApp.Proofs.Event.Independence
import MiniApp.Proofs.Render.Name
import MiniApp.Render.Element
import Mathlib.Data.List.Nodup

/-!
# An element is what its directives are

The tag and the render function of an element are written by two loops over the bindings, and the
bindings come from a third one with a context that all directives share. Still each directive
counts by itself: its attribute refers to a name that the object of the render function has once,
with the value of that directive.

* `mentions` and `definitions` are what the tag refers to and what the object has, in order.
* `functionText_eq` writes the render function out, line by line.
* `compileElement_eq`: the compiled element in terms of `compileAlone`, for every tag, every list of
  directives and all options.
-/

set_option autoImplicit false

namespace MiniApp.Render

open MiniApp.Event MiniApp.Template

/-! ### What the element says -/

/-- The attributes of the tag: for each binding the name of its attribute and the short name that
the attribute refers to. -/
def mentions (bindings : List Binding) : List (String × String) :=
  bindings.zipIdx.map fun (binding, index) => (binding.attributeName, shortName index)

/-- The entries of the object: for each binding its short name and its value. -/
def definitions (bindings : List Binding) : List (String × String) :=
  bindings.zipIdx.map fun (binding, index) => (shortName index, binding.value)

/-- A tag with attributes that refer to names. -/
def writtenTag (tag : String) (attributes : List (String × String)) : String :=
  "<" ++ tag ++
    String.join (attributes.map fun mention =>
      " " ++ mention.1 ++ "=\"\x7b\x7b" ++ mention.2 ++ "\x7d\x7d\"") ++
    "/>"

/-- An object with entries. -/
def writtenObject (entries : List (String × String)) : String :=
  if entries = [] then "\x7b\x7d"
  else "\x7b " ++ joined ", " (entries.map fun entry => entry.1 ++ ": " ++ entry.2) ++ " \x7d"

/-- The lines of the render function that returns an object. If the helper of the bindings is used,
a function takes it out of the global on a line of its own. -/
def renderLines (options : Options) (isUsed : Bool) (object : String) : List String :=
  match options.mode, options.qualifies with
  | .module, _ => ["(_ctx, _cache) => \x7b", "  return " ++ object, "\x7d"]
  | .function, true =>
    ["(_ctx, _cache) => \x7b"] ++
      (if isUsed then ["  const \x7b vOn: _vOn \x7d = _Vue", ""] else []) ++
      ["  return " ++ object, "\x7d"]
  | .function, false =>
    ["(_ctx, _cache) => \x7b", "  with (_ctx) \x7b"] ++
      (if isUsed then ["    const \x7b vOn: _vOn \x7d = _Vue", ""] else []) ++
      ["    return " ++ object, "  \x7d", "\x7d"]

/-- What stands before the render function, if the helper of the bindings is used. -/
def helperLine (options : Options) : String :=
  match options.mode with
  | .module => "import \x7b vOn as _vOn \x7d from \"" ++ options.runtimeModule ++ "\""
  | .function => "const _Vue = " ++ options.runtimeGlobal

/-! ### The texts -/

/-- The tag is written with the attributes of its bindings, which refer to their entries. -/
theorem tagText_eq (tag : String) (bindings : List Binding) :
    tagText tag bindings (entriesFor bindings) = writtenTag tag (mentions bindings) := by
  have hpairs : bindings.zipWith attributeText (entriesFor bindings) =
      (mentions bindings).map fun mention =>
        " " ++ mention.1 ++ "=\"\x7b\x7b" ++ mention.2 ++ "\x7d\x7d\"" := by
    refine List.ext_getElem (by simp [entriesFor, mentions]) fun index hlt _ => ?_
    simp [entriesFor, mentions, attributeText]
  unfold tagText writtenTag
  rw [hpairs]

/-- The object is written with the values of the bindings. -/
theorem objectText_eq (bindings : List Binding) :
    objectText (entriesFor bindings) = writtenObject (definitions bindings) := by
  have hentries : (entriesFor bindings).map (fun entry => entry.name ++ ": " ++ entry.value) =
      (definitions bindings).map fun entry => entry.1 ++ ": " ++ entry.2 := by
    simp [entriesFor, definitions]
  have hempty : (entriesFor bindings).isEmpty = decide (definitions bindings = []) := by
    cases bindings <;> simp [entriesFor, definitions]
  unfold objectText writtenObject
  rw [hentries, hempty]
  simp only [decide_eq_true_eq]

/-- The render function, written out. The helper is the only one that bindings use. -/
theorem functionText_eq (entries : List Entry) (isUsed : Bool) (options : Options) :
    functionText entries (if isUsed then [.on] else []) options =
      joined "\n" (renderLines options isUsed (objectText entries)) := by
  obtain ⟨mode, qualifies, runtimeModule, runtimeGlobal⟩ := options
  -- In each of the eight cases both sides are the object between two fixed texts. These come in
  -- pieces that are put together behind the object first and then in front of it.
  cases mode <;> cases qualifies <;> cases isUsed <;>
    simp [functionText, renderLines, Writer.openBlock, Writer.closeBlock, Writer.newline,
      Writer.push, Writer.indent, Writer.dedent, Writer.blankLine, Writer.empty, takeHelpers,
      joined, String.join_cons, Helper.name, Helper.alias, String.append_assoc] <;>
    simp [← String.append_assoc]

/-- Nothing stands before the render function unless the helper is used. -/
theorem preambleText_eq (isUsed : Bool) (options : Options) :
    preambleText (if isUsed then [.on] else []) options =
      if isUsed then helperLine options else "" := by
  cases isUsed with
  | false => rfl
  | true =>
      obtain ⟨mode, qualifies, runtimeModule, runtimeGlobal⟩ := options
      cases mode <;> simp [preambleText, helperLine, joined, String.join_cons, Helper.name,
        Helper.alias]

/-! ### Names -/

/-- The names of the entries are different. -/
theorem nodup_definitions (bindings : List Binding) :
    ((definitions bindings).map Prod.fst).Nodup := by
  have hnames : (definitions bindings).map Prod.fst =
      (List.range bindings.length).map shortName := by
    refine List.ext_getElem (by simp [definitions]) fun index _ _ => ?_
    simp [definitions]
  rw [hnames]
  exact List.nodup_range.map shortName_injective

/-- Where the names of entries are different, an entry is the only one with its name. -/
theorem filter_eq_singleton {entries : List (String × String)} {entry : String × String}
    (hnodup : (entries.map Prod.fst).Nodup) (hmem : entry ∈ entries) :
    entries.filter (fun other => other.1 = entry.1) = [entry] := by
  induction entries with
  | nil => simp at hmem
  | cons first rest ih =>
      rw [List.map_cons, List.nodup_cons] at hnodup
      rcases List.mem_cons.mp hmem with rfl | hmem
      · have hrest : ∀ other ∈ rest, ¬ other.1 = entry.1 := by
          intro other hother heq
          exact hnodup.1 (heq ▸ List.mem_map_of_mem hother)
        simpa using hrest
      · have hfirst : ¬ first.1 = entry.1 := by
          intro heq
          exact hnodup.1 (heq ▸ List.mem_map_of_mem hmem)
        rw [List.filter_cons_of_neg (by simpa using hfirst)]
        exact ih hnodup.2 hmem

/-- The tag refers to the entries, one after another. -/
theorem mentions_eq_definitions (bindings : List Binding) :
    (mentions bindings).map Prod.snd = (definitions bindings).map Prod.fst := by
  simp [mentions, definitions]

/-! ### The element -/

/-- The helper of the bindings is used as soon as there is a directive. -/
theorem foldl_withHelper {α : Type} (items : List α) :
    items.foldl (fun known _ => withHelper known .on) [] =
      if !items.isEmpty then [.on] else [] := by
  have honce : ∀ rest : List α, rest.foldl (fun known _ => withHelper known .on) [.on] = [.on] := by
    intro rest
    induction rest with
    | nil => rfl
    | cons item rest ih => exact ih
  cases items with
  | nil => rfl
  | cons item rest => exact honce rest

/-- The compiled element. Its diagnostics are those of its directives, in order. Its tag and its
render function are written from what the tag mentions and what the object defines: the names
mentioned are the names defined, all different, and each is defined once, for the directive that
mentions it. The helper is brought into scope as soon as there is a directive, and directives that
bind no event have no effect. -/
theorem compileElement_eq (tag : String) (directives : List Directive) (options : Options) :
    let events := directives.filter fun directive => directive.name == "on"
    let alone := events.map (compileAlone options)
    let bindings := alone.map Prod.fst
    let element := compileElement tag directives options
    element.diagnostics = alone.flatMap Prod.snd ∧
      element.tag = writtenTag tag (mentions bindings) ∧
      element.code.function = joined "\n"
        (renderLines options (!events.isEmpty) (writtenObject (definitions bindings))) ∧
      element.code.preamble = (if !events.isEmpty then helperLine options else "") ∧
      (mentions bindings).map Prod.snd = (definitions bindings).map Prod.fst ∧
      ((definitions bindings).map Prod.fst).Nodup ∧
      (∀ (index : Nat) (binding : Binding), bindings[index]? = some binding →
        (mentions bindings)[index]? = some (binding.attributeName, shortName index) ∧
          (definitions bindings)[index]? = some (shortName index, binding.value) ∧
          (definitions bindings).filter (fun entry => entry.1 = shortName index) =
            [(shortName index, binding.value)]) ∧
      compileElement tag events options = element := by
  intro events alone bindings element
  have hbindings : events.map (fun directive => (compileAlone options directive).1) = bindings :=
    (List.map_map ..).symm
  -- The loop over the directives is run with an empty context, so that all that it collects is
  -- what the directives give by themselves.
  have hcompiled : element = ⟨tagText tag bindings (entriesFor bindings),
      generate (entriesFor bindings) (if !events.isEmpty then [.on] else []) options,
      alone.flatMap Prod.snd⟩ := by
    show (let compiled := (events.mapM compileDirective).run ⟨options, [], []⟩
      (⟨tagText tag compiled.1 (entriesFor compiled.1),
        generate (entriesFor compiled.1) compiled.2.helpers options,
        compiled.2.diagnostics⟩ : Element)) = _
    rw [mapM_compileDirective_run, foldl_withHelper, hbindings, List.nil_append]
    simp [alone, List.flatMap_map]
  have hsame : compileElement tag events options = element := by
    show compileElement tag (directives.filter _) options = compileElement tag directives options
    unfold compileElement
    rw [List.filter_filter]
    simp only [Bool.and_self]
  rw [hcompiled] at hsame ⊢
  refine ⟨rfl, tagText_eq tag bindings, ?_, ?_, mentions_eq_definitions bindings,
    nodup_definitions bindings, ?_, hsame⟩
  · show functionText _ _ options = _
    rw [functionText_eq, objectText_eq]
  · exact preambleText_eq _ options
  · intro index binding hbinding
    have hdefined : (definitions bindings)[index]? = some (shortName index, binding.value) := by
      simp [definitions, hbinding]
    refine ⟨by simp [mentions, hbinding], hdefined, ?_⟩
    exact filter_eq_singleton (nodup_definitions bindings) (List.mem_of_getElem? hdefined)

end MiniApp.Render
