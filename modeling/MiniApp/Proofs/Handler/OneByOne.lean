import MiniApp.Proofs.Handler.Statements

/-!
# Statements one by one

The names of a handler with several statements are qualified in each statement by itself, which is
read anew for that. The handler as a whole could be qualified as well, and then sorted again into
its statements.

* `classify_qualified_iff`: both ways agree if and only if the qualified handler is still no
  expression and each statement becomes by itself what it becomes in its place; a statement that is
  read by itself as it is in the handler does so if and only if it uses no member whose name an
  earlier statement leaves declared.

That the qualified handler is read as the same statements is assumed (`ReadsInPlace`): a module that
exports a member by its name, for one, cannot be read any more when the name is qualified.
-/

set_option autoImplicit false

namespace MiniApp.Handler

open MiniApp.Text MiniApp.Script
open MiniApp.Script.Node (Fits InOrder fits_mk inOrder_nil inOrder_cons)

/-! ### Uses behind declarations -/

/-- The use where other names have been declared before all those that it knows of. -/
def Use.behind (declared : List String) (use : Use) : Use :=
  { use with before := use.before ++ declared }

mutual

/-- Names that have been declared before everything else come behind those that each use knows
of. -/
theorem usesOf_append (before declared visible : List String) (node : Script.Node) :
    usesOf (before ++ declared) visible node =
      (usesOf before visible node).map (Use.behind declared) := by
  unfold usesOf
  split
  · rfl
  · rfl
  · rfl
  · rename_i span value cases
    rw [List.map_append, usesOf_append before declared visible value, ← List.append_assoc,
      usesOfAll_append (leaves value ++ before) declared (Node.caseNames cases ++ visible) cases]
  · rename_i kind span parts hidentifier hshorthand hbinding hswitch
    exact usesOfAll_append before declared (Node.scopeNames kind parts ++ visible) parts

/-- So they do in trees that follow each other. -/
theorem usesOfAll_append (before declared visible : List String) (nodes : List Script.Node) :
    usesOfAll (before ++ declared) visible nodes =
      (usesOfAll before visible nodes).map (Use.behind declared) := by
  cases nodes with
  | nil => simp [usesOfAll]
  | cons node rest =>
      rw [usesOfAll, usesOfAll, List.map_append, usesOf_append before declared visible node,
        ← List.append_assoc, usesOfAll_append (leaves node ++ before) declared visible rest]

end

/-- Uses in statements that follow others are uses behind what the others leave declared. -/
theorem usesOfAll_split (declared visible : List String) (before after : List Script.Node) :
    usesOfAll declared visible (before ++ after) =
      usesOfAll declared visible before ++
        usesOfAll (allLeaves before ++ declared) visible after := by
  induction before generalizing declared with
  | nil => simp [usesOfAll, allLeaves]
  | cons node rest ih => simp [usesOfAll, allLeaves, ih]

/-- What is in scope does not matter to the changes. -/
theorem changesOf_visible (declared visible other : List String) (node : Script.Node) :
    changesOf (usesOf declared visible node) = changesOf (usesOf declared other node) := by
  have hvisible := changes_eq declared visible node
  rw [changes_eq declared other node] at hvisible
  exact (congrArg Prod.fst hvisible).symm

/-! ### A statement among others -/

/-- The uses of a statement, given those before it. -/
def usesAmong (program : Script.Node) (before : List Script.Node) (statement : Script.Node) :
    List Use :=
  usesOf (allLeaves before) (Node.bodyNames program.statements) statement

/-- The text of a statement behind the changes of the whole source is the text of the statement with
its own changes in it, and has the same edges. -/
theorem textInPlace_among {source : List Char} {program statement : Script.Node}
    {before after : List Script.Node} {found : List Change}
    (hprogram : program? source = some program)
    (hstatements : program.statements = before ++ statement :: after)
    (hfound : found = changesOf (usesOfAll []
      (Node.bodyNames program.statements) program.statements)) :
    textInPlace found source statement =
        spliced ((changesOf (usesAmong program before statement)).map
          (Change.shortened (textStop source statement))) (statementText source statement) ∧
      SameEdges (textInPlace found source statement) (statementText source statement) := by
  have hinOrder := statements_inOrder hprogram
  have hall := usesOfAll_inOrder [] (Node.bodyNames program.statements) program.statements hinOrder
  rw [hstatements] at hinOrder
  obtain ⟨mid, hbefore, hrest⟩ := hinOrder.split
  obtain ⟨hstatement, hafter⟩ := inOrder_cons.mp hrest
  have hfits : statement.Fits source source.length 0 :=
    hstatement.mono hbefore.le (Nat.le_refl 0)
  have huses : InOrder source statement.span.start statement.span.stop
      ((usesAmong program before statement).map Use.leaf) :=
    usesOf_fits _ _ statement hstatement.self
  -- the changes before the statement, those in it, and those behind it
  have hsplit : found =
      changesOf (usesOfAll [] (Node.bodyNames program.statements) before) ++
        changesOf (usesAmong program before statement) ++
        changesOf (usesOfAll (leaves statement ++ allLeaves before)
          (Node.bodyNames program.statements) after) := by
    generalize hvisible : Node.bodyNames program.statements = visible at hfound
    rw [hfound, hstatements, usesOfAll_split, List.append_nil, usesOfAll, changesOf_append,
      changesOf_append, ← List.append_assoc, usesAmong, hvisible]
  have hseparate := changesOf_separate hall
  rw [← hfound, hsplit] at hseparate
  rw [hsplit]
  refine textInPlace_eq hfits huses hseparate ⟨?_, ?_, ?_⟩
  · intro change hchange
    have huses := usesOfAll_inOrder [] (Node.bodyNames program.statements) before hbefore
    obtain ⟨-, hstop, hstart⟩ := changesOf_bounds huses hchange
    have hle := hstatement.start_le
    omega
  · exact fun change hchange => changesOf_bounds huses hchange
  · intro change hchange
    have huses := usesOfAll_inOrder (leaves statement ++ allLeaves before)
      (Node.bodyNames program.statements) after hafter
    exact (changesOf_bounds huses hchange).1

/-! ### A statement by itself -/

/-- The use without what is in scope. -/
def Use.unscoped (use : Use) : Use :=
  { use with visible := [] }

/-- What is in scope makes no difference to the changes. -/
theorem changesOf_unscoped (uses : List Use) :
    changesOf (uses.map Use.unscoped) = changesOf uses := by
  unfold changesOf
  rw [List.filter_map, List.map_map]
  rfl

/-- By itself the text of the statement is read with the uses that it has as a statement of the
source. -/
def ReadsAlone (source : List Char) (statement : Script.Node) : Prop :=
  ∃ own, uses? (statementText source statement) = some own ∧
    own.map Use.unscoped =
      ((usesOf [] [] statement).map (Use.shortened (textStop source statement))).map Use.unscoped

/-- Among the others a statement is changed where it is by itself, unless an earlier one leaves the
name declared. -/
theorem changesOf_usesAmong (program statement : Script.Node) (before : List Script.Node) :
    changesOf (usesAmong program before statement) =
      (((usesOf [] [] statement).filter fun use => isContextMember use.before use.name).filter
        fun use => use.name ∉ allLeaves before).map Use.change := by
  have hbehind := usesOf_append [] (allLeaves before) [] statement
  rw [List.nil_append] at hbehind
  rw [usesAmong, changesOf_visible _ _ [], hbehind, changesOf, List.filter_map, List.map_map,
    List.filter_filter]
  refine congrArg (List.map Use.change) (List.filter_congr fun use _ => ?_)
  rw [Bool.eq_iff_iff, Bool.and_eq_true, decide_eq_true_eq, and_comm]
  exact isContextMember_append_iff use.before (allLeaves before) use.name

/-- A statement that is read by itself as it is among others becomes the same in both ways if and
only if it uses no member whose name the others leave declared. -/
theorem alone_iff {source : List Char} {program statement : Script.Node}
    {before after : List Script.Node} {found : List Change}
    (hprogram : program? source = some program)
    (hstatements : program.statements = before ++ statement :: after)
    (hfound : found = changesOf (usesOfAll []
      (Node.bodyNames program.statements) program.statements))
    (halone : ReadsAlone source statement) :
    qualify (String.ofList (statementText source statement)) =
        some (String.ofList (textInPlace found source statement)) ↔
      ∀ use ∈ usesOf [] [] statement, isContextMember use.before use.name →
        use.name ∉ allLeaves before := by
  obtain ⟨own, hown, hsame⟩ := halone
  have hinPlace := (textInPlace_among hprogram hstatements hfound).1
  have hchanges : changesOf own = (changesOf (usesOf [] [] statement)).map
      (Change.shortened (textStop source statement)) := by
    rw [← changesOf_unscoped own, hsame, changesOf_unscoped, changesOf_shortened]
  have hqualify : qualify (String.ofList (statementText source statement)) =
      some (String.ofList (spliced (changesOf own) (statementText source statement))) := by
    rw [qualify_eq_spliced, String.toList_ofList, hown]
    rfl
  have hownOrder := uses?_inOrder hown
  have hseparate : Separate (statementText source statement).length (changesOf own) :=
    changesOf_separate hownOrder
  have hpoints : ∀ change ∈ changesOf own, change.replacement.count '.' = 1 ∧
      '.' ∉ change.span.slice (statementText source statement) := by
    intro change hchange
    obtain ⟨use, huse, rfl⟩ := List.mem_map.mp hchange
    exact Use.change_points (uses_spelled hownOrder (List.mem_of_mem_filter huse)).1
  rw [hqualify, hinPlace, Option.some_inj, String.ofList_inj]
  rw [hchanges] at hseparate hpoints ⊢
  rw [changesOf_usesAmong]
  rw [changesOf] at hseparate hpoints ⊢
  generalize hmembers : (usesOf [] [] statement).filter
    (fun use => isContextMember use.before use.name) = members at *
  have hsublist : (((members.filter fun use => use.name ∉ allLeaves before).map Use.change).map
      (Change.shortened (textStop source statement))).Sublist
        ((members.map Use.change).map (Change.shortened (textStop source statement))) :=
    (List.filter_sublist.map _).map _
  constructor
  · -- Both texts have as many points as there are changes in them, so that no change is missing.
    intro htexts use huse hmember
    have hcount := count_spliced hseparate hpoints
    have hfewer := count_spliced (hseparate.sublist hsublist)
      fun change hchange => hpoints change (hsublist.subset hchange)
    rw [htexts] at hcount
    have hlength : (members.filter fun use => use.name ∉ allLeaves before).length =
        members.length := by
      simp only [List.length_map] at hcount hfewer
      omega
    have hall := List.length_filter_eq_length_iff.mp hlength use
      (hmembers ▸ List.mem_filter.mpr ⟨huse, hmember⟩)
    simpa using hall
  · intro hnames
    have hall : (members.filter fun use => use.name ∉ allLeaves before) = members := by
      refine List.filter_eq_self.mpr fun use huse => ?_
      rw [← hmembers] at huse
      obtain ⟨huse, hmember⟩ := List.mem_filter.mp huse
      simpa using hnames use huse hmember
    rw [hall]

/-! ### All the statements -/

/-- The qualified source is read as the statements of the source, each in the place to which the
changes move it. -/
def ReadsInPlace (source : List Char) (found : List Change) (program : Script.Node) : Prop :=
  ∃ moved, program? (spliced found source) = some moved ∧
    moved.statements.map (fun node => (node.kind == .empty, node.span)) =
      program.statements.map fun node => (node.kind == .empty, movedSpan found source node.span)

/-- The texts of the statements that are read from a source, without those that are empty. -/
def textsOf (source : List Char) (statements : List Script.Node) : List String :=
  (((nonEmptyStatements statements).map (statementText source)).filter
    fun text => !text.isEmpty).map String.ofList

/-- A source is sorted as statements if it is no expression and is read as a module with statements,
and then their texts are those of the statements. -/
theorem ofSource_eq_statements {source : List Char} {texts : List String} :
    ofSource source = .statements texts ↔
      wholeExpression? source = none ∧ ∃ program, program? source = some program ∧
        program.statements ≠ [] ∧ texts = textsOf source program.statements := by
  unfold ofSource
  cases wholeExpression? source with
  | some expression =>
      -- A text that is an expression is never divided into statements.
      dsimp only
      constructor
      · split
        · exact nofun
        · split
          · exact nofun
          · exact nofun
      · rintro ⟨hnone, -⟩
        cases hnone
  | none =>
      cases program? source with
      | none =>
          constructor
          · exact nofun
          · rintro ⟨-, program, hprogram, -⟩
            cases hprogram
      | some program =>
          -- A program without statements is answered as one statement.
          cases hstatements : program.statements with
          | nil =>
              simp only [Option.map_some, hstatements]
              constructor
              · exact nofun
              · rintro ⟨-, other, hother, hne, -⟩
                cases hother
                exact absurd hstatements hne
          | cons first rest =>
              simp only [Option.map_some, hstatements]
              constructor
              · intro htexts
                injection htexts with htexts
                exact ⟨trivial, program, rfl, by rw [hstatements]; exact List.cons_ne_nil _ _,
                  by rw [hstatements]; exact htexts.symm⟩
              · rintro ⟨-, other, hother, -, rfl⟩
                cases hother
                rw [hstatements]
                rfl

/-- The texts of the statements of the qualified source. -/
theorem textsOf_moved {source : List Char} {found : List Change} {program moved : Script.Node}
    (hmoved : moved.statements.map (fun node => (node.kind == .empty, node.span)) =
      program.statements.map fun node => (node.kind == .empty, movedSpan found source node.span)) :
    textsOf (spliced found source) moved.statements =
      (((nonEmptyStatements program.statements).map (textInPlace found source)).filter
        fun text => !text.isEmpty).map String.ofList := by
  -- Of a statement only its extent counts here, and whether it is empty.
  have hnonEmpty : ∀ (text : Span → List Char) (statements : List Script.Node),
      (nonEmptyStatements statements).map (fun node => text node.span) =
        ((statements.map fun node => (node.kind == .empty, node.span)).filter
          fun entry => !entry.1).map fun entry => text entry.2 := by
    intro text statements
    rw [List.filter_map, List.map_map]
    rfl
  have hinPlace : ∀ statements : List Script.Node,
      (nonEmptyStatements statements).map (textInPlace found source) =
        ((statements.map fun node => (node.kind == .empty, movedSpan found source node.span)).filter
          fun entry => !entry.1).map fun entry => cut (entry.2.slice (spliced found source)) := by
    intro statements
    rw [List.filter_map, List.map_map]
    rfl
  unfold textsOf
  rw [hinPlace, ← hmoved, ← hnonEmpty fun span => cut (span.slice (spliced found source))]
  rfl

/-- The statements by themselves become what they become in their places if their texts do. -/
theorem ownTexts_iff {source : List Char} {program : Script.Node} {found : List Change}
    {own : List String} (hprogram : program? source = some program)
    (hfound : found = changesOf (usesOfAll []
      (Node.bodyNames program.statements) program.statements))
    (hown : (textsOf source program.statements).map qualify = own.map some) :
    (((nonEmptyStatements program.statements).map (textInPlace found source)).filter
        fun text => !text.isEmpty).map String.ofList = own ↔
      ∀ statement ∈ nonEmptyStatements program.statements,
        qualify (String.ofList (statementText source statement)) =
          some (String.ofList (textInPlace found source statement)) := by
  have hempty : ∀ statement ∈ nonEmptyStatements program.statements,
      (textInPlace found source statement = [] ↔ statementText source statement = []) := by
    intro statement hstatement
    obtain ⟨before, after, hsplit⟩ := List.append_of_mem (List.mem_of_mem_filter hstatement)
    exact (textInPlace_among hprogram hsplit hfound).2.nil_iff
  have hnothing : qualify (String.ofList []) = some (String.ofList []) := by decide +kernel
  unfold textsOf at hown
  generalize nonEmptyStatements program.statements = statements at hempty hown ⊢
  -- a text is empty when what becomes of it is, so both sides leave the same statements out, and
  -- about those there is nothing to show
  have hkept : statements.filter (fun node => !(textInPlace found source node).isEmpty) =
      statements.filter fun node => !(statementText source node).isEmpty := by
    refine List.filter_congr fun statement hstatement => ?_
    rw [Bool.eq_iff_iff]
    simp [hempty statement hstatement]
  have hsome : Function.Injective (List.map (some : String → Option String)) :=
    List.map_injective_iff.mpr fun _ _ h => Option.some.inj h
  have hleft : (statements.map (textInPlace found source)).filter (fun text => !text.isEmpty) =
      (statements.filter fun node => !(statementText source node).isEmpty).map
        (textInPlace found source) := by
    rw [List.filter_map]
    exact congrArg (List.map (textInPlace found source)) hkept
  have hright : (statements.map (statementText source)).filter (fun text => !text.isEmpty) =
      (statements.filter fun node => !(statementText source node).isEmpty).map
        (statementText source) :=
    List.filter_map
  rw [← hsome.eq_iff, ← hown, hleft, hright]
  simp only [List.map_map, List.map_inj_left, Function.comp_apply]
  constructor
  · intro htexts statement hstatement
    by_cases hnone : statementText source statement = []
    · rw [hnone, (hempty statement hstatement).mpr hnone]
      exact hnothing
    · exact (htexts statement (List.mem_filter.mpr ⟨hstatement, by simpa using hnone⟩)).symm
  · intro htexts statement hstatement
    exact (htexts statement (List.mem_of_mem_filter hstatement)).symm

/-- A handler of several statements is qualified statement by statement as it is qualified as a
whole if and only if the whole is still no expression and each statement becomes by itself what it
becomes in its place. A statement that is read by itself as it is in the handler does so if and only
if it uses no member whose name an earlier statement leaves declared. -/
theorem classify_qualified_iff {content whole : String} {texts own : List String}
    {program : Script.Node} {found : List Change} (hclassify : classify content = .statements texts)
    (hprogram : program? (trim content.toList) = some program)
    (hfound : changes? (trim content.toList) = some found)
    (hwhole : qualify (String.ofList (trim content.toList)) = some whole)
    (hown : texts.map qualify = own.map some)
    (hreads : ReadsInPlace (trim content.toList) found program) :
    (classify whole = .statements own ↔
      wholeExpression? whole.toList = none ∧
        ∀ statement ∈ nonEmptyStatements program.statements,
          qualify (String.ofList (statementText (trim content.toList) statement)) =
            some (String.ofList (textInPlace found (trim content.toList) statement))) ∧
    ∀ before statement after, program.statements = before ++ statement :: after →
      ReadsAlone (trim content.toList) statement →
        (qualify (String.ofList (statementText (trim content.toList) statement)) =
            some (String.ofList (textInPlace found (trim content.toList) statement)) ↔
          ∀ use ∈ usesOf [] [] statement, isContextMember use.before use.name →
            use.name ∉ allLeaves before) := by
  have htrimmed := isTrimmed_trim content.toList
  unfold classify at hclassify
  generalize trim content.toList = source at *
  obtain ⟨hnone, other, hother, hne, rfl⟩ := ofSource_eq_statements.mp hclassify
  rw [hprogram] at hother
  cases hother
  have huses : uses? source =
      some (usesOfAll [] (Node.bodyNames program.statements) program.statements) := by
    unfold uses?
    rw [hnone, hprogram]
    rfl
  have hchanges : found =
      changesOf (usesOfAll [] (Node.bodyNames program.statements) program.statements) := by
    rw [changes?_eq, huses] at hfound
    exact (Option.some.inj hfound).symm
  refine ⟨?_, fun before statement after hsplit halone => alone_iff hprogram hsplit hchanges halone⟩
  have hspliced : whole = String.ofList (spliced found source) := by
    rw [qualify_eq_spliced, String.toList_ofList, huses] at hwhole
    rw [hchanges]
    exact (Option.some.inj hwhole).symm
  obtain ⟨moved, hmoved, hplaces⟩ := hreads
  have hmovedNe : moved.statements ≠ [] := by
    intro hempty
    rw [hempty] at hplaces
    exact hne (List.map_eq_nil_iff.mp hplaces.symm)
  rw [← ownTexts_iff hprogram hchanges hown, ← textsOf_moved hplaces, hspliced, classify,
    String.toList_ofList, hchanges,
    ((sameEdges_qualified huses).symm.isTrimmed htrimmed).trim_eq, ← hchanges,
      ofSource_eq_statements]
  constructor
  · rintro ⟨hexpression, again, hagain, -, htexts⟩
    rw [hmoved] at hagain
    cases hagain
    exact ⟨hexpression, htexts.symm⟩
  · rintro ⟨hexpression, htexts⟩
    exact ⟨hexpression, moved, hmoved, hmovedNe, htexts.symm⟩

/-- Two statements that declare nothing are qualified in one way. -/
theorem classify_qualified_assignment :
    classify "_ctx.a = 1; _ctx.b()" = .statements ["_ctx.a = 1", "_ctx.b()"] := by
  have hagree := (@classify_qualified_iff "a = 1; b()" "_ctx.a = 1; _ctx.b()" ["a = 1", "b()"]
    ["_ctx.a = 1", "_ctx.b()"] ((program? "a = 1; b()".toList).get (by decide +kernel))
    [⟨⟨10, 10⟩, contextPrefix⟩, ⟨⟨3, 3⟩, contextPrefix⟩] (by decide +kernel)
    (Option.some_get _).symm (by decide +kernel) (by decide +kernel) (by decide +kernel)
    ⟨(program? "_ctx.a = 1; _ctx.b()".toList).get (by decide +kernel), (Option.some_get _).symm,
      by decide +kernel⟩).1
  exact hagree.mpr ⟨by decide +kernel, by decide +kernel⟩

/-- A name that the first statement declares is qualified in the second one. -/
theorem declared_name_qualified :
    ¬ ∀ (content whole : String) (texts own : List String), classify content = .statements texts →
      qualify (String.ofList (trim content.toList)) = some whole →
        texts.map qualify = own.map some → classify whole = .statements own := by
  intro hagree
  have hsame := hagree "let x = 1; f(x)" "let x = 1; _ctx.f(x)" ["let x = 1", "f(x)"]
    ["let x = 1", "_ctx.f(_ctx.x)"] (by decide +kernel) (by decide +kernel) (by decide +kernel)
  exact absurd hsame (by decide +kernel)

end MiniApp.Handler
