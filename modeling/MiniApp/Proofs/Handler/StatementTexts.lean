import MiniApp.Proofs.Script.Grammar.First
import MiniApp.Proofs.Script.Padding
import MiniApp.Proofs.Handler.OneByOne
import MiniApp.Proofs.Handler.Collapsing

/-!
# Every statement has its text

A handler that is no single expression is sorted into the texts of its statements. A text is cut out
of the stretch of its statement: blank space at both ends and semicolons behind are cut off, and a
text of which nothing stays is left out.

* `holdsText`: the text of a statement stands where the statement starts, and only blank space and
  semicolons are cut off behind it.
* `topStatements_eq`: the statements that are sorted are all but directives and empty ones.
* `classify_accountsFor`: what a handler is sorted into accounts for all of it.

That nothing else gets lost rests on how statements start (`program?_statements`). The first
character of a statement is neither blank nor, unless the statement is empty, a semicolon. So it
stays, and with it a text that starts where the statement does.
-/

set_option autoImplicit false

namespace MiniApp.Handler

open MiniApp.Text MiniApp.Script
open MiniApp.Script.Node (Fits InOrder)

/-- The statements at the top of a module, behind its directives and without empty ones. -/
def topStatements (program : Script.Node) : List Script.Node :=
  (program.parts.dropWhile fun part => part.kind == .directive).filter fun part =>
    part.kind != .empty

/-- The place holds the text of the statement: it is not empty, starts where the statement does and
has no blank space at its ends. Only blank space and semicolons follow in the statement. -/
structure HoldsText (source : List Char) (statement : Script.Node) (place : Span) : Prop where
  start : place.start = statement.span.start
  inSource : place.start ≤ source.length
  nonempty : place.stop < place.start
  trimmed : IsTrimmed (place.slice source)
  stop : statement.span.stop ≤ place.stop
  layout : ∀ c ∈ (Span.mk place.stop statement.span.stop).slice source, isBlank c ∨ c = ';'

/-- What the source was sorted into accounts for all of it. Each statement at its top has its
text, and the texts stand in the source one behind the other. A single text is the whole source. -/
def AccountsFor (source : List Char) : Handler → Prop
  | .statements texts => ∃ program places, program? source = some program ∧
      List.Forall₂ (HoldsText source) (topStatements program) places ∧
        places.Pairwise (fun place later => later.start ≤ place.stop) ∧
          texts = places.map fun place => String.ofList (place.slice source)
  | .reference text | .functionLiteral text | .inlineStatement text =>
      text = String.ofList source

/-! ### The text of a statement -/

/-- Where the text of a statement stands. -/
def textSpan (source : List Char) (statement : Script.Node) : Span :=
  ⟨statement.span.start, textStop source statement⟩

/-- No blank space stays at the ends of what is cut out. -/
theorem isTrimmed_cut (text : List Char) : IsTrimmed (cut text) := by
  constructor
  · intro c hc
    obtain ⟨semicolons, hdrop, -⟩ := dropEndWhile_split (· == ';') (trim text)
    obtain ⟨more, hcut, -⟩ := dropEndWhile_split isBlank (dropSemicolons (trim text))
    have htrim : trim text = cut text ++ (more ++ semicolons) := by
      rw [← List.append_assoc]
      exact hdrop.trans (congrArg (· ++ semicolons) hcut)
    refine (isTrimmed_trim text).1 c ?_
    rw [htrim, List.head?_append, Option.mem_def.mp hc]
    rfl
  · intro c hc
    rw [cut, trimEnd, dropEndWhile, List.getLast?_reverse] at hc
    exact dropWhile_head hc

section Statement

variable {source : List Char} {statement : Script.Node}

/-- The stretch of a solid statement starts with the character that the statement opens with. -/
theorem slice_opens (hsolid : statement.IsSolid source) :
    ∃ c rest, statement.span.slice source = c :: rest ∧ ¬ isBlank c ∧
      (c = ';' → statement.kind = .empty) := by
  obtain ⟨c, rest, ⟨front, rfl⟩, hstart, hgap, hsemicolon⟩ := hsolid.opens
  obtain ⟨count, hcount⟩ := Nat.exists_eq_add_of_lt hsolid.nonempty
  refine ⟨c, rest.take count, ?_, fun hblank => hgap (isGap_of_isBlank hblank), hsemicolon⟩
  have hfront : (front ++ c :: rest).length - statement.span.start = front.length := by
    rw [hstart, List.length_append, Nat.add_sub_cancel_right]
  have htake : statement.span.start - statement.span.stop = count + 1 := by omega
  rw [Span.slice, hfront, htake, List.drop_left, List.take_succ_cons]

/-- From a statement that is not empty a text is cut out, and nothing in front of it. -/
theorem statement_split (hsolid : statement.IsSolid source) (hkind : statement.kind ≠ .empty) :
    (statement.span.slice source).takeWhile isBlank = [] ∧ statementText source statement ≠ [] ∧
      ∃ tail, statement.span.slice source = statementText source statement ++ tail ∧
        ∀ c ∈ tail, isBlank c ∨ c = ';' := by
  obtain ⟨c, rest, hslice, hblank, hsemicolon⟩ := slice_opens hsolid
  have hfront : (statement.span.slice source).takeWhile isBlank = [] := by
    rw [hslice, List.takeWhile_cons_of_neg hblank]
  obtain ⟨tail, hsplit, htail, -⟩ := cut_split (statement.span.slice source)
  rw [hfront, List.nil_append, ← statementText_eq] at hsplit
  refine ⟨hfront, fun hempty => ?_, tail, hsplit, htail⟩
  -- If nothing stayed, the first character would be blank or a semicolon.
  rw [hempty, hslice, List.nil_append] at hsplit
  rcases htail c (hsplit ▸ List.mem_cons_self) with hc | hc
  · exact hblank hc
  · exact hkind (hsemicolon hc)

/-- The text of a statement stands in its place. -/
theorem holdsText (hfits : statement.Fits source source.length 0)
    (hsolid : statement.IsSolid source) (hkind : statement.kind ≠ .empty) :
    HoldsText source statement (textSpan source statement) ∧
      (textSpan source statement).slice source = statementText source statement := by
  obtain ⟨hfront, hne, tail, hsplit, htail⟩ := statement_split hsolid hkind
  have hinside := hfits.start_le
  have hpositive : 0 < (statementText source statement).length := List.length_pos_iff.mpr hne
  have hwhole : (statementText source statement).length + tail.length =
      statement.span.start - statement.span.stop := by
    rw [← List.length_append, ← hsplit]
    exact Span.length_slice hinside
  have hstop : textStop source statement = statement.span.stop + tail.length := by
    have hle := hsolid.nonempty
    rw [textStop, hfront, List.length_nil]
    omega
  unfold textSpan
  generalize textStop source statement = stop at hstop
  -- The stretch of the statement falls into the text and what is cut off behind it.
  have hparts : (Span.mk statement.span.start stop).slice source ++
      (Span.mk stop statement.span.stop).slice source = statementText source statement ++ tail := by
    rw [← hsplit]
    exact (slice_split hinside (by omega) (by omega)).symm
  have hlength : ((Span.mk statement.span.start stop).slice source).length =
      (statementText source statement).length := by
    rw [@Span.length_slice ⟨statement.span.start, stop⟩ source hinside]
    show statement.span.start - stop = _
    omega
  obtain ⟨htext, hbehind⟩ := List.append_inj hparts hlength
  refine ⟨⟨rfl, hinside, ?_, ?_, ?_, ?_⟩, htext⟩
  · show stop < statement.span.start
    omega
  · rw [htext]
    exact isTrimmed_cut _
  · show statement.span.stop ≤ stop
    omega
  · exact fun c hc => htail c (hbehind ▸ hc)

end Statement

/-! ### All the texts -/

section Program

variable {source : List Char} {program : Script.Node}

/-- What stands behind the directives of a module and is not empty are its statements that are not
empty. -/
theorem topStatements_eq (h : program? source = some program) :
    topStatements program = nonEmptyStatements program.statements := by
  rw [topStatements, nonEmptyStatements, (program?_statements h).1]

/-- What is known of a statement at the top. -/
theorem of_mem_topStatements (h : program? source = some program) {statement : Script.Node}
    (hstatement : statement ∈ topStatements program) :
    statement.IsSolid source ∧ statement.kind ≠ .empty := by
  rw [topStatements_eq h] at hstatement
  obtain ⟨hmem, hkind⟩ := List.mem_filter.mp hstatement
  exact ⟨(program?_statements h).2 statement hmem, by simpa using hkind⟩

/-- No text is left out because nothing stays of it. -/
theorem textsOf_eq (h : program? source = some program) :
    textsOf source program.statements =
      (topStatements program).map (String.ofList ∘ statementText source) := by
  have hkept : ∀ text ∈ (topStatements program).map (statementText source), !text.isEmpty := by
    refine List.forall_mem_map.mpr fun statement hstatement => ?_
    obtain ⟨hsolid, hkind⟩ := of_mem_topStatements h hstatement
    simpa using (statement_split hsolid hkind).2.1
  rw [textsOf, ← topStatements_eq h, List.filter_eq_self.mpr hkept, List.map_map]

/-- The texts of the statements account for a source that is read as a module. -/
theorem statements_accountsFor (h : program? source = some program) :
    AccountsFor source (.statements (textsOf source program.statements)) := by
  have hinOrder : InOrder source source.length 0 (topStatements program) := by
    rw [topStatements_eq h]
    exact (statements_inOrder h).sublist List.filter_sublist
  -- Each text lies in its statement, so the texts are as far apart as the statements.
  have hholds : ∀ statement ∈ topStatements program,
      HoldsText source statement (textSpan source statement) ∧
        (textSpan source statement).slice source = statementText source statement := by
    intro statement hstatement
    obtain ⟨hsolid, hkind⟩ := of_mem_topStatements h hstatement
    exact holdsText (hinOrder.fits hstatement) hsolid hkind
  refine ⟨program, (topStatements program).map (textSpan source), h, ?_, ?_, ?_⟩
  · rw [List.forall₂_map_right_iff, List.forall₂_same]
    exact fun statement hstatement => (hholds statement hstatement).1
  · rw [List.pairwise_map]
    refine hinOrder.pairwise.imp_of_mem fun hnode hlater hle => ?_
    rw [(hholds _ hlater).1.start]
    exact Nat.le_trans hle (hholds _ hnode).1.stop
  · rw [textsOf_eq h, List.map_map]
    refine List.map_congr_left fun statement hstatement => ?_
    exact congrArg String.ofList (hholds statement hstatement).2.symm

end Program

/-- Whatever is written as a handler, what it is sorted into accounts for all of it but the blank
space around it. -/
theorem classify_accountsFor (content : String) :
    AccountsFor (trim content.toList) (classify content) := by
  unfold classify ofSource
  generalize trim content.toList = source
  cases wholeExpression? source with
  | some expression =>
      dsimp only
      split
      · rfl
      · split
        · rfl
        · rfl
  | none =>
      cases hprogram : program? source with
      | none => rfl
      | some program =>
          have htexts := statements_accountsFor hprogram
          cases hstatements : program.statements with
          | nil =>
              simp only [Option.map_some, hstatements]
              rfl
          | cons first rest =>
              simp only [Option.map_some, hstatements]
              exact hstatements ▸ htexts

example : classify " 'use strict'; a.b ; ; c() " = .statements ["a.b", "c()"] := by
  decide +kernel

end MiniApp.Handler
