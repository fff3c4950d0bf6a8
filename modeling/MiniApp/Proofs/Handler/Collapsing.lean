import MiniApp.Proofs.Handler.BlockBody
import MiniApp.Proofs.Handler.Trimming

/-!
# What collapsing a function keeps

A function over several lines is put on one line: its head with single spaces, then its statements,
each with a semicolon behind it. So what is changed should be blank space and semicolons, and
nothing else of the text should be lost.

* `collapse_keepsText_iff`: nothing else is lost if and only if only blank space and semicolons
  stand in front of the function and, in its braces, beside its statements. What stands there is a
  comment or a directive, and neither is written again.
* `KeepsTree`: what is read of the text should be the same tree. `keepsTree_of_uncollapsed` says so
  of a text that stays on its lines.
-/

set_option autoImplicit false

namespace MiniApp.Handler

open MiniApp.Text MiniApp.Script
open MiniApp.Script.Node (Fits InOrder inOrder_nil inOrder_cons)

/-! ### Texts without their layout -/

/-- The text without blank space and semicolons. -/
def solid (text : List Char) : List Char :=
  text.filter fun c => !isBlank c && c != ';'

/-- Of an empty text nothing is left. -/
@[simp] theorem solid_nil : solid [] = [] :=
  rfl

/-- Layout is taken out of one text behind the other. -/
@[simp] theorem solid_append (text more : List Char) :
    solid (text ++ more) = solid text ++ solid more :=
  List.filter_append _ _

/-- It is taken out character by character. -/
theorem solid_cons (c : Char) (text : List Char) : solid (c :: text) = solid [c] ++ solid text :=
  solid_append [c] text

/-- Blank space and semicolons are nothing but layout. -/
theorem solid_eq_nil {text : List Char} (h : ∀ c ∈ text, isBlank c ∨ c = ';') :
    solid text = [] := by
  refine List.filter_eq_nil_iff.mpr fun c hc => ?_
  rcases h c hc with hblank | rfl
  · simp [hblank]
  · simp

/-- A blank is layout. -/
theorem solid_blank {c : Char} (h : isBlank c) : solid [c] = [] :=
  solid_eq_nil fun _ hd => .inl (List.mem_singleton.mp hd ▸ h)

/-- What is cut off a text is layout. -/
theorem solid_cut (text : List Char) : solid (cut text) = solid text := by
  obtain ⟨tail, hsplit, htail, -⟩ := cut_split text
  have hfront : solid (text.takeWhile isBlank) = [] :=
    solid_eq_nil fun c hc => .inl (List.all_eq_true.mp List.all_takeWhile c hc)
  have hwhole := congrArg solid hsplit
  rw [solid_append, solid_append, hfront, solid_eq_nil htail, List.nil_append,
    List.append_nil] at hwhole
  exact hwhole.symm

/-- What is trimmed off a text is layout. -/
theorem solid_trim (text : List Char) : solid (trim text) = solid text := by
  obtain ⟨tail, htrim, htail⟩ := dropEndWhile_split isBlank (trimStart text)
  have hfront : solid (text.takeWhile isBlank) = [] :=
    solid_eq_nil fun c hc => .inl (List.all_eq_true.mp List.all_takeWhile c hc)
  have hwhole : text.takeWhile isBlank ++ trimStart text = text :=
    List.takeWhile_append_dropWhile
  have hstart : trimStart text = trim text ++ tail := htrim
  have hsolid := congrArg solid hwhole
  rw [hstart, solid_append, solid_append, hfront,
    solid_eq_nil fun c hc => .inl (htail c hc), List.nil_append, List.append_nil] at hsolid
  exact hsolid

/-! ### The head -/

/-- The words of a text are what it holds beside blank space. -/
theorem solid_wordsFrom (current text : List Char) :
    solid (wordsFrom current text).flatten = solid (current.reverse ++ text) := by
  induction text generalizing current with
  | nil =>
      unfold wordsFrom
      split
      · simp_all
      · simp
  | cons c rest ih =>
      unfold wordsFrom
      -- A blank ends the word so far, and any other character goes on with it.
      by_cases hc : isBlank c
      · have hcurrent : solid (current.reverse ++ c :: rest) =
            solid current.reverse ++ solid rest := by
          rw [solid_append, solid_cons, solid_blank hc, List.nil_append]
        rw [if_pos hc, hcurrent]
        split
        · rw [ih []]
          simp_all
        · rw [List.flatten_cons, solid_append, ih []]
          simp
      · rw [if_neg hc, ih (c :: current)]
        simp

/-- Spaces between words are layout. -/
theorem solid_intersperse (texts : List (List Char)) :
    solid (texts.intersperse [' ']).flatten = solid texts.flatten := by
  have hspace : solid [' '] = [] := rfl
  induction texts with
  | nil => rfl
  | cons first rest ih =>
      cases rest with
      | nil => rfl
      | cons second more =>
          rw [List.intersperse_cons_cons, List.flatten_cons, List.flatten_cons, solid_append,
            solid_append, ih, hspace, List.nil_append]
          exact (solid_append _ _).symm

/-- If a text is replaced by one that differs in its layout, so does the whole. -/
theorem solid_replaceFrom {old new : List Char} (hold : old ≠ []) (hsolid : solid new = solid old)
    (skip : Nat) (text : List Char) :
    solid (replaceFrom old new skip text) = solid (text.drop skip) := by
  fun_induction replaceFrom old new skip text with
  | case1 => simp
  | case2 c rest n ih => exact ih
  | case3 c rest hoccurs ih =>
      obtain ⟨tail, htail⟩ := List.isPrefixOf_iff_prefix.mp hoccurs
      obtain ⟨first, more, rfl⟩ := List.exists_cons_of_ne_nil hold
      obtain ⟨rfl, rfl⟩ := List.cons_eq_cons.mp htail
      rw [solid_append, ih, hsolid]
      simp [← solid_append]
  | case4 c rest hoccurs ih =>
      rw [solid_cons, ih, List.drop_zero, List.drop_zero, ← solid_cons]

/-- Putting a head on one line changes its layout only. -/
theorem solid_collapseHead (head : List Char) : solid (collapseHead head) = solid head := by
  have hword : solid "function (".toList = solid "function(".toList := by
    decide
  rw [collapseHead, replace, solid_replaceFrom (by decide) hword, List.drop_zero,
    solid_intersperse, words, solid_wordsFrom]
  simp

/-! ### Pieces of the source -/

section Source

variable {source : List Char}

/-- A stretch of a source falls into what stands in front of a place and what stands behind it. -/
theorem slice_split {hi mid lo : Nat} (hhi : hi ≤ source.length) (hmid : mid ≤ hi)
    (hlo : lo ≤ mid) :
    (Span.mk hi lo).slice source =
      (Span.mk hi mid).slice source ++ (Span.mk mid lo).slice source := by
  have hlength : hi - lo = (hi - mid) + (mid - lo) := by omega
  have hdrop : source.length - mid = (source.length - hi) + (hi - mid) := by omega
  rw [Span.slice, Span.slice, Span.slice, hlength, hdrop, List.take_add, List.drop_drop]

/-- The stretch from the start of a source to its end is the source. -/
theorem slice_all : (Span.mk source.length 0).slice source = source := by
  simp [Span.slice]

/-- What stands in a stretch of the source in front of, between and behind trees. -/
def between (source : List Char) (hi lo : Nat) : List Script.Node → List Char
  | [] => (Span.mk hi lo).slice source
  | node :: rest =>
    (Span.mk hi node.span.start).slice source ++ between source node.span.stop lo rest

/-- What stands in trees, one behind the other. -/
def within (source : List Char) (nodes : List Script.Node) : List Char :=
  nodes.flatMap fun node => node.span.slice source

/-- The characters of a stretch that are no layout stand in its trees or between them. -/
theorem length_solid_slice {hi lo : Nat} {nodes : List Script.Node} (hhi : hi ≤ source.length)
    (h : InOrder source hi lo nodes) :
    (solid ((Span.mk hi lo).slice source)).length =
      (solid (within source nodes)).length + (solid (between source hi lo nodes)).length := by
  induction nodes generalizing hi with
  | nil => simp [within, between]
  | cons node rest ih =>
      obtain ⟨hnode, hrest⟩ := inOrder_cons.mp h
      have hstart := hnode.start_le
      have hstop := hnode.stop_le_start
      have hbehind := ih (by omega) hrest
      rw [slice_split hhi hstart (Nat.le_trans hrest.le hstop),
        slice_split (Nat.le_trans hstart hhi) hstop hrest.le]
      simp only [solid_append, List.length_append, hbehind, within, between, List.flatMap_cons]
      show _ + ((solid (node.span.slice source)).length + _) = _
      omega

/-- If only layout stands between the trees, they hold the rest of the stretch. -/
theorem solid_slice {hi lo : Nat} {nodes : List Script.Node} (hhi : hi ≤ source.length)
    (h : InOrder source hi lo nodes) (hbetween : solid (between source hi lo nodes) = []) :
    solid ((Span.mk hi lo).slice source) = solid (within source nodes) := by
  induction nodes generalizing hi with
  | nil => exact hbetween
  | cons node rest ih =>
      obtain ⟨hnode, hrest⟩ := inOrder_cons.mp h
      have hstart := hnode.start_le
      have hstop := hnode.stop_le_start
      rw [between, solid_append, List.append_eq_nil_iff] at hbetween
      rw [slice_split hhi hstart (Nat.le_trans hrest.le hstop),
        slice_split (Nat.le_trans hstart hhi) hstop hrest.le, solid_append, solid_append,
        hbetween.1, ih (by omega) hrest hbetween.2]
      exact (solid_append _ _).symm

/-- A mark that is always written as one character takes up just this character. -/
theorem slice_brace {mark : Mark} {span : Span} {c : Char} (h : span.Writes source mark)
    (hmark : ∀ entry ∈ Mark.spellings, entry.2 = mark → entry.1 = [c]) :
    span.slice source = [c] ∧ span.start = span.stop + 1 := by
  obtain ⟨spelling, hmem, hstart, hslice⟩ := h
  obtain rfl : spelling = [c] := hmark _ hmem rfl
  exact ⟨hslice, hstart⟩

/-! ### Functions -/

/-- What collapsing leaves out of the source of a function with the body: what stands in front of
the function, and in the braces all that is neither in a statement nor empty. -/
def outside (source : List Char) (tree body : Script.Node) : List Char :=
  (Span.mk source.length tree.span.start).slice source ++
    between source (body.span.start - 1) (body.span.stop + 1) (nonEmptyStatements body.statements)

/-- Without its layout, the collapsed function is its head and, in braces, its statements. -/
theorem solid_collapseFunction (source : List Char) (start : Nat) (body : Script.Node) :
    solid (collapseFunction source start body) =
      solid ((Span.mk start body.span.start).slice source) ++ ['{'] ++
        solid (within source (nonEmptyStatements body.statements)) ++ ['}'] := by
  -- Around each statement only a space and a semicolon are written, and neither is solid.
  have hstatements : ∀ nodes : List Script.Node,
      solid ((nodes.map (statementText source)).map fun text => ' ' :: text ++ [';']).flatten =
        solid (within source nodes) := by
    intro nodes
    induction nodes with
    | nil => rfl
    | cons node rest ih =>
        have hspace : solid [' '] = [] := rfl
        have hsemicolon : solid [';'] = [] := rfl
        have hcut : solid (statementText source node) = solid (node.span.slice source) :=
          solid_cut _
        rw [List.map_cons, List.map_cons, List.flatten_cons, solid_append, ih, solid_append,
          solid_cons, hspace, hsemicolon, hcut, List.nil_append, List.append_nil]
        exact (solid_append _ _).symm
  have hopening : solid " \x7b".toList = ['{'] := by decide
  have hclosing : solid " \x7d".toList = ['}'] := by decide
  have hempty : solid " \x7b\x7d".toList = ['{', '}'] := by decide
  unfold collapseFunction
  dsimp only
  split
  · rename_i hnone
    have hnone : nonEmptyStatements body.statements = [] := by simpa using hnone
    rw [solid_append, solid_collapseHead, hempty, hnone]
    simp [within]
  · rw [solid_append, solid_append, solid_append, solid_collapseHead, hopening, hclosing,
      hstatements]

/-- The text of a function with a body in braces, without its layout. -/
theorem solid_source {tree body : Script.Node} (htree : wholeExpression? source = some tree)
    (hend : trailingBlanks source = 0) (hbody : blockBody? tree = some body) :
    InOrder source (body.span.start - 1) (body.span.stop + 1) body.parts ∧
      body.span.start - 1 ≤ source.length ∧
        solid source = solid ((Span.mk source.length tree.span.start).slice source) ++
          (solid ((Span.mk tree.span.start body.span.start).slice source) ++ (['{'] ++
            (solid ((Span.mk (body.span.start - 1) (body.span.stop + 1)).slice source) ++
              ['}']))) := by
  obtain ⟨hbraces, hstop⟩ := wholeExpression?_endsInBody htree body hbody
  have hfits := wholeExpression?_fits htree
  have hmem : body ∈ tree.parts := by
    unfold blockBody? at hbody
    split at hbody
    · exact List.mem_of_getLast? hbody
    · exact List.mem_of_getLast? hbody
    · cases hbody
  have hpart := (inOrder_cons.mp
    (hfits.self.parts.sublist (List.singleton_sublist.mpr hmem))).1
  have hzero : tree.span.stop = 0 := by
    obtain ⟨s, s', -, -, -, hstop⟩ := wholeExpression?_eq_some_iff.mp htree
    rw [hstop, hend]
  obtain ⟨hopening, hstart⟩ := slice_brace hbraces.opening (c := '{') (by decide)
  obtain ⟨hclosing, -⟩ := slice_brace hbraces.closing (c := '}') (by decide)
  have htreeStart := hfits.start_le
  have hbodyStart := hpart.start_le
  have hinside := hbraces.inside.le
  dsimp only at hstart
  have hbodyLe : body.span.start - 1 ≤ source.length := by omega
  refine ⟨hbraces.inside, hbodyLe, ?_⟩
  have hbodyZero : body.span.stop = 0 := by omega
  rw [hbodyZero] at hclosing hinside ⊢
  -- The source is cut in front of the function, of its body, behind the one brace and in front of
  -- the other.
  have hsplit : source = (Span.mk source.length tree.span.start).slice source ++
      ((Span.mk tree.span.start body.span.start).slice source ++
        ((Span.mk body.span.start (body.span.start - 1)).slice source ++
          ((Span.mk (body.span.start - 1) (0 + 1)).slice source ++
            (Span.mk (0 + 1) 0).slice source))) := by
    rw [← slice_split (by omega) hinside (by omega), ← slice_split (by omega) (by omega) (by omega),
      ← slice_split htreeStart hbodyStart (by omega), ← slice_split (Nat.le_refl _) htreeStart
        (by omega), slice_all]
  have hsolid := congrArg solid hsplit
  rw [hopening, hclosing] at hsolid
  simp only [solid_append] at hsolid
  exact hsolid

end Source

/-- The collapsed function has all of its source but layout if and only if what is left out is
nothing but layout. -/
theorem collapseFunction_keepsText_iff {source : List Char} {tree body : Script.Node}
    (htree : wholeExpression? source = some tree) (hend : trailingBlanks source = 0)
    (hbody : blockBody? tree = some body) :
    solid (collapseFunction source tree.span.start body) = solid source ↔
      solid (outside source tree body) = [] := by
  obtain ⟨hinside, hstart, hsource⟩ := solid_source htree hend hbody
  have hstatements : InOrder source (body.span.start - 1) (body.span.stop + 1)
      (nonEmptyStatements body.statements) :=
    hinside.sublist (List.filter_sublist.trans List.filter_sublist)
  rw [solid_collapseFunction, hsource, outside, solid_append, List.append_eq_nil_iff]
  constructor
  · -- Nothing is added, so it is the lengths that tell whether something is missing.
    intro heq
    have hlength := congrArg List.length heq
    have hinner := length_solid_slice hstart hstatements
    simp only [List.length_append, hinner] at hlength
    exact ⟨List.length_eq_zero_iff.mp (by omega), List.length_eq_zero_iff.mp (by omega)⟩
  · rintro ⟨hfront, hbetween⟩
    rw [hfront, solid_slice hstart hstatements hbetween]
    simp

/-- A function over several lines with a body in braces, which is all of a text but for blank space
around it. -/
structure Collapsible where
  source : List Char
  tree : Script.Node
  body : Script.Node

/-- The function that collapsing puts on one line. -/
def collapsible? (code : String) : Option Collapsible := do
  let source := trim code.toList
  if !source.contains '\n' then none
  let tree ← wholeExpression? source
  let body ← blockBody? tree
  some ⟨source, tree, body⟩

/-- A function that can be collapsed is, and any other text is only trimmed. -/
theorem collapse_eq (code : String) :
    (collapse code).toList = (collapsible? code).elim (trim code.toList) fun function =>
      collapseFunction function.source function.tree.span.start function.body := by
  unfold collapse collapsible?
  rw [String.toList_ofList]
  by_cases hlines : '\n' ∈ trim code.toList
  · cases htree : wholeExpression? (trim code.toList) with
    | none => simp [htree]
    | some tree => cases hbody : blockBody? tree <;> simp [htree, hbody, hlines]
  · simp [hlines]

/-- The collapsed text does not end in blank space. -/
theorem trimEnd_collapse (code : String) :
    trimEnd (collapse code).toList = (collapse code).toList := by
  rw [collapse_eq]
  cases hfunction : collapsible? code with
  | none => rw [Option.elim_none, trim, trimEnd_trimEnd]
  | some function =>
      obtain ⟨front, hfront⟩ : ∃ front,
          collapseFunction function.source function.tree.span.start function.body =
            front ++ ['}'] := by
        unfold collapseFunction
        dsimp only
        split
        · exact ⟨_, (List.append_assoc _ [' ', '{'] ['}']).symm⟩
        · exact ⟨_, (List.append_assoc _ [' '] ['}']).symm⟩
      rw [Option.elim_some, hfront]
      exact trimEnd_append_of_ne_nil front (List.cons_ne_nil _ _)

/-- What can be collapsed is the trimmed text, read as one expression that has a body in braces. -/
theorem collapsible_eq_some {code : String} {function : Collapsible}
    (h : collapsible? code = some function) :
    function.source = trim code.toList ∧ wholeExpression? function.source = some function.tree ∧
      blockBody? function.tree = some function.body := by
  unfold collapsible? at h
  by_cases hlines : '\n' ∈ trim code.toList
  · obtain ⟨tree, htree, h⟩ := Option.bind_eq_some_iff.mp (by simpa [hlines] using h)
    obtain ⟨body, hbody, h⟩ := Option.bind_eq_some_iff.mp h
    cases h
    exact ⟨rfl, htree, hbody⟩
  · simp [hlines] at h

/-- What collapsing leaves out of a text. -/
def leftOut (code : String) : List Char :=
  (collapsible? code).elim [] fun function => outside function.source function.tree function.body

/-- Collapsing keeps all that is written beside blank space and semicolons if and only if nothing
else stands in front of the function and, in its braces, beside its statements. -/
theorem collapse_keepsText_iff (code : String) :
    solid (collapse code).toList = solid code.toList ↔ solid (leftOut code) = [] := by
  rw [collapse_eq, leftOut, ← solid_trim code.toList]
  cases hfunction : collapsible? code with
  | none => simp
  | some function =>
      obtain ⟨hsource, htree, hbody⟩ := collapsible_eq_some hfunction
      have hend : trailingBlanks function.source = 0 := by
        rw [hsource, trailingBlanks, trim, trimEnd_trimEnd, Nat.sub_self]
      rw [← hsource]
      exact collapseFunction_keepsText_iff htree hend hbody

example : solid (leftOut "() => \x7b\n  \x22x\x22\n  f() // y\n\x7d") = "\x22x\x22//y".toList := by
  decide +kernel

end MiniApp.Handler

namespace MiniApp.Script.Node

/-! ### What is read again -/

mutual

/-- The tree without its places and without the empty statements in the bodies of functions. -/
def outline : Node → Node
  | mk kind _ parts => mk kind ⟨0, 0⟩ (outlines (kind == .body) parts)

/-- The trees without their places and, if `dropsEmpty`, without the empty statements. -/
def outlines (dropsEmpty : Bool) : List Node → List Node
  | [] => []
  | node :: rest =>
    if dropsEmpty && node.kind == .empty then outlines dropsEmpty rest
    else node.outline :: outlines dropsEmpty rest

end

/-- An outline is of the same kind as its tree. -/
@[simp] theorem kind_outline (node : Node) : node.outline.kind = node.kind := by
  cases node
  rfl

/-- Parentheses are taken off an outline as they are off its tree. -/
theorem withoutParens_outline (node : Node) :
    node.outline.withoutParens = node.withoutParens.outline := by
  fun_induction withoutParens node with
  | case1 span inner ih => simpa [outline, outlines, withoutParens] using ih
  | case2 node hparens =>
      obtain ⟨kind, span, parts⟩ := node
      have hkept : ∀ place inner,
          (mk kind span parts).outline ≠ mk .parenthesized place [inner] := by
        intro place inner heq
        simp only [outline, mk.injEq] at heq
        obtain ⟨rfl, -, hparts⟩ := heq
        -- No part is dropped outside of bodies, so there is one in the tree as well.
        match parts, hparts with
        | [], hparts => exact nomatch hparts
        | [part], _ => exact hparens span part rfl
        | first :: second :: rest, hparts =>
            simp [outlines] at hparts
      exact withoutParens_eq_self hkept

end MiniApp.Script.Node

namespace MiniApp.Handler

open MiniApp.Text MiniApp.Script

/-- The text is an expression of which collapsing changes nothing but the layout: what it makes of
the text is read as the same tree. -/
def KeepsTree (code : String) : Prop :=
  ∀ tree, wholeExpression? code.toList = some tree →
    ∃ tree', wholeExpression? (collapse code).toList = some tree' ∧ tree'.outline = tree.outline

/-- A text that is on one line, or is no function with a body in braces, stays as it is. -/
theorem keepsTree_of_uncollapsed {code : String} (htrimmed : IsTrimmed code.toList)
    (hnone : collapsible? code = none) : KeepsTree code := by
  intro tree htree
  have hsame : (collapse code).toList = code.toList := by
    rw [collapse_eq, hnone, Option.elim_none, htrimmed.trim_eq]
  refine ⟨tree, ?_, rfl⟩
  rw [hsame]
  exact htree

end MiniApp.Handler
