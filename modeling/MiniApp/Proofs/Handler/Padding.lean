import MiniApp.Proofs.Handler.Trimming
import MiniApp.Proofs.Script.Grammar.Inside
import MiniApp.Proofs.Script.Padding

/-!
# White space and comments around a handler

Padding in front of a handler never matters (`form_padding`). Behind it only blank space may stand,
since that is what trimming cuts off: an expression ends before other white space
(`wholeExpression?_gap`), and the text is no longer one expression as a whole. In general
`form_padded_iff` says when a padded expression keeps its form.
-/

set_option autoImplicit false

namespace MiniApp

open MiniApp.Text MiniApp.Script

namespace Handler

/-- What a handler is, apart from its text. -/
inductive Form
  | reference | functionLiteral | inlineStatement | statements
  deriving DecidableEq, Repr

/-- The form of a handler. -/
def form : Handler → Form
  | .reference _ => .reference
  | .functionLiteral _ => .functionLiteral
  | .inlineStatement _ => .inlineStatement
  | .statements _ => .statements

/-- The form of a handler that is one expression. -/
def formOf (expression : Script.Node) : Form :=
  if isFunction expression.withoutParens then .functionLiteral
  else if isReference expression.withoutParens then .reference
  else .inlineStatement

/-- The statements of a text that can be read as a module, or else none. -/
def statementsOf (source : List Char) : List Script.Node :=
  ((program? source).map Node.statements).getD []

/-- The form is that of the expression if there is one. If there is none, it depends on whether
there are statements. -/
theorem form_ofSource (source : List Char) :
    (ofSource source).form = match wholeExpression? source with
      | some expression => formOf expression
      | none => if statementsOf source = [] then .inlineStatement else .statements := by
  unfold ofSource statementsOf
  cases wholeExpression? source with
  | some expression =>
      unfold formOf
      dsimp only
      split
      · rfl
      · split <;> rfl
  | none =>
      cases program? source with
      | none => rfl
      | some program =>
          cases hstatements : program.statements <;> simp [hstatements, form]

/-- A single expression never has the form of several statements. -/
theorem formOf_ne_statements (expression : Script.Node) : formOf expression ≠ .statements := by
  unfold formOf
  split
  · exact nofun
  · split <;> exact nofun

/-- A text has the form of an expression if it is one of this form, or if it is an inline statement
that is no expression. -/
theorem form_ofSource_eq_iff (source : List Char) (expression : Script.Node) :
    (ofSource source).form = formOf expression ↔
      (∃ longer, wholeExpression? source = some longer ∧ formOf longer = formOf expression) ∨
        wholeExpression? source = none ∧ formOf expression = .inlineStatement ∧
          statementsOf source = [] := by
  have hnever := formOf_ne_statements expression
  rw [form_ofSource]
  cases wholeExpression? source with
  | some longer => simp
  | none =>
      by_cases hempty : statementsOf source = []
      · simp [hempty, eq_comm]
      · simp [hempty, hnever.symm]

/-! ### Padded handlers -/

variable {content lead trail : List Char}

/-- The blanks at the end of a text are the same with something in front of it. -/
theorem trailingBlanks_append {text : List Char} (lead : List Char)
    (hsolid : trimEnd text ≠ []) :
    trailingBlanks (lead ++ text) = trailingBlanks text := by
  rw [trailingBlanks, trailingBlanks, trimEnd_append_of_ne_nil lead hsolid, List.length_append,
    List.length_append]
  omega

/-- Padding in front of a text makes no difference to the expression, whose places count from the
end. -/
theorem wholeExpression?_padding {text : List Char} (hlead : IsPadding lead)
    (hsolid : trimEnd text ≠ []) :
    wholeExpression? (lead ++ text) = wholeExpression? text := by
  rw [wholeExpression?, wholeExpression?, expression?_padding hlead,
    trailingBlanks_append lead hsolid]

/-- Of padding in front of a text only padding is left when the text is trimmed. -/
theorem trim_padded (hlead : IsPadding lead) (hsolid : trim content ≠ []) :
    ∃ left, IsPadding left ∧ trim (lead ++ content) = left ++ trim content := by
  -- The blank space at the start of the text belongs to the padding.
  have hblanks : IsPadding (content.takeWhile isBlank) :=
    isPadding_of_isBlank fun c hc => List.all_eq_true.mp List.all_takeWhile c hc
  obtain ⟨left, hleft, htrim⟩ :=
    trimStart_padding (hlead.append hblanks) (trimStart_trimStart content)
  have hsplit : content.takeWhile isBlank ++ trimStart content = content :=
    List.takeWhile_append_dropWhile
  rw [List.append_assoc, hsplit] at htrim
  exact ⟨left, hleft, by rw [trim, htrim, trimEnd_append_of_ne_nil left hsolid, trim]⟩

/-- Trimming a text that does not end in blank space leaves the expression as it is, with its
places. -/
theorem wholeExpression?_trim {text : List Char} (hend : trimEnd text = text) :
    wholeExpression? (trim text) = wholeExpression? text := by
  have hblanks : ∀ c ∈ text.takeWhile isBlank, isBlank c := fun c hc =>
    List.all_eq_true.mp List.all_takeWhile c hc
  have hsplit : text.takeWhile isBlank ++ trimStart text = text :=
    List.takeWhile_append_dropWhile
  by_cases hsolid : trimEnd (trimStart text) = []
  · -- The whole text is blank, and so it is empty.
    have hempty : trimEnd text = [] := by
      rw [← hsplit, trimEnd_append_blank _ (isBlank_of_trimEnd hsolid)]
      exact trimEnd_append_blank [] hblanks
    rw [← hend, hempty]
    rfl
  · have hstart : trim text = trimStart text := by
      have hkept := hend
      rw [← hsplit, trimEnd_append_of_ne_nil _ hsolid, hsplit] at hkept
      exact List.append_cancel_left (hkept.trans hsplit.symm)
    have hpadded := wholeExpression?_padding (isPadding_of_isBlank hblanks) hsolid
    rw [hsplit] at hpadded
    rw [hstart, hpadded]

/-- Padding in front of a text and blank space behind it do not change the expression that the text
consists of. -/
theorem wholeExpression?_trim_padded (hlead : IsPadding lead) (hsolid : trim content ≠ []) :
    wholeExpression? (trim (lead ++ content)) = wholeExpression? (trim content) := by
  obtain ⟨left, hleft, htrim⟩ := trim_padded hlead hsolid
  have hend : trimEnd (trim content) ≠ [] := by
    rw [trim, trimEnd_trimEnd]
    exact hsolid
  rw [htrim, wholeExpression?_padding hleft hend]

/-- A text that is an expression is not blank. -/
theorem trim_ne_nil {expression : Script.Node}
    (hwhole : wholeExpression? (trim content) = some expression) : trim content ≠ [] := by
  intro hempty
  have hnone : (wholeExpression? []).isNone := by decide +kernel
  rw [hempty] at hwhole
  simp [hwhole] at hnone

/-- A text with an expression at its start, with anything behind it, has the same form with padding
in front of it. -/
theorem form_padding {expression : Script.Node}
    (hwhole : wholeExpression? (trim content) = some expression) (hlead : IsPadding lead)
    (trail : List Char) : (ofSource (trim (lead ++ (content ++ trail)))).form =
      (ofSource (trim (content ++ trail))).form := by
  obtain ⟨tail, htail⟩ := trim_append (trim_ne_nil hwhole) trail
  have hsolid : trim (content ++ trail) ≠ [] := by
    rw [htail]
    exact List.append_ne_nil_of_left_ne_nil (trim_ne_nil hwhole) tail
  have hhash : ¬ ['#', '!'] <+: trim (content ++ trail) := by
    obtain ⟨read, hread, -⟩ := Option.bind_eq_some_iff.mp hwhole
    rw [htail]
    exact not_hashbang_append hread tail
  obtain ⟨left, hleft, htrim⟩ := trim_padded hlead hsolid
  have hstatements : statementsOf (trim (lead ++ (content ++ trail))) =
      statementsOf (trim (content ++ trail)) := by
    rw [htrim, statementsOf, program?_padding hleft hhash, statementsOf]
  rw [form_ofSource, form_ofSource, wholeExpression?_trim_padded hlead hsolid, hstatements]

/-- A text that is one expression is none with white space behind it that is not trimmed. -/
theorem wholeExpression?_gap (hsolid : trim content ≠ []) (hgap : ∀ c ∈ trail, IsGap c)
    (hkept : ¬ ∀ c ∈ trail, isBlank c) : wholeExpression? (trim (content ++ trail)) = none := by
  -- Some of the white space stays behind when the text is trimmed, so that the text ends in it.
  have hne : trimEnd trail ≠ [] := fun h => hkept (isBlank_of_trimEnd h)
  have htrim : trim (content ++ trail) = trimStart content ++ trimEnd trail := by
    rw [trim, trimStart_append_of_ne_nil hsolid, trimEnd_append_of_ne_nil _ hne]
  obtain ⟨tail, htrail, -⟩ := dropEndWhile_split isBlank trail
  have hend : EndsInGap (trim (content ++ trail)) := by
    rw [htrim]
    refine endsInGap_append _ hne fun c hc => hgap c ?_
    rw [htrail]
    exact List.mem_append_left _ hc
  have hzero : trailingBlanks (trim (content ++ trail)) = 0 := by
    rw [trailingBlanks, trim, trimEnd_trimEnd, Nat.sub_self]
  unfold wholeExpression?
  cases htree : expression? (trim (content ++ trail)) with
  | none => rfl
  | some tree =>
      have hstop := expression?_inside hend htree
      rw [hzero]
      exact if_neg (Nat.ne_of_gt hstop)

/-- Take a handler that is one expression and put padding in front of it and anything behind it.
If only blank space is put behind it, the handler is read as the same expression and keeps its form.
White space of another kind makes it a text that is no expression, so that it keeps its form just if
it is one inline statement still. In general it keeps its form if nothing but blank space is put
behind it, if the whole is again one expression of this form, or if it is one inline statement, and
still is since the whole is no expression and has no statements. -/
theorem form_padded_iff {content : String} {expression : Script.Node} {lead trail : List Char}
    (hwhole : wholeExpression? (trim content.toList) = some expression) (hlead : IsPadding lead) :
    let padded := String.ofList (lead ++ (content.toList ++ trail))
    let source := trim (content.toList ++ trail)
    ((∀ c ∈ trail, isBlank c) → wholeExpression? (trim padded.toList) = some expression) ∧
      ((∀ c ∈ trail, IsGap c) → ((classify padded).form = (classify content).form ↔
        (∀ c ∈ trail, isBlank c) ∨
          formOf expression = .inlineStatement ∧ statementsOf source = [])) ∧
      ((classify padded).form = (classify content).form ↔
        (∀ c ∈ trail, isBlank c) ∨
          (∃ longer, wholeExpression? source = some longer ∧ formOf longer = formOf expression) ∨
          wholeExpression? source = none ∧ formOf expression = .inlineStatement ∧
            statementsOf source = []) := by
  intro padded source
  have hsolid := trim_ne_nil hwhole
  have hblank : (∀ c ∈ trail, isBlank c) → wholeExpression? source = some expression := by
    intro hblank
    rw [← hwhole, ← trim_append_blank hsolid hblank]
  have hcontent : (classify content).form = formOf expression := by
    rw [classify, form_ofSource, hwhole]
  have hkept : (classify padded).form = (classify content).form ↔
      (∀ c ∈ trail, isBlank c) ∨
        (∃ longer, wholeExpression? source = some longer ∧ formOf longer = formOf expression) ∨
        wholeExpression? source = none ∧ formOf expression = .inlineStatement ∧
          statementsOf source = [] := by
    rw [classify, String.toList_ofList, form_padding hwhole hlead, hcontent, form_ofSource_eq_iff]
    exact (or_iff_right_of_imp fun h => .inl ⟨expression, hblank h, rfl⟩).symm
  refine ⟨fun h => ?_, fun hgap => ?_, hkept⟩
  · rw [String.toList_ofList, wholeExpression?_trim_padded hlead, hblank h]
    rw [trim_append_blank hsolid h]
    exact hsolid
  · rw [hkept]
    by_cases hcut : ∀ c ∈ trail, isBlank c
    · exact iff_of_true (.inl hcut) (.inl hcut)
    · have hnone : wholeExpression? source = none := wholeExpression?_gap hsolid hgap hcut
      simp [hnone, hcut]

/-- A reference keeps its form with a comment on the line in front of it and a line separator behind
it. -/
theorem form_padded_reference :
    (classify "// c\n foo\u2028").form = (classify "foo").form ∧
      (classify "foo").form = .reference := by
  have hread : (wholeExpression? (trim "foo".toList)).isSome := by decide +kernel
  obtain ⟨expression, hwhole⟩ := Option.isSome_iff_exists.mp hread
  have hcomment : ∀ c ∈ [' ', 'c'], ¬ isLineTerminator c := by simp [isLineTerminator]
  have hlead : IsPadding "// c\n ".toList :=
    .lineComment hcomment (by decide) (.space (by decide) .nil)
  have hblank : ∀ c ∈ ['\u2028'], isBlank c := List.forall_mem_singleton.mpr (by decide)
  have hkept := (@form_padded_iff "foo" expression _ ['\u2028'] hwhole hlead).2.2.mpr (.inl hblank)
  exact ⟨hkept, by decide +kernel⟩

/-- A comment behind a reference makes it a statement, which does not call the function. -/
theorem comment_not_reference :
    ¬ ∀ content lead trail : List Char, (wholeExpression? (trim content)).isSome →
      IsPadding lead → IsPadding trail →
        (classify (String.ofList (lead ++ (content ++ trail)))).form =
          (classify (String.ofList content)).form := by
  intro hform
  have htrail : IsPadding " /* c */".toList :=
    .space (by decide) (@IsPadding.blockComment [' ', 'c', ' '] _ (by decide) .nil)
  have hsame := hform "foo".toList [] " /* c */".toList (by decide +kernel) .nil htrail
  exact absurd hsame (by decide +kernel)

/-- Nor is a reference with white space behind it that is not trimmed. -/
example : classify "foo\uFEFF" = .statements ["foo"] := by
  decide +kernel

/-- Behind this function a comment is none: with its quotation mark the parameters of an arrow
function can be read in which the function ends otherwise. -/
example :
    let content := "function () \x7b async(a = await / x + \x22/ + \x22 + 'y') \x7d"
    (classify content).form = .functionLiteral ∧
      (classify (content ++ " // \x22 ) => 1 \x7d")).form = .functionLiteral := by
  decide +kernel

end Handler

end MiniApp
