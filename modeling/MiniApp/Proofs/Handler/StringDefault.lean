import MiniApp.Proofs.Handler.Collapsing
import MiniApp.Proofs.Handler.Squeezing

/-!
# A default string in the head of a function

Blank space between the tokens of a head is layout, blank space in a string of it is not. Collapsing
makes no difference between the two, and the function `(a = "…") => {}` over two lines shows it.

* `collapse_quoted`: what stands in quotation marks in any head is squeezed like the rest of it.
* `keepsTree_withDefaultString_iff`: this function is kept if and only if the blank space in its
  default string is single spaces and `function(` does not stand in the string.
* `doubled_space_lost`: so collapsing does not change the layout alone.

How other texts fare cannot be said of their head and their statements one by one. A line comment
that is left open in one statement hides the start of another, and what stands behind it on the next
line may still be read as the statements that were hidden; and where a statement starts with a call
of `async`, its arguments may be read as parameters that end in the next statement.
-/

set_option autoImplicit false

namespace MiniApp.Script.Node

/-! ### Strings -/

mutual

/-- The strings in the tree, as they are written. -/
def strings : Node → List String
  | mk (.string text) _ _ => [text]
  | mk _ _ parts => stringsIn parts

/-- The strings in the trees, as they are written. -/
def stringsIn : List Node → List String
  | [] => []
  | node :: rest => node.strings ++ stringsIn rest

end

end MiniApp.Script.Node

namespace MiniApp.Handler

open MiniApp.Text MiniApp.Script

/-! ### Strings in a head -/

/-- The head of the function that collapsing puts on one line. -/
def headOf? (code : String) : Option (List Char) :=
  (collapsible? code).map fun function =>
    (Span.mk function.tree.span.start function.body.span.start).slice function.source

/-- What stands in quotation marks in the head stands squeezed in the collapsed text. -/
theorem collapse_quoted {code : String} {quote : Char}
    (hquote : quote ∈ ['\x22', '\x27', '\x60']) {front content behind : List Char}
    (hhead : headOf? code = some (front ++ quote :: (content ++ quote :: behind))) :
    ∃ rest, (collapse code).toList =
      squeeze (trimStart front) ++ quote :: (squeeze content ++ quote :: rest) := by
  obtain ⟨function, hfunction, hhead⟩ := Option.map_eq_some_iff.mp hhead
  rw [collapse_eq, hfunction, Option.elim_some, collapseFunction, hhead,
    collapseHead_quoted hquote]
  split
  · exact ⟨_, by simp only [List.append_assoc, List.cons_append]; rfl⟩
  · exact ⟨_, by simp only [List.append_assoc, List.cons_append]; rfl⟩

/-! ### A function with a default string -/

/-- A string with the content. -/
def quoted (content : List Char) : List Char :=
  '\x22' :: (content ++ ['\x22'])

/-- A function with the string as the default value of its parameter, up to its body. -/
def headWith (content : List Char) : List Char :=
  ['(', 'a', ' ', '=', ' '] ++ quoted content ++ [')', ' ', '=', '>']

/-- Collapsing the head squeezes the string in it, and changes nothing else. -/
theorem collapseHead_headWith (content : List Char) :
    collapseHead (headWith content ++ [' ']) = headWith (squeeze content) := by
  have hsplit : headWith content ++ [' '] =
      ['(', 'a', ' ', '=', ' '] ++ '\x22' :: (content ++ '\x22' :: [')', ' ', '=', '>', ' ']) := by
    simp [headWith, quoted]
  have hfront : squeeze (trimStart ['(', 'a', ' ', '=', ' ']) = ['(', 'a', ' ', '=', ' '] := rfl
  have hbehind : squeeze (trimEnd [')', ' ', '=', '>', ' ']) = [')', ' ', '=', '>'] := rfl
  rw [hsplit, collapseHead_quoted List.mem_cons_self, hfront, hbehind]
  simp [headWith, quoted]

/-! ### Reading it -/

/-- What may stand in a string as it is. -/
def IsPlain (content : List Char) : Prop :=
  ∀ c ∈ content, c ≠ '\x22' ∧ c ≠ '\n' ∧ c ≠ '\r' ∧ c ≠ '\\'

/-- A string without marks, line ends and escapes inside ends at the next quotation mark. -/
theorem afterString_quoted {content : List Char} (tail : List Char) (h : IsPlain content) :
    afterString '\x22' 0 (content ++ '\x22' :: tail) = some tail := by
  induction content with
  | nil => rfl
  | cons c rest ih =>
      obtain ⟨⟨hquote, hfeed, hreturn, hescape⟩, hrest⟩ := List.forall_mem_cons.mp h
      rw [List.cons_append]
      unfold afterString
      simp [hquote, hfeed, hreturn, hescape, ih hrest]

/-- Such a string is scanned as one token, with its marks. -/
theorem scan_quoted {content : List Char} (tail : List Char) (h : IsPlain content) :
    scan (' ' :: (quoted content ++ tail)) =
      some (⟨.string (String.ofList (quoted content)), (quoted content ++ tail).length,
        tail.length, false⟩, tail) := by
  have hquoted : quoted content ++ tail = '\x22' :: (content ++ '\x22' :: tail) := by
    simp [quoted]
  have hskip : skipTrivia (' ' :: (quoted content ++ tail)) =
      some (quoted content ++ tail, false) := by
    rw [hquoted]
    rfl
  have hbefore : before (quoted content ++ tail) tail = String.ofList (quoted content) := by
    simp [before]
  have hshape : readShape (quoted content ++ tail) =
      some (.string (String.ofList (quoted content)), tail) := by
    rw [← hbefore, hquoted]
    have hstring := afterString_quoted tail h
    show (afterString '\x22' 0 (content ++ '\x22' :: tail)).bind _ = _
    rw [hstring]
    rfl
  simp [scan, hskip, hshape]

/-- What stands behind the string: the arrow, and an empty body over one or two lines. -/
def behindString (lines : Bool) : List Char :=
  [')', ' ', '=', '>', ' ', '{'] ++ if lines then ['\n', '}'] else ['}']

/-- At a token of the head, in a module. -/
def atHead (shape : Token.Shape) (start stop : Nat) (rest : List Char) (lastStop : Nat) : State :=
  ⟨⟨shape, start, stop, false⟩, rest, lastStop, moduleSetting⟩

/-- At the parenthesis in front of the parameter; the text starts with the string. -/
def atOpening (text : List Char) : State :=
  atHead (.mark .parenL) (text.length + 5) (text.length + 4) ('a' :: ' ' :: '=' :: ' ' :: text)
    (text.length + 5)

/-- At the name of the parameter. -/
def atName (text : List Char) : State :=
  atHead (.word "a" false) (text.length + 4) (text.length + 3) (' ' :: '=' :: ' ' :: text)
    (text.length + 4)

/-- At the parenthesis behind the string. -/
def atClosing (lines : Bool) : State :=
  atHead (.mark .parenR) (behindString lines).length ((behindString lines).length - 1)
    (behindString lines).tail (behindString lines).length

/-- At the arrow behind the parameters. -/
def behindParameters (lines : Bool) : State :=
  atHead (.mark .arrow) ((behindString lines).length - 2) ((behindString lines).length - 4)
    ((behindString lines).drop 4) ((behindString lines).length - 1)

/-- The parameter with its default value, which is written at the start of the text. -/
def defaultedParameter (literal : String) (text : List Char) (lines : Bool) : Script.Node :=
  .mk .withDefault ⟨text.length + 4, (behindString lines).length⟩
    [.mk (.binding "a") ⟨text.length + 4, text.length + 3⟩ [],
      .mk (.string literal) ⟨text.length, (behindString lines).length⟩ []]

/-- The parameters in their parentheses. -/
def defaultedParameters (literal : String) (text : List Char) (lines : Bool) : Script.Node :=
  .mk .parameters ⟨text.length + 5, (behindString lines).length - 1⟩
    [defaultedParameter literal text lines]

/-- The function with the parameter and an empty body. -/
def defaultedFunction (literal : String) (text : List Char) (lines : Bool) : Script.Node :=
  .mk (.arrow false false) ⟨text.length + 5, 0⟩
    [defaultedParameters literal text lines, .mk .body ⟨(behindString lines).length - 5, 0⟩ []]

section Reading

variable {literal : String} {text : List Char} {lines : Bool}
  (hscan : scan (' ' :: text) = some (⟨.string literal, text.length, (behindString lines).length,
    false⟩, behindString lines))

include hscan

/-- The parameter is read with the string as its default value. -/
theorem bindingElement_string (depth : Nat) :
    Reader.bindingElement (Reader.upTo (depth + 1)) (atName text) =
      some (defaultedParameter literal text lines, atClosing lines) := by
  have hadvance : Reader.advance (atHead (.mark (.assign .plain)) (text.length + 2)
      (text.length + 1) (' ' :: text) (text.length + 3)) =
        some ((), atHead (.string literal) text.length (behindString lines).length
          (behindString lines) (text.length + 1)) := by
    show (scan (' ' :: text)).bind _ = _
    rw [hscan]
    rfl
  -- All that comes before the string is read without looking at it.
  show ((Reader.advance (atHead (.mark (.assign .plain)) (text.length + 2) (text.length + 1)
    (' ' :: text) (text.length + 3))).bind _).bind _ = _
  rw [hadvance]
  cases lines <;> rfl

/-- The parameters are read up to the parenthesis behind the string. -/
theorem parameters_string (depth : Nat) :
    Reader.parameters (Reader.upTo (depth + 1)) (atOpening text) =
      some (defaultedParameters literal text lines, behindParameters lines) := by
  have helement := bindingElement_string hscan depth
  show (((((Reader.bindingElement (Reader.upTo (depth + 1)) (atName text)).bind _).bind _).bind
    _).bind _).bind _ = _
  rw [helement]
  cases lines <;> rfl

/-- So is the head of the function, up to the arrow. -/
theorem arrowHead_string (depth : Nat) :
    Reader.arrowHead (Reader.upTo (depth + 1)) (atOpening text) =
      some (⟨text.length + 5, false, defaultedParameters literal text lines⟩,
        behindParameters lines) := by
  have hparameters := parameters_string hscan depth
  show (Reader.within _ (Reader.parameters (Reader.upTo (depth + 1))) (atOpening text)).bind _ = _
  rw [Reader.within_eq]
  show ((Reader.parameters (Reader.upTo (depth + 1)) (atOpening text)).map _).bind _ = _
  rw [hparameters]
  cases lines <;> rfl

/-- The function is read as what it is. -/
theorem wholeExpression?_string
    (hend : trailingBlanks ('(' :: 'a' :: ' ' :: '=' :: ' ' :: text) = 0) :
    wholeExpression? ('(' :: 'a' :: ' ' :: '=' :: ' ' :: text) =
      some (defaultedFunction literal text lines) := by
  have hhead := arrowHead_string hscan (2 * (text.length + 5) + 7)
  have hread : ∃ s', Reader.expression (Reader.upTo (sufficientDepth (text.length + 5)))
      (atOpening text) = some (defaultedFunction literal text lines, s') := by
    refine ⟨⟨⟨.finish, 0, 0, false⟩, [], 0, moduleSetting⟩, ?_⟩
    show (Reader.orElse (Reader.arrowHead (Reader.upTo (2 * (text.length + 5) + 8)))
      (Reader.arrowFrom _) (Reader.choiceOrAssignment _) (atOpening text)).bind _ = _
    rw [Reader.orElse, hhead]
    cases lines <;> rfl
  obtain ⟨s', hread⟩ := hread
  refine wholeExpression?_eq_some_iff.mpr ⟨_, s', rfl, hread, ?_, hend.symm⟩
  simp [defaultedFunction, defaultedParameters, defaultedParameter, Node.hasCoverDefault,
    Node.anyHasCoverDefault]

end Reading

/-! ### Collapsing it -/

/-- A function whose parameter has the string as its default value, on one line or two. -/
def withDefaultString (content : List Char) (lines : Bool) : List Char :=
  headWith content ++ (behindString lines).drop 4

/-- What a function with the string is read as, but for the places. -/
def outlineOfString (content : List Char) : Script.Node :=
  .mk (.arrow false false) ⟨0, 0⟩
    [.mk .parameters ⟨0, 0⟩
      [.mk .withDefault ⟨0, 0⟩
        [.mk (.binding "a") ⟨0, 0⟩ [], .mk (.string (String.ofList (quoted content))) ⟨0, 0⟩ []]],
      .mk .body ⟨0, 0⟩ []]

/-- The function has no blank space around it. -/
theorem trim_withDefaultString (content : List Char) (lines : Bool) :
    trim (withDefaultString content lines) = withDefaultString content lines := by
  have hlast : (withDefaultString content lines).getLast? = some '}' := by
    cases lines <;> simp [withDefaultString, behindString]
  refine IsTrimmed.trim_eq ⟨fun c hc => ?_, fun c hc => ?_⟩
  · obtain rfl : '(' = c := Option.some.inj hc
    decide
  · obtain rfl : '}' = c := Option.some.inj (hlast.symm.trans hc)
    decide

/-- The whole text is read as the function, on one line or two. -/
theorem wholeExpression?_withDefaultString {content : List Char} (h : IsPlain content)
    (lines : Bool) :
    wholeExpression? (withDefaultString content lines) =
      some (defaultedFunction (String.ofList (quoted content))
        (quoted content ++ behindString lines) lines) := by
  have htext : withDefaultString content lines =
      '(' :: 'a' :: ' ' :: '=' :: ' ' :: (quoted content ++ behindString lines) := by
    simp [withDefaultString, headWith, behindString]
  have hend : trailingBlanks (withDefaultString content lines) = 0 := by
    rw [← trim_withDefaultString, trailingBlanks, trim, trimEnd_trimEnd, Nat.sub_self]
  rw [htext] at hend ⊢
  exact wholeExpression?_string (scan_quoted (behindString lines) h) hend

/-- From two lines the function is collapsed to the one on one line whose string is squeezed. -/
theorem collapse_withDefaultString {content : List Char} (h : IsPlain content) :
    collapse (String.ofList (withDefaultString content true)) =
      String.ofList (withDefaultString (squeeze content) false) := by
  have hlines : (withDefaultString content true).contains '\n' = true := by
    simp [withDefaultString, behindString]
  -- The braces and the line end between them are the last three characters.
  have hslice : (Span.mk (withDefaultString content true).length 3).slice
      (withDefaultString content true) = headWith content ++ [' '] := by
    have hsplit : withDefaultString content true =
        (headWith content ++ [' ']) ++ ['{', '\n', '}'] := by
      simp [withDefaultString, behindString]
    have hlength : (withDefaultString content true).length - 3 =
        (headWith content ++ [' ']).length := by
      rw [hsplit, List.length_append]
      rfl
    rw [Span.slice, hlength, Nat.sub_self, List.drop_zero, hsplit, List.take_left]
  have hstart : (quoted content ++ behindString true).length + 5 =
      (withDefaultString content true).length := by
    simp [withDefaultString, headWith, behindString]
  have hcollapse : collapseFunction (withDefaultString content true)
      (withDefaultString content true).length (.mk .body ⟨3, 0⟩ []) =
        withDefaultString (squeeze content) false := by
    rw [collapseFunction, Node.span, hslice, collapseHead_headWith]
    rfl
  rw [← hstart] at hcollapse
  unfold collapse
  rw [String.toList_ofList, trim_withDefaultString]
  simp only [wholeExpression?_withDefaultString h, hlines]
  exact congrArg String.ofList hcollapse

/-- A string that needs no escapes needs none when it has been squeezed. -/
theorem IsPlain.squeeze {content : List Char} (h : IsPlain content) :
    IsPlain (Handler.squeeze content) := by
  have hword : IsPlain "function (".toList := by
    simp [IsPlain]
  intro c hc
  rcases mem_replaceFrom hc with hc | hc
  · exact hword c hc
  · rcases mem_squeezed hc with rfl | ⟨hc, -⟩
    · decide
    · exact h c hc

/-- The function is read as what it is. -/
theorem outline_withDefaultString {content : List Char} (h : IsPlain content) (lines : Bool) :
    ∃ tree, wholeExpression? (withDefaultString content lines) = some tree ∧
      tree.outline = outlineOfString content :=
  ⟨_, wholeExpression?_withDefaultString h lines, rfl⟩

/-- A function is kept if and only if the blank space in its default string is single spaces and
`function(` does not stand in the string. -/
theorem keepsTree_withDefaultString_iff {content : List Char} (h : IsPlain content) :
    KeepsTree (String.ofList (withDefaultString content true)) ↔
      IsSingleSpaced content ∧ ¬ "function(".toList <:+: content := by
  obtain ⟨tree, htree, houtline⟩ := outline_withDefaultString h true
  obtain ⟨tree', htree', houtline'⟩ := outline_withDefaultString h.squeeze false
  unfold KeepsTree
  rw [collapse_withDefaultString h, ← squeeze_eq_self_iff]
  simp only [String.toList_ofList, htree, htree', Option.some.injEq, exists_eq_left',
    forall_eq', houtline, houtline']
  constructor
  · intro hsame
    -- The default is the only string in the tree.
    have hstrings := congrArg Node.strings hsame
    have hquoted : String.ofList (quoted (squeeze content)) = String.ofList (quoted content) :=
      List.singleton_inj.mp hstrings
    simpa [quoted] using String.ofList_injective hquoted
  · intro hsame
    rw [hsame]

/-- A string in the head of a function is squeezed as if it were layout. -/
theorem doubled_space_lost :
    ¬ ∀ (code : String) (tree : Script.Node), wholeExpression? code.toList = some tree →
      isFunction tree → KeepsTree code := by
  intro hkeeps
  have hplain : IsPlain "x  y".toList := by
    simp [IsPlain]
  have hcode : "(a = \x22x  y\x22) => \x7b\n\x7d" =
      String.ofList (withDefaultString "x  y".toList true) := by
    decide
  have hread := wholeExpression?_withDefaultString hplain true
  rw [← String.toList_ofList (l := withDefaultString _ _), ← hcode] at hread
  have hkept := hkeeps _ _ hread rfl
  rw [hcode] at hkept
  obtain ⟨hspaced, -⟩ := (keepsTree_withDefaultString_iff hplain).mp hkept
  -- Two blanks stand together in the string.
  have hapart := hspaced.apart
  simp [isBlank] at hapart

end MiniApp.Handler
