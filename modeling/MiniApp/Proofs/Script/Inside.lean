import MiniApp.Proofs.Script.Gap
import MiniApp.Proofs.Script.Grammar.Statement

/-!
# Readers that stay inside the text

The end of a text is a token too, and the readers of the grammar take a token only after they looked
at it. So what they take ends before a text that ends in white space does:

* `StaysInside` says so of a reader, `StaysFrom` of one that starts with a given token.
* `advance_inside`: a token that is not the end may be taken.
* `Spots`: a test that answers yes only where a token stands; after a yes the token may be taken.
-/

set_option autoImplicit false

namespace MiniApp.Script

/-- Neither what has been taken nor the current token goes up to the end of the source, unless this
token is the end. -/
structure State.IsInside (source : List Char) (s : State) : Prop where
  rest : s.rest <:+ source
  stop : s.token.stop = s.rest.length
  token : s.token.shape ≠ .finish → s.rest ≠ []
  last : 0 < s.lastStop

open State (IsInside)

namespace Reader

variable {α β : Type}

/-- In a text that ends in white space the reader takes nothing that goes up to the end. -/
class StaysInside (r : Reader α) : Prop where
  triple : ∀ source, EndsInGap source → Triple (IsInside source) r fun _ => IsInside source

/-- The reader does so if it starts with the given token. -/
class StaysFrom (first : Token) (r : Reader α) : Prop where
  triple : ∀ source, EndsInGap source →
    Triple (fun s => s.IsInside source ∧ s.token = first) r fun _ => IsInside source

section Rules

variable {r : Reader α} {next : α → Reader β} {first : Token} {a : α}

/-- A reader that stays inside does so from any token. -/
theorem StaysInside.toFrom (h : StaysInside r) : StaysFrom first r :=
  ⟨fun source hgap => (h.triple source hgap).weaken (fun _ hs => hs.1) fun _ _ hs => hs⟩

instance [h : StaysInside r] : StaysFrom first r :=
  h.toFrom

/-- A reader that stays where it is stays inside. -/
theorem Looks.staysInside (h : Looks r) : StaysInside r :=
  ⟨fun _ _ => h.triple⟩

/-- Whatever the current token is, it is known while it is looked at. -/
theorem StaysInside.of_from (h : ∀ first, StaysFrom first r) : StaysInside r :=
  ⟨fun source hgap s a s' hs heq => (h s.token).triple source hgap s a s' ⟨hs, rfl⟩ heq⟩

/-- A look keeps the current token. -/
theorem Looks.bind_staysFrom (h : Looks r) (hnext : ∀ a, StaysFrom first (next a)) :
    StaysFrom first (r >>= next) :=
  ⟨fun source hgap => h.bind_triple fun a => (hnext a).triple source hgap⟩

instance : StaysInside (pure a : Reader α) :=
  (looks_pure a).staysInside

instance : StaysInside (failure : Reader α) :=
  looks_failure.staysInside

instance : StaysInside (get : Reader State) :=
  looks_get.staysInside

instance : StaysInside token :=
  looks_token.staysInside

/-- Asking where the token starts moves nothing. -/
theorem looks_start : Looks start :=
  looks_get.bind fun _ => looks_pure _

instance : StaysInside start :=
  looks_start.staysInside

instance {condition : Bool} : StaysInside (require condition) :=
  (looks_require condition).staysInside

instance {test : Token → Bool} : StaysInside (isNext test) :=
  (looks_isNext test).staysInside

instance {mark : Mark} : StaysInside (isAt mark) :=
  (looks_isAt mark).staysInside

instance {name : String} : StaysInside (isAtWord name) :=
  (looks_isAtWord name).staysInside

instance : StaysInside atStatementEnd :=
  looks_atStatementEnd.staysInside

instance : StaysInside isAtPrivateName :=
  looks_isAtPrivateName.staysInside

instance {own : Nat} {kind : Kind} {parts : List Node} : StaysInside (node own kind parts) :=
  (looks_get.bind fun _ => looks_pure _ : Looks (node own kind parts)).staysInside

instance : StaysInside absent :=
  (looks_get.bind fun _ => looks_pure _ : Looks absent).staysInside

instance StaysInside.bind [h : StaysInside r] [hnext : ∀ a, StaysInside (next a)] :
    StaysInside (r >>= next) :=
  ⟨fun source hgap => (h.triple source hgap).bind fun a => (hnext a).triple source hgap⟩

/-- The rest of a reader may go by what has been read. -/
theorem StaysInside.seq [StaysInside r] (hnext : ∀ a, StaysInside (next a)) :
    StaysInside (r >>= next) :=
  inferInstance

/-- A choice stays inside if both of its branches do. -/
theorem StaysInside.ite (c : Prop) [Decidable c] {yes no : Reader α} (hyes : StaysInside yes)
    (hno : StaysInside no) : StaysInside (if c then yes else no) := by
  split
  · exact hyes
  · exact hno

instance {c : Prop} [Decidable c] {yes no : Reader α} [hyes : StaysInside yes]
    [hno : StaysInside no] : StaysInside (if c then yes else no) :=
  .ite c hyes hno

instance StaysInside.orElse {first : Reader α} {next : α → Reader β} {second : Reader β}
    [hfirst : StaysInside first] [hnext : ∀ a, StaysInside (next a)]
    [hsecond : StaysInside second] : StaysInside (orElse first next second) :=
  ⟨fun source hgap => Triple.orElse (hfirst.triple source hgap)
    (fun a => (hnext a).triple source hgap) (hsecond.triple source hgap)⟩

instance StaysInside.iterate {step : α → Reader (α ⊕ β)} [hstep : ∀ a, StaysInside (step a)] :
    StaysInside (iterate step a) := by
  refine ⟨fun source hgap => Triple.iterate (Q := fun _ => IsInside source) fun a => ?_⟩
  refine ((hstep a).triple source hgap).weaken (fun _ hs => hs) fun answer s hs => ?_
  cases answer <;> exact hs

/-- The setting makes no difference to where a reader stands. -/
theorem inside_setting {source : List Char} {s : State} (setting : Setting)
    (h : s.IsInside source) : State.IsInside source { s with setting } :=
  ⟨h.rest, h.stop, h.token, h.last⟩

instance StaysInside.within {change : Setting → Setting} [h : StaysInside r] :
    StaysInside (within change r) := by
  exact ⟨fun source hgap => (h.triple source hgap).within (fun _ setting => inside_setting setting)
    fun _ _ setting => inside_setting setting⟩

instance [StaysInside r] : StaysInside (withIn r) :=
  inferInstanceAs (StaysInside (within _ r))

instance [StaysInside r] : StaysInside (withoutIn r) :=
  inferInstanceAs (StaysInside (within _ r))

end Rules

/-! ### Taking tokens -/

/-- A token that is not the end of the text may be taken. -/
theorem advance_inside {source : List Char} (hgap : EndsInGap source) :
    Triple (fun s => s.IsInside source ∧ s.token.shape ≠ .finish) advance fun _ =>
      IsInside source := by
  rintro s ⟨⟩ s' ⟨hs, hshape⟩ heq
  obtain ⟨⟨token, rest⟩, hscan, hs'⟩ := Option.bind_eq_some_iff.mp heq
  obtain ⟨hstop, -, -, -, hsuffix⟩ := scan_spec hscan
  -- The new token stands in what is left, which is not empty and so still ends in the gap.
  have hne := hs.token hshape
  have hrest := hgap.of_suffix hs.rest hne
  cases hs'
  refine ⟨hsuffix.trans hs.rest, hstop, fun htoken hempty => ?_, ?_⟩
  · have hend : EndsInGap rest := scan_gap hscan htoken hrest
    rw [show rest = [] from hempty] at hend
    exact hend
  · show 0 < s.token.stop
    rw [hs.stop]
    exact List.length_pos_iff.mpr hne

/-- Taking a token that is not the end stays inside. -/
theorem advance_from {first : Token} (h : first.shape ≠ .finish) : StaysFrom first advance :=
  ⟨fun _ hgap => (advance_inside hgap).weaken (fun _ hs => ⟨hs.1, hs.2 ▸ h⟩) fun _ _ hs => hs⟩

/-- Behind a step that starts with the token, the next step may start with any. -/
theorem StaysFrom.bind {first : Token} {r : Reader α} {next : α → Reader β} (h : StaysFrom first r)
    (hnext : ∀ a, StaysInside (next a)) : StaysFrom first (r >>= next) :=
  ⟨fun source hgap => (h.triple source hgap).bind fun a => (hnext a).triple source hgap⟩

/-- A single token that is not the end is taken inside. -/
theorem leaf_from {first : Token} {kind : Kind} (h : first.shape ≠ .finish) :
    StaysFrom first (leaf kind) :=
  looks_token.bind_staysFrom fun _ => (advance_from h).bind fun _ => inferInstance

/-- The current token is known from where it is looked at. -/
theorem staysFrom_token {first : Token} {next : Token → Reader β}
    (h : StaysFrom first (next first)) : StaysFrom first (token >>= next) := by
  refine ⟨fun source hgap => Triple.token fun token => ?_⟩
  intro s a s' hs heq
  obtain ⟨⟨hs, hfirst⟩, htoken⟩ := hs
  obtain rfl : token = first := htoken.symm.trans hfirst
  exact h.triple source hgap s a s' ⟨hs, hfirst⟩ heq

/-- A reader that looks at its token stays inside if it does from each token. -/
theorem stays_token {next : Token → Reader β} (h : ∀ first, StaysFrom first (next first)) :
    StaysInside (token >>= next) :=
  .of_from fun first => staysFrom_token (h first)

/-- A mark is not the end of the text. -/
theorem shape_of_isMark {token : Token} {mark : Mark} (h : token.isMark mark) :
    token.shape ≠ .finish := by
  intro hfinish
  simp [Token.isMark, hfinish] at h

/-- Nor is a word. -/
theorem shape_of_isWord {token : Token} {name : String} (h : token.isWord name) :
    token.shape ≠ .finish := by
  intro hfinish
  simp [Token.isWord, hfinish] at h

/-- The reader stays where it is, and it answers yes only where a token stands. -/
structure Spots (r : Reader Bool) : Prop where
  looks : Looks r
  token : ∀ s s', r s = some (true, s') → s.token.shape ≠ .finish

/-- What follows on a yes may take the token. -/
theorem Spots.bind {first : Token} {r : Reader Bool} {next : Bool → Reader β} (h : Spots r)
    (hnext : ∀ here, (here = true → first.shape ≠ .finish) → StaysFrom first (next here)) :
    StaysFrom first (r >>= next) := by
  refine ⟨fun source hgap s b s' hs heq => ?_⟩
  obtain ⟨⟨here, mid⟩, hr, hmid⟩ := Option.bind_eq_some_iff.mp heq
  obtain rfl := h.looks s here mid hr
  have hhere : here = true → first.shape ≠ .finish := by
    rintro rfl
    exact hs.2 ▸ h.token _ _ hr
  exact (hnext here hhere).triple source hgap mid b s' hs hmid

/-- A test may go on with another one that only looks. -/
theorem Spots.andThen {r yes : Reader Bool} (h : Spots r) (hyes : Looks yes) :
    Spots (r >>= fun here => if here then yes else pure false) := by
  refine ⟨h.looks.bind fun _ => .ite hyes (looks_pure _), fun s s' heq => ?_⟩
  obtain ⟨⟨here, mid⟩, hr, hmid⟩ := Option.bind_eq_some_iff.mp heq
  cases here with
  | true => exact h.token s mid hr
  | false => cases hmid

/-- The test for a mark finds the mark only where a token stands. -/
theorem spots_isAt (mark : Mark) : Spots (isAt mark) := by
  refine ⟨looks_isAt mark, fun s s' heq => ?_⟩
  have hmark : s.token.isMark mark = true := congrArg Prod.fst (Option.some.inj heq)
  exact shape_of_isMark hmark

/-- So does the test for a word. -/
theorem spots_isAtWord (name : String) : Spots (isAtWord name) := by
  refine ⟨looks_isAtWord name, fun s s' heq => ?_⟩
  have hword : s.token.isWord name = true := congrArg Prod.fst (Option.some.inj heq)
  exact shape_of_isWord hword

/-- A choice stays inside from a token if each branch does under its condition. -/
theorem StaysFrom.ite {first : Token} {c : Prop} [Decidable c] {yes no : Reader α}
    (hyes : c → StaysFrom first yes) (hno : ¬ c → StaysFrom first no) :
    StaysFrom first (if c then yes else no) := by
  split
  · exact hyes ‹_›
  · exact hno ‹_›

instance {mark : Mark} : StaysInside (eat mark) :=
  .of_from fun _ => (spots_isAt mark).bind fun _ hhere => StaysFrom.ite
    (fun h => (advance_from (hhere h)).bind fun _ => inferInstance) fun _ => inferInstance

instance {name : String} : StaysInside (eatWord name) :=
  .of_from fun _ => (spots_isAtWord name).bind fun _ hhere => StaysFrom.ite
    (fun h => (advance_from (hhere h)).bind fun _ => inferInstance) fun _ => inferInstance

instance {mark : Mark} : StaysInside (expect mark) := by
  unfold expect
  infer_instance

instance {name : String} : StaysInside (expectWord name) := by
  unfold expectWord
  infer_instance

instance : StaysInside semicolon := by
  unfold semicolon
  infer_instance

instance {done : Reader Bool} {item : Reader α} [StaysInside done] [StaysInside item] :
    StaysInside (itemsUntil done item) := by
  unfold itemsUntil
  infer_instance

instance {close : Mark} {item : Reader α} [StaysInside item] :
    StaysInside (separated close item) := by
  unfold separated
  infer_instance

/-! ### Leaves -/

/-- A token that is the name of a variable is not the end of the text. -/
theorem shape_of_variableName {token : Token} {setting : Setting} {name : String}
    (h : token.variableName? setting = some name) : token.shape ≠ .finish := by
  obtain ⟨escaped, hshape⟩ := word_of_variableName h
  rw [hshape]
  rintro ⟨⟩

/-- Nor is a token that is a name of any kind. -/
theorem shape_of_word {token : Token} {name : String} (h : token.word? = some name) :
    token.shape ≠ .finish := by
  intro hfinish
  simp [Token.word?, hfinish] at h

instance : StaysInside identifier := by
  refine stays_token fun first => looks_get.bind_staysFrom fun s => ?_
  split
  · exact leaf_from (shape_of_variableName ‹_›)
  · infer_instance

instance : StaysInside binding := by
  refine stays_token fun first => looks_get.bind_staysFrom fun s => ?_
  split
  · exact leaf_from (shape_of_variableName ‹_›)
  · infer_instance

instance : StaysInside word := by
  refine stays_token fun first => ?_
  split
  · exact leaf_from (shape_of_word ‹_›)
  · infer_instance

instance : StaysInside string := by
  refine stays_token fun first => ?_
  split
  · exact leaf_from (by simp [*])
  · infer_instance

instance : StaysInside privateName := by
  refine stays_token fun first => ?_
  split
  · exact (looks_require _).bind_staysFrom fun _ => leaf_from (by simp [*])
  · infer_instance

end Reader

end MiniApp.Script
