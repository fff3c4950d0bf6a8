import MiniApp.Script.Grammar.Basic
import MiniApp.Proofs.Script.Extent
import MiniApp.Proofs.Script.Tokens

/-!
# What readers read stands in order

`Triple P r Q` says of a reader what a Hoare triple says of a program: if `P` holds where the reader
starts and the reader succeeds, then `Q` holds of its answer and of where it stops. A reader that
fails satisfies every triple.

Two conditions carry the proof. `At place` says that the current token does not start before a place
of the text, and `Read place nodes` that the given trees, one behind the other, fill the text from
there to the end of the last token that was taken. From them come the notions by which the readers
of the grammar are described:

* `Reads`: the reader reads one tree, which starts with the current token.
* `ReadsAll`: the reader reads trees, possibly none, that follow what was read before.
* `Passes`: the reader reads on without giving a tree.
* `Takes`: the reader takes at least the current token without giving a tree.
* `Looks`: the reader stays where it is.
-/

set_option autoImplicit false

namespace MiniApp.Script

open Node

/-- The current token stands in the source, right before the rest of it and behind the token before.
Unless it is the end of the source it takes at least one character, the first of which tells it from
what separates tokens. If it is a word, its place spells this word; if it is a mark, its place
writes this mark. -/
structure State.IsSound (source : List Char) (s : State) : Prop where
  inSource : s.rest <:+ source
  rest : s.token.stop = s.rest.length
  stop : s.token.stop ≤ s.token.start
  start : s.token.start ≤ s.lastStop
  nonempty : s.token.shape ≠ .finish → s.token.stop < s.token.start
  opens : s.token.shape ≠ .finish → s.token.Opens source
  spells : ∀ name escaped, s.token.shape = .word name escaped →
    (Span.mk s.token.start s.token.stop).Spells source name
  writes : ∀ mark, s.token.shape = .mark mark →
    (Span.mk s.token.start s.token.stop).Writes source mark

/-- The current token does not start before the place. -/
structure State.At (source : List Char) (place : Nat) (s : State) : Prop where
  sound : s.IsSound source
  start : s.token.start ≤ place

/-- The trees fill the source from the place to the end of the last token that was taken. -/
structure State.Read (source : List Char) (place : Nat) (nodes : List Node) (s : State) : Prop where
  sound : s.IsSound source
  inOrder : InOrder source place s.lastStop nodes

open State (At Read)

variable {source : List Char}

/-- The current token does not start before the end of what has been read. -/
theorem State.Read.at_lastStop {place : Nat} {nodes : List Node} {s : State}
    (h : s.Read source place nodes) : s.At source s.lastStop :=
  ⟨h.sound, h.sound.start⟩

/-- Whatever was read before, a tree may start with the current token. -/
theorem State.Read.at {place : Nat} {nodes : List Node} {s : State}
    (h : s.Read source place nodes) :
    s.At source place :=
  ⟨h.sound, Nat.le_trans h.sound.start h.inOrder.le⟩

/-- Trees that fill the source from one place do so from an earlier one. -/
theorem State.Read.widen {own place : Nat} {nodes : List Node} {s : State}
    (h : s.Read source own nodes)
    (hown : own ≤ place) : s.Read source place nodes :=
  ⟨h.sound, h.inOrder.mono hown (Nat.le_refl _)⟩

/-- What was read behind other trees follows them. -/
theorem State.Read.behind {place mid : Nat} {nodes more : List Node} {s : State}
    (h : s.Read source mid more) (hnodes : InOrder source place mid nodes) :
      s.Read source place (nodes ++ more) :=
  ⟨h.sound, hnodes.append h.inOrder⟩

namespace Reader

variable {α β : Type}

/-- If the reader starts where `P` holds and succeeds, `Q` holds of its answer where it stops. -/
def Triple (P : State → Prop) (r : Reader α) (Q : α → State → Prop) : Prop :=
  ∀ s a s', P s → r s = some (a, s') → Q a s'

/-! ### Rules -/

section Rules

variable {P P' : State → Prop} {Q Q' : α → State → Prop} {R : β → State → Prop}

/-- An answer that is given at once has to be right where the reader stands. -/
theorem Triple.pure {a : α} (h : ∀ s, P s → Q a s) : Triple P (pure a) Q := by
  intro s b s' hs heq
  cases heq
  exact h s hs

/-- A failure promises anything. -/
theorem Triple.failure : Triple P (failure : Reader α) Q := by
  intro s a s' _ heq
  have hnone : (none : Option (α × State)) = some (a, s') := heq
  exact nomatch hnone

/-- Of two readers the second one starts where the first one stops. -/
theorem Triple.bind {r : Reader α} {next : α → Reader β} (h : Triple P r Q)
    (hnext : ∀ a, Triple (Q a) (next a) R) : Triple P (r >>= next) R := by
  intro s b s' hs heq
  obtain ⟨⟨a, mid⟩, hr, hmid⟩ := Option.bind_eq_some_iff.mp heq
  exact hnext a mid b s' (h s a mid hs hr) hmid

/-- A triple holds with more assumed and less concluded. -/
theorem Triple.weaken {r : Reader α} (h : Triple P r Q) (hP : ∀ s, P' s → P s)
    (hQ : ∀ a s, Q a s → Q' a s) : Triple P' r Q' :=
  fun s a s' hs heq => hQ a s' (h s a s' (hP s hs) heq)

/-- What is known beside the state may be used at once. -/
theorem Triple.known {p : Prop} {r : Reader α} (h : p → Triple P r Q) :
    Triple (fun s => P s ∧ p) r Q :=
  fun s a s' hs heq => h hs.2 s a s' hs.1 heq

/-- A choice has to be right in both branches, each under its condition. -/
theorem Triple.ite {c : Prop} [Decidable c] {yes no : Reader α} (hyes : c → Triple P yes Q)
    (hno : ¬ c → Triple P no Q) : Triple P (if c then yes else no) Q := by
  split
  · exact hyes ‹c›
  · exact hno ‹¬ c›

/-- If the first reader fails, the second one starts where it did. -/
theorem Triple.orElse {first : Reader α} {next : α → Reader β} {second : Reader β}
    (hfirst : Triple P first Q) (hnext : ∀ a, Triple (Q a) (next a) R)
    (hsecond : Triple P second R) :
    Triple P (orElse first next second) R := by
  intro s b s' hs heq
  unfold Reader.orElse at heq
  split at heq
  · rename_i a mid hr
    exact hnext a mid b s' (hfirst s a mid hs hr) heq
  · exact hsecond s b s' hs heq

/-- A loop keeps an invariant from step to step, and the last step answers for the loop. -/
theorem Triple.iterate {step : α → Reader (α ⊕ β)} {a : α}
    (hstep : ∀ a, Triple (Q a) (step a) fun answer s => answer.elim (Q · s) (R · s)) :
    Triple (Q a) (iterate step a) R := by
  have hrepeat : ∀ count a, Triple (Q a) (repeatAtMost step count a) R := by
    intro count
    induction count with
    | zero => exact fun _ => Triple.failure
    | succ count ih =>
        refine fun a => (hstep a).bind fun answer => ?_
        cases answer with
        | inl a => exact ih a
        | inr b => exact Triple.pure fun _ h => h
  exact fun s => hrepeat _ a s

end Rules

/-! ### Readers that stay where they are -/

/-- The reader stays where it is. -/
def Looks (r : Reader α) : Prop :=
  ∀ s a s', r s = some (a, s') → s' = s

section Looks

variable {P : State → Prop} {Q : β → State → Prop}

/-- What holds where a reader starts still holds if it stays there. -/
theorem Looks.triple {r : Reader α} (h : Looks r) : Triple P r fun _ => P :=
  fun s a s' hs heq => h s a s' heq ▸ hs

/-- Two readers that stay where they are do so one after the other. -/
theorem Looks.bind {r : Reader α} {next : α → Reader β} (h : Looks r)
    (hnext : ∀ a, Looks (next a)) :
    Looks (r >>= next) := by
  intro s b s' heq
  obtain ⟨⟨a, mid⟩, hr, hmid⟩ := Option.bind_eq_some_iff.mp heq
  exact (hnext a mid b s' hmid).trans (h s a mid hr)

/-- An answer that is given at once moves nothing. -/
theorem looks_pure (a : α) : Looks (pure a) := by
  intro s b s' heq
  cases heq
  rfl

/-- Nor does a failure. -/
theorem looks_failure : Looks (failure : Reader α) := by
  intro s a s' heq
  have hnone : (none : Option (α × State)) = some (a, s') := heq
  exact nomatch hnone

/-- Nor does a choice between readers that move nothing. -/
theorem Looks.ite {c : Prop} [Decidable c] {yes no : Reader α} (hyes : Looks yes) (hno : Looks no) :
    Looks (if c then yes else no) := by
  split
  · exact hyes
  · exact hno

/-- Asking where the reader stands moves nothing. -/
theorem looks_get : Looks (get : Reader State) := by
  intro s a s' heq
  cases heq
  rfl

/-- Nor does asking for the current token. -/
theorem looks_token : Looks token :=
  looks_get.bind fun _ => looks_pure _

/-- Nor does a condition. -/
theorem looks_require (condition : Bool) : Looks (require condition) :=
  Looks.ite (looks_pure _) looks_failure

/-- A reader that looks ahead stays where it is, whatever it reads there. -/
theorem looks_ahead (r : Reader α) : Looks (ahead r) := by
  intro s a s' heq
  cases heq
  rfl

/-- So does a test of the token behind the current one. -/
theorem looks_isNext (test : Token → Bool) : Looks (isNext test) :=
  (looks_ahead _).bind fun _ => looks_pure _

/-- So does a test for a mark. -/
theorem looks_isAt (mark : Mark) : Looks (isAt mark) :=
  looks_token.bind fun _ => looks_pure _

/-- So does a test for a word. -/
theorem looks_isAtWord (name : String) : Looks (isAtWord name) :=
  looks_token.bind fun _ => looks_pure _

/-- So does a test whether the statement ends. -/
theorem looks_atStatementEnd : Looks atStatementEnd :=
  looks_token.bind fun _ => looks_pure _

/-- So does a test for a private name. -/
theorem looks_isAtPrivateName : Looks isAtPrivateName := by
  refine looks_token.bind fun token => ?_
  split
  · exact looks_pure _
  · exact looks_pure _

/-- Where the mark is found, it is the current token. -/
theorem isAt_spec (mark : Mark) : Triple P (isAt mark) fun here s =>
    P s ∧ (here = true → s.token.shape = .mark mark) := by
  intro s here s' hs heq
  cases heq
  exact ⟨hs, fun hmark => by simpa [Token.isMark] using hmark⟩

/-- A step that stays where it is does not matter to what holds in the end. -/
theorem Looks.bind_triple {r : Reader α} {next : α → Reader β} (h : Looks r)
    (hnext : ∀ a, Triple P (next a) Q) : Triple P (r >>= next) Q :=
  h.triple.bind hnext

/-- Behind a condition it holds. -/
theorem Triple.require {condition : Bool} {next : Unit → Reader β}
    (hnext : condition = true → Triple P (next ()) Q) :
    Triple P (require condition >>= next) Q := by
  cases condition with
  | false =>
      have hfailure : Triple P (Reader.require false) fun _ _ => False := Triple.failure
      exact hfailure.bind fun _ s _ _ hs => hs.elim
  | true => exact (looks_require true).bind_triple fun _ => hnext rfl

/-- The current token is known from where it is looked at. -/
theorem Triple.token {next : Token → Reader β}
    (hnext : ∀ token, Triple (fun s => P s ∧ s.token = token) (next token) Q) :
    Triple P (Reader.token >>= next) Q :=
  fun s a s' hs heq => hnext s.token s a s' ⟨hs, rfl⟩ heq

/-- A tree that starts with the current token starts where that does. -/
theorem Triple.first {place : Nat} {next : Token → Reader β}
    (hnext : ∀ first : Token, first.start ≤ place →
      Triple (fun s => s.At source first.start ∧ s.token = first) (next first) Q) :
    Triple (At source place) (Reader.token >>= next) Q :=
  fun s a s' hs heq => hnext s.token hs.start s a s' ⟨⟨hs.sound, Nat.le_refl _⟩, rfl⟩ heq

/-- A tree that starts with the current token starts at the place where this is looked at. -/
theorem Triple.start {place : Nat} {next : Nat → Reader β}
    (hnext : ∀ own ≤ place, Triple (At source own) (next own) Q) :
      Triple (At source place) (start >>= next) Q :=
  fun s a s' hs heq => hnext s.token.start hs.start s a s' ⟨hs.sound, Nat.le_refl _⟩ heq

end Looks

/-! ### Readers that read on -/

/-- The reader reads a tree that starts with the current token. -/
def Reads (source : List Char) (r : Reader Node) : Prop :=
  ∀ place, Triple (At source place) r fun node => Read source place [node]

/-- The reader reads a tree behind those that were read before; it may be one that is left out. -/
def Appends (source : List Char) (r : Reader Node) : Prop :=
  ∀ place nodes, Triple (Read source place nodes) r fun node => Read source place (nodes ++ [node])

/-- The reader reads trees behind those that were read before. -/
def ReadsAll (source : List Char) (r : Reader (List Node)) : Prop :=
  ∀ place nodes, Triple (Read source place nodes) r fun more => Read source place (nodes ++ more)

/-- The reader may read on, but gives no tree. -/
def Passes (source : List Char) (r : Reader α) : Prop :=
  ∀ place nodes, Triple (Read source place nodes) r fun _ => Read source place nodes

/-- The reader takes at least the current token and gives no tree. -/
def Takes (source : List Char) (r : Reader α) : Prop :=
  ∀ place, Triple (At source place) r fun _ => Read source place []

/-- Trees that start with the current token follow all that was read before. -/
theorem Triple.framed {r : Reader α} {trees : α → List Node}
    (h : ∀ place, Triple (At source place) r fun a => Read source place (trees a)) (place : Nat)
    (nodes : List Node) :
      Triple (Read source place nodes) r fun a => Read source place (nodes ++ trees a) := by
  intro s a s' hs heq
  have hread := h s.lastStop s a s' hs.at_lastStop heq
  exact ⟨hread.sound, hs.inOrder.append hread.inOrder⟩

/-- A tree that starts with the current token stands behind the trees before. -/
theorem Reads.appends {r : Reader Node} (h : Reads source r) : Appends source r :=
  Triple.framed h

/-- A reader that takes a token and gives no tree reads on without one. -/
theorem Takes.passes {r : Reader α} (h : Takes source r) : Passes source r := by
  intro place nodes s a s' hs heq
  have hread := h s.lastStop s a s' hs.at_lastStop heq
  exact ⟨hread.sound, hs.inOrder.mono (Nat.le_refl _) hread.inOrder.le⟩

/-- So does a reader that stays where it is. -/
theorem Looks.passes {r : Reader α} (h : Looks r) : Passes source r :=
  fun _ _ => h.triple

/-- Two readers that give no trees give none one after the other. -/
theorem Passes.bind {r : Reader α} {next : α → Reader β} (h : Passes source r)
    (hnext : ∀ a, Passes source (next a)) : Passes source (r >>= next) :=
  fun place nodes => (h place nodes).bind fun a => hnext a place nodes

/-- A tree may be read after a look at where the reader stands. -/
theorem Looks.bind_reads {r : Reader α} {next : α → Reader Node} (h : Looks r)
    (hnext : ∀ a, Reads source (next a)) : Reads source (r >>= next) :=
  fun place => h.bind_triple fun a => hnext a place

/-- An answer that is given at once is no tree. -/
theorem passes_pure (a : α) : Passes source (pure a) :=
  (looks_pure a).passes

/-- A reader that fails reads whatever is asked for. -/
theorem reads_failure : Reads source failure :=
  fun _ => Triple.failure

/-- A choice reads a tree if both of its branches do. -/
theorem Reads.ite {c : Prop} [Decidable c] {yes no : Reader Node} (hyes : Reads source yes)
    (hno : Reads source no) : Reads source (if c then yes else no) := by
  split
  · exact hyes
  · exact hno

/-- A word that is scanned at the end of the source spells its name there. -/
theorem spells_of_scan {text rest : List Char} {token : Token} {name : String} {escaped : Bool}
    (hscan : scan text = some (token, rest)) (hshape : token.shape = .word name escaped)
    (htext : text <:+ source) : (Span.mk token.start token.stop).Spells source name := by
  obtain ⟨hname, raw, hraw, hstart, hletters⟩ := scan_word hscan hshape
  obtain ⟨hstop, -, -, hnonempty, -⟩ := scan_spec hscan
  have hless : token.stop < token.start := by
    apply hnonempty
    rw [hshape]
    exact nofun
  have hslice : (Span.mk token.start token.stop).slice source = raw := by
    rw [hstart, hstop]
    exact Span.slice_written (hraw.trans htext)
  exact ⟨hless, hslice ▸ hletters, hname⟩

/-- A mark that is scanned at the end of the source is written there. -/
theorem writes_of_scan {text rest : List Char} {token : Token} {mark : Mark}
    (hscan : scan text = some (token, rest)) (hshape : token.shape = .mark mark)
    (htext : text <:+ source) : (Span.mk token.start token.stop).Writes source mark := by
  obtain ⟨spelling, hmem, hspelling, hstart⟩ := scan_mark hscan hshape
  obtain ⟨hstop, -⟩ := scan_spec hscan
  refine ⟨spelling, hmem, ?_, ?_⟩
  · simp only [hstart, hstop, List.length_append]
    omega
  · rw [hstart, hstop]
    exact Span.slice_written (hspelling.trans htext)

/-- Taking a token leaves its extent behind. -/
theorem takes_advance : Takes source advance := by
  intro place s a s' hs heq
  obtain ⟨⟨token, rest⟩, hscan, hs'⟩ := Option.bind_eq_some_iff.mp heq
  obtain ⟨hrest, hstop, hstart, hnonempty, hsuffix⟩ := scan_spec hscan
  have hinSource := hs.sound.inSource
  cases hs'
  refine ⟨⟨hsuffix.trans hinSource, hrest, hstop, ?_, hnonempty, ?_, ?_, ?_⟩, inOrder_nil.mpr ?_⟩
  · show token.start ≤ s.token.stop
    rw [hs.sound.rest]
    exact hstart
  · exact fun hshape => (scan_opens hscan hshape).longer hinSource
  · intro name escaped hshape
    exact spells_of_scan hscan hshape hinSource
  · intro mark hshape
    exact writes_of_scan hscan hshape hinSource
  · exact Nat.le_trans hs.sound.stop hs.start

/-- Whether the mark is there decides whether a token is taken. -/
theorem eat_spec (mark : Mark) (place : Nat) : Triple (At source place) (eat mark) fun taken s =>
    if taken then s.Read source place [] else s.At source place := by
  refine (looks_isAt mark).bind_triple fun here => ?_
  cases here with
  | false => exact Triple.pure fun _ h => h
  | true => exact (takes_advance place).bind fun _ => Triple.pure fun _ h => h

/-- A word is taken if it stands here, and otherwise nothing is. -/
theorem eatWord_spec (name : String) (place : Nat) :
    Triple (At source place) (eatWord name) fun taken s =>
    if taken then s.Read source place [] else s.At source place := by
  refine (looks_isAtWord name).bind_triple fun here => ?_
  cases here with
  | false => exact Triple.pure fun _ h => h
  | true => exact (takes_advance place).bind fun _ => Triple.pure fun _ h => h

/-- A mark that may stand here is no tree. -/
theorem passes_eat (mark : Mark) : Passes source (eat mark) :=
  (looks_isAt mark).passes.bind fun here => by
    cases here with
    | false => exact passes_pure _
    | true => exact takes_advance.passes.bind fun _ => passes_pure _

/-- Nor is a word that may stand here. -/
theorem passes_eatWord (name : String) : Passes source (eatWord name) :=
  (looks_isAtWord name).passes.bind fun here => by
    cases here with
    | false => exact passes_pure _
    | true => exact takes_advance.passes.bind fun _ => passes_pure _

/-- A mark that has to stand here is taken, and is no tree. -/
theorem takes_expect (mark : Mark) : Takes source (expect mark) := by
  refine fun place => (eat_spec mark place).bind fun taken => ?_
  cases taken with
  | false => exact Triple.failure
  | true => exact Triple.pure fun _ h => h

/-- So is a word that has to stand here. -/
theorem takes_expectWord (name : String) : Takes source (expectWord name) := by
  refine fun place => (eatWord_spec name place).bind fun taken => ?_
  cases taken with
  | false => exact Triple.failure
  | true => exact Triple.pure fun _ h => h

/-- A clause starts with a word of its own, or it is missing. If it is there, it is read as a tree
that starts with this word, behind all that was read before. -/
theorem clause_reads {place : Nat} {nodes : List Node} {name : String} {taken : Nat → Reader α}
    {missing : Reader α} {Q : α → State → Prop}
    (htaken : ∀ own behind : Nat, own ≤ behind → InOrder source place behind nodes →
      Triple (Read source own []) (taken own) Q) (hmissing :
        Triple (Read source place nodes) missing Q) :
    Triple (Read source place nodes) (do
      let own ← start
      if ← eatWord name then taken own else missing) Q := by
  intro s a s' hs heq
  obtain ⟨⟨isTaken, mid⟩, heat, heq⟩ := Option.bind_eq_some_iff.mp heq
  have hat := eatWord_spec name s.token.start s isTaken mid ⟨hs.sound, Nat.le_refl _⟩ heat
  have hmid := passes_eatWord name place nodes s isTaken mid hs heat
  cases isTaken with
  | true => exact htaken _ s.lastStop hs.sound.start hs.inOrder mid a s' hat heq
  | false => exact hmissing mid a s' hmid heq

/-- The end of a statement is no tree, whether a semicolon is written or not. -/
theorem passes_semicolon : Passes source semicolon := by
  refine (passes_eat .semicolon).bind fun taken => ?_
  cases taken with
  | true => exact passes_pure _
  | false => exact looks_token.passes.bind fun token => (looks_require _).passes

/-! ### Settings -/

/-- In a changed setting a reader reads as it does there, and the setting is put back behind it. -/
theorem within_eq (change : Setting → Setting) (r : Reader α) (s : State) :
    within change r s = (r { s with setting := change s.setting }).map fun answer =>
      (answer.1, { answer.2 with setting := s.setting }) := by
  show (r { s with setting := change s.setting }).bind _ = _
  cases r { s with setting := change s.setting } <;> rfl

/-- Conditions that do not look at the setting hold in any setting. -/
theorem Triple.within {P : State → Prop} {r : Reader α} {Q : α → State → Prop}
    {change : Setting → Setting} (h : Triple P r Q)
    (hP : ∀ s setting, P s → P { s with setting })
    (hQ : ∀ a s setting, Q a s → Q a { s with setting }) : Triple P (within change r) Q := by
  intro s a s' hs heq
  rw [within_eq] at heq
  obtain ⟨⟨b, mid⟩, hr, hmid⟩ := Option.map_eq_some_iff.mp heq
  cases hmid
  exact hQ b mid s.setting (h _ b mid (hP s _ hs) hr)

/-- The setting makes no difference to whether the current token stands in the source. -/
theorem sound_setting {s : State} (setting : Setting) (h : s.IsSound source) :
    State.IsSound source { s with setting } :=
  ⟨h.inSource, h.rest, h.stop, h.start, h.nonempty, h.opens, h.spells, h.writes⟩

/-- Nor does it to where this token starts. -/
theorem at_setting {place : Nat} {s : State} (setting : Setting) (h : s.At source place) :
    State.At source place { s with setting } :=
  ⟨sound_setting setting h.sound, h.start⟩

/-- Nor does it to what has been read. -/
theorem read_setting {place : Nat} {nodes : List Node} {s : State} (setting : Setting)
    (h : s.Read source place nodes) : State.Read source place nodes { s with setting } :=
  ⟨sound_setting setting h.sound, h.inOrder⟩

/-- A tree that is read in a changed setting is read in any. -/
theorem Reads.within {r : Reader Node} {change : Setting → Setting} (h : Reads source r) :
    Reads source (within change r) :=
  fun place => (h place).within (fun _ => at_setting) fun _ _ => read_setting

/-- So is a tree that is read where `in` is an operator. -/
theorem Reads.withIn {r : Reader Node} (h : Reads source r) : Reads source (withIn r) :=
  h.within

/-- So is one that is read where it is none. -/
theorem Reads.withoutIn {r : Reader Node} (h : Reads source r) : Reads source (withoutIn r) :=
  h.within

/-! ### Trees -/

/-- A tree from a place to the end of the last token stands around parts that do so. -/
theorem node_reads_of {P : State → Prop} {place own : Nat} {kind : Kind} {parts : List Node}
    (hparts : ∀ s, P s → s.Read source own parts) (hown : own ≤ place) (hkind : ¬ kind.IsUse) :
    Triple P (node own kind parts) fun tree => Read source place [tree] := by
  intro s tree s' hs heq
  cases heq
  have hread := hparts s hs
  have htree : Fits source place s.lastStop (.mk kind ⟨own, s.lastStop⟩ parts) :=
    fits_mk.mpr ⟨hown, Nat.le_refl _, fun huse => absurd huse hkind, hread.inOrder⟩
  exact ⟨hread.sound, htree.inOrder⟩

/-- The parts are often just those that have been read since. -/
theorem node_reads {place own : Nat} {kind : Kind} {parts : List Node} (hown : own ≤ place)
    (hkind : ¬ kind.IsUse) : Triple (Read source own parts) (node own kind parts) fun tree =>
      Read source place [tree] :=
  node_reads_of (fun _ h => h) hown hkind

/-- What is left out takes no place. -/
theorem appends_absent : Appends source absent := by
  intro place nodes s tree s' hs heq
  cases heq
  have htree : Fits source s.lastStop s.lastStop (.mk .absent ⟨s.lastStop, s.lastStop⟩ []) :=
    fits_mk.mpr ⟨Nat.le_refl _, Nat.le_refl _, nofun, inOrder_nil.mpr (Nat.le_refl _)⟩
  exact ⟨hs.sound, hs.inOrder.append htree.inOrder⟩

/-- A token becomes a tree of its own extent, which a word spells; a name must be such a word. -/
theorem leaf_spec {place : Nat} {kind : Kind} {first : Token}
    (huse : kind.IsUse → ∃ escaped, first.shape = .word kind.usedName escaped) :
    Triple (fun s => s.At source place ∧ s.token = first) (leaf kind) fun tree s =>
      s.Read source place [tree] ∧
        ∀ name escaped, first.shape = .word name escaped → tree.span.Spells source name := by
  intro s tree s' hs heq
  obtain ⟨hat, rfl⟩ := hs
  obtain ⟨⟨⟨⟩, mid⟩, hadvance, hmid⟩ := Option.bind_eq_some_iff.mp heq
  have hread := takes_advance place s () mid hat hadvance
  obtain ⟨⟨token, rest⟩, -, hs'⟩ := Option.bind_eq_some_iff.mp hadvance
  cases hs'
  cases hmid
  have hspells : kind.IsUse → (Span.mk s.token.start s.token.stop).Spells source kind.usedName := by
    intro hkind
    obtain ⟨escaped, hword⟩ := huse hkind
    exact hat.sound.spells _ escaped hword
  have htree : Fits source place s.token.stop (.mk kind ⟨s.token.start, s.token.stop⟩ []) :=
    fits_mk.mpr ⟨hat.start, Nat.le_refl _, hspells, inOrder_nil.mpr hat.sound.stop⟩
  exact ⟨⟨hread.sound, htree.inOrder⟩, hat.sound.spells⟩

/-- A token is read as a node without parts, unless the node refers to a variable. -/
theorem reads_leaf {kind : Kind} (hkind : ¬ kind.IsUse) : Reads source (leaf kind) := by
  intro place s tree s' hs heq
  exact (leaf_spec (fun huse => absurd huse hkind) s tree s' ⟨hs, rfl⟩ heq).1

/-- A name of a variable is a word. -/
theorem word_of_variableName {token : Token} {setting : Setting} {name : String}
    (h : token.variableName? setting = some name) :
    ∃ escaped, token.shape = .word name escaped := by
  unfold Token.variableName? at h
  split at h
  · rename_i own escaped hshape
    split at h
    · exact nomatch h
    · cases h
      exact ⟨escaped, hshape⟩
  · exact nomatch h

/-- A name that refers to a variable stands where it is written. -/
theorem reads_identifier : Reads source identifier := by
  refine fun place => Triple.token fun token => looks_get.bind_triple fun state => ?_
  split
  · rename_i name hname
    exact (leaf_spec fun _ => word_of_variableName hname).weaken (fun _ h => h) fun _ _ h => h.1
  · exact Triple.failure

/-- A declared name is read as one node. -/
theorem reads_binding : Reads source binding := by
  refine looks_token.bind_reads fun token => looks_get.bind_reads fun state => ?_
  split
  · exact reads_leaf nofun
  · exact reads_failure

/-- So is a word of any kind. -/
theorem reads_word : Reads source word := by
  refine looks_token.bind_reads fun token => ?_
  split
  · exact reads_leaf nofun
  · exact reads_failure

/-- So is a string. -/
theorem reads_string : Reads source string := by
  refine looks_token.bind_reads fun token => ?_
  split
  · exact reads_leaf nofun
  · exact reads_failure

/-- So is a private name. -/
theorem reads_privateName : Reads source privateName := by
  refine looks_token.bind_reads fun token => ?_
  split
  · exact (looks_require _).bind_reads fun _ => reads_leaf nofun
  · exact reads_failure

/-! ### Several items -/

/-- Items that give trees, read one after another. The trees of an item are `trees item`. -/
theorem itemsUntil_reads {place : Nat} {nodes : List Node} {done : Reader Bool} {item : Reader α}
    {trees : α → List Node} (hdone : Looks done)
    (hitem : ∀ before, Triple (Read source place before) item fun a =>
      Read source place (before ++ trees a)) :
    Triple (Read source place nodes) (itemsUntil done item) fun items =>
      Read source place (nodes ++ items.flatMap trees) := by
  have hstart : ∀ s : State, s.Read source place nodes →
    s.Read source place (nodes ++ [].flatMap trees) := by
    intro s hs
    simpa using hs
  -- The items are collected last first, and turned around at the end.
  refine Triple.bind (Q := fun (read : List α) s =>
    s.Read source place (nodes ++ read.reverse.flatMap trees))
    ?_ fun read => Triple.pure fun _ h => h
  refine (Triple.iterate (Q := fun (read : List α) s =>
    s.Read source place (nodes ++ read.reverse.flatMap
      trees)) fun read => ?_).weaken hstart fun _ _ h => h
  refine hdone.bind_triple fun isDone => ?_
  cases isDone with
  | true => exact Triple.pure fun _ h => h
  | false =>
      refine (hitem _).bind fun a => Triple.pure fun s hs => ?_
      simpa using hs

/-- Items are read one behind the other, up to the place where the condition holds. -/
theorem readsAll_itemsUntil {done : Reader Bool} {item : Reader Node} (hdone : Looks done)
    (hitem : Appends source item) : ReadsAll source (itemsUntil done item) := by
  intro place nodes
  refine (itemsUntil_reads hdone fun before => hitem place before).weaken (fun _ h => h) ?_
  intro items s hs
  simpa using hs

/-- Trees with commas between them. -/
theorem separated_reads {place : Nat} {nodes : List Node} {close : Mark} {item : Reader Node}
    (hitem : Appends source item) :
      Triple (Read source place nodes) (separated close item) fun answer =>
      Read source place (nodes ++ answer.1) := by
  have hstart : ∀ s : State, s.Read source place nodes →
    s.Read source place (nodes ++ [].reverse) := by
    intro s hs
    simpa using hs
  refine Triple.bind (Q := fun (read : List Node × Bool) s =>
    s.Read source place (nodes ++ read.1.reverse))
    ?_ fun read => Triple.pure fun _ h => h
  -- The items are collected with the last one in front.
  refine (Triple.iterate (Q := fun (read : List Node × Bool) s =>
    s.Read source place (nodes ++ read.1.reverse)) fun read => ?_).weaken hstart fun _ _ h => h
  refine (passes_eat close _ _).bind fun closed => ?_
  cases closed with
  | true => exact Triple.pure fun _ h => h
  | false =>
      refine (hitem _ _).bind fun next => (passes_eat .comma _ _).bind fun goesOn => ?_
      have hnext : ∀ s : State, s.Read source place (nodes ++ read.1.reverse ++ [next]) →
          s.Read source place (nodes ++ (next :: read.1).reverse) := by
        intro s hs
        simpa using hs
      cases goesOn with
      | true => exact Triple.pure hnext
      | false => exact ((takes_expect close).passes _ _).bind fun _ => Triple.pure hnext

end Reader

end MiniApp.Script
