import MiniApp.Proofs.Handler.Visiting

/-!
# Edits that are made at once

The edits that qualify the names of a text are made one after another in a text that grows with each
of them. `atOnce` says what should come of it without an order: at each place of the text as it was,
what the edits write there, and then the character that stands there, unless an edit replaces it.

* `spliced_eq_atOnce`: changes that stand in a text one behind the other are made at once.
* `make_inRange`: no edit is left out because its range is not found in the text that has grown.
* `atOnce_place`: what stands in the place of a name that is rewritten.
* `qualify_atOnce`: all of this for the names of a text that can be read.
-/

set_option autoImplicit false

namespace MiniApp.Handler

open MiniApp.Text MiniApp.Script

/-! ### All changes at once -/

/-- What the changes write at a place, which counts the characters behind it. -/
def writtenAt (found : List Change) (place : Nat) : List Char :=
  (found.filter fun change => change.span.start = place).flatMap Change.replacement

/-- Whether a change replaces the character that stands at a place. -/
def isReplaced (found : List Change) (place : Nat) : Bool :=
  found.any fun change => change.span.stop < place && place ≤ change.span.start

/-- What the changes make of a stretch of a text with the given number of characters behind it. -/
def written (found : List Change) (behind : Nat) : List Char → List Char
  | [] => []
  | c :: rest =>
    let place := behind + rest.length + 1
    writtenAt found place ++ (if isReplaced found place then [] else [c]) ++
      written found behind rest

/-- The text with all the changes made at once, each in the place where it was found. -/
def atOnce (found : List Change) (text : List Char) : List Char :=
  written found 0 text ++ writtenAt found 0

variable {found rest : List Change} {change : Change} {behind : Nat} {text : List Char}

/-- Nothing is written at a place where no change starts. -/
theorem writtenAt_eq_nil {place : Nat} (h : ∀ change ∈ found, change.span.start ≠ place) :
    writtenAt found place = [] := by
  rw [writtenAt, List.filter_eq_nil_iff.mpr, List.flatMap_nil]
  simpa using h

/-- Two stretches that follow each other are written one behind the other. -/
theorem written_append (found : List Change) (behind : Nat) (front text : List Char) :
    written found behind (front ++ text) =
      written found (behind + text.length) front ++ written found behind text := by
  induction front with
  | nil => rfl
  | cons c front ih =>
      have hplace : behind + (front ++ text).length + 1 =
          behind + text.length + front.length + 1 := by
        rw [List.length_append]
        omega
      rw [List.cons_append, written, written, ih, hplace]
      simp only [List.append_assoc]

/-- So is a stretch at the start of a text with the rest of the text behind it. -/
theorem atOnce_append (found : List Change) (front text : List Char) :
    atOnce found (front ++ text) = written found text.length front ++ atOnce found text := by
  rw [atOnce, written_append, Nat.zero_add, List.append_assoc, atOnce]

/-- A stretch that all changes leave alone, those behind it and those in front of it. -/
theorem written_untouched (h : ∀ change ∈ found, change.span.start ≤ behind ∨
      behind + text.length ≤ change.span.stop ∧ behind + text.length < change.span.start) :
    written found behind text = text := by
  induction text with
  | nil => rfl
  | cons c rest ih =>
      rw [List.length_cons] at h
      have hnone : writtenAt found (behind + rest.length + 1) = [] := by
        refine writtenAt_eq_nil fun change hchange => ?_
        have hapart := h change hchange
        omega
      have hkept : isReplaced found (behind + rest.length + 1) = false := by
        refine List.any_eq_false.mpr fun change hchange => ?_
        have hapart := h change hchange
        rw [Bool.and_eq_true, decide_eq_true_eq, decide_eq_true_eq]
        omega
      have hrest : written found behind rest = rest := by
        refine ih fun change hchange => ?_
        have hapart := h change hchange
        omega
      simp [written, hnone, hkept, hrest]

/-- A change does not touch what stands behind it. -/
theorem written_behind (hstop : behind + text.length ≤ change.span.stop)
    (hstart : behind + text.length < change.span.start) :
    written (change :: rest) behind text = written rest behind text := by
  induction text with
  | nil => rfl
  | cons c tail ih =>
      rw [List.length_cons] at hstop hstart
      have hnot : ¬ change.span.start = behind + tail.length + 1 := by omega
      have hoff : ¬ change.span.stop < behind + tail.length + 1 := by omega
      have hwritten : writtenAt (change :: rest) (behind + tail.length + 1) =
          writtenAt rest (behind + tail.length + 1) := by
        rw [writtenAt, List.filter_cons_of_neg (by rwa [decide_eq_true_eq]), writtenAt]
      have hreplaced : isReplaced (change :: rest) (behind + tail.length + 1) =
          isReplaced rest (behind + tail.length + 1) := by
        rw [isReplaced, List.any_cons, decide_eq_false hoff, Bool.false_and, Bool.false_or,
          isReplaced]
      rw [written, written, ih (by omega) (by omega), hwritten, hreplaced]

/-- A change that stands in front of a text makes no difference in the text. -/
theorem atOnce_behind (hstop : text.length ≤ change.span.stop)
    (hstart : text.length < change.span.start) :
    atOnce (change :: rest) text = atOnce rest text := by
  have hnot : ¬ change.span.start = 0 := by omega
  rw [atOnce, atOnce, written_behind (by omega) (by omega)]
  simp [writtenAt, hnot]

/-- A change without extent writes in front of what stands behind it. -/
theorem atOnce_insert (hstart : change.span.start = text.length)
    (hstop : change.span.stop = text.length) :
    atOnce (change :: rest) text = change.replacement ++ atOnce rest text := by
  cases text with
  | nil =>
      simp only [List.length_nil] at hstart
      simp [atOnce, written, writtenAt, hstart]
  | cons c tail =>
      simp only [List.length_cons] at hstart hstop
      rw [atOnce, atOnce, written, written, written_behind (by omega) (by omega)]
      simp [writtenAt, isReplaced, hstart, hstop]

/-- A stretch of which nothing is replaced keeps its characters, behind what is written at its
start. -/
theorem written_kept (hne : text ≠ [])
    (hspan : ∀ change ∈ found, change.span.stop ≤ change.span.start)
    (h : ∀ change ∈ found, change.span.start ≤ behind ∨ behind + text.length ≤ change.span.stop) :
    written found behind text = writtenAt found (behind + text.length) ++ text := by
  cases text with
  | nil => exact absurd rfl hne
  | cons c tail =>
      rw [List.length_cons] at h ⊢
      have hkept : isReplaced found (behind + tail.length + 1) = false := by
        refine List.any_eq_false.mpr fun change hmem => ?_
        have hapart := h change hmem
        rw [Bool.and_eq_true, decide_eq_true_eq, decide_eq_true_eq]
        omega
      have htail : written found behind tail = tail := by
        refine written_untouched fun change hmem => ?_
        have hapart := h change hmem
        have hstop := hspan change hmem
        omega
      rw [written, hkept, htail, Nat.add_assoc]
      exact List.append_assoc _ _ _

/-- The places at which no other change starts are written by the change alone. -/
theorem writtenAt_start (hmem : change ∈ found)
    (hnodup : (found.map fun change => change.span.start).Nodup) :
    writtenAt found change.span.start = change.replacement := by
  induction found with
  | nil => exact nomatch hmem
  | cons first rest ih =>
      obtain ⟨hfirst, hrest⟩ := List.nodup_cons.mp hnodup
      rcases List.mem_cons.mp hmem with rfl | hmem
      · have hnone : writtenAt rest change.span.start = [] :=
          writtenAt_eq_nil fun other hother hsame =>
            hfirst (List.mem_map.mpr ⟨other, hother, hsame⟩)
        rw [writtenAt, List.filter_cons_of_pos (by simp), List.flatMap_cons]
        exact (congrArg (change.replacement ++ ·) hnone).trans (List.append_nil _)
      · have hne : ¬ first.span.start = change.span.start := fun hsame =>
          hfirst (List.mem_map.mpr ⟨change, hmem, hsame.symm⟩)
        rw [← ih hmem hrest, writtenAt, writtenAt, List.filter_cons_of_neg (by simpa using hne)]

/-- In the stretch that a change replaces stands its replacement, if no other one writes there. -/
theorem written_replaced (hmem : change ∈ found) (hne : text ≠ [])
    (hnodup : (found.map fun change => change.span.start).Nodup)
    (hstart : change.span.start = behind + text.length) (hstop : change.span.stop = behind)
    (hother : ∀ other ∈ found,
      other.span.start ≤ behind ∨ behind + text.length ≤ other.span.start) :
    written found behind text = change.replacement := by
  have hreplaced : ∀ place, behind < place → place ≤ change.span.start →
      isReplaced found place := by
    intro place hlow hhigh
    refine List.any_eq_true.mpr ⟨change, hmem, ?_⟩
    rw [Bool.and_eq_true, decide_eq_true_eq, decide_eq_true_eq]
    omega
  -- Behind the first character nothing is written.
  have htail : ∀ tail : List Char, tail.length < text.length → written found behind tail = [] := by
    intro tail hlength
    induction tail with
    | nil => rfl
    | cons c tail ih =>
        rw [List.length_cons] at hlength
        have hnone : writtenAt found (behind + tail.length + 1) = [] := by
          refine writtenAt_eq_nil fun other hmem => ?_
          have hapart := hother other hmem
          omega
        rw [written, ih (by omega), hnone, hreplaced _ (by omega) (by omega)]
        rfl
  cases text with
  | nil => exact absurd rfl hne
  | cons c tail =>
      rw [List.length_cons] at hstart htail
      rw [written, htail tail (Nat.lt_succ_self _), hreplaced _ (by omega) (by omega),
        Nat.add_assoc, ← hstart, writtenAt_start hmem hnodup]
      simp

/-- No two changes start in the same place. -/
theorem Separate.starts_nodup {length : Nat} (h : Separate length found) :
    (found.map fun change => change.span.start).Nodup := by
  induction found generalizing length with
  | nil => exact List.nodup_nil
  | cons change rest ih =>
      obtain ⟨-, -, hbehind, hrest⟩ := h
      rw [List.map_cons, List.nodup_cons]
      refine ⟨fun hmem => ?_, ih hrest⟩
      obtain ⟨other, hother, hsame⟩ := List.mem_map.mp hmem
      exact absurd hsame (Nat.ne_of_lt (hbehind other hother))

/-- Changes that stand in a text one behind the other are made at once. -/
theorem spliced_eq_atOnce (h : Separate text.length found) :
    spliced found text = atOnce found text := by
  induction found generalizing text with
  | nil =>
      have hkept : written [] 0 text = text :=
        written_untouched fun _ hmem => absurd hmem List.not_mem_nil
      exact ((List.append_nil _).trans hkept).symm
  | cons change rest ih =>
      have hnodup := h.starts_nodup
      obtain ⟨hstop, hstart, hbehind, hrest⟩ := h
      -- The text falls into what stands in front of the change, in its place and behind it.
      generalize hfront : text.take (text.length - change.span.start) = front
      generalize hinside : change.span.slice text = inside
      generalize htail : text.drop (text.length - change.span.stop) = tail
      have hsplit : text = front ++ (inside ++ tail) := by
        rw [← hfront, ← hinside, ← htail]
        exact Span.split_text hstop hstart
      have htailLength : tail.length = change.span.stop := by
        rw [← htail, List.length_drop]
        omega
      have hinsideLength : inside.length = change.span.start - change.span.stop := by
        rw [← hinside]
        exact Span.length_slice hstart
      have hkept : written (change :: rest) (inside ++ tail).length front = front := by
        refine written_untouched fun other hother => .inl ?_
        rw [List.length_append]
        rcases List.mem_cons.mp hother with rfl | hother
        · omega
        · have hle := hbehind other hother
          omega
      have hmade : atOnce (change :: rest) (inside ++ tail) =
          change.replacement ++ atOnce rest tail := by
        by_cases hempty : inside = []
        · rw [hempty, List.nil_append]
          rw [hempty, List.length_nil] at hinsideLength
          exact atOnce_insert (by omega) (by omega)
        · have hpositive := List.length_pos_iff.mpr hempty
          rw [atOnce_append, atOnce_behind (by omega) (by omega)]
          refine congrArg (· ++ _) (written_replaced List.mem_cons_self hempty hnodup
            (by omega) (by omega) fun other hother => ?_)
          rcases List.mem_cons.mp hother with rfl | hother
          · omega
          · have hle := hrest.le hother
            omega
      rw [spliced, hfront, htail, ih (htailLength ▸ hrest), hsplit, atOnce_append, hkept, hmade,
        List.append_assoc]

/-! ### No edit is left out -/

/-- Each edit finds its range in the text in which the edits before it have been made. -/
theorem make_inRange (h : Separate text.length found) {made left : List Edit} {edit : Edit}
    (hmade : sortFromEnd (found.map (Change.toEdit text.length)) = made ++ edit :: left) :
    edit.start ≤ edit.stop ∧ edit.stop ≤ (made.foldl Edit.make text).length := by
  rw [sortFromEnd_eq (h.pairwise (Nat.le_refl _)), List.reverse_eq_append_iff,
    List.reverse_cons] at hmade
  -- What is made before the edit are the changes behind it, in the text behind it.
  obtain ⟨upTo, rest, rfl, hupTo, hrest⟩ := List.map_eq_append_iff.mp hmade
  obtain ⟨front, last, rfl, -, hlast⟩ := List.map_eq_append_iff.mp hupTo
  obtain ⟨change, rfl, rfl⟩ := List.map_eq_singleton_iff.mp hlast
  rw [List.append_assoc] at h
  obtain ⟨hstop, hstart, -, hseparate⟩ : Separate text.length (change :: rest) :=
    h.behind fun _ hmem => h.le (List.mem_append_right front hmem)
  obtain rfl : made = (rest.map (Change.toEdit text.length)).reverse := by
    rw [hrest, List.reverse_reverse]
  have hbehind : (text.drop (text.length - change.span.stop)).length = change.span.stop :=
    length_behind (Nat.le_trans hstop hstart)
  have hlength : text.length = (text.take (text.length - change.span.stop)).length +
      (text.drop (text.length - change.span.stop)).length := by
    rw [← List.length_append, List.take_append_drop]
  have hkept := foldr_make_eq hlength (hbehind.symm ▸ hseparate)
  rw [List.take_append_drop] at hkept
  rw [List.foldl_reverse, List.foldr_map, hkept, List.length_append, List.length_take]
  show text.length - change.span.start ≤ text.length - change.span.stop ∧
    text.length - change.span.stop ≤ _
  omega

/-! ### What stands in the place of a name -/

section Place

variable {source : List Char} {nodes : List Script.Node} {place : Place} {hi lo : Nat}
  {path : List Nat} {index : Nat} {declared : List String}

/-- A change is that of the place, or it stands in front of the place or behind it. -/
theorem rewrites_beside_use (h : Node.InOrder source hi lo nodes)
    (hplace : place ∈ placesIn path index nodes) {name : String}
    (hname : usedName? place.node.kind = some name) {other : Change}
    (hother : other ∈ rewrites declared (placesIn path index nodes)) :
    (IsRewritten declared (placesIn path index nodes) place ∧ other = rewrite place.node) ∨
      other.span.start ≤ place.node.span.stop ∨
      place.node.span.start ≤ other.span.stop ∧ place.node.span.start < other.span.start := by
  obtain ⟨beside, hbeside, rfl⟩ := List.mem_map.mp hother
  obtain ⟨hbeside, hrewritten⟩ := List.mem_filter.mp hbeside
  have hrule := of_decide_eq_true hrewritten
  obtain ⟨used, hused, -⟩ := hrule
  have hnonempty := use_nonempty h hbeside hused
  obtain ⟨hstart, hstop⟩ := rewrite_bounds beside.node (Nat.le_of_lt hnonempty)
  rcases endsBefore_or_eq hplace hbeside (isLeaf_of_usedName hname) (isLeaf_of_usedName hused)
    with rfl | hends | hends
  · exact .inl ⟨of_decide_eq_true hrewritten, rfl⟩
  · have hbehind := spans_placesIn h hplace hbeside hends
    exact .inr (.inl (by omega))
  · have hbehind := spans_placesIn h hbeside hplace hends
    exact .inr (.inr (by omega))

/-- What stands in the place of a name when all names have been qualified. -/
def inPlace (source : List Char) (node : Script.Node) : List Char :=
  match node.kind with
  | .shorthand name => name.toList ++ [':', ' '] ++ contextPrefix ++ name.toList
  | _ => contextPrefix ++ node.span.slice source

/-- What is written in front of a name that is used is `_ctx.`, behind the name and a colon if it is
a shorthand. -/
theorem inPlace_eq {source : List Char} {node : Script.Node} {name : String}
    (hname : usedName? node.kind = some name) :
    inPlace source node =
      if node.kind = .shorthand name then (name ++ ": _ctx." ++ name).toList
      else "_ctx.".toList ++ node.span.slice source := by
  have hprefix : "_ctx.".toList = contextPrefix := by decide
  have hcolon : ": _ctx.".toList = [':', ' '] ++ contextPrefix := by decide
  obtain ⟨kind, span, parts⟩ := node
  change usedName? kind = some name at hname
  cases kind with
  | identifier used =>
      have hother : ¬ Kind.identifier used = .shorthand name := nofun
      show contextPrefix ++ span.slice source = if Kind.identifier used = .shorthand name then _
        else "_ctx.".toList ++ span.slice source
      rw [if_neg hother, hprefix]
  | shorthand used =>
      obtain rfl : used = name := Option.some.inj hname
      show used.toList ++ [':', ' '] ++ contextPrefix ++ used.toList =
        if Kind.shorthand used = .shorthand used then (used ++ ": _ctx." ++ used).toList else _
      rw [if_pos rfl, String.toList_append, String.toList_append, hcolon,
        List.append_assoc used.toList]
  | _ => cases hname

/-- A name that is rewritten has the prefix in front of it, and a shorthand becomes a property with
the name and the qualified name; any other name is left as it is. -/
theorem written_place (h : Node.InOrder source source.length 0 nodes)
    (hplace : place ∈ placesIn path index nodes) {name : String}
    (hname : usedName? place.node.kind = some name)
    (hseparate : Separate source.length (rewrites declared (placesIn path index nodes))) :
    written (rewrites declared (placesIn path index nodes)) place.node.span.stop
        (place.node.span.slice source) =
      if IsRewritten declared (placesIn path index nodes) place then inPlace source place.node
      else place.node.span.slice source := by
  have hnonempty := use_nonempty h hplace hname
  have hstart := (span_placesIn h hplace).start_le
  have hlength : place.node.span.stop + (place.node.span.slice source).length =
      place.node.span.start := by
    rw [Span.length_slice hstart]
    omega
  have hne : place.node.span.slice source ≠ [] := by
    intro hempty
    rw [hempty, List.length_nil] at hlength
    omega
  have hbeside : ∀ other ∈ rewrites declared (placesIn path index nodes),
      (IsRewritten declared (placesIn path index nodes) place ∧ other = rewrite place.node) ∨
        other.span.start ≤ place.node.span.stop ∨
        place.node.span.start ≤ other.span.stop ∧ place.node.span.start < other.span.start :=
    fun _ hother => rewrites_beside_use h hplace hname hother
  -- nothing else reaches into the name, so only its own change counts: for an identifier it goes in
  -- front and the name stays, for a shorthand it takes the place of the name
  split
  · rename_i hrewritten
    have hmem := (rewrite_mem_iff h hplace hname).mpr hrewritten
    obtain ⟨way, kind, span, parts⟩ := place
    change usedName? kind = some name at hname
    dsimp only [Node.span] at *
    cases kind with
    | identifier used =>
        have hapart : ∀ other ∈ rewrites declared (placesIn path index nodes),
            other.span.start ≤ span.stop ∨
              span.stop + (span.slice source).length ≤ other.span.stop := by
          intro other hother
          rw [hlength]
          rcases hbeside other hother with ⟨-, rfl⟩ | hbehind | hfront
          · exact .inr (Nat.le_refl _)
          · exact .inl hbehind
          · exact .inr hfront.1
        rw [written_kept hne (fun _ hother => hseparate.stop_le_start hother) hapart, hlength]
        exact congrArg (· ++ span.slice source) (writtenAt_start hmem hseparate.starts_nodup)
    | shorthand used =>
        refine written_replaced hmem hne hseparate.starts_nodup hlength.symm rfl
          fun other hother => ?_
        rw [hlength]
        rcases hbeside other hother with ⟨-, rfl⟩ | hbehind | hfront
        · exact .inr (Nat.le_refl _)
        · exact .inl hbehind
        · exact .inr (Nat.le_of_lt hfront.2)
    | _ => cases hname
  · rename_i hkept
    refine written_untouched fun other hother => ?_
    rcases hbeside other hother with ⟨hrewritten, -⟩ | hapart
    · exact absurd hrewritten hkept
    · rw [hlength]
      exact hapart

/-- So the text falls into what stands in front of a name, the name, and what stands behind it. -/
theorem atOnce_place (h : Node.InOrder source source.length 0 nodes)
    (hplace : place ∈ placesIn path index nodes) {name : String}
    (hname : usedName? place.node.kind = some name)
    (hseparate : Separate source.length (rewrites declared (placesIn path index nodes))) :
    let places := placesIn path index nodes
    let found := rewrites declared places
    let span := place.node.span
    source = source.take (source.length - span.start) ++
        (span.slice source ++ source.drop (source.length - span.stop)) ∧
      atOnce found source =
        written found span.start (source.take (source.length - span.start)) ++
          ((if IsRewritten declared places place then inPlace source place.node
            else span.slice source) ++
            atOnce found (source.drop (source.length - span.stop))) := by
  intro places found span
  have hfits := span_placesIn h hplace
  have hstart : span.start ≤ source.length := hfits.start_le
  have hstop : span.stop ≤ span.start := hfits.stop_le_start
  have hsplit := Span.split_text hstop hstart
  have hbehind : (source.drop (source.length - span.stop)).length = span.stop :=
    length_behind (Nat.le_trans hstop hstart)
  have hinside : (span.slice source ++ source.drop (source.length - span.stop)).length =
      span.start := by
    rw [List.length_append, hbehind, Span.length_slice hstart]
    omega
  refine ⟨hsplit, ?_⟩
  conv_lhs => rw [hsplit, atOnce_append, atOnce_append, hinside, hbehind]
  rw [written_place h hplace hname hseparate]

end Place

/-! ### Texts -/

/-- Edits that stand one behind the other do not overlap. -/
theorem Separate.apart {length total : Nat} (h : Separate length found) (htotal : length ≤ total) :
    (found.map (Change.toEdit total)).Pairwise fun edit other => edit.stop ≤ other.start := by
  induction found generalizing length with
  | nil => exact List.Pairwise.nil
  | cons change rest ih =>
      obtain ⟨hstop, hstart, -, hrest⟩ := h
      refine List.Pairwise.cons ?_ (ih hrest (by omega))
      intro edit hedit
      obtain ⟨other, hother, rfl⟩ := List.mem_map.mp hedit
      have hle := hrest.le hother
      show total - change.span.stop ≤ total - other.span.start
      omega

/-- The changes of a text that is read as the trees are those at the places that are rewritten, one
behind the other. -/
theorem rewrites_separate {source : List Char} {nodes : List Script.Node}
    (htrees : trees? source = some nodes) :
    changes? source = some (rewrites [] (placesIn [] 0 nodes)) ∧
      Separate source.length (rewrites [] (placesIn [] 0 nodes)) := by
  have hchanges : changes? source = some (rewrites [] (placesIn [] 0 nodes)) := by
    rw [changes?_eq_trees, htrees, ← changesIn_eq_rewrites]
    rfl
  refine ⟨hchanges, ?_⟩
  rw [changes?_eq] at hchanges
  obtain ⟨uses, huses, hsame⟩ := Option.map_eq_some_iff.mp hchanges
  rw [← hsame]
  exact changesOf_separate (uses?_inOrder huses)

/-- Qualifying the names of a text that can be read makes all its edits at once. They lie in the
text, start in different places and do not overlap, and none is left out when they are made one
after another. The result is the text with each edit made where it was found: what no edit replaces
is kept, a name that is rewritten has `_ctx.` directly in front of it, and a shorthand becomes a
property with the name and the qualified name. -/
theorem qualify_atOnce {content : String} {nodes : List Script.Node}
    (htrees : trees? content.toList = some nodes) :
    let source := content.toList
    let places := placesIn [] 0 nodes
    let found := rewrites [] places
    let edits := found.map (Change.toEdit source.length)
    changes? source = some found ∧
      (∀ edit ∈ edits, edit.start ≤ edit.stop ∧ edit.stop ≤ source.length) ∧
      (edits.Pairwise fun edit other => edit.start < other.start) ∧
      (edits.Pairwise fun edit other => edit.stop ≤ other.start) ∧
      (∀ (made left : List Edit) (edit : Edit), sortFromEnd edits = made ++ edit :: left →
        edit.start ≤ edit.stop ∧ edit.stop ≤ (made.foldl Edit.make source).length) ∧
      qualify content = some (String.ofList (atOnce found source)) ∧
      (∀ front text behind : List Char, source = front ++ (text ++ behind) → text ≠ [] →
        (∀ change ∈ found, change.span.start ≤ behind.length ∨
          (text ++ behind).length ≤ change.span.stop) →
        atOnce found source = written found (text ++ behind).length front ++
          (writtenAt found (text ++ behind).length ++ text ++ atOnce found behind)) ∧
      ∀ place ∈ places, ∀ name ∈ usedName? place.node.kind,
        let span := place.node.span
        source = source.take (source.length - span.start) ++
            (span.slice source ++ source.drop (source.length - span.stop)) ∧
          atOnce found source =
            written found span.start (source.take (source.length - span.start)) ++
              ((if IsRewritten [] places place then
                  if place.node.kind = .shorthand name then (name ++ ": _ctx." ++ name).toList
                  else "_ctx.".toList ++ span.slice source
                else span.slice source) ++
                atOnce found (source.drop (source.length - span.stop))) := by
  intro source places found edits
  obtain ⟨hchanges, hseparate⟩ := rewrites_separate htrees
  refine ⟨hchanges, ?_, hseparate.pairwise (Nat.le_refl _), hseparate.apart (Nat.le_refl _), ?_, ?_,
    ?_, ?_⟩
  · intro edit hedit
    obtain ⟨change, hchange, rfl⟩ := List.mem_map.mp hedit
    have hstop := hseparate.stop_le_start hchange
    show source.length - change.span.start ≤ source.length - change.span.stop ∧
      source.length - change.span.stop ≤ source.length
    omega
  · exact fun made left edit hmade => make_inRange hseparate hmade
  · unfold qualify
    dsimp only
    rw [hchanges, ← spliced_eq_atOnce hseparate]
    exact congrArg (some ∘ String.ofList) (makeEdits_eq_spliced hseparate)
  · intro front text behind hsource hne hapart
    rw [List.length_append, Nat.add_comm] at hapart
    rw [hsource, atOnce_append, atOnce_append,
      written_kept hne (fun _ hchange => hseparate.stop_le_start hchange) hapart,
      Nat.add_comm, ← List.length_append]
  · intro place hplace name hname
    obtain ⟨hsplit, hplaced⟩ := atOnce_place (trees?_inOrder htrees) hplace hname hseparate
    rw [inPlace_eq hname] at hplaced
    exact ⟨hsplit, hplaced⟩

/-- A shorthand, a function and its argument, and a name that is no ASCII letter are all replaced in
their places. -/
theorem qualify_atOnce_shorthand :
    ∃ nodes, trees? "(\x7b é \x7d = f(b)) + é".toList = some nodes ∧
      (rewrites [] (placesIn [] 0 nodes)).length = 4 ∧
      qualify "(\x7b é \x7d = f(b)) + é" =
        some (String.ofList (atOnce (rewrites [] (placesIn [] 0 nodes))
          "(\x7b é \x7d = f(b)) + é".toList)) := by
  have hread : (trees? "(\x7b é \x7d = f(b)) + é".toList).isSome := by decide +kernel
  obtain ⟨nodes, hnodes⟩ := Option.isSome_iff_exists.mp hread
  have hfour : (changes? "(\x7b é \x7d = f(b)) + é".toList).map List.length = some 4 := by
    decide +kernel
  have hmade := qualify_atOnce hnodes
  rw [hmade.1] at hfour
  exact ⟨nodes, hnodes, Option.some.inj hfour, hmade.2.2.2.2.2.1⟩

example : qualify "(\x7b é \x7d = f(b)) + é" =
    some "(\x7b é: _ctx.é \x7d = _ctx.f(_ctx.b)) + _ctx.é" := by
  decide +kernel

end MiniApp.Handler
