import Mathlib
import MiniApp.Proofs.Json.Kept
import MiniApp.Proofs.Json.NormalForm

/-!
# Known fields and the rest

The settings of a route share one object between fields that are known and members that are kept
whatever they are. Some of the fields have a name of their own in the object, some have a default,
and two are left out when they are missing. So a name might land on both sides, or on neither.

`Splits` says that it does not. `takeMembers_splits` shows it of the loop over the members, where a
member is taken either for the field of its name or for the rest. What is taken for a field has been
written in one way only, with the exception of the navigation bar, which is a record of its own.

In the other direction only the depth of what is kept can stand in the way: `decode_encode_iff`. As
for the normal form, a text is taken for the document that it reads as.
-/

set_option autoImplicit false

namespace MiniApp.Page.RouteSettings

open MiniApp.Json

/-- The names of the known fields. -/
def knownNames : List String :=
  ["id", "route", "isEntry", "isTabBar", "isNVue", "navigationBar", "disableScroll",
    "onReachBottomDistance"]

/-- The names of the fields that are left out when they are missing. -/
def optionalNames : List String :=
  ["id", "onReachBottomDistance"]

/-- These are the names of the fields that the decoder knows, in its order. -/
theorem names_fields : fields.map Decoder.Field.name = knownNames := rfl

/-- The draft of an object with these members. -/
def objectOf (members : List (String × Draft)) : Draft :=
  .object (members.map fun member => (.string member.1, member.2)) none

/-- The settings divide the members of an object among the known fields and the rest. -/
structure Splits (settings : RouteSettings) (members : List (String × Draft)) : Prop where
  /-- The rest is every member with another name, with its value. -/
  extra : settings.extra.map (fun member => (member.1, member.2.toDraft)) =
    members.filter fun member => member.1 ∉ knownNames
  /-- No name is written twice. -/
  names : ((settings.knownMembers ++ settings.extra).map Prod.fst).Nodup
  /-- The known fields are written, but those that may be missing only if they were given. -/
  written : ∀ name, name ∈ settings.knownMembers.map Prod.fst ↔ name ∈ knownNames ∧
    (name ∈ optionalNames → ∃ value, (name, value) ∈ members ∧ value ≠ .null)
  /-- They are written as they were given, the style of the navigation bar excepted. -/
  values : ∀ member ∈ settings.knownMembers, member.1 ≠ "navigationBar" →
    ∀ value, (member.1, value) ∈ members → member.2.toDraft = value

/-! ### Taking the members of an object -/

/-- No field has a name if and only if the name is not a known one. -/
theorem find?_field_eq_none {name : String} :
    fields.find? (fun field => field.name == name) = none ↔ name ∉ knownNames := by
  rw [List.find?_eq_none, ← names_fields]
  simp

/-- A member is taken for the field of its name, and kept if there is none. -/
theorem takeMembers_splits {depth : Nat} {members : List (Draft × Draft)}
    {given taken : List (String × Draft)} {extra kept : List (String × Value)}
    (h : Decoder.takeMembers fields (keep depth) given extra members = .ok (taken, kept))
    (hnames : (extra.map Prod.fst ++ namesOf members).Nodup)
    (hdistinct : ∀ member ∈ members, member.2.HasDistinctNames) :
    ∃ named : List (String × Draft),
      members = named.map (fun member => (.string member.1, member.2)) ∧
      kept.map (fun member => (member.1, member.2.toDraft)) =
        extra.map (fun member => (member.1, member.2.toDraft)) ++
          named.filter (fun member => member.1 ∉ knownNames) ∧
      ∀ name ∈ knownNames, taken.lookup name = (named.lookup name).or (given.lookup name) := by
  induction members generalizing given extra with
  | nil =>
      obtain ⟨rfl, rfl⟩ := Prod.mk.inj (Except.ok.inj h)
      exact ⟨[], by simp⟩
  | cons member rest ih =>
      obtain ⟨draft, value⟩ := member
      obtain ⟨hfirst, hlater⟩ := List.forall_mem_cons.mp hdistinct
      obtain ⟨name, hname, hstep⟩ := takeMembers_cons h
      obtain rfl := readsOnlyWritten_string draft name hname
      change (extra.map Prod.fst ++ name :: namesOf rest).Nodup at hnames
      obtain ⟨hnew, hothers⟩ := List.nodup_cons.mp (List.nodup_middle.mp hnames)
      rw [List.mem_append, not_or] at hnew
      rcases hstep with ⟨hunknown, made, hmade, hrest⟩ | ⟨hfield, hrest⟩
      · -- A member that is kept comes behind the rest so far, since its name is a new one.
        rw [find?_field_eq_none] at hunknown
        rw [setMember_new made hnew.1] at hrest
        obtain ⟨named, rfl, hkept, htaken⟩ := ih hrest (by simpa using hnames) hlater
        refine ⟨(name, value) :: named, rfl, ?_, fun known hknown => ?_⟩
        · rw [hkept]
          simp [hunknown, toDraft_of_value value made hmade hfirst]
        · have hne : (known == name) = false := by
            rw [beq_eq_false_iff_ne]
            rintro rfl
            exact hunknown hknown
          rw [htaken known hknown, List.lookup_cons, hne]
      · -- A member that is taken for a field is found under its name from now on.
        rw [ne_eq, find?_field_eq_none, not_not] at hfield
        obtain ⟨named, rfl, hkept, htaken⟩ := ih hrest hothers hlater
        refine ⟨(name, value) :: named, rfl, ?_, fun other hother => ?_⟩
        · rw [hkept]
          simp [hfield]
        · rw [htaken other hother, List.lookup_cons, List.lookup_cons]
          by_cases hsame : (other == name) = true
          · rw [namesOf_map named Prod.snd] at hnew
            rw [beq_iff_eq.mp hsame, lookup_eq_none_of_notMem hnew.2]
            simp
          · simp [hsame]

/-! ### What is made of the known fields -/

/-- What a field that was given is made of. -/
theorem toDraft_of_get {α : Type} {decoder : Decoder α} {encode : α → Value}
    (honly : ReadsOnlyWritten decoder encode) {given : Decoder.Given} {name : String}
    {absent : Except DecodeError α} {data : α} (h : given.get name decoder absent = .ok data)
    {draft : Draft} (hgiven : given.fields.lookup name = some draft) :
    (encode data).toDraft = draft := by
  unfold Decoder.Given.get at h
  rw [hgiven] at h
  exact honly draft data h

/-- A field that may be missing is there if it was given and is not null. -/
theorem isSome_of_default {α : Type} {decoder : Decoder α} {encode : α → Value}
    (honly : ReadsOnlyWritten decoder encode) (hnull : ∀ data, (encode data).toDraft ≠ .null)
    {given : Decoder.Given} {name : String} {data : Option α}
    (h : given.default name (Decoder.optional decoder) none = .ok data) :
    data.isSome ↔ ∃ draft, given.fields.lookup name = some draft ∧ draft ≠ .null := by
  cases hgiven : given.fields.lookup name with
  | none =>
      unfold Decoder.Given.default Decoder.Given.get at h
      rw [hgiven] at h
      obtain rfl := Except.ok.inj h
      simp
  | some draft =>
      have hwritten := toDraft_of_get (readsOnlyWritten_optional honly) h hgiven
      cases data with
      | none =>
          obtain rfl : Draft.null = draft := hwritten
          simp
      | some data =>
          obtain rfl : (encode data).toDraft = draft := hwritten
          simp [hnull]

/-- A field that may be missing is a member just if it has a value. -/
theorem mem_presentMember {name : String} {word : Option Nat} {member : String × Value} :
    member ∈ presentMember name (word.map ofNat) ↔
      ∃ n, word = some n ∧ member = (name, ofNat n) := by
  cases word <;> simp [presentMember]

/-- The members of settings that are known: one for each field, and those that may be missing only
if they have values. -/
theorem mem_knownMembers {settings : RouteSettings} {member : String × Value} :
    member ∈ settings.knownMembers ↔
      (∃ id, settings.id = some id ∧ member = ("id", ofNat id)) ∨
      member = ("route", .string settings.route) ∨
      member = ("isEntry", .bool settings.isEntry) ∨
      member = ("isTabBar", .bool settings.isTabBar) ∨
      member = ("isNVue", .bool settings.isNative) ∨
      member = ("navigationBar", encodeBar settings.navigationBar) ∨
      member = ("disableScroll", .bool settings.disableScroll) ∨
      ∃ distance, settings.onReachBottomDistance = some distance ∧
        member = ("onReachBottomDistance", ofNat distance) := by
  simp [knownMembers, mem_presentMember]

/-- Which of the known fields are written. -/
theorem mem_names_knownMembers {settings : RouteSettings} {name : String} :
    name ∈ settings.knownMembers.map Prod.fst ↔ name ∈ knownNames ∧
      (name = "id" → settings.id.isSome) ∧
      (name = "onReachBottomDistance" → settings.onReachBottomDistance.isSome) := by
  obtain ⟨id, route, isEntry, isTabBar, isNative, bar, disableScroll, distance, extra⟩ := settings
  cases id <;> cases distance <;> simp [knownMembers, presentMember, knownNames] <;> grind

/-- Among members with distinct names a member is found by its name. -/
theorem lookup_eq_some_of_nodup {members : List (String × Draft)}
    (hnames : (members.map Prod.fst).Nodup) {name : String} {value : Draft} :
    members.lookup name = some value ↔ (name, value) ∈ members := by
  induction members with
  | nil => simp
  | cons member rest ih =>
      obtain ⟨first, old⟩ := member
      rw [List.map_cons, List.nodup_cons] at hnames
      rw [List.lookup_cons, List.mem_cons, Prod.mk.injEq]
      by_cases hsame : name = first
      · subst hsame
        have hnew : (name, value) ∉ rest := by
          intro hmem
          have hname : name ∈ rest.map Prod.fst := List.mem_map_of_mem (f := Prod.fst) hmem
          exact hnames.1 hname
        simp [hnew, eq_comm]
      · have hne : (name == first) = false := beq_eq_false_iff_ne.mpr hsame
        rw [hne]
        simp [hsame, ih hnames.2]

section Given

variable {members : List (String × Draft)} {given : Decoder.Given}
  {extra : List (String × Value)} {settings : RouteSettings}

/-- The fields that are given are the known ones among the members. -/
def TakenFrom (members : List (String × Draft)) (given : Decoder.Given) : Prop :=
  ∀ name ∈ knownNames, ∀ value, (name, value) ∈ members ↔ given.fields.lookup name = some value

/-- A word that may be missing is there if it was given and is not null. -/
theorem TakenFrom.isSome_word (htaken : TakenFrom members given) {name : String}
    (hknown : name ∈ knownNames) {word : Option Nat}
    (h : given.default name (Decoder.optional Decoder.word) none = .ok word) :
    word.isSome ↔ ∃ value, (name, value) ∈ members ∧ value ≠ .null := by
  have hnull : ∀ n, (ofNat n).toDraft ≠ .null := fun n => by simp [ofNat, Value.toDraft]
  rw [isSome_of_default readsOnlyWritten_word hnull h]
  simp only [htaken name hknown]

/-- The fields that are written are those that are always there and those that were given. -/
theorem TakenFrom.written (htaken : TakenFrom members given)
    (h : ofGiven given extra = .ok settings) (name : String) :
    name ∈ settings.knownMembers.map Prod.fst ↔ name ∈ knownNames ∧
      (name ∈ optionalNames → ∃ value, (name, value) ∈ members ∧ value ≠ .null) := by
  simp only [ofGiven, bind_eq_ok] at h
  obtain ⟨id, hid, route, -, isEntry, -, isTabBar, -, isNative, -, bar, -, disableScroll, -,
    distance, hdistance, heq⟩ := h
  obtain rfl := Except.ok.inj heq
  have hid := htaken.isSome_word (by decide) hid
  have hdistance := htaken.isSome_word (by decide) hdistance
  -- Only two fields may be missing, and each of them is written if it was given.
  rw [mem_names_knownMembers]
  refine and_congr_right fun hknown => ?_
  constructor
  · rintro ⟨hidGiven, hdistanceGiven⟩ hoptional
    have hname : name = "id" ∨ name = "onReachBottomDistance" := by
      simpa [optionalNames] using hoptional
    rcases hname with rfl | rfl
    · exact hid.mp (hidGiven rfl)
    · exact hdistance.mp (hdistanceGiven rfl)
  · intro hoptional
    constructor
    · rintro rfl
      exact hid.mpr (hoptional (by decide))
    · rintro rfl
      exact hdistance.mpr (hoptional (by decide))

/-- Each known field but one admits a value in one way only, so that it is written as given. -/
theorem TakenFrom.values (htaken : TakenFrom members given)
    (h : ofGiven given extra = .ok settings) {member : String × Value}
    (hmem : member ∈ settings.knownMembers) (hbar : member.1 ≠ "navigationBar") {value : Draft}
    (hvalue : (member.1, value) ∈ members) : member.2.toDraft = value := by
  simp only [ofGiven, bind_eq_ok] at h
  obtain ⟨id, hid, route, hroute, isEntry, hisEntry, isTabBar, hisTabBar, isNative, hisNative,
    bar, -, disableScroll, hdisableScroll, distance, hdistance, heq⟩ := h
  obtain rfl := Except.ok.inj heq
  have hknown : member.1 ∈ knownNames :=
    (mem_names_knownMembers.mp (List.mem_map_of_mem (f := Prod.fst) hmem)).1
  rw [htaken member.1 hknown] at hvalue
  have hword := readsOnlyWritten_optional readsOnlyWritten_word
  -- One case for each field, in their order.
  rcases mem_knownMembers.mp hmem with ⟨id, rfl, rfl⟩ | rfl | rfl | rfl | rfl | rfl | rfl |
    ⟨distance, rfl, rfl⟩
  · exact toDraft_of_get hword hid hvalue
  · exact toDraft_of_get readsOnlyWritten_string hroute hvalue
  · exact toDraft_of_get readsOnlyWritten_bool hisEntry hvalue
  · exact toDraft_of_get readsOnlyWritten_bool hisTabBar hvalue
  · exact toDraft_of_get readsOnlyWritten_bool hisNative hvalue
  · exact absurd rfl hbar
  · exact toDraft_of_get readsOnlyWritten_bool hdisableScroll hvalue
  · exact toDraft_of_get hword hdistance hvalue

/-- No name is written twice, since a name of the rest is not that of a field. -/
theorem nodup_names (hsound : settings.IsSound) (hnames : (members.map Prod.fst).Nodup)
    (hextra : settings.extra.map (fun member => (member.1, member.2.toDraft)) =
      members.filter fun member => member.1 ∉ knownNames) :
    ((settings.knownMembers ++ settings.extra).map Prod.fst).Nodup := by
  have hfields : (fields.map Decoder.Field.name).Nodup := by decide
  have hrest : settings.extra.map Prod.fst =
      (members.filter fun member => member.1 ∉ knownNames).map Prod.fst := by
    rw [← hextra, List.map_map]
    rfl
  rw [List.map_append, List.nodup_append, hrest]
  refine ⟨hfields.sublist (fits_knownMembers hsound).names,
    hnames.sublist (List.filter_sublist.map Prod.fst), ?_⟩
  intro name hknown other hother
  obtain ⟨member, hmem, rfl⟩ := List.mem_map.mp hother
  have hunknown : member.1 ∉ knownNames := by simpa using (List.mem_filter.mp hmem).2
  rintro rfl
  exact hunknown (mem_names_knownMembers.mp hknown).1

end Given

/-- Settings that are decoded from an object with distinct names divide its members. -/
theorem splits_of_decode {outside : Nat} {draft : Draft} {settings : RouteSettings}
    (h : decodeInside outside draft = .ok settings) (hdistinct : draft.HasDistinctNames) :
    ∃ members, draft = objectOf members ∧ settings.Splits members := by
  obtain ⟨members, given, extra, rfl, htaken, hmade⟩ := decodeInside_eq_ok.mp h
  obtain ⟨hnames, hvalues⟩ := (hasDistinctNames_object _ _).mp hdistinct
  obtain ⟨named, rfl, hkept, hgiven⟩ := takeMembers_splits htaken (by simpa using hnames) hvalues
  rw [namesOf_map named Prod.snd] at hnames
  obtain ⟨hsound, rfl⟩ := isSound_ofGiven hmade
  have hextra : settings.extra.map (fun member => (member.1, member.2.toDraft)) =
      named.filter fun member => member.1 ∉ knownNames := by simpa using hkept
  have htaken : TakenFrom named ⟨given, .missingField⟩ := by
    intro name hknown value
    rw [hgiven name hknown, List.lookup_nil, Option.or_none, lookup_eq_some_of_nodup hnames]
  exact ⟨named, rfl, {
    extra := hextra
    names := nodup_names hsound hnames hextra
    written := htaken.written hmade
    values := fun member hmem hbar value hvalue => htaken.values hmade hmem hbar hvalue }⟩

/-! ### Decoding what has been encoded -/

/-- Settings as they can be held: words in their range, and names that are distinct at every
level. -/
structure IsProper (settings : RouteSettings) : Prop where
  id : ∀ id ∈ settings.id, id ≤ Decoder.maxWord
  distance : ∀ distance ∈ settings.onReachBottomDistance, distance ≤ Decoder.maxWord
  names : (settings.extra.map Prod.fst).Nodup
  distinct : ∀ member ∈ settings.extra, member.2.toDraft.HasDistinctNames

/-- A word in its range reads back, and so does one that is missing. -/
theorem readsBack_optionalWord {word : Option Nat} (h : ∀ n ∈ word, n ≤ Decoder.maxWord) :
    ReadsBack (Decoder.optional Decoder.word) (fun word => ofOption (word.map ofNat)) word := by
  cases word with
  | none => rfl
  | some n =>
      have hrange : (0 : Int) ≤ n ∧ (n : Int) ≤ Decoder.maxWord :=
        ⟨Int.natCast_nonneg n, Int.ofNat_le.mpr (h n rfl)⟩
      simp [ReadsBack, ofOption, ofNat, Value.toDraft, Decoder.optional, Decoder.word, hrange,
        Except.map]

/-- A navigation bar reads back. -/
theorem readsBack_bar (bar : NavigationBar) : ReadsBack decodeBar encodeBar bar := by
  cases bar <;> rfl

/-- Proper settings read back field by field. -/
theorem IsProper.isSound {settings : RouteSettings} (h : settings.IsProper) : settings.IsSound :=
  ⟨readsBack_optionalWord h.id, readsBack_bar _, readsBack_optionalWord h.distance⟩

/-- Settings whose rest has no name of a field read back as long as the rest is not too deep. -/
theorem readsBack_iff_depth {outside : Nat} {settings : RouteSettings} (hproper : settings.IsProper)
    (hunknown : ∀ member ∈ settings.extra, member.1 ∉ knownNames) :
    ReadsBack (decodeInside outside) encode settings ↔
      ∀ member ∈ settings.extra, member.2.depth ≤ maxDepth - (outside + 1) := by
  constructor
  · -- Only what is not too deep is kept, and what was kept is the rest itself.
    intro h
    obtain ⟨members, given, extra, -, htaken, hmade⟩ := decodeInside_eq_ok.mp h
    obtain ⟨-, rfl⟩ := isSound_ofGiven hmade
    have hnone : AreKept (maxDepth - (outside + 1)) [] :=
      ⟨⟨List.nodup_nil, by simp⟩, by simp⟩
    have hkept := takeMembers_areKept hnone htaken
    intro member hmem
    exact depth_of_value _ _ (hkept.readBack.data member hmem)
  · intro h
    refine readsBack_inside hproper.isSound ⟨⟨hproper.names, ?_⟩, ?_⟩
    · intro member hmem
      exact readsBack_of_depth member.2 (h member hmem) (hproper.distinct member hmem)
    · intro member hmem
      exact find?_field_eq_none.mpr (hunknown member hmem)

/-- In a text the object itself is one more container around the rest. -/
theorem decode_encode_iff {settings : RouteSettings} (hproper : settings.IsProper)
    (hunknown : ∀ member ∈ settings.extra, member.1 ∉ knownNames) :
    Codec.decode (encode settings).toDraft = .ok settings ↔
      ∀ member ∈ settings.extra, member.2.depth < maxDepth := by
  have hdepth : ∀ value : Value, value.depth < maxDepth ↔ value.depth ≤ maxDepth - (0 + 1) := by
    intro value
    unfold maxDepth
    omega
  simp only [hdepth]
  exact readsBack_iff_depth hproper hunknown

/-- The settings of a route divide every object with distinct names among the known fields and the
rest, without loss and without overlap, and are written as an object that does the same. Conversely,
settings whose rest has no name of a field are decoded again from what they are written as, exactly
when the rest is not too deep for a text: with the object around it no more containers may lie in
one another than `maxDepth`. -/
theorem decode_splits_members :
    (∀ text (settings : RouteSettings), decodeText text = .ok settings →
      (readDocument text).draft.HasDistinctNames →
        ∃ members, (readDocument text).draft = objectOf members ∧ settings.Splits members ∧
          encode settings = .object (settings.knownMembers ++ settings.extra)) ∧
      ∀ settings : RouteSettings, settings.IsProper →
        (∀ member ∈ settings.extra, member.1 ∉ knownNames) →
          (Codec.decode (encode settings).toDraft = .ok settings ↔
            ∀ member ∈ settings.extra, member.2.depth < maxDepth) ∧
          ∀ written, readDocument written = ⟨(encode settings).toDraft, none⟩ →
            (decodeText written = .ok settings ↔
              ∀ member ∈ settings.extra, member.2.depth < maxDepth) := by
  constructor
  · intro text settings h hdistinct
    obtain ⟨hdecoded, -⟩ := decodeText_eq_ok.mp h
    obtain ⟨members, hmembers, hsplits⟩ := splits_of_decode hdecoded hdistinct
    exact ⟨members, hmembers, hsplits, rfl⟩
  · intro settings hproper hunknown
    have hback := decode_encode_iff hproper hunknown
    refine ⟨hback, fun written hwritten => ?_⟩
    rw [decodeText_eq_ok, hwritten, hback]
    simp

/-! ### Two objects -/

/-- Null inside so many arrays. -/
def nested : Nat → Value
  | 0 => .null
  | count + 1 => .array [nested count]

/-- Null inside so many arrays is that deep. -/
theorem depth_nested (count : Nat) : (nested count).depth = count := by
  induction count with
  | zero => rfl
  | succ count ih => simp [nested, Value.depth, depthOfItems, ih]

/-- It holds no object, and so no two names that are the same. -/
theorem hasDistinctNames_nested (count : Nat) : (nested count).toDraft.HasDistinctNames := by
  induction count with
  | zero => exact .scalar rfl
  | succ count ih => simpa [nested, Value.toDraft, draftItems] using ih

/-- Settings with one member that is not known. -/
def withExtra (value : Value) : RouteSettings :=
  { id := some 7, route := "a", extra := [("x", value)] }

/-- The settings with one more member are proper if the member is. -/
theorem isProper_withExtra {value : Value} (h : value.toDraft.HasDistinctNames) :
    (withExtra value).IsProper where
  id := by simp [withExtra, Decoder.maxWord]
  distance := by simp [withExtra]
  names := by simp [withExtra]
  distinct := by simpa [withExtra] using h

/-- This member has none of the known names. -/
theorem unknown_withExtra (value : Value) :
    ∀ member ∈ (withExtra value).extra, member.1 ∉ knownNames := by
  simp [withExtra, knownNames]

/-- A text for such settings, with a member that is not known between two fields. -/
def sample : String :=
  "\x7b\"route\":\"a\",\"x\":[null],\"id\":7\x7d"

/-- The member is kept, and all is decoded again from what is written. -/
theorem decode_splits_members_sample :
    decodeText sample = .ok (withExtra (nested 1)) ∧
      (∃ members, (readDocument sample).draft = objectOf members ∧
        (withExtra (nested 1)).Splits members) ∧
      Codec.decode (encode (withExtra (nested 1))).toDraft = .ok (withExtra (nested 1)) := by
  obtain ⟨hsplits, hback⟩ := decode_splits_members
  have hdecoded : decodeText sample = .ok (withExtra (nested 1)) := by cbv
  have hread : (readDocument sample).draft = .object [(.string "route", .string "a"),
      (.string "x", .array [.null] none), (.string "id", .number (.integer 7))] none := by
    cbv
  have hdistinct : (readDocument sample).draft.HasDistinctNames := by
    rw [hread]
    refine .object (by decide) fun member hmem => ?_
    simp only [List.mem_cons, List.not_mem_nil, or_false] at hmem
    rcases hmem with rfl | rfl | rfl
    · exact .scalar rfl
    · exact hasDistinctNames_nested 1
    · exact .scalar rfl
  obtain ⟨members, hmembers, hsplit, -⟩ := hsplits sample _ hdecoded hdistinct
  refine ⟨hdecoded, ⟨members, hmembers, hsplit⟩, ?_⟩
  have hproper := isProper_withExtra (hasDistinctNames_nested 1)
  rw [(hback _ hproper (unknown_withExtra _)).1]
  simp [withExtra, depth_nested, maxDepth]

/-- Settings that can be held, but are not decoded again: their rest has no name of a field, and as
many containers lie in one another as may in a text, without the object around them. -/
theorem nested_refused :
    (withExtra (nested maxDepth)).IsProper ∧
      (∀ member ∈ (withExtra (nested maxDepth)).extra, member.1 ∉ knownNames) ∧
      Codec.decode (encode (withExtra (nested maxDepth))).toDraft ≠
        .ok (withExtra (nested maxDepth)) := by
  have hproper := isProper_withExtra (hasDistinctNames_nested maxDepth)
  have hunknown := unknown_withExtra (nested maxDepth)
  refine ⟨hproper, hunknown, fun hback => ?_⟩
  have hdepth := (decode_encode_iff hproper hunknown).mp hback
  simp [withExtra, depth_nested, maxDepth] at hdepth

end MiniApp.Page.RouteSettings
