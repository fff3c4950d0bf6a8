import MiniApp.Proofs.Json.RoundTrip

/-!
# Values that are kept as they are

A value that is kept can change in two ways only. Of two members with one name the later is taken,
so that the object gets smaller; and a value is refused in which too many containers lie in one
another. Where names are distinct and the containers are few enough nothing else happens.

* `toDraft_of_value`: what is kept of a draft with distinct names is written as that very draft.
* `depth_of_value`: what is kept is never deeper than the limit.
* `readsBack_of_depth`: whatever is not deeper, and has distinct names, is kept.

The inductions are on the limit, which falls with each container around what is left.
-/

set_option autoImplicit false

namespace MiniApp.Json

/-! ### Distinct names -/

/-- The text of a string without faults. -/
def Draft.text? : Draft → Option String
  | .string value => some value
  | _ => none

/-- The names of members as far as they have no faults. -/
def namesOf (members : List (Draft × Draft)) : List String :=
  members.filterMap fun member => member.1.text?

/-- Whether the draft holds no other drafts. -/
def Draft.isScalar : Draft → Bool
  | .array .. | .object .. => false
  | _ => true

/-- No object in the draft has two members with one name. -/
inductive Draft.HasDistinctNames : Draft → Prop
  | scalar {draft : Draft} (h : draft.isScalar) : draft.HasDistinctNames
  | array {items : List Draft} {ending : Option Fault}
      (hitems : ∀ item ∈ items, item.HasDistinctNames) :
      (Draft.array items ending).HasDistinctNames
  | object {members : List (Draft × Draft)} {ending : Option Fault}
      (hnames : (namesOf members).Nodup)
      (hmembers : ∀ member ∈ members, member.2.HasDistinctNames) :
      (Draft.object members ending).HasDistinctNames

/-- Names are distinct in an array if they are in each of its items. -/
@[simp]
theorem hasDistinctNames_array (items : List Draft) (ending : Option Fault) :
    (Draft.array items ending).HasDistinctNames ↔ ∀ item ∈ items, item.HasDistinctNames := by
  constructor
  · intro h
    cases h with
    | scalar h => exact nomatch h
    | array hitems => exact hitems
  · exact .array

/-- They are in an object if its own names are distinct and those in each of its members are. -/
@[simp]
theorem hasDistinctNames_object (members : List (Draft × Draft)) (ending : Option Fault) :
    (Draft.object members ending).HasDistinctNames ↔
      (namesOf members).Nodup ∧ ∀ member ∈ members, member.2.HasDistinctNames := by
  constructor
  · intro h
    cases h with
    | scalar h => exact nomatch h
    | object hnames hmembers => exact ⟨hnames, hmembers⟩
  · rintro ⟨hnames, hmembers⟩
    exact .object hnames hmembers

/-- Items are written one by one. -/
theorem draftItems_eq (items : List Value) : draftItems items = items.map Value.toDraft := by
  induction items with
  | nil => rfl
  | cons item rest ih => rw [draftItems, ih, List.map_cons]

/-- Where the names have no faults they are the names. -/
theorem namesOf_map {α : Type} (members : List (String × α)) (value : String × α → Draft) :
    namesOf (members.map fun member => (.string member.1, value member)) =
      members.map Prod.fst := by
  rw [namesOf, List.filterMap_map]
  exact congrFun (List.filterMap_eq_map (f := Prod.fst)) members

/-- Members are written under their names. -/
@[simp]
theorem namesOf_draftMembers (members : List (String × Value)) :
    namesOf (draftMembers members) = members.map Prod.fst := by
  rw [draftMembers_eq, namesOf_map]

/-! ### Depth -/

mutual

/-- The number of containers that lie in one another in a value. -/
def Value.depth : Value → Nat
  | .array items => depthOfItems items + 1
  | .object members => depthOfMembers members + 1
  | .null | .bool _ | .number _ | .string _ => 0

/-- The number of containers that lie in one another in the deepest of the items. -/
def depthOfItems : List Value → Nat
  | [] => 0
  | item :: rest => max item.depth (depthOfItems rest)

/-- The number of containers that lie in one another in the deepest of the members. -/
def depthOfMembers : List (String × Value) → Nat
  | [] => 0
  | member :: rest => max (depthOfMember member) (depthOfMembers rest)

/-- The number of containers that lie in one another in the value of the member. -/
def depthOfMember : String × Value → Nat
  | (_, value) => value.depth

end

/-- An array is one container deeper than its items. -/
@[simp]
theorem depth_array_le (items : List Value) (depth : Nat) :
    (Value.array items).depth ≤ depth + 1 ↔ ∀ item ∈ items, item.depth ≤ depth := by
  rw [Value.depth, Nat.add_le_add_iff_right]
  induction items with
  | nil => simp [depthOfItems]
  | cons item rest ih => rw [depthOfItems, Nat.max_le, ih, List.forall_mem_cons]

/-- So is an object than the values of its members. -/
@[simp]
theorem depth_object_le (members : List (String × Value)) (depth : Nat) :
    (Value.object members).depth ≤ depth + 1 ↔ ∀ member ∈ members, member.2.depth ≤ depth := by
  rw [Value.depth, Nat.add_le_add_iff_right]
  induction members with
  | nil => simp [depthOfMembers]
  | cons member rest ih =>
      obtain ⟨name, value⟩ := member
      rw [depthOfMembers, depthOfMember, Nat.max_le, ih, List.forall_mem_cons]

/-! ### Data that is written in one way -/

/-- A decoder makes data only of what the encoder makes of that data. -/
def ReadsOnlyWritten {α : Type} (decoder : Decoder α) (encode : α → Value) : Prop :=
  ∀ draft data, decoder draft = .ok data → (encode data).toDraft = draft

/-- The decoder of truth values makes them only of truth values. -/
theorem readsOnlyWritten_bool : ReadsOnlyWritten Decoder.bool .bool := by
  intro draft value h
  cases draft with
  | bool given =>
      obtain rfl := Except.ok.inj h
      rfl
  | _ => exact nomatch h

/-- The decoder of strings makes them only of strings. -/
theorem readsOnlyWritten_string : ReadsOnlyWritten Decoder.string .string := by
  intro draft text h
  cases draft with
  | string given =>
      obtain rfl := Except.ok.inj h
      rfl
  | _ => exact nomatch h

/-- The decoder of words makes them only of whole numbers as they are written. -/
theorem readsOnlyWritten_word : ReadsOnlyWritten Decoder.word ofNat := by
  intro draft n h
  cases draft with
  | number number =>
      cases number with
      | integer value =>
          rw [Decoder.word] at h
          split at h
          · rename_i hrange
            obtain rfl := Except.ok.inj h
            rw [ofNat, Value.toDraft, Int.toNat_of_nonneg hrange.1]
          · cases h
      | double value => simp [Decoder.word, Decoder.mismatch] at h
  | _ => simp [Decoder.word, Decoder.mismatch] at h

/-- Data that may be missing is made only of null, or of what the data is written as. -/
theorem readsOnlyWritten_optional {α : Type} {decoder : Decoder α} {encode : α → Value}
    (h : ReadsOnlyWritten decoder encode) :
    ReadsOnlyWritten (Decoder.optional decoder) fun data => ofOption (data.map encode) := by
  intro draft data hdata
  unfold Decoder.optional at hdata
  split at hdata
  · obtain rfl := Except.ok.inj hdata
    rfl
  · obtain ⟨made, hmade, rfl⟩ := map_eq_ok.mp hdata
    exact h draft made hmade

/-! ### What is kept -/

section Kept

variable {depth : Nat}

/-- What is kept of items is written as these items, if that is so of each. -/
theorem draftItems_of_mapM
    (hvalue : ∀ draft value, Draft.value depth draft = .ok value → draft.HasDistinctNames →
      value.toDraft = draft)
    {drafts : List Draft} {items : List Value} (h : drafts.mapM (Draft.value depth) = .ok items)
    (hdistinct : ∀ draft ∈ drafts, draft.HasDistinctNames) : draftItems items = drafts := by
  induction drafts generalizing items with
  | nil =>
      obtain rfl := Except.ok.inj h
      rfl
  | cons draft rest ih =>
      rw [List.mapM_cons] at h
      obtain ⟨item, hitem, hrest⟩ := bind_eq_ok.mp h
      obtain ⟨others, hothers, heq⟩ := bind_eq_ok.mp hrest
      obtain rfl := Except.ok.inj heq
      obtain ⟨hfirst, hlater⟩ := List.forall_mem_cons.mp hdistinct
      rw [draftItems, hvalue draft item hitem hfirst, ih hothers hlater]

/-- Members with distinct names are kept one behind the other, each with its own value. -/
theorem draftMembers_of_membersOf
    (hvalue : ∀ draft value, Draft.value depth draft = .ok value → draft.HasDistinctNames →
      value.toDraft = draft)
    {drafts : List (Draft × Draft)} {known members : List (String × Value)}
    (h : Decoder.membersOf (Draft.value depth) known drafts = .ok members)
    (hnames : (known.map Prod.fst ++ namesOf drafts).Nodup)
    (hdistinct : ∀ draft ∈ drafts, draft.2.HasDistinctNames) :
    draftMembers members = draftMembers known ++ drafts := by
  induction drafts generalizing known with
  | nil =>
      obtain rfl := Except.ok.inj h
      rw [List.append_nil]
  | cons draft rest ih =>
      obtain ⟨name, value⟩ := draft
      obtain ⟨hfirst, hlater⟩ := List.forall_mem_cons.mp hdistinct
      obtain ⟨text, htext, hrest⟩ := bind_eq_ok.mp h
      obtain ⟨made, hmade, hrest⟩ := bind_eq_ok.mp hrest
      obtain rfl := readsOnlyWritten_string name text htext
      change (known.map Prod.fst ++ text :: namesOf rest).Nodup at hnames
      rw [setMember_next made hnames] at hrest
      rw [ih hrest (by simpa using hnames) hlater]
      simp [draftMembers_eq, hvalue value made hmade hfirst, Value.toDraft]

end Kept

/-- What is kept of a draft with distinct names is written as that draft. -/
theorem toDraft_of_value {depth : Nat} (draft : Draft) (value : Value)
    (h : Draft.value depth draft = .ok value) (hdistinct : draft.HasDistinctNames) :
    value.toDraft = draft := by
  induction depth using Nat.strongRecOn generalizing draft value with
  | ind depth ih =>
  cases value_eq_ok.mp h with
  | null | bool | number | string => rfl
  | array hdepth hitems =>
      rw [hasDistinctNames_array] at hdistinct
      rw [Value.toDraft, draftItems_of_mapM (ih _ (by omega)) hitems hdistinct]
  | object hdepth hmembers =>
      obtain ⟨hnames, hvalues⟩ := (hasDistinctNames_object _ _).mp hdistinct
      rw [Value.toDraft, draftMembers_of_membersOf (ih _ (by omega)) hmembers hnames hvalues]
      rfl

/-- In what is kept no more containers lie in one another than may. -/
theorem depth_of_value {depth : Nat} (draft : Draft) (value : Value)
    (h : Draft.value depth draft = .ok value) : value.depth ≤ depth := by
  induction depth using Nat.strongRecOn generalizing draft value with
  | ind depth ih =>
  cases value_eq_ok.mp h with
  | null | bool | number | string => exact Nat.zero_le depth
  | array hdepth hitems =>
      rw [hdepth, depth_array_le]
      exact forall_of_mapM (ih _ (by omega)) hitems
  | object hdepth hmembers =>
      rw [hdepth, depth_object_le]
      exact forall_of_membersOf (ih _ (by omega)) hmembers (by simp)

/-- A value with distinct names is kept if no more containers lie in one another than may. -/
theorem readsBack_of_depth {depth : Nat} (value : Value) (hdepth : value.depth ≤ depth)
    (hdistinct : value.toDraft.HasDistinctNames) :
    ReadsBack (Draft.value depth) (fun value => value) value := by
  -- Each container takes one from the depth that is left for its parts.
  induction depth generalizing value with
  | zero =>
      cases value with
      | null | bool | number | string => simp [ReadsBack, Value.toDraft, Draft.value]
      | array | object => exact absurd hdepth (Nat.not_succ_le_zero _)
  | succ depth ih =>
      rw [ReadsBack, value_eq_ok]
      cases value with
      | null => exact .null
      | bool value => exact .bool value
      | number value => exact .number value
      | string value => exact .string value
      | array items =>
          rw [depth_array_le] at hdepth
          rw [Value.toDraft, hasDistinctNames_array, draftItems_eq, List.forall_mem_map]
            at hdistinct
          have hback : ∀ item ∈ items, ReadsBack (Draft.value depth) (fun value => value) item :=
            fun item hmem => ih item (hdepth item hmem) (hdistinct item hmem)
          have hitems := mapM_draftItems hback
          rw [List.map_id'] at hitems
          exact .array rfl hitems
      | object members =>
          rw [depth_object_le] at hdepth
          rw [Value.toDraft, hasDistinctNames_object, namesOf_draftMembers, draftMembers_eq,
            List.forall_mem_map] at hdistinct
          obtain ⟨hnames, hvalues⟩ := hdistinct
          have hback : AreReadBack (Draft.value depth) (fun value => value) ([] ++ members) :=
            ⟨hnames, fun member hmem => ih member.2 (hdepth member hmem) (hvalues member hmem)⟩
          have hmembers := membersOf_draftMembers hback
          rw [List.map_id', List.nil_append] at hmembers
          exact .object rfl hmembers

end MiniApp.Json
