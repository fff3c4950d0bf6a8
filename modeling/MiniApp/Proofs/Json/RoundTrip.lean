import MiniApp.Json.Decode
import Mathlib.Data.List.Nodup

/-!
# Data that reads back

A decoder accepts many ways of writing the same data: fields in any order and fields left out, names
that are not known, an array in the place of an object, null for what is missing. An encoder writes
one of them. `RoundTrips` says that this is a normal form: whatever a decoder makes of a draft, it
makes the same of the draft of what the encoder writes.

* `roundTrips_optional` and its neighbours: data that is composed reads back if its parts do.
* `roundTrips_value`: a value that is kept as it is reads back, with the same depth for containers.
* `record_encoded`: what a record gives that is written with checked fields. A record then reads
  back as soon as each of its fields does.
-/

set_option autoImplicit false

namespace MiniApp.Json

variable {α β ε : Type}

/-! ### Success -/

/-- Two steps succeed if the first one does and the second one does with its answer. -/
theorem bind_eq_ok {answer : Except ε α} {next : α → Except ε β} {b : β} :
    answer >>= next = .ok b ↔ ∃ a, answer = .ok a ∧ next a = .ok b := by
  cases answer with
  | error error => simp [bind, Except.bind]
  | ok a => simp [bind, Except.bind]

/-- A changed answer is the change of an answer. -/
theorem map_eq_ok {answer : Except ε α} {change : α → β} {b : β} :
    answer.map change = .ok b ↔ ∃ a, answer = .ok a ∧ change a = b := by
  cases answer with
  | error error => simp [Except.map]
  | ok a => simp [Except.map]

/-- What a decoder makes of data that is written is that data. -/
def ReadsBack (decoder : Decoder α) (encode : α → Value) (data : α) : Prop :=
  decoder (encode data).toDraft = .ok data

/-- Whatever a decoder makes reads back. -/
def RoundTrips (decoder : Decoder α) (encode : α → Value) : Prop :=
  ∀ draft data, decoder draft = .ok data → ReadsBack decoder encode data

/-! ### Plain data -/

/-- A truth value reads back. -/
theorem readsBack_bool (value : Bool) : ReadsBack Decoder.bool .bool value := by
  simp [ReadsBack, Value.toDraft, Decoder.bool]

/-- A string reads back. -/
theorem readsBack_string (text : String) : ReadsBack Decoder.string .string text := by
  simp [ReadsBack, Value.toDraft, Decoder.string]

/-- A double reads back, bit by bit. -/
theorem readsBack_double (number : Double) : ReadsBack Decoder.double ofDouble number := by
  simp [ReadsBack, ofDouble, Value.toDraft, Decoder.double]

/-- A number of 32 bits is written as the integer that it is, which is in the range again. -/
theorem roundTrips_word : RoundTrips Decoder.word ofNat := by
  intro draft n h
  unfold Decoder.word at h
  split at h
  · split at h
    · rename_i value hrange
      obtain rfl := Except.ok.inj h
      have hword : (0 : Int) ≤ value.toNat ∧ (value.toNat : Int) ≤ Decoder.maxWord := by omega
      simp only [ReadsBack, ofNat, Value.toDraft, Decoder.word, if_pos hword]
      rfl
    · exact nomatch h
  · exact nomatch h

/-! ### Composed data -/

section Composed

variable {decoder : Decoder α} {encode : α → Value}

/-- Data that may be missing is written as null when it is, so no other data may be. -/
theorem roundTrips_optional (h : RoundTrips decoder encode)
    (hnull : ∀ data, (encode data).toDraft ≠ .null) :
    RoundTrips (Decoder.optional decoder) fun data => ofOption (data.map encode) := by
  intro draft data hdata
  cases data with
  | none => simp [ReadsBack, ofOption, Value.toDraft, Decoder.optional]
  | some data =>
      have hread : ∃ draft, decoder draft = .ok data := by
        unfold Decoder.optional at hdata
        split at hdata
        · exact nomatch hdata
        · rename_i other hother
          obtain ⟨made, hmade, heq⟩ := map_eq_ok.mp hdata
          obtain rfl := Option.some.inj heq
          exact ⟨_, hmade⟩
      obtain ⟨draft, hread⟩ := hread
      -- What was read is not null, so it is not written as if it were missing.
      show Decoder.optional decoder (encode data).toDraft = _
      unfold Decoder.optional
      split
      · rename_i hdraft
        exact absurd hdraft (hnull data)
      · rw [h draft data hread]
        rfl

/-- Members are written one by one, the name as a string. -/
theorem draftMembers_eq (members : List (String × Value)) :
    draftMembers members =
      members.map fun member => (.string member.1, member.2.toDraft) := by
  induction members with
  | nil => rfl
  | cons member rest ih =>
      obtain ⟨name, value⟩ := member
      simp [draftMembers, draftMember, ih]

/-- All items that are decoded have a property that whatever is decoded has. -/
theorem forall_of_mapM {P : α → Prop} (hitem : ∀ draft item, decoder draft = .ok item → P item)
    {drafts : List Draft} {items : List α} (h : drafts.mapM decoder = .ok items) :
    ∀ item ∈ items, P item := by
  induction drafts generalizing items with
  | nil =>
      obtain rfl := Except.ok.inj h
      simp
  | cons draft rest ih =>
      rw [List.mapM_cons] at h
      obtain ⟨item, hmade, hrest⟩ := bind_eq_ok.mp h
      obtain ⟨others, hothers, heq⟩ := bind_eq_ok.mp hrest
      obtain rfl := Except.ok.inj heq
      exact List.forall_mem_cons.mpr ⟨hitem draft item hmade, ih hothers⟩

/-- Items that read back do so together. -/
theorem mapM_draftItems {items : List α} (h : ∀ item ∈ items, ReadsBack decoder encode item) :
    (draftItems (items.map encode)).mapM decoder = .ok items := by
  induction items with
  | nil => rfl
  | cons item rest ih =>
      obtain ⟨hfirst, hlater⟩ := List.forall_mem_cons.mp h
      have hback : decoder (encode item).toDraft = .ok item := hfirst
      rw [List.map_cons, draftItems, List.mapM_cons, hback, ih hlater]
      rfl

/-- Items that are all decoded read back together. -/
theorem mapM_readsBack (h : RoundTrips decoder encode) {drafts : List Draft} {items : List α}
    (hitems : drafts.mapM decoder = .ok items) :
    (draftItems (items.map encode)).mapM decoder = .ok items :=
  mapM_draftItems (forall_of_mapM h hitems)

/-- A list reads back if its items do. -/
theorem roundTrips_list (h : RoundTrips decoder encode) :
    RoundTrips (Decoder.list decoder) fun items => .array (items.map encode) := by
  intro draft items hitems
  unfold Decoder.list at hitems
  split at hitems
  · obtain ⟨made, hmade, hrest⟩ := bind_eq_ok.mp hitems
    obtain ⟨-, -, heq⟩ := bind_eq_ok.mp hrest
    obtain rfl := Except.ok.inj heq
    simp only [ReadsBack, Value.toDraft, Decoder.list, mapM_readsBack h hmade]
    rfl
  · exact nomatch hitems

end Composed

/-! ### Members -/

section Members

/-- The names of members with one more are the same, or the name of that one comes behind them. -/
theorem names_setMember (name : String) (value : α) (members : List (String × α)) :
    (setMember name value members).map Prod.fst =
      if name ∈ members.map Prod.fst then members.map Prod.fst
      else members.map Prod.fst ++ [name] := by
  induction members with
  | nil => simp [setMember]
  | cons member rest ih =>
      obtain ⟨first, old⟩ := member
      by_cases hfirst : first = name
      · simp [setMember, hfirst]
      · have hne : name ≠ first := fun heq => hfirst heq.symm
        rw [setMember, if_neg hfirst, List.map_cons, ih]
        by_cases hmem : name ∈ rest.map Prod.fst
        · simp [hmem]
        · simp [hmem, hne]

/-- Setting a member adds no other one. -/
theorem mem_setMember {name : String} {value : α} {members : List (String × α)}
    {member : String × α} (h : member ∈ setMember name value members) :
    member = (name, value) ∨ member ∈ members := by
  induction members with
  | nil => exact Or.inl (List.mem_singleton.mp h)
  | cons first rest ih =>
      obtain ⟨firstName, old⟩ := first
      rw [setMember] at h
      split at h
      · rcases List.mem_cons.mp h with rfl | hmem
        · exact Or.inl rfl
        · exact Or.inr (List.mem_cons_of_mem _ hmem)
      · rcases List.mem_cons.mp h with rfl | hmem
        · exact Or.inr List.mem_cons_self
        · rcases ih hmem with heq | hmem
          · exact Or.inl heq
          · exact Or.inr (List.mem_cons_of_mem _ hmem)

/-- A member with a new name comes behind the others. -/
theorem setMember_new {name : String} (value : α) {members : List (String × α)}
    (h : name ∉ members.map Prod.fst) :
    setMember name value members = members ++ [(name, value)] := by
  induction members with
  | nil => rfl
  | cons member rest ih =>
      obtain ⟨first, old⟩ := member
      obtain ⟨hfirst, hrest⟩ : first ≠ name ∧ name ∉ rest.map Prod.fst := by
        rw [List.map_cons, List.mem_cons, not_or] at h
        exact ⟨fun heq => h.1 heq.symm, h.2⟩
      rw [setMember, if_neg hfirst, ih hrest]
      rfl

/-- A member comes behind those before it if all names are different. -/
theorem setMember_next {name : String} (value : α) {members : List (String × α)}
    {later : List String} (h : (members.map Prod.fst ++ name :: later).Nodup) :
    setMember name value members = members ++ [(name, value)] := by
  apply setMember_new
  intro hmem
  exact (List.nodup_cons.mp (List.nodup_middle.mp h)).1 (List.mem_append_left _ hmem)

/-- A name that no member has finds nothing. -/
theorem lookup_eq_none_of_notMem {members : List (String × α)} {name : String}
    (h : name ∉ members.map Prod.fst) : members.lookup name = none := by
  rw [List.lookup_eq_none_iff]
  intro member hmem
  rw [bne_iff_ne]
  rintro rfl
  exact h (List.mem_map_of_mem hmem)

/-- Members with different names whose data reads back. -/
structure AreReadBack (decoder : Decoder α) (encode : α → Value) (members : List (String × α)) :
    Prop where
  names : (members.map Prod.fst).Nodup
  data : ∀ member ∈ members, ReadsBack decoder encode member.2

variable {decoder : Decoder α} {encode : α → Value}

/-- Members read back still when one that reads back is set among them. -/
theorem AreReadBack.setMember {members : List (String × α)}
    (h : AreReadBack decoder encode members) {name : String} {value : α}
    (hvalue : ReadsBack decoder encode value) :
    AreReadBack decoder encode (setMember name value members) where
  names := by
    rw [names_setMember]
    split
    · exact h.names
    · rename_i hnew
      rw [← List.concat_eq_append]
      exact h.names.concat hnew
  data member hmem := by
    rcases mem_setMember hmem with rfl | hmem
    · exact hvalue
    · exact h.data member hmem

/-- All data of members that is decoded has a property that whatever is decoded has. -/
theorem forall_of_membersOf {P : α → Prop}
    (hdata : ∀ draft data, decoder draft = .ok data → P data) {drafts : List (Draft × Draft)}
    {known members : List (String × α)} (h : Decoder.membersOf decoder known drafts = .ok members)
    (hknown : ∀ member ∈ known, P member.2) : ∀ member ∈ members, P member.2 := by
  induction drafts generalizing known with
  | nil =>
      obtain rfl := Except.ok.inj h
      exact hknown
  | cons draft rest ih =>
      obtain ⟨name, value⟩ := draft
      obtain ⟨text, -, hrest⟩ := bind_eq_ok.mp h
      obtain ⟨made, hmade, hrest⟩ := bind_eq_ok.mp hrest
      refine ih hrest fun member hmem => ?_
      rcases mem_setMember hmem with rfl | hmem
      · exact hdata value made hmade
      · exact hknown member hmem

/-- The members that are decoded have different names, since of two with one name the later is
taken. -/
theorem membersOf_areReadBack (h : RoundTrips decoder encode) {drafts : List (Draft × Draft)}
    {known members : List (String × α)} (hknown : AreReadBack decoder encode known)
    (hmembers : Decoder.membersOf decoder known drafts = .ok members) :
    AreReadBack decoder encode members := by
  induction drafts generalizing known with
  | nil =>
      cases hmembers
      exact hknown
  | cons draft rest ih =>
      obtain ⟨name, value⟩ := draft
      obtain ⟨text, -, hrest⟩ := bind_eq_ok.mp hmembers
      obtain ⟨data, hdata, hrest⟩ := bind_eq_ok.mp hrest
      exact ih (hknown.setMember (h value data hdata)) hrest

/-- Members with different names are decoded one behind the other. -/
theorem membersOf_draftMembers {known members : List (String × α)}
    (h : AreReadBack decoder encode (known ++ members)) :
    Decoder.membersOf decoder known
        (draftMembers (members.map fun member => (member.1, encode member.2))) =
      .ok (known ++ members) := by
  induction members generalizing known with
  | nil => simp [draftMembers, Decoder.membersOf]
  | cons member rest ih =>
      obtain ⟨name, data⟩ := member
      have hback : decoder (encode data).toDraft = .ok data := h.data (name, data) (by simp)
      have hnames := h.names
      rw [List.map_append, List.map_cons] at hnames
      have hall : AreReadBack decoder encode (known ++ [(name, data)] ++ rest) := by simpa using h
      have hrest := ih hall
      rw [List.append_assoc] at hrest
      rw [List.map_cons, draftMembers, draftMember, Decoder.membersOf, hback]
      show Decoder.membersOf decoder (setMember name data known) _ = _
      rw [setMember_next data hnames]
      exact hrest

/-- A dictionary reads back if its values do. -/
theorem roundTrips_dictionary (h : RoundTrips decoder encode) :
    RoundTrips (Decoder.dictionary decoder) fun members =>
      .object (members.map fun member => (member.1, encode member.2)) := by
  intro draft members hmembers
  unfold Decoder.dictionary at hmembers
  split at hmembers
  · obtain ⟨made, hmade, hrest⟩ := bind_eq_ok.mp hmembers
    obtain ⟨-, -, heq⟩ := bind_eq_ok.mp hrest
    obtain rfl := Except.ok.inj heq
    have hnone : AreReadBack decoder encode [] := ⟨List.nodup_nil, by simp⟩
    have hall : Decoder.membersOf decoder [] _ = .ok ([] ++ made) :=
      membersOf_draftMembers (membersOf_areReadBack h hnone hmade)
    simp only [ReadsBack, Value.toDraft, Decoder.dictionary, hall]
    rfl
  · exact nomatch hmembers

end Members

/-! ### Values that are kept as they are -/

/-- Items are kept one by one. -/
theorem valueItems_eq (depth : Nat) (drafts : List Draft) :
    valueItems depth drafts = drafts.mapM (Draft.value depth) := by
  induction drafts with
  | nil => rfl
  | cons draft rest ih =>
      rw [List.mapM_cons, valueItems, ih]

/-- Members are kept one by one, and the last of two with the same name stays. -/
theorem valueMembers_eq (depth : Nat) (known : List (String × Value))
    (drafts : List (Draft × Draft)) :
    valueMembers depth known drafts = Decoder.membersOf (Draft.value depth) known drafts := by
  induction drafts generalizing known with
  | nil => rfl
  | cons draft rest ih =>
      obtain ⟨name, value⟩ := draft
      rw [valueMembers, valueMember, Decoder.membersOf]
      cases Decoder.string name with
      | error error => rfl
      | ok text =>
          show (value.value depth >>= _) >>= _ = value.value depth >>= _
          cases value.value depth with
          | error error => rfl
          | ok made => exact ih (setMember text made known)

/-- A step goes on only where there is no fault. -/
theorem faultless_eq_ok {fault : Option Fault} {answer : Unit} :
    Decoder.faultless fault = .ok answer ↔ fault = none := by
  cases fault <;> simp [Decoder.faultless]

/-- What is kept of a draft: a scalar as it is, and a container without faults with what is kept of
its parts, around which there is one container less. -/
inductive IsKept (depth : Nat) : Draft → Value → Prop
  | null : IsKept depth .null .null
  | bool (value : Bool) : IsKept depth (.bool value) (.bool value)
  | number (value : Number) : IsKept depth (.number value) (.number value)
  | string (value : String) : IsKept depth (.string value) (.string value)
  | array {inner : Nat} {drafts : List Draft} {items : List Value} (hdepth : depth = inner + 1)
      (hitems : drafts.mapM (Draft.value inner) = .ok items) :
      IsKept depth (.array drafts none) (.array items)
  | object {inner : Nat} {drafts : List (Draft × Draft)} {members : List (String × Value)}
      (hdepth : depth = inner + 1)
      (hmembers : Decoder.membersOf (Draft.value inner) [] drafts = .ok members) :
      IsKept depth (.object drafts none) (.object members)

/-- What is kept of a draft is what the rules say, for every kind of draft. -/
theorem value_eq_ok {depth : Nat} {draft : Draft} {value : Value} :
    Draft.value depth draft = .ok value ↔ IsKept depth draft value := by
  constructor
  · intro h
    -- A draft with a fault is never kept, and a container only if there is a depth left for it.
    cases draft with
    | null | bool | number | string =>
        rw [Draft.value] at h
        obtain rfl := Except.ok.inj h
        constructor
    | missing | brokenString | brokenScalar =>
        rw [Draft.value] at h
        exact nomatch h
    | array items ending =>
        cases depth with
        | zero =>
            rw [Draft.value] at h
            exact nomatch h
        | succ inner =>
            rw [Draft.value, valueItems_eq] at h
            obtain ⟨made, hmade, h⟩ := bind_eq_ok.mp h
            obtain ⟨_, hending, heq⟩ := bind_eq_ok.mp h
            obtain rfl := Except.ok.inj heq
            obtain rfl := faultless_eq_ok.mp hending
            exact .array rfl hmade
    | object members ending =>
        cases depth with
        | zero =>
            rw [Draft.value] at h
            exact nomatch h
        | succ inner =>
            rw [Draft.value, valueMembers_eq] at h
            obtain ⟨made, hmade, h⟩ := bind_eq_ok.mp h
            obtain ⟨_, hending, heq⟩ := bind_eq_ok.mp h
            obtain rfl := Except.ok.inj heq
            obtain rfl := faultless_eq_ok.mp hending
            exact .object rfl hmade
  · intro h
    cases h with
    | null | bool | number | string => rw [Draft.value]
    | array hdepth hitems =>
        subst hdepth
        rw [Draft.value, valueItems_eq, hitems]
        rfl
    | object hdepth hmembers =>
        subst hdepth
        rw [Draft.value, valueMembers_eq, hmembers]
        rfl

/-- A value that is kept reads back. The induction is on the depth, which falls with each container
around what is left. -/
theorem roundTrips_value (depth : Nat) : RoundTrips (Draft.value depth) fun value => value := by
  induction depth using Nat.strongRecOn with
  | ind depth ih =>
  intro draft value h
  rw [ReadsBack, value_eq_ok]
  cases value_eq_ok.mp h with
  | null => exact .null
  | bool value => exact .bool value
  | number value => exact .number value
  | string value => exact .string value
  | @array inner drafts items hdepth hitems =>
      have hback := mapM_readsBack (ih inner (by omega)) hitems
      rw [List.map_id'] at hback
      exact .array hdepth hback
  | @object inner drafts members hdepth hmembers =>
      have hnone : AreReadBack (Draft.value inner) (fun value => value) [] :=
        ⟨List.nodup_nil, by simp⟩
      have hread : AreReadBack (Draft.value inner) (fun value => value) ([] ++ members) :=
        membersOf_areReadBack (ih inner (by omega)) hnone hmembers
      have hback := membersOf_draftMembers hread
      rw [List.map_id', List.nil_append] at hback
      exact .object hdepth hback

/-! ### Choices -/

/-- A value that a name stands for is one of the variants. -/
theorem mem_of_variant {variants : List (String × α)} {name : String} {value : α}
    (h : Decoder.variant variants name = .ok value) : ∃ other, (other, value) ∈ variants := by
  unfold Decoder.variant at h
  split at h
  · rename_i found hfound
    obtain rfl := Except.ok.inj h
    obtain ⟨front, back, hvariants, -⟩ := List.lookup_eq_some_iff.mp hfound
    exact ⟨name, by simp [hvariants]⟩
  · exact nomatch h

/-- A choice is written as its name, which has to be its name among the variants. -/
theorem roundTrips_choice {variants : List (String × α)} {name : α → String}
    (h : ∀ variant ∈ variants, variants.lookup (name variant.2) = some variant.2) :
    RoundTrips (Decoder.choice variants) fun value => .string (name value) := by
  intro draft value hvalue
  have hmem : ∃ other, (other, value) ∈ variants := by
    unfold Decoder.choice at hvalue
    split at hvalue
    · exact mem_of_variant hvalue
    · obtain ⟨-, -, hrest⟩ := bind_eq_ok.mp hvalue
      exact nomatch hrest
    · -- An object with the name for its only member makes the same choice.
      obtain ⟨text, -, hrest⟩ := bind_eq_ok.mp hvalue
      obtain ⟨made, hmade, hrest⟩ := bind_eq_ok.mp hrest
      obtain ⟨-, -, hrest⟩ := bind_eq_ok.mp hrest
      split at hrest
      · obtain ⟨-, -, heq⟩ := bind_eq_ok.mp hrest
        obtain rfl := Except.ok.inj heq
        exact mem_of_variant hmade
      · exact nomatch hrest
    all_goals exact nomatch hvalue
  obtain ⟨other, hmem⟩ := hmem
  rw [ReadsBack, Value.toDraft, Decoder.choice, Decoder.variant, h (other, value) hmem]

/-! ### Records -/

/-- A record is written with values that its fields admit, some of which may be left out. -/
inductive Fits : List Decoder.Field → List (String × Value) → Prop
  | nil (fields : List Decoder.Field) : Fits fields []
  | skip (field : Decoder.Field) {fields : List Decoder.Field} {members : List (String × Value)}
      (hrest : Fits fields members) : Fits (field :: fields) members
  | take {field : Decoder.Field} {value : Value} {fields : List Decoder.Field}
      {members : List (String × Value)} (hcheck : field.check value.toDraft = .ok ())
      (hrest : Fits fields members) : Fits (field :: fields) ((field.name, value) :: members)

namespace Fits

variable {fields : List Decoder.Field} {members : List (String × Value)}

/-- The next field holds data that reads back. -/
theorem field {name : String} {decoder : Decoder α} {encode : α → Value} {data : α}
    (h : ReadsBack decoder encode data) (hrest : Fits fields members) :
    Fits (Decoder.field name decoder :: fields) ((name, encode data) :: members) := by
  have hcheck : (Decoder.field name decoder).check (encode data).toDraft = .ok () := by
    show (decoder (encode data).toDraft).map (fun _ => ()) = _
    rw [h]
    rfl
  exact Fits.take hcheck hrest

/-- Data that is left out when it is missing. -/
theorem present {name : String} {decoder : Decoder α} {encode : α → Value} {data : Option α}
    (h : ReadsBack (Decoder.optional decoder) (fun data => ofOption (data.map encode)) data)
    (hrest : Fits fields members) :
    Fits (Decoder.field name (Decoder.optional decoder) :: fields)
      (presentMember name (data.map encode) ++ members) := by
  cases data with
  | none => exact .skip _ hrest
  | some data => exact Fits.field h hrest

/-- The names that are written come in the order of the fields. -/
theorem names (h : Fits fields members) :
    (members.map Prod.fst).Sublist (fields.map Decoder.Field.name) := by
  induction h with
  | nil fields => exact List.nil_sublist _
  | skip field hrest ih => exact ih.cons _
  | take hcheck hrest ih => exact ih.cons_cons _

/-- Every value that is written stands for a field, which admits it. -/
theorem exists_field (h : Fits fields members) {member : String × Value} (hmem : member ∈ members) :
    ∃ field ∈ fields, field.name = member.1 ∧ field.check member.2.toDraft = .ok () := by
  induction h with
  | nil fields => exact nomatch hmem
  | skip field hrest ih =>
      obtain ⟨found, hfound, hfits⟩ := ih hmem
      exact ⟨found, List.mem_cons_of_mem _ hfound, hfits⟩
  | @take field value fields members hcheck hrest ih =>
      rcases List.mem_cons.mp hmem with rfl | hmem
      · exact ⟨field, List.mem_cons_self, rfl, hcheck⟩
      · obtain ⟨found, hfound, hfits⟩ := ih hmem
        exact ⟨found, List.mem_cons_of_mem _ hfound, hfits⟩

end Fits

/-- Of fields with different names the one with a name is found. -/
theorem find?_field {fields : List Decoder.Field} (hnames : (fields.map Decoder.Field.name).Nodup)
    {field : Decoder.Field} (hmem : field ∈ fields) :
    fields.find? (fun other => other.name == field.name) = some field := by
  induction fields with
  | nil => exact nomatch hmem
  | cons first rest ih =>
      rw [List.map_cons, List.nodup_cons] at hnames
      rcases List.mem_cons.mp hmem with rfl | hmem
      · simp
      · have hne : first.name ≠ field.name := by
          intro heq
          exact hnames.1 (heq ▸ List.mem_map_of_mem hmem)
        rw [List.find?_cons_of_neg (by simpa using hne)]
        exact ih hnames.2 hmem

/-- The members that stand for fields are taken one after another, whatever follows them. -/
theorem takeMembers_fields {fields : List Decoder.Field}
    (hfields : (fields.map Decoder.Field.name).Nodup)
    (other : β → String → Draft → Except DecodeError β) (acc : β) {members : List (String × Value)}
    (hnames : (members.map Prod.fst).Nodup)
    (hmembers : ∀ member ∈ members, ∃ field ∈ fields, field.name = member.1 ∧
      field.check member.2.toDraft = .ok ())
    {given : List (String × Draft)} (hgiven : ∀ member ∈ members, given.lookup member.1 = none)
    (rest : List (Draft × Draft)) :
    ∃ taken, Decoder.takeMembers fields other given acc (draftMembers members ++ rest) =
        Decoder.takeMembers fields other taken acc rest ∧
      ∀ name, taken.lookup name =
        ((members.lookup name).map Value.toDraft).or (given.lookup name) := by
  induction members generalizing given with
  | nil => exact ⟨given, rfl, fun name => rfl⟩
  | cons member members ih =>
      obtain ⟨name, value⟩ := member
      obtain ⟨hfirst, hlater⟩ := List.forall_mem_cons.mp hmembers
      obtain ⟨hnew, hothers⟩ := List.forall_mem_cons.mp hgiven
      rw [List.map_cons, List.nodup_cons] at hnames
      obtain ⟨field, hfield, rfl, hcheck⟩ := hfirst
      dsimp only at hcheck hnew
      -- The names differ, so the member that has just been taken is not met again.
      have hnext : ∀ member ∈ members,
          ((field.name, value.toDraft) :: given).lookup member.1 = none := by
        intro member hmem
        have hknown : member.1 ∈ members.map Prod.fst := List.mem_map_of_mem hmem
        have hne : (member.1 == field.name) = false := by
          rw [beq_eq_false_iff_ne]
          intro heq
          rw [heq] at hknown
          exact hnames.1 hknown
        rw [List.lookup_cons, hne]
        exact hothers member hmem
      obtain ⟨taken, htaken, hlookup⟩ := ih hnames.2 hlater hnext
      refine ⟨taken, ?_, fun sought => ?_⟩
      · rw [← htaken, draftMembers, draftMember, List.cons_append, Decoder.takeMembers]
        simp only [Decoder.string, bind, Except.bind, find?_field hfields hfield, hnew, hcheck]
        rfl
      · rw [hlookup, List.lookup_cons, List.lookup_cons]
        by_cases hsought : (sought == field.name) = true
        · have hnone : members.lookup sought = none := by
            rw [beq_iff_eq.mp hsought]
            exact lookup_eq_none_of_notMem hnames.1
          simp [hsought, hnone]
        · simp [hsought]

/-- A record that is written with values that its fields admit gives these values. -/
theorem record_encoded (name : String) {fields : List Decoder.Field}
    {members : List (String × Value)} (hfields : (fields.map Decoder.Field.name).Nodup)
    (hfits : Fits fields members) :
    ∃ given, Decoder.record name fields (Value.object members).toDraft = .ok given ∧
      ∀ name, given.fields.lookup name = (members.lookup name).map Value.toDraft := by
  have hnames := hfields.sublist hfits.names
  obtain ⟨taken, htaken, hlookup⟩ := takeMembers_fields hfields
    (fun (_ : Unit) _ value => Decoder.faultless (Draft.skipped? value)) () hnames
    (fun member => hfits.exists_field) (fun _ _ => List.lookup_nil) []
  rw [List.append_nil] at htaken
  refine ⟨⟨taken, .missingField⟩, ?_, fun name => ?_⟩
  · simp only [Value.toDraft, Decoder.record, htaken, Decoder.takeMembers]
    rfl
  · show taken.lookup name = _
    rw [hlookup, List.lookup_nil, Option.or_none]

section Given

variable {given : Decoder.Given} {name : String} {decoder : Decoder α} {encode : α → Value}
  {data default : α}

/-- A field that has to be given holds data that reads back. -/
theorem readsBack_need (h : RoundTrips decoder encode)
    (hneed : given.need name decoder = .ok data) : ReadsBack decoder encode data := by
  unfold Decoder.Given.need Decoder.Given.get at hneed
  split at hneed
  · exact h _ data hneed
  · exact nomatch hneed

/-- So does a field with a default, if that reads back. -/
theorem readsBack_default (h : RoundTrips decoder encode)
    (hdata : given.default name decoder default = .ok data)
    (hstandard : ReadsBack decoder encode default) : ReadsBack decoder encode data := by
  unfold Decoder.Given.default Decoder.Given.get at hdata
  split at hdata
  · exact h _ data hdata
  · obtain rfl := Except.ok.inj hdata
    exact hstandard

/-- These are the values that are given for a record. -/
def GivenBy (members : List (String × Value)) (given : Decoder.Given) : Prop :=
  ∀ name, given.fields.lookup name = (members.lookup name).map Value.toDraft

variable {members : List (String × Value)}

/-- The value of a field that was written. -/
theorem get_written (h : GivenBy members given) (hdata : ReadsBack decoder encode data)
    (hmember : members.lookup name = some (encode data)) (absent : Except DecodeError α) :
    given.get name decoder absent = .ok data := by
  unfold Decoder.Given.get
  rw [h, hmember]
  exact hdata

/-- A value that a field needs is given if it has been written. -/
theorem need_written (h : GivenBy members given) (hdata : ReadsBack decoder encode data)
    (hmember : members.lookup name = some (encode data)) : given.need name decoder = .ok data :=
  get_written h hdata hmember _

/-- A value that is written is given in place of the default. -/
theorem default_written (h : GivenBy members given) (hdata : ReadsBack decoder encode data)
    (hmember : members.lookup name = some (encode data)) :
    given.default name decoder default = .ok data :=
  get_written h hdata hmember _

/-- Data that was left out because it is missing is missing again. -/
theorem present_written {data : Option α} (h : GivenBy members given)
    (hdata : ReadsBack (Decoder.optional decoder) (fun data => ofOption (data.map encode)) data)
    (hmember : members.lookup name = data.map encode) :
    given.default name (Decoder.optional decoder) none = .ok data := by
  cases data with
  | none =>
      unfold Decoder.Given.default Decoder.Given.get
      rw [h, hmember]
      rfl
  | some data => exact default_written h hdata hmember

end Given

/-- A record that is written with values that its fields admit reads back, if its data is made of
these values. -/
theorem record_readsBack {name : String} {fields : List Decoder.Field}
    {ofGiven : Decoder.Given → Except DecodeError α} {members : List (String × Value)} {data : α}
    (hfields : (fields.map Decoder.Field.name).Nodup) (hfits : Fits fields members)
    (hdata : ∀ given, GivenBy members given → ofGiven given = .ok data) :
    (Decoder.record name fields (Value.object members).toDraft >>= ofGiven) = .ok data := by
  obtain ⟨given, hrecord, hgiven⟩ := record_encoded name hfields hfits
  rw [hrecord]
  exact hdata given hgiven

end MiniApp.Json
