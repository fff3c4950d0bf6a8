import MiniApp.App.Codec
import MiniApp.Page.Codec
import MiniApp.Proofs.Json.RoundTrip
import MiniApp.Render.Codec
import MiniApp.Template.Codec

/-!
# The normal form of every type

Every type that is written as JSON has one encoder and one decoder, which name its fields each on
their own: what is renamed, what is left out when it is missing, what has a default, which members
are kept that are not known. `encode_normalForm` says that none of this is lost on the way. Data
that has been decoded, however it was written, is decoded again from what the encoder makes of it.

A record takes three steps. The decoder has made the data, so that each field has been decoded or
has its default, and reads back either way; the encoder writes values that the fields admit; and the
record is made of these values again. How the values themselves are written as text is not looked
at here: a text is taken for the document that it reads as.
-/

set_option autoImplicit false

namespace MiniApp.Json

/-- Whatever the decoder of a type makes of a draft, it makes again of what the encoder writes. -/
def Normalises (α : Type) [Codec α] : Prop :=
  RoundTrips (Codec.decode : Decoder α) encode

/-- Data of a type that a text writes is made again of what the encoder makes of it, and every text
that writes no more and no less than that is decoded as the same data. -/
def NormalForm (α : Type) [Codec α] : Prop :=
  ∀ text (data : α), decodeText text = .ok data →
    Codec.decode (encode data).toDraft = .ok data ∧
      ∀ written, readDocument written = ⟨(encode data).toDraft, none⟩ →
        decodeText written = .ok data

/-- A text is decoded as data if the draft that it writes is, and nothing follows. -/
theorem decodeText_eq_ok {α : Type} [Codec α] {text : String} {data : α} :
    decodeText text = .ok data ↔
      Codec.decode (readDocument text).draft = .ok data ∧ (readDocument text).ending = none := by
  unfold decodeText
  simp only [bind_eq_ok, faultless_eq_ok, pure, Except.pure, Except.ok.injEq]
  -- An error in a text is another error at most, never data.
  cases (Codec.decode : Decoder α) (readDocument text).draft with
  | error error => simp [Except.mapError]
  | ok made => simp [Except.mapError, and_comm]

/-- Data of a type that normalises has a normal form as a text. -/
theorem Normalises.normalForm {α : Type} [Codec α] (h : Normalises α) : NormalForm α := by
  intro text data hdata
  obtain ⟨hread, -⟩ := decodeText_eq_ok.mp hdata
  have hback : Codec.decode (encode data).toDraft = .ok data := h _ data hread
  refine ⟨hback, fun written hwritten => ?_⟩
  rw [decodeText_eq_ok, hwritten]
  exact ⟨hback, rfl⟩

end MiniApp.Json

namespace MiniApp.Template

open MiniApp.Json

/-- A position, a record of three words, normalises. -/
theorem Position.normalises : Normalises Position := by
  intro draft position h
  obtain ⟨given, -, h⟩ := bind_eq_ok.mp h
  simp only [Position.ofGiven, bind_eq_ok] at h
  obtain ⟨offset, hoffset, line, hline, column, hcolumn, heq⟩ := h
  obtain rfl := Except.ok.inj heq
  have hoffset := readsBack_need roundTrips_word hoffset
  have hline := readsBack_need roundTrips_word hline
  have hcolumn := readsBack_need roundTrips_word hcolumn
  refine record_readsBack (by decide) (.field hoffset (.field hline (.field hcolumn (.nil [])))) ?_
  intro given hgiven
  simp only [Position.ofGiven, bind_eq_ok]
  exact ⟨_, need_written hgiven hoffset rfl, _, need_written hgiven hline rfl, _,
    need_written hgiven hcolumn rfl, rfl⟩

/-- A location, whose positions read back themselves, normalises. -/
theorem Location.normalises : Normalises Location := by
  intro draft location h
  obtain ⟨given, -, h⟩ := bind_eq_ok.mp h
  simp only [Location.ofGiven, bind_eq_ok] at h
  obtain ⟨start, hstart, stop, hstop, source, -, heq⟩ := h
  obtain rfl := Except.ok.inj heq
  have hstart := readsBack_need Position.normalises hstart
  have hstop := readsBack_need Position.normalises hstop
  have hsource := readsBack_string source
  refine record_readsBack (by decide) (.field hstart (.field hstop (.field hsource (.nil [])))) ?_
  intro given hgiven
  simp only [Location.ofGiven, bind_eq_ok]
  exact ⟨_, need_written hgiven hstart rfl, _, need_written hgiven hstop rfl, _,
    need_written hgiven hsource rfl, rfl⟩

/-- An error code is written as the name of its variant. -/
theorem ErrorCode.normalises : Normalises ErrorCode :=
  roundTrips_choice (by decide)

end MiniApp.Template

namespace MiniApp.Render

open MiniApp.Json

/-- So is the mode of a render function. -/
theorem Mode.normalises : Normalises Mode :=
  roundTrips_choice (by decide)

/-- So is a helper. -/
theorem Helper.normalises : Normalises Helper :=
  roundTrips_choice (by decide)

/-- The options of a render function normalise, defaults and all. -/
theorem Options.normalises : Normalises Options := by
  intro draft options h
  obtain ⟨given, -, h⟩ := bind_eq_ok.mp h
  simp only [Options.ofGiven, bind_eq_ok] at h
  obtain ⟨mode, hmode, qualifies, -, runtimeModule, -, runtimeGlobal, -, heq⟩ := h
  obtain rfl := Except.ok.inj heq
  have hmode := readsBack_default Mode.normalises hmode rfl
  have hqualifies := readsBack_bool qualifies
  have hmodule := readsBack_string runtimeModule
  have hglobal := readsBack_string runtimeGlobal
  refine record_readsBack (by decide)
    (.field hmode (.field hqualifies (.field hmodule (.field hglobal (.nil []))))) ?_
  intro given hgiven
  simp only [Options.ofGiven, bind_eq_ok]
  exact ⟨_, default_written hgiven hmode rfl, _, default_written hgiven hqualifies rfl, _,
    default_written hgiven hmodule rfl, _, default_written hgiven hglobal rfl, rfl⟩

end MiniApp.Render

namespace MiniApp.App

open MiniApp.Json

/-- The configuration of the splash screen normalises. -/
theorem SplashConfig.normalises : Normalises SplashConfig := by
  intro draft config h
  obtain ⟨given, -, h⟩ := bind_eq_ok.mp h
  simp only [SplashConfig.ofGiven, bind_eq_ok] at h
  obtain ⟨autoclose, -, shown, -, heq⟩ := h
  obtain rfl := Except.ok.inj heq
  have hautoclose := readsBack_bool autoclose
  have hshown := readsBack_bool shown
  refine record_readsBack (by decide) (.field hautoclose (.field hshown (.nil []))) ?_
  intro given hgiven
  simp only [SplashConfig.ofGiven, bind_eq_ok]
  exact ⟨_, default_written hgiven hautoclose rfl, _, default_written hgiven hshown rfl, rfl⟩

/-- An item of the tab bar normalises. -/
theorem TabBarItem.normalises : Normalises TabBarItem := by
  intro draft item h
  obtain ⟨given, -, h⟩ := bind_eq_ok.mp h
  simp only [TabBarItem.ofGiven, bind_eq_ok] at h
  obtain ⟨path, -, heq⟩ := h
  obtain rfl := Except.ok.inj heq
  have hpath := readsBack_string path
  refine record_readsBack (by decide) (.field hpath (.nil [])) ?_
  intro given hgiven
  simp only [TabBarItem.ofGiven, bind_eq_ok]
  exact ⟨_, need_written hgiven hpath rfl, rfl⟩

/-- The tab bar, which is a list of items, normalises. -/
theorem TabBarConfig.normalises : Normalises TabBarConfig := by
  intro draft config h
  obtain ⟨given, -, h⟩ := bind_eq_ok.mp h
  simp only [TabBarConfig.ofGiven, bind_eq_ok] at h
  obtain ⟨items, hitems, cover, -, height, -, heq⟩ := h
  obtain rfl := Except.ok.inj heq
  have hitems := readsBack_default (roundTrips_list TabBarItem.normalises) hitems rfl
  have hcover := readsBack_bool cover
  have hheight := readsBack_double height
  refine record_readsBack (by decide) (.field hitems (.field hcover (.field hheight (.nil [])))) ?_
  intro given hgiven
  simp only [TabBarConfig.ofGiven, bind_eq_ok]
  exact ⟨_, default_written hgiven hitems rfl, _, default_written hgiven hcover rfl, _,
    default_written hgiven hheight rfl, rfl⟩

/-- The configuration of an app normalises, with those of the splash screen and the tab bar in
it. -/
theorem Config.normalises : Normalises Config := by
  intro draft config h
  obtain ⟨given, -, h⟩ := bind_eq_ok.mp h
  simp only [Config.ofGiven, bind_eq_ok] at h
  obtain ⟨splash, hsplash, tabBar, htabBar, height, -, distance, hdistance, heq⟩ := h
  obtain rfl := Except.ok.inj heq
  have hsplash := readsBack_default SplashConfig.normalises hsplash rfl
  have htabBar := readsBack_default TabBarConfig.normalises htabBar rfl
  have hheight := readsBack_double height
  have hdistance := readsBack_default roundTrips_word hdistance rfl
  refine record_readsBack (by decide)
    (.field hsplash (.field htabBar (.field hheight (.field hdistance (.nil []))))) ?_
  intro given hgiven
  simp only [Config.ofGiven, bind_eq_ok]
  exact ⟨_, default_written hgiven hsplash rfl, _, default_written hgiven htabBar rfl, _,
    default_written hgiven hheight rfl, _, default_written hgiven hdistance rfl, rfl⟩

end MiniApp.App

namespace MiniApp.Page

open MiniApp.Json

/-- How a page is opened is written as the name of its variant. -/
theorem OpenType.normalises : Normalises OpenType :=
  roundTrips_choice (by decide)

/-- So is a navigation bar. -/
theorem NavigationBar.normalises : Normalises NavigationBar :=
  roundTrips_choice (by decide)

namespace RouteSettings

/-- Whatever is made of a draft as a navigation bar reads back. -/
theorem roundTrips_bar : RoundTrips decodeBar encodeBar := by
  intro draft bar h
  obtain ⟨given, -, h⟩ := bind_eq_ok.mp h
  have hbar := readsBack_default NavigationBar.normalises h rfl
  exact record_readsBack (by decide) (.field hbar (.nil []))
    fun given hgiven => default_written hgiven hbar rfl

/-- What is kept of the members that are not known: no name of a field is among them, and they read
back. -/
structure AreKept (depth : Nat) (extra : List (String × Value)) : Prop where
  readBack : AreReadBack (Draft.value depth) (fun value => value) extra
  unknown : ∀ member ∈ extra, fields.find? (fun field => field.name == member.1) = none

/-- Keeps a member that is not known, where containers may lie in one another to a depth. -/
def keep (depth : Nat) (extra : List (String × Value)) (name : String) (value : Draft) :
    Except DecodeError (List (String × Value)) := do
  return setMember name (← Draft.value depth value) extra

/-- What becomes of a member: it is kept if there is no field of its name, and taken if there is
one. -/
theorem takeMembers_cons {depth : Nat} {draft value : Draft} {rest : List (Draft × Draft)}
    {given taken : List (String × Draft)} {extra kept : List (String × Value)}
    (h : Decoder.takeMembers fields (keep depth) given extra ((draft, value) :: rest) =
      .ok (taken, kept)) :
    ∃ name, Decoder.string draft = .ok name ∧
      ((fields.find? (fun field => field.name == name) = none ∧
          ∃ made, Draft.value depth value = .ok made ∧
            Decoder.takeMembers fields (keep depth) given (setMember name made extra) rest =
              .ok (taken, kept)) ∨
        fields.find? (fun field => field.name == name) ≠ none ∧
          Decoder.takeMembers fields (keep depth) ((name, value) :: given) extra rest =
            .ok (taken, kept)) := by
  obtain ⟨name, hname, hrest⟩ := bind_eq_ok.mp h
  refine ⟨name, hname, ?_⟩
  split at hrest
  · rename_i hunknown
    obtain ⟨more, hmore, hrest⟩ := bind_eq_ok.mp hrest
    obtain ⟨made, hmade, heq⟩ := bind_eq_ok.mp hmore
    obtain rfl := Except.ok.inj heq
    exact Or.inl ⟨hunknown, made, hmade, hrest⟩
  · rename_i field hfound
    split at hrest
    · exact nomatch hrest
    · obtain ⟨-, -, hrest⟩ := bind_eq_ok.mp hrest
      exact Or.inr ⟨by simp [hfound], hrest⟩

/-- The members that are taken but are no fields are kept. -/
theorem takeMembers_areKept {depth : Nat} {members : List (Draft × Draft)}
    {given taken : List (String × Draft)} {extra kept : List (String × Value)}
    (hextra : AreKept depth extra)
    (h : Decoder.takeMembers fields (keep depth) given extra members = .ok (taken, kept)) :
    AreKept depth kept := by
  induction members generalizing given extra with
  | nil =>
      obtain ⟨-, rfl⟩ := Prod.mk.inj (Except.ok.inj h)
      exact hextra
  | cons member rest ih =>
      obtain ⟨name, -, ⟨hunknown, made, hmade, hrest⟩ | ⟨-, hrest⟩⟩ := takeMembers_cons h
      · refine ih ⟨hextra.readBack.setMember (roundTrips_value depth _ made hmade), ?_⟩ hrest
        intro other hother
        rcases mem_setMember hother with rfl | hother
        · exact hunknown
        · exact hextra.unknown other hother
      · exact ih hextra hrest

/-- Members that are kept are kept again, behind those before them. -/
theorem takeMembers_kept {depth : Nat} (given : List (String × Draft))
    {known extra : List (String × Value)} (h : AreKept depth (known ++ extra)) :
    Decoder.takeMembers fields (keep depth) given known (draftMembers extra) =
      .ok (given, known ++ extra) := by
  induction extra generalizing known with
  | nil => simp [draftMembers, Decoder.takeMembers]
  | cons member rest ih =>
      obtain ⟨name, value⟩ := member
      have hback : Draft.value depth value.toDraft = .ok value :=
        h.readBack.data (name, value) (by simp)
      have hunknown := h.unknown (name, value) (by simp)
      have hnames := h.readBack.names
      rw [List.map_append, List.map_cons] at hnames
      have hall : AreKept depth (known ++ [(name, value)] ++ rest) := by simpa using h
      have hrest := ih hall
      rw [List.append_assoc] at hrest
      rw [draftMembers, draftMember, Decoder.takeMembers]
      simp only [Decoder.string, bind, Except.bind, hunknown, keep, hback, pure, Except.pure,
        setMember_next value hnames]
      exact hrest

/-- Every value of a known field that is made reads back; none that is missing is written. -/
structure IsSound (settings : RouteSettings) : Prop where
  id : ReadsBack (Decoder.optional Decoder.word) (fun id => ofOption (id.map ofNat)) settings.id
  navigationBar : ReadsBack decodeBar encodeBar settings.navigationBar
  distance : ReadsBack (Decoder.optional Decoder.word)
    (fun distance => ofOption (distance.map ofNat)) settings.onReachBottomDistance

/-- So does a word that may be missing. -/
theorem roundTrips_optionalWord : RoundTrips (Decoder.optional Decoder.word)
    fun word => ofOption (word.map ofNat) :=
  roundTrips_optional roundTrips_word fun _ => by simp [ofNat, Value.toDraft]

/-- Settings that are made of given values read back field by field, and keep the members that are
not known. -/
theorem isSound_ofGiven {given : Decoder.Given} {extra : List (String × Value)}
    {settings : RouteSettings} (h : ofGiven given extra = .ok settings) :
    settings.IsSound ∧ settings.extra = extra := by
  simp only [ofGiven, bind_eq_ok] at h
  obtain ⟨id, hid, route, -, isEntry, -, isTabBar, -, isNative, -, bar, hbar, disableScroll, -,
    distance, hdistance, heq⟩ := h
  obtain rfl := Except.ok.inj heq
  exact ⟨⟨readsBack_default roundTrips_optionalWord hid rfl,
    readsBack_default roundTrips_bar hbar rfl,
    readsBack_default roundTrips_optionalWord hdistance rfl⟩, rfl⟩

/-- The members for the known fields are values that these fields admit. -/
theorem fits_knownMembers {settings : RouteSettings} (h : settings.IsSound) :
    Fits fields settings.knownMembers := by
  have hshape : settings.knownMembers = presentMember "id" (settings.id.map ofNat) ++
      ("route", .string settings.route) :: ("isEntry", .bool settings.isEntry) ::
      ("isTabBar", .bool settings.isTabBar) :: ("isNVue", .bool settings.isNative) ::
      ("navigationBar", encodeBar settings.navigationBar) ::
      ("disableScroll", .bool settings.disableScroll) ::
      (presentMember "onReachBottomDistance" (settings.onReachBottomDistance.map ofNat) ++ []) := by
    simp [knownMembers]
  rw [hshape]
  exact .present h.id <| .field (readsBack_string _) <| .field (readsBack_bool _) <|
    .field (readsBack_bool _) <| .field (readsBack_bool _) <| .field h.navigationBar <|
    .field (readsBack_bool _) <| .present h.distance (.nil [])

/-- The settings are made again of the members for the known fields. -/
theorem ofGiven_written {settings : RouteSettings} (h : settings.IsSound) {given : Decoder.Given}
    (hgiven : GivenBy settings.knownMembers given) :
    ofGiven given settings.extra = .ok settings := by
  obtain ⟨id, route, isEntry, isTabBar, isNative, bar, disableScroll, distance, extra⟩ := settings
  simp only [ofGiven, bind_eq_ok]
  -- The other members stand behind the identifier if there is one, and at the start if not.
  exact ⟨_, present_written hgiven h.id (by cases id <;> cases distance <;> rfl),
    _, need_written hgiven (readsBack_string route) (by cases id <;> rfl),
    _, default_written hgiven (readsBack_bool isEntry) (by cases id <;> rfl),
    _, default_written hgiven (readsBack_bool isTabBar) (by cases id <;> rfl),
    _, default_written hgiven (readsBack_bool isNative) (by cases id <;> rfl),
    _, default_written hgiven h.navigationBar (by cases id <;> rfl),
    _, default_written hgiven (readsBack_bool disableScroll) (by cases id <;> rfl),
    _, present_written hgiven h.distance (by cases id <;> cases distance <;> rfl), rfl⟩

/-- Settings are made of an object without faults at its end, of which the known fields are taken
and the other members are kept. -/
theorem decodeInside_eq_ok {outside : Nat} {draft : Draft} {settings : RouteSettings} :
    decodeInside outside draft = .ok settings ↔
      ∃ members given extra, draft = .object members none ∧
        Decoder.takeMembers fields (keep (maxDepth - (outside + 1))) [] [] members =
          .ok (given, extra) ∧
        ofGiven ⟨given, .missingField⟩ extra = .ok settings := by
  constructor
  · intro h
    unfold decodeInside at h
    split at h
    · obtain ⟨⟨given, extra⟩, htaken, hrest⟩ := bind_eq_ok.mp h
      obtain ⟨_, hending, hmade⟩ := bind_eq_ok.mp hrest
      obtain rfl := faultless_eq_ok.mp hending
      exact ⟨_, given, extra, rfl, htaken, hmade⟩
    · exact nomatch h
  · rintro ⟨members, given, extra, rfl, htaken, hmade⟩
    show (Decoder.takeMembers fields (keep (maxDepth - (outside + 1))) [] [] members >>= _) = _
    rw [htaken]
    exact hmade

/-- Settings read back if the values of the known fields do and the other members are kept. The
known fields are taken first, and then what is not known is kept. -/
theorem readsBack_inside {outside : Nat} {settings : RouteSettings} (hsound : settings.IsSound)
    (hkept : AreKept (maxDepth - (outside + 1)) settings.extra) :
    ReadsBack (decodeInside outside) encode settings := by
  have hfields : (fields.map Decoder.Field.name).Nodup := by decide
  have hfits := fits_knownMembers hsound
  obtain ⟨written, hwritten, hgiven⟩ := takeMembers_fields hfields
    (keep (maxDepth - (outside + 1))) [] (hfields.sublist hfits.names)
    (fun member => hfits.exists_field) (fun _ _ => List.lookup_nil)
    (draftMembers settings.extra)
  have hall : Decoder.takeMembers fields (keep (maxDepth - (outside + 1))) [] []
      (draftMembers (settings.knownMembers ++ settings.extra)) =
        .ok (written, settings.extra) := by
    rw [draftMembers_eq, List.map_append, ← draftMembers_eq, ← draftMembers_eq, hwritten]
    exact takeMembers_kept written hkept
  have hmade : ofGiven ⟨written, .missingField⟩ settings.extra = .ok settings := by
    refine ofGiven_written hsound fun name => ?_
    simpa using hgiven name
  exact decodeInside_eq_ok.mpr ⟨_, written, settings.extra, rfl, hall, hmade⟩

/-- The settings of a route read back inside any number of containers. -/
theorem roundTrips_inside (outside : Nat) : RoundTrips (decodeInside outside) encode := by
  intro draft settings h
  obtain ⟨members, given, extra, -, htaken, hmade⟩ := decodeInside_eq_ok.mp h
  obtain ⟨hsound, rfl⟩ := isSound_ofGiven hmade
  have hnone : AreKept (maxDepth - (outside + 1)) [] :=
    ⟨⟨List.nodup_nil, by simp⟩, by simp⟩
  exact readsBack_inside hsound (takeMembers_areKept hnone htaken)

/-- The settings of a route normalise, with the members that are not known among them. -/
theorem normalises : Normalises RouteSettings :=
  roundTrips_inside 0

end RouteSettings

/-- A resolved route normalises, with settings that stand one level deeper than by themselves. -/
theorem RouteOptions.normalises : Normalises RouteOptions := by
  intro draft route h
  obtain ⟨given, -, h⟩ := bind_eq_ok.mp h
  simp only [RouteOptions.ofGiven, bind_eq_ok] at h
  obtain ⟨path, -, settings, hsettings, heq⟩ := h
  obtain rfl := Except.ok.inj heq
  have hpath := readsBack_string path
  have hsettings := readsBack_need (RouteSettings.roundTrips_inside 1) hsettings
  refine record_readsBack (by decide) (.field hpath (.field hsettings (.nil []))) ?_
  intro given hgiven
  simp only [RouteOptions.ofGiven, bind_eq_ok]
  exact ⟨_, need_written hgiven hpath rfl, _, need_written hgiven hsettings rfl, rfl⟩

/-- Whatever is made of a draft as a string reads back. -/
theorem roundTrips_string : RoundTrips Decoder.string .string :=
  fun _ text _ => readsBack_string text

/-- How a page was opened normalises, with the query as a dictionary of strings. -/
theorem Instance.normalises : Normalises Instance := by
  intro draft page h
  obtain ⟨given, -, h⟩ := bind_eq_ok.mp h
  simp only [Instance.ofGiven, bind_eq_ok] at h
  obtain ⟨id, hid, path, -, route, -, fullPath, -, options, hoptions, settings, hsettings,
    openType, hopenType, heq⟩ := h
  obtain rfl := Except.ok.inj heq
  have hid : ReadsBack (Decoder.optional Decoder.word) (fun id => ofOption (id.map ofNat)) id := by
    unfold idOf Decoder.Given.get at hid
    split at hid
    · exact RouteSettings.roundTrips_optionalWord _ id hid
    · -- An identifier that an object leaves out is none.
      split at hid
      · obtain rfl := Except.ok.inj hid
        rfl
      · exact nomatch hid
  have hpath := readsBack_string path
  have hroute := readsBack_string route
  have hfullPath := readsBack_string fullPath
  have hoptions := readsBack_need (roundTrips_dictionary roundTrips_string) hoptions
  have hsettings := readsBack_need (RouteSettings.roundTrips_inside 1) hsettings
  have hopenType := readsBack_need OpenType.normalises hopenType
  refine record_readsBack (by decide) (.field hid (.field hpath (.field hroute (.field hfullPath
    (.field hoptions (.field hsettings (.field hopenType (.nil [])))))))) ?_
  intro given hgiven
  simp only [Instance.ofGiven, bind_eq_ok]
  exact ⟨_, get_written hgiven hid rfl _, _, need_written hgiven hpath rfl, _,
    need_written hgiven hroute rfl, _, need_written hgiven hfullPath rfl, _,
    need_written hgiven hoptions rfl, _, need_written hgiven hsettings rfl, _,
    need_written hgiven hopenType rfl, rfl⟩

/-- What is known about the system normalises. -/
theorem SystemInfo.normalises : Normalises SystemInfo := by
  intro draft system h
  obtain ⟨given, -, h⟩ := bind_eq_ok.mp h
  simp only [SystemInfo.ofGiven, bind_eq_ok] at h
  obtain ⟨platform, -, ratio, -, width, -, heq⟩ := h
  obtain rfl := Except.ok.inj heq
  have hplatform := readsBack_string platform
  have hratio := readsBack_double ratio
  have hwidth := readsBack_double width
  refine record_readsBack (by decide)
    (.field hplatform (.field hratio (.field hwidth (.nil [])))) ?_
  intro given hgiven
  simp only [SystemInfo.ofGiven, bind_eq_ok]
  exact ⟨_, need_written hgiven hplatform rfl, _, need_written hgiven hratio rfl, _,
    need_written hgiven hwidth rfl, rfl⟩

/-- The options of a page normalise, doubles and all. -/
theorem Options.normalises : Normalises Options := by
  intro draft options h
  obtain ⟨given, -, h⟩ := bind_eq_ok.mp h
  simp only [Options.ofGiven, bind_eq_ok] at h
  obtain ⟨css, -, route, -, version, hversion, locale, -, platform, -, ratio, -, width, -,
    disableScroll, -, onScroll, -, onBottom, -, distance, hdistance, status, -, top, -, bottom, -,
    heq⟩ := h
  obtain rfl := Except.ok.inj heq
  have hversion := readsBack_need roundTrips_word hversion
  have hdistance := readsBack_need roundTrips_word hdistance
  -- Every field is written, and what is written for it reads back by its own decoder.
  refine record_readsBack (by decide) (.field (readsBack_bool css) <|
    .field (readsBack_string route) <| .field hversion <| .field (readsBack_string locale) <|
    .field (readsBack_string platform) <| .field (readsBack_double ratio) <|
    .field (readsBack_double width) <| .field (readsBack_bool disableScroll) <|
    .field (readsBack_bool onScroll) <| .field (readsBack_bool onBottom) <| .field hdistance <|
    .field (readsBack_double status) <| .field (readsBack_double top) <|
    .field (readsBack_double bottom) <| .nil []) ?_
  intro given hgiven
  simp only [Options.ofGiven, bind_eq_ok]
  exact ⟨_, need_written hgiven (readsBack_bool css) rfl, _,
    need_written hgiven (readsBack_string route) rfl, _, need_written hgiven hversion rfl, _,
    need_written hgiven (readsBack_string locale) rfl, _,
    need_written hgiven (readsBack_string platform) rfl, _,
    need_written hgiven (readsBack_double ratio) rfl, _,
    need_written hgiven (readsBack_double width) rfl, _,
    need_written hgiven (readsBack_bool disableScroll) rfl, _,
    need_written hgiven (readsBack_bool onScroll) rfl, _,
    need_written hgiven (readsBack_bool onBottom) rfl, _, need_written hgiven hdistance rfl, _,
    need_written hgiven (readsBack_double status) rfl, _,
    need_written hgiven (readsBack_double top) rfl, _,
    need_written hgiven (readsBack_double bottom) rfl, rfl⟩

end MiniApp.Page

namespace MiniApp.Json

open MiniApp.App MiniApp.Page MiniApp.Template

/-- Encoding what has been decoded is a normal form, for every type that is written as JSON. -/
theorem encode_normalForm :
    NormalForm Render.Options ∧ NormalForm Render.Mode ∧ NormalForm Position ∧
      NormalForm Location ∧ NormalForm ErrorCode ∧ NormalForm Render.Helper ∧
      NormalForm Config ∧ NormalForm TabBarConfig ∧ NormalForm RouteSettings ∧
      NormalForm RouteOptions ∧ NormalForm OpenType ∧ NormalForm NavigationBar ∧
      NormalForm Page.Options ∧ NormalForm Instance ∧ NormalForm SystemInfo :=
  ⟨Render.Options.normalises.normalForm, Render.Mode.normalises.normalForm,
    Position.normalises.normalForm, Location.normalises.normalForm,
    ErrorCode.normalises.normalForm, Render.Helper.normalises.normalForm,
    Config.normalises.normalForm, TabBarConfig.normalises.normalForm,
    RouteSettings.normalises.normalForm, RouteOptions.normalises.normalForm,
    OpenType.normalises.normalForm, NavigationBar.normalises.normalForm,
    Page.Options.normalises.normalForm, Instance.normalises.normalForm,
    SystemInfo.normalises.normalForm⟩

/-- A position may be written as an array. It is encoded as an object. -/
example : (Codec.decode (.array [.number (.integer 4), .number (.integer 1),
    .number (.integer 5)] none) : Except DecodeError Position) = .ok ⟨4, 1, 5⟩ := by
  rfl

end MiniApp.Json
