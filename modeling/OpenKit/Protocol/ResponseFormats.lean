import OpenKit.Json.AsciiTexts
import OpenKit.Json.RoundTrip
import OpenKit.Protocol.DecimalTexts
import OpenKit.Protocol.UnitConversion

/-!
# The two formats of responses

Eight attributes are in both formats. If some of them are assigned, a list of pairs and a text in JSON with
their numbers give the same attributes, in whatever order the numbers are listed.

## Main definitions

* `SharedAttribute`: the attributes that are in both formats
* `SharedAttribute.keyValueBody`: the list of pairs of some attributes
* `SharedAttribute.jsonTree`: the objects of some attributes

## Main results

* `ResponseParser.formats_agree`: both formats give the same
-/

namespace OpenKit

open Fallible JsonNumberValue UTF8String

open ResponseAttributes (AttributeValue Takes)

/-- The attributes that are in both formats. -/
inductive SharedAttribute
  | beaconSize
  | sendInterval
  | capture
  | reportCrashes
  | reportErrors
  | trafficControlPercentage
  | serverId
  | multiplicity
deriving DecidableEq, Repr

/-- The objects of a text in JSON. -/
inductive ConfigObject
  | agentConfig
  | appConfig
  | dynamicConfig
deriving DecidableEq, Repr

namespace SharedAttribute

/-- The attribute of a response. -/
def responseAttribute : SharedAttribute → ResponseAttribute
  | beaconSize => .maxBeaconSize
  | sendInterval => .sendInterval
  | capture => .isCapture
  | reportCrashes => .isCaptureCrashes
  | reportErrors => .isCaptureErrors
  | trafficControlPercentage => .trafficControlPercentage
  | serverId => .serverId
  | multiplicity => .multiplicity

/-- Its key in a list of pairs. -/
def keyValueKey : SharedAttribute → List UInt8
  | beaconSize => KeyValueResponseParser.responseKeyMaxBeaconSizeInKb
  | sendInterval => KeyValueResponseParser.responseKeySendIntervalInSec
  | capture => KeyValueResponseParser.responseKeyCapture
  | reportCrashes => KeyValueResponseParser.responseKeyReportCrashes
  | reportErrors => KeyValueResponseParser.responseKeyReportErrors
  | trafficControlPercentage => KeyValueResponseParser.responseKeyTrafficControlPercentage
  | serverId => KeyValueResponseParser.responseKeyServerId
  | multiplicity => KeyValueResponseParser.responseKeyMultiplicity

/-- Its key in a text in JSON. -/
def jsonKey : SharedAttribute → List UInt8
  | beaconSize => JsonResponseParser.responseKeyMaxBeaconSizeInKb
  | sendInterval => JsonResponseParser.responseKeySendIntervalInSec
  | capture => JsonResponseParser.responseKeyCapture
  | reportCrashes => JsonResponseParser.responseKeyReportCrashes
  | reportErrors => JsonResponseParser.responseKeyReportErrors
  | trafficControlPercentage => JsonResponseParser.responseKeyTrafficControlPercentage
  | serverId => JsonResponseParser.responseKeyServerId
  | multiplicity => JsonResponseParser.responseKeyMultiplicity

/-- The object it is in. -/
def configObject : SharedAttribute → ConfigObject
  | beaconSize | sendInterval => .agentConfig
  | capture | reportCrashes | reportErrors | trafficControlPercentage => .appConfig
  | serverId | multiplicity => .dynamicConfig

end SharedAttribute

/-- The key of an object. -/
def ConfigObject.key : ConfigObject → List UInt8
  | agentConfig => JsonResponseParser.responseKeyAgentConfig
  | appConfig => JsonResponseParser.responseKeyAppConfig
  | dynamicConfig => JsonResponseParser.responseKeyDynamicConfig

/-- Numbers for some of the attributes. -/
abbrev Assignment : Type := SharedAttribute → Option ℤ

namespace SharedAttribute

variable {values : Assignment} {entries : List (SharedAttribute × List UInt8)} {k k' : SharedAttribute}
  {v : ℤ} {text : List UInt8}

/-- No product with the factor of a unit overflows. -/
def Fits (values : Assignment) : Prop :=
  ∀ k v, values k = some v → InInt32Range (v * ResponseParser.unitFactor k.responseAttribute)

/-- What is given for the attributes. -/
def given (values : Assignment) : GivenAttributes
  | .maxBeaconSize => (values beaconSize).map fun v => .number (v * 1024)
  | .sendInterval => (values sendInterval).map fun v => .number (v * 1000)
  | .isCapture => (values capture).map fun v => .flag (v == 1)
  | .isCaptureCrashes => (values reportCrashes).map fun v => .flag (v != 0)
  | .isCaptureErrors => (values reportErrors).map fun v => .flag (v != 0)
  | .trafficControlPercentage => (values trafficControlPercentage).map .number
  | .serverId => (values serverId).map .number
  | .multiplicity => (values multiplicity).map .number
  | _ => none

/-- Texts for the attributes that are assigned, and for no other, in some order. -/
structure Lists (values : Assignment) (IsText : ℤ → List UInt8 → Prop)
    (entries : List (SharedAttribute × List UInt8)) : Prop where
  isText : ∀ e ∈ entries, ∃ v, values e.1 = some v ∧ IsText v e.2
  listed : ∀ k v, values k = some v → ∃ text, (k, text) ∈ entries

/-- A number that fits when it is multiplied fits. -/
theorem Fits.inInt32Range (h : Fits values) (hv : values k = some v) : InInt32Range v := by
  obtain ⟨hlow, hhigh⟩ := h k v hv
  obtain ⟨hfactor, -⟩ := ResponseParser.unitFactor_bounds k.responseAttribute
  constructor
  · by_contra hlt
    have hle : v * ResponseParser.unitFactor k.responseAttribute ≤ v := by nlinarith
    omega
  · by_contra hlt
    have hle : v ≤ v * ResponseParser.unitFactor k.responseAttribute := by nlinarith
    omega

/-! ## Lists of pairs -/

/-- The part of an attribute. -/
def part (e : SharedAttribute × List UInt8) : List UInt8 := e.1.keyValueKey ++ 0x3D :: e.2

/-- The list of pairs of some attributes. -/
def keyValueBody (entries : List (SharedAttribute × List UInt8)) : List UInt8 :=
  ResponseParser.keyValueResponseTypeMobile ++ entries.flatMap fun e => 0x26 :: part e

theorem keyValueKey_injective : Function.Injective keyValueKey := by
  intro k k' h
  cases k <;> cases k' <;> first | rfl | exact absurd h (by decide)

theorem isKey_keyValueKey (k : SharedAttribute) : KeyValueResponseParser.IsKey k.keyValueKey := by
  have hall {key : List UInt8} (hne : key ≠ [])
      (hbytes : (key.all fun b => decide (b ≠ 0x3D ∧ getByteWidthOfCharacter b = 1)) = true) :
      KeyValueResponseParser.IsKey key :=
    ⟨hne, fun b hb => of_decide_eq_true (List.all_eq_true.mp hbytes b hb)⟩
  cases k <;> exact hall (by decide) (by decide)

/-- ASCII characters other than the ampersand. -/
def IsPartCharacter (b : UInt8) : Prop := b ≠ 0x26 ∧ IsAsciiCharacter b

instance (b : UInt8) : Decidable (IsPartCharacter b) :=
  inferInstanceAs (Decidable (b ≠ 0x26 ∧ IsAsciiCharacter b))

theorem forall_isPartCharacter_of_all {bytes : List UInt8}
    (h : (bytes.all fun b => decide (IsPartCharacter b)) = true) : ∀ b ∈ bytes, IsPartCharacter b :=
  fun b hb => of_decide_eq_true (List.all_eq_true.mp h b hb)

theorem isPartCharacter_of_isDigit {b : UInt8} (h : JsonLexer.isDigit b = true) : IsPartCharacter b := by
  have hall : ∀ b : UInt8, JsonLexer.isDigit b = true → IsPartCharacter b :=
    forall_byte (by decide +kernel)
  exact hall b h

theorem forall_isPartCharacter_of_isDecimal (h : IsDecimal v text) : ∀ b ∈ text, IsPartCharacter b := by
  obtain ⟨ds, ⟨-, hds⟩, htext⟩ := h
  have hdigits : ∀ b ∈ ds, IsPartCharacter b := fun b hb => isPartCharacter_of_isDigit (hds b hb)
  rcases htext with ⟨rfl | rfl, -⟩ | ⟨rfl, -⟩
  · exact hdigits
  · exact List.forall_mem_cons.mpr ⟨by decide, hdigits⟩
  · exact List.forall_mem_cons.mpr ⟨by decide, hdigits⟩

/-- The parts between delimiters. -/
theorem getlines_flatMap {delimiter : UInt8} {item : List UInt8} {items : List (List UInt8)}
    (hitem : delimiter ∉ item ∧ item ≠ []) (hitems : ∀ i ∈ items, delimiter ∉ i ∧ i ≠ []) :
    getlines delimiter (item ++ items.flatMap fun i => delimiter :: i) = item :: items := by
  have hfront {item rest : List UInt8} (h : delimiter ∉ item) :
      getlines delimiter (item ++ delimiter :: rest) = item :: getlines delimiter rest := by
    induction item with
    | nil => exact if_pos rfl
    | cons b item ih =>
      rw [List.cons_append, getlines, if_neg (List.ne_of_not_mem_cons h).symm,
        ih (List.not_mem_of_not_mem_cons h)]
  have hlast {item : List UInt8} (h : delimiter ∉ item) (hne : item ≠ []) :
      getlines delimiter item = [item] := by
    induction item with
    | nil => exact absurd rfl hne
    | cons b item ih =>
      rw [getlines, if_neg (List.ne_of_not_mem_cons h).symm]
      by_cases hnil : item = []
      · rw [hnil]
        rfl
      · rw [ih (List.not_mem_of_not_mem_cons h) hnil]
  induction items generalizing item with
  | nil => rw [List.flatMap_nil, List.append_nil, hlast hitem.1 hitem.2]
  | cons i items ih =>
    obtain ⟨hi, hitems⟩ := List.forall_mem_cons.mp hitems
    rw [List.flatMap_cons, List.cons_append, hfront hitem.1, ih hi hitems]

section Parts

variable {e : SharedAttribute × List UInt8}

theorem forall_isPartCharacter_part (h : IsDecimal v e.2) : ∀ b ∈ part e, IsPartCharacter b := by
  have hkey (k : SharedAttribute) : ∀ b ∈ k.keyValueKey, IsPartCharacter b := by
    cases k <;> exact forall_isPartCharacter_of_all (by decide)
  exact List.forall_mem_append.mpr
    ⟨hkey e.1, List.forall_mem_cons.mpr ⟨by decide, forall_isPartCharacter_of_isDecimal h⟩⟩

/-- **The text in a part** is behind the key of its attribute. -/
theorem textBehind_part (h : e.2 ≠ []) :
    KeyValueResponseParser.textBehind k.keyValueKey (part e) = if e.1 = k then some e.2 else none := by
  have hsign (k : SharedAttribute) : (0x3D : UInt8) ∉ k.keyValueKey :=
    fun hmem => ((isKey_keyValueKey k).2 _ hmem).1 rfl
  refine Option.ext fun text => ?_
  rw [KeyValueResponseParser.textBehind_eq_some_iff, part]
  constructor
  · rintro ⟨heq, -⟩
    obtain ⟨hkey, rfl⟩ := KeyValueResponseParser.eq_of_append_cons_eq (hsign _) (hsign _) heq
    rw [if_pos (keyValueKey_injective hkey)]
  · intro hsome
    split at hsome
    next hk =>
      obtain rfl := Option.some.inj hsome
      exact ⟨by rw [hk], h⟩
    next => cases hsome

end Parts

/-- The strings of the parts. -/
def parts (entries : List (SharedAttribute × List UInt8)) : List (List UInt8) :=
  ResponseParser.keyValueResponseTypeMobile :: entries.map part

section KeyValueBody

open KeyValueResponseParser (textBehind firstText)

variable (h : Lists values IsDecimal entries)

include h

theorem Lists.forall_parts : ∀ i ∈ parts entries, (∀ b ∈ i, IsPartCharacter b) ∧ 0x3D ∈ i := by
  refine List.forall_mem_cons.mpr ⟨⟨forall_isPartCharacter_of_all (by decide), by decide⟩, ?_⟩
  refine List.forall_mem_map.mpr fun e he => ?_
  obtain ⟨v, -, htext⟩ := h.isText e he
  exact ⟨forall_isPartCharacter_part htext, List.mem_append_right _ List.mem_cons_self⟩

theorem Lists.keyValueBody_spec :
    (∀ b ∈ keyValueBody entries, IsAsciiCharacter b) ∧
      getlines 0x26 (keyValueBody entries) = parts entries := by
  have hparts := h.forall_parts
  obtain ⟨htype, hentries⟩ := List.forall_mem_cons.mp hparts
  constructor
  · refine List.forall_mem_append.mpr ⟨fun b hb => (htype.1 b hb).2, fun b hb => ?_⟩
    obtain ⟨e, he, hb⟩ := List.mem_flatMap.mp hb
    rcases List.mem_cons.mp hb with rfl | hb
    · decide
    · exact ((hentries _ (List.mem_map_of_mem he)).1 b hb).2
  · have hitem (i : List UInt8) (hi : i ∈ parts entries) : (0x26 : UInt8) ∉ i ∧ i ≠ [] := by
      refine ⟨fun hmem => ((hparts i hi).1 _ hmem).1 rfl, ?_⟩
      rintro rfl
      exact absurd (hparts [] hi).2 List.not_mem_nil
    have hbody : keyValueBody entries = ResponseParser.keyValueResponseTypeMobile ++
        (entries.map part).flatMap fun i => 0x26 :: i := by
      rw [List.flatMap_map]
      rfl
    rw [hbody]
    exact getlines_flatMap (hitem _ List.mem_cons_self) fun i hi => hitem i (List.mem_cons_of_mem _ hi)

theorem Lists.data_validateString : ∀ i ∈ parts entries, (validateString i).data = i :=
  fun i hi => data_validateString_of_ascii fun b hb => ((h.forall_parts i hi).1 b hb).2

/-- **The text under a key** is one of the value. -/
theorem Lists.exists_of_firstText
    (hfirst : firstText k.keyValueKey ((parts entries).map validateString) = some text) :
    ∃ v, values k = some v ∧ IsDecimal v text := by
  obtain ⟨s, hs, htext⟩ := List.exists_of_findSome?_eq_some hfirst
  obtain ⟨i, hi, rfl⟩ := List.mem_map.mp hs
  rw [h.data_validateString i hi] at htext
  rcases List.mem_cons.mp hi with rfl | hi
  · have hnone : textBehind k.keyValueKey ResponseParser.keyValueResponseTypeMobile = none := by
      cases k <;> decide
    rw [hnone] at htext
    cases htext
  · obtain ⟨e, he, rfl⟩ := List.mem_map.mp hi
    obtain ⟨v, hv, hdecimal⟩ := h.isText e he
    rw [textBehind_part hdecimal.ne_nil] at htext
    split at htext
    next hk =>
      obtain rfl := Option.some.inj htext
      exact ⟨v, by rw [← hk, hv], hdecimal⟩
    next => cases htext

/-- **The number under a key** is the value. -/
theorem Lists.stoi_firstText (hfits : Fits values) (k : SharedAttribute) :
    ((firstText k.keyValueKey ((parts entries).map validateString)).bind fun text =>
      (stoi text).toOption) = values k := by
  cases hfirst : firstText k.keyValueKey ((parts entries).map validateString) with
  | none =>
    -- an attribute that is assigned would be found
    symm
    refine Option.eq_none_iff_forall_ne_some.mpr fun v hv => ?_
    obtain ⟨text, hmem⟩ := h.listed k v hv
    obtain ⟨_, -, hdecimal⟩ := h.isText _ hmem
    have hpart : part (k, text) ∈ parts entries :=
      List.mem_cons_of_mem _ (List.mem_map_of_mem hmem)
    have hnone := List.findSome?_eq_none_iff.mp hfirst _ (List.mem_map_of_mem hpart)
    rw [h.data_validateString _ hpart, textBehind_part hdecimal.ne_nil, if_pos rfl] at hnone
    cases hnone
  | some text =>
    obtain ⟨v, hv, hdecimal⟩ := h.exists_of_firstText hfirst
    rw [Option.bind_some, hdecimal.stoi_eq (hfits.inInt32Range hv), hv]
    rfl

/-- **A list of pairs** gives the assigned attributes. -/
theorem Lists.exists_parse_keyValueBody (hfits : Fits values) :
    ∃ a, ResponseParser.parseResponse (validateString (keyValueBody entries)) = .ok a ∧
      Takes (given values) .keyValueResponse a := by
  obtain ⟨hascii, hlines⟩ := h.keyValueBody_spec
  have hdata := data_validateString_of_ascii hascii
  have hkind : ResponseParser.isKeyValuePairResponse (validateString (keyValueBody entries)) = true := by
    rw [ResponseParser.isKeyValuePairResponse, getStringData, hdata]
    cases entries <;> rfl
  have hsplit : (validateString (keyValueBody entries)).split 0x26 = (parts entries).map validateString := by
    rw [split, hdata, hlines]
  have hwalks : ∀ s ∈ (parts entries).map validateString, KeyValueResponseParser.WalksThrough s := by
    refine List.forall_mem_map.mpr fun i hi => ?_
    obtain ⟨hcharacters, hsign⟩ := h.forall_parts i hi
    obtain ⟨cs, rfl, hstring⟩ := exists_characters_of_ascii fun b hb => (hcharacters b hb).2
    exact ⟨cs, hstring, .inl ((mem_bytesOf_ascii (by decide) (by decide)).mp hsign)⟩
  have hcharacters : ∀ s ∈ (parts entries).map validateString, ∃ cs, s = ofCharacters cs := by
    intro s hs
    obtain ⟨cs, hstring, -⟩ := hwalks s hs
    exact ⟨cs, hstring⟩
  have hpairs := KeyValueResponseParser.ends_insertPairs hcharacters []
  rw [ResponseParser.parseResponse, if_pos hkind, KeyValueResponseParser.parse, hsplit]
  cases hinsert : KeyValueResponseParser.insertPairs ((parts entries).map validateString) [] with
  | error fault =>
    rw [hinsert] at hpairs
    exact absurd hwalks hpairs.2
  | ok keyValuePairs =>
    have hlookup (k : SharedAttribute) : keyValuePairs.lookup k.keyValueKey =
        firstText k.keyValueKey ((parts entries).map validateString) :=
      KeyValueResponseParser.lookup_insertPairs (isKey_keyValueKey k) hcharacters hinsert
    have hread (k : SharedAttribute) (attr : ℤ → AttributeValue) :
        KeyValueResponseParser.entryGiven attr (keyValuePairs.lookup k.keyValueKey) =
          (values k).map attr := by
      rw [KeyValueResponseParser.entryGiven, hlookup, h.stoi_firstText hfits]
    have hgiven : KeyValueResponseParser.given keyValuePairs = given values := by
      funext k
      cases k with
      | maxBeaconSize =>
        refine (hread .beaconSize _).trans (Option.map_congr fun v hv => ?_)
        exact congrArg AttributeValue.number (toInt32_of_inInt32Range (hfits .beaconSize v hv))
      | sendInterval =>
        refine (hread .sendInterval _).trans (Option.map_congr fun v hv => ?_)
        exact congrArg AttributeValue.number (toInt32_of_inInt32Range (hfits .sendInterval v hv))
      | isCapture => exact hread .capture _
      | isCaptureCrashes => exact hread .reportCrashes _
      | isCaptureErrors => exact hread .reportErrors _
      | trafficControlPercentage => exact hread .trafficControlPercentage _
      | serverId => exact hread .serverId _
      | multiplicity => exact hread .multiplicity _
      | _ => rfl
    have hends := KeyValueResponseParser.ends_applySteps keyValuePairs .keyValueResponse
    rw [hgiven] at hends
    refine (hends.mono (fun _ htakes => htakes) ?_).exists_ok
    -- the text under each of the keys is a number
    rintro fault ⟨key, hkey, text, htext, hfault⟩
    obtain ⟨k, rfl⟩ : ∃ k : SharedAttribute, key = k.keyValueKey := by
      simp only [KeyValueResponseParser.responseKeys, List.mem_cons, List.not_mem_nil, or_false] at hkey
      rcases hkey with rfl | rfl | rfl | rfl | rfl | rfl | rfl | rfl
      exacts [⟨.beaconSize, rfl⟩, ⟨.sendInterval, rfl⟩, ⟨.capture, rfl⟩, ⟨.reportCrashes, rfl⟩,
        ⟨.reportErrors, rfl⟩, ⟨.trafficControlPercentage, rfl⟩, ⟨.serverId, rfl⟩, ⟨.multiplicity, rfl⟩]
    rw [hlookup] at htext
    obtain ⟨v, hv, hdecimal⟩ := h.exists_of_firstText htext
    rw [hdecimal.stoi_eq (hfits.inInt32Range hv)] at hfault
    cases hfault

end KeyValueBody

/-! ## Texts in JSON -/

/-- An integer in JSON. -/
def IsLiteral (v : ℤ) (text : List UInt8) : Prop := IsIntegerLiteral text ∧ integerValue text = v

def memberOf (e : SharedAttribute × List UInt8) : List UInt8 × JsonTree := (e.1.jsonKey, .number e.2)

def objectOf (o : ConfigObject × List (SharedAttribute × List UInt8)) : List UInt8 × JsonTree :=
  (o.1.key, .object (o.2.map memberOf))

/-- The objects of some attributes. -/
def jsonTree (objects : List (ConfigObject × List (SharedAttribute × List UInt8))) : JsonTree :=
  .object (objects.map objectOf)

/-- The objects have the attributes that are assigned. An object is there at most once, and it may be
empty. -/
structure Carries (values : Assignment)
    (objects : List (ConfigObject × List (SharedAttribute × List UInt8))) : Prop where
  nodup : (objects.map Prod.fst).Nodup
  own : ∀ o ∈ objects, ∀ e ∈ o.2, e.1.configObject = o.1
  lists : Lists values IsLiteral (objects.flatMap Prod.snd)

theorem jsonKey_injective : Function.Injective jsonKey := by
  intro k k' h
  cases k <;> cases k' <;> first | rfl | exact absurd h (by decide)

theorem configKey_injective : Function.Injective ConfigObject.key := by
  intro o o' h
  cases o <;> cases o' <;> first | rfl | exact absurd h (by decide)

theorem IsLiteral.toValue (h : IsLiteral v text) (hv : InInt32Range v) :
    (JsonTree.number text).toValue = .long v := by
  obtain ⟨hliteral, hvalue⟩ := h
  obtain ⟨hlow, hhigh⟩ := hv
  have hlong : InLongRange (integerValue text) := by
    rw [hvalue]
    exact ⟨by omega, by omega⟩
  rw [JsonTree.toValue, JsonTree.fromNumberLiteral_of_isIntegerLiteral hliteral, parseLongValue,
    if_pos hlong, hvalue]

section JsonBody

variable {objects : List (ConfigObject × List (SharedAttribute × List UInt8))} {body : List UInt8}
  {sectionKey key : List UInt8} {t : JsonTree} (h : Carries values objects)

include h

theorem Carries.isText {o : ConfigObject × List (SharedAttribute × List UInt8)}
    {e : SharedAttribute × List UInt8} (ho : o ∈ objects) (he : e ∈ o.2) :
    ∃ v, values e.1 = some v ∧ IsLiteral v e.2 :=
  h.lists.isText e (List.mem_flatMap.mpr ⟨o, ho, he⟩)

/-- **A member of an object** is an attribute with a text of its value. -/
theorem Carries.exists_of_memberAt (ht : (jsonTree objects).memberAt [sectionKey, key] = some t) :
    ∃ k v text, key = k.jsonKey ∧ values k = some v ∧ IsLiteral v text ∧ t = .number text := by
  obtain ⟨t', hobject, hmember⟩ := Option.bind_eq_some_iff.mp ht
  obtain ⟨o, ho, heq⟩ := List.mem_map.mp (JsonTree.mem_of_lastNamed_eq_some hobject)
  obtain rfl : t' = .object (o.2.map memberOf) := (congrArg Prod.snd heq).symm
  obtain ⟨t'', hlast, hself⟩ := Option.bind_eq_some_iff.mp hmember
  obtain ⟨e, he, heq⟩ := List.mem_map.mp (JsonTree.mem_of_lastNamed_eq_some hlast)
  obtain ⟨v, hv, hliteral⟩ := h.isText ho he
  obtain rfl : t'' = .number e.2 := (congrArg Prod.snd heq).symm
  exact ⟨e.1, v, e.2, (congrArg Prod.fst heq).symm, hv, hliteral, (Option.some.inj hself).symm⟩

/-- **An attribute that is assigned** has a member. -/
theorem Carries.exists_memberAt (hv : values k = some v) :
    ∃ t, (jsonTree objects).memberAt [k.configObject.key, k.jsonKey] = some t := by
  obtain ⟨text, hmem⟩ := h.lists.listed k v hv
  obtain ⟨o, ho, he⟩ := List.mem_flatMap.mp hmem
  have hnodup : ((objects.map objectOf).map Prod.fst).Nodup := by
    have hkeys : (objects.map objectOf).map Prod.fst = (objects.map Prod.fst).map ConfigObject.key := by
      rw [List.map_map, List.map_map]
      rfl
    rw [hkeys]
    exact h.nodup.map configKey_injective
  have hobject : JsonTree.lastNamed o.1.key (objects.map objectOf) =
      some (.object (o.2.map memberOf)) :=
    JsonTree.lastNamed_of_mem hnodup (List.mem_map_of_mem ho)
  obtain ⟨t, ht⟩ := JsonTree.exists_lastNamed (List.mem_map_of_mem he : memberOf (k, text) ∈ _)
  have hown : k.configObject = o.1 := h.own o ho _ he
  refine ⟨t, ?_⟩
  rw [hown, jsonTree, JsonTree.memberAt, hobject, Option.bind_some, JsonTree.memberAt]
  refine (congrArg (fun found => found.bind (JsonTree.memberAt [])) ht).trans ?_
  cases t <;> rfl

/-- **The value of a member** is the number that is assigned. -/
theorem Carries.member_eq (hfits : Fits values) (k : SharedAttribute) :
    JsonResponseParser.member (memberValues [] (objects.map objectOf)) k.configObject.key k.jsonKey =
      (values k).map .long := by
  have hmember := JsonValue.memberAt_toValue (jsonTree objects) [k.configObject.key, k.jsonKey]
  rw [jsonTree, JsonTree.toValue, ResponseParser.memberAt_pair] at hmember
  rw [hmember]
  cases hv : values k with
  | none =>
    rw [Option.map_none, Option.map_eq_none_iff]
    refine Option.eq_none_iff_forall_ne_some.mpr fun t ht => ?_
    obtain ⟨k', v, text, hkey, hv', -⟩ := h.exists_of_memberAt ht
    rw [← jsonKey_injective hkey, hv] at hv'
    cases hv'
  | some v =>
    obtain ⟨t, ht⟩ := h.exists_memberAt hv
    obtain ⟨k', v', text, hkey, hv', hliteral, rfl⟩ := h.exists_of_memberAt ht
    rw [← jsonKey_injective hkey, hv] at hv'
    obtain rfl := Option.some.inj hv'
    rw [jsonTree] at ht
    rw [ht, Option.map_some, hliteral.toValue (hfits.inInt32Range hv), Option.map_some]

/-- Nothing else is in the objects. -/
theorem Carries.member_eq_none (hkey : ∀ k : SharedAttribute, key ≠ k.jsonKey) :
    JsonResponseParser.member (memberValues [] (objects.map objectOf)) sectionKey key = none := by
  have hmember := JsonValue.memberAt_toValue (jsonTree objects) [sectionKey, key]
  rw [jsonTree, JsonTree.toValue, ResponseParser.memberAt_pair] at hmember
  rw [hmember, Option.map_eq_none_iff]
  refine Option.eq_none_iff_forall_ne_some.mpr fun t ht => ?_
  obtain ⟨k, v, text, rfl, -⟩ := h.exists_of_memberAt ht
  exact hkey k rfl

/-- The root object gives the assigned attributes. -/
theorem Carries.given_eq (hfits : Fits values) :
    JsonResponseParser.given (memberValues [] (objects.map objectOf)) = given values := by
  have hread (k : SharedAttribute) (attr : JsonNumberValue → AttributeValue) :
      JsonResponseParser.numberGiven attr (JsonResponseParser.member
        (memberValues [] (objects.map objectOf)) k.configObject.key k.jsonKey) =
        (values k).map fun v => attr (.fromLong v) := by
    rw [h.member_eq hfits, JsonResponseParser.numberGiven]
    cases values k <;> rfl
  have hint32 {k : SharedAttribute} {v : ℤ} (hv : values k = some v) :
      (JsonNumberValue.fromLong v).getInt32Value = v := toInt32_of_inInt32Range (hfits.inInt32Range hv)
  have hother {attr : JsonNumberValue → AttributeValue} {sectionKey key : List UInt8}
      (hkey : ∀ k : SharedAttribute, key ≠ k.jsonKey) :
      JsonResponseParser.numberGiven attr (JsonResponseParser.member
        (memberValues [] (objects.map objectOf)) sectionKey key) = none := by
    rw [h.member_eq_none hkey]
    rfl
  have htext {sectionKey key : List UInt8} (hkey : ∀ k : SharedAttribute, key ≠ k.jsonKey) :
      JsonResponseParser.textGiven (JsonResponseParser.member
        (memberValues [] (objects.map objectOf)) sectionKey key) = none := by
    rw [h.member_eq_none hkey]
    rfl
  funext k
  cases k with
  | maxBeaconSize =>
    refine (hread .beaconSize _).trans (Option.map_congr fun v hv => congrArg AttributeValue.number ?_)
    rw [hint32 hv]
    exact toInt32_of_inInt32Range (hfits .beaconSize v hv)
  | sendInterval =>
    refine (hread .sendInterval _).trans (Option.map_congr fun v hv => congrArg AttributeValue.number ?_)
    rw [hint32 hv]
    exact toInt32_of_inInt32Range (hfits .sendInterval v hv)
  | isCapture =>
    refine (hread .capture _).trans (Option.map_congr fun v hv => congrArg AttributeValue.flag ?_)
    rw [hint32 hv]
  | isCaptureCrashes =>
    refine (hread .reportCrashes _).trans (Option.map_congr fun v hv => congrArg AttributeValue.flag ?_)
    rw [hint32 hv]
  | isCaptureErrors =>
    refine (hread .reportErrors _).trans (Option.map_congr fun v hv => congrArg AttributeValue.flag ?_)
    rw [hint32 hv]
  | trafficControlPercentage =>
    exact (hread .trafficControlPercentage _).trans
      (Option.map_congr fun v hv => congrArg AttributeValue.number (hint32 hv))
  | serverId =>
    exact (hread .serverId _).trans
      (Option.map_congr fun v hv => congrArg AttributeValue.number (hint32 hv))
  | multiplicity =>
    exact (hread .multiplicity _).trans
      (Option.map_congr fun v hv => congrArg AttributeValue.number (hint32 hv))
  | maxSessionDuration => exact hother fun k => by cases k <;> decide
  | maxEventsPerSession => exact hother fun k => by cases k <;> decide
  | sessionIdleTimeout => exact hother fun k => by cases k <;> decide
  | visitStoreVersion => exact hother fun k => by cases k <;> decide
  | applicationId => exact htext fun k => by cases k <;> decide
  | status => exact htext fun k => by cases k <;> decide
  | timestamp =>
    -- the root has objects only
    have hnone : (memberValues [] (objects.map objectOf)).lookup
        JsonResponseParser.responseKeyTimestampInMillis = none := by
      rw [lookup_memberValues, Option.map_eq_none_iff]
      refine Option.eq_none_iff_forall_ne_some.mpr fun t ht => ?_
      obtain ⟨o, -, heq⟩ := List.mem_map.mp (JsonTree.mem_of_lastNamed_eq_some ht)
      have hne (o : ConfigObject) : o.key ≠ JsonResponseParser.responseKeyTimestampInMillis := by
        cases o <;> decide
      exact hne o.1 (congrArg Prod.fst heq)
    show JsonResponseParser.numberGiven _ _ = none
    rw [hnone]
    rfl

theorem Carries.readable (hfits : Fits values) : (jsonTree objects).Readable := by
  refine .object (List.forall_mem_map.mpr fun o ho => ⟨?_, ?_⟩) (List.forall_mem_map.mpr fun o ho => ?_)
  · show o.1.key ≠ []
    cases o.1 <;> decide
  · intro heq
    cases heq
  · refine .object (List.forall_mem_map.mpr fun e he => ⟨?_, ?_⟩)
      (List.forall_mem_map.mpr fun e he => .number trivial)
    · show e.1.jsonKey ≠ []
      cases e.1 <;> decide
    · obtain ⟨v, hv, hliteral⟩ := h.isText ho he
      show (JsonTree.number e.2).toValue ≠ .nullPointer
      rw [hliteral.toValue (hfits.inInt32Range hv)]
      intro heq
      cases heq

omit h in
theorem asciiStrings_jsonTree
    (objects : List (ConfigObject × List (SharedAttribute × List UInt8))) :
    (jsonTree objects).AsciiStrings := by
  refine .object (List.forall_mem_map.mpr fun o _ => ?_) (List.forall_mem_map.mpr fun o _ => ?_)
  · show ∀ b ∈ o.1.key, IsAsciiCharacter b
    cases o.1 <;> exact forall_isAsciiCharacter_of_all (by decide)
  · refine .object (List.forall_mem_map.mpr fun e _ => ?_) (List.forall_mem_map.mpr fun e _ => .number trivial)
    show ∀ b ∈ e.1.jsonKey, IsAsciiCharacter b
    cases e.1 <;> exact forall_isAsciiCharacter_of_all (by decide)

omit h in
/-- A text of an object does not start with a letter. -/
theorem head?_ne_of_spelledAs {tokens : List JsonToken} {bytes : List UInt8}
    (hspelled : SpelledAs (.leftBrace :: tokens) bytes) : bytes.head? ≠ some 0x74 := by
  cases hspelled with
  | @cons _ _ whitespace spelling rest hwhitespace hspelling hrest =>
    cases hspelling
    intro heq
    cases whitespace with
    | nil => exact absurd (Option.some.inj heq) (by decide)
    | cons b whitespace =>
      obtain rfl := Option.some.inj heq
      exact absurd (hwhitespace _ List.mem_cons_self) (by decide)

/-- **A text in JSON** gives the assigned attributes. -/
theorem Carries.exists_parse_jsonBody (hfits : Fits values)
    (hspelled : SpelledAs (jsonTree objects).tokens body) :
    ∃ a, ResponseParser.parseResponse (validateString body) = .ok a ∧
      Takes (given values) .jsonResponse a := by
  have hdata : (validateString body).data = body :=
    data_validateString_of_ascii ((asciiStrings_jsonTree objects).forall_isAsciiCharacter hspelled)
  have hhead : body.head? ≠ some 0x74 := by
    rw [jsonTree] at hspelled
    cases hobjects : objects.map objectOf with
    | nil =>
      rw [hobjects, JsonTree.tokens] at hspelled
      exact head?_ne_of_spelledAs hspelled
    | cons m ms =>
      rw [hobjects, JsonTree.tokens_object_cons] at hspelled
      exact head?_ne_of_spelledAs hspelled
  have hkind : ResponseParser.isKeyValuePairResponse (validateString body) = false := by
    rw [ResponseParser.isKeyValuePairResponse, getStringData, hdata, Bool.or_eq_false_iff]
    constructor
    · refine beq_eq_false_iff_ne.mpr fun heq => hhead ?_
      rw [heq]
      rfl
    · refine Bool.eq_false_iff.mpr fun hfront => hhead ?_
      obtain ⟨rest, rfl⟩ := List.isPrefixOf_iff_prefix.mp hfront
      rfl
  rw [← hdata] at hspelled
  have hparse := JsonParser.parse_new_of_readable hspelled (h.readable hfits)
  have hends := JsonResponseParser.ends_apply (memberValues [] (objects.map objectOf)) .jsonResponse
  rw [h.given_eq hfits] at hends
  rw [ResponseParser.parseResponse, hkind, if_neg Bool.false_ne_true,
    JsonResponseParser.parse_of_object hparse]
  exact hends.exists_ok

end JsonBody

end SharedAttribute

/-! ## Both -/

namespace ResponseParser

open SharedAttribute

/-- **Both formats give the same**, and what is assigned, whatever numbers are assigned to whichever
attributes, and in whatever order and spelling they are listed. -/
theorem formats_agree {values : Assignment} {entries : List (SharedAttribute × List UInt8)}
    {objects : List (ConfigObject × List (SharedAttribute × List UInt8))} {body : List UInt8}
    (hfits : SharedAttribute.Fits values) (hentries : Lists values IsDecimal entries)
    (hobjects : Carries values objects) (hbody : SpelledAs (jsonTree objects).tokens body) :
    ∃ a b, parseResponse (validateString (keyValueBody entries)) = .ok a ∧
      parseResponse (validateString body) = .ok b ∧
      Takes (given values) .keyValueResponse a ∧ Takes (given values) .jsonResponse b ∧
      ∀ k, a.isAttributeSet k = b.isAttributeSet k ∧
        (a.isAttributeSet k = true → a.value k = b.value k) := by
  obtain ⟨a, ha, htakes⟩ := hentries.exists_parse_keyValueBody hfits
  obtain ⟨b, hb, htakes'⟩ := hobjects.exists_parse_jsonBody hfits hbody
  refine ⟨a, b, ha, hb, htakes, htakes', fun k => ?_⟩
  obtain ⟨hvalue, hset⟩ := htakes k
  obtain ⟨hvalue', hset'⟩ := htakes' k
  -- nothing is set in the defaults of either format
  have hdefault : ResponseAttributes.keyValueResponse.isAttributeSet k =
      ResponseAttributes.jsonResponse.isAttributeSet k := rfl
  refine ⟨by rw [hset, hset', hdefault], fun hisSet => ?_⟩
  have hsome : (given values k).isSome = true := by
    rw [hset] at hisSet
    exact hisSet
  obtain ⟨v, hv⟩ := Option.isSome_iff_exists.mp hsome
  rw [hvalue, hvalue', hv]
  rfl

/-- Capturing is switched on, but not for errors, and there is a multiplicity. -/
def threeAssigned : Assignment
  | .capture => some 1
  | .reportErrors => some 0
  | .multiplicity => some 3
  | _ => none

/-- Any texts of the three numbers list them, in any order. -/
theorem lists_threeAssigned {IsText : ℤ → List UInt8 → Prop} (hone : IsText 1 [0x31])
    (hzero : IsText 0 [0x30]) (hthree : IsText 3 [0x33])
    {entries : List (SharedAttribute × List UInt8)}
    (horder : entries.Perm [(.capture, [0x31]), (.reportErrors, [0x30]), (.multiplicity, [0x33])]) :
    Lists threeAssigned IsText entries := by
  refine ⟨fun e he => ?_, fun k v hv => ?_⟩
  · have hmem := horder.mem_iff.mp he
    simp only [List.mem_cons, List.not_mem_nil, or_false] at hmem
    rcases hmem with rfl | rfl | rfl
    · exact ⟨1, rfl, hone⟩
    · exact ⟨0, rfl, hzero⟩
    · exact ⟨3, rfl, hthree⟩
  · cases k with
    | capture => exact ⟨[0x31], horder.mem_iff.mpr (by decide)⟩
    | reportErrors => exact ⟨[0x30], horder.mem_iff.mpr (by decide)⟩
    | multiplicity => exact ⟨[0x33], horder.mem_iff.mpr (by decide)⟩
    | _ => cases hv

/-- Two objects with the three attributes, and one that is empty. -/
def threeObjects : List (ConfigObject × List (SharedAttribute × List UInt8)) :=
  [(.appConfig, [(.reportErrors, [0x30]), (.capture, [0x31])]), (.agentConfig, []),
    (.dynamicConfig, [(.multiplicity, [0x33])])]

def threeAssignedJson : List UInt8 :=
  (UTF8String.ofAscii ("\x7b\x22appConfig\x22:\x7b\x22reportErrors\x22:0,\x22capture\x22:1\x7d," ++
    "\x22mobileAgentConfig\x22:\x7b\x7d,\x22dynamicConfig\x22:\x7b\x22multiplicity\x22:3\x7d\x7d").toList).data

def threeEntries : List (SharedAttribute × List UInt8) :=
  [(.multiplicity, [0x33]), (.capture, [0x31]), (.reportErrors, [0x30])]

/-- Digits that are no zero are integers in JSON. -/
theorem isIntegerLiteral_digit {b : UInt8} (hne : b ≠ 0x30) (hdigit : JsonLexer.isDigit b = true) :
    IsIntegerLiteral [b] :=
  ⟨[], [b], .inl rfl, .inr ⟨b, [], rfl, hne, hdigit, List.forall_mem_nil _⟩, rfl⟩

theorem isIntegerLiteral_zero : IsIntegerLiteral [0x30] := ⟨[], [0x30], .inl rfl, .inl rfl, rfl⟩

theorem spelledAs_threeObjects : SpelledAs (jsonTree threeObjects).tokens threeAssignedJson := by
  have hkey (key : List UInt8) :=
    (spells_token (exists_spelledBy_string key)).append (spells_token .colon)
  have hmember (k : SharedAttribute) {text : List UInt8} (h : IsIntegerLiteral text) :=
    (hkey k.jsonKey).append (spells_token (.number ⟨text, [], [], h, .inl rfl, .inl rfl, rfl⟩))
  have hobject (o : ConfigObject) {tokens : List JsonToken} {text : List UInt8}
      (h : Spells tokens text) :=
    (hkey o.key).append ((spells_token .leftBrace).append (h.append (spells_token .rightBrace)))
  have happConfig := hobject .appConfig ((hmember .reportErrors isIntegerLiteral_zero).append
    ((spells_token .comma).append
      (hmember .capture (isIntegerLiteral_digit (b := 0x31) (by decide) (by decide)))))
  have hdynamicConfig := hobject .dynamicConfig
    (hmember .multiplicity (isIntegerLiteral_digit (b := 0x33) (by decide) (by decide)))
  have hspells := (spells_token .leftBrace).append (happConfig.append ((spells_token .comma).append
    ((hobject .agentConfig spells_nil).append ((spells_token .comma).append
      (hdynamicConfig.append (spells_token .rightBrace))))))
  have hof {tokens : List JsonToken} {text : List UInt8} (h : Spells tokens text)
      (htokens : tokens = (jsonTree threeObjects).tokens) (htext : text = threeAssignedJson) :
      SpelledAs (jsonTree threeObjects).tokens threeAssignedJson := by
    have hbody := h [] [] (.nil (List.forall_mem_nil _))
    rw [List.append_nil, List.append_nil, htokens, htext] at hbody
    exact hbody
  exact hof hspells rfl (by decide +kernel)

/-- Three attributes that are listed in different orders, and an object that is empty. -/
theorem formats_agree_threeAssigned :
    ∃ a b, parseResponse (validateString (UTF8String.ofAscii "type=m&mp=3&cp=1&er=0".toList).data) =
        .ok a ∧
      parseResponse (validateString threeAssignedJson) = .ok b ∧
      Takes (given threeAssigned) .keyValueResponse a ∧ Takes (given threeAssigned) .jsonResponse b ∧
      ∀ k, a.isAttributeSet k = b.isAttributeSet k ∧
        (a.isAttributeSet k = true → a.value k = b.value k) := by
  have hfits : SharedAttribute.Fits threeAssigned := by
    intro k v hv
    cases k <;> cases hv <;> decide
  have hdecimal {b : UInt8} (hb : JsonLexer.isDigit b = true) : IsDecimal (digitsValue [b]) [b] :=
    ⟨[b], ⟨List.cons_ne_nil _ _, List.forall_mem_singleton.mpr hb⟩, .inl ⟨.inl rfl, rfl⟩⟩
  have hentries : Lists threeAssigned IsDecimal threeEntries :=
    lists_threeAssigned (hdecimal (by decide)) (hdecimal (by decide)) (hdecimal (by decide)) (by decide)
  have hobjects : Carries threeAssigned threeObjects :=
    ⟨by decide, by decide, lists_threeAssigned ⟨isIntegerLiteral_digit (by decide) (by decide), rfl⟩
      ⟨isIntegerLiteral_zero, rfl⟩ ⟨isIntegerLiteral_digit (by decide) (by decide), rfl⟩ (.swap _ _ _)⟩
  have hbody : keyValueBody threeEntries = (UTF8String.ofAscii "type=m&mp=3&cp=1&er=0".toList).data := by
    decide
  rw [← hbody]
  exact formats_agree hfits hentries hobjects spelledAs_threeObjects

end ResponseParser

end OpenKit
