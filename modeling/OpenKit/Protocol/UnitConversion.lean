import OpenKit.Json.ObjectMembers
import OpenKit.Protocol.DecimalTexts
import OpenKit.Protocol.KeyValuePairs
import OpenKit.Protocol.NumberConversions

/-!
# The conversion of units

The numbers of a response are given in some unit, and the attributes are kept in a smaller one. An
attribute should be the number that the response gives, times the factor of the unit. This holds where the
number is an integer and the product fits; nothing checks it, so that other numbers are cut off or wrap
around.

## Main definitions

* `ResponseParser.unitFactor`: the factors
* `ResponseParser.GivesNumber`: the number that a response gives for an attribute
* `ResponseParser.ConvertsExactly`: every attribute is the given number times the factor

## Main results

* `ResponseParser.convertsExactly_iff`: which responses are converted exactly
-/

namespace OpenKit

open Fallible JsonNumberValue UTF8String

open ResponseAttributes (AttributeValue Takes)

/-! ## Members of a tree -/

namespace JsonTree

/-- The member at a path of keys. -/
def memberAt : List (List UInt8) → JsonTree → Option JsonTree
  | [], t => some t
  | key :: path, .object ms => (lastNamed key ms).bind (memberAt path)
  | _ :: _, _ => none

variable {P : JsonTree → Prop} {t t' : JsonTree} {key : List UInt8} {path : List (List UInt8)}

theorem Everywhere.memberAt (h : t.Everywhere P) (ht' : t.memberAt path = some t') : t'.Everywhere P := by
  induction path generalizing t with
  | nil =>
    cases t <;> obtain rfl := Option.some.inj ht' <;> exact h
  | cons key path ih =>
    cases h with
    | object _ hmembers =>
      obtain ⟨t'', hlast, hpath⟩ := Option.bind_eq_some_iff.mp ht'
      exact ih (hmembers _ (mem_of_lastNamed_eq_some hlast)) hpath
    | _ => cases ht'

/-- A member that is read is not the null pointer. -/
theorem toValue_ne_nullPointer_of_memberAt (h : t.Readable) (ht' : t.memberAt (key :: path) = some t') :
    t'.toValue ≠ .nullPointer := by
  induction path generalizing t key with
  | nil =>
    cases h with
    | object hms _ =>
      obtain ⟨t'', hlast, hpath⟩ := Option.bind_eq_some_iff.mp ht'
      have hsame : t'' = t' := by cases t'' <;> exact Option.some.inj hpath
      rw [← hsame]
      exact (hms _ (mem_of_lastNamed_eq_some hlast)).2
    | _ => cases ht'
  | cons key' path ih =>
    cases h with
    | object hms hmembers =>
      obtain ⟨t'', hlast, hpath⟩ := Option.bind_eq_some_iff.mp ht'
      exact ih (hmembers _ (mem_of_lastNamed_eq_some hlast)) hpath
    | _ => cases ht'

end JsonTree

namespace JsonValue

/-- The member at a path of keys. -/
def memberAt : List (List UInt8) → JsonValue → Option JsonValue
  | [], value => some value
  | key :: path, value => (value.asObject.bind fun map => map.lookup key).bind (memberAt path)

/-- **The members of a value** are those of its tree. -/
theorem memberAt_toValue (t : JsonTree) (path : List (List UInt8)) :
    t.toValue.memberAt path = (t.memberAt path).map JsonTree.toValue := by
  induction path generalizing t with
  | nil => cases t <;> rfl
  | cons key path ih =>
    by_cases hobject : ∃ ms, t = .object ms
    · obtain ⟨ms, rfl⟩ := hobject
      rw [JsonTree.toValue, memberAt, asObject, Option.bind_some, lookup_memberValues, JsonTree.memberAt]
      cases JsonTree.lastNamed key ms with
      | none => rfl
      | some t => exact ih t
    · have hnone : t.toValue.asObject = none := by
        by_contra hne
        exact hobject (JsonResponseParser.isObject_of_asObject hne)
      rw [memberAt, hnone]
      cases t with
      | object ms => exact absurd ⟨ms, rfl⟩ hobject
      | _ => rfl

end JsonValue

namespace ResponseParser

/-- The factor between the unit of a response and that of the attribute. -/
def unitFactor : ResponseAttribute → ℤ
  | .maxBeaconSize => 1024
  | .maxSessionDuration => 60 * 1000
  | .sessionIdleTimeout => 1000
  | .sendInterval => 1000
  | _ => 1

theorem unitFactor_bounds (k : ResponseAttribute) : 1 ≤ unitFactor k ∧ unitFactor k ≤ 2 ^ 30 := by
  cases k <;> decide

/-! ## Responses as key-value pairs -/

section KeyValue

open KeyValueResponseParser

/-- The keys of numbers. -/
def numberKey : ResponseAttribute → Option (List UInt8)
  | .maxBeaconSize => some responseKeyMaxBeaconSizeInKb
  | .sendInterval => some responseKeySendIntervalInSec
  | .trafficControlPercentage => some responseKeyTrafficControlPercentage
  | .serverId => some responseKeyServerId
  | .multiplicity => some responseKeyMultiplicity
  | _ => none

/-- A text that is a decimal number: whitespace and a sign may stand in front of it, and it may have a
fraction. -/
def IsNumeral (text : List UInt8) (v : ℚ) : Prop :=
  digitsOf text ≠ [] ∧ (behindDigits text = [] ∨ IsFraction (behindDigits text)) ∧
    v = signOf text * decimalValue (digitsOf text ++ behindDigits text)

variable {text : List UInt8} {v : ℚ} {n : ℤ} {k : ResponseAttribute}

theorem isDigit_of_mem_digitsOf : ∀ c ∈ digitsOf text, JsonLexer.isDigit c = true := fun _ hc =>
  List.all_eq_true.mp List.all_takeWhile _ hc

theorem abs_signOf (text : List UInt8) : |(signOf text : ℚ)| = 1 := by
  unfold signOf
  split <;> norm_num

/-- **The number that is read** is less than one away from the one that is written. -/
theorem abs_sub_lt_of_isNumeral (h : IsNumeral text v)
    (hn : signOf text * digitsValue (digitsOf text) = n) : |v - n| < 1 := by
  obtain ⟨-, hfraction, rfl⟩ := h
  have hvalue : |decimalValue (digitsOf text ++ behindDigits text) - digitsValue (digitsOf text)| < 1 := by
    rcases hfraction with hnone | ⟨ds, ⟨-, hds⟩, hfraction⟩
    · rw [hnone, List.append_nil, decimalValue_digits isDigit_of_mem_digitsOf, sub_self, abs_zero]
      exact one_pos
    · rw [hfraction, decimalValue_fraction isDigit_of_mem_digitsOf hds, add_sub_cancel_left]
      have hlt : (digitsValue ds : ℚ) < 10 ^ ds.length := by exact_mod_cast digitsValue_lt hds
      have hpos : (0 : ℚ) < 10 ^ ds.length := by positivity
      rw [abs_of_nonneg (by positivity), div_lt_one hpos]
      exact hlt
  rw [← hn]
  push_cast
  rw [← mul_sub, abs_mul, abs_signOf, one_mul]
  exact hvalue

/-- The number of a text, times the factor. -/
theorem toInt32_eq_iff_of_isNumeral (h : IsNumeral text v)
    (hn : signOf text * digitsValue (digitsOf text) = n) (k : ResponseAttribute) :
    ((toInt32 (n * unitFactor k) : ℤ) : ℚ) = v * unitFactor k ↔
      ∃ m : ℤ, v = m ∧ InInt32Range (m * unitFactor k) := by
  have hdistance := abs_sub_lt_of_isNumeral h hn
  refine toInt32_mul_eq_iff (unitFactor_bounds k).1 (unitFactor_bounds k).2
    (fun _ => hdistance.trans one_lt_two) fun m hm _ => ?_
  rw [hm, ← Int.cast_sub, ← Int.cast_abs] at hdistance
  have hlt : |m - n| < 1 := by exact_mod_cast hdistance
  rw [abs_lt] at hlt
  omega

variable {keyValuePairs : List (List UInt8 × List UInt8)} {key : List UInt8} {a : ResponseAttributes}

theorem entryGiven_eq_some_iff {attr : ℤ → AttributeValue} {entry : Option (List UInt8)}
    {value : AttributeValue} :
    entryGiven attr entry = some value ↔ ∃ text i, entry = some text ∧ stoi text = .ok i ∧ attr i = value := by
  rw [entryGiven, Option.map_eq_some_iff]
  constructor
  · rintro ⟨i, hi, hvalue⟩
    obtain ⟨text, hentry, htext⟩ := Option.bind_eq_some_iff.mp hi
    refine ⟨text, i, hentry, ?_, hvalue⟩
    cases hnumber : stoi text with
    | error fault =>
      rw [hnumber] at htext
      cases htext
    | ok i' =>
      rw [hnumber] at htext
      exact congrArg Except.ok (Option.some.inj htext)
  · rintro ⟨text, i, rfl, hnumber, hvalue⟩
    refine ⟨i, ?_, hvalue⟩
    rw [Option.bind_some, hnumber]
    rfl

/-- **What the pairs give** for a number is the number under its key, times the factor, in 32 bits. -/
theorem given_eq_some_number_iff :
    given keyValuePairs k = some (.number n) ↔ ∃ key text i, numberKey k = some key ∧
      keyValuePairs.lookup key = some text ∧ stoi text = .ok i ∧ toInt32 (i * unitFactor k) = n := by
  -- A factor of one changes nothing, as what is read fits into 32 bits.
  have hone {key : List UInt8} :
      entryGiven .number (keyValuePairs.lookup key) = some (.number n) ↔
        ∃ text i, keyValuePairs.lookup key = some text ∧ stoi text = .ok i ∧ toInt32 (i * 1) = n := by
    rw [entryGiven_eq_some_iff]
    refine exists_congr fun text => exists_congr fun i => and_congr_right fun _ => and_congr_right fun hi => ?_
    rw [mul_one, toInt32_of_inInt32Range (stoi_eq_ok_iff.mp hi).2.2, AttributeValue.number.injEq]
  cases k <;> simp only [given, numberKey, unitFactor, hone, entryGiven_eq_some_iff, mulInt32,
    AttributeValue.number.injEq, Option.some.injEq, exists_eq_left', reduceCtorEq, false_and, and_false,
    exists_const, exists_and_left]

/-- All numbers of a response that is accepted can be read. -/
theorem exists_stoi_of_accepted {b : ResponseAttributes}
    (h : applySteps.foldlM (fun builder step => step builder keyValuePairs) b = .ok a)
    (hk : numberKey k = some key) (htext : keyValuePairs.lookup key = some text) :
    ∃ i, stoi text = .ok i := by
  have hstep : ∃ apply, applyEntry key apply ∈ applySteps := by
    cases k <;> cases hk
    · exact ⟨_, List.mem_of_getElem? (i := 0) rfl⟩
    · exact ⟨_, List.mem_of_getElem? (i := 1) rfl⟩
    · exact ⟨_, List.mem_of_getElem? (i := 5) rfl⟩
    · exact ⟨_, List.mem_of_getElem? (i := 7) rfl⟩
    · exact ⟨_, List.mem_of_getElem? (i := 6) rfl⟩
  obtain ⟨apply, hmem⟩ := hstep
  obtain ⟨b', c', hrun⟩ := exists_ok_of_foldlM h _ hmem
  rw [applyEntry, htext] at hrun
  cases hnumber : stoi text with
  | ok i => exact ⟨i, rfl⟩
  | error fault =>
    simp only [bind, Except.bind, hnumber] at hrun
    cases hrun

theorem isKey_of_numberKey (hk : numberKey k = some key) : IsKey key := by
  have hall {key : List UInt8} (hne : key ≠ [])
      (hbytes : (key.all fun b => decide (b ≠ 0x3D ∧ getByteWidthOfCharacter b = 1)) = true) :
      IsKey key := ⟨hne, fun b hb => of_decide_eq_true (List.all_eq_true.mp hbytes b hb)⟩
  cases k <;> cases hk <;> exact hall (by decide) (by decide)

/-- The number that a list of pairs gives for an attribute. -/
def PairsGive (response : UTF8String) (k : ResponseAttribute) (v : ℚ) : Prop :=
  ∃ key text, numberKey k = some key ∧ firstText key (response.split 0x26) = some text ∧ IsNumeral text v

/-- All numbers in a list of pairs are integers, and the products fit. -/
def PairsFit (response : UTF8String) : Prop :=
  ∀ k key text, numberKey k = some key → firstText key (response.split 0x26) = some text →
    ∃ m : ℤ, IsNumeral text m ∧ InInt32Range (m * unitFactor k)

/-- **A list of pairs** that is accepted is converted exactly if its numbers are integers and fit. -/
theorem pairs_exact_iff {body : List UInt8}
    (h : KeyValueResponseParser.parse (validateString body) = .ok a) :
    (∀ k, a.isAttributeSet k = true → ∀ n, a.value k = .number n →
      ∃ v, PairsGive (validateString body) k v ∧ (n : ℚ) = v * unitFactor k) ↔
        PairsFit (validateString body) := by
  rw [KeyValueResponseParser.parse] at h
  cases hpairs : insertPairs ((validateString body).split 0x26) [] with
  | error fault =>
    rw [hpairs] at h
    cases h
  | ok keyValuePairs =>
    rw [hpairs] at h
    have hlookup {key : List UInt8} (hkey : IsKey key) :
        keyValuePairs.lookup key = firstText key ((validateString body).split 0x26) :=
      lookup_insertPairs hkey (fun _ => exists_of_mem_split body) hpairs
    have htakes := ends_apply keyValuePairs .keyValueResponse
    have hrun : applySteps.foldlM (fun builder step => step builder keyValuePairs)
      ResponseAttributes.keyValueResponse = .ok a := h
    rw [hrun] at htakes
    constructor
    · intro hexact k key text hk htext
      rw [← hlookup (isKey_of_numberKey hk)] at htext
      obtain ⟨i, hi⟩ := exists_stoi_of_accepted hrun hk htext
      have hgiven := given_eq_some_number_iff.mpr ⟨key, text, i, hk, htext, hi, rfl⟩
      obtain ⟨hvalue, hset⟩ := htakes.of_given hgiven
      obtain ⟨v, ⟨key', text', hk', htext', hnumeral⟩, hv⟩ := hexact k hset _ hvalue
      obtain rfl := Option.some.inj (hk.symm.trans hk')
      rw [← hlookup (isKey_of_numberKey hk), htext] at htext'
      obtain rfl := Option.some.inj htext'
      obtain ⟨m, rfl, hrange⟩ :=
        (toInt32_eq_iff_of_isNumeral hnumeral (stoi_eq_ok_iff.mp hi).2.1 k).mp hv
      exact ⟨m, hnumeral, hrange⟩
    · intro hfit k hset n hvalue
      have hgiven := htakes.given_of_set rfl hset
      rw [hvalue] at hgiven
      obtain ⟨key, text, i, hk, htext, hi, rfl⟩ := given_eq_some_number_iff.mp hgiven
      rw [hlookup (isKey_of_numberKey hk)] at htext
      obtain ⟨m, hnumeral, hrange⟩ := hfit k key text hk htext
      refine ⟨m, ⟨key, text, hk, htext, hnumeral⟩, ?_⟩
      exact (toInt32_eq_iff_of_isNumeral hnumeral (stoi_eq_ok_iff.mp hi).2.1 k).mpr ⟨m, rfl, hrange⟩

end KeyValue

/-! ## Responses in JSON -/

section Json

open JsonResponseParser

variable {literal : List UInt8} {k : ResponseAttribute} {n : ℤ} {path : List (List UInt8)}
  {a : ResponseAttributes} {root : JsonValue.ObjectMap}

/-- The paths of numbers. -/
def numberPath : ResponseAttribute → Option (List (List UInt8))
  | .maxBeaconSize => some [responseKeyAgentConfig, responseKeyMaxBeaconSizeInKb]
  | .maxSessionDuration => some [responseKeyAgentConfig, responseKeyMaxSessionDurationInMin]
  | .maxEventsPerSession => some [responseKeyAgentConfig, responseKeyMaxEventsPerSession]
  | .sessionIdleTimeout => some [responseKeyAgentConfig, responseKeySessionTimeoutInSec]
  | .sendInterval => some [responseKeyAgentConfig, responseKeySendIntervalInSec]
  | .visitStoreVersion => some [responseKeyAgentConfig, responseKeyVisitStoreVersion]
  | .trafficControlPercentage => some [responseKeyAppConfig, responseKeyTrafficControlPercentage]
  | .multiplicity => some [responseKeyDynamicConfig, responseKeyMultiplicity]
  | .serverId => some [responseKeyDynamicConfig, responseKeyServerId]
  | .timestamp => some [responseKeyTimestampInMillis]
  | _ => none

/-- What becomes of a number: the timestamp has 64 bits, and all others are multiplied in 32 bits. -/
def converted (k : ResponseAttribute) (num : JsonNumberValue) : ℤ :=
  if k = .timestamp then num.longValue else toInt32 (num.longValue * unitFactor k)

theorem mulInt32_toInt32 (a b : ℤ) : mulInt32 (toInt32 a) b = toInt32 (a * b) := toInt32_toInt32_mul a b

theorem memberAt_pair (sectionKey key : List UInt8) :
    (JsonValue.object root).memberAt [sectionKey, key] = member root sectionKey key := by
  rw [JsonValue.memberAt, JsonValue.asObject, Option.bind_some, member, Option.bind_assoc]
  congr 1
  funext value
  rw [JsonValue.memberAt]
  cases value.asObject with
  | none => rfl
  | some map => exact Option.bind_fun_some _

theorem memberAt_single (key : List UInt8) :
    (JsonValue.object root).memberAt [key] = root.lookup key := by
  exact Option.bind_fun_some _

/-- **What the root gives** for a number is the number at its path, converted. -/
theorem given_eq_some_number_iff' :
    JsonResponseParser.given root k = some (.number n) ↔ ∃ path, numberPath k = some path ∧
      ∃ value num, (JsonValue.object root).memberAt path = some value ∧ value.asNumber = some num ∧
        converted k num = n := by
  have hnumber (attr : JsonNumberValue → ℤ) (entry : Option JsonValue) :
      numberGiven (fun num => .number (attr num)) entry = some (.number n) ↔
        ∃ value num, entry = some value ∧ value.asNumber = some num ∧ attr num = n := by
    rw [numberGiven, Option.map_eq_some_iff]
    simp only [Option.bind_eq_some_iff, AttributeValue.number.injEq]
    constructor
    · rintro ⟨num, ⟨value, hentry, hnum⟩, hn⟩
      exact ⟨value, num, hentry, hnum, hn⟩
    · rintro ⟨value, num, hentry, hnum, hn⟩
      exact ⟨num, ⟨value, hentry, hnum⟩, hn⟩
  have hflag (attr : JsonNumberValue → Bool) (entry : Option JsonValue) :
      numberGiven (fun num => .flag (attr num)) entry ≠ some (.number n) := by
    intro h
    obtain ⟨num, -, hnum⟩ := Option.map_eq_some_iff.mp h
    cases hnum
  have htext (entry : Option JsonValue) : textGiven entry ≠ some (.number n) := by
    intro h
    obtain ⟨text, -, htext⟩ := Option.map_eq_some_iff.mp h
    cases htext
  cases k <;> simp only [JsonResponseParser.given, hnumber, hflag, htext, numberPath, Option.some.injEq,
    exists_eq_left', memberAt_pair, memberAt_single, converted, unitFactor, JsonNumberValue.getInt32Value,
    JsonNumberValue.getLongValue, mulInt32_toInt32, mul_assoc, mul_one, reduceCtorEq, if_false, if_true,
    false_and, exists_const]

/-! ### A literal -/

/-- A number that could be converted. -/
theorem exists_asNumber (h : IsNumber literal) (hne : fromNumberLiteral literal ≠ .nullPointer) :
    ∃ num, (fromNumberLiteral literal).asNumber = some num := by
  by_cases hinteger : IsIntegerLiteral literal
  · rw [JsonTree.fromNumberLiteral_of_isIntegerLiteral hinteger] at hne ⊢
    rw [parseLongValue, if_pos (JsonTree.parseLongValue_ne_nullPointer_iff.mp hne)]
    exact ⟨_, rfl⟩
  · rw [JsonTree.fromNumberLiteral_of_not_isIntegerLiteral h hinteger] at hne ⊢
    rw [parseDoubleValue, if_pos (JsonTree.parseDoubleValue_ne_nullPointer_iff.mp hne)]
    exact ⟨_, rfl⟩

theorem isNumber_of_asNumber {t : JsonTree} {num : JsonNumberValue}
    (h : t.toValue.asNumber = some num) : ∃ literal, t = .number literal := by
  cases t with
  | number literal => exact ⟨literal, rfl⟩
  | _ => cases h

/-- A number that is converted exactly: an integer, such that the product fits into 32 bits. The timestamp
is an integer of 64 bits, which double precision must represent if it is written with a fraction or an
exponent. -/
def LiteralFits (k : ResponseAttribute) (literal : List UInt8) : Prop :=
  if k = .timestamp then
    IsIntegerLiteral literal ∨
      ∃ m : ℤ, decimalValue literal = m ∧ InLongRange m ∧ FloatFormat.binary64.Represents (m : ℚ)
  else ∃ m : ℤ, decimalValue literal = m ∧ InInt32Range (m * unitFactor k)

/-- The 64 bits of a number. -/
theorem longValue_cases {num : JsonNumberValue} (h : IsNumber literal)
    (hnum : (fromNumberLiteral literal).asNumber = some num) :
    (IsIntegerLiteral literal ∧ num.longValue = integerValue literal) ∨
      (¬ IsIntegerLiteral literal ∧
        num.longValue = doubleToLong (FloatFormat.binary64.round (decimalValue literal))) := by
  by_cases hinteger : IsIntegerLiteral literal
  · rw [JsonTree.fromNumberLiteral_of_isIntegerLiteral hinteger, parseLongValue] at hnum
    split at hnum
    next =>
      obtain rfl := Option.some.inj hnum
      exact .inl ⟨hinteger, rfl⟩
    next => cases hnum
  · rw [JsonTree.fromNumberLiteral_of_not_isIntegerLiteral h hinteger, parseDoubleValue] at hnum
    split at hnum
    next =>
      obtain rfl := Option.some.inj hnum
      exact .inr ⟨hinteger, rfl⟩
    next => cases hnum

/-- **A literal is converted exactly** if it fits. -/
theorem converted_eq_iff {num : JsonNumberValue} (h : IsNumber literal)
    (hnum : (fromNumberLiteral literal).asNumber = some num) :
    (converted k num : ℚ) = decimalValue literal * unitFactor k ↔ LiteralFits k literal := by
  obtain ⟨hf, hf'⟩ := unitFactor_bounds k
  rw [converted, LiteralFits]
  rcases longValue_cases h hnum with ⟨hinteger, hlong⟩ | ⟨hinteger, hlong⟩
  · rw [hlong, decimalValue_of_isIntegerLiteral hinteger]
    split
    next hk =>
      subst hk
      exact iff_of_true (by simp [unitFactor]) (.inl hinteger)
    next =>
      refine toInt32_mul_eq_iff hf hf' (fun _ => ?_) fun m hm _ => by exact_mod_cast hm
      rw [sub_self, abs_zero]
      exact two_pos
  · rw [hlong]
    split
    next hk =>
      subst hk
      rw [show unitFactor .timestamp = 1 from rfl, Int.cast_one, mul_one, doubleToLong_round_eq_iff]
      exact ⟨.inr, fun h => h.resolve_left hinteger⟩
    next =>
      refine toInt32_mul_eq_iff hf hf' (fun hv => abs_doubleToLong_round_sub_lt hv) fun m hm hle => ?_
      have hrange : InLongRange m := by
        rw [abs_le] at hle
        exact ⟨by omega, by omega⟩
      rw [hm, doubleToLong_round_of_represents hrange (represents_of_abs_lt (hle.trans_lt (by norm_num)))]

/-! ### A response -/

/-- The number that a text in JSON gives for an attribute. -/
def TextGives (response : UTF8String) (k : ResponseAttribute) (v : ℚ) : Prop :=
  ∃ (t : JsonTree) (path : List (List UInt8)) (literal : List UInt8),
    SpelledAs t.tokens response.getStringData ∧ numberPath k = some path ∧
      t.memberAt path = some (.number literal) ∧ v = decimalValue literal

/-- All numbers at the paths of a text in JSON fit. -/
def TextFits (response : UTF8String) : Prop :=
  ∀ t : JsonTree, SpelledAs t.tokens response.getStringData → ∀ k path literal, numberPath k = some path →
    t.memberAt path = some (.number literal) → LiteralFits k literal

theorem numberPath_ne_nil (hk : numberPath k = some path) : path ≠ [] := by
  rintro rfl
  cases k <;> cases hk

/-- **A text in JSON** that is accepted is converted exactly if its numbers fit. -/
theorem text_exact_iff {response : UTF8String} (h : JsonResponseParser.parse response = .ok a) :
    (∀ k, a.isAttributeSet k = true → ∀ n, a.value k = .number n →
      ∃ v, TextGives response k v ∧ (n : ℚ) = v * unitFactor k) ↔ TextFits response := by
  have hends := JsonParser.ends_parse_new response.getStringData
  rcases hparse : (JsonParser.parse (.new response.getStringData)).1 with fault | value
  · rw [parse_of_error hparse] at h
    cases h
  rw [hparse] at hends
  obtain ⟨t, hspelled, hreadable, rfl⟩ := hends
  have hnumeric := t.everywhere_isNumeric fun literal => hspelled.isNumber
  by_cases hobject : t.toValue.asObject = none
  · rw [parse_of_not_object hparse hobject] at h
    cases h
  obtain ⟨ms, rfl⟩ := isObject_of_asObject hobject
  rw [parse_of_object hparse] at h
  have htakes := JsonResponseParser.ends_apply (memberValues [] ms) .jsonResponse
  rw [h] at htakes
  have hmember (path : List (List UInt8)) :
      (JsonValue.object (memberValues [] ms)).memberAt path =
        ((JsonTree.object ms).memberAt path).map JsonTree.toValue :=
    JsonValue.memberAt_toValue (.object ms) path
  constructor
  · intro hexact t ht k path literal hk hliteral
    obtain rfl := JsonTree.eq_of_spelledAs hspelled ht
    obtain ⟨key, rest, rfl⟩ := List.exists_cons_of_ne_nil (numberPath_ne_nil hk)
    have hisNumber : IsNumber literal := (hnumeric.memberAt hliteral).self
    have hne := JsonTree.toValue_ne_nullPointer_of_memberAt hreadable hliteral
    obtain ⟨num, hnum⟩ := exists_asNumber hisNumber hne
    have hgiven : JsonResponseParser.given (memberValues [] ms) k = some (.number (converted k num)) := by
      refine given_eq_some_number_iff'.mpr ⟨_, hk, _, num, ?_, hnum, rfl⟩
      rw [hmember, hliteral]
      rfl
    obtain ⟨hvalue, hset⟩ := htakes.of_given hgiven
    obtain ⟨v, ⟨t', path', literal', ht', hk', hliteral', rfl⟩, hv⟩ := hexact k hset _ hvalue
    obtain rfl := JsonTree.eq_of_spelledAs hspelled ht'
    obtain rfl := Option.some.inj (hk.symm.trans hk')
    obtain rfl : literal = literal' := by
      rw [hliteral] at hliteral'
      exact JsonTree.number.inj (Option.some.inj hliteral')
    exact (converted_eq_iff hisNumber hnum).mp hv
  · intro hfit k hset n hvalue
    have hgiven := htakes.given_of_set rfl hset
    rw [hvalue] at hgiven
    obtain ⟨path, hk, value, num, hmem, hnum, rfl⟩ := given_eq_some_number_iff'.mp hgiven
    rw [hmember] at hmem
    obtain ⟨t', ht', rfl⟩ := Option.map_eq_some_iff.mp hmem
    obtain ⟨literal, rfl⟩ := isNumber_of_asNumber hnum
    have hisNumber : IsNumber literal := (hnumeric.memberAt ht').self
    refine ⟨decimalValue literal, ⟨_, path, literal, hspelled, hk, ht', rfl⟩, ?_⟩
    exact (converted_eq_iff hisNumber hnum).mpr (hfit _ hspelled k path literal hk ht')

end Json

/-! ## Both -/

/-- The number that a response gives for an attribute. -/
def GivesNumber (response : UTF8String) (k : ResponseAttribute) (v : ℚ) : Prop :=
  if isKeyValuePairResponse response then PairsGive response k v else TextGives response k v

/-- Every number that is set is the given one, times the factor of its unit. -/
def ConvertsExactly (body : List UInt8) : Prop :=
  ∀ a, parseResponse (validateString body) = .ok a → ∀ k, a.isAttributeSet k = true →
    ∀ n, a.value k = .number n →
      ∃ v, GivesNumber (validateString body) k v ∧ (n : ℚ) = v * unitFactor k

/-- All numbers of a response are integers that fit. -/
def NumbersFit (response : UTF8String) : Prop :=
  if isKeyValuePairResponse response then PairsFit response else TextFits response

/-- **Which responses are converted exactly**: those that are not accepted, and those whose numbers are
integers that fit. -/
theorem convertsExactly_iff (body : List UInt8) :
    ConvertsExactly body ↔
      ((∃ a, parseResponse (validateString body) = .ok a) → NumbersFit (validateString body)) := by
  have hsame {a : ResponseAttributes} (h : parseResponse (validateString body) = .ok a) :
      (∀ k, a.isAttributeSet k = true → ∀ n, a.value k = .number n →
        ∃ v, GivesNumber (validateString body) k v ∧ (n : ℚ) = v * unitFactor k) ↔
      NumbersFit (validateString body) := by
    rw [parseResponse] at h
    rw [NumbersFit]
    unfold GivesNumber
    split at h
    next hkind =>
      simp only [hkind, if_true]
      exact pairs_exact_iff h
    next hkind =>
      simp only [hkind]
      exact text_exact_iff h
  constructor
  · rintro hexact ⟨a, ha⟩
    exact (hsame ha).mp (hexact a ha)
  · intro hfit a ha
    exact (hsame ha).mpr (hfit ⟨a, ha⟩)

/-- The response `type=m&bl=2097152`, a beacon size of 2 gigabytes. -/
def largeBeaconSize : List UInt8 := (UTF8String.ofAscii "type=m&bl=2097152".toList).data

/-- **A product that does not fit** wraps around. -/
theorem not_convertsExactly_largeBeaconSize : ¬ ConvertsExactly largeBeaconSize := by
  intro hexact
  have hkind : isKeyValuePairResponse (validateString largeBeaconSize) = true := by
    decide
  have hresult : ((parseResponse (validateString largeBeaconSize)).toOption.map fun a =>
      (a.isAttributeSet .maxBeaconSize, a.maxBeaconSizeInBytes)) = some (true, -2147483648) := by
    decide
  obtain ⟨a, haccepted, ha⟩ := Option.map_eq_some_iff.mp hresult
  obtain ⟨hset, hsize⟩ := Prod.mk.inj ha
  have hparse : parseResponse (validateString largeBeaconSize) = .ok a := by
    cases h : parseResponse (validateString largeBeaconSize) with
    | error fault =>
      rw [h] at haccepted
      cases haccepted
    | ok a' =>
      rw [h] at haccepted
      exact congrArg Except.ok (Option.some.inj haccepted)
  obtain ⟨v, hgives, hv⟩ := hexact a hparse .maxBeaconSize hset _ (congrArg AttributeValue.number hsize)
  rw [GivesNumber, if_pos hkind] at hgives
  obtain ⟨key, text, hk, htext, hnumeral⟩ := hgives
  have hfirst : KeyValueResponseParser.firstText KeyValueResponseParser.responseKeyMaxBeaconSizeInKb
      ((validateString largeBeaconSize).split 0x26) =
      some (UTF8String.ofAscii "2097152".toList).data := by decide
  obtain rfl := Option.some.inj hk
  obtain rfl := Option.some.inj (hfirst.symm.trans htext)
  have hdistance := abs_sub_lt_of_isNumeral hnumeral (n := 2097152) rfl
  have hfactor : unitFactor .maxBeaconSize = 1024 := rfl
  rw [hfactor] at hv
  rw [abs_lt] at hdistance
  norm_num at hv hdistance
  linarith [hdistance.1, hdistance.2]

end ResponseParser

end OpenKit
