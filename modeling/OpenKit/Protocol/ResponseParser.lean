import OpenKit.Json.JsonTexts
import OpenKit.Protocol.GivenByResponses

/-!
# The parser of responses

A response is a list of key-value pairs if it says so at its beginning, and a text in JSON otherwise. What
the server sends may be anything, so every response should give attributes or an exception. A text in JSON
whose root is no object does not: the null pointer is dereferenced. Nor does a part of a list of pairs in
which the search for the equals sign gets lost. The cut behind it does not, since the parts of a string
consist of characters.

## Main definitions

* `ResponseParser.parseResponse`: the parser
* `ResponseFault.IsStdException`: the exceptions that the HTTP client catches
* `KeyValueResponseParser.WalksThrough`: a part in which nothing gets lost

## Main results

* `ResponseParser.survives_iff`: which responses give attributes or an exception
-/

namespace OpenKit

open Thread Fallible

/-- The exceptions that the HTTP client catches. A loop without an end is none, and neither are the null
pointer and a string in which a walk gets lost. -/
def ResponseFault.IsStdException : ResponseFault → Prop
  | parsingFault .outOfRounds => False
  | parsingFault (.readingFault .outOfRounds) => False
  | parsingFault _ => True
  | invalidArgument => True
  | outOfRange => True
  | nullPointerDereferenced => False
  | walkFault _ => False

namespace JsonParser

/-- **The parser of JSON** returns a value that can be read from the text, or raises an exception. -/
theorem ends_parse_new (input : List UInt8) :
    Ends (fun value => ∃ t : JsonTree, SpelledAs t.tokens input ∧ t.Readable ∧ value = t.toValue)
      (fun fault => (ResponseFault.parsingFault fault).IsStdException) (parse (.new input)).1 := by
  have hends := ends_doParse input
  rw [parse_new]
  rcases hrun : doParse.run (.new input) with ⟨fault | value, p'⟩
  · obtain ⟨_, _, hfault⟩ := hends.run_error hrun
    rcases hfault with ⟨-, ⟨e, rfl⟩ | ⟨⟨e, rfl⟩, -⟩⟩ | ⟨-, ⟨message, rfl⟩ | ⟨⟨e, rfl⟩, -⟩⟩
    all_goals exact trivial
  · exact (hends.run_ok hrun).2.1

end JsonParser

/-! ## Responses in JSON -/

namespace JsonResponseParser

/-- A text that is read, but whose root is no object, is not survived. -/
theorem parse_of_not_object {jsonResponse : UTF8String} {value : JsonValue}
    (hparse : (JsonParser.parse (.new jsonResponse.getStringData)).1 = .ok value)
    (hvalue : value.asObject = none) : parse jsonResponse = .error .nullPointerDereferenced := by
  rw [parse, hparse]
  simp only [bind, Except.bind, Except.mapError, hvalue]
  rfl

theorem parse_of_object {jsonResponse : UTF8String} {root : JsonValue.ObjectMap}
    (hparse : (JsonParser.parse (.new jsonResponse.getStringData)).1 = .ok (.object root)) :
    parse jsonResponse = applyAll
      [applyAgentConfiguration, applyApplicationConfiguration, applyDynamicConfiguration,
        applyRootAttributes] .jsonResponse (some root) := by
  rw [parse, hparse]
  rfl

theorem parse_of_error {jsonResponse : UTF8String} {fault : ParsingFault}
    (hparse : (JsonParser.parse (.new jsonResponse.getStringData)).1 = .error fault) :
    parse jsonResponse = .error (.parsingFault fault) := by
  rw [parse, hparse]
  rfl

/-- A tree whose value is an object is one. -/
theorem isObject_of_asObject {t : JsonTree} (h : t.toValue.asObject ≠ none) : ∃ ms, t = .object ms := by
  cases t with
  | object ms => exact ⟨ms, rfl⟩
  | number literal =>
    refine absurd ?_ h
    rw [JsonTree.toValue, JsonNumberValue.fromNumberLiteral]
    split
    · rfl
    · rw [JsonNumberValue.parseLongValue]
      split <;> rfl
    · rw [JsonNumberValue.parseDoubleValue]
      split <;> rfl
  | _ => exact absurd rfl h

/-- **A response in JSON** gives attributes or an exception if its root is an object, provided that the text
is read. -/
theorem survives_parse_iff (jsonResponse : UTF8String) :
    Ends (fun _ => True) ResponseFault.IsStdException (parse jsonResponse) ↔
      ∀ t : JsonTree, SpelledAs t.tokens jsonResponse.getStringData → t.Readable →
        ∃ ms, t = .object ms := by
  have hends := JsonParser.ends_parse_new jsonResponse.getStringData
  constructor
  · intro h t hspelled hreadable
    have hparse := JsonParser.parse_new_of_readable hspelled hreadable
    refine isObject_of_asObject fun hnone => ?_
    rw [parse_of_not_object hparse hnone] at h
    exact h
  · intro h
    rcases hparse : (JsonParser.parse (.new jsonResponse.getStringData)).1 with fault | value
    · rw [hparse] at hends
      rw [parse_of_error hparse]
      exact hends
    · rw [hparse] at hends
      obtain ⟨t, hspelled, hreadable, rfl⟩ := hends
      obtain ⟨ms, rfl⟩ := h t hspelled hreadable
      rw [parse_of_object hparse]
      exact (ends_apply _ _).mono (fun _ _ => trivial) fun _ he => he.elim

end JsonResponseParser

/-! ## Responses as key-value pairs -/

namespace KeyValueResponseParser

open UTF8String

/-- The equals sign. -/
def equalsSign : Utf8Character := .ofAscii 0x3D (by decide) (by decide)

/-- Nothing gets lost in a part of characters: one of them is an equals sign, or at most one byte more than
characters is there. -/
def WalksThrough (part : UTF8String) : Prop :=
  ∃ cs, part = ofCharacters cs ∧ (equalsSign ∈ cs ∨ (bytesOf cs).length ≤ cs.length + 1)

variable {cs before after : List Utf8Character}

/-- Behind the equals sign the part is cut. -/
theorem keyValuePair_of_found {part : UTF8String} {found : ℕ}
    (hfound : part.getIndexOf equalsSign.bytes 0 = .ok (some found)) :
    keyValuePair part = (do
      let value ← (substringFrom part (found + 1)).mapError .walkFault
      return if (part.substring 0 found).isEmpty || value.isEmpty then none
        else some ((part.substring 0 found).getStringData, value.getStringData)) := by
  have hsearch : part.getIndexOf [0x3D] 0 = .ok (some found) := hfound
  rw [keyValuePair, hsearch]
  rfl

theorem keyValuePair_of_notFound {part : UTF8String}
    (hsearch : part.getIndexOf equalsSign.bytes 0 = .ok none) : keyValuePair part = .ok none := by
  have hsearch' : part.getIndexOf [0x3D] 0 = .ok none := hsearch
  rw [keyValuePair, hsearch']
  rfl

/-- The first equals sign is found. -/
theorem getIndexOf_of_mem (hbefore : equalsSign ∉ before) :
    (ofCharacters (before ++ equalsSign :: after)).getIndexOf equalsSign.bytes 0 =
      .ok (some before.length) := by
  have hfirst : (⟨bytesOf (before ++ equalsSign :: after) ++ [],
      (before ++ equalsSign :: after).length⟩ : UTF8String).getIndexOf equalsSign.bytes 0 =
        .ok (some before.length) := getIndexOf_first hbefore
  rwa [List.append_nil] at hfirst

theorem getElem?_ne_of_notMem {c : Utf8Character} (h : c ∉ cs) (j : ℕ) (_ : 0 ≤ j) : cs[j]? ≠ some c :=
  fun hj => h (List.mem_of_getElem? hj)

/-- A part with an equals sign is read, if it consists of characters. -/
theorem exists_keyValuePair_of_mem (hmem : equalsSign ∈ cs) :
    ∃ pair, keyValuePair (ofCharacters cs) = .ok pair := by
  obtain ⟨before, after, rfl, hbefore⟩ := List.eq_append_cons_of_mem hmem
  have hwalk : standsStill (ofCharacters (before ++ equalsSign :: after)).data.length
      (ofCharacters (before ++ equalsSign :: after)).data = false := standsStill_bytesOf _ _
  rw [keyValuePair_of_found (getIndexOf_of_mem hbefore), substringFrom, hwalk, if_neg Bool.false_ne_true]
  exact ⟨_, rfl⟩

/-- In other characters, the search may read from behind the terminator. -/
theorem keyValuePair_of_notMem (hmem : equalsSign ∉ cs) :
    keyValuePair (ofCharacters cs) =
      if (bytesOf cs).length ≤ cs.length + 1 then .ok none else .error (.walkFault .readPastEnd) := by
  have hsearch := @getIndexOf_complete _ _ 0 (by decide) (getElem?_ne_of_notMem hmem)
  split at hsearch
  next hlength => rw [keyValuePair_of_notFound hsearch, if_pos hlength]
  next hlength =>
    have hsearch' : (ofCharacters cs).getIndexOf [0x3D] 0 = .error .pastEnd := hsearch
    rw [keyValuePair, hsearch', if_neg hlength]
    rfl

/-- A part in which nothing gets lost is read. -/
theorem exists_keyValuePair_of_walksThrough {part : UTF8String} (h : WalksThrough part) :
    ∃ pair, keyValuePair part = .ok pair := by
  obtain ⟨cs, rfl, hcs⟩ := h
  by_cases hmem : equalsSign ∈ cs
  · exact exists_keyValuePair_of_mem hmem
  · rw [keyValuePair_of_notMem hmem, if_pos (hcs.resolve_left hmem)]
    exact ⟨_, rfl⟩

/-- **A part** of characters is read if nothing gets lost in it. -/
theorem ends_keyValuePair {part : UTF8String} (h : ∃ cs, part = ofCharacters cs) :
    Ends (fun _ => WalksThrough part) (fun fault => ¬ fault.IsStdException ∧ ¬ WalksThrough part)
      (keyValuePair part) := by
  obtain ⟨cs, rfl⟩ := h
  have hends : Ends (fun _ => WalksThrough (ofCharacters cs)) (fun fault => ¬ fault.IsStdException)
      (keyValuePair (ofCharacters cs)) := by
    by_cases hmem : equalsSign ∈ cs
    · obtain ⟨pair, hpair⟩ := exists_keyValuePair_of_mem hmem
      rw [hpair]
      exact ⟨cs, rfl, .inl hmem⟩
    · rw [keyValuePair_of_notMem hmem]
      split
      next hlength => exact ⟨cs, rfl, .inr hlength⟩
      next => exact id
  cases hpair : keyValuePair (ofCharacters cs) with
  | ok pair =>
    rw [hpair] at hends
    exact hends
  | error fault =>
    rw [hpair] at hends
    refine ⟨hends, fun hwalks => ?_⟩
    obtain ⟨pair, hok⟩ := exists_keyValuePair_of_walksThrough hwalks
    rw [hpair] at hok
    cases hok

/-- The parts are read one after the other. -/
theorem ends_insertPairs {parts : List UTF8String} (h : ∀ part ∈ parts, ∃ cs, part = ofCharacters cs)
    (keyValuePairs : List (List UInt8 × List UInt8)) :
    Ends (fun _ => ∀ part ∈ parts, WalksThrough part)
      (fun fault => ¬ fault.IsStdException ∧ ¬ ∀ part ∈ parts, WalksThrough part)
      (insertPairs parts keyValuePairs) := by
  induction parts generalizing keyValuePairs with
  | nil => exact List.forall_mem_nil _
  | cons part parts ih =>
    obtain ⟨hpart, hparts⟩ := List.forall_mem_cons.mp h
    have hread := ends_keyValuePair hpart
    rw [insertPairs]
    cases hpair : keyValuePair part with
    | error fault =>
      rw [hpair] at hread
      exact ⟨hread.1, fun hall => hread.2 (hall _ List.mem_cons_self)⟩
    | ok pair =>
      rw [hpair] at hread
      have hiff : (∀ part' ∈ part :: parts, WalksThrough part') ↔
          ∀ part' ∈ parts, WalksThrough part' :=
        List.forall_mem_cons.trans (and_iff_right hread)
      rw [hiff]
      cases pair with
      | none => exact ih hparts _
      | some pair => exact ih hparts _

/-- What is between two delimiters stands in the bytes. -/
theorem isInfix_of_mem_getlines {delimiter : UInt8} {data item : List UInt8}
    (h : item ∈ getlines delimiter data) : item <:+: data := by
  have hparts : (∀ i ∈ getlines delimiter data, i <:+: data) ∧
      ∀ i, (getlines delimiter data).head? = some i → i <+: data := by
    clear h
    induction data with
    | nil => exact ⟨List.forall_mem_nil _, fun i hi => by cases hi⟩
    | cons b data ih =>
      obtain ⟨hall, hhead⟩ := ih
      rw [getlines]
      split
      · refine ⟨List.forall_mem_cons.mpr ⟨List.nil_infix, fun i hi => List.infix_cons (hall i hi)⟩,
          fun i hi => ?_⟩
        obtain rfl := Option.some.inj hi
        exact List.nil_prefix
      · cases hlines : getlines delimiter data with
        | nil =>
          have hfirst : [b] <+: b :: data := List.cons_prefix_cons.mpr ⟨rfl, List.nil_prefix⟩
          refine ⟨List.forall_mem_singleton.mpr hfirst.isInfix, fun i hi => ?_⟩
          obtain rfl := Option.some.inj hi
          exact hfirst
        | cons first items =>
          rw [hlines] at hall hhead
          obtain ⟨-, hitems⟩ := List.forall_mem_cons.mp hall
          have hfirst : b :: first <+: b :: data := List.cons_prefix_cons.mpr ⟨rfl, hhead first rfl⟩
          refine ⟨List.forall_mem_cons.mpr ⟨hfirst.isInfix, fun i hi => List.infix_cons (hitems i hi)⟩,
            fun i hi => ?_⟩
          obtain rfl := Option.some.inj hi
          exact hfirst
  exact hparts.1 item h

/-- **The parts of a response** consist of characters, since they are made strings again. -/
theorem exists_of_mem_split (body : List UInt8) {part : UTF8String}
    (h : part ∈ (validateString body).split 0x26) : ∃ cs, part = ofCharacters cs := by
  obtain ⟨item, hitem, rfl⟩ := List.mem_map.mp h
  exact exists_validateString_of_isInfix (isInfix_of_mem_getlines hitem)

/-- **A list of pairs** gives attributes or an exception if nothing gets lost in its parts. -/
theorem survives_parse_iff (body : List UInt8) :
    Ends (fun _ => True) ResponseFault.IsStdException (parse (validateString body)) ↔
      ∀ part ∈ (validateString body).split 0x26, WalksThrough part := by
  have hinsert := ends_insertPairs (fun _ => exists_of_mem_split body) []
  rw [parse]
  cases hpairs : insertPairs ((validateString body).split 0x26) [] with
  | error fault =>
    rw [hpairs] at hinsert
    exact iff_of_false hinsert.1 hinsert.2
  | ok keyValuePairs =>
    rw [hpairs] at hinsert
    refine iff_of_true ((ends_apply keyValuePairs _).mono (fun _ _ => trivial) ?_) hinsert
    rintro fault (rfl | rfl) <;> exact trivial

end KeyValueResponseParser

/-! ## Both -/

namespace ResponseParser

def keyValueResponseTypeMobile : List UInt8 := (UTF8String.ofAscii ['t', 'y', 'p', 'e', '=', 'm']).data

def keyValueResponseTypeMobileWithSeparator : List UInt8 :=
  (UTF8String.ofAscii ['t', 'y', 'p', 'e', '=', 'm', '&']).data

def isKeyValuePairResponse (responseString : UTF8String) : Bool :=
  responseString.getStringData == keyValueResponseTypeMobile ||
    keyValueResponseTypeMobileWithSeparator.isPrefixOf responseString.getStringData

/-- The attributes of a response. -/
def parseResponse (responseString : UTF8String) : Responding ResponseAttributes :=
  if isKeyValuePairResponse responseString then KeyValueResponseParser.parse responseString
  else JsonResponseParser.parse responseString

/-- A response gives attributes, or an exception that is caught. -/
def Survives (body : List UInt8) : Prop :=
  Ends (fun _ => True) ResponseFault.IsStdException (parseResponse (UTF8String.validateString body))

/-- Nothing gets lost in the parts of a list of pairs, and the root of a text in JSON that is read is an
object. -/
def IsHarmless (response : UTF8String) : Prop :=
  if isKeyValuePairResponse response then
    ∀ part ∈ response.split 0x26, KeyValueResponseParser.WalksThrough part
  else
    ∀ t : JsonTree, SpelledAs t.tokens response.getStringData → t.NamesNonEmpty →
      t.Everywhere (JsonTree.OfMembers JsonTree.InRange) → ∃ ms, t = .object ms

/-- **Which responses are survived**: exactly the harmless ones. -/
theorem survives_iff (body : List UInt8) :
    Survives body ↔ IsHarmless (UTF8String.validateString body) := by
  rw [Survives, parseResponse, IsHarmless]
  split
  next => exact KeyValueResponseParser.survives_parse_iff _
  next =>
    rw [JsonResponseParser.survives_parse_iff]
    constructor
    · intro h t hspelled hnames hmembers
      have hnumeric := t.everywhere_isNumeric fun literal => hspelled.isNumber
      exact h t hspelled ((JsonTree.readable_iff hnumeric).mpr ⟨hnames, hmembers⟩)
    · intro h t hspelled hreadable
      have hnumeric := t.everywhere_isNumeric fun literal => hspelled.isNumber
      obtain ⟨hnames, hmembers⟩ := (JsonTree.readable_iff hnumeric).mp hreadable
      exact h t hspelled hnames hmembers

/-- **An array** is not survived. -/
theorem not_survives_array : ¬ Survives [0x5B, 0x5D] := by
  have hfault : parseResponse (UTF8String.validateString [0x5B, 0x5D]) =
      .error .nullPointerDereferenced := rfl
  rw [Survives, hfault]
  exact id

end ResponseParser

end OpenKit
