import OpenKit.Json.JsonTexts
import OpenKit.Json.JsonWriter
import OpenKit.Protocol.NumberTexts

/-!
# Writing and parsing

The text that is written for a value spells a tree of that value: every byte of a string is escaped as a
character that stands for it, and an integer is written with its digits. So the value is parsed again.

## Main definitions

* `JsonValue.Plain`: the values that are written and parsed

## Main results

* `exists_spellingOf_escapeString`: the text of a string spells its bytes
* `toInvariantString_spec`: the text of an integer is an integer literal of its value
* `exists_writtenAs`: what is written for a value is a tree that is read as it
* `JsonParser.parse_toString`: the text of a value is parsed as that value
-/

namespace OpenKit

open JsonLexer JsonNumberValue

/-! ## Strings -/

section Strings

/-- **A byte is escaped** as a character that stands for it. -/
theorem exists_stringCharacter (b : UInt8) :
    ∃ c : StringCharacter, c.spelling = JsonWriter.escapeCharacter b ∧ c.value = [b] := by
  rw [JsonWriter.escapeCharacter]
  cases hlookup : JsonWriter.escapedCharacters.lookup b with
  | some character =>
    have hall : ∀ p ∈ JsonWriter.escapedCharacters, (p.2, p.1) ∈ escapes :=
      List.all_iff_forall_prop.mp (by decide)
    obtain ⟨front, back, hescaped, -⟩ := List.lookup_eq_some_iff.mp hlookup
    have hmem : (character, b) ∈ escapes :=
      hall (b, character) (by rw [hescaped]; exact List.mem_append_right _ List.mem_cons_self)
    exact ⟨.escaped character b hmem, rfl, rfl⟩
  | none =>
    show ∃ c : StringCharacter, c.spelling = ite (b ≤ 0x1F) _ _ ∧ _
    split
    next hcontrol =>
      have hall : ∀ b : UInt8, b ≤ 0x1F →
          (∀ c ∈ [0x30, 0x30, JsonWriter.hexCharacter (b / 16), JsonWriter.hexCharacter (b % 16)],
            isHexCharacter c = true) ∧
          parseHex [0x30, 0x30, JsonWriter.hexCharacter (b / 16), JsonWriter.hexCharacter (b % 16)] =
            b.toNat ∧
          isHighSurrogateCharacter b.toNat = false ∧ isLowSurrogateCharacter b.toNat = false ∧
          bytesOfCharacter b.toNat = [b] := UTF8String.forall_byte (by decide +kernel)
      obtain ⟨hhex, hvalue, hhigh, hlow, hbytes⟩ := hall b hcontrol
      refine ⟨.unicode ⟨_, rfl, hhex⟩ ?_ ?_, rfl, ?_⟩
      · rw [HexSequence.toNat, hvalue]
        exact hhigh
      · rw [HexSequence.toNat, hvalue]
        exact hlow
      · show bytesOfCharacter (parseHex _) = _
        rw [hvalue, hbytes]
    next hcontrol =>
      have hall : ∀ b : UInt8, JsonWriter.escapedCharacters.lookup b = none → ¬ b ≤ 0x1F →
          0x20 ≤ b ∧ b ≠ 0x22 ∧ b ≠ 0x5C := UTF8String.forall_byte (by decide +kernel)
      obtain ⟨hlow, hquote, hsolidus⟩ := hall b hlookup hcontrol
      exact ⟨.unescaped b hlow hquote hsolidus, rfl, rfl⟩

/-- **The text of a string** spells its bytes. -/
theorem exists_spellingOf_escapeString (value : List UInt8) :
    ∃ cs, spellingOf cs = JsonWriter.escapeString value ∧ valueOf cs = value := by
  induction value with
  | nil => exact ⟨[], rfl, rfl⟩
  | cons b bs ih =>
    obtain ⟨c, hspelling, hvalue⟩ := exists_stringCharacter b
    obtain ⟨cs, hspellings, hvalues⟩ := ih
    exact ⟨c :: cs, congrArg₂ (· ++ ·) hspelling hspellings, congrArg₂ (· ++ ·) hvalue hvalues⟩

theorem exists_spelledBy_string (value : List UInt8) :
    (JsonToken.string value).SpelledBy ([0x22] ++ JsonWriter.escapeString value ++ [0x22]) := by
  obtain ⟨cs, hspelling, hvalue⟩ := exists_spellingOf_escapeString value
  have h := JsonToken.SpelledBy.string cs
  rw [hspelling, hvalue] at h
  exact h

end Strings

/-! ## Integers -/

section Integers

/-- The bytes of the decimal digits of a number. -/
def digitBytes (n : ℕ) : List UInt8 := (Nat.toDigits 10 n).map fun c => c.toNat.toUInt8

theorem digitBytes_eq (n : ℕ) :
    digitBytes n = if n < 10 then [(Nat.digitChar n).toNat.toUInt8]
      else digitBytes (n / 10) ++ [(Nat.digitChar (n % 10)).toNat.toUInt8] := by
  rw [digitBytes, Nat.toDigits_eq_if (by decide)]
  split
  · rfl
  · rw [List.map_append]
    rfl

theorem digitsValue_concat (ds : List UInt8) (d : UInt8) :
    digitsValue (ds ++ [d]) = digitsValue ds * 10 + (d.toNat - 0x30) := by
  rw [digitsValue, List.foldl_append]
  rfl

/-- A digit and its byte. -/
theorem digitChar_spec {n : ℕ} (h : n < 10) :
    isDigit (Nat.digitChar n).toNat.toUInt8 = true ∧
      (Nat.digitChar n).toNat.toUInt8.toNat - 0x30 = n ∧
      ((Nat.digitChar n).toNat.toUInt8 = 0x30 → n = 0) := by
  have hall : ∀ n < 10, isDigit (Nat.digitChar n).toNat.toUInt8 = true ∧
      (Nat.digitChar n).toNat.toUInt8.toNat - 0x30 = n ∧
      ((Nat.digitChar n).toNat.toUInt8 = 0x30 → n = 0) := by decide
  exact hall n h

/-- **The digits of a number**: they have its value, and start with a zero only if they are one. -/
theorem digitBytes_spec (n : ℕ) :
    digitsValue (digitBytes n) = n ∧ (∀ c ∈ digitBytes n, isDigit c = true) ∧
      ∃ d ds, digitBytes n = d :: ds ∧ (d = 0x30 → n = 0) := by
  induction n using Nat.strong_induction_on with
  | _ n ih =>
    rw [digitBytes_eq]
    split
    next hlt =>
      obtain ⟨hdigit, hvalue, hzero⟩ := digitChar_spec hlt
      refine ⟨?_, List.forall_mem_singleton.mpr hdigit, _, [], rfl, hzero⟩
      rw [digitsValue, List.foldl_cons, Nat.zero_mul, Nat.zero_add, hvalue]
      rfl
    next hge =>
      obtain ⟨hdigit, hvalue, -⟩ := digitChar_spec (Nat.mod_lt n (by decide : 10 > 0))
      obtain ⟨hfront, hdigits, d, ds, hcons, hzero⟩ := ih (n / 10) (by omega)
      refine ⟨?_, List.forall_mem_append.mpr ⟨hdigits, List.forall_mem_singleton.mpr hdigit⟩,
        d, ds ++ [(n % 10).digitChar.toNat.toUInt8], congrArg (· ++ _) hcons, fun hd => ?_⟩
      · rw [digitsValue_concat, hfront, hvalue]
        omega
      · have hquotient := hzero hd
        omega

theorem isInteger_digitBytes (n : ℕ) : IsInteger (digitBytes n) := by
  obtain ⟨-, hdigits, d, ds, hcons, hzero⟩ := digitBytes_spec n
  by_cases hd : d = 0x30
  · left
    rw [hzero hd]
    rfl
  · right
    rw [hcons] at hdigits
    obtain ⟨hdigit, hrest⟩ := List.forall_mem_cons.mp hdigits
    exact ⟨d, ds, hcons, hd, hdigit, hrest⟩

/-- The text of an integer: its digits, with a minus sign in front if it is negative. -/
theorem data_toInvariantString (value : ℤ) :
    (EventData.toInvariantString value).data =
      if 0 ≤ value then digitBytes value.toNat else 0x2D :: digitBytes (-value).toNat := by
  show (toString value).toList.map (fun c => c.toNat.toUInt8) = _
  rw [Int.toString_eq_repr, Int.repr_eq_if]
  split
  · rw [Nat.toList_repr]
    rfl
  · rw [String.toList_append, List.map_append, Nat.toList_repr]
    rfl

/-- Digits and the minus sign are not escaped. -/
theorem escapeString_of_digits {bytes : List UInt8} (h : ∀ c ∈ bytes, isDigitOrMinus c = true) :
    JsonWriter.escapeString bytes = bytes := by
  have hall : ∀ c : UInt8, isDigitOrMinus c = true → JsonWriter.escapeCharacter c = [c] :=
    UTF8String.forall_byte (by decide +kernel)
  induction bytes with
  | nil => rfl
  | cons c cs ih =>
    obtain ⟨hc, hcs⟩ := List.forall_mem_cons.mp h
    exact congrArg₂ (· ++ ·) (hall c hc) (ih hcs)

/-- **The text of an integer** is an integer literal of its value, and is not escaped. -/
theorem toInvariantString_spec (value : ℤ) :
    IsIntegerLiteral (EventData.toInvariantString value).data ∧
      integerValue (EventData.toInvariantString value).data = value ∧
      JsonWriter.escapeString (EventData.toInvariantString value).data =
        (EventData.toInvariantString value).data := by
  rw [data_toInvariantString]
  split
  next hnonneg =>
    obtain ⟨hvalue, hdigits, d, ds, hcons, -⟩ := digitBytes_spec value.toNat
    refine ⟨⟨[], _, .inl rfl, isInteger_digitBytes _, rfl⟩, ?_,
      escapeString_of_digits fun c hc => by rw [isDigitOrMinus, hdigits c hc, Bool.or_true]⟩
    have hd : d ≠ 0x2D := by
      rintro rfl
      exact absurd (hdigits 0x2D (by rw [hcons]; exact List.mem_cons_self)) (by decide)
    rw [hcons] at hvalue ⊢
    rw [integerValue, if_neg hd, hvalue]
    exact Int.toNat_of_nonneg hnonneg
  next hnegative =>
    obtain ⟨hvalue, hdigits, -⟩ := digitBytes_spec (-value).toNat
    refine ⟨⟨[0x2D], _, .inr rfl, isInteger_digitBytes _, rfl⟩, ?_, escapeString_of_digits ?_⟩
    · rw [integerValue, if_pos rfl, hvalue]
      omega
    · refine List.forall_mem_cons.mpr ⟨by decide, fun c hc => ?_⟩
      rw [isDigitOrMinus, hdigits c hc, Bool.or_true]

end Integers

/-! ## Values -/

/-- The values that are written and parsed: numbers that are integers of 64 bits, and objects with names
that are not empty, each of them once. -/
inductive JsonValue.Plain : JsonValue → Prop
  | null : Plain .null
  | boolean (value : Bool) : Plain (.boolean value)
  | string (value : List UInt8) : Plain (.string value)
  | long {value : ℤ} (h : InLongRange value) : Plain (.long value)
  | array {values : List JsonValue} (h : ∀ v ∈ values, Plain v) : Plain (.array values)
  | object {map : List (List UInt8 × JsonValue)} (hkeys : ∀ m ∈ map, m.1 ≠ [])
      (hdistinct : (map.map Prod.fst).Nodup) (h : ∀ m ∈ map, Plain m.2) : Plain (.object map)

theorem JsonValue.Plain.ne_nullPointer {value : JsonValue} (h : value.Plain) :
    value ≠ .nullPointer := by
  rintro rfl
  cases h

section Values

variable (doubleText : List UInt8 → List UInt8)

/-- A text spells some tokens, in front of any further ones. -/
def Spells (tokens : List JsonToken) (text : List UInt8) : Prop :=
  ∀ more rest, SpelledAs more rest → SpelledAs (tokens ++ more) (text ++ rest)

theorem Spells.append {tokens tokens' : List JsonToken} {text text' : List UInt8}
    (h : Spells tokens text) (h' : Spells tokens' text') :
    Spells (tokens ++ tokens') (text ++ text') := by
  intro more rest hmore
  rw [List.append_assoc, List.append_assoc]
  exact h _ _ (h' _ _ hmore)

theorem spells_token {token : JsonToken} {spelling : List UInt8} (h : token.SpelledBy spelling) :
    Spells [token] spelling := by
  intro more rest hmore
  have hnil : IsWhitespace [] := nofun
  exact .cons hnil h hmore

theorem spells_nil : Spells [] [] := fun _ _ => id

/-- A writer appends a text that spells some tokens. -/
def Writes (f : JsonWriter → JsonWriter) (tokens : List JsonToken) : Prop :=
  ∃ text, Spells tokens text ∧ ∀ w, (f w).stream = w.stream ++ text

theorem Writes.comp {f g : JsonWriter → JsonWriter} {tokens tokens' : List JsonToken}
    (hf : Writes f tokens) (hg : Writes g tokens') :
    Writes (fun w => g (f w)) (tokens ++ tokens') := by
  obtain ⟨text, hspells, hf⟩ := hf
  obtain ⟨text', hspells', hg⟩ := hg
  refine ⟨text ++ text', hspells.append hspells', fun w => ?_⟩
  rw [hg, hf, List.append_assoc]

theorem writes_append {token : JsonToken} {spelling : List UInt8} (h : token.SpelledBy spelling) :
    Writes (fun w => w.append spelling) [token] := ⟨spelling, spells_token h, fun _ => rfl⟩

/-- A tree whose tokens are written for a value, and that is read as this value. -/
structure WrittenAs (value : JsonValue) (t : JsonTree) : Prop where
  writes : Writes (value.writeJsonString doubleText) t.tokens
  toValue : t.toValue = value
  readable : t.Readable

/-! ## Arrays and objects -/

variable {doubleText}

/-- What is written for each element or member, one after the other. -/
theorem exists_forall₂ {α β : Type} {R : α → β → Prop} {xs : List α} (h : ∀ x ∈ xs, ∃ y, R x y) :
    ∃ ys, List.Forall₂ R xs ys := by
  induction xs with
  | nil => exact ⟨[], .nil⟩
  | cons x xs ih =>
    obtain ⟨y, hy⟩ := h x List.mem_cons_self
    obtain ⟨ys, hys⟩ := ih fun x hx => h x (List.mem_cons_of_mem _ hx)
    exact ⟨y :: ys, .cons hy hys⟩

/-- The further elements of an array. -/
theorem writes_moreElements {values : List JsonValue} {ts : List JsonTree}
    (h : List.Forall₂ (WrittenAs doubleText) values ts) (n : ℕ) :
    Writes (writeElements doubleText (n + 1) values) (moreElementTokens ts) := by
  induction h generalizing n with
  | nil => exact ⟨[], spells_nil, fun w => (List.append_nil _).symm⟩
  | @cons value t values ts hvalue _ ih =>
    exact ((writes_append .comma).comp hvalue.writes).comp (ih (n + 1))

theorem elementValues_of_forall₂ {values : List JsonValue} {ts : List JsonTree}
    (h : List.Forall₂ (WrittenAs doubleText) values ts) :
    elementValues ts = values ∧ ∀ t ∈ ts, t.Readable := by
  induction h with
  | nil => exact ⟨rfl, nofun⟩
  | cons hvalue _ ih =>
    exact ⟨congrArg₂ List.cons hvalue.toValue ih.1, List.forall_mem_cons.mpr ⟨hvalue.readable, ih.2⟩⟩

/-- **An array** is written as the array of what its elements are written as. -/
theorem writtenAs_array {values : List JsonValue} {ts : List JsonTree}
    (h : List.Forall₂ (WrittenAs doubleText) values ts) :
    WrittenAs doubleText (.array values) (.array ts) := by
  obtain ⟨hvalues, hreadable⟩ := elementValues_of_forall₂ h
  refine ⟨?_, congrArg JsonValue.array hvalues, .array trivial hreadable⟩
  cases h with
  | nil => exact (writes_append .leftSquareBracket).comp (writes_append .rightSquareBracket)
  | @cons value t values ts hvalue hmore =>
    rw [JsonTree.tokens_array_cons]
    exact (writes_append .leftSquareBracket).comp
      ((hvalue.writes.comp (writes_moreElements hmore 0)).comp (writes_append .rightSquareBracket))

/-- A member and what it is written as. -/
structure MemberWrittenAs (doubleText : List UInt8 → List UInt8) (m : List UInt8 × JsonValue)
    (m' : List UInt8 × JsonTree) : Prop where
  key_eq : m'.1 = m.1
  key_ne_nil : m.1 ≠ []
  plain : m.2.Plain
  value : WrittenAs doubleText m.2 m'.2

/-- The further members of an object. -/
theorem writes_moreMembers {map : List (List UInt8 × JsonValue)} {ms : List (List UInt8 × JsonTree)}
    (h : List.Forall₂ (MemberWrittenAs doubleText) map ms) (n : ℕ) :
    Writes (writeMembers doubleText (n + 1) map) (moreMemberTokens ms) := by
  induction h generalizing n with
  | nil => exact ⟨[], spells_nil, fun w => (List.append_nil _).symm⟩
  | @cons m m' map ms hm _ ih =>
    obtain ⟨key, value⟩ := m
    obtain ⟨key', t⟩ := m'
    obtain rfl : key' = key := hm.key_eq
    exact ((writes_append .comma).comp ((writes_append (exists_spelledBy_string key')).comp
      ((writes_append .colon).comp hm.value.writes))).comp (ih (n + 1))

/-- A key that is not in the map is put behind it. -/
theorem insertOrAssign_of_notMem {map : List (List UInt8 × JsonValue)} {key : List UInt8}
    (h : key ∉ map.map Prod.fst) (value : JsonValue) :
    insertOrAssign key value map = map ++ [(key, value)] := by
  induction map with
  | nil => rfl
  | cons m map ih =>
    have hne : m.1 ≠ key := (List.ne_of_not_mem_cons h).symm
    rw [insertOrAssign, if_neg hne, ih (List.not_mem_of_not_mem_cons h)]
    rfl

/-- The members of an object with different names are put into the map one behind the other. -/
theorem memberValues_of_forall₂ {front map : List (List UInt8 × JsonValue)}
    {ms : List (List UInt8 × JsonTree)} (h : List.Forall₂ (MemberWrittenAs doubleText) map ms)
    (hdistinct : ((front ++ map).map Prod.fst).Nodup) :
    memberValues front ms = front ++ map := by
  induction h generalizing front with
  | nil => exact (List.append_nil front).symm
  | @cons m m' map ms hm _ ih =>
    obtain ⟨key, value⟩ := m
    obtain ⟨key', t⟩ := m'
    obtain rfl : key' = key := hm.key_eq
    obtain rfl : t.toValue = value := hm.value.toValue
    have hkey : key' ∉ front.map Prod.fst := by
      rw [List.map_append] at hdistinct
      exact fun hmem => (List.nodup_append.mp hdistinct).2.2 key' hmem key' List.mem_cons_self rfl
    have hfront : front ++ [(key', t.toValue)] ++ map = front ++ (key', t.toValue) :: map := by
      rw [List.append_assoc]
      rfl
    rw [memberValues, insertOrAssign_of_notMem hkey, ih (by rw [hfront]; exact hdistinct), hfront]

theorem readable_of_forall₂ {map : List (List UInt8 × JsonValue)}
    {ms : List (List UInt8 × JsonTree)} (h : List.Forall₂ (MemberWrittenAs doubleText) map ms) :
    (∀ m ∈ ms, ReadableMember m) ∧ ∀ m ∈ ms, m.2.Readable := by
  induction h with
  | nil => exact ⟨List.forall_mem_nil _, List.forall_mem_nil _⟩
  | cons hm _ ih =>
    refine ⟨List.forall_mem_cons.mpr ⟨⟨?_, ?_⟩, ih.1⟩, List.forall_mem_cons.mpr
      ⟨hm.value.readable, ih.2⟩⟩
    · rw [hm.key_eq]
      exact hm.key_ne_nil
    · rw [hm.value.toValue]
      exact hm.plain.ne_nullPointer

/-- **An object** with different names is written as the object of what its members are written as. -/
theorem writtenAs_object {map : List (List UInt8 × JsonValue)} {ms : List (List UInt8 × JsonTree)}
    (h : List.Forall₂ (MemberWrittenAs doubleText) map ms)
    (hdistinct : (map.map Prod.fst).Nodup) :
    WrittenAs doubleText (.object map) (.object ms) := by
  obtain ⟨hmembers, hreadable⟩ := readable_of_forall₂ h
  have hvalues : memberValues [] ms = [] ++ map := memberValues_of_forall₂ h hdistinct
  refine ⟨?_, congrArg JsonValue.object hvalues, .object hmembers hreadable⟩
  cases h with
  | nil => exact (writes_append .leftBrace).comp (writes_append .rightBrace)
  | @cons m m' map ms hm hmore =>
    obtain ⟨key, value⟩ := m
    obtain ⟨key', t⟩ := m'
    obtain rfl : key' = key := hm.key_eq
    rw [JsonTree.tokens_object_cons]
    exact (writes_append .leftBrace).comp ((writes_append (exists_spelledBy_string key')).comp
      ((writes_append .colon).comp ((hm.value.writes.comp (writes_moreMembers hmore 0)).comp
        (writes_append .rightBrace))))

/-- **Every plain value** is written as a tree that is read as it. -/
theorem exists_writtenAs {value : JsonValue} (h : value.Plain) :
    ∃ t, WrittenAs doubleText value t := by
  induction h with
  | null => exact ⟨.null, writes_append .null, rfl, .null trivial⟩
  | boolean value =>
    refine ⟨.boolean value, ?_, rfl, .boolean trivial⟩
    cases value
    · exact writes_append .false
    · exact writes_append .true
  | string value =>
    exact ⟨.string value, writes_append (exists_spelledBy_string value), rfl, .string trivial⟩
  | @long value h =>
    obtain ⟨hliteral, hvalue, hescape⟩ := toInvariantString_spec value
    have hnumber : IsNumber (EventData.toInvariantString value).data :=
      ⟨_, [], [], hliteral, .inl rfl, .inl rfl, by rw [List.append_nil, List.append_nil]⟩
    refine ⟨.number (EventData.toInvariantString value).data, ?_, ?_, .number trivial⟩
    · show Writes (fun w => w.append (JsonWriter.escapeString _)) _
      rw [JsonTree.tokens, hescape]
      exact writes_append (.number hnumber)
    · show fromNumberLiteral _ = _
      rw [fromNumberLiteral, numberPattern_eq_some_iff.mpr hliteral]
      show parseLongValue _ = _
      rw [parseLongValue, hvalue, if_pos h]
  | array _ ih =>
    obtain ⟨ts, hts⟩ := exists_forall₂ ih
    exact ⟨.array ts, writtenAs_array hts⟩
  | @object map hkeys hdistinct hplain ih =>
    have hmembers : ∀ m ∈ map, ∃ m', MemberWrittenAs doubleText m m' := by
      intro m hm
      obtain ⟨t, ht⟩ := ih m hm
      exact ⟨(m.1, t), rfl, hkeys m hm, hplain m hm, ht⟩
    obtain ⟨ms, hms⟩ := exists_forall₂ hmembers
    exact ⟨.object ms, writtenAs_object hms hdistinct⟩

end Values

/-- **Writing and parsing**: the text of a value is parsed as that value. -/
theorem JsonParser.parse_toString (doubleText : List UInt8 → List UInt8) {value : JsonValue}
    (h : value.Plain) :
    (JsonParser.parse (.new (value.toString doubleText))).1 = .ok value := by
  obtain ⟨t, ht⟩ : ∃ t, WrittenAs doubleText value t := exists_writtenAs h
  obtain ⟨⟨text, hspells, hwrites⟩, hvalue, hreadable⟩ := ht
  have htext : value.toString doubleText = text := hwrites .new
  have hspelled := hspells [] [] (.nil nofun)
  rw [List.append_nil, List.append_nil] at hspelled
  obtain ⟨p', hrun, -⟩ := JsonParser.run_doParse_of_readable hspelled hreadable
  rw [htext, JsonParser.parse_new_of_ok hrun, hvalue]

/-- An object with a control character, a quotation mark and a byte that is no ASCII character. -/
def nestedValue : JsonValue :=
  .object [([0x22, 0x2F, 0x01], .array [.null, .long (-5), .object [], .string [0x0A, 0xFF]]),
    ([0x61], .boolean true)]

theorem JsonParser.parse_toString_nestedValue :
    (JsonParser.parse (.new (nestedValue.toString id))).1 = .ok nestedValue := by
  refine JsonParser.parse_toString id (.object (by decide) (by decide) ?_)
  refine List.forall_mem_cons.mpr ⟨.array ?_, List.forall_mem_singleton.mpr (.boolean true)⟩
  refine List.forall_mem_cons.mpr ⟨.null, List.forall_mem_cons.mpr ⟨.long (by decide),
    List.forall_mem_cons.mpr ⟨.object ?_ (by decide) ?_, List.forall_mem_singleton.mpr (.string _)⟩⟩⟩
  · exact List.forall_mem_nil _
  · exact List.forall_mem_nil _

end OpenKit
