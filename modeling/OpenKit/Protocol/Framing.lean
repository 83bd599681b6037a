import OpenKit.Core.Validation
import OpenKit.Protocol.RecordPairs

/-!
# The framing of key and value pairs

Pairs are appended to a text with a separator between them, and their values are escaped. A text is read
by splitting it at the separators, and each part at its first sign of equality. Decoding undoes the
escaping byte by byte, and the constructor keeps what consists of characters. So the pairs that are read
are those that were appended.

## Main definitions

* `EventData.urldecode`: decoding
* `EventData.pairsIn`: the pairs that are read from a text
* `UTF8String.IsText`: a string that is made of a text without NUL

## Main results

* `urldecodeData_urlencode`: decoding undoes escaping
* `pairsIn_addKeyValuePairs`: what is read is what was appended
-/

namespace OpenKit

namespace UTF8String

/-! ## Strings of characters -/

variable {bytes : List UInt8}

/-- ASCII characters stay as they are. -/
theorem validateString_of_ascii (h : ∀ b ∈ bytes, b ≠ 0 ∧ getByteWidthOfCharacter b = 1) :
    validateString bytes = ⟨bytes, bytes.length⟩ := by
  obtain ⟨cs, hbytes, hlength, hnone⟩ :
      ∃ cs, bytesOf cs = bytes ∧ cs.length = bytes.length ∧ NoTerminator cs := by
    induction bytes with
    | nil => exact ⟨[], rfl, rfl, List.forall_mem_nil _⟩
    | cons b bytes ih =>
      obtain ⟨⟨hzero, hwidth⟩, hbytes⟩ := List.forall_mem_cons.mp h
      obtain ⟨cs, rfl, hlength, hnone⟩ := ih hbytes
      refine ⟨.ofAscii b hzero hwidth :: cs, rfl, congrArg Nat.succ hlength, ?_⟩
      refine List.forall_mem_cons.mpr ⟨fun hsame => ?_, hnone⟩
      cases congrArg List.length hsame
  rw [← hlength, ← hbytes]
  exact validateString_bytesOf hnone

/-- The bytes of a text. -/
def encodeText (text : List Char) : List UInt8 := text.flatMap String.utf8EncodeChar

/-- A string that is made of a text without NUL. -/
def IsText (s : UTF8String) : Prop :=
  ∃ text : List Char, (∀ c ∈ text, c.toNat ≠ 0) ∧ s = validateString (encodeText text)

/-- A Unicode character is a complete character, and no terminator. -/
theorem exists_character {c : Char} (hc : c.toNat ≠ 0) :
    ∃ d : Utf8Character, d.bytes = String.utf8EncodeChar c ∧ d.bytes ≠ [0xC0, 0x80] := by
  have hone : ∀ n < 128, n ≠ 0 → UInt8.ofNat n ≠ 0 ∧ getByteWidthOfCharacter (UInt8.ofNat n) = 1 := by
    decide
  have htwo : ∀ n < 32, UInt8.ofNat (n + 0xC0) ≠ 0 ∧
      getByteWidthOfCharacter (UInt8.ofNat (n + 0xC0)) = 2 ∧ (UInt8.ofNat (n + 0xC0) = 0xC0 → n = 0) := by
    decide
  have hthree : ∀ n < 16, UInt8.ofNat (n + 0xE0) ≠ 0 ∧
      getByteWidthOfCharacter (UInt8.ofNat (n + 0xE0)) = 3 := by decide
  have hfour : ∀ n < 8, UInt8.ofNat (n + 0xF0) ≠ 0 ∧
      getByteWidthOfCharacter (UInt8.ofNat (n + 0xF0)) = 4 := by decide
  have hrest : ∀ n < 64, isPartOfPreviousUtf8Multibyte (UInt8.ofNat (n + 0x80)) = true := by
    decide
  have hmod (k : ℕ) : isPartOfPreviousUtf8Multibyte (UInt8.ofNat (k % 0x40 + 0x80)) = true :=
    hrest _ (Nat.mod_lt _ (by decide))
  have hv : c.val.toNat ≠ 0 := hc
  rw [String.utf8EncodeChar]
  generalize c.val.toNat = v at hv ⊢
  split
  next hle =>
    obtain ⟨hzero, hwidth⟩ := hone v (Nat.lt_succ_of_le hle) hv
    exact ⟨⟨_, [], hzero, hwidth, List.forall_mem_nil _⟩, rfl, by simp [Utf8Character.bytes]⟩
  next hmore =>
    split
    next hle =>
      obtain ⟨hzero, hwidth, hlead⟩ := htwo (v / 64 % 0x20) (Nat.mod_lt _ (by decide))
      refine ⟨⟨_, [UInt8.ofNat (v % 0x40 + 0x80)], hzero, hwidth,
        List.forall_mem_singleton.mpr (hmod v)⟩, rfl, fun hsame => ?_⟩
      -- a character of two bytes is behind the ASCII ones
      have hlow := hlead (List.cons.inj hsame).1
      omega
    next =>
      split
      · obtain ⟨hzero, hwidth⟩ := hthree (v / 4096 % 0x10) (Nat.mod_lt _ (by decide))
        refine ⟨⟨_, [UInt8.ofNat (v / 64 % 0x40 + 0x80), UInt8.ofNat (v % 0x40 + 0x80)], hzero, hwidth,
          ?_⟩, rfl, by simp [Utf8Character.bytes]⟩
        exact List.forall_mem_cons.mpr ⟨hmod _, List.forall_mem_singleton.mpr (hmod v)⟩
      · obtain ⟨hzero, hwidth⟩ := hfour (v / 262144 % 0x08) (Nat.mod_lt _ (by decide))
        refine ⟨⟨_, [UInt8.ofNat (v / 4096 % 0x40 + 0x80), UInt8.ofNat (v / 64 % 0x40 + 0x80),
          UInt8.ofNat (v % 0x40 + 0x80)], hzero, hwidth, ?_⟩, rfl, by simp [Utf8Character.bytes]⟩
        exact List.forall_mem_cons.mpr ⟨hmod _, List.forall_mem_cons.mpr ⟨hmod _,
          List.forall_mem_singleton.mpr (hmod v)⟩⟩

theorem exists_characters_encodeText {text : List Char} (h : ∀ c ∈ text, c.toNat ≠ 0) :
    ∃ cs, bytesOf cs = encodeText text ∧ NoTerminator cs := by
  induction text with
  | nil => exact ⟨[], rfl, List.forall_mem_nil _⟩
  | cons c text ih =>
    obtain ⟨hc, htext⟩ := List.forall_mem_cons.mp h
    obtain ⟨d, hd, hterminator⟩ := exists_character hc
    obtain ⟨cs, hcs, hnone⟩ := ih htext
    refine ⟨d :: cs, ?_, List.forall_mem_cons.mpr ⟨hterminator, hnone⟩⟩
    rw [encodeText, List.flatMap_cons, ← hd]
    exact congrArg (d.bytes ++ ·) hcs

/-- A text is kept by the constructor, and again. -/
theorem IsText.validateString_data {s : UTF8String} (h : s.IsText) : validateString s.data = s := by
  obtain ⟨text, htext, rfl⟩ := h
  obtain ⟨cs, hcs, hnone⟩ := exists_characters_encodeText htext
  rw [← hcs, validateString_bytesOf hnone]
  exact validateString_bytesOf hnone

/-- What the constructor makes counts a character if it has a byte. -/
theorem consistent_validateString (stringData : List UInt8) : (validateString stringData).Consistent := by
  obtain ⟨pieces, hstring, -, -⟩ := exists_pieces stringData
  intro hlength
  rw [hstring] at hlength ⊢
  rw [List.length_eq_zero_iff.mp hlength]
  rfl

end UTF8String

namespace EventData

/-! ## Decoding -/

/-- `isxdigit`. -/
def isXDigit (character : UInt8) : Bool :=
  (48 ≤ character && character ≤ 57) || (65 ≤ character && character ≤ 70) ||
    (97 ≤ character && character ≤ 102)

/-- The value of a hexadecimal digit. -/
def hexValue (character : UInt8) : UInt8 :=
  if character ≤ 57 then character - 48 else if character ≤ 70 then character - 55 else character - 87

/-- The bytes of a decoded value. What follows a percent sign without two characters behind it is left
out. -/
def urldecodeData : List UInt8 → List UInt8
  | [] => []
  | character :: stringData =>
    if character ≠ 37 then character :: urldecodeData stringData
    else
      match stringData with
      | high :: low :: stringData =>
        (if isXDigit high && isXDigit low then [16 * hexValue high + hexValue low]
          else [63, high, low]) ++ urldecodeData stringData
      | _ => []

/-- `URLEncoding::urldecode`. -/
def urldecode (s : UTF8String) : UTF8String := .validateString (urldecodeData s.data)

theorem urldecodeData_cons_of_ne {character : UInt8} (h : character ≠ 37) (stringData : List UInt8) :
    urldecodeData (character :: stringData) = character :: urldecodeData stringData := by
  match stringData with
  | [] => simp [urldecodeData, h]
  | [_] => simp [urldecodeData, h]
  | _ :: _ :: _ => rw [urldecodeData, if_pos h]

/-- **A byte** is decoded to itself. -/
theorem urldecodeData_urlencodeByte (b : UInt8) (stringData : List UInt8) :
    urldecodeData (urlencodeByte [95] b ++ stringData) = b :: urldecodeData stringData := by
  have hkept : ∀ b ∈ unreservedCharactersRFC3986, b ≠ 37 :=
    List.all_iff_forall_prop.mp (by decide)
  have hdigits : ∀ b : UInt8,
      (isXDigit (hexCharacter (b >>> 4)) && isXDigit (hexCharacter (b &&& 15))) = true :=
    UTF8String.forall_byte (by decide +kernel)
  have hvalue : ∀ b : UInt8,
      (16 : UInt8) * hexValue (hexCharacter (b >>> 4)) + hexValue (hexCharacter (b &&& 15)) = b :=
    UTF8String.forall_byte (by decide +kernel)
  rw [urlencodeByte]
  split
  next h => exact urldecodeData_cons_of_ne (hkept b h.1) stringData
  next =>
    rw [List.cons_append, List.cons_append, List.singleton_append, urldecodeData, if_neg (by decide),
      hdigits, if_pos rfl, hvalue]
    rfl

/-- **Decoding undoes escaping.** -/
theorem urldecodeData_urlencode (value : UTF8String) :
    urldecodeData (urlencode value [95]).data = value.data := by
  have hbytes (data : List UInt8) : urldecodeData (data.flatMap (urlencodeByte [95])) = data := by
    induction data with
    | nil => rfl
    | cons b data ih => rw [List.flatMap_cons, urldecodeData_urlencodeByte, ih]
  exact hbytes value.data

/-- A text is decoded to itself. -/
theorem urldecode_urlencode {value : UTF8String} (h : value.IsText) :
    urldecode (.validateString (urlencode value [95]).data) = value := by
  have hascii := UTF8String.validateString_of_ascii fun b hb =>
    ⟨(urlencode_bytes value b hb).1, (urlencode_bytes value b hb).2.1⟩
  rw [hascii, urldecode]
  dsimp only
  rw [urldecodeData_urlencode]
  exact h.validateString_data

/-! ## Reading -/

/-- What `getline` reads up to each delimiter. Nothing is read behind the last one if it ends the data. -/
def itemsOf (data : List UInt8) (delimiter : UInt8) : List (List UInt8) :=
  if (data.splitOn delimiter).getLast? = some [] then (data.splitOn delimiter).dropLast
  else data.splitOn delimiter

/-- The key and the value in a part. -/
def pairIn (item : List UInt8) : List UInt8 × UTF8String :=
  (item.takeWhile (· ≠ 61), urldecode (.validateString ((item.dropWhile (· ≠ 61)).drop 1)))

/-- The pairs in a text. -/
def pairsIn (text : UTF8String) : List (List UInt8 × UTF8String) := (itemsOf text.data 38).map pairIn

/-- The text of some pairs. -/
def addKeyValuePairs (pairs : List (UTF8String × UTF8String)) : UTF8String :=
  pairs.foldl (fun s pair => addKeyValuePair s pair.1 pair.2) .nil

/-- A key that was made by the constructor, without signs that mean something in a text. -/
def IsFramingKey (key : UTF8String) : Prop :=
  (∃ stringData, key = .validateString stringData) ∧ 38 ∉ key.data ∧ 61 ∉ key.data ∧ 37 ∉ key.data

variable {key value : UTF8String} {pairs : List (UTF8String × UTF8String)}

theorem IsFramingKey.consistent (h : IsFramingKey key) : key.Consistent := by
  obtain ⟨⟨stringData, rfl⟩, -⟩ := h
  exact UTF8String.consistent_validateString stringData

/-- **A pair** is read as it is written. -/
theorem pairIn_pairData (hkey : IsFramingKey key) (hvalue : value.IsText) :
    pairIn (pairData key value) = (key.data, value) := by
  have hbefore : ∀ b ∈ key.data, (decide (b ≠ 61)) = true := by
    intro b hb
    exact decide_eq_true fun hsame => hkey.2.2.1 (hsame ▸ hb)
  have htake : (61 :: (urlencode value [95]).data).takeWhile (· ≠ 61) = [] :=
    List.takeWhile_cons_of_neg (by decide)
  have hdrop : (61 :: (urlencode value [95]).data).dropWhile (· ≠ 61) =
      61 :: (urlencode value [95]).data := List.dropWhile_cons_of_neg (by decide)
  rw [pairIn, pairData, List.takeWhile_append_of_pos hbefore, List.dropWhile_append_of_pos hbefore,
    htake, hdrop, List.append_nil, List.drop_succ_cons, List.drop_zero, urldecode_urlencode hvalue]

/-- The parts of a text are its pairs. -/
theorem splitOn_addKeyValuePairs (hkeys : ∀ pair ∈ pairs, IsFramingKey pair.1) (hne : pairs ≠ []) :
    (addKeyValuePairs pairs).isEmpty = false ∧
      (addKeyValuePairs pairs).data.splitOn 38 = pairs.map fun pair => pairData pair.1 pair.2 := by
  induction pairs using List.reverseRecOn with
  | nil => exact absurd rfl hne
  | append_singleton pairs pair ih =>
    obtain ⟨hkeys, hkey⟩ := List.forall_mem_append.mp hkeys
    have hkey := List.forall_mem_singleton.mp hkey
    have hlast : addKeyValuePairs (pairs ++ [pair]) =
        addKeyValuePair (addKeyValuePairs pairs) pair.1 pair.2 := List.foldl_concat ..
    have hnone : 38 ∉ pairData pair.1 pair.2 := ampersand_notMem_pairData hkey.2.1
    have hitem := List.splitOn_eq_singleton hnone
    rw [hlast, List.map_append, List.map_singleton]
    refine ⟨?_, ?_⟩
    · exact isEmpty_addKeyValuePair _ _ _
    · rcases eq_or_ne pairs [] with rfl | hpairs
      · rw [addKeyValuePairs, List.foldl_nil, data_addKeyValuePair_nil hkey.consistent, hitem]
        rfl
      · obtain ⟨hsome, hsplit⟩ := ih hkeys hpairs
        rw [data_addKeyValuePair hsome hkey.consistent, List.splitOn_append_cons_self, hsplit, hitem]

/-- **Framing**: the pairs that are read are those that were appended. -/
theorem pairsIn_addKeyValuePairs (hkeys : ∀ pair ∈ pairs, IsFramingKey pair.1)
    (hvalues : ∀ pair ∈ pairs, pair.2.IsText) :
    pairsIn (addKeyValuePairs pairs) = pairs.map fun pair => (pair.1.data, pair.2) := by
  rcases eq_or_ne pairs [] with rfl | hne
  · rfl
  · obtain ⟨-, hsplit⟩ := splitOn_addKeyValuePairs hkeys hne
    have hlast : ((addKeyValuePairs pairs).data.splitOn 38).getLast? ≠ some [] := by
      intro hnil
      rw [hsplit] at hnil
      obtain ⟨pair, -, hpair⟩ := List.mem_map.mp (List.mem_of_getLast? hnil)
      exact absurd hpair (by simp [pairData])
    rw [pairsIn, itemsOf, if_neg hlast, hsplit, List.map_map]
    exact List.map_congr_left fun pair hpair => pairIn_pairData (hkeys pair hpair) (hvalues pair hpair)

/-- A value with separators and a letter of two bytes. -/
theorem pairsIn_separators : pairsIn (addKeyValuePairs
      [(keyName, .validateString (UTF8String.encodeText ['a', '&', '=', '%', 'ä'])),
        (keyValue, .validateString (UTF8String.encodeText []))]) =
    [(keyName.data, ⟨[97, 38, 61, 37, 0xC3, 0xA4], 5⟩), (keyValue.data, .nil)] := by
  refine (pairsIn_addKeyValuePairs ?_ ?_).trans (by decide)
  · refine List.forall_mem_cons.mpr ⟨⟨⟨[110, 97], by decide⟩, by decide, by decide, by decide⟩, ?_⟩
    exact List.forall_mem_singleton.mpr ⟨⟨[118, 108], by decide⟩, by decide, by decide, by decide⟩
  · refine List.forall_mem_cons.mpr ⟨⟨['a', '&', '=', '%', 'ä'],
      List.all_iff_forall_prop.mp (by decide), rfl⟩, ?_⟩
    exact List.forall_mem_singleton.mpr ⟨[], List.forall_mem_nil _, rfl⟩

end EventData

end OpenKit
