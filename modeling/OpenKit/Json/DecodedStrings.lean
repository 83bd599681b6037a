import OpenKit.Json.LexerTokens

/-!
# Decoded strings

Each character of a string literal should add the UTF-8 encoding of what it stands for. An escape sequence
outside the surrogate pairs adds the two bytes of its number instead, without the higher one if that is
zero, which is its encoding for ASCII characters only.

## Main definitions

* `utf8Of`: the encoding of a code point
* `StringCharacter.decoded`: what a character should add
* `StringCharacter.IsDecoded`: an escape sequence outside the surrogate pairs is that of an ASCII character

## Main results

* `StringCharacter.value_eq_decoded_iff`: which characters add what they should
* `Lexes.readsDecoded_iff`: which literals are read as they should be
-/

namespace OpenKit

open Thread JsonLexer

/-! ## The encoding -/

/-- The UTF-8 encoding of a code point. -/
def utf8Of (codePoint : ℕ) : List UInt8 := String.utf8EncodeChar (Char.ofNat codePoint)

/-- The encoding has one to four bytes. -/
theorem utf8Of_eq {n : ℕ} (hn : n.isValidChar) : utf8Of n =
    if n ≤ 0x7F then [UInt8.ofNat n]
    else if n ≤ 0x7FF then [UInt8.ofNat (n / 64 % 0x20 + 0xC0), UInt8.ofNat (n % 0x40 + 0x80)]
    else if n ≤ 0xFFFF then
      [UInt8.ofNat (n / 4096 % 0x10 + 0xE0), UInt8.ofNat (n / 64 % 0x40 + 0x80),
        UInt8.ofNat (n % 0x40 + 0x80)]
    else
      [UInt8.ofNat (n / 262144 % 0x08 + 0xF0), UInt8.ofNat (n / 4096 % 0x40 + 0x80),
        UInt8.ofNat (n / 64 % 0x40 + 0x80), UInt8.ofNat (n % 0x40 + 0x80)] := by
  have hval : (Char.ofNat n).val.toNat = n := by
    rw [Char.ofNat, dif_pos hn]
    rfl
  rw [utf8Of, String.utf8EncodeChar, hval]

/-- **ASCII characters** are their own encoding. -/
theorem bytesOfCharacter_eq_utf8Of {n : ℕ} (hn : n < 0x80) : bytesOfCharacter n = utf8Of n := by
  rw [utf8Of_eq (.inl (by omega)), if_pos (by omega), bytesOfCharacter, if_pos (by omega),
    Nat.mod_eq_of_lt (by omega)]

/-- **No other character** of the basic plane is encoded by the bytes of its number, which are not more than
those of the encoding. -/
theorem bytesOfCharacter_ne_utf8Of {n : ℕ} (hn : n.isValidChar) (hascii : 0x80 ≤ n) (hbasic : n < 0x10000) :
    bytesOfCharacter n ≠ utf8Of n ∧ (bytesOfCharacter n).length ≤ (utf8Of n).length := by
  rw [utf8Of_eq hn, if_neg (by omega)]
  by_cases hone : n / 0x100 = 0
  · -- one byte for two
    rw [bytesOfCharacter, if_pos hone, if_pos (by omega)]
    refine ⟨fun hsame => ?_, by simp⟩
    cases congrArg List.length hsame
  · rw [bytesOfCharacter, if_neg hone]
    by_cases htwo : n ≤ 0x7FF
    · -- the first byte is none of the lead bytes
      rw [if_pos htwo]
      refine ⟨fun hsame => ?_, by simp⟩
      have hlead := congrArg UInt8.toNat (List.cons.inj hsame).1
      rw [UInt8.toNat_ofNat', UInt8.toNat_ofNat', Nat.mod_eq_of_lt (by omega),
        Nat.mod_eq_of_lt (by omega)] at hlead
      omega
    · -- two bytes for three
      rw [if_neg htwo, if_pos (by omega)]
      refine ⟨fun hsame => ?_, by simp⟩
      cases congrArg List.length hsame

/-- **Surrogate pairs** are converted to the encoding of their code point. -/
theorem convertSurrogatePair_eq_utf8Of {high low : ℕ} (hhigh : isHighSurrogateCharacter high = true)
    (hlow : isLowSurrogateCharacter low = true) :
    convertSurrogatePair high low = utf8Of (0x10000 + (high - 0xD800) * 0x400 + (low - 0xDC00)) := by
  rw [isHighSurrogateCharacter, Bool.and_eq_true, decide_eq_true_iff, decide_eq_true_iff] at hhigh
  rw [isLowSurrogateCharacter, Bool.and_eq_true, decide_eq_true_iff, decide_eq_true_iff] at hlow
  obtain ⟨n, hn⟩ : ∃ n, n = 0x10000 + (high - 0xD800) * 0x400 + (low - 0xDC00) := ⟨_, rfl⟩
  have hsmall : 0x10000 ≤ n ∧ n < 0x110000 := by omega
  rw [convertSurrogatePair, ← hn, utf8Of_eq (.inr (by omega)), if_neg (by omega), if_neg (by omega),
    if_neg (by omega)]
  have hlead : n / 262144 % 0x08 + 0xF0 = 0xF0 + n / 262144 := by omega
  rw [hlead, Nat.add_comm (n / 4096 % 0x40), Nat.add_comm (n / 64 % 0x40), Nat.add_comm (n % 0x40)]

/-! ## Characters of a string -/

theorem HexSequence.toNat_lt (s : HexSequence) : s.toNat < 0x10000 := by
  have hdigit : ∀ b : UInt8, JsonLexer.isHexCharacter b = true → hexValue b < 16 :=
    UTF8String.forall_byte (by decide +kernel)
  obtain ⟨characters, hlength, hhex⟩ := s
  match characters, hlength with
  | [a, b, c, d], _ =>
    have ha := hdigit a (hhex a (by simp))
    have hb := hdigit b (hhex b (by simp))
    have hc := hdigit c (hhex c (by simp))
    have hd := hdigit d (hhex d (by simp))
    show (((0 * 16 + hexValue a) * 16 + hexValue b) * 16 + hexValue c) * 16 + hexValue d < 0x10000
    omega

namespace StringCharacter

/-- What a character should add to the value of its string: the encoding of its code point if it is
written as an escape sequence with its number. -/
def decoded : StringCharacter → List UInt8
  | unescaped b _ _ _ => [b]
  | escaped _ value _ => [value]
  | unicode s _ _ => utf8Of s.toNat
  | surrogatePair high low _ _ =>
    utf8Of (0x10000 + (high.toNat - 0xD800) * 0x400 + (low.toNat - 0xDC00))

/-- An escape sequence outside the surrogate pairs is that of an ASCII character. -/
def IsDecoded : StringCharacter → Prop
  | unicode s _ _ => s.toNat < 0x80
  | _ => True

/-- A number outside the surrogates is a code point. -/
theorem isValidChar_of_unicode {s : HexSequence} (hhigh : isHighSurrogateCharacter s.toNat = false)
    (hlow : isLowSurrogateCharacter s.toNat = false) : s.toNat.isValidChar := by
  rw [isHighSurrogateCharacter, Bool.and_eq_false_iff, decide_eq_false_iff_not,
    decide_eq_false_iff_not] at hhigh
  rw [isLowSurrogateCharacter, Bool.and_eq_false_iff, decide_eq_false_iff_not,
    decide_eq_false_iff_not] at hlow
  have hlt := s.toNat_lt
  rcases hhigh with hhigh | hhigh
  · exact .inl (by omega)
  · rcases hlow with hlow | hlow
    · omega
    · exact .inr (by omega)

/-- **What a character adds**, and that it adds no more bytes than it should. -/
theorem value_eq_decoded_iff (c : StringCharacter) :
    (c.value = c.decoded ↔ c.IsDecoded) ∧ c.value.length ≤ c.decoded.length := by
  cases c with
  | unescaped b _ _ _ => exact ⟨iff_of_true rfl trivial, le_refl _⟩
  | escaped character value _ => exact ⟨iff_of_true rfl trivial, le_refl _⟩
  | unicode s hhigh hlow =>
    rcases Nat.lt_or_ge s.toNat 0x80 with hascii | hascii
    · have hsame : (unicode s hhigh hlow).value = (unicode s hhigh hlow).decoded :=
        bytesOfCharacter_eq_utf8Of hascii
      exact ⟨iff_of_true hsame hascii, (congrArg List.length hsame).le⟩
    · obtain ⟨hne, hle⟩ :=
        bytesOfCharacter_ne_utf8Of (isValidChar_of_unicode hhigh hlow) hascii s.toNat_lt
      exact ⟨iff_of_false hne (Nat.not_lt.mpr hascii), hle⟩
  | surrogatePair high low hhigh hlow =>
    have hsame : (surrogatePair high low hhigh hlow).value = (surrogatePair high low hhigh hlow).decoded :=
      convertSurrogatePair_eq_utf8Of hhigh hlow
    exact ⟨iff_of_true hsame trivial, (congrArg List.length hsame).le⟩

end StringCharacter

/-- What the characters of a string should add to its value. -/
def decodedOf (cs : List StringCharacter) : List UInt8 := cs.flatMap StringCharacter.decoded

/-- **The value of a string** is what it should be if what each character adds is. -/
theorem valueOf_eq_decodedOf_iff (cs : List StringCharacter) :
    (valueOf cs = decodedOf cs ↔ ∀ c ∈ cs, c.IsDecoded) ∧ (valueOf cs).length ≤ (decodedOf cs).length := by
  induction cs with
  | nil => exact ⟨iff_of_true rfl (List.forall_mem_nil _), le_refl _⟩
  | cons c cs ih =>
    obtain ⟨hiff, hle⟩ := ih
    obtain ⟨hiff', hle'⟩ := c.value_eq_decoded_iff
    have hvalue : valueOf (c :: cs) = c.value ++ valueOf cs := rfl
    have hdecoded : decodedOf (c :: cs) = c.decoded ++ decodedOf cs := rfl
    rw [hvalue, hdecoded, List.forall_mem_cons, ← hiff, ← hiff', List.length_append, List.length_append]
    refine ⟨⟨fun hsame => ?_, fun hsame => by rw [hsame.1, hsame.2]⟩, Nat.add_le_add hle' hle⟩
    -- no character makes up for another
    have hlength := congrArg List.length hsame
    rw [List.length_append, List.length_append] at hlength
    exact List.append_inj hsame (by omega)

/-! ## Tokens -/

/-- **Which literals are decoded**: those whose escape sequences outside the surrogate pairs are those of
ASCII characters. Each of their characters adds what it should. -/
theorem Lexes.readsDecoded_iff {l : JsonLexer} {whitespace rest : List UInt8} {cs : List StringCharacter}
    (h : Lexes l (whitespace ++ (0x22 :: spellingOf cs ++ [0x22]) ++ rest))
    (hwhitespace : IsWhitespace whitespace) :
    (∃ l', JsonLexer.nextToken l = (.ok (some (.string (decodedOf cs))), l') ∧ Lexes l' rest) ↔
      ∀ c ∈ cs, c.IsDecoded := by
  obtain ⟨l', hnext, hlexes⟩ := h.nextToken_of_spelledBy hwhitespace (.string cs) trivial
  rw [← (valueOf_eq_decodedOf_iff cs).1]
  constructor
  · rintro ⟨l'', hnext', -⟩
    rw [hnext] at hnext'
    exact JsonToken.string.inj (Option.some.inj (Except.ok.inj (Prod.mk.inj hnext').1))
  · intro hsame
    exact ⟨l', hsame ▸ hnext, hlexes⟩

/-- The sequence of a code point below 16. -/
def lowSequence (digit : UInt8) (h : isHexCharacter digit = true) : HexSequence :=
  ⟨[0x30, 0x30, 0x30, digit], rfl, List.forall_mem_cons.mpr ⟨rfl, List.forall_mem_cons.mpr ⟨rfl,
    List.forall_mem_cons.mpr ⟨rfl, List.forall_mem_singleton.mpr h⟩⟩⟩⟩

/-- A line feed as an escape sequence. -/
theorem readsDecoded_lineFeed :
    let cs : List StringCharacter :=
      [.unescaped 0x61 (by decide) (by decide) (by decide), .unicode (lowSequence 0x61 rfl) rfl rfl]
    ∃ l', JsonLexer.nextToken (.new (0x22 :: spellingOf cs ++ [0x22])) =
      (.ok (some (.string [0x61, 0x0A])), l') ∧ Lexes l' [] := by
  intro cs
  have hlexes : Lexes (.new (0x22 :: spellingOf cs ++ [0x22]))
      ([] ++ (0x22 :: spellingOf cs ++ [0x22]) ++ []) := lexes_new _
  refine (hlexes.readsDecoded_iff (List.forall_mem_nil _)).mpr ?_
  have hascii : (lowSequence 0x61 rfl).toNat < 0x80 := by decide
  exact List.forall_mem_cons.mpr ⟨trivial, List.forall_mem_singleton.mpr hascii⟩

/-- An umlaut as an escape sequence adds one byte. -/
theorem not_readsDecoded_umlaut :
    ∃ cs : List StringCharacter,
      0x22 :: spellingOf cs ++ [0x22] = [0x22, 0x5C, 0x75, 0x30, 0x30, 0x65, 0x34, 0x22] ∧
      decodedOf cs = [0xC3, 0xA4] ∧
      (JsonLexer.nextToken (.new (0x22 :: spellingOf cs ++ [0x22]))).1 = .ok (some (.string [0xE4])) ∧
      ¬ ∃ l', JsonLexer.nextToken (.new (0x22 :: spellingOf cs ++ [0x22])) =
        (.ok (some (.string (decodedOf cs))), l') ∧ Lexes l' [] := by
  have hread : (JsonLexer.nextToken (.new [0x22, 0x5C, 0x75, 0x30, 0x30, 0x65, 0x34, 0x22])).1 =
      .ok (some (.string [0xE4])) := by decide
  refine ⟨[.unicode ⟨[0x30, 0x30, 0x65, 0x34], rfl, List.all_iff_forall_prop.mp (by decide)⟩ rfl rfl],
    rfl, by decide, hread, ?_⟩
  rintro ⟨l', hnext, -⟩
  have hsame := JsonToken.string.inj (Option.some.inj (Except.ok.inj
    (hread.symm.trans (congrArg Prod.fst hnext))))
  exact absurd hsame (by decide)

end OpenKit
