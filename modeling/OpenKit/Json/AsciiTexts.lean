import OpenKit.Core.BrokenStrings
import OpenKit.Json.JsonTrees

/-!
# JSON texts of ASCII characters

The text of a value consists of ASCII characters if the strings in it do. So the string of the text is the
text itself.

## Main definitions

* `JsonTree.AsciiStrings`: a value whose strings and names consist of ASCII characters

## Main results

* `JsonTree.AsciiStrings.forall_isAsciiCharacter`: its text consists of them
-/

namespace OpenKit

open UTF8String JsonLexer

/-! ## Tokens -/

section Tokens

variable {token : JsonToken} {spelling bytes : List UInt8} {tokens : List JsonToken}

/-- Some ASCII characters are named by a decidable property. -/
theorem isAsciiCharacter_of {p : UInt8 → Bool}
    (h : ∀ n < 256, p (UInt8.ofNat n) = true → IsAsciiCharacter (UInt8.ofNat n)) {b : UInt8}
    (hb : p b = true) : IsAsciiCharacter b := by
  have hall : ∀ b : UInt8, p b = true → IsAsciiCharacter b := forall_byte h
  exact hall b hb

theorem isAsciiCharacter_of_isDigit {b : UInt8} (h : isDigit b = true) : IsAsciiCharacter b :=
  isAsciiCharacter_of (by decide +kernel) h

theorem isAsciiCharacter_of_isHexCharacter {b : UInt8} (h : isHexCharacter b = true) :
    IsAsciiCharacter b := isAsciiCharacter_of (by decide +kernel) h

theorem isAsciiCharacter_of_isJsonWhitespaceCharacter {b : UInt8}
    (h : isJsonWhitespaceCharacter b = true) : IsAsciiCharacter b :=
  isAsciiCharacter_of (by decide +kernel) h

/-- A literal without other characters. -/
theorem forall_isAsciiCharacter_of_all {bytes : List UInt8}
    (h : (bytes.all fun b => decide (IsAsciiCharacter b)) = true) : ∀ b ∈ bytes, IsAsciiCharacter b :=
  fun b hb => of_decide_eq_true (List.all_eq_true.mp h b hb)

/-- **A character of a string** is spelled with ASCII characters if it stands for them. -/
theorem StringCharacter.isAscii_spelling (c : StringCharacter)
    (h : ∀ b ∈ c.value, IsAsciiCharacter b) : ∀ b ∈ c.spelling, IsAsciiCharacter b := by
  have hsequence (s : HexSequence) : ∀ b ∈ 0x5C :: 0x75 :: s.characters, IsAsciiCharacter b :=
    List.forall_mem_cons.mpr ⟨by decide, List.forall_mem_cons.mpr ⟨by decide, fun b hb =>
      isAsciiCharacter_of_isHexCharacter (s.isHexCharacter b hb)⟩⟩
  cases c with
  | unescaped b _ _ _ => exact h
  | escaped character value hmem =>
    have hall : ∀ p ∈ escapes, IsAsciiCharacter p.1 := fun p hp =>
      of_decide_eq_true (List.all_eq_true.mp
        (by decide : (escapes.all fun p => decide (IsAsciiCharacter p.1)) = true) p hp)
    exact List.forall_mem_cons.mpr ⟨by decide, List.forall_mem_singleton.mpr (hall _ hmem)⟩
  | unicode s _ _ => exact hsequence s
  | surrogatePair high low _ _ =>
    exact List.forall_mem_append.mpr ⟨hsequence high, hsequence low⟩

/-- Digits and the further characters of a number. -/
theorem isAscii_of_isNumber {literal : List UInt8} (h : IsNumber literal) :
    ∀ b ∈ literal, IsAsciiCharacter b := by
  have hdigits {ds : List UInt8} (hds : ∀ c ∈ ds, isDigit c = true) : ∀ b ∈ ds, IsAsciiCharacter b :=
    fun b hb => isAsciiCharacter_of_isDigit (hds b hb)
  obtain ⟨_, fraction, exponent, ⟨minus, integer, hminus, hinteger, rfl⟩, hfraction, hexponent, rfl⟩ := h
  refine List.forall_mem_append.mpr ⟨List.forall_mem_append.mpr
    ⟨List.forall_mem_append.mpr ⟨?_, ?_⟩, ?_⟩, ?_⟩
  · rcases hminus with rfl | rfl
    · exact List.forall_mem_nil _
    · exact List.forall_mem_singleton.mpr (by decide)
  · rcases hinteger with rfl | ⟨d, ds, rfl, -, hd, hds⟩
    · exact List.forall_mem_singleton.mpr (by decide)
    · exact hdigits (List.forall_mem_cons.mpr ⟨hd, hds⟩)
  · rcases hfraction with rfl | ⟨ds, ⟨-, hds⟩, rfl⟩
    · exact List.forall_mem_nil _
    · exact List.forall_mem_cons.mpr ⟨by decide, hdigits hds⟩
  · rcases hexponent with rfl | ⟨e, sign, ds, he, hsign, ⟨-, hds⟩, rfl⟩
    · exact List.forall_mem_nil _
    · refine List.forall_mem_cons.mpr ⟨?_, List.forall_mem_append.mpr ⟨?_, hdigits hds⟩⟩
      · rcases he with rfl | rfl <;> decide
      · rcases hsign with rfl | rfl | rfl
        · exact List.forall_mem_nil _
        · exact List.forall_mem_singleton.mpr (by decide)
        · exact List.forall_mem_singleton.mpr (by decide)

/-- **A token** is spelled with ASCII characters, unless it is a string with others. -/
theorem JsonToken.SpelledBy.isAscii (h : token.SpelledBy spelling)
    (hstring : ∀ value, token = .string value → ∀ b ∈ value, IsAsciiCharacter b) :
    ∀ b ∈ spelling, IsAsciiCharacter b := by
  cases h with
  | number h => exact isAscii_of_isNumber h
  | string cs =>
    have hvalue := hstring _ rfl
    refine List.forall_mem_cons.mpr ⟨by decide, List.forall_mem_append.mpr
      ⟨fun b hb => ?_, List.forall_mem_singleton.mpr (by decide)⟩⟩
    obtain ⟨c, hc, hb⟩ := List.mem_flatMap.mp hb
    exact c.isAscii_spelling (fun b hb => hvalue b (List.mem_flatMap.mpr ⟨c, hc, hb⟩)) b hb
  | _ => exact forall_isAsciiCharacter_of_all (by decide)

theorem SpelledAs.isAscii (h : SpelledAs tokens bytes)
    (hstrings : ∀ value, .string value ∈ tokens → ∀ b ∈ value, IsAsciiCharacter b) :
    ∀ b ∈ bytes, IsAsciiCharacter b := by
  induction h with
  | nil h => exact fun b hb => isAsciiCharacter_of_isJsonWhitespaceCharacter (h b hb)
  | cons hwhitespace hspelling _ ih =>
    refine List.forall_mem_append.mpr ⟨List.forall_mem_append.mpr ⟨fun b hb =>
      isAsciiCharacter_of_isJsonWhitespaceCharacter (hwhitespace b hb), ?_⟩, ?_⟩
    · exact hspelling.isAscii fun value heq => hstrings value (heq ▸ List.mem_cons_self)
    · exact ih fun value hvalue => hstrings value (List.mem_cons_of_mem _ hvalue)

end Tokens

/-! ## Values -/

namespace JsonTree

/-- All strings and names consist of ASCII characters. -/
def AsciiStrings (t : JsonTree) : Prop :=
  t.Everywhere fun t => match t with
    | .string value => ∀ b ∈ value, IsAsciiCharacter b
    | .object ms => ∀ m ∈ ms, ∀ b ∈ m.1, IsAsciiCharacter b
    | _ => True

/-- The strings among the tokens of elements are those of the elements. -/
theorem exists_of_mem_moreElementTokens {ts : List JsonTree} {value : List UInt8}
    (h : .string value ∈ moreElementTokens ts) : ∃ t ∈ ts, .string value ∈ t.tokens := by
  induction ts with
  | nil => cases h
  | cons t ts ih =>
    rcases List.mem_append.mp ((List.mem_cons.mp h).resolve_left (by simp)) with h | h
    · exact ⟨t, List.mem_cons_self, h⟩
    · obtain ⟨t', ht', hvalue⟩ := ih h
      exact ⟨t', List.mem_cons_of_mem _ ht', hvalue⟩

/-- Those among the tokens of members are the names and those of the values. -/
theorem exists_of_mem_moreMemberTokens {ms : List (List UInt8 × JsonTree)} {value : List UInt8}
    (h : .string value ∈ moreMemberTokens ms) : ∃ m ∈ ms, value = m.1 ∨ .string value ∈ m.2.tokens := by
  induction ms with
  | nil => cases h
  | cons m ms ih =>
    obtain ⟨key, t⟩ := m
    rcases List.mem_cons.mp ((List.mem_cons.mp h).resolve_left (by simp)) with hkey | h
    · exact ⟨_, List.mem_cons_self, .inl (JsonToken.string.inj hkey)⟩
    · rcases List.mem_append.mp ((List.mem_cons.mp h).resolve_left (by simp)) with h | h
      · exact ⟨_, List.mem_cons_self, .inr h⟩
      · obtain ⟨m, hm, hvalue⟩ := ih h
        exact ⟨m, List.mem_cons_of_mem _ hm, hvalue⟩

theorem AsciiStrings.of_mem_tokens {t : JsonTree} (h : t.AsciiStrings) {value : List UInt8}
    (hvalue : .string value ∈ t.tokens) : ∀ b ∈ value, IsAsciiCharacter b := by
  induction h with
  | null | boolean | number => cases List.mem_singleton.mp hvalue
  | string h => exact JsonToken.string.inj (List.mem_singleton.mp hvalue) ▸ h
  | @array ts _ _ ih =>
    cases ts with
    | nil => exact absurd hvalue (by simp [tokens])
    | cons t ts =>
      have hmem : .string value ∈ moreElementTokens (t :: ts) := by
        rw [moreElementTokens]
        rw [tokens] at hvalue
        rcases List.mem_append.mp ((List.mem_cons.mp hvalue).resolve_left (by simp)) with h | h
        · exact List.mem_cons_of_mem _ h
        · cases List.mem_singleton.mp h
      obtain ⟨t', ht', h⟩ := exists_of_mem_moreElementTokens hmem
      exact ih t' ht' h
  | @object ms hnames _ ih =>
    cases ms with
    | nil => exact absurd hvalue (by simp [tokens])
    | cons m ms =>
      obtain ⟨key, t⟩ := m
      have hmem : .string value ∈ moreMemberTokens ((key, t) :: ms) := by
        rw [moreMemberTokens]
        rw [tokens] at hvalue
        refine List.mem_cons_of_mem _ ?_
        rcases List.mem_cons.mp ((List.mem_cons.mp hvalue).resolve_left (by simp)) with hkey | h
        · exact List.mem_cons.mpr (.inl hkey)
        · refine List.mem_cons_of_mem _ (List.mem_cons_of_mem _ ?_)
          rcases List.mem_append.mp ((List.mem_cons.mp h).resolve_left (by simp)) with h | h
          · exact h
          · cases List.mem_singleton.mp h
      obtain ⟨m, hm, rfl | h⟩ := exists_of_mem_moreMemberTokens hmem
      · exact hnames m hm
      · exact ih m hm h

/-- **The text of a value** whose strings consist of ASCII characters consists of them. -/
theorem AsciiStrings.forall_isAsciiCharacter {t : JsonTree} {bytes : List UInt8} (h : t.AsciiStrings)
    (hspelled : SpelledAs t.tokens bytes) : ∀ b ∈ bytes, IsAsciiCharacter b :=
  hspelled.isAscii fun _ hvalue => h.of_mem_tokens hvalue

end JsonTree

end OpenKit
