import OpenKit.Json.LiteralTokens

/-!
# Escape sequences

An escape sequence of a string stands for a character. One exception on the way is none of the lexer. It is
raised where the first half of a surrogate pair is followed by a reverse solidus that no `u` follows: the
second character behind the mark cannot be undone.

## Main definitions

* `StrayPair`: where that exception is raised
* `StartsWithCharacter`: bytes that spell a character, with one more behind it

## Main results

* `ends_tryParseLowSurrogateChar`: what is read behind a high surrogate
* `StringCharacter.append_inj`: characters are spelled in one way
* `ends_tryParseEscapeSequence`: the character that an escape sequence stands for, and the exceptions
-/

namespace OpenKit

open Thread JsonLexer ResettableReader

/-- A high surrogate, and a reverse solidus that no `u` follows. -/
def StrayPair (input : List UInt8) : Prop :=
  ∃ (high : HexSequence) (c : UInt8) (rest : List UInt8),
    isHighSurrogateCharacter high.toNat = true ∧ c ≠ 0x75 ∧
      input = high.characters ++ 0x5C :: c :: rest

/-- A Unicode sequence with a character behind it. -/
def StartsWithSequence (input : List UInt8) : Prop :=
  ∃ (s : HexSequence) (rest : List UInt8), rest ≠ [] ∧ input = s.characters ++ rest

section Sequences

variable {r : ResettableReader} {input : List UInt8}

/-- Sequences have one length. -/
theorem HexSequence.append_inj {s : HexSequence} {bs rest rest' : List UInt8}
    (hlength : bs.length = 4) (h : s.characters ++ rest = bs ++ rest') :
    s.characters = bs ∧ rest = rest' :=
  List.append_inj h (s.length_characters.trans hlength.symm)

/-- Four hexadecimal characters are needed. -/
theorem not_startsWithSequence_of_not_hex {sequence rest : List UInt8} {c : UInt8}
    (hlength : sequence.length < 4) (hc : ¬ isHexCharacter c = true)
    (hinput : input = sequence ++ c :: rest) : ¬ StartsWithSequence input := by
  rintro ⟨s, rest', -, hs⟩
  have hat : input[sequence.length]? = some c := by
    rw [hinput, List.getElem?_append_right (le_refl _), Nat.sub_self]
    rfl
  rw [hs, List.getElem?_append_left (by rw [s.length_characters]; exact hlength)] at hat
  exact hc (s.isHexCharacter c (List.mem_of_getElem? hat))

/-- There is no character behind the sequence. -/
theorem not_startsWithSequence_of_length_le (hlength : input.length ≤ 4) :
    ¬ StartsWithSequence input := by
  rintro ⟨s, rest, hrest, rfl⟩
  rw [List.length_append, s.length_characters] at hlength
  exact hrest (List.length_eq_zero_iff.mp (by omega))

/-- The loop of `readUnicodeEscapeSequence`: the characters read so far, and the next one. -/
structure InSequence (input : List UInt8) (state : Option UInt8 × List UInt8) (r : ResettableReader) :
    Prop where
  isHexCharacter : ∀ c ∈ state.2, isHexCharacter c = true
  length_le : state.2.length ≤ 4
  input_eq : input = state.2 ++ (state.1.toList ++ r.remaining)
  atEnd : state.1 = none → r.remaining = []
  afterMark : ∀ c, state.1 = some c → state.2 ≠ [] → r.AfterMark (c :: r.remaining) 1

/-- One character more. -/
theorem InSequence.next {c : UInt8} {sequence : List UInt8} {chr : Option UInt8}
    {r' : ResettableReader} (h : InSequence input (some c, sequence) r) (hlength : sequence.length < 4)
    (hc : JsonLexer.isHexCharacter c = true) (hremaining : r.remaining = chr.toList ++ r'.remaining)
    (hend : chr = none → r'.remaining = [])
    (hafter : ∀ d, chr = some d → r'.AfterMark (d :: r'.remaining) 1) :
    InSequence input (chr, sequence ++ [c]) r' := by
  refine ⟨List.forall_mem_append.mpr ⟨h.isHexCharacter, List.forall_mem_singleton.mpr hc⟩, ?_, ?_, hend,
    fun d hd _ => hafter d hd⟩
  · rw [List.length_append]
    exact hlength
  · rw [h.input_eq, hremaining, List.append_assoc]
    rfl

/-- **A Unicode sequence** is read if there is one, with a character behind it. -/
theorem ends_readUnicodeEscapeSequence (hremaining : r.remaining = input) :
    Program.Ends (fun sequence r' => r'.remaining ≠ [] ∧
        ∃ s : HexSequence, s.characters = sequence ∧ input = sequence ++ r'.remaining)
      (fun e _ => IsLexerException e ∧ ¬ StartsWithSequence input) readUnicodeEscapeSequence r := by
  have hstart : InSequence input (r.remaining.head?, []) r.readByte.2 := by
    refine ⟨List.forall_mem_nil _, Nat.zero_le _, ?_, ?_, fun _ _ h => absurd rfl h⟩
    · rw [remaining_readByte, hremaining]
      cases input <;> rfl
    · intro hnone
      rw [remaining_readByte, List.head?_eq_none_iff.mp hnone]
      rfl
  have hloop : Program.Ends (fun state t => InSequence input state t ∧
      (∀ c, state.1 = some c → state.2.length = 4))
      (fun e _ => IsLexerException e ∧ ¬ StartsWithSequence input)
      (Program.loop .outOfRounds readUnicodeCharacter (numUnicodeCharacters + 1)
        (r.readByte.1, [])) r.readByte.2 := by
    rw [readByte_fst]
    refine Program.ends_loop (J := InSequence input) (fun state _ => 4 - state.2.length)
      (fun state t ht => ?_) hstart
      (Nat.lt_succ_of_le (Nat.sub_le _ _))
    obtain ⟨nextChar, sequence⟩ := state
    cases nextChar with
    | none => exact ⟨ht, nofun⟩
    | some c =>
      show Program.Ends _ _ (ite _ (ite _ _ _) _) t
      split
      next hlength =>
        split
        next hc =>
          have hvariant : 4 - (sequence ++ [c]).length < 4 - sequence.length := by
            rw [List.length_append]
            exact Nat.sub_succ_lt_self _ _ hlength
          refine ends_mark_read rfl (fun hnil t' ht' _ _ => ?_) fun b rest hcons t' ht' hafter => ?_
          · refine ⟨ht.next hlength hc ?_ (fun _ => ht') nofun, hvariant⟩
            rw [hnil, ht']
            rfl
          · refine ⟨ht.next hlength hc ?_ nofun fun d hd => ?_, hvariant⟩
            · rw [hcons, ht']
              rfl
            · rw [← Option.some.inj hd, ht']
              exact hafter
        next hc =>
          have hinput : input = sequence ++ c :: t.remaining := ht.input_eq
          exact ⟨⟨_, rfl⟩, not_startsWithSequence_of_not_hex hlength hc hinput⟩
      next hlength =>
        exact ⟨ht, fun _ _ => le_antisymm ht.length_le (Nat.le_of_not_lt hlength)⟩
  refine Program.Ends.bind (?_ : Program.Ends _ _ read r)
  refine Program.Ends.bind (hloop.mono (fun state t ht => ?_) fun _ _ => id)
  obtain ⟨⟨hhex, hlength, hinput, hend, hafter⟩, hfour⟩ := ht
  obtain ⟨nextChar, sequence⟩ := state
  cases nextChar with
  | none =>
    refine ⟨⟨_, rfl⟩, not_startsWithSequence_of_length_le ?_⟩
    rw [hinput, hend rfl]
    simpa using hlength
  | some c =>
    have hmarked := hafter c rfl (List.ne_nil_of_length_eq_add_one (hfour c rfl))
    refine Program.Ends.bind ((ends_reset_of_one hmarked).mono (fun _ t' ht' => ?_) fun _ _ =>
      False.elim)
    refine ⟨by rw [ht']; exact List.cons_ne_nil _ _, ⟨sequence, hfour c rfl, hhex⟩, rfl, ?_⟩
    rw [ht']
    exact hinput

/-- A reverse solidus, a `u` and a Unicode sequence. -/
def StartsWithEscapedSequence (input : List UInt8) : Prop :=
  ∃ rest, StartsWithSequence rest ∧ input = 0x5C :: 0x75 :: rest

/-- A reverse solidus that no `u` follows. -/
def StartsWithOtherEscape (input : List UInt8) : Prop :=
  ∃ c rest, c ≠ 0x75 ∧ input = 0x5C :: c :: rest

theorem not_startsWithEscape_nil :
    ¬ StartsWithEscapedSequence [] ∧ ¬ StartsWithOtherEscape [] :=
  ⟨fun ⟨_, _, h⟩ => List.cons_ne_nil _ _ h.symm, fun ⟨_, _, _, h⟩ => List.cons_ne_nil _ _ h.symm⟩

theorem not_startsWithEscape_of_ne {b : UInt8} {rest : List UInt8} (hb : b ≠ 0x5C) :
    ¬ StartsWithEscapedSequence (b :: rest) ∧ ¬ StartsWithOtherEscape (b :: rest) := by
  refine ⟨?_, ?_⟩
  · rintro ⟨_, _, h⟩
    exact hb (List.cons.inj h).1
  · rintro ⟨_, _, _, h⟩
    exact hb (List.cons.inj h).1

theorem not_startsWithEscape_singleton :
    ¬ StartsWithEscapedSequence [0x5C] ∧ ¬ StartsWithOtherEscape [0x5C] := by
  refine ⟨?_, ?_⟩
  · rintro ⟨_, _, h⟩
    exact List.cons_ne_nil _ _ (List.cons.inj h).2.symm
  · rintro ⟨_, _, _, h⟩
    exact List.cons_ne_nil _ _ (List.cons.inj h).2.symm

/-- **The second half of a surrogate pair**: the reader goes back one byte, and cannot go back two. -/
theorem ends_tryParseLowSurrogateChar (hremaining : r.remaining = input) :
    Program.Ends (fun low r' => match low with
        | some n => r'.remaining ≠ [] ∧ ∃ s : HexSequence, n = s.toNat ∧
            input = 0x5C :: 0x75 :: (s.characters ++ r'.remaining)
        | none => ¬ StartsWithEscapedSequence input ∧ ¬ StartsWithOtherEscape input)
      (fun e _ => (IsLexerException e ∧ ¬ StartsWithEscapedSequence input ∧
          ¬ StartsWithOtherEscape input) ∨ (IsLogicError e ∧ StartsWithOtherEscape input))
      tryParseLowSurrogateChar r := by
  refine ends_mark_read hremaining (fun hnil t ht hmarked hfailed => ?_)
    fun b rest hcons t ht hafter => ?_
  · rw [hnil]
    refine Program.Ends.bind ((ends_reset_of_failed hmarked hfailed).mono (fun _ _ _ => ?_)
      fun _ _ => False.elim)
    exact not_startsWithEscape_nil
  · rw [hcons]
    by_cases hb : b = 0x5C
    · subst hb
      rw [if_pos rfl]
      refine Program.Ends.bind ?_
      show Program.Ends _ _ (if t.readByte.1 = some 0x75 then _ else _) t.readByte.2
      rw [readByte_fst, ht]
      have hrest := remaining_readByte t
      rw [ht] at hrest
      cases rest with
      | nil =>
        -- the stream has failed, and `reset` does nothing
        refine Program.Ends.bind ((ends_reset_of_failed hafter.toMarkedForOne.readByte
          (stream_readByte_nil ht)).mono (fun _ _ _ => ?_) fun _ _ => False.elim)
        exact not_startsWithEscape_singleton
      | cons c rest =>
        have htwo := hafter.readByte (by rw [ht]; exact List.cons_ne_nil _ _)
        by_cases hc : c = 0x75
        · subst hc
          rw [List.head?_cons, if_pos rfl]
          have hother : ¬ StartsWithOtherEscape (0x5C :: 0x75 :: rest) := by
            rintro ⟨c, _, hc, h⟩
            exact hc (List.cons.inj (List.cons.inj h).2).1.symm
          refine Program.Ends.bind ((ends_readUnicodeEscapeSequence hrest).mono
            (fun sequence t' ht' => ?_) fun e _ he => .inl ⟨he.1, ?_, hother⟩)
          · obtain ⟨hne, s, rfl, hinput⟩ := ht'
            exact ⟨hne, s, rfl, congrArg _ (congrArg _ hinput)⟩
          · rintro ⟨_, hsequence, h⟩
            rw [← (List.cons.inj (List.cons.inj h).2).2] at hsequence
            exact he.2 hsequence
        · rw [List.head?_cons, if_neg fun h => hc (Option.some.inj h)]
          refine Program.Ends.bind ((ends_reset_of_two htwo).mono (fun _ _ => False.elim)
            fun e _ he => .inr ⟨he, c, rest, hc, rfl⟩)
    · rw [if_neg fun h => hb (Option.some.inj h)]
      refine Program.Ends.bind ((ends_reset_of_one hafter).mono (fun _ _ _ => ?_)
        fun _ _ => False.elim)
      exact not_startsWithEscape_of_ne hb

end Sequences

/-! ## Characters -/

/-- A character of a string with a byte behind it. -/
def StartsWithCharacter (bytes : List UInt8) : Prop :=
  ∃ (c : StringCharacter) (rest : List UInt8), rest ≠ [] ∧ bytes = c.spelling ++ rest

/-- An escape sequence that raises an exception which is none of the lexer. -/
def StartsWithStrayPair (bytes : List UInt8) : Prop :=
  ∃ rest, StrayPair rest ∧ bytes = 0x5C :: 0x75 :: rest

/-- The characters that can be escaped stand for one byte each, and `u` is not among them. -/
theorem escapes_functional {character value value' : UInt8} (h : (character, value) ∈ escapes)
    (h' : (character, value') ∈ escapes) : value = value' := by
  have hall : (escapes.all fun p => escapes.all fun q => p.1 = q.1 → p.2 = q.2) = true := by decide
  have hsame := List.all_eq_true.mp (List.all_eq_true.mp hall _ h) _ h'
  exact of_decide_eq_true hsame rfl

theorem ne_u_of_mem_escapes {character value : UInt8} (h : (character, value) ∈ escapes) :
    character ≠ 0x75 := by
  have hall : ∀ p ∈ escapes, p.1 ≠ 0x75 := List.all_iff_forall_prop.mp (by decide)
  exact hall _ h

namespace StringCharacter

theorem spelling_unicode_append {s : HexSequence} {hhigh hlow} (rest : List UInt8) :
    (unicode s hhigh hlow).spelling ++ rest = 0x5C :: 0x75 :: (s.characters ++ rest) := rfl

theorem spelling_surrogatePair_append {high low : HexSequence} {hhigh hlow} (rest : List UInt8) :
    (surrogatePair high low hhigh hlow).spelling ++ rest =
      0x5C :: 0x75 :: (high.characters ++ 0x5C :: 0x75 :: (low.characters ++ rest)) :=
  congrArg (0x5C :: 0x75 :: ·) (List.append_assoc _ _ _)

/-- **Characters are spelled in one way.** -/
theorem append_inj {c c' : StringCharacter} {rest rest' : List UInt8}
    (h : c.spelling ++ rest = c'.spelling ++ rest') : c.value = c'.value ∧ rest = rest' := by
  cases c with
  | unescaped b _ _ hsolidus =>
    cases c' with
    | unescaped b' _ _ _ =>
      obtain ⟨rfl, hrest⟩ := List.cons.inj h
      exact ⟨rfl, hrest⟩
    | escaped character value hescape => exact absurd (List.cons.inj h).1 hsolidus
    | unicode s _ _ => exact absurd (List.cons.inj h).1 hsolidus
    | surrogatePair high low _ _ => exact absurd (List.cons.inj h).1 hsolidus
  | escaped character value hescape =>
    have hu := ne_u_of_mem_escapes hescape
    cases c' with
    | unescaped b' _ _ hsolidus => exact absurd (List.cons.inj h).1.symm hsolidus
    | escaped character' value' hescape' =>
      obtain ⟨rfl, hrest⟩ := List.cons.inj (List.cons.inj h).2
      exact ⟨congrArg (fun v => [v]) (escapes_functional hescape hescape'), hrest⟩
    | unicode s _ _ => exact absurd (List.cons.inj (List.cons.inj h).2).1 hu
    | surrogatePair high low _ _ => exact absurd (List.cons.inj (List.cons.inj h).2).1 hu
  | unicode s hhigh _ =>
    cases c' with
    | unescaped b' _ _ hsolidus => exact absurd (List.cons.inj h).1.symm hsolidus
    | escaped character' value' hescape' =>
      exact absurd (List.cons.inj (List.cons.inj h).2).1.symm (ne_u_of_mem_escapes hescape')
    | unicode s' _ _ =>
      rw [spelling_unicode_append, spelling_unicode_append] at h
      have htail := (List.cons.inj (List.cons.inj h).2).2
      obtain ⟨hs, hrest⟩ := HexSequence.append_inj s'.length_characters htail
      exact ⟨congrArg (fun cs => bytesOfCharacter (parseHex cs)) hs, hrest⟩
    | surrogatePair high low hhigh' _ =>
      rw [spelling_unicode_append, spelling_surrogatePair_append] at h
      have htail := (List.cons.inj (List.cons.inj h).2).2
      obtain ⟨hs, -⟩ := HexSequence.append_inj high.length_characters htail
      rw [HexSequence.toNat, hs] at hhigh
      exact absurd (hhigh.symm.trans hhigh') Bool.false_ne_true
  | surrogatePair high low hhigh _ =>
    cases c' with
    | unescaped b' _ _ hsolidus => exact absurd (List.cons.inj h).1.symm hsolidus
    | escaped character' value' hescape' =>
      exact absurd (List.cons.inj (List.cons.inj h).2).1.symm (ne_u_of_mem_escapes hescape')
    | unicode s' hhigh' _ =>
      rw [spelling_surrogatePair_append, spelling_unicode_append] at h
      have htail := (List.cons.inj (List.cons.inj h).2).2
      obtain ⟨hs, -⟩ := HexSequence.append_inj s'.length_characters htail
      rw [HexSequence.toNat, hs] at hhigh
      exact absurd (hhigh'.symm.trans hhigh) Bool.false_ne_true
    | surrogatePair high' low' _ _ =>
      rw [spelling_surrogatePair_append, spelling_surrogatePair_append] at h
      have htail := (List.cons.inj (List.cons.inj h).2).2
      obtain ⟨hhighs, htail⟩ := HexSequence.append_inj high'.length_characters htail
      obtain ⟨hlows, hrest⟩ := HexSequence.append_inj low'.length_characters
        (List.cons.inj (List.cons.inj htail).2).2
      refine ⟨?_, hrest⟩
      show convertSurrogatePair (parseHex _) (parseHex _) = convertSurrogatePair _ _
      rw [hhighs, hlows]
      rfl

end StringCharacter

section Characters

variable {r : ResettableReader} {input : List UInt8}

/-- A character that starts with a sequence is the sequence, or a pair with it. -/
theorem cases_of_startsWithCharacter {s : HexSequence} {rest : List UInt8}
    (h : StartsWithCharacter (0x5C :: 0x75 :: (s.characters ++ rest))) :
    (isHighSurrogateCharacter s.toNat = false ∧ isLowSurrogateCharacter s.toNat = false) ∨
      (isHighSurrogateCharacter s.toNat = true ∧
        ∃ (low : HexSequence) (rest' : List UInt8), isLowSurrogateCharacter low.toNat = true ∧
          rest' ≠ [] ∧ rest = 0x5C :: 0x75 :: (low.characters ++ rest')) := by
  obtain ⟨c, rest', hne, h⟩ := h
  cases c with
  | unescaped b _ _ hsolidus => exact absurd (List.cons.inj h).1.symm hsolidus
  | escaped character value hescape =>
    exact absurd (List.cons.inj (List.cons.inj h).2).1.symm (ne_u_of_mem_escapes hescape)
  | unicode s' hhigh hlow =>
    rw [StringCharacter.spelling_unicode_append] at h
    obtain ⟨hs, -⟩ := HexSequence.append_inj s'.length_characters (List.cons.inj (List.cons.inj h).2).2
    rw [HexSequence.toNat, ← hs] at hhigh hlow
    exact .inl ⟨hhigh, hlow⟩
  | surrogatePair high low hhigh hlow =>
    rw [StringCharacter.spelling_surrogatePair_append] at h
    obtain ⟨hs, hrest⟩ := HexSequence.append_inj high.length_characters
      (List.cons.inj (List.cons.inj h).2).2
    rw [HexSequence.toNat, ← hs] at hhigh
    exact .inr ⟨hhigh, low, rest', hlow, hne, hrest⟩

/-- A character that is spelled with a reverse solidus is an escaped one, or starts with a sequence. -/
theorem cases_of_solidus {c : StringCharacter} {rest : List UInt8}
    (h : 0x5C :: input = c.spelling ++ rest) :
    (∃ character value, (character, value) ∈ escapes ∧ input = character :: rest) ∨
      ∃ (s : HexSequence) (rest' : List UInt8), input = 0x75 :: (s.characters ++ rest') ∧
        (rest ≠ [] → rest' ≠ []) := by
  cases c with
  | unescaped b _ _ hsolidus => exact absurd (List.cons.inj h).1.symm hsolidus
  | escaped character value hescape => exact .inl ⟨character, value, hescape, (List.cons.inj h).2⟩
  | unicode s _ _ => exact .inr ⟨s, rest, (List.cons.inj h).2, id⟩
  | surrogatePair high low _ _ =>
    rw [StringCharacter.spelling_surrogatePair_append] at h
    exact .inr ⟨high, _, (List.cons.inj h).2, fun _ => List.cons_ne_nil _ _⟩

theorem startsWithSequence_of_startsWithCharacter
    (h : StartsWithCharacter (0x5C :: 0x75 :: input)) : StartsWithSequence input := by
  obtain ⟨c, rest, hne, h⟩ := h
  rcases cases_of_solidus h with ⟨character, value, hescape, h⟩ | ⟨s, rest', h, hrest⟩
  · exact absurd (List.cons.inj h).1.symm (ne_u_of_mem_escapes hescape)
  · exact ⟨s, rest', hrest hne, (List.cons.inj h).2⟩

theorem StrayPair.startsWithSequence (h : StrayPair input) : StartsWithSequence input := by
  obtain ⟨high, c, rest, -, -, rfl⟩ := h
  exact ⟨high, _, List.cons_ne_nil _ _, rfl⟩

/-- A pair is stray by its first half and what follows. -/
theorem strayPair_append_iff {s : HexSequence} {rest : List UInt8} :
    StrayPair (s.characters ++ rest) ↔
      isHighSurrogateCharacter s.toNat = true ∧ StartsWithOtherEscape rest := by
  constructor
  · rintro ⟨high, c, rest', hhigh, hc, h⟩
    obtain ⟨hs, hrest⟩ := HexSequence.append_inj high.length_characters h
    rw [HexSequence.toNat, ← hs] at hhigh
    exact ⟨hhigh, c, rest', hc, hrest⟩
  · rintro ⟨hhigh, c, rest', hc, rfl⟩
    exact ⟨s, c, rest', hhigh, hc, rfl⟩

/-- **An escaped sequence** stands for a character, or raises one of the two exceptions. -/
theorem ends_tryParseUnicodeEscapeSequence {literal : List UInt8} (hremaining : r.remaining = input) :
    Program.Ends (fun literal' r' => ∃ c : StringCharacter, literal' = literal ++ c.value ∧
        r'.remaining ≠ [] ∧ 0x5C :: 0x75 :: input = c.spelling ++ r'.remaining)
      (fun e _ => (IsLexerException e ∧ ¬ StartsWithCharacter (0x5C :: 0x75 :: input) ∧
        ¬ StrayPair input) ∨ (IsLogicError e ∧ StrayPair input))
      (tryParseUnicodeEscapeSequence literal) r := by
  refine Program.Ends.bind ((ends_readUnicodeEscapeSequence hremaining).mono
    (fun sequence t ht => ?_) fun e _ he => .inl ⟨he.1, fun h => he.2 ?_, fun h => he.2 ?_⟩)
  rotate_left
  · exact startsWithSequence_of_startsWithCharacter h
  · exact h.startsWithSequence
  obtain ⟨hne, s, rfl, rfl⟩ := ht
  show Program.Ends _ _ (ite (isHighSurrogateCharacter s.toNat = true) _
    (ite (isLowSurrogateCharacter s.toNat = true) _ _)) t
  split
  next hhigh =>
    have hpair : ∀ {rest}, StartsWithCharacter (0x5C :: 0x75 :: (s.characters ++ rest)) →
        ∃ (low : HexSequence) (rest' : List UInt8), isLowSurrogateCharacter low.toNat = true ∧
          rest' ≠ [] ∧ rest = 0x5C :: 0x75 :: (low.characters ++ rest') := fun h =>
      ((cases_of_startsWithCharacter h).resolve_left fun hs =>
        Bool.false_ne_true (hs.1.symm.trans hhigh)).2
    have hmissing : ¬ StartsWithEscapedSequence t.remaining → ¬ StartsWithOtherEscape t.remaining →
        ¬ StartsWithCharacter (0x5C :: 0x75 :: (s.characters ++ t.remaining)) ∧
          ¬ StrayPair (s.characters ++ t.remaining) := by
      intro hescaped hother
      refine ⟨fun h => hescaped ?_, fun h => hother (strayPair_append_iff.mp h).2⟩
      obtain ⟨low, rest', -, hne', hrest⟩ := hpair h
      exact ⟨_, ⟨low, rest', hne', rfl⟩, hrest⟩
    refine Program.Ends.bind ((ends_tryParseLowSurrogateChar rfl).mono (fun low t' ht' => ?_)
      fun e _ he => ?_)
    · cases low with
      | none => exact .inl ⟨⟨_, rfl⟩, hmissing ht'.1 ht'.2⟩
      | some n =>
        obtain ⟨hne', low, rfl, hrest⟩ := ht'
        show Program.Ends _ _ (ite (isLowSurrogateCharacter low.toNat = true) _ _) t'
        split
        next hlow =>
          refine ⟨.surrogatePair s low hhigh hlow, rfl, hne', ?_⟩
          rw [StringCharacter.spelling_surrogatePair_append, hrest]
        next hlow =>
          refine .inl ⟨⟨_, rfl⟩, fun h => hlow ?_, fun h => ?_⟩
          · obtain ⟨low', rest', hlow', -, hrest'⟩ := hpair h
            rw [hrest] at hrest'
            obtain ⟨hs, -⟩ := HexSequence.append_inj low'.length_characters
              (List.cons.inj (List.cons.inj hrest').2).2
            rw [HexSequence.toNat, hs]
            exact hlow'
          · obtain ⟨c, _, hc, hrest'⟩ := (strayPair_append_iff.mp h).2
            rw [hrest] at hrest'
            exact hc (List.cons.inj (List.cons.inj hrest').2).1.symm
    · rcases he with ⟨he, hescaped, hother⟩ | ⟨he, hother⟩
      · exact .inl ⟨he, hmissing hescaped hother⟩
      · exact .inr ⟨he, strayPair_append_iff.mpr ⟨hhigh, hother⟩⟩
  next hhigh =>
    have hnostray : ¬ StrayPair (s.characters ++ t.remaining) := fun h =>
      hhigh (strayPair_append_iff.mp h).1
    split
    next hlow =>
      refine .inl ⟨⟨_, rfl⟩, fun h => ?_, hnostray⟩
      rcases cases_of_startsWithCharacter h with ⟨-, hlow'⟩ | ⟨hhigh', -⟩
      · exact Bool.false_ne_true (hlow'.symm.trans hlow)
      · exact hhigh hhigh'
    next hlow =>
      exact ⟨.unicode s (Bool.eq_false_iff.mpr hhigh) (Bool.eq_false_iff.mpr hlow), rfl, hne, rfl⟩

/-- **An escape sequence** stands for a character, or raises one of the two exceptions. -/
theorem ends_tryParseEscapeSequence {literal : List UInt8} (hremaining : r.remaining = input) :
    Program.Ends (fun literal' r' => ∃ c : StringCharacter, literal' = literal ++ c.value ∧
        0x5C :: input = c.spelling ++ r'.remaining)
      (fun e _ => (IsLexerException e ∧ ¬ StartsWithCharacter (0x5C :: input) ∧
        ¬ StartsWithStrayPair (0x5C :: input)) ∨
          (IsLogicError e ∧ StartsWithStrayPair (0x5C :: input)))
      (tryParseEscapeSequence literal) r := by
  refine Program.Ends.bind ((ends_read hremaining).mono (fun chr t ht => ?_) fun _ _ => False.elim)
  obtain ⟨rfl, ht⟩ := ht
  cases input with
  | nil =>
    refine .inl ⟨⟨_, rfl⟩, ?_, ?_⟩
    · rintro ⟨c, rest, -, h⟩
      rcases cases_of_solidus h with ⟨_, _, -, h⟩ | ⟨_, _, h, -⟩
      · exact List.cons_ne_nil _ _ h.symm
      · exact List.cons_ne_nil _ _ h.symm
    · rintro ⟨_, -, h⟩
      exact List.cons_ne_nil _ _ (List.cons.inj h).2.symm
  | cons b rest =>
    rw [List.head?_cons]
    dsimp only
    cases hlookup : escapes.lookup b with
    | some value =>
      obtain ⟨_, _, hescapes, -⟩ := List.lookup_eq_some_iff.mp hlookup
      have hmem : (b, value) ∈ escapes := by
        rw [hescapes]
        exact List.mem_append_right _ List.mem_cons_self
      exact ⟨.escaped b value hmem, rfl, congrArg (0x5C :: b :: ·) ht.symm⟩
    | none =>
      show Program.Ends _ _ (ite _ _ _) t
      split
      next hu =>
        subst hu
        refine (ends_tryParseUnicodeEscapeSequence ht).mono (fun literal' t' ht' => ?_) fun e _ he => ?_
        · obtain ⟨c, hliteral, -, hinput⟩ := ht'
          exact ⟨c, hliteral, hinput⟩
        · rcases he with ⟨he, hchar, hstray⟩ | ⟨he, hstray⟩
          · refine .inl ⟨he, hchar, ?_⟩
            rintro ⟨rest', hrest', h⟩
            rw [(List.cons.inj (List.cons.inj h).2).2] at hstray
            exact hstray hrest'
          · exact .inr ⟨he, _, hstray, rfl⟩
      next hu =>
        refine .inl ⟨⟨_, rfl⟩, ?_, ?_⟩
        · rintro ⟨c, rest', -, h⟩
          rcases cases_of_solidus h with ⟨character, value, hescape, h⟩ | ⟨_, _, h, -⟩
          · have hnot := List.lookup_eq_none_iff.mp hlookup _ hescape
            rw [(List.cons.inj h).1, bne_self_eq_false] at hnot
            cases hnot
          · exact hu (List.cons.inj h).1
        · rintro ⟨_, -, h⟩
          exact hu (List.cons.inj (List.cons.inj h).2).1

end Characters

end OpenKit
