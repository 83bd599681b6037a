import OpenKit.Json.EscapeSequences

/-!
# Strings

A string is read character by character. A character that is read is spelled by the bytes that were read,
and the bytes that spell a character are read as that character. One of the exceptions is none of the
lexer.

## Main definitions

* `StartsWithBody`: bytes that spell a string up to its end
* `StrayString`: where the exception is raised that is none of the lexer

## Main results

* `ends_tryParseStringToken`: the strings that are read, and the exceptions
* `ends_tryParseStringToken_of_spelling`: what spells a string is read as that string
* `ends_tryParseStringToken_of_stray`: the exception that is none of the lexer
-/

namespace OpenKit

open Thread JsonLexer ResettableReader

/-- The body of a string, and its end. -/
def StartsWithBody (bytes : List UInt8) : Prop :=
  ∃ (cs : List StringCharacter) (rest : List UInt8), bytes = spellingOf cs ++ 0x22 :: rest

/-- The body of a string with a stray pair behind some characters. -/
def StrayString (input : List UInt8) : Prop :=
  ∃ (cs : List StringCharacter) (rest : List UInt8), StrayPair rest ∧
    input = spellingOf cs ++ 0x5C :: 0x75 :: rest

section Strings

variable {r : ResettableReader} {input bytes : List UInt8}

theorem spellingOf_cons_append (c : StringCharacter) (cs : List StringCharacter) (rest : List UInt8) :
    spellingOf (c :: cs) ++ rest = c.spelling ++ (spellingOf cs ++ rest) := List.append_assoc _ _ _

theorem spellingOf_append (cs cs' : List StringCharacter) :
    spellingOf (cs ++ cs') = spellingOf cs ++ spellingOf cs' := List.flatMap_append

theorem valueOf_append (cs cs' : List StringCharacter) :
    valueOf (cs ++ cs') = valueOf cs ++ valueOf cs' := List.flatMap_append

/-- No character starts like the end of a string. -/
theorem StringCharacter.spelling_ne_quote {c : StringCharacter} {rest rest' : List UInt8} :
    c.spelling ++ rest ≠ 0x22 :: rest' := by
  intro h
  cases c with
  | unescaped b _ hquote _ => exact hquote (List.cons.inj h).1
  | escaped character value hescape =>
    exact absurd (List.cons.inj h).1 (by decide)
  | unicode s _ _ => exact absurd (List.cons.inj h).1 (by decide)
  | surrogatePair high low _ _ => exact absurd (List.cons.inj h).1 (by decide)

theorem StringCharacter.spelling_ne_nil (c : StringCharacter) : c.spelling ≠ [] := by
  cases c <;> exact List.cons_ne_nil _ _

/-- No character starts like a stray pair. -/
theorem StringCharacter.not_strayPair {c : StringCharacter} {rest stray : List UInt8}
    (hstray : StrayPair stray) : c.spelling ++ rest ≠ 0x5C :: 0x75 :: stray := by
  intro h
  obtain ⟨high, b, rest', hhigh, hb, rfl⟩ := hstray
  cases c with
  | unescaped b _ _ hsolidus => exact hsolidus (List.cons.inj h).1
  | escaped character value hescape =>
    exact ne_u_of_mem_escapes hescape (List.cons.inj (List.cons.inj h).2).1
  | unicode s hhigh' _ =>
    obtain ⟨hs, -⟩ := HexSequence.append_inj high.length_characters (List.cons.inj (List.cons.inj h).2).2
    rw [HexSequence.toNat, hs] at hhigh'
    exact Bool.false_ne_true (hhigh'.symm.trans hhigh)
  | surrogatePair high' low _ _ =>
    rw [StringCharacter.spelling_surrogatePair_append] at h
    obtain ⟨-, hrest⟩ := HexSequence.append_inj high.length_characters
      (List.cons.inj (List.cons.inj h).2).2
    exact hb (List.cons.inj (List.cons.inj hrest).2).1.symm

/-- Strings are spelled in one way. -/
theorem spellingOf_inj {cs cs' : List StringCharacter} {rest rest' : List UInt8}
    (h : spellingOf cs ++ 0x22 :: rest = spellingOf cs' ++ 0x22 :: rest') :
    valueOf cs = valueOf cs' ∧ rest = rest' := by
  induction cs generalizing cs' with
  | nil =>
    cases cs' with
    | nil => exact ⟨rfl, (List.cons.inj h).2⟩
    | cons c' cs' =>
      rw [spellingOf_cons_append] at h
      exact absurd h.symm StringCharacter.spelling_ne_quote
  | cons c cs ih =>
    cases cs' with
    | nil =>
      rw [spellingOf_cons_append] at h
      exact absurd h StringCharacter.spelling_ne_quote
    | cons c' cs' =>
      rw [spellingOf_cons_append, spellingOf_cons_append] at h
      obtain ⟨hvalue, h⟩ := StringCharacter.append_inj h
      obtain ⟨hvalues, hrest⟩ := ih h
      exact ⟨congrArg₂ (· ++ ·) hvalue hvalues, hrest⟩

/-- Behind some characters of a string stand the further ones. -/
theorem StartsWithBody.of_append {cs : List StringCharacter}
    (h : StartsWithBody (spellingOf cs ++ bytes)) : StartsWithBody bytes := by
  induction cs with
  | nil => exact h
  | cons c cs ih =>
    obtain ⟨cs', rest, h⟩ := h
    rw [spellingOf_cons_append] at h
    cases cs' with
    | nil => exact absurd h StringCharacter.spelling_ne_quote
    | cons c' cs' =>
      rw [spellingOf_cons_append] at h
      exact ih ⟨cs', rest, (StringCharacter.append_inj h).2⟩

/-- The end of a string is not stray. -/
theorem not_strayString_of_quote {rest : List UInt8} : ¬ StrayString (0x22 :: rest) := by
  rintro ⟨cs, rest', -, h⟩
  cases cs with
  | nil => exact absurd (List.cons.inj h).1 (by decide)
  | cons c cs =>
    rw [spellingOf_cons_append] at h
    exact StringCharacter.spelling_ne_quote h.symm

/-- Behind some characters in front of a stray pair it is stray as well. -/
theorem StrayString.of_append {cs : List StringCharacter}
    (h : StrayString (spellingOf cs ++ bytes)) : StrayString bytes := by
  induction cs with
  | nil => exact h
  | cons c cs ih =>
    obtain ⟨cs', rest, hstray, h⟩ := h
    rw [spellingOf_cons_append] at h
    cases cs' with
    | nil => exact absurd h (StringCharacter.not_strayPair hstray)
    | cons c' cs' =>
      rw [spellingOf_cons_append] at h
      exact ih ⟨cs', rest, hstray, (StringCharacter.append_inj h).2⟩

theorem StartsWithBody.cases (h : StartsWithBody bytes) :
    (∃ rest, bytes = 0x22 :: rest) ∨ StartsWithCharacter bytes := by
  obtain ⟨cs, rest, rfl⟩ := h
  cases cs with
  | nil => exact .inl ⟨rest, rfl⟩
  | cons c cs =>
    rw [spellingOf_cons_append]
    exact .inr ⟨c, _, List.append_ne_nil_of_right_ne_nil _ (List.cons_ne_nil _ _), rfl⟩

theorem StrayString.cases (h : StrayString bytes) :
    StartsWithStrayPair bytes ∨ StartsWithCharacter bytes := by
  obtain ⟨cs, rest, hstray, rfl⟩ := h
  cases cs with
  | nil => exact .inl ⟨rest, hstray, rfl⟩
  | cons c cs =>
    rw [spellingOf_cons_append]
    exact .inr ⟨c, _, List.append_ne_nil_of_right_ne_nil _ (List.cons_ne_nil _ _), rfl⟩

/-- The next character was taken from some bytes. -/
structure Pending (bytes : List UInt8) (chr : Option UInt8) (r : ResettableReader) : Prop where
  chr_eq : chr = bytes.head?
  remaining : r.remaining = bytes.tail

theorem Pending.length_eq {chr : Option UInt8} (h : Pending bytes chr r) :
    (chr.toList ++ r.remaining).length = bytes.length := by
  rw [h.chr_eq, h.remaining]
  cases bytes <;> rfl

/-- Bytes that start neither like the end of a string nor like a character of one. -/
theorem not_body_of_not_character (hquote : ∀ rest, bytes ≠ 0x22 :: rest)
    (hchar : ¬ StartsWithCharacter bytes) (hstray : ¬ StartsWithStrayPair bytes) :
    ¬ StartsWithBody bytes ∧ ¬ StrayString bytes := by
  constructor
  · intro h
    rcases h.cases with ⟨rest, h⟩ | h
    · exact hquote rest h
    · exact hchar h
  · intro h
    exact h.cases.elim hstray hchar

/-- **A round of the loop** takes one character of the string. -/
theorem ends_parseStringCharacter {chr : Option UInt8} {value : List UInt8}
    (h : Pending bytes chr r) :
    Program.Ends (Program.Round
        (fun state t => ∃ (c : StringCharacter) (rest : List UInt8), bytes = c.spelling ++ rest ∧
          state.2 = value ++ c.value ∧ Pending rest state.1 t)
        (fun state t => state.2 = value ∧
          match state.1 with
          | none => bytes = []
          | some _ => bytes = 0x22 :: t.remaining))
      (fun e _ => (IsLexerException e ∧ ¬ StartsWithBody bytes ∧ ¬ StrayString bytes) ∨
        (IsLogicError e ∧ StartsWithStrayPair bytes))
      (parseStringCharacter (chr, value)) r := by
  obtain ⟨rfl, hremaining⟩ := h
  cases bytes with
  | nil => exact ⟨rfl, rfl⟩
  | cons b rest =>
    show Program.Ends _ _ (ite (b = 0x22) _ (ite (isEscapeCharacter b = true) _ (ite _ _ _))) r
    split
    next hquote =>
      rw [hquote]
      exact ⟨rfl, congrArg _ hremaining.symm⟩
    next hquote =>
      have hnoquote : ∀ rest', b :: rest ≠ 0x22 :: rest' := fun _ h => hquote (List.cons.inj h).1
      split
      next hescape =>
        have hsolidus : b = 0x5C := beq_iff_eq.mp hescape
        subst hsolidus
        refine Program.Ends.bind ((ends_tryParseEscapeSequence hremaining).mono
          (fun value' t ht => ?_) fun e _ he => ?_)
        · obtain ⟨c, hvalue, hbytes⟩ := ht
          refine Program.Ends.bind ((ends_read rfl).mono (fun chr t' ht' => ?_) fun _ _ => False.elim)
          exact ⟨c, _, hbytes, hvalue, ht'.1, ht'.2⟩
        · rcases he with ⟨he, hchar, hstray⟩ | ⟨he, hstray⟩
          · exact .inl ⟨he, not_body_of_not_character hnoquote hchar hstray⟩
          · exact .inr ⟨he, hstray⟩
      next hescape =>
        have hsolidus : b ≠ 0x5C := fun h => hescape (beq_iff_eq.mpr h)
        split
        next hcontrol =>
          have hlow : b ≤ 0x1F := by
            have hall : ∀ b : UInt8, isCharacterThatNeedsEscaping b = true → b ≠ 0x22 → b ≠ 0x5C →
                b ≤ 0x1F := UTF8String.forall_byte (by decide +kernel)
            exact hall b hcontrol hquote hsolidus
          refine .inl ⟨⟨_, rfl⟩, not_body_of_not_character hnoquote ?_ ?_⟩
          · rintro ⟨c, rest', -, h⟩
            cases c with
            | unescaped b' hcontrol' _ _ =>
              obtain ⟨rfl, -⟩ := List.cons.inj h
              exact absurd (UInt8.le_trans hcontrol' hlow) (by decide)
            | escaped _ _ _ => exact hsolidus (List.cons.inj h).1
            | unicode _ _ _ => exact hsolidus (List.cons.inj h).1
            | surrogatePair _ _ _ _ => exact hsolidus (List.cons.inj h).1
          · rintro ⟨_, -, h⟩
            exact hsolidus (List.cons.inj h).1
        next hcontrol =>
          have hhigh : 0x20 ≤ b := by
            have hall : ∀ b : UInt8, ¬ isCharacterThatNeedsEscaping b = true → 0x20 ≤ b :=
              UTF8String.forall_byte (by decide +kernel)
            exact hall b hcontrol
          refine Program.Ends.bind ((ends_read hremaining).mono (fun chr t ht => ?_)
            fun _ _ => False.elim)
          exact ⟨.unescaped b hhigh hquote hsolidus, rest, rfl, rfl, ht.1, ht.2⟩

/-- **A string**: it is read if there is one, and otherwise one of the two exceptions is raised. -/
theorem ends_tryParseStringToken (hremaining : r.remaining = input) :
    Program.Ends (fun token r' => ∃ cs, token = .string (valueOf cs) ∧
        input = spellingOf cs ++ 0x22 :: r'.remaining)
      (fun e _ => (IsLexerException e ∧ ¬ StartsWithBody input ∧ ¬ StrayString input) ∨
        (IsLogicError e ∧ StrayString input))
      tryParseStringToken r := by
  have hloop : ∀ n, input.length < n → ∀ t, Pending input input.head? t →
      Program.Ends (fun state t => ∃ cs, state.2 = valueOf cs ∧
          match state.1 with
          | none => input = spellingOf cs
          | some _ => input = spellingOf cs ++ 0x22 :: t.remaining)
        (fun e _ => (IsLexerException e ∧ ¬ StartsWithBody input ∧ ¬ StrayString input) ∨
          (IsLogicError e ∧ StrayString input))
        (Program.loop .outOfRounds parseStringCharacter n (input.head?, [])) t := by
    intro n hn t ht
    refine Program.ends_loop (J := fun state t => ∃ (cs : List StringCharacter) (rest : List UInt8),
        input = spellingOf cs ++ rest ∧ state.2 = valueOf cs ∧ Pending rest state.1 t)
      (fun state t => (state.1.toList ++ t.remaining).length) (fun state t hj => ?_)
      ⟨[], input, rfl, rfl, ht⟩ (by rw [ht.length_eq]; exact hn)
    obtain ⟨cs, rest, hinput, hvalue, hpending⟩ := hj
    refine (ends_parseStringCharacter hpending).mono (fun round t' hround => ?_) fun e _ he => ?_
    · cases round with
      | yield state' =>
        obtain ⟨c, rest', hrest, hvalue', hpending'⟩ := hround
        refine ⟨⟨cs ++ [c], rest', ?_, ?_, hpending'⟩, ?_⟩
        · rw [hinput, hrest, spellingOf_append, List.append_assoc, spellingOf_cons_append]
          rfl
        · rw [hvalue', hvalue, valueOf_append]
          exact congrArg _ (List.append_nil _).symm
        · rw [hpending'.length_eq, hpending.length_eq, hrest, List.length_append]
          exact Nat.lt_add_of_pos_left (List.length_pos_iff.mpr c.spelling_ne_nil)
      | done state' =>
        obtain ⟨hvalue', hend⟩ := hround
        refine ⟨cs, hvalue'.trans hvalue, ?_⟩
        cases hchr : state'.1 with
        | none =>
          rw [hchr] at hend
          rw [hinput, hend, List.append_nil]
        | some _ =>
          rw [hchr] at hend
          rw [hinput, hend]
    · rw [hinput]
      rcases he with ⟨he, hbody, hstray⟩ | ⟨he, rest', hstray, hrest⟩
      · exact .inl ⟨he, fun h => hbody h.of_append, fun h => hstray h.of_append⟩
      · exact .inr ⟨he, cs, rest', hstray, by rw [hrest]⟩
  refine Program.Ends.bind (?_ : Program.Ends _ _ numRounds r)
  refine Program.Ends.bind ((ends_read hremaining).mono (fun chr t ht => ?_) fun _ _ => False.elim)
  obtain ⟨rfl, ht⟩ := ht
  refine Program.Ends.bind ((hloop _ ?_ t ⟨rfl, ht⟩).mono (fun state t' hstate => ?_) fun _ _ => id)
  · show input.length < r.remaining.length + 1 + 1
    rw [hremaining]
    omega
  · obtain ⟨cs, hvalue, hend⟩ := hstate
    obtain ⟨chr, value⟩ := state
    obtain rfl : value = valueOf cs := hvalue
    cases chr with
    | none =>
      have hnil : input = spellingOf cs ++ [] := hend.trans (List.append_nil _).symm
      refine .inl ⟨⟨_, rfl⟩, fun h => ?_, fun h => ?_⟩
      · rw [hnil] at h
        obtain ⟨cs', rest, h⟩ := h.of_append
        exact List.append_ne_nil_of_right_ne_nil _ (List.cons_ne_nil _ _) h.symm
      · rw [hnil] at h
        obtain ⟨cs', rest, -, h⟩ := h.of_append
        exact List.append_ne_nil_of_right_ne_nil _ (List.cons_ne_nil _ _) h.symm
    | some c => exact ⟨cs, rfl, hend⟩

/-- **What spells a string** is read as that string. -/
theorem ends_tryParseStringToken_of_spelling {cs : List StringCharacter} {rest : List UInt8}
    (hremaining : r.remaining = spellingOf cs ++ 0x22 :: rest) :
    Program.Ends (fun token r' => token = .string (valueOf cs) ∧ r'.remaining = rest)
      (fun _ _ => False) tryParseStringToken r := by
  refine (ends_tryParseStringToken hremaining).mono (fun token t ht => ?_) fun e _ he => ?_
  · obtain ⟨cs', rfl, h⟩ := ht
    obtain ⟨hvalue, hrest⟩ := spellingOf_inj h
    exact ⟨congrArg _ hvalue.symm, hrest.symm⟩
  · rcases he with ⟨-, hbody, -⟩ | ⟨-, hstray⟩
    · exact hbody ⟨cs, rest, rfl⟩
    · exact not_strayString_of_quote hstray.of_append

/-- **A stray pair** raises the exception that is none of the lexer. -/
theorem ends_tryParseStringToken_of_stray (hremaining : r.remaining = input)
    (hstray : StrayString input) :
    Program.Ends (fun _ _ => False) (fun e _ => IsLogicError e) tryParseStringToken r := by
  refine (ends_tryParseStringToken hremaining).mono (fun token t ht => ?_) fun e _ he => ?_
  · obtain ⟨cs, -, rfl⟩ := ht
    exact not_strayString_of_quote hstray.of_append
  · rcases he with ⟨-, -, hno⟩ | ⟨he, -⟩
    · exact absurd hstray hno
    · exact he

end Strings

end OpenKit
