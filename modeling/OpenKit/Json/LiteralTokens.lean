import OpenKit.Json.NumberPattern

/-!
# Whitespace and literals

What the lexer does on a reader is stated by the bytes that are still to be read: what it reads from the
front of them, and what is left. It looks at one byte behind whitespace and behind a literal, and goes
back to it.

## Main definitions

* `IsLexerException`, `IsLogicError`: the exceptions of the lexer and of the reader
* `EndsLiteral`: what may stand behind a literal

## Main results

* `ends_consumeWhitespaceCharacters`: whitespace is skipped
* `ends_parseLiteral`: a literal is read up to a character that ends it
-/

namespace OpenKit

open Thread JsonLexer ResettableReader

/-- An exception of the lexer. -/
def IsLexerException (fault : ReadingFault) : Prop := ∃ e, fault = .lexerException e

/-- An exception of the reader. -/
def IsLogicError (fault : ReadingFault) : Prop := ∃ message, fault = .logicError message

theorem isLexerException_throw {α : Type} {Q : α → ResettableReader → Prop}
    {E : ReadingFault → ResettableReader → Prop} {e : JsonLexerException} {r : ResettableReader}
    (h : E (.lexerException e) r) : Program.Ends Q E (throwLexerException e : Reading α) r := h

/-! ## Whitespace and literals -/

section Literals

variable {r : ResettableReader} {input : List UInt8}

/-- A reader after the first byte that a loop does not take, or at the end. -/
def StoppedAt (rest : List UInt8) (chr : Option UInt8) (r : ResettableReader) : Prop :=
  match rest with
  | [] => chr = none ∧ r.remaining = []
  | b :: _ => chr = some b ∧ r.AfterMark rest 1

/-- The byte that ended the loop is read again. -/
theorem StoppedAt.ends {α : Type} {rest : List UInt8} {chr : Option UInt8} (h : StoppedAt rest chr r)
    {x y : α} {Q : α → ResettableReader → Prop}
    (hend : rest = [] → r.remaining = [] → Q y r)
    (hback : rest ≠ [] → ∀ r', r'.remaining = rest → Q x r') :
    Program.Ends Q (fun _ _ => False)
      (if chr.isSome then (do reset; return x) else (return y) : Reading α) r := by
  cases rest with
  | nil =>
    obtain ⟨rfl, hremaining⟩ := h
    exact hend rfl hremaining
  | cons b rest =>
    obtain ⟨rfl, hafter⟩ := h
    refine Program.Ends.bind ((ends_reset_of_one hafter).mono (fun _ r' hr' => ?_) fun _ _ => id)
    exact hback (List.cons_ne_nil _ _) r' hr'

/-- **Whitespace** is skipped. -/
theorem ends_consumeWhitespaceCharacters (hremaining : r.remaining = input) :
    Program.Ends (fun b r' => b = (input.dropWhile isJsonWhitespaceCharacter).isEmpty ∧
      r'.remaining = input.dropWhile isJsonWhitespaceCharacter) (fun _ _ => False)
      consumeWhitespaceCharacters r := by
  have hloop : Program.Ends (StoppedAt (input.dropWhile isJsonWhitespaceCharacter))
      (fun _ _ => False)
      (Program.loop .outOfRounds consumeWhitespaceCharacter (r.remaining.length + 1) none) r := by
    refine Program.ends_loop (J := fun _ t => t.remaining.dropWhile isJsonWhitespaceCharacter =
      input.dropWhile isJsonWhitespaceCharacter) (fun _ t => t.remaining.length)
      (fun chr t ht => ends_mark_read rfl ?_ ?_) (congrArg _ hremaining) (Nat.lt_succ_self _)
    · intro hnil t' ht' _ _
      rw [hnil] at ht
      show StoppedAt _ none t'
      rw [← ht]
      exact ⟨rfl, ht'⟩
    · intro b rest hcons t' ht' hafter
      rw [hcons, List.dropWhile_cons] at ht
      show Program.Ends _ _ (ite _ _ _) t'
      split
      next hspace =>
        rw [if_pos hspace] at ht
        refine ⟨by rw [ht', ht], ?_⟩
        rw [ht', hcons]
        exact Nat.lt_succ_self _
      next hspace =>
        rw [if_neg hspace] at ht
        show StoppedAt _ (some b) t'
        rw [← ht]
        exact ⟨rfl, hafter⟩
  refine Program.Ends.bind (?_ : Program.Ends _ _ numRounds r)
  refine Program.Ends.bind (hloop.mono (fun chr t ht => ?_) fun _ _ => id)
  refine ht.ends (fun hrest hend => ?_) fun hrest t' ht' => ?_
  · rw [hrest]
    exact ⟨rfl, hend⟩
  · exact ⟨(List.isEmpty_eq_false_iff.mpr hrest).symm, ht'⟩

/-- **A literal** is what stands before whitespace, a structural character or the end. -/
theorem ends_parseLiteral (hremaining : r.remaining = input) :
    Program.Ends (fun literal r' => literal = input.takeWhile isLiteralCharacter ∧
      r'.remaining = input.dropWhile isLiteralCharacter) (fun _ _ => False) parseLiteral r := by
  have hloop : Program.Ends (fun state t => state.2 = input.takeWhile isLiteralCharacter ∧
      StoppedAt (input.dropWhile isLiteralCharacter) state.1 t) (fun _ _ => False)
      (Program.loop .outOfRounds parseLiteralCharacter (r.remaining.length + 1) (none, [])) r := by
    refine Program.ends_loop (J := fun state t =>
      state.2 ++ t.remaining.takeWhile isLiteralCharacter = input.takeWhile isLiteralCharacter ∧
        t.remaining.dropWhile isLiteralCharacter = input.dropWhile isLiteralCharacter)
      (fun _ t => t.remaining.length) (fun state t ht => ends_mark_read rfl ?_ ?_)
      ⟨congrArg _ hremaining, congrArg _ hremaining⟩ (Nat.lt_succ_self _)
    · intro hnil t' ht' _ _
      rw [hnil] at ht
      obtain ⟨hliteral, hrest⟩ := ht
      refine ⟨(List.append_nil _).symm.trans hliteral, ?_⟩
      rw [← hrest]
      exact ⟨rfl, ht'⟩
    · intro b rest hcons t' ht' hafter
      rw [hcons, List.takeWhile_cons, List.dropWhile_cons] at ht
      obtain ⟨hliteral, hrest⟩ := ht
      show Program.Ends _ _ (ite _ _ _) t'
      split
      next hin =>
        rw [if_pos hin] at hliteral hrest
        refine ⟨⟨?_, by rw [ht', hrest]⟩, ?_⟩
        · rw [ht', ← hliteral, List.append_assoc]
          rfl
        · rw [ht', hcons]
          exact Nat.lt_succ_self _
      next hout =>
        rw [if_neg hout] at hliteral hrest
        refine ⟨(List.append_nil _).symm.trans hliteral, ?_⟩
        rw [← hrest]
        exact ⟨rfl, hafter⟩
  refine Program.Ends.bind (?_ : Program.Ends _ _ numRounds r)
  refine Program.Ends.bind (hloop.mono (fun state t ht => ?_) fun _ _ => id)
  obtain ⟨hliteral, hstopped⟩ := ht
  refine hstopped.ends (fun hrest hend => ?_) fun hrest t' ht' => ?_
  · exact ⟨hliteral, hend.trans hrest.symm⟩
  · exact ⟨hliteral, ht'⟩

/-- What stands behind a literal: whitespace, a structural character or the end. -/
def EndsLiteral (rest : List UInt8) : Prop := ∀ b ∈ rest.head?, isLiteralCharacter b = false

/-- A literal at the front is read. -/
theorem ends_parseLiteral_bind_of_append {α : Type} {f : List UInt8 → Reading α}
    {Q : α → ResettableReader → Prop} {E : ReadingFault → ResettableReader → Prop}
    {literal rest : List UInt8} (hremaining : r.remaining = literal ++ rest)
    (hliteral : ∀ c ∈ literal, isLiteralCharacter c = true) (hrest : EndsLiteral rest)
    (hf : ∀ r', r'.remaining = rest → Program.Ends Q E (f literal) r') :
    Program.Ends Q E (parseLiteral >>= f) r := by
  have hstop : rest.takeWhile isLiteralCharacter = [] ∧
      rest.dropWhile isLiteralCharacter = rest := by
    cases rest with
    | nil => exact ⟨rfl, rfl⟩
    | cons b rest =>
      have hb : ¬ isLiteralCharacter b = true := by rw [hrest b rfl]; exact Bool.false_ne_true
      exact ⟨List.takeWhile_cons_of_neg hb, List.dropWhile_cons_of_neg hb⟩
  refine Program.Ends.bind ((ends_parseLiteral hremaining).mono (fun literal' t ht => ?_)
    fun _ _ => False.elim)
  obtain ⟨rfl, ht⟩ := ht
  rw [List.takeWhile_append_of_pos hliteral, hstop.1, List.append_nil]
  rw [List.dropWhile_append_of_pos hliteral, hstop.2] at ht
  exact hf t ht

end Literals

end OpenKit
