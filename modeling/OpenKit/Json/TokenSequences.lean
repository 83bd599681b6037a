import OpenKit.Json.JsonTrees

/-!
# Sequences of tokens

The lexer reads the tokens that a text spells, one after the other, if no literal stands directly behind
another token's literal. That is so for the tokens of a value.

## Main definitions

* `Separated`: behind every literal stands a structural token

## Main results

* `separated_tokens`: the tokens of a value are separated
* `Lexes.nextToken_of_spelledAs`: the lexer reads the first of the tokens
* `Separated.eq_of_spelledAs`: a text spells one sequence of separated tokens
* `JsonTree.eq_of_spelledAs`: a text has one tree
-/

namespace OpenKit

open JsonLexer

/-- A token that ends where a character that ends it stands. -/
def JsonToken.isLiteral : JsonToken → Bool
  | .number _ | .boolean _ | .null => true
  | _ => false

/-- A token of one character. -/
def JsonToken.isStructural : JsonToken → Bool
  | .number _ | .string _ | .boolean _ | .null => false
  | _ => true

/-- A structural token comes next, if there is one. -/
def StructuralNext (tokens : List JsonToken) : Prop := ∀ next ∈ tokens.head?, next.isStructural = true

/-- Behind every literal comes a structural token, if there is one. -/
def Separated : List JsonToken → Prop
  | [] => True
  | token :: tokens => (token.isLiteral = true → StructuralNext tokens) ∧ Separated tokens

theorem structuralNext_cons {token : JsonToken} (h : token.isStructural = true)
    (tokens : List JsonToken) : StructuralNext (token :: tokens) := by
  intro next hnext
  obtain rfl := Option.some.inj hnext
  exact h

theorem Separated.cons_of_structural {token : JsonToken} {tokens : List JsonToken}
    (hliteral : token.isLiteral = false) (h : Separated tokens) : Separated (token :: tokens) :=
  ⟨fun h' => absurd (hliteral.symm.trans h') Bool.false_ne_true, h⟩

/-! ## The tokens of a value -/

section Trees

variable {rest : List JsonToken}

theorem separated_moreElementTokens {ts : List JsonTree}
    (ih : ∀ t ∈ ts, ∀ rest, Separated rest → StructuralNext rest → Separated (t.tokens ++ rest))
    (h : Separated rest) (hnext : StructuralNext rest) :
    Separated (moreElementTokens ts ++ rest) ∧ StructuralNext (moreElementTokens ts ++ rest) := by
  induction ts with
  | nil => exact ⟨h, hnext⟩
  | cons t ts iht =>
    obtain ⟨hmore, hmoreNext⟩ := iht fun t ht => ih t (List.mem_cons_of_mem _ ht)
    rw [moreElementTokens, List.cons_append, List.append_assoc]
    exact ⟨.cons_of_structural rfl (ih t List.mem_cons_self _ hmore hmoreNext),
      structuralNext_cons rfl _⟩

theorem separated_moreMemberTokens {ms : List (List UInt8 × JsonTree)}
    (ih : ∀ m ∈ ms, ∀ rest, Separated rest → StructuralNext rest → Separated (m.2.tokens ++ rest))
    (h : Separated rest) (hnext : StructuralNext rest) :
    Separated (moreMemberTokens ms ++ rest) ∧ StructuralNext (moreMemberTokens ms ++ rest) := by
  induction ms with
  | nil => exact ⟨h, hnext⟩
  | cons m ms ihm =>
    obtain ⟨key, t⟩ := m
    obtain ⟨hmore, hmoreNext⟩ := ihm fun m hm => ih m (List.mem_cons_of_mem _ hm)
    have hvalue := ih _ List.mem_cons_self _ hmore hmoreNext
    simp only [moreMemberTokens, List.cons_append, List.append_assoc]
    exact ⟨.cons_of_structural rfl (.cons_of_structural rfl (.cons_of_structural rfl hvalue)),
      structuralNext_cons rfl _⟩

/-- **The tokens of a value** are separated. -/
theorem separated_tokens (t : JsonTree) :
    ∀ rest, Separated rest → StructuralNext rest → Separated (t.tokens ++ rest) := by
  induction t using JsonTree.induction with
  | null =>
    intro rest h hnext
    rw [JsonTree.tokens]
    exact ⟨fun _ => hnext, h⟩
  | boolean value =>
    intro rest h hnext
    rw [JsonTree.tokens]
    exact ⟨fun _ => hnext, h⟩
  | string value =>
    intro rest h hnext
    rw [JsonTree.tokens]
    exact ⟨fun _ => hnext, h⟩
  | number literal =>
    intro rest h hnext
    rw [JsonTree.tokens]
    exact ⟨fun _ => hnext, h⟩
  | array ts ih =>
    intro rest h hnext
    have hclose : Separated (.rightSquareBracket :: rest) := .cons_of_structural rfl h
    cases ts with
    | nil =>
      rw [JsonTree.tokens]
      exact .cons_of_structural rfl hclose
    | cons t ts =>
      obtain ⟨hmore, hmoreNext⟩ := separated_moreElementTokens
        (fun t ht => ih t (List.mem_cons_of_mem _ ht)) hclose (structuralNext_cons rfl rest)
      simp only [JsonTree.tokens_array_cons, List.cons_append, List.append_assoc, List.nil_append]
      exact .cons_of_structural rfl (ih t List.mem_cons_self _ hmore hmoreNext)
  | object ms ih =>
    intro rest h hnext
    have hclose : Separated (.rightBrace :: rest) := .cons_of_structural rfl h
    cases ms with
    | nil =>
      rw [JsonTree.tokens]
      exact .cons_of_structural rfl hclose
    | cons m ms =>
      obtain ⟨key, t⟩ := m
      obtain ⟨hmore, hmoreNext⟩ := separated_moreMemberTokens
        (fun m hm => ih m (List.mem_cons_of_mem _ hm)) hclose (structuralNext_cons rfl rest)
      have hvalue := ih _ List.mem_cons_self _ hmore hmoreNext
      simp only [JsonTree.tokens_object_cons, List.cons_append, List.append_assoc, List.nil_append]
      exact .cons_of_structural rfl (.cons_of_structural rfl (.cons_of_structural rfl hvalue))

theorem JsonTree.separated_tokens (t : JsonTree) : Separated t.tokens := by
  have h := OpenKit.separated_tokens t [] trivial nofun
  rwa [List.append_nil] at h

end Trees

/-! ## Reading them -/

section Lexing

variable {token : JsonToken} {tokens tokens' : List JsonToken} {bytes spelling : List UInt8}

theorem JsonToken.SpelledBy.ne_nil (h : token.SpelledBy spelling) : spelling ≠ [] := by
  cases h with
  | number h =>
    obtain ⟨c, cs, rfl, -⟩ := exists_cons_of_isNumber h
    exact List.cons_ne_nil _ _
  | string => exact List.cons_ne_nil _ _
  | _ => decide

/-- There are no more tokens than bytes. -/
theorem SpelledAs.length_le (h : SpelledAs tokens bytes) : tokens.length ≤ bytes.length := by
  induction h with
  | nil => exact Nat.zero_le _
  | cons _ hspelling _ ih =>
    have hpos := List.length_pos_iff.mpr hspelling.ne_nil
    simp only [List.length_cons, List.length_append]
    omega

/-- Whitespace and structural tokens end a literal. -/
theorem SpelledAs.endsLiteral (h : SpelledAs tokens bytes) (hnext : StructuralNext tokens) :
    EndsLiteral bytes := by
  have hspace : ∀ c : UInt8, isJsonWhitespaceCharacter c = true → isLiteralCharacter c = false := by
    intro c hc
    rw [isLiteralCharacter, hc]
    rfl
  cases h with
  | nil hwhitespace =>
    intro b hb
    exact hspace b (hwhitespace b (List.mem_of_mem_head? hb))
  | @cons token _ whitespace spelling _ hwhitespace hspelling hrest =>
    intro b hb
    cases whitespace with
    | cons c cs =>
      obtain rfl := Option.some.inj hb
      exact hspace c (hwhitespace c List.mem_cons_self)
    | nil =>
      have hstructural := hnext token rfl
      cases hspelling with
      | number => cases hstructural
      | string => cases hstructural
      | true => cases hstructural
      | false => cases hstructural
      | null => cases hstructural
      | _ =>
        obtain rfl := Option.some.inj hb
        decide

/-- **The first token** is read, and the other ones are left. -/
theorem Lexes.nextToken_of_spelledAs {l : JsonLexer} (h : Lexes l bytes)
    (hspelled : SpelledAs (token :: tokens) bytes) (hseparated : Separated (token :: tokens)) :
    ∃ l' rest, JsonLexer.nextToken l = (.ok (some token), l') ∧ Lexes l' rest ∧
      SpelledAs tokens rest ∧ rest.length < bytes.length := by
  cases hspelled with
  | @cons _ _ whitespace spelling rest hwhitespace hspelling hrest =>
    have hfollowed : token.FollowedBy rest := by
      have hends := hrest.endsLiteral
      cases token with
      | number literal => exact hends (hseparated.1 rfl)
      | boolean value => exact hends (hseparated.1 rfl)
      | null => exact hends (hseparated.1 rfl)
      | _ => trivial
    obtain ⟨l', hnext, hlexes⟩ := h.nextToken_of_spelledBy hwhitespace hspelling hfollowed
    refine ⟨l', rest, hnext, hlexes, hrest, ?_⟩
    have hpos := List.length_pos_iff.mpr hspelling.ne_nil
    simp only [List.length_append]
    omega

theorem SpelledAs.isWhitespace (h : SpelledAs [] bytes) : IsWhitespace bytes := by
  cases h
  assumption

/-- A lexer reads one sequence of separated tokens. -/
theorem Lexes.tokens_unique {l : JsonLexer} (h : Lexes l bytes) (hspelled : SpelledAs tokens bytes)
    (hspelled' : SpelledAs tokens' bytes) (hseparated : Separated tokens)
    (hseparated' : Separated tokens') : tokens = tokens' := by
  induction tokens generalizing tokens' l bytes with
  | nil =>
    cases tokens' with
    | nil => rfl
    | cons token' tokens' =>
      obtain ⟨l₁, hend⟩ := h.nextToken_of_isWhitespace hspelled.isWhitespace
      obtain ⟨l₂, _, hnext, -⟩ := h.nextToken_of_spelledAs hspelled' hseparated'
      rw [hend] at hnext
      cases hnext
  | cons token tokens ih =>
    obtain ⟨l₁, rest, hnext, hlexes, hrest, -⟩ := h.nextToken_of_spelledAs hspelled hseparated
    cases tokens' with
    | nil =>
      obtain ⟨l₂, hend⟩ := h.nextToken_of_isWhitespace hspelled'.isWhitespace
      rw [hend] at hnext
      cases hnext
    | cons token' tokens' =>
      obtain ⟨l₂, rest', hnext', hlexes', hrest', -⟩ := h.nextToken_of_spelledAs hspelled' hseparated'
      rw [hnext] at hnext'
      obtain ⟨hok, rfl⟩ := Prod.mk.inj hnext'
      obtain rfl := Option.some.inj (Except.ok.inj hok)
      obtain rfl : rest = rest' := hlexes.remaining.symm.trans hlexes'.remaining
      rw [ih hlexes hrest hrest' hseparated.2 hseparated'.2]

/-- **A text has one tree.** -/
theorem JsonTree.eq_of_spelledAs {t t' : JsonTree} (h : SpelledAs t.tokens bytes)
    (h' : SpelledAs t'.tokens bytes) : t = t' := by
  have htokens := (lexes_new bytes).tokens_unique h h' t.separated_tokens t'.separated_tokens
  exact (t.tokens_inj t' [] [] (by rw [htokens])).1

end Lexing

end OpenKit
