import OpenKit.Json.LexerTokens

/-!
# The trees of JSON texts

The values of a tree are reached by induction, and the tokens of a value determine it.

## Main definitions

* `JsonTree.Everywhere`: what holds of a value and of the values in it

## Main results

* `JsonTree.induction`: induction on a value
* `JsonTree.tokens_inj`: the tokens of a value determine it
-/

namespace OpenKit

open JsonLexer

namespace JsonTree

/-! ## Induction -/

/-- **Induction on a value**: on the elements of an array, and on the values of the members of an
object. -/
@[elab_as_elim]
theorem induction {P : JsonTree → Prop} (null : P .null) (boolean : ∀ value, P (.boolean value))
    (string : ∀ value, P (.string value)) (number : ∀ literal, P (.number literal))
    (array : ∀ ts, (∀ t ∈ ts, P t) → P (.array ts))
    (object : ∀ ms, (∀ m ∈ ms, P m.2) → P (.object ms)) (t : JsonTree) : P t :=
  match t with
  | .null => null
  | .boolean value => boolean value
  | .string value => string value
  | .number literal => number literal
  | .array ts => array ts fun t _ => induction null boolean string number array object t
  | .object ms => object ms fun m _ => induction null boolean string number array object m.2
termination_by sizeOf t
decreasing_by
  · have hlt := List.sizeOf_lt_of_mem ‹t ∈ ts›
    simp only [JsonTree.array.sizeOf_spec]
    omega
  · have hlt := List.sizeOf_lt_of_mem ‹m ∈ ms›
    obtain ⟨key, t⟩ := m
    simp only [JsonTree.object.sizeOf_spec, Prod.mk.sizeOf_spec] at hlt ⊢
    omega

/-- What holds of a value, of the elements of its arrays and of the values of the members of its
objects. -/
inductive Everywhere (P : JsonTree → Prop) : JsonTree → Prop
  | null (h : P .null) : Everywhere P .null
  | boolean {value : Bool} (h : P (.boolean value)) : Everywhere P (.boolean value)
  | string {value : List UInt8} (h : P (.string value)) : Everywhere P (.string value)
  | number {literal : List UInt8} (h : P (.number literal)) : Everywhere P (.number literal)
  | array {ts : List JsonTree} (h : P (.array ts)) (helements : ∀ t ∈ ts, Everywhere P t) :
      Everywhere P (.array ts)
  | object {ms : List (List UInt8 × JsonTree)} (h : P (.object ms))
      (hmembers : ∀ m ∈ ms, Everywhere P m.2) : Everywhere P (.object ms)

section Everywhere

variable {P Q : JsonTree → Prop} {t : JsonTree}

theorem Everywhere.self (h : Everywhere P t) : P t := by
  cases h <;> assumption

theorem Everywhere.mono (h : Everywhere P t) (hPQ : ∀ t, P t → Q t) : Everywhere Q t := by
  induction h with
  | null h => exact .null (hPQ _ h)
  | boolean h => exact .boolean (hPQ _ h)
  | string h => exact .string (hPQ _ h)
  | number h => exact .number (hPQ _ h)
  | array h _ ih => exact .array (hPQ _ h) ih
  | object h _ ih => exact .object (hPQ _ h) ih

theorem Everywhere.and (h : Everywhere P t) (h' : Everywhere Q t) :
    Everywhere (fun t => P t ∧ Q t) t := by
  induction h with
  | null h => exact .null ⟨h, h'.self⟩
  | boolean h => exact .boolean ⟨h, h'.self⟩
  | string h => exact .string ⟨h, h'.self⟩
  | number h => exact .number ⟨h, h'.self⟩
  | array h _ ih =>
    cases h' with
    | array h' helements' => exact .array ⟨h, h'⟩ fun t ht => ih t ht (helements' t ht)
  | object h _ ih =>
    cases h' with
    | object h' hmembers' => exact .object ⟨h, h'⟩ fun m hm => ih m hm (hmembers' m hm)

end Everywhere

/-! ## Tokens -/

theorem tokens_array_cons (t : JsonTree) (ts : List JsonTree) :
    (array (t :: ts)).tokens =
      .leftSquareBracket :: (t.tokens ++ moreElementTokens ts ++ [.rightSquareBracket]) := by
  rw [tokens]

theorem tokens_object_cons (key : List UInt8) (t : JsonTree) (ms : List (List UInt8 × JsonTree)) :
    (object ((key, t) :: ms)).tokens =
      .leftBrace :: .string key :: .colon :: (t.tokens ++ moreMemberTokens ms ++ [.rightBrace]) := by
  rw [tokens]

/-- The first token of a value. -/
def firstToken : JsonTree → JsonToken
  | .null => .null
  | .boolean value => .boolean value
  | .string value => .string value
  | .number literal => .number literal
  | .array _ => .leftSquareBracket
  | .object _ => .leftBrace

theorem exists_tokens_eq (t : JsonTree) : ∃ rest, t.tokens = t.firstToken :: rest := by
  cases t with
  | null => exact ⟨_, by rw [tokens, firstToken]⟩
  | boolean value => exact ⟨_, by rw [tokens, firstToken]⟩
  | string value => exact ⟨_, by rw [tokens, firstToken]⟩
  | number literal => exact ⟨_, by rw [tokens, firstToken]⟩
  | array ts =>
    cases ts with
    | nil => exact ⟨_, by rw [tokens, firstToken]⟩
    | cons t ts => exact ⟨_, tokens_array_cons t ts⟩
  | object ms =>
    cases ms with
    | nil => exact ⟨_, by rw [tokens, firstToken]⟩
    | cons m ms => exact ⟨_, tokens_object_cons m.1 m.2 ms⟩

/-- Equal tokens start with the same one. -/
theorem firstToken_eq {t t' : JsonTree} {rest rest' : List JsonToken}
    (h : t.tokens ++ rest = t'.tokens ++ rest') : t.firstToken = t'.firstToken := by
  obtain ⟨tokens, ht⟩ := t.exists_tokens_eq
  obtain ⟨tokens', ht'⟩ := t'.exists_tokens_eq
  rw [ht, ht'] at h
  exact (List.cons.inj h).1

/-- No value starts with a closing bracket. -/
theorem tokens_append_ne_rightSquareBracket {t : JsonTree} {rest rest' : List JsonToken} :
    t.tokens ++ rest ≠ .rightSquareBracket :: rest' := by
  intro h
  obtain ⟨tokens, ht⟩ := t.exists_tokens_eq
  rw [ht] at h
  cases t <;> cases (List.cons.inj h).1

/-- Sequences of elements in brackets are equal if their tokens are. -/
theorem moreElementTokens_inj {ts ts' : List JsonTree} {rest rest' : List JsonToken}
    (ih : ∀ t ∈ ts, ∀ t' rest rest', t.tokens ++ rest = t'.tokens ++ rest' → t = t' ∧ rest = rest')
    (h : moreElementTokens ts ++ .rightSquareBracket :: rest =
      moreElementTokens ts' ++ .rightSquareBracket :: rest') : ts = ts' ∧ rest = rest' := by
  induction ts generalizing ts' with
  | nil =>
    cases ts' with
    | nil => exact ⟨rfl, (List.cons.inj h).2⟩
    | cons t' ts' => cases (List.cons.inj h).1
  | cons t ts iht =>
    cases ts' with
    | nil => cases (List.cons.inj h).1
    | cons t' ts' =>
      rw [moreElementTokens, moreElementTokens, List.cons_append, List.cons_append, List.append_assoc,
        List.append_assoc] at h
      obtain ⟨rfl, hmore⟩ := ih t List.mem_cons_self t' _ _ (List.cons.inj h).2
      obtain ⟨rfl, hrest⟩ := iht (fun t ht => ih t (List.mem_cons_of_mem _ ht)) hmore
      exact ⟨rfl, hrest⟩

/-- Sequences of members in braces are equal if their tokens are. -/
theorem moreMemberTokens_inj {ms ms' : List (List UInt8 × JsonTree)} {rest rest' : List JsonToken}
    (ih : ∀ m ∈ ms, ∀ t' rest rest', m.2.tokens ++ rest = t'.tokens ++ rest' →
      m.2 = t' ∧ rest = rest')
    (h : moreMemberTokens ms ++ .rightBrace :: rest = moreMemberTokens ms' ++ .rightBrace :: rest') :
    ms = ms' ∧ rest = rest' := by
  induction ms generalizing ms' with
  | nil =>
    cases ms' with
    | nil => exact ⟨rfl, (List.cons.inj h).2⟩
    | cons m' ms' => cases (List.cons.inj h).1
  | cons m ms ihm =>
    obtain ⟨key, t⟩ := m
    cases ms' with
    | nil => cases (List.cons.inj h).1
    | cons m' ms' =>
      obtain ⟨key', t'⟩ := m'
      rw [moreMemberTokens, moreMemberTokens] at h
      simp only [List.cons_append, List.append_assoc, List.cons.injEq, JsonToken.string.injEq,
        true_and] at h
      obtain ⟨rfl, hvalue⟩ := h
      obtain ⟨rfl, hmore⟩ := ih _ List.mem_cons_self t' _ _ hvalue
      obtain ⟨rfl, hrest⟩ := ihm (fun m hm => ih m (List.mem_cons_of_mem _ hm)) hmore
      exact ⟨rfl, hrest⟩

/-- **The tokens of a value** determine it. -/
theorem tokens_inj (t : JsonTree) : ∀ t' rest rest', t.tokens ++ rest = t'.tokens ++ rest' →
    t = t' ∧ rest = rest' := by
  induction t using JsonTree.induction with
  | null =>
    intro t' rest rest' h
    have hfirst := firstToken_eq h
    cases t' <;> cases hfirst
    exact ⟨rfl, (List.cons.inj h).2⟩
  | boolean value =>
    intro t' rest rest' h
    have hfirst := firstToken_eq h
    cases t' <;> cases hfirst
    exact ⟨rfl, (List.cons.inj h).2⟩
  | string value =>
    intro t' rest rest' h
    have hfirst := firstToken_eq h
    cases t' <;> cases hfirst
    exact ⟨rfl, (List.cons.inj h).2⟩
  | number literal =>
    intro t' rest rest' h
    have hfirst := firstToken_eq h
    cases t' <;> cases hfirst
    exact ⟨rfl, (List.cons.inj h).2⟩
  | array ts ih =>
    intro t' rest rest' h
    have hfirst := firstToken_eq h
    cases t' <;> cases hfirst
    next ts' =>
    cases ts with
    | nil =>
      cases ts' with
      | nil => exact ⟨rfl, (List.cons.inj (List.cons.inj h).2).2⟩
      | cons t' ts' =>
        rw [tokens_array_cons, List.cons_append, List.append_assoc, List.append_assoc] at h
        exact absurd (List.cons.inj h).2.symm tokens_append_ne_rightSquareBracket
    | cons t ts =>
      cases ts' with
      | nil =>
        rw [tokens_array_cons, List.cons_append, List.append_assoc, List.append_assoc] at h
        exact absurd (List.cons.inj h).2 tokens_append_ne_rightSquareBracket
      | cons t' ts' =>
        simp only [tokens_array_cons, List.cons_append, List.append_assoc, List.nil_append,
          List.cons.injEq, true_and] at h
        obtain ⟨rfl, hmore⟩ := ih t List.mem_cons_self t' _ _ h
        obtain ⟨rfl, hrest⟩ := moreElementTokens_inj
          (fun t ht => ih t (List.mem_cons_of_mem _ ht)) hmore
        exact ⟨rfl, hrest⟩
  | object ms ih =>
    intro t' rest rest' h
    have hfirst := firstToken_eq h
    cases t' <;> cases hfirst
    next ms' =>
    cases ms with
    | nil =>
      cases ms' with
      | nil => exact ⟨rfl, (List.cons.inj (List.cons.inj h).2).2⟩
      | cons m' ms' => cases (List.cons.inj (List.cons.inj h).2).1
    | cons m ms =>
      cases ms' with
      | nil => cases (List.cons.inj (List.cons.inj h).2).1
      | cons m' ms' =>
        obtain ⟨key, t⟩ := m
        obtain ⟨key', t'⟩ := m'
        simp only [tokens_object_cons, List.cons_append, List.append_assoc, List.nil_append,
          List.cons.injEq, JsonToken.string.injEq, true_and] at h
        obtain ⟨rfl, hvalue⟩ := h
        obtain ⟨rfl, hmore⟩ := ih _ List.mem_cons_self t' _ _ hvalue
        obtain ⟨rfl, hrest⟩ := moreMemberTokens_inj
          (fun m hm => ih m (List.mem_cons_of_mem _ hm)) hmore
        exact ⟨rfl, hrest⟩

end JsonTree

end OpenKit
