import Mathlib.Data.List.TakeWhile
import OpenKit.Json.StringTokens

/-!
# Tokens

A token that is read is spelled by the bytes that were read, behind whitespace; and what spells a token is
read as that token. A literal has to be followed by a character that ends it.

## Main definitions

* `JsonToken.FollowedBy`: what may stand behind a token
* `Lexes`: a lexer before some bytes

## Main results

* `Lexes.nextToken`: what the next token, or the exception, says about the bytes
* `Lexes.nextToken_of_spelledBy`: what spells a token is read as that token
* `Lexes.nextToken_of_stray`: the exception that is none of the lexer
-/

namespace OpenKit

open Thread JsonLexer ResettableReader

/-- What may stand behind a token: behind a literal, what ends it. -/
def JsonToken.FollowedBy (token : JsonToken) (rest : List UInt8) : Prop :=
  match token with
  | .number _ | .boolean _ | .null => EndsLiteral rest
  | _ => True

/-- The quotation mark of a string in which the exception is raised that is none of the lexer. -/
def StrayToken (input : List UInt8) : Prop :=
  ∃ whitespace rest, IsWhitespace whitespace ∧ StrayString rest ∧ input = whitespace ++ 0x22 :: rest

/-- What is left of the bytes behind a literal ends it. -/
theorem endsLiteral_dropWhile (input : List UInt8) : EndsLiteral (input.dropWhile isLiteralCharacter) := by
  intro c hc
  have hhead := List.head?_dropWhile_not isLiteralCharacter input
  rw [Option.mem_def.mp hc] at hhead
  simpa using hhead

section Tokens

variable {r : ResettableReader} {input : List UInt8} {b : UInt8} {rest : List UInt8}

theorem spelledBy_of_structuralToken {token : JsonToken} (h : structuralToken b = some token) :
    token.SpelledBy [b] ∧ ∀ rest, token.FollowedBy rest := by
  rw [structuralToken] at h
  split_ifs at h with h₁ h₂ h₃ h₄ h₅ h₆ <;> obtain rfl := Option.some.inj h <;> subst b
  · exact ⟨.leftSquareBracket, fun _ => trivial⟩
  · exact ⟨.rightSquareBracket, fun _ => trivial⟩
  · exact ⟨.leftBrace, fun _ => trivial⟩
  · exact ⟨.rightBrace, fun _ => trivial⟩
  · exact ⟨.colon, fun _ => trivial⟩
  · exact ⟨.comma, fun _ => trivial⟩

/-- A literal that is some token, or an exception. -/
theorem ends_literal {f : List UInt8 → Reading JsonToken} (hremaining : r.remaining = input)
    (hf : ∀ literal t, Program.Ends (fun token t' => t' = t ∧ token.SpelledBy literal)
      (fun e _ => IsLexerException e) (f literal) t) :
    Program.Ends (fun token r' => ∃ spelling, token.SpelledBy spelling ∧
        token.FollowedBy r'.remaining ∧ input = spelling ++ r'.remaining)
      (fun e _ => IsLexerException e) (parseLiteral >>= f) r := by
  refine Program.Ends.bind ((ends_parseLiteral hremaining).mono (fun literal t ht => ?_)
    fun _ _ => False.elim)
  obtain ⟨rfl, hrest⟩ := ht
  refine (hf _ t).mono (fun token t' ht' => ?_) fun _ _ => id
  obtain ⟨rfl, hspelled⟩ := ht'
  have hfollowed : token.FollowedBy t'.remaining := by
    have hends := endsLiteral_dropWhile input
    rw [← hrest] at hends
    cases token <;> first | exact hends | trivial
  refine ⟨_, hspelled, hfollowed, ?_⟩
  rw [hrest, List.takeWhile_append_dropWhile]

/-- **A token from its first character.** -/
theorem ends_parseTokenFrom (hremaining : r.remaining = rest) (hafter : r.AfterMark (b :: rest) 1) :
    Program.Ends (fun token r' => ∃ spelling, token.SpelledBy spelling ∧
        token.FollowedBy r'.remaining ∧ b :: rest = spelling ++ r'.remaining)
      (fun e _ => IsLexerException e ∨ (IsLogicError e ∧ b = 0x22 ∧ StrayString rest))
      (parseTokenFrom b) r := by
  rw [parseTokenFrom]
  cases hstructural : structuralToken b with
  | some token =>
    obtain ⟨hspelled, hfollowed⟩ := spelledBy_of_structuralToken hstructural
    exact ⟨[b], hspelled, hfollowed _, congrArg _ hremaining.symm⟩
  | none =>
    show Program.Ends _ _ (ite (b = 0x22) _ _) r
    split
    next hquote =>
      refine (ends_tryParseStringToken hremaining).mono (fun token t ht => ?_) fun e _ he => ?_
      · obtain ⟨cs, rfl, h⟩ := ht
        refine ⟨_, .string cs, trivial, ?_⟩
        rw [hquote, h]
        simp
      · rcases he with ⟨he, -, -⟩ | ⟨he, hstray⟩
        · exact .inl he
        · exact .inr ⟨he, hquote, hstray⟩
    next hquote =>
      refine Program.Ends.bind ((ends_reset_of_one hafter).mono (fun _ t ht => ?_)
        fun _ _ => False.elim)
      show Program.Ends _ _ (ite (b = 0x74 ∨ b = 0x66) _ (ite (b = 0x6E) _
        (ite (isDigitOrMinus b = true) _ _))) t
      split
      · refine (ends_literal ht fun literal t' => ?_).mono (fun _ _ => id) fun _ _ => .inl
        split
        next hliteral =>
          rw [hliteral]
          exact ⟨rfl, .true⟩
        next =>
          split
          next hliteral =>
            rw [hliteral]
            exact ⟨rfl, .false⟩
          next => exact ⟨_, rfl⟩
      · split
        · refine (ends_literal ht fun literal t' => ?_).mono (fun _ _ => id) fun _ _ => .inl
          split
          next hliteral =>
            rw [hliteral]
            exact ⟨rfl, .null⟩
          next => exact ⟨_, rfl⟩
        · split
          · refine (ends_literal ht fun literal t' => ?_).mono (fun _ _ => id) fun _ _ => .inl
            split
            next hnumber => exact ⟨rfl, .number (isSome_numberPattern_iff.mp hnumber)⟩
            next => exact ⟨_, rfl⟩
          · exact (ends_literal ht fun literal t' => isLexerException_throw ⟨_, rfl⟩).mono
              (fun _ _ => id) fun _ _ => .inl

/-- **The next token** and the bytes in front of it. -/
theorem ends_readToken (hremaining : r.remaining = input) :
    Program.Ends (fun token r' => match token with
        | none => IsWhitespace input
        | some token => ∃ whitespace spelling, IsWhitespace whitespace ∧ token.SpelledBy spelling ∧
            token.FollowedBy r'.remaining ∧ input = whitespace ++ spelling ++ r'.remaining)
      (fun e _ => IsLexerException e ∨ (IsLogicError e ∧ StrayToken input)) readToken r := by
  have hfront : IsWhitespace (input.takeWhile isJsonWhitespaceCharacter) := fun c hc =>
    List.all_eq_true.mp List.all_takeWhile c hc
  have hsplit := List.takeWhile_append_dropWhile (p := isJsonWhitespaceCharacter) (l := input)
  refine Program.Ends.bind ((ends_consumeWhitespaceCharacters hremaining).mono (fun b t ht => ?_)
    fun _ _ => False.elim)
  obtain ⟨rfl, ht⟩ := ht
  cases hback : input.dropWhile isJsonWhitespaceCharacter with
  | nil =>
    rw [hback, List.append_nil] at hsplit
    rw [hsplit] at hfront
    exact hfront
  | cons b rest =>
    rw [hback] at ht hsplit
    refine Program.Ends.bind (ends_mark_read ht nofun fun b' rest' hcons t' ht' hafter => ?_)
    obtain ⟨rfl, rfl⟩ := List.cons.inj hcons
    refine (ends_parseTokenFrom ht' hafter).mono (fun token t'' htoken => ?_) fun e _ he => ?_
    · obtain ⟨spelling, hspelled, hfollowed, hinput⟩ := htoken
      refine ⟨_, spelling, hfront, hspelled, hfollowed, ?_⟩
      rw [List.append_assoc, ← hinput, hsplit]
    · rcases he with he | ⟨he, hquote, hstray⟩
      · exact .inl he
      · refine .inr ⟨he, _, rest, hfront, hstray, ?_⟩
        rw [← hquote, hsplit]

/-! ## What is spelled is read -/

/-- Behind whitespace, the token is read from its first character. -/
theorem ends_readToken_of_whitespace {whitespace : List UInt8} {Q : JsonToken → ResettableReader → Prop}
    {E : ReadingFault → ResettableReader → Prop} (hwhitespace : IsWhitespace whitespace)
    (hb : isJsonWhitespaceCharacter b = false) (hremaining : r.remaining = whitespace ++ b :: rest)
    (htoken : ∀ r', r'.remaining = rest → r'.AfterMark (b :: rest) 1 →
      Program.Ends Q E (parseTokenFrom b) r') :
    Program.Ends (fun token => match token with
      | none => fun _ => False
      | some token => Q token) E readToken r := by
  have hdrop : (whitespace ++ b :: rest).dropWhile isJsonWhitespaceCharacter = b :: rest := by
    rw [List.dropWhile_append_of_pos hwhitespace, List.dropWhile_cons_of_neg (by simp [hb])]
  refine Program.Ends.bind ((ends_consumeWhitespaceCharacters hremaining).mono (fun x t ht => ?_)
    fun _ _ => False.elim)
  rw [hdrop] at ht
  obtain ⟨rfl, ht⟩ := ht
  refine Program.Ends.bind (ends_mark_read ht nofun fun b' rest' hcons t' ht' hafter => ?_)
  obtain ⟨rfl, rfl⟩ := List.cons.inj hcons
  exact (htoken t' ht' hafter).mono (fun _ _ => id) fun _ _ => id

/-- A literal is read again from its first character. -/
theorem ends_parseTokenFrom_of_literal {Q : JsonToken → ResettableReader → Prop}
    {E : ReadingFault → ResettableReader → Prop} (hafter : r.AfterMark (b :: rest) 1)
    (hstructural : structuralToken b = none) (hquote : b ≠ 0x22)
    (hliteral : ∀ r', r'.remaining = b :: rest → Program.Ends Q E
      (if b = 0x74 ∨ b = 0x66 then tryParseBooleanLiteral
        else if b = 0x6E then tryParseNullLiteral
        else if isDigitOrMinus b then tryParseNumberToken
        else parseUnexpectedLiteral) r') :
    Program.Ends Q E (parseTokenFrom b) r := by
  rw [parseTokenFrom, hstructural]
  show Program.Ends _ _ (ite (b = 0x22) _ _) r
  rw [if_neg hquote]
  exact Program.Ends.bind ((ends_reset_of_one hafter).mono (fun _ t ht => hliteral t ht)
    fun _ _ => False.elim)

/-- The first character of a number. -/
theorem exists_cons_of_isNumber {literal : List UInt8} (h : IsNumber literal) :
    ∃ c cs, literal = c :: cs ∧ isDigitOrMinus c = true := by
  obtain ⟨integer, fraction, exponent, ⟨minus, integer, hminus, hinteger, rfl⟩, -, -, rfl⟩ := h
  rcases hminus with rfl | rfl
  · rcases hinteger with rfl | ⟨d, ds, rfl, -, hd, -⟩
    · exact ⟨_, _, rfl, by decide⟩
    · exact ⟨d, _, rfl, by rw [isDigitOrMinus, hd, Bool.or_true]⟩
  · exact ⟨_, _, rfl, by decide⟩

/-- **What spells a token** is read as that token from its first character. -/
theorem ends_parseTokenFrom_of_spelledBy {token : JsonToken} {spelling : List UInt8}
    (hspelled : token.SpelledBy spelling) (hfollowed : token.FollowedBy rest) :
    ∃ b bs, spelling = b :: bs ∧ isJsonWhitespaceCharacter b = false ∧
      ∀ r, r.remaining = bs ++ rest → r.AfterMark (b :: (bs ++ rest)) 1 →
        Program.Ends (fun token' r' => token' = token ∧ r'.remaining = rest) (fun _ _ => False)
          (parseTokenFrom b) r := by
  cases hspelled with
  | number hnumber =>
    obtain ⟨c, cs, hcons, hc⟩ := exists_cons_of_isNumber hnumber
    have hall : ∀ c : UInt8, isDigitOrMinus c = true → isJsonWhitespaceCharacter c = false ∧
        structuralToken c = none ∧ c ≠ 0x22 ∧ ¬ (c = 0x74 ∨ c = 0x66) ∧ c ≠ 0x6E :=
      UTF8String.forall_byte (by decide +kernel)
    obtain ⟨hwhitespace, hstructural, hquote, hboolean, hnull⟩ := hall c hc
    refine ⟨c, cs, hcons, hwhitespace, fun r hr hafter => ?_⟩
    refine ends_parseTokenFrom_of_literal hafter hstructural hquote fun r' hr' => ?_
    rw [if_neg hboolean, if_neg hnull, if_pos hc]
    rw [← List.cons_append, ← hcons] at hr'
    refine ends_parseLiteral_bind_of_append hr' (forall_isLiteralCharacter_of_isNumber hnumber)
      hfollowed fun t ht => ?_
    rw [if_pos (isSome_numberPattern_iff.mpr hnumber)]
    exact ⟨rfl, ht⟩
  | string cs =>
    refine ⟨0x22, spellingOf cs ++ [0x22], rfl, by decide, fun r hr _ => ?_⟩
    rw [List.append_assoc] at hr
    exact ends_tryParseStringToken_of_spelling hr
  | true =>
    refine ⟨0x74, _, rfl, by decide, fun r hr hafter => ?_⟩
    refine ends_parseTokenFrom_of_literal hafter (by decide) (by decide) fun r' hr' => ?_
    have hliteral : r'.remaining = booleanTrueLiteral ++ rest := hr'
    exact ends_parseLiteral_bind_of_append hliteral (List.all_iff_forall_prop.mp (by decide)) hfollowed fun t ht => ⟨rfl, ht⟩
  | false =>
    refine ⟨0x66, _, rfl, by decide, fun r hr hafter => ?_⟩
    refine ends_parseTokenFrom_of_literal hafter (by decide) (by decide) fun r' hr' => ?_
    have hliteral : r'.remaining = booleanFalseLiteral ++ rest := hr'
    exact ends_parseLiteral_bind_of_append hliteral (List.all_iff_forall_prop.mp (by decide)) hfollowed fun t ht => ⟨rfl, ht⟩
  | null =>
    refine ⟨0x6E, _, rfl, by decide, fun r hr hafter => ?_⟩
    refine ends_parseTokenFrom_of_literal hafter (by decide) (by decide) fun r' hr' => ?_
    have hliteral : r'.remaining = nullLiteral ++ rest := hr'
    exact ends_parseLiteral_bind_of_append hliteral (List.all_iff_forall_prop.mp (by decide)) hfollowed fun t ht => ⟨rfl, ht⟩
  | leftBrace => exact ⟨_, [], rfl, by decide, fun r hr _ => ⟨rfl, hr⟩⟩
  | rightBrace => exact ⟨_, [], rfl, by decide, fun r hr _ => ⟨rfl, hr⟩⟩
  | leftSquareBracket => exact ⟨_, [], rfl, by decide, fun r hr _ => ⟨rfl, hr⟩⟩
  | rightSquareBracket => exact ⟨_, [], rfl, by decide, fun r hr _ => ⟨rfl, hr⟩⟩
  | comma => exact ⟨_, [], rfl, by decide, fun r hr _ => ⟨rfl, hr⟩⟩
  | colon => exact ⟨_, [], rfl, by decide, fun r hr _ => ⟨rfl, hr⟩⟩

variable {token : JsonToken} {whitespace spelling : List UInt8}

theorem ends_readToken_of_spelledBy (hwhitespace : IsWhitespace whitespace)
    (hspelled : token.SpelledBy spelling) (hfollowed : token.FollowedBy rest)
    (hremaining : r.remaining = whitespace ++ spelling ++ rest) :
    Program.Ends (fun token' r' => token' = some token ∧ r'.remaining = rest) (fun _ _ => False)
      readToken r := by
  obtain ⟨b, bs, rfl, hb, htoken⟩ := ends_parseTokenFrom_of_spelledBy hspelled hfollowed
  rw [List.append_assoc, List.cons_append] at hremaining
  refine (ends_readToken_of_whitespace hwhitespace hb hremaining htoken).mono
    (fun token' t ht => ?_) fun _ _ => id
  cases token' with
  | none => exact ht.elim
  | some token' => exact ⟨congrArg some ht.1, ht.2⟩

theorem ends_readToken_of_isWhitespace (hwhitespace : IsWhitespace input)
    (hremaining : r.remaining = input) :
    Program.Ends (fun token' _ => token' = none) (fun _ _ => False) readToken r := by
  refine Program.Ends.bind ((ends_consumeWhitespaceCharacters hremaining).mono (fun x t ht => ?_)
    fun _ _ => False.elim)
  rw [List.dropWhile_eq_nil_iff.mpr hwhitespace] at ht
  obtain ⟨rfl, -⟩ := ht
  exact rfl

theorem ends_readToken_of_stray (hstray : StrayToken input) (hremaining : r.remaining = input) :
    Program.Ends (fun _ _ => False) (fun e _ => IsLogicError e) readToken r := by
  obtain ⟨whitespace, rest, hwhitespace, hstray, rfl⟩ := hstray
  refine (ends_readToken_of_whitespace (Q := fun _ _ => False) hwhitespace (by decide) hremaining
    fun r' hr' _ => ends_tryParseStringToken_of_stray hr' hstray).mono (fun token' t ht => ?_)
      fun _ _ => id
  cases token' <;> exact ht

end Tokens

/-! ## The lexer -/

/-- A lexer before some bytes. -/
structure Lexes (l : JsonLexer) (bytes : List UInt8) : Prop where
  remaining : l.reader.remaining = bytes
  lexerState : l.lexerState = .initial ∨ l.lexerState = .parsing

theorem lexes_new (input : List UInt8) : Lexes (.new input) input := ⟨rfl, .inl rfl⟩

namespace Lexes

variable {l : JsonLexer} {bytes rest whitespace spelling : List UInt8} {token : JsonToken}

/-- The next token is what `readToken` reads. -/
theorem nextToken_eq (h : Lexes l bytes) :
    nextToken l = match readToken.run l.reader with
      | (.ok none, reader) => (.ok none, ⟨reader, .endOfFile⟩)
      | (.ok (some token), reader) => (.ok (some token), ⟨reader, .parsing⟩)
      | (.error (.lexerException e), reader) => (.error (.lexerException e), ⟨reader, .error⟩)
      | (.error fault, reader) => (.error fault, ⟨reader, .parsing⟩) := by
  obtain ⟨reader, lexerState⟩ := l
  have hstate : lexerState = .initial ∨ lexerState = .parsing := h.lexerState
  rcases hstate with rfl | rfl <;> rfl

/-- **What spells a token** is read as that token. -/
theorem nextToken_of_spelledBy (h : Lexes l (whitespace ++ spelling ++ rest))
    (hwhitespace : IsWhitespace whitespace) (hspelled : token.SpelledBy spelling)
    (hfollowed : token.FollowedBy rest) :
    ∃ l', nextToken l = (.ok (some token), l') ∧ Lexes l' rest := by
  obtain ⟨token', r', hrun, rfl, hrest⟩ :=
    (ends_readToken_of_spelledBy hwhitespace hspelled hfollowed h.remaining).exists_run
  refine ⟨⟨r', .parsing⟩, ?_, hrest, .inr rfl⟩
  rw [h.nextToken_eq, hrun]

/-- Behind the last token the lexer is at the end. -/
theorem nextToken_of_isWhitespace (h : Lexes l bytes) (hwhitespace : IsWhitespace bytes) :
    ∃ l', nextToken l = (.ok none, l') := by
  obtain ⟨token', r', hrun, rfl⟩ :=
    (ends_readToken_of_isWhitespace hwhitespace h.remaining).exists_run
  exact ⟨⟨r', .endOfFile⟩, by rw [h.nextToken_eq, hrun]⟩

/-- **A stray pair** raises the exception that is none of the lexer. -/
theorem nextToken_of_stray (h : Lexes l bytes) (hstray : StrayToken bytes) :
    ∃ message l', nextToken l = (.error (.logicError message), l') := by
  have hends := ends_readToken_of_stray hstray h.remaining
  rcases hrun : readToken.run l.reader with ⟨e | token', r'⟩
  · obtain ⟨message, rfl⟩ := hends.run_error hrun
    exact ⟨message, ⟨r', .parsing⟩, by rw [h.nextToken_eq, hrun]⟩
  · exact (hends.run_ok hrun).elim

/-- What a lexer reads next, and the bytes in front of it. -/
inductive NextToken (bytes : List UInt8) : Except ReadingFault (Option JsonToken) × JsonLexer → Prop
  | atEnd {l' : JsonLexer} (hwhitespace : IsWhitespace bytes) : NextToken bytes (.ok none, l')
  | token {token : JsonToken} {l' : JsonLexer} {whitespace spelling rest : List UInt8}
      (hwhitespace : IsWhitespace whitespace) (hspelled : token.SpelledBy spelling)
      (hfollowed : token.FollowedBy rest) (hbytes : bytes = whitespace ++ spelling ++ rest)
      (hlexes : Lexes l' rest) : NextToken bytes (.ok (some token), l')
  | exception {e : JsonLexerException} {l' : JsonLexer} :
      NextToken bytes (.error (.lexerException e), l')
  | stray {message : String} {l' : JsonLexer} (hstray : StrayToken bytes) :
      NextToken bytes (.error (.logicError message), l')

/-- **The next token**, or the exception. -/
theorem nextToken (h : Lexes l bytes) : NextToken bytes (JsonLexer.nextToken l) := by
  have hends := ends_readToken h.remaining
  rw [h.nextToken_eq]
  rcases hrun : readToken.run l.reader with ⟨e | token', r'⟩
  · rcases hends.run_error hrun with ⟨e', rfl⟩ | ⟨⟨message, rfl⟩, hstray⟩
    · exact .exception
    · exact .stray hstray
  · have htoken := hends.run_ok hrun
    cases token' with
    | none => exact .atEnd htoken
    | some token' =>
      obtain ⟨whitespace, spelling, hwhitespace, hspelled, hfollowed, hbytes⟩ := htoken
      exact .token hwhitespace hspelled hfollowed hbytes ⟨rfl, .inr rfl⟩

end Lexes

end OpenKit
