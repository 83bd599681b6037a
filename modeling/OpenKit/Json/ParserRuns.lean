import Mathlib.Logic.Relation
import OpenKit.Json.Beginnings
import OpenKit.Json.TokenSequences

/-!
# Runs of the parser

A round of the parser reads a token and takes it. A run of rounds from a string takes the tokens that a
front of the string spells. It ends with the whole string, with an exception that leads to the error
state, or with one that does not. The last kind is raised in a round that is faulty from its start.

## Main definitions

* `JsonParser.Reached`: a parser that has taken some tokens of a string
* `JsonParser.StartsRound`: the parsers before the rounds of the first call
* `JsonParser.Faulty`: a round that raises an exception which does not lead to the error state

## Main results

* `Reached.round`: what a round does
* `ends_doParse`: what the first call does
* `run_doParse_of_readable`: a value that can be read is read
-/

namespace OpenKit

open Thread JsonLexer

namespace JsonParser

/-- The bytes still to be read. -/
abbrev remaining (p : JsonParser) : List UInt8 := p.lexer.reader.remaining

/-- A token comes next. -/
def NextIs (token : JsonToken) (bytes : List UInt8) : Prop :=
  ∃ whitespace spelling rest, IsWhitespace whitespace ∧ token.SpelledBy spelling ∧
    token.FollowedBy rest ∧ bytes = whitespace ++ spelling ++ rest

/-- The round that starts here raises an exception which does not lead to the error state: one that is
none of the lexer, or that of a misplaced token. -/
def Faulty (p : JsonParser) : Prop :=
  StrayToken p.remaining ∨
    ∃ token, NextIs token p.remaining ∧ p.parserStacks.Misplaced token

/-- A parser that has taken some tokens of a string. -/
structure Reached (input : List UInt8) (tokens : List JsonToken) (p : JsonParser) : Prop where
  lexes : Lexes p.lexer p.remaining
  spelledAs : ∀ more, SpelledAs more p.remaining → SpelledAs (tokens ++ more) input
  consumed : ParserStacks.Consumed tokens p.parserStacks

theorem reached_new (input : List UInt8) : Reached input [] (.new input) :=
  ⟨lexes_new input, fun _ => id, .init⟩

section Rounds

variable {input : List UInt8} {tokens : List JsonToken} {p p' : JsonParser} {l' : JsonLexer}

/-! ## A round -/

theorem run_nextToken_ok {token : Option JsonToken}
    (h : JsonLexer.nextToken p.lexer = (.ok token, l')) :
    nextToken.run p = (.ok token, { p with lexer := l' }) := by
  rw [nextToken, Program.run_bind_ok (Program.run_atomic _ p)]
  dsimp only
  rw [h]
  rfl

theorem run_nextToken_error {fault : ReadingFault}
    (h : JsonLexer.nextToken p.lexer = (.error fault, l')) :
    nextToken.run p = (.error (.readingFault fault), { p with lexer := l' }) := by
  rw [nextToken, Program.run_bind_ok (Program.run_atomic _ p)]
  dsimp only
  rw [h]
  rfl

theorem run_onStacks_ok {α : Type} {f : ParserStacks → Parsing α} {a : α} {s : ParserStacks}
    (h : (f p.parserStacks).run p.parserStacks = (.ok a, s)) :
    (onStacks f).run p = (.ok a, { p with parserStacks := s }) := by
  rw [onStacks, Program.run_bind_ok (Program.run_atomic _ p)]
  dsimp only
  rw [h]
  rfl

theorem run_onStacks_error {α : Type} {f : ParserStacks → Parsing α} {e : JsonParserException}
    {s : ParserStacks} (h : (f p.parserStacks).run p.parserStacks = (.error e, s)) :
    (onStacks f).run p = (.error (.parserException e), { p with parserStacks := s }) := by
  rw [onStacks, Program.run_bind_ok (Program.run_atomic _ p)]
  dsimp only
  rw [h]
  rfl

theorem run_parseToken_of_error {fault : ReadingFault}
    (h : JsonLexer.nextToken p.lexer = (.error fault, l')) :
    (parseToken ()).run p = (.error (.readingFault fault), { p with lexer := l' }) :=
  Program.run_bind_error (run_nextToken_error h)

theorem run_parseToken_of_refused {token : Option JsonToken} {e : JsonParserException}
    {s : ParserStacks} (h : JsonLexer.nextToken p.lexer = (.ok token, l'))
    (hstep : p.parserStacks.step token = (.error e, s)) :
    (parseToken ()).run p =
      (.error (.parserException e), { p with lexer := l', parserStacks := s }) :=
  (Program.run_bind_ok (run_nextToken_ok h)).trans
    (Program.run_bind_error (run_onStacks_error hstep))

theorem run_parseToken_of_ok {token : Option JsonToken} {s : ParserStacks}
    (h : JsonLexer.nextToken p.lexer = (.ok token, l'))
    (hstep : p.parserStacks.step token = (.ok (), s)) :
    (parseToken ()).run p = (.ok (if token.isSome then .yield () else .done ()),
      { p with lexer := l', parserStacks := s }) := by
  refine (Program.run_bind_ok (run_nextToken_ok h)).trans
    ((Program.run_bind_ok (run_onStacks_ok hstep)).trans ?_)
  cases token <;> rfl

/-- What a round does. -/
inductive RoundOutcome (input : List UInt8) (tokens : List JsonToken) (p : JsonParser) :
    Except ParsingFault (ForInStep Unit) × JsonParser → Prop
  | next {p' : JsonParser} {token : JsonToken} (h : Reached input (tokens ++ [token]) p')
      (hlt : p'.remaining.length < p.remaining.length) (hfine : ¬ p.Faulty) :
      RoundOutcome input tokens p (.ok (.yield ()), p')
  | atEnd {p' : JsonParser} (hstate : p.parserStacks.state = .ended)
      (hstacks : p'.parserStacks = p.parserStacks) (hspelled : SpelledAs tokens input)
      (hfine : ¬ p.Faulty) : RoundOutcome input tokens p (.ok (.done ()), p')
  | lexerException {p' : JsonParser} {e : JsonLexerException} (hfine : ¬ p.Faulty) :
      RoundOutcome input tokens p (.error (.readingFault (.lexerException e)), p')
  | refused {p' : JsonParser} {e : JsonParserException} (hstate : p'.parserStacks.state = .error)
      (hfine : ¬ p.Faulty) : RoundOutcome input tokens p (.error (.parserException e), p')
  | stray {p' : JsonParser} {message : String} (hfaulty : p.Faulty) :
      RoundOutcome input tokens p (.error (.readingFault (.logicError message)), p')
  | misplaced {p' : JsonParser} {e : JsonParserException} (hstate : p'.parserStacks.state ≠ .error)
      (hfaulty : p.Faulty) : RoundOutcome input tokens p (.error (.parserException e), p')

/-- What comes next is read. -/
theorem nextToken_of_nextIs {token : JsonToken} {bytes : List UInt8} {l : JsonLexer}
    (h : Lexes l bytes) (hnext : NextIs token bytes) :
    ∃ l', JsonLexer.nextToken l = (.ok (some token), l') := by
  obtain ⟨whitespace, spelling, rest, hwhitespace, hspelled, hfollowed, rfl⟩ := hnext
  obtain ⟨l', hl', -⟩ := h.nextToken_of_spelledBy hwhitespace hspelled hfollowed
  exact ⟨l', hl'⟩

/-- A round that raises neither exception is not faulty. -/
theorem not_faulty (h : Lexes p.lexer p.remaining) {result : Except ReadingFault (Option JsonToken)}
    (hrun : JsonLexer.nextToken p.lexer = (result, l'))
    (hlogic : ∀ message, result ≠ .error (.logicError message))
    (hplace : ∀ token, result = .ok (some token) → ¬ p.parserStacks.Misplaced token) :
    ¬ p.Faulty := by
  rintro (hstray | ⟨token, hnext, hmisplaced⟩)
  · obtain ⟨message, l'', hstray⟩ := h.nextToken_of_stray hstray
    rw [hrun] at hstray
    exact hlogic message (Prod.mk.inj hstray).1
  · obtain ⟨l'', hnext⟩ := nextToken_of_nextIs h hnext
    rw [hrun] at hnext
    exact hplace token (Prod.mk.inj hnext).1 hmisplaced

/-- **A round** takes the next token, or ends the run. -/
theorem Reached.round (h : Reached input tokens p) :
    RoundOutcome input tokens p ((parseToken ()).run p) := by
  have hnext := h.lexes.nextToken
  rcases hrun : JsonLexer.nextToken p.lexer with ⟨result, l'⟩
  rw [hrun] at hnext
  cases hnext with
  | atEnd hwhitespace =>
    have hfine : ¬ p.Faulty := not_faulty h.lexes hrun nofun nofun
    rcases h.consumed.step_none with ⟨hstate, hstep⟩ | ⟨e, s, hstep, hstate⟩
    · rw [run_parseToken_of_ok hrun hstep]
      have hspelled := h.spelledAs [] (.nil hwhitespace)
      rw [List.append_nil] at hspelled
      exact .atEnd hstate rfl hspelled hfine
    · rw [run_parseToken_of_refused hrun hstep]
      exact .refused hstate hfine
  | @token token _ whitespace spelling rest hwhitespace hspelled hfollowed hbytes hlexes =>
    have htaken := h.consumed.step token
    rcases hstep : p.parserStacks.step (some token) with ⟨e | u, s⟩
    · rw [hstep] at htaken
      rw [run_parseToken_of_refused hrun hstep]
      cases htaken with
      | refused hstate hplace =>
        refine .refused hstate (not_faulty h.lexes hrun nofun fun token' htoken' => ?_)
        rw [← Option.some.inj (Except.ok.inj htoken')]
        exact hplace
      | misplaced hstate hplace =>
        exact .misplaced hstate (.inr ⟨token, ⟨whitespace, spelling, rest, hwhitespace, hspelled,
          hfollowed, hbytes⟩, hplace⟩)
    · rw [hstep] at htaken
      rw [run_parseToken_of_ok hrun hstep]
      cases htaken with
      | consumed hconsumed hplace =>
        have hreached : Reached input (tokens ++ [token])
            { p with lexer := l', parserStacks := s } := by
          refine ⟨⟨rfl, hlexes.lexerState⟩, fun more hmore => ?_, hconsumed⟩
          rw [List.append_assoc]
          refine h.spelledAs _ ?_
          rw [hbytes]
          have hmore' : SpelledAs more l'.reader.remaining := hmore
          rw [hlexes.remaining] at hmore'
          exact .cons hwhitespace hspelled hmore'
        refine .next hreached ?_ (not_faulty h.lexes hrun nofun fun token' htoken' => ?_)
        · show l'.reader.remaining.length < _
          have hpos := List.length_pos_iff.mpr hspelled.ne_nil
          rw [hbytes, hlexes.remaining]
          simp only [List.length_append]
          omega
        · rw [← Option.some.inj (Except.ok.inj htoken')]
          exact hplace
  | exception => exact run_parseToken_of_error hrun ▸ .lexerException (not_faulty h.lexes hrun nofun nofun)
  | stray hstray => exact run_parseToken_of_error hrun ▸ .stray (.inl hstray)

/-! ## Whole runs -/

/-- A round that goes on. -/
def Round (p p' : JsonParser) : Prop := (parseToken ()).run p = (.ok (.yield ()), p')

/-- The parsers before the rounds of the first call on a string. -/
def StartsRound (input : List UInt8) (p : JsonParser) : Prop :=
  Relation.ReflTransGen Round (.new input) p

/-- The last round of the first call. -/
structure LastRound (input : List UInt8) (p : JsonParser) : Prop where
  startsRound : StartsRound input p
  terminal : ∀ p', ¬ Round p p'

theorem not_round_of_run {result : Except ParsingFault (ForInStep Unit)}
    (hrun : (parseToken ()).run p = (result, p')) (hresult : result ≠ .ok (.yield ())) :
    ∀ p'', ¬ Round p p'' := fun _ hround =>
  hresult (Prod.mk.inj (hrun.symm.trans hround)).1

/-- **There is one last round.** -/
theorem LastRound.unique (h : LastRound input p) (h' : LastRound input p') : p = p' := by
  have hunique : Relator.RightUnique Round := fun q q₁ q₂ hq₁ hq₂ =>
    (Prod.mk.inj (hq₁.symm.trans hq₂)).2
  rcases Relation.ReflTransGen.total_of_right_unique hunique h.startsRound h'.startsRound
    with hto | hto
  · rcases hto.cases_head with rfl | ⟨q, hq, -⟩
    · rfl
    · exact absurd hq (h.terminal q)
  · rcases hto.cases_head with rfl | ⟨q, hq, -⟩
    · rfl
    · exact absurd hq (h'.terminal q)

/-- A faulty round is the last one. -/
theorem Reached.lastRound_of_faulty (h : Reached input tokens p) (hstarts : StartsRound input p)
    (hfaulty : p.Faulty) : LastRound input p := by
  refine ⟨hstarts, fun q hq => ?_⟩
  have hround := h.round
  rw [hq] at hround
  cases hround with
  | next _ _ hfine => exact hfine hfaulty

/-- A parser before a round has taken some tokens. -/
theorem StartsRound.reached (h : StartsRound input p) : ∃ tokens, Reached input tokens p := by
  induction h with
  | refl => exact ⟨[], reached_new input⟩
  | tail _ hround ih =>
    obtain ⟨tokens, hreached⟩ := ih
    have hnext := hreached.round
    rw [hround] at hnext
    cases hnext with
    | next h => exact ⟨_, h⟩

/-- The exceptions that lead to the error state. -/
def LeadsToError (fault : ParsingFault) (p : JsonParser) : Prop :=
  (∃ e, fault = .readingFault (.lexerException e)) ∨
    ((∃ e, fault = .parserException e) ∧ p.parserStacks.state = .error)

/-- The exceptions that do not. -/
def Escapes (fault : ParsingFault) (p : JsonParser) : Prop :=
  (∃ message, fault = .readingFault (.logicError message)) ∨
    ((∃ e, fault = .parserException e) ∧ p.parserStacks.state ≠ .error)

/-- At the end the value is the one on the stack. -/
theorem run_value {container : JsonValueContainer} (h : p.parserStacks = ⟨.ended, [container], []⟩) :
    (do
      let container ← onStacks fun _ => ParserStacks.topValue
      return container.jsonValue : Program ParsingFault JsonParser JsonValue).run p =
        (.ok container.jsonValue, p) := by
  have htop : ParserStacks.topValue.run p.parserStacks = (.ok container, p.parserStacks) := by
    rw [h]
    rfl
  exact Program.run_bind_ok (run_onStacks_ok htop)

/-- **The first call**: a value that the whole string spells, or an exception. Whether it leads to the
error state is known before its round. -/
theorem ends_doParse (input : List UInt8) :
    Program.Ends (fun value p' => p'.parserStacks.state = .ended ∧
        (∃ t : JsonTree, SpelledAs t.tokens input ∧ t.Readable ∧ value = t.toValue) ∧
        ∃ p, LastRound input p ∧ ¬ p.Faulty)
      (fun fault p' => ∃ p, LastRound input p ∧
        ((¬ p.Faulty ∧ LeadsToError fault p') ∨ (p.Faulty ∧ Escapes fault p')))
      doParse (.new input) := by
  have hloop : Program.Ends (fun _ p' => ∃ p, LastRound input p ∧ ¬ p.Faulty ∧
        p'.parserStacks.state = .ended ∧ ∃ tokens, SpelledAs tokens input ∧
          ParserStacks.Consumed tokens p'.parserStacks)
      (fun fault p' => ∃ p, LastRound input p ∧
        ((¬ p.Faulty ∧ LeadsToError fault p') ∨ (p.Faulty ∧ Escapes fault p')))
      (Program.loop .outOfRounds parseToken ((JsonParser.new input).remaining.length + 1) ())
      (.new input) := by
    refine Program.ends_loop (J := fun _ p => StartsRound input p ∧ ∃ tokens, Reached input tokens p)
      (fun _ p => p.remaining.length) (fun _ p hp => ?_) ⟨.refl, [], reached_new input⟩
      (Nat.lt_succ_self _)
    obtain ⟨hstarts, tokens, hreached⟩ := hp
    have hround := hreached.round
    refine Program.ends_of_run (fun result p' hrun => ?_) fun fault p' hrun => ?_
    · have hlast := not_round_of_run hrun
      rw [hrun] at hround
      cases hround with
      | next h hlt hfine => exact ⟨⟨hstarts.tail hrun, _, h⟩, hlt⟩
      | atEnd hstate hstacks hspelled hfine =>
        refine ⟨p, ⟨hstarts, hlast nofun⟩, hfine, ?_⟩
        rw [hstacks]
        exact ⟨hstate, tokens, hspelled, hreached.consumed⟩
    · have hlast : LastRound input p := ⟨hstarts, not_round_of_run hrun nofun⟩
      rw [hrun] at hround
      refine ⟨p, hlast, ?_⟩
      cases hround with
      | lexerException hfine => exact .inl ⟨hfine, .inl ⟨_, rfl⟩⟩
      | refused hstate hfine => exact .inl ⟨hfine, .inr ⟨⟨_, rfl⟩, hstate⟩⟩
      | stray hfaulty => exact .inr ⟨hfaulty, .inl ⟨_, rfl⟩⟩
      | misplaced hstate hfaulty => exact .inr ⟨hfaulty, .inr ⟨⟨_, rfl⟩, hstate⟩⟩
  refine Program.Ends.bind (?_ : Program.Ends _ _ numRounds _)
  refine Program.Ends.bind (hloop.mono (fun _ p' hp' => ?_) fun _ _ => id)
  obtain ⟨p, hlast, hfine, hstate, tokens, hspelled, hconsumed⟩ := hp'
  obtain ⟨t, container, rfl, hreadable, hvalue, hstacks⟩ := hconsumed.of_ended hstate
  refine Program.ends_of_run (fun value q hrun => ?_) fun fault q hrun => ?_
  · rw [run_value hstacks] at hrun
    obtain ⟨hok, rfl⟩ := Prod.mk.inj hrun
    exact ⟨hstate, ⟨t, hspelled, hreadable, (Except.ok.inj hok).symm.trans hvalue⟩, p, hlast, hfine⟩
  · rw [run_value hstacks] at hrun
    cases (Prod.mk.inj hrun).1

/-- Tokens that are taken are taken by the loop, up to the end. -/
theorem run_loop_of_feeds {s : ParserStacks} {bytes : List UInt8} {n : ℕ}
    (hlexes : Lexes p.lexer bytes) (hspelled : SpelledAs tokens bytes) (hseparated : Separated tokens)
    (hfeeds : ParserStacks.Feeds p.parserStacks tokens s) (hstate : s.state = .ended)
    (hn : tokens.length < n) :
    ∃ p', (Program.loop .outOfRounds parseToken n ()).run p = (.ok (), p') ∧ p'.parserStacks = s := by
  induction tokens generalizing p bytes n with
  | nil =>
    obtain ⟨n, rfl⟩ := Nat.exists_eq_succ_of_ne_zero (Nat.ne_zero_of_lt hn)
    obtain ⟨l', hend⟩ := hlexes.nextToken_of_isWhitespace hspelled.isWhitespace
    cases hfeeds with
    | nil =>
      have hstep : p.parserStacks.step none = (.ok (), p.parserStacks) := by
        rw [ParserStacks.step, hstate]
        rfl
      exact ⟨_, Program.run_loop_done (run_parseToken_of_ok hend hstep), rfl⟩
  | cons token tokens ih =>
    obtain ⟨n, rfl⟩ := Nat.exists_eq_succ_of_ne_zero (Nat.ne_zero_of_lt hn)
    obtain ⟨l', rest, hnext, hlexes', hrest, -⟩ := hlexes.nextToken_of_spelledAs hspelled hseparated
    cases hfeeds with
    | cons hstep hfeeds =>
      rw [Program.run_loop_yield (run_parseToken_of_ok hnext hstep)]
      exact ih hlexes' hrest hseparated.2 hfeeds (Nat.lt_of_succ_lt_succ hn)

/-- **A value that can be read is read.** -/
theorem run_doParse_of_readable {t : JsonTree} (hspelled : SpelledAs t.tokens input)
    (ht : t.Readable) :
    ∃ p', doParse.run (.new input) = (.ok t.toValue, p') ∧ p'.parserStacks.state = .ended := by
  obtain ⟨container, hvalue, hfeeds⟩ := ParserStacks.delivers_of_readable ht _ .init
  obtain ⟨p', hloop, hstacks⟩ := run_loop_of_feeds (p := .new input) (lexes_new input) hspelled
    t.separated_tokens hfeeds rfl (Nat.lt_succ_of_le hspelled.length_le)
  refine ⟨p', ?_, congrArg ParserStacks.state hstacks⟩
  have hrounds : numRounds.run (.new input) = (.ok (input.length + 1), .new input) := rfl
  refine (Program.run_bind_ok hrounds).trans ((Program.run_bind_ok hloop).trans ?_)
  rw [← hvalue]
  exact run_value hstacks

end Rounds

end JsonParser

end OpenKit
