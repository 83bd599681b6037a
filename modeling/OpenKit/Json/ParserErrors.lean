import OpenKit.Json.JsonTexts

/-!
# Errors of the parser

A parser is to raise parser exceptions only, and to stay in the error state once it has raised one. It does
so unless its first call comes to a faulty round: one that raises the exception of the reader, or one that
takes a misplaced token.

## Main definitions

* `JsonParser.afterCalls`, `JsonParser.outcome`: the calls on one parser
* `JsonParser.ContainedAndSticky`: what its exceptions are to do

## Main results

* `JsonParser.containedAndSticky_iff`: they do so if no round of the first call is faulty
-/

namespace OpenKit

open Thread

namespace JsonParser

/-- The parser of a string after some calls. -/
def afterCalls (input : List UInt8) (n : ℕ) : JsonParser := (fun p => (parse p).2)^[n] (.new input)

/-- What a call returns or raises. -/
def outcome (input : List UInt8) (n : ℕ) : Except ParsingFault JsonValue :=
  (parse (afterCalls input n)).1

/-- A call that raises an exception raises one of the parser, leaves the parser in the error state, and so
does every later call. -/
def ContainedAndSticky (input : List UInt8) : Prop :=
  ∀ n fault, outcome input n = .error fault →
    (∃ e, fault = .parserException e) ∧ (afterCalls input (n + 1)).parserStacks.state = .error ∧
      ∀ m > n, ∃ e, outcome input m = .error (.parserException e)

section Calls

variable {input : List UInt8} {p : JsonParser} {n : ℕ}

theorem afterCalls_succ (input : List UInt8) (n : ℕ) :
    afterCalls input (n + 1) = (parse (afterCalls input n)).2 :=
  Function.iterate_succ_apply' _ n _

/-- A parser in the error state stays as it is. -/
theorem parse_of_error (h : p.parserStacks.state = .error) :
    parse p = (.error (.parserException .erroneousState), p) := by
  rw [parse, h]

/-- A parser at the end stays as it is. -/
theorem parse_of_ended (h : p.parserStacks.state = .ended) : parse p = (.ok p.parsedValue, p) := by
  rw [parse, h]

/-- A parser that a call leaves as it is stays so. -/
theorem afterCalls_of_fixed (h : (parse (afterCalls input n)).2 = afterCalls input n) {m : ℕ}
    (hm : n ≤ m) : afterCalls input m = afterCalls input n := by
  induction m, hm using Nat.le_induction with
  | base => rfl
  | succ m _ ih => rw [afterCalls_succ, ih, h]

/-- The exception that a call raises for one of the loop. -/
theorem parse_new_of_error {fault : ParsingFault} {p' : JsonParser}
    (h : doParse.run (.new input) = (.error fault, p')) (hfault : LeadsToError fault p') :
    ∃ e, (parse (.new input)).1 = .error (.parserException e) ∧
      (parse (.new input)).2.parserStacks.state = .error := by
  rw [parse_new, h]
  rcases hfault with ⟨e, rfl⟩ | ⟨⟨e, rfl⟩, hstate⟩
  · exact ⟨_, rfl, rfl⟩
  · exact ⟨_, rfl, hstate⟩

/-- An exception that does not lead to the error state passes through. -/
theorem parse_new_of_escapes {fault : ParsingFault} {p' : JsonParser}
    (h : doParse.run (.new input) = (.error fault, p')) (hfault : Escapes fault p') :
    parse (.new input) = (.error fault, p') := by
  rw [parse_new, h]
  rcases hfault with ⟨message, rfl⟩ | ⟨⟨e, rfl⟩, -⟩ <;> rfl

/-- **The calls after the first one** do as it did, if it left the parser at its end or in the error
state. -/
theorem containedAndSticky_of_first
    (h : (parse (.new input)).2.parserStacks.state = .ended ∧ (∃ value, outcome input 0 = .ok value) ∨
      (parse (.new input)).2.parserStacks.state = .error ∧
        ∃ e, outcome input 0 = .error (.parserException e)) :
    ContainedAndSticky input := by
  have hone : afterCalls input 1 = (parse (.new input)).2 := afterCalls_succ input 0
  rcases h with ⟨hstate, value, hzero⟩ | ⟨hstate, e, hzero⟩
  · -- every later call returns
    have hlater : ∀ m, 1 ≤ m → ∃ value, outcome input m = .ok value := by
      intro m hm
      have hfixed : afterCalls input m = afterCalls input 1 :=
        afterCalls_of_fixed (by rw [hone, parse_of_ended hstate]) hm
      exact ⟨_, by rw [outcome, hfixed, hone, parse_of_ended hstate]⟩
    intro n fault hn
    rcases Nat.eq_zero_or_pos n with rfl | hpos
    · rw [hzero] at hn
      cases hn
    · obtain ⟨value, hvalue⟩ := hlater n hpos
      rw [hvalue] at hn
      cases hn
  · -- every later call raises an exception
    have hfixed : ∀ m, 1 ≤ m → afterCalls input m = (parse (.new input)).2 := by
      intro m hm
      rw [← hone]
      exact afterCalls_of_fixed (by rw [hone, parse_of_error hstate]) hm
    have hlater : ∀ m, ∃ e, outcome input m = .error (.parserException e) := by
      intro m
      rcases Nat.eq_zero_or_pos m with rfl | hpos
      · exact ⟨e, hzero⟩
      · exact ⟨_, by rw [outcome, hfixed m hpos, parse_of_error hstate]⟩
    intro n fault hn
    obtain ⟨e', he'⟩ := hlater n
    rw [he'] at hn
    refine ⟨⟨e', (Except.error.inj hn).symm⟩, ?_, fun m _ => hlater m⟩
    rw [hfixed (n + 1) (Nat.le_add_left 1 n)]
    exact hstate

/-- **The errors of a parser** are contained and sticky, if and only if no round of its first call is
faulty. -/
theorem containedAndSticky_iff (input : List UInt8) :
    ContainedAndSticky input ↔ ∀ p, StartsRound input p → ¬ p.Faulty := by
  have hends := ends_doParse input
  constructor
  · intro hsticky p hstarts hfaulty
    obtain ⟨tokens, hreached⟩ := hstarts.reached
    have hlast := hreached.lastRound_of_faulty hstarts hfaulty
    rcases hrun : doParse.run (.new input) with ⟨fault | value, p'⟩
    · obtain ⟨q, hq, ⟨hfine, -⟩ | ⟨-, hescapes⟩⟩ := hends.run_error hrun
      · exact hfine (hq.unique hlast ▸ hfaulty)
      · have hparse := parse_new_of_escapes hrun hescapes
        obtain ⟨⟨e, rfl⟩, hstate, -⟩ := hsticky 0 fault (congrArg Prod.fst hparse)
        rw [afterCalls_succ] at hstate
        have hstate' : p'.parserStacks.state = .error := by
          rw [← hstate]
          exact congrArg (fun q => q.2.parserStacks.state) hparse.symm
        rcases hescapes with ⟨message, h⟩ | ⟨-, hne⟩
        · cases h
        · exact hne hstate'
    · obtain ⟨-, -, q, hq, hfine⟩ := hends.run_ok hrun
      exact hfine (hq.unique hlast ▸ hfaulty)
  · intro hfine
    apply containedAndSticky_of_first
    rcases hrun : doParse.run (.new input) with ⟨fault | value, p'⟩
    · right
      obtain ⟨q, hq, ⟨-, herror⟩ | ⟨hfaulty, -⟩⟩ := hends.run_error hrun
      · obtain ⟨e, houtcome, hstate⟩ := parse_new_of_error hrun herror
        exact ⟨hstate, e, houtcome⟩
      · exact absurd hfaulty (hfine q hq.startsRound)
    · left
      have hparse := parse_new_of_ok hrun
      obtain ⟨hstate, -⟩ := hends.run_ok hrun
      refine ⟨?_, value, congrArg Prod.fst hparse⟩
      rw [hparse]
      exact hstate

/-- A high surrogate with another escape sequence behind it, in a string. -/
def strayPairText : List UInt8 :=
  [0x22, 0x5C, 0x75, 0x64, 0x38, 0x30, 0x30, 0x5C, 0x6E, 0x22]

/-- A member without a value. -/
def missingValueText : List UInt8 := [0x7B, 0x22, 0x61, 0x22, 0x3A, 0x5D]

/-- **A stray pair** raises the exception of the reader, and a **misplaced token** leaves the parser in
the state behind the colon. -/
theorem not_containedAndSticky_texts :
    ¬ ContainedAndSticky strayPairText ∧ ¬ ContainedAndSticky missingValueText := by
  constructor
  · intro h
    have hzero : outcome strayPairText 0 = .error (.readingFault (.logicError
      "Cannot reset beyond 1 characters. Tried to reset 2 characters")) := rfl
    obtain ⟨⟨e, he⟩, -⟩ := h 0 _ hzero
    cases he
  · intro h
    have hzero : outcome missingValueText 0 = .error (.parserException
      (.unexpectedToken .rightSquareBracket "after key-value pair encountered")) := rfl
    obtain ⟨-, hstate, -⟩ := h 0 _ hzero
    have hcolon : (afterCalls missingValueText 1).parserStacks.state = .inObjectColon := rfl
    rw [hcolon] at hstate
    cases hstate

end Calls

end JsonParser

end OpenKit
