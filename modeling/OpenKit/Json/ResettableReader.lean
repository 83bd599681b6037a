import Mathlib.Algebra.Order.Group.Int
import Mathlib.Tactic.Common
import OpenKit.Library.Outcome

/-!
# The reader of the JSON lexer

The reader reads the bytes of a string one after the other. A position can be marked, and the reader goes
back to it as long as no more bytes were read since than the mark allows. Reading past the end makes the
underlying stream fail, and then it does not move any more.

## Main definitions

* `ResettableReader`: `DefaultResettableReader`
* `Reading`: programs that read
* `ResettableReader.read`, `mark`, `reset`

## Main results

* `ends_mark_read`: what is read behind a mark
* `ends_reset_of_one`: after one byte, a reader that was marked for one goes back
* `ends_reset_of_two`: after two bytes it does not
-/

namespace OpenKit

open Thread

/-- What a lexer exception is about. -/
inductive JsonLexerException
  | erroneousState
  | unexpectedLiteral (literal : List UInt8)
  | unterminatedString (text : List UInt8)
  | unterminatedUnicodeSequence (sequence : List UInt8)
  | invalidControlCharacter (character : UInt8)
  | invalidEscapeSequence (character : UInt8)
  | invalidUnicodeSequence (sequence : List UInt8) (character : UInt8)
  | invalidSurrogatePair (sequence : List UInt8)
  | invalidNumber (literal : List UInt8)
deriving DecidableEq, Repr

/-- The exceptions raised while a token is read. The model bounds its loops, and has a fault for a loop
that runs out of rounds. -/
inductive ReadingFault
  | lexerException (exception : JsonLexerException)
  | invalidArgument (message : String)
  | logicError (message : String)
  | outOfRounds
deriving DecidableEq, Repr

/-- A reader: the bytes still to be read, unless the stream has failed, and what it needs in order to go
back. -/
structure ResettableReader where
  stream : Option (List UInt8)
  /-- The number of bytes read. -/
  position : ℕ
  markedPosition : ℤ
  /-- The bytes that were still to be read at the marked position. -/
  markedRemaining : List UInt8
  lookAheadLimit : ℤ
deriving DecidableEq, Repr

/-- A program that reads. -/
abbrev Reading (α : Type) : Type := Program ReadingFault ResettableReader α

namespace ResettableReader

/-- The reader of a string. -/
def new (input : List UInt8) : ResettableReader where
  stream := some input
  position := 0
  markedPosition := 0
  markedRemaining := input
  lookAheadLimit := -1

/-- The bytes still to be read. -/
def remaining (r : ResettableReader) : List UInt8 := r.stream.getD []

/-- The position of the stream, if it has not failed. -/
def tellg (r : ResettableReader) : ℤ := if r.stream.isNone then -1 else r.position

/-- The next byte, and none at the end, where the stream fails. -/
def readByte (r : ResettableReader) : Option UInt8 × ResettableReader :=
  match r.stream with
  | none => (none, r)
  | some [] => (none, { r with stream := none })
  | some (b :: remaining) =>
    (some b, { r with stream := some remaining, position := r.position + 1 })

/-- The reader with a mark at its position. -/
def markAt (r : ResettableReader) (lookAheadLimit : ℤ) : ResettableReader :=
  { r with
    markedPosition := r.tellg
    markedRemaining := r.remaining
    lookAheadLimit := lookAheadLimit }

/-- `seekg` to the mark, which does nothing after the stream has failed. -/
def seekToMark (r : ResettableReader) : ResettableReader :=
  if r.stream.isNone then r
  else { r with stream := some r.markedRemaining, position := r.markedPosition.toNat }

/-! ## Programs -/

def read : Reading (Option UInt8) := .atomic readByte

def mark (lookAheadLimit : ℤ) : Reading Unit :=
  if lookAheadLimit < 0 then .fail (.invalidArgument "lookAheadLimit < 0")
  else .write (·.markAt lookAheadLimit)

def reset : Reading Unit := do
  let r ← Program.read fun r => r
  if r.lookAheadLimit < 0 then
    .fail (.logicError "No position has been marked")
  else if r.markedPosition + r.lookAheadLimit < r.tellg then
    .fail (.logicError ("Cannot reset beyond " ++ toString r.lookAheadLimit ++
      " characters. Tried to reset " ++ toString (r.tellg - r.markedPosition) ++ " characters"))
  else
    .write seekToMark

/-! ## What they do -/

@[simp] theorem remaining_new (input : List UInt8) : (new input).remaining = input := rfl

@[simp] theorem remaining_markAt (r : ResettableReader) (lookAheadLimit : ℤ) :
    (r.markAt lookAheadLimit).remaining = r.remaining := rfl

/-- The reader was marked for one byte. -/
structure MarkedForOne (r : ResettableReader) : Prop where
  lookAheadLimit : r.lookAheadLimit = 1
  markedPosition : -1 ≤ r.markedPosition

/-- The reader was marked for one byte before `marked`, and has read `n` bytes since. -/
structure AfterMark (marked : List UInt8) (n : ℤ) (r : ResettableReader) : Prop
    extends MarkedForOne r where
  markedRemaining : r.markedRemaining = marked
  position : r.tellg = r.markedPosition + n
  notFailed : r.stream ≠ none

section Ends

variable {r : ResettableReader} {input marked : List UInt8} {n : ℤ}

/-- Bytes that are still to be read are in the stream. -/
theorem stream_of_remaining {b : UInt8} {rest : List UInt8} (h : r.remaining = b :: rest) :
    r.stream = some (b :: rest) := by
  rw [remaining] at h
  cases hstream : r.stream with
  | none => rw [hstream] at h; cases h
  | some bytes => rw [hstream] at h; exact congrArg some h

theorem readByte_fst (r : ResettableReader) : r.readByte.1 = r.remaining.head? := by
  rw [readByte, remaining]
  rcases r.stream with _ | _ | ⟨b, rest⟩ <;> rfl

theorem remaining_readByte (r : ResettableReader) : r.readByte.2.remaining = r.remaining.tail := by
  rw [readByte, remaining, remaining]
  rcases hstream : r.stream with _ | _ | ⟨b, rest⟩
  · simp [hstream]
  · rfl
  · rfl

theorem markedForOne_markAt (r : ResettableReader) : (r.markAt 1).MarkedForOne := by
  refine ⟨rfl, ?_⟩
  show -1 ≤ r.tellg
  rw [tellg]
  split <;> omega

theorem MarkedForOne.readByte (h : r.MarkedForOne) : r.readByte.2.MarkedForOne := by
  have hsame : r.readByte.2.lookAheadLimit = r.lookAheadLimit ∧
      r.readByte.2.markedPosition = r.markedPosition := by
    rw [ResettableReader.readByte]
    rcases r.stream with _ | _ | ⟨b, rest⟩ <;> exact ⟨rfl, rfl⟩
  exact ⟨hsame.1.trans h.lookAheadLimit, h.markedPosition.trans_eq hsame.2.symm⟩

theorem stream_readByte_nil (h : r.remaining = []) : r.readByte.2.stream = none := by
  rw [remaining] at h
  rw [ResettableReader.readByte]
  rcases hstream : r.stream with _ | _ | ⟨b, rest⟩
  · exact hstream
  · rfl
  · rw [hstream] at h
    cases h

theorem afterMark_markAt {b : UInt8} {rest : List UInt8} (h : r.remaining = b :: rest) :
    (r.markAt 1).AfterMark (b :: rest) 0 := by
  refine ⟨markedForOne_markAt r, h, (add_zero _).symm, ?_⟩
  show r.stream ≠ none
  rw [stream_of_remaining h]
  exact Option.some_ne_none _

/-- A byte that is read is one more since the mark. -/
theorem AfterMark.readByte (h : r.AfterMark marked n) (hremaining : r.remaining ≠ []) :
    r.readByte.2.AfterMark marked (n + 1) := by
  obtain ⟨b, rest, hcons⟩ := List.exists_cons_of_ne_nil hremaining
  have hstream := stream_of_remaining hcons
  have hread : r.readByte.2 = { r with stream := some rest, position := r.position + 1 } := by
    rw [ResettableReader.readByte, hstream]
  have hposition : (r.position : ℤ) = r.markedPosition + n := by
    have htellg := h.position
    rwa [tellg, hstream] at htellg
  refine ⟨h.toMarkedForOne.readByte, ?_, ?_, ?_⟩
  · rw [hread]
    exact h.markedRemaining
  · rw [hread]
    show ((r.position + 1 : ℕ) : ℤ) = r.markedPosition + (n + 1)
    omega
  · rw [hread]
    exact Option.some_ne_none _

theorem ends_read (hremaining : r.remaining = input) :
    Program.Ends (fun c r' => c = input.head? ∧ r'.remaining = input.tail) (fun _ _ => False)
      read r := by
  show r.readByte.1 = _ ∧ r.readByte.2.remaining = _
  rw [readByte_fst, remaining_readByte, hremaining]
  exact ⟨rfl, rfl⟩

/-- **Reading behind a mark**: at the end the stream fails, and otherwise it is one byte since the mark. -/
theorem ends_mark_read {α : Type} {g : Option UInt8 → Reading α} {Q : α → ResettableReader → Prop}
    {E : ReadingFault → ResettableReader → Prop} (hremaining : r.remaining = input)
    (hend : input = [] → ∀ r', r'.remaining = [] → r'.MarkedForOne → r'.stream = none →
      Program.Ends Q E (g none) r')
    (hbyte : ∀ b rest, input = b :: rest → ∀ r', r'.remaining = rest →
      r'.AfterMark (b :: rest) 1 → Program.Ends Q E (g (some b)) r') :
    Program.Ends Q E (do mark 1; let c ← read; g c) r := by
  show Program.Ends Q E (g (r.markAt 1).readByte.1) (r.markAt 1).readByte.2
  have hmarked : (r.markAt 1).remaining = input := hremaining
  rw [readByte_fst, hmarked]
  have hrest := remaining_readByte (r.markAt 1)
  rw [hmarked] at hrest
  cases hinput : input with
  | nil =>
    rw [hinput] at hrest
    exact hend hinput _ hrest (markedForOne_markAt r).readByte
      (stream_readByte_nil (hmarked.trans hinput))
  | cons b rest =>
    rw [hinput] at hrest hremaining hmarked
    have hafter := (afterMark_markAt hremaining).readByte (by rw [hmarked]; exact List.cons_ne_nil _ _)
    exact hbyte b rest hinput _ hrest hafter

/-- **One byte back.** -/
theorem ends_reset_of_one (h : r.AfterMark marked 1) :
    Program.Ends (fun _ r' => r'.remaining = marked) (fun _ _ => False) reset r := by
  show Program.Ends _ _ (ite (r.lookAheadLimit < 0) _
    (ite (r.markedPosition + r.lookAheadLimit < r.tellg) _ _)) r
  rw [if_neg (by rw [h.lookAheadLimit]; decide),
    if_neg (by rw [h.lookAheadLimit, h.position]; exact lt_irrefl _)]
  show r.seekToMark.remaining = marked
  rw [seekToMark, if_neg (by simpa using h.notFailed)]
  exact h.markedRemaining

/-- **Two bytes back** is beyond the limit. -/
theorem ends_reset_of_two (h : r.AfterMark marked 2) :
    Program.Ends (fun _ _ => False) (fun e _ => ∃ message, e = .logicError message) reset r := by
  show Program.Ends _ _ (ite (r.lookAheadLimit < 0) _
    (ite (r.markedPosition + r.lookAheadLimit < r.tellg) _ _)) r
  rw [if_neg (by rw [h.lookAheadLimit]; decide),
    if_pos (by rw [h.lookAheadLimit, h.position]; omega)]
  exact ⟨_, rfl⟩

/-- After the stream has failed there is no way back, and no exception. -/
theorem ends_reset_of_failed (h : r.MarkedForOne) (hstream : r.stream = none) :
    Program.Ends (fun _ _ => True) (fun _ _ => False) reset r := by
  have hposition := h.markedPosition
  have htellg : r.tellg = -1 := by rw [tellg, hstream]; rfl
  show Program.Ends _ _ (ite (r.lookAheadLimit < 0) _
    (ite (r.markedPosition + r.lookAheadLimit < r.tellg) _ _)) r
  rw [if_neg (by rw [h.lookAheadLimit]; decide), if_neg (by rw [h.lookAheadLimit, htellg]; omega)]
  trivial

end Ends

end ResettableReader

end OpenKit
