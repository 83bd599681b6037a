import Mathlib.Data.List.Induction
import Mathlib.Data.List.Infix
import OpenKit.Core.Utf8Characters

/-!
# The normalisation of a string

The constructor of a string goes over the bytes up to the terminator. It keeps complete characters, and
puts a replacement character where one is broken off or where a byte continues none. Bytes that neither
start nor continue a character are skipped. One that stands inside a character is copied with it, though,
as its bytes are counted back from its last one.

## Main definitions

* `UTF8String.validateString`: the constructor
* `UTF8String.sequencesOf`: the complete characters of the input
* `UTF8String.Intruded`: a byte that is no part of any character stands inside one
* `UTF8String.Normalised`: what the constructor is for

## Main results

* `UTF8String.exists_pieces`: what every string is made of
* `UTF8String.validateString_bytesOf`: strings of characters are kept
* `UTF8String.normalised_iff`: exactly the inputs without intruders are normalised
-/

namespace OpenKit

namespace UTF8String

/-! ## The constructor -/

/-- The bytes before the terminator, which is NUL or, as in modified UTF-8, a NUL of two bytes. -/
def terminated : List UInt8 → List UInt8
  | [] => []
  | character :: stringData =>
    if character = 0 ∨ character = 0xC0 ∧ stringData.head? = some 0x80 then []
    else character :: terminated stringData

/-- The replacement character. -/
def replacementCharacter : Utf8Character :=
  ⟨0xEF, [0xBF, 0xBD], by decide, by decide, List.all_iff_forall_prop.mp (by decide)⟩

/-- What `validateString` works on. -/
structure Validation where
  data : List UInt8
  characterCount : ℕ
  multibyteSequenceLength : ℤ
  multibyteSequencePosition : ℤ
deriving DecidableEq, Repr

namespace Validation

def init : Validation := ⟨[], 0, -1, -1⟩

/-- Appends a character; no sequence is in progress then. -/
def append (s : Validation) (character : List UInt8) : Validation :=
  ⟨s.data ++ character, s.characterCount + 1, -1, -1⟩

/-- A sequence that is in progress is replaced. -/
def replaceIf (s : Validation) (inProgress : Bool) : Validation :=
  if inProgress then s.append replacementCharacter.bytes else s

end Validation

/-- A round of the loop in `validateString`. -/
def validateByte (stringData : List UInt8) (s : Validation) (i : ℕ) : Validation :=
  let character := stringData.getD i 0
  let byteWidthOfCurrentCharacter := getByteWidthOfCharacter character
  if isPartOfPreviousUtf8Multibyte character then
    let multibyteSequencePosition := s.multibyteSequencePosition + 1
    if multibyteSequencePosition > s.multibyteSequenceLength - 1 then
      s.append replacementCharacter.bytes
    else if multibyteSequencePosition = s.multibyteSequenceLength - 1 then
      let offset := (i - s.multibyteSequenceLength + 1).toNat
      s.append ((List.range s.multibyteSequenceLength.toNat).map fun j => stringData.getD (offset + j) 0)
    else { s with multibyteSequencePosition := multibyteSequencePosition }
  else if byteWidthOfCurrentCharacter = 1 then
    (s.replaceIf (s.multibyteSequenceLength ≥ 0)).append [character]
  else if byteWidthOfCurrentCharacter > 1 then
    { s.replaceIf (s.multibyteSequenceLength ≠ -1) with
      multibyteSequenceLength := byteWidthOfCurrentCharacter
      multibyteSequencePosition := 0 }
  else s

/-- The state after some rounds. -/
def validateBytes (stringData : List UInt8) (rounds : ℕ) : Validation :=
  (List.range rounds).foldl (validateByte stringData) .init

/-- The constructor: the string of the bytes before the terminator. -/
def validateString (stringData : List UInt8) : UTF8String :=
  let s := validateBytes (terminated stringData) (terminated stringData).length
  ⟨s.data, s.characterCount⟩

variable {bytes : List UInt8} {i w k : ℕ} {b : UInt8}

theorem validateBytes_succ (bytes : List UInt8) (i : ℕ) :
    validateBytes bytes (i + 1) = validateByte bytes (validateBytes bytes i) i := by
  rw [validateBytes, List.range_succ, List.foldl_append]
  rfl

/-! ## The kinds of bytes -/

/-- What is no part of a character neither starts nor continues one. -/
def IsIntruder (b : UInt8) : Prop :=
  getByteWidthOfCharacter b = 0 ∧ isPartOfPreviousUtf8Multibyte b = false

theorem validateByte_ascii {s : Validation} (hb : bytes.getD i 0 = b)
    (hwidth : getByteWidthOfCharacter b = 1) :
    validateByte bytes s i = (s.replaceIf (s.multibyteSequenceLength ≥ 0)).append [b] := by
  have hcont : isPartOfPreviousUtf8Multibyte b = false := by
    by_contra h
    rw [getByteWidth_of_continuation (Bool.not_eq_false _ ▸ h)] at hwidth
    cases hwidth
  rw [validateByte, hb]
  dsimp only
  rw [hcont, if_neg Bool.false_ne_true, if_pos hwidth]

theorem validateByte_lead {s : Validation} (hb : bytes.getD i 0 = b)
    (hwidth : 2 ≤ getByteWidthOfCharacter b) :
    validateByte bytes s i = { s.replaceIf (s.multibyteSequenceLength ≠ -1) with
      multibyteSequenceLength := getByteWidthOfCharacter b
      multibyteSequencePosition := 0 } := by
  have hcont : isPartOfPreviousUtf8Multibyte b = false := by
    by_contra h
    rw [getByteWidth_of_continuation (Bool.not_eq_false _ ▸ h)] at hwidth
    cases hwidth
  rw [validateByte, hb]
  dsimp only
  rw [hcont, if_neg Bool.false_ne_true, if_neg (by omega), if_pos (by omega)]

theorem validateByte_intruder {s : Validation} (hb : bytes.getD i 0 = b) (h : IsIntruder b) :
    validateByte bytes s i = s := by
  rw [validateByte, hb]
  dsimp only
  rw [h.2, if_neg Bool.false_ne_true, h.1, if_neg Nat.zero_ne_one, if_neg (Nat.not_lt_zero 1)]

/-- A byte that continues no character. -/
theorem validateByte_stray {s : Validation} (hb : bytes.getD i 0 = b)
    (hcont : isPartOfPreviousUtf8Multibyte b = true)
    (hs : s.multibyteSequenceLength ≤ s.multibyteSequencePosition + 1) :
    validateByte bytes s i = s.append replacementCharacter.bytes := by
  rw [validateByte, hb]
  dsimp only
  rw [hcont, if_pos rfl, if_pos (by omega)]

/-- A byte that continues a character, but is not its last one. -/
theorem validateByte_continuation {s : Validation} (hb : bytes.getD i 0 = b)
    (hcont : isPartOfPreviousUtf8Multibyte b = true)
    (hs : s.multibyteSequencePosition + 2 < s.multibyteSequenceLength) :
    validateByte bytes s i =
      { s with multibyteSequencePosition := s.multibyteSequencePosition + 1 } := by
  rw [validateByte, hb]
  dsimp only
  rw [hcont, if_pos rfl, if_neg (by omega), if_neg (by omega)]

/-- **The last byte** of a character: as many bytes as it has are copied. -/
theorem validateByte_last {s : Validation} (hi : i < bytes.length) (hb : bytes.getD i 0 = b)
    (hcont : isPartOfPreviousUtf8Multibyte b = true) (hlength : s.multibyteSequenceLength = w)
    (hposition : s.multibyteSequencePosition + 2 = w) (hw : 0 < w) (hwi : w ≤ i + 1) :
    validateByte bytes s i = s.append ((bytes.take (i + 1)).drop (i + 1 - w)) := by
  have hoffset : ((i : ℤ) - w + 1).toNat = i + 1 - w := by omega
  have hcopied : ((List.range w).map fun j => bytes.getD (i + 1 - w + j) 0) =
      (bytes.take (i + 1)).drop (i + 1 - w) := by
    refine List.ext_getElem ?_ fun j hj hj' => ?_
    · rw [List.length_map, List.length_range, List.length_drop, List.length_take]
      omega
    · rw [List.length_map, List.length_range] at hj
      rw [List.getElem_map, List.getElem_range, List.getElem_drop, List.getElem_take,
        List.getD_eq_getElem?_getD, List.getElem?_eq_getElem]
      rfl
  rw [validateByte, hb]
  dsimp only
  rw [hcont, if_pos rfl, if_neg (by omega), if_pos (by omega), hlength, Int.toNat_natCast, hoffset,
    hcopied]

/-! ## What the string is made of -/

/-- What the code appends: a character, or bytes of which none starts one. -/
def IsPiece (p : List UInt8) : Prop :=
  (∃ c : Utf8Character, p = c.bytes) ∨ p ≠ [] ∧ ∀ b ∈ p, getByteWidthOfCharacter b = 0

/-- **An intruder** stands inside a character: behind its lead byte and before its last one, which the
code takes for one character. -/
def Intruded (bytes : List UInt8) : Prop :=
  ∃ front lead inner last back, bytes = front ++ lead :: (inner ++ last :: back) ∧
    isPartOfPreviousUtf8Multibyte last = true ∧ (∀ b ∈ inner, getByteWidthOfCharacter b = 0) ∧
    inner.countP isPartOfPreviousUtf8Multibyte + 2 = getByteWidthOfCharacter lead ∧
    ∃ b ∈ inner, IsIntruder b

/-- Where the code stands: between characters, or inside one. -/
inductive Stands (seen : List UInt8) (s : Validation) : Prop
  | between (hlength : s.multibyteSequenceLength = -1) (hposition : s.multibyteSequencePosition = -1)
      (hnone : ∀ front lead inner, seen = front ++ lead :: inner →
        (∀ b ∈ inner, getByteWidthOfCharacter b = 0) →
        getByteWidthOfCharacter lead < inner.countP isPartOfPreviousUtf8Multibyte + 2)
  | inside (front : List UInt8) (lead : UInt8) (inner : List UInt8)
      (hseen : seen = front ++ lead :: inner)
      (hlength : s.multibyteSequenceLength = getByteWidthOfCharacter lead)
      (hposition : s.multibyteSequencePosition = inner.countP isPartOfPreviousUtf8Multibyte)
      (hless : inner.countP isPartOfPreviousUtf8Multibyte + 2 ≤ getByteWidthOfCharacter lead)
      (hinner : ∀ b ∈ inner, getByteWidthOfCharacter b = 0)

/-- The last byte that starts a character is determined. -/
theorem eq_of_append_lead {front front' inner inner' : List UInt8} {lead lead' : UInt8}
    (h : front ++ lead :: inner = front' ++ lead' :: inner')
    (hinner : ∀ b ∈ inner, getByteWidthOfCharacter b = 0)
    (hinner' : ∀ b ∈ inner', getByteWidthOfCharacter b = 0)
    (hlead : getByteWidthOfCharacter lead ≠ 0) (hlead' : getByteWidthOfCharacter lead' ≠ 0) :
    front = front' ∧ lead = lead' ∧ inner = inner' := by
  rcases List.append_eq_append_iff.mp h with ⟨as, hfront, hrest⟩ | ⟨as, hfront, hrest⟩
  · cases as with
    | nil =>
      obtain ⟨hlead, hinner⟩ := List.cons.inj hrest
      exact ⟨(hfront.trans (List.append_nil _)).symm, hlead, hinner⟩
    | cons a as =>
      obtain ⟨rfl, rfl⟩ := List.cons.inj hrest
      exact absurd (hinner lead' (List.mem_append_right _ List.mem_cons_self)) hlead'
  · cases as with
    | nil =>
      obtain ⟨hlead, hinner⟩ := List.cons.inj hrest
      exact ⟨hfront.trans (List.append_nil _), hlead.symm, hinner.symm⟩
    | cons a as =>
      obtain ⟨rfl, rfl⟩ := List.cons.inj hrest
      exact absurd (hinner' lead (List.mem_append_right _ List.mem_cons_self)) hlead

/-- No character is left open by a byte that starts none. -/
theorem Stands.between_snoc {seen : List UInt8} {s : Validation} {b : UInt8}
    (hlength : s.multibyteSequenceLength = -1) (hposition : s.multibyteSequencePosition = -1)
    (hwidth : getByteWidthOfCharacter b < 2)
    (hnone : getByteWidthOfCharacter b = 0 → ∀ front lead inner, seen = front ++ lead :: inner →
      (∀ b ∈ inner, getByteWidthOfCharacter b = 0) →
      getByteWidthOfCharacter lead < (inner ++ [b]).countP isPartOfPreviousUtf8Multibyte + 2) :
    Stands (seen ++ [b]) s := by
  refine .between hlength hposition fun front lead inner hseen hinner => ?_
  rcases List.eq_nil_or_concat inner with rfl | ⟨inner, last, rfl⟩
  · obtain ⟨-, hlead⟩ := List.append_inj' hseen rfl
    rw [← (List.cons.inj hlead).1]
    exact hwidth
  · rw [List.concat_eq_append, ← List.cons_append, ← List.append_assoc] at hseen
    obtain ⟨hseen', hlast⟩ := List.append_inj' hseen rfl
    obtain rfl := (List.cons.inj hlast).1
    rw [List.concat_eq_append] at hinner ⊢
    obtain ⟨hinner, hzero⟩ := List.forall_mem_append.mp hinner
    exact hnone (hzero b (List.mem_singleton.mpr rfl)) front lead inner hseen' hinner

/-- **What the code has appended**: characters, and pieces where an intruder stands inside one. -/
structure Appended (bytes : List UInt8) (pieces : List (List UInt8)) (s : Validation) : Prop where
  data : s.data = pieces.flatten
  characterCount : s.characterCount = pieces.length
  isPiece : ∀ p ∈ pieces, IsPiece p
  isCharacter : ¬ Intruded bytes → ∀ p ∈ pieces, ∃ c : Utf8Character, p = c.bytes
  isInfix : ∀ p ∈ pieces, p = replacementCharacter.bytes ∨ p <:+: bytes

theorem Appended.append {pieces : List (List UInt8)} {s : Validation} (h : Appended bytes pieces s)
    {p : List UInt8} (hp : IsPiece p) (hc : ¬ Intruded bytes → ∃ c : Utf8Character, p = c.bytes)
    (hpart : p = replacementCharacter.bytes ∨ p <:+: bytes) :
    Appended bytes (pieces ++ [p]) (s.append p) := by
  refine ⟨?_, ?_, ?_, fun hnone => ?_, ?_⟩
  · rw [Validation.append, h.data, List.flatten_append, List.flatten_singleton]
  · rw [Validation.append, h.characterCount, List.length_append, List.length_singleton]
  · exact List.forall_mem_append.mpr ⟨h.isPiece, List.forall_mem_singleton.mpr hp⟩
  · exact List.forall_mem_append.mpr ⟨h.isCharacter hnone, List.forall_mem_singleton.mpr (hc hnone)⟩
  · exact List.forall_mem_append.mpr ⟨h.isInfix, List.forall_mem_singleton.mpr hpart⟩

theorem Appended.appendCharacter {pieces : List (List UInt8)} {s : Validation}
    (h : Appended bytes pieces s) (c : Utf8Character)
    (hpart : c.bytes = replacementCharacter.bytes ∨ c.bytes <:+: bytes) :
    Appended bytes (pieces ++ [c.bytes]) (s.append c.bytes) :=
  h.append (.inl ⟨c, rfl⟩) (fun _ => ⟨c, rfl⟩) hpart

theorem Appended.replaceIf {pieces : List (List UInt8)} {s : Validation} (h : Appended bytes pieces s)
    (inProgress : Bool) : ∃ new, Appended bytes (pieces ++ new) (s.replaceIf inProgress) := by
  cases inProgress with
  | true => exact ⟨[replacementCharacter.bytes], h.appendCharacter replacementCharacter (.inl rfl)⟩
  | false =>
    refine ⟨[], ?_⟩
    rw [List.append_nil]
    exact h

/-- **The state of the code** after some bytes: what it has appended, and where it stands. -/
structure Scanned (bytes seen : List UInt8) (pieces : List (List UInt8)) (s : Validation) : Prop
    extends Appended bytes pieces s where
  stands : Stands seen s

/-! ## A round -/

section Step

variable {seen : List UInt8} {pieces : List (List UInt8)} {s : Validation}

/-- A character that ends at a byte has no other one, or is continued by it. -/
theorem eq_or_exists_of_append_bytes {front : List UInt8} {c : Utf8Character}
    (h : seen ++ [b] = front ++ c.bytes) :
    c.lead = b ∧ c.rest = [] ∨ ∃ inner, c.rest = inner ++ [b] ∧ seen = front ++ c.lead :: inner := by
  rcases List.eq_nil_or_concat c.rest with hrest | ⟨inner, last, hrest⟩
  · rw [Utf8Character.bytes, hrest] at h
    obtain ⟨-, hlast⟩ := List.append_inj' h rfl
    exact .inl ⟨(List.cons.inj hlast).1.symm, hrest⟩
  · rw [List.concat_eq_append] at hrest
    rw [Utf8Character.bytes, hrest, ← List.cons_append, ← List.append_assoc] at h
    obtain ⟨hseen, hlast⟩ := List.append_inj' h rfl
    obtain rfl := (List.cons.inj hlast).1
    exact .inr ⟨inner, hrest, hseen⟩

/-- No character ends at a byte that continues none, unless it is one itself. -/
theorem ends_of_not_continuation {front : List UInt8} {c : Utf8Character}
    (h : seen ++ [b] = front ++ c.bytes) (hb : isPartOfPreviousUtf8Multibyte b = false) :
    getByteWidthOfCharacter b = 1 ∧ c.bytes = [b] := by
  rcases eq_or_exists_of_append_bytes h with ⟨hlead, hrest⟩ | ⟨inner, hrest, -⟩
  · have hwidth := c.width_lead
    rw [hlead, hrest] at hwidth
    exact ⟨hwidth, by rw [Utf8Character.bytes, hlead, hrest]⟩
  · have hcont := c.continues b (by rw [hrest]; exact List.mem_append_right _ (List.mem_singleton.mpr rfl))
    rw [hb] at hcont
    cases hcont

/-- A character that ends at a byte that continues it started before. -/
theorem ends_of_continuation {front : List UInt8} {c : Utf8Character}
    (h : seen ++ [b] = front ++ c.bytes) (hb : isPartOfPreviousUtf8Multibyte b = true) :
    ∃ inner, c.bytes = c.lead :: (inner ++ [b]) ∧ seen = front ++ c.lead :: inner ∧
      (∀ b ∈ inner, isPartOfPreviousUtf8Multibyte b = true) ∧
      getByteWidthOfCharacter c.lead = inner.length + 2 := by
  rcases eq_or_exists_of_append_bytes h with ⟨hlead, hrest⟩ | ⟨inner, hrest, hseen⟩
  · have hwidth := c.width_lead
    rw [hlead, getByteWidth_of_continuation hb] at hwidth
    cases hwidth
  · refine ⟨inner, by rw [Utf8Character.bytes, hrest], hseen, fun b hb => ?_, ?_⟩
    · exact c.continues b (by rw [hrest]; exact List.mem_append_left _ hb)
    · rw [c.width_lead, hrest, List.length_append]
      rfl

/-- It is the one that is in progress. -/
theorem ends_of_inside {front front' inner : List UInt8} {lead : UInt8} {c : Utf8Character}
    (h : seen ++ [b] = front' ++ c.bytes) (hb : isPartOfPreviousUtf8Multibyte b = true)
    (hseen : seen = front ++ lead :: inner) (hinner : ∀ b ∈ inner, getByteWidthOfCharacter b = 0)
    (hlead : getByteWidthOfCharacter lead ≠ 0) :
    c.bytes = lead :: (inner ++ [b]) ∧ (∀ b ∈ inner, isPartOfPreviousUtf8Multibyte b = true) ∧
      getByteWidthOfCharacter lead = inner.length + 2 := by
  obtain ⟨inner', hbytes, hseen', hall, hwidth⟩ := ends_of_continuation h hb
  obtain ⟨-, rfl, rfl⟩ := eq_of_append_lead (hseen'.symm.trans hseen)
    (fun b hb => getByteWidth_of_continuation (hall b hb)) hinner
    (by rw [c.width_lead]; exact Nat.succ_ne_zero _) hlead
  exact ⟨hbytes, hall, hwidth⟩

/-- What a round does: it appends a character that ends there, and may append a replacement before. -/
def Steps (bytes seen : List UInt8) (b : UInt8) (pieces : List (List UInt8)) (s : Validation) : Prop :=
  ∃ new, Scanned bytes (seen ++ [b]) (pieces ++ new) s ∧
    ∀ front, ∀ c : Utf8Character, seen ++ [b] = front ++ c.bytes → ∃ before, new = before ++ [c.bytes]

theorem not_continuation_of_width (h : getByteWidthOfCharacter b ≠ 0) :
    isPartOfPreviousUtf8Multibyte b = false :=
  Bool.eq_false_of_not_eq_true fun hcont => h (getByteWidth_of_continuation hcont)

theorem steps_ascii (h : Scanned bytes seen pieces s) (hb : b ∈ bytes) (hzero : b ≠ 0)
    (hwidth : getByteWidthOfCharacter b = 1) (inProgress : Bool) :
    Steps bytes seen b pieces ((s.replaceIf inProgress).append [b]) := by
  have hcont := not_continuation_of_width (hwidth.trans_ne Nat.one_ne_zero)
  obtain ⟨new, hnew⟩ := h.replaceIf inProgress
  refine ⟨new ++ [[b]], ⟨?_, ?_⟩, fun front c hc => ⟨new, ?_⟩⟩
  · rw [← List.append_assoc]
    obtain ⟨front, back, rfl⟩ := List.append_of_mem hb
    refine hnew.appendCharacter (.ofAscii b hzero hwidth) (.inr ⟨front, back, ?_⟩)
    rw [List.append_assoc]
    rfl
  · refine .between_snoc rfl rfl (by omega) fun h => ?_
    omega
  · rw [(ends_of_not_continuation hc hcont).2]

theorem steps_lead (h : Scanned bytes seen pieces s) (hwidth : 2 ≤ getByteWidthOfCharacter b)
    (inProgress : Bool) :
    Steps bytes seen b pieces { s.replaceIf inProgress with
      multibyteSequenceLength := getByteWidthOfCharacter b
      multibyteSequencePosition := 0 } := by
  have hcont : isPartOfPreviousUtf8Multibyte b = false := not_continuation_of_width (by omega)
  obtain ⟨new, hnew⟩ := h.replaceIf inProgress
  refine ⟨new, ⟨⟨hnew.data, hnew.characterCount, hnew.isPiece, hnew.isCharacter, hnew.isInfix⟩, ?_⟩,
    fun front c hc => ?_⟩
  · exact .inside seen b [] rfl rfl rfl hwidth (List.forall_mem_nil _)
  · have hone := (ends_of_not_continuation hc hcont).1
    omega

theorem steps_intruder (h : Scanned bytes seen pieces s) (hb : IsIntruder b) :
    Steps bytes seen b pieces s := by
  obtain ⟨hwidth, hcont⟩ := hb
  have hcount (inner : List UInt8) : (inner ++ [b]).countP isPartOfPreviousUtf8Multibyte =
      inner.countP isPartOfPreviousUtf8Multibyte := by
    rw [List.countP_append, List.countP_singleton, hcont]
    rfl
  refine ⟨[], ⟨?_, ?_⟩, fun front c hc => ?_⟩
  · rw [List.append_nil]
    exact h.toAppended
  · cases h.stands with
    | between hlength hposition hnone =>
      refine .between_snoc hlength hposition (by omega) fun _ front lead inner hseen hinner => ?_
      rw [hcount]
      exact hnone front lead inner hseen hinner
    | inside front lead inner hseen hlength hposition hless hinner =>
      refine .inside front lead (inner ++ [b]) ?_ hlength (hcount inner ▸ hposition)
        (hcount inner ▸ hless) ?_
      · rw [hseen, List.append_assoc]
        rfl
      · exact List.forall_mem_append.mpr ⟨hinner, List.forall_mem_singleton.mpr hwidth⟩
  · have hone := (ends_of_not_continuation hc hcont).1
    omega

/-- A byte that continues no character. -/
theorem steps_stray (h : Scanned bytes seen pieces s)
    (hcont : isPartOfPreviousUtf8Multibyte b = true)
    (hnone : ∀ front lead inner, seen = front ++ lead :: inner →
      (∀ b ∈ inner, getByteWidthOfCharacter b = 0) →
      getByteWidthOfCharacter lead < inner.countP isPartOfPreviousUtf8Multibyte + 2) :
    Steps bytes seen b pieces (s.append replacementCharacter.bytes) := by
  have hwidth := getByteWidth_of_continuation hcont
  refine ⟨[replacementCharacter.bytes], ⟨h.appendCharacter replacementCharacter (.inl rfl), ?_⟩,
    fun front c hc => ?_⟩
  · refine .between_snoc rfl rfl (by omega) fun _ front lead inner hseen hinner => ?_
    have hless := hnone front lead inner hseen hinner
    rw [List.countP_append]
    omega
  · obtain ⟨inner, -, hseen, hinner, hlength⟩ := ends_of_continuation hc hcont
    have hless := hnone front c.lead inner hseen fun b hb => getByteWidth_of_continuation (hinner b hb)
    rw [List.countP_eq_length.mpr hinner] at hless
    omega

/-- A byte that continues a character, but is not its last one. -/
theorem steps_continuation (h : Scanned bytes seen pieces s)
    (hcont : isPartOfPreviousUtf8Multibyte b = true) {front inner : List UInt8} {lead : UInt8}
    (hseen : seen = front ++ lead :: inner)
    (hlength : s.multibyteSequenceLength = getByteWidthOfCharacter lead)
    (hposition : s.multibyteSequencePosition = inner.countP isPartOfPreviousUtf8Multibyte)
    (hless : inner.countP isPartOfPreviousUtf8Multibyte + 2 < getByteWidthOfCharacter lead)
    (hinner : ∀ b ∈ inner, getByteWidthOfCharacter b = 0) :
    Steps bytes seen b pieces
      { s with multibyteSequencePosition := s.multibyteSequencePosition + 1 } := by
  have hwidth := getByteWidth_of_continuation hcont
  have hcount : (inner ++ [b]).countP isPartOfPreviousUtf8Multibyte =
      inner.countP isPartOfPreviousUtf8Multibyte + 1 := by
    rw [List.countP_append, List.countP_singleton, hcont]
    rfl
  refine ⟨[], ⟨?_, ?_⟩, fun front' c hc => ?_⟩
  · rw [List.append_nil]
    exact ⟨h.data, h.characterCount, h.isPiece, h.isCharacter, h.isInfix⟩
  · refine .inside front lead (inner ++ [b]) ?_ hlength ?_ ?_ ?_
    · rw [hseen, List.append_assoc]
      rfl
    · rw [hcount, hposition]
      rfl
    · omega
    · exact List.forall_mem_append.mpr ⟨hinner, List.forall_mem_singleton.mpr hwidth⟩
  · -- a character that ends here would be the one that is in progress
    obtain ⟨-, hall, hlead⟩ := ends_of_inside hc hcont hseen hinner (by omega)
    rw [hlead, List.countP_eq_length.mpr hall] at hless
    exact absurd hless (lt_irrefl _)

/-- The last bytes, as many as the character has. -/
theorem drop_window {front inner : List UInt8} {lead : UInt8} (w : ℕ)
    (hw : w ≤ inner.length + 1) :
    (front ++ lead :: (inner ++ [b])).drop (front.length + (inner.length + 2) - w) =
      (inner ++ [b]).drop (inner.length + 1 - w) := by
  have hlength : front.length + (inner.length + 2) - w =
      front.length + (1 + (inner.length + 1 - w)) := by omega
  rw [hlength, ← List.drop_drop, List.drop_left, ← List.drop_drop]
  rfl

/-- **The last byte** of a character. -/
theorem steps_last (h : Scanned bytes seen pieces s)
    (hcont : isPartOfPreviousUtf8Multibyte b = true) {front inner back : List UInt8} {lead : UInt8}
    (hbytes : bytes = seen ++ b :: back) (hseen : seen = front ++ lead :: inner)
    (hless : inner.countP isPartOfPreviousUtf8Multibyte + 2 = getByteWidthOfCharacter lead)
    (hinner : ∀ b ∈ inner, getByteWidthOfCharacter b = 0) :
    Steps bytes seen b pieces
      (s.append ((seen ++ [b]).drop ((seen ++ [b]).length - getByteWidthOfCharacter lead))) := by
  have hwidth := getByteWidth_of_continuation hcont
  have hlead : lead ≠ 0 := by
    rintro rfl
    exact absurd hless (by simp [getByteWidthOfCharacter])
  have hlast : seen ++ [b] = front ++ lead :: (inner ++ [b]) := by
    rw [hseen, List.append_assoc]
    rfl
  have hlength : (seen ++ [b]).length = front.length + (inner.length + 2) := by
    rw [hlast, List.length_append, List.length_cons, List.length_append]
    rfl
  rw [hlength]
  have hstands (p : List UInt8) : Stands (seen ++ [b]) (s.append p) := by
    refine .between_snoc rfl rfl (by omega) fun _ front' lead' inner' hseen' hinner' => ?_
    by_contra hopen
    obtain ⟨-, rfl, rfl⟩ := eq_of_append_lead (hseen'.symm.trans hseen) hinner' hinner (by omega)
      (by omega)
    rw [List.countP_append, List.countP_singleton, hcont, if_pos rfl] at hopen
    omega
  have hpart (n : ℕ) : (seen ++ [b]).drop n <:+: bytes := by
    refine (List.drop_suffix n _).isInfix.trans (List.IsPrefix.isInfix ⟨back, ?_⟩)
    rw [hbytes, List.append_assoc]
    rfl
  by_cases hall : ∀ b ∈ inner, isPartOfPreviousUtf8Multibyte b = true
  · -- the character that was in progress
    have hcount := List.countP_eq_length.mpr hall
    let c : Utf8Character := ⟨lead, inner ++ [b], hlead,
      by rw [List.length_append, List.length_singleton]; omega,
      List.forall_mem_append.mpr ⟨hall, List.forall_mem_singleton.mpr hcont⟩⟩
    have hwindow : (seen ++ [b]).drop (front.length + (inner.length + 2) - getByteWidthOfCharacter lead) =
        c.bytes := by
      have hzero : front.length + (inner.length + 2) - getByteWidthOfCharacter lead = front.length := by
        omega
      rw [hzero, hlast, List.drop_left]
      rfl
    have hpart := hpart (front.length + (inner.length + 2) - getByteWidthOfCharacter lead)
    rw [hwindow] at hpart ⊢
    refine ⟨[c.bytes], ⟨h.appendCharacter c (.inr hpart), hstands _⟩, fun front' c' hc => ⟨[], ?_⟩⟩
    rw [(ends_of_inside hc hcont hseen hinner (by omega)).1]
    rfl
  · -- an intruder stands inside, so that the window starts behind the lead byte
    have hintruder : ∃ b ∈ inner, IsIntruder b := by
      obtain ⟨b, hb, hnot⟩ := not_forall₂.mp hall
      exact ⟨b, hb, hinner b hb, Bool.eq_false_of_not_eq_true hnot⟩
    have hcount : inner.countP isPartOfPreviousUtf8Multibyte < inner.length := by
      refine lt_of_le_of_ne (List.countP_le_length) fun hcount => hall ?_
      exact List.countP_eq_length.mp hcount
    have hpart := hpart (front.length + (inner.length + 2) - getByteWidthOfCharacter lead)
    rw [hlast, drop_window _ (by omega)] at hpart ⊢
    refine ⟨[_], ⟨h.append (.inr ⟨?_, fun b' hb' => ?_⟩) (fun hnone => ?_) (.inr hpart), hstands _⟩,
      fun front' c hc => ?_⟩
    · rw [← List.length_pos_iff, List.length_drop, List.length_append, List.length_singleton]
      omega
    · rcases List.mem_append.mp (List.mem_of_mem_drop hb') with hb' | hb'
      · exact hinner b' hb'
      · rw [List.mem_singleton.mp hb']
        exact hwidth
    · refine absurd ⟨front, lead, inner, b, back, ?_, hcont, hinner, hless, hintruder⟩ hnone
      rw [hbytes, hseen, List.append_assoc]
      rfl
    · exact absurd (ends_of_inside hc hcont hseen hinner (by omega)).2.1 hall

/-- **A round** appends a character that ends there, and may append a replacement before. -/
theorem Scanned.step {i : ℕ} (hzero : ∀ b ∈ bytes, b ≠ 0) (hi : i < bytes.length)
    (h : Scanned bytes (bytes.take i) pieces (validateBytes bytes i)) :
    Steps bytes (bytes.take i) bytes[i] pieces (validateBytes bytes (i + 1)) := by
  have hb : bytes.getD i 0 = bytes[i] := by
    rw [List.getD_eq_getElem?_getD, List.getElem?_eq_getElem hi]
    rfl
  have htake : bytes.take i ++ [bytes[i]] = bytes.take (i + 1) := List.take_append_getElem hi
  rw [validateBytes_succ]
  generalize hs : validateBytes bytes i = s at h ⊢
  cases hcont : isPartOfPreviousUtf8Multibyte bytes[i] with
  | false =>
    rcases Nat.lt_trichotomy (getByteWidthOfCharacter bytes[i]) 1 with hwidth | hwidth | hwidth
    · have hintruder : IsIntruder bytes[i] := ⟨Nat.lt_one_iff.mp hwidth, hcont⟩
      rw [validateByte_intruder hb hintruder]
      exact steps_intruder h hintruder
    · rw [validateByte_ascii hb hwidth]
      exact steps_ascii h (List.getElem_mem hi) (hzero _ (List.getElem_mem hi)) hwidth _
    · rw [validateByte_lead hb hwidth]
      exact steps_lead h hwidth _
  | true =>
    cases h.stands with
    | between hlength hposition hnone =>
      rw [validateByte_stray hb hcont (by omega)]
      exact steps_stray h hcont hnone
    | inside front lead inner hseen hlength hposition hless hinner =>
      rcases hless.lt_or_eq with hless | hless
      · rw [validateByte_continuation hb hcont (by omega)]
        exact steps_continuation h hcont hseen hlength hposition hless hinner
      · have hi' : i = front.length + (inner.length + 1) := by
          have hlengths := congrArg List.length hseen
          rw [List.length_take_of_le hi.le, List.length_append, List.length_cons] at hlengths
          exact hlengths
        have hcount : inner.countP isPartOfPreviousUtf8Multibyte ≤ inner.length := List.countP_le_length
        have hbytes : bytes = bytes.take i ++ bytes[i] :: bytes.drop (i + 1) := by
          rw [← List.drop_eq_getElem_cons hi, List.take_append_drop]
        have hlast := steps_last h hcont hbytes hseen hless hinner
        rw [htake, List.length_take_of_le hi] at hlast
        rw [validateByte_last hi hb hcont hlength (by omega) (by omega) (by omega)]
        exact hlast

end Step

/-! ## All bytes -/

/-- A complete character, as bytes. -/
def isComplete : List UInt8 → Bool
  | [] => false
  | lead :: rest => lead != 0 && getByteWidthOfCharacter lead == rest.length + 1 &&
      rest.all isPartOfPreviousUtf8Multibyte

/-- **The complete characters** of some bytes, by the byte that each ends at. -/
def sequencesOf (bytes : List UInt8) : List (List UInt8) :=
  (List.range bytes.length).filterMap fun i => (bytes.take (i + 1)).tails.find? isComplete

theorem exists_of_isComplete {p : List UInt8} (h : isComplete p = true) :
    ∃ c : Utf8Character, p = c.bytes := by
  cases p with
  | nil => cases h
  | cons lead rest =>
    rw [isComplete, Bool.and_eq_true, Bool.and_eq_true, bne_iff_ne, beq_iff_eq, List.all_eq_true] at h
    obtain ⟨⟨hlead, hwidth⟩, hrest⟩ := h
    exact ⟨⟨lead, rest, hlead, hwidth, hrest⟩, rfl⟩

/-- The characters that have ended after some bytes have been appended, in order. -/
theorem exists_scanned (hzero : ∀ b ∈ bytes, b ≠ 0) (i : ℕ) (hi : i ≤ bytes.length) :
    ∃ pieces, Scanned bytes (bytes.take i) pieces (validateBytes bytes i) ∧
      List.Sublist ((List.range i).filterMap fun j => (bytes.take (j + 1)).tails.find? isComplete)
        pieces := by
  induction i with
  | zero =>
    refine ⟨[], ⟨⟨rfl, rfl, List.forall_mem_nil _, fun _ => List.forall_mem_nil _,
      List.forall_mem_nil _⟩, ?_⟩, ?_⟩
    · exact .between rfl rfl fun front lead inner h => absurd h (by simp)
    · exact List.Sublist.refl []
  | succ i ih =>
    obtain ⟨pieces, hscanned, hkept⟩ := ih (Nat.le_of_succ_le hi)
    obtain ⟨new, hnew, hends⟩ := hscanned.step hzero hi
    rw [List.take_append_getElem hi] at hnew hends
    refine ⟨pieces ++ new, hnew, ?_⟩
    rw [List.range_succ, List.filterMap_append, List.filterMap_cons]
    cases hfind : (bytes.take (i + 1)).tails.find? isComplete with
    | none => exact hkept.append (List.nil_sublist new)
    | some p =>
      obtain ⟨front, hfront⟩ := (List.mem_tails _ _).mp (List.mem_of_find?_eq_some hfind)
      obtain ⟨c, rfl⟩ := exists_of_isComplete (List.find?_some hfind)
      obtain ⟨before, rfl⟩ := hends front c hfront.symm
      exact hkept.append (List.sublist_append_right before [c.bytes])

theorem ne_zero_of_mem_terminated {stringData : List UInt8} (hb : b ∈ terminated stringData) :
    b ≠ 0 := by
  induction stringData with
  | nil => cases hb
  | cons character stringData ih =>
    rw [terminated] at hb
    split at hb
    · cases hb
    next hnot =>
      rcases List.mem_cons.mp hb with rfl | hb
      · exact fun hzero => hnot (.inl hzero)
      · exact ih hb

/-- The terminator of two bytes is not among the bytes before it. -/
theorem terminator_not_isInfix (stringData : List UInt8) : ¬ [0xC0, 0x80] <:+: terminated stringData := by
  induction stringData with
  | nil => exact fun h => absurd (List.infix_nil.mp h) (List.cons_ne_nil _ _)
  | cons character stringData ih =>
    rw [terminated]
    split
    · exact fun h => absurd (List.infix_nil.mp h) (List.cons_ne_nil _ _)
    next hnot =>
      intro h
      rcases List.infix_cons_iff.mp h with hstart | h
      · obtain ⟨rfl, hnext⟩ := List.cons_prefix_cons.mp hstart
        refine hnot (.inr ⟨rfl, ?_⟩)
        -- the byte behind it is the next one of the input
        cases stringData with
        | nil => exact absurd (List.prefix_nil.mp hnext) (List.cons_ne_nil _ _)
        | cons next stringData =>
          rw [terminated] at hnext
          split at hnext
          · exact absurd (List.prefix_nil.mp hnext) (List.cons_ne_nil _ _)
          · rw [(List.cons_prefix_cons.mp hnext).1]
            rfl
      · exact ih h

/-- **What every string is made of**: pieces, among them the complete characters of the input. -/
theorem exists_pieces (stringData : List UInt8) :
    ∃ pieces, validateString stringData = ⟨pieces.flatten, pieces.length⟩ ∧
      Appended (terminated stringData) pieces
        (validateBytes (terminated stringData) (terminated stringData).length) ∧
      (sequencesOf (terminated stringData)).Sublist pieces := by
  obtain ⟨pieces, hscanned, hkept⟩ := exists_scanned (fun b => ne_zero_of_mem_terminated)
    (terminated stringData).length (le_refl _)
  refine ⟨pieces, ?_, hscanned.toAppended, hkept⟩
  rw [validateString, hscanned.data, hscanned.characterCount]

/-! ## Strings of characters -/

/-- No character is the terminator of two bytes. -/
def NoTerminator (cs : List Utf8Character) : Prop := ∀ c ∈ cs, c.bytes ≠ [0xC0, 0x80]

section Character

variable {front back : List UInt8} {c : Utf8Character} {data : List UInt8} {count : ℕ}

theorem getD_lead (hbytes : bytes = front ++ (c.bytes ++ back)) : bytes.getD front.length 0 = c.lead := by
  rw [hbytes, List.getD_eq_getElem?_getD, List.getElem?_append_right (le_refl _), Nat.sub_self]
  rfl

theorem getD_rest (hbytes : bytes = front ++ (c.bytes ++ back)) {k : ℕ} (hk : k < c.rest.length) :
    bytes.getD (front.length + 1 + k) 0 = c.rest[k] := by
  have hindex : front.length + 1 + k - front.length = k + 1 := by omega
  rw [hbytes, List.getD_eq_getElem?_getD, List.getElem?_append_right (by omega), hindex,
    Utf8Character.bytes, List.cons_append, List.getElem?_cons_succ, List.getElem?_append_left hk,
    List.getElem?_eq_getElem hk]
  rfl

/-- A character that is not complete yet. -/
theorem validateBytes_inside (hbytes : bytes = front ++ (c.bytes ++ back))
    (hfront : validateBytes bytes front.length = ⟨data, count, -1, -1⟩) (k : ℕ) (hk : k < c.rest.length) :
    validateBytes bytes (front.length + 1 + k) =
      ⟨data, count, getByteWidthOfCharacter c.lead, k⟩ := by
  have hwidth := c.width_lead
  induction k with
  | zero =>
    rw [Nat.add_zero, validateBytes_succ, hfront, validateByte_lead (getD_lead hbytes) (by omega)]
    rfl
  | succ k ih =>
    have hk' := Nat.lt_of_succ_lt hk
    have hcont := c.continues _ (List.getElem_mem hk')
    have hless : (k : ℤ) + 2 < getByteWidthOfCharacter c.lead := by omega
    rw [← Nat.add_assoc, validateBytes_succ, ih hk',
      validateByte_continuation (getD_rest hbytes hk') hcont hless]
    rfl

/-- **A character** that stands between others is appended. -/
theorem validateBytes_character (hbytes : bytes = front ++ (c.bytes ++ back))
    (hfront : validateBytes bytes front.length = ⟨data, count, -1, -1⟩) :
    validateBytes bytes (front ++ c.bytes).length = ⟨data ++ c.bytes, count + 1, -1, -1⟩ := by
  have hwidth := c.width_lead
  have hlength : (front ++ c.bytes).length = front.length + (c.rest.length + 1) := by
    rw [List.length_append]
    rfl
  rw [hlength]
  rcases List.eq_nil_or_concat c.rest with hrest | ⟨inner, last, hrest⟩
  · rw [hrest] at hwidth ⊢
    rw [List.length_nil, Nat.zero_add, validateBytes_succ, hfront,
      validateByte_ascii (getD_lead hbytes) hwidth, Utf8Character.bytes, hrest]
    rfl
  · -- the last byte copies the character
    have hinner : inner.length < c.rest.length := by
      rw [hrest, List.length_concat]
      exact Nat.lt_succ_self _
    have hlast : c.rest.length = inner.length + 1 := by rw [hrest, List.length_concat]
    have hi : front.length + (c.rest.length + 1) = front.length + 1 + inner.length + 1 := by omega
    have hbound : front.length + 1 + inner.length < bytes.length := by
      rw [hbytes, List.length_append, List.length_append, c.length_bytes]
      omega
    have hcopied : (bytes.take (front.length + 1 + inner.length + 1)).drop
        (front.length + 1 + inner.length + 1 - getByteWidthOfCharacter c.lead) = c.bytes := by
      have hdrop : front.length + 1 + inner.length + 1 - getByteWidthOfCharacter c.lead =
          front.length := by omega
      have htake : front.length + 1 + inner.length + 1 = (front ++ c.bytes).length := by omega
      rw [hdrop, htake, hbytes, ← List.append_assoc, List.take_left, List.drop_left]
    rw [hi, validateBytes_succ, validateBytes_inside hbytes hfront inner.length hinner,
      validateByte_last hbound (getD_rest hbytes hinner) (c.continues _ (List.getElem_mem hinner)) rfl
        (by dsimp only; omega) (by omega) (by omega), hcopied]
    rfl

end Character

theorem validateBytes_bytesOf (cs ds : List Utf8Character) :
    validateBytes (bytesOf (cs ++ ds)) (bytesOf cs).length = ⟨bytesOf cs, cs.length, -1, -1⟩ := by
  induction cs using List.reverseRecOn generalizing ds with
  | nil => rfl
  | append_singleton cs c ih =>
    have hfront := ih (c :: ds)
    have hsingle : bytesOf (cs ++ [c]) = bytesOf cs ++ c.bytes := by
      rw [bytesOf_append]
      exact congrArg (bytesOf cs ++ ·) (List.append_nil c.bytes)
    have hbytes : bytesOf (cs ++ [c] ++ ds) = bytesOf cs ++ (c.bytes ++ bytesOf ds) := by
      rw [List.append_assoc, bytesOf_append]
      rfl
    have hsame : cs ++ c :: ds = cs ++ [c] ++ ds := (List.append_assoc cs [c] ds).symm
    rw [hsame] at hfront
    rw [hsingle, validateBytes_character hbytes hfront, List.length_append]
    rfl

/-- No byte of a character ends a string. -/
theorem terminated_bytesOf {cs : List Utf8Character} (h : NoTerminator cs) :
    terminated (bytesOf cs) = bytesOf cs := by
  have hkept (l tail : List UInt8) (hl : ∀ b ∈ l, isPartOfPreviousUtf8Multibyte b = true) :
      terminated (l ++ tail) = l ++ terminated tail := by
    induction l with
    | nil => rfl
    | cons b l ih =>
      obtain ⟨hb, hl⟩ := List.forall_mem_cons.mp hl
      rw [List.cons_append, terminated, if_neg, ih hl]
      · rfl
      · rintro (rfl | ⟨rfl, -⟩)
        · exact absurd hb (by decide)
        · exact absurd hb (by decide)
  induction cs with
  | nil => rfl
  | cons c cs ih =>
    obtain ⟨hc, hcs⟩ := List.forall_mem_cons.mp h
    have hbytes : bytesOf (c :: cs) = c.lead :: (c.rest ++ bytesOf cs) := rfl
    rw [hbytes, terminated, if_neg, hkept _ _ c.continues, ih hcs]
    rintro (hzero | ⟨hlead, hnext⟩)
    · exact c.lead_ne_zero hzero
    · -- the lead byte of the terminator has one byte behind it
      have hwidth := c.width_lead
      rw [hlead] at hwidth
      have hlength : c.rest.length = 1 := Nat.succ.inj hwidth.symm
      obtain ⟨b, hrest⟩ := List.length_eq_one_iff.mp hlength
      rw [hrest] at hnext
      obtain rfl := Option.some.inj hnext
      exact hc (by rw [Utf8Character.bytes, hlead, hrest])

/-- **Strings of characters** are kept. -/
theorem validateString_bytesOf {cs : List Utf8Character} (h : NoTerminator cs) :
    validateString (bytesOf cs) = ofCharacters cs := by
  have hrun := validateBytes_bytesOf cs []
  rw [List.append_nil] at hrun
  rw [validateString, terminated_bytesOf h, hrun]
  rfl

/-! ## Normalisation -/

/-- **What the constructor is for**: the string consists of characters and counts them, the complete ones
of the input are kept in order, and a string of its data is the same. -/
def Normalised (stringData : List UInt8) : Prop :=
  ∃ cs, validateString stringData = ofCharacters cs ∧
    (sequencesOf (terminated stringData)).Sublist (cs.map Utf8Character.bytes) ∧
    validateString (validateString stringData).data = validateString stringData

theorem exists_characters {pieces : List (List UInt8)}
    (h : ∀ p ∈ pieces, ∃ c : Utf8Character, p = c.bytes) :
    ∃ cs : List Utf8Character, pieces = cs.map Utf8Character.bytes := by
  induction pieces with
  | nil => exact ⟨[], rfl⟩
  | cons p pieces ih =>
    obtain ⟨⟨c, rfl⟩, hpieces⟩ := List.forall_mem_cons.mp h
    obtain ⟨cs, rfl⟩ := ih hpieces
    exact ⟨c :: cs, rfl⟩

theorem normalised_of_not_intruded {stringData : List UInt8} (h : ¬ Intruded (terminated stringData)) :
    Normalised stringData := by
  obtain ⟨pieces, hstring, happended, hkept⟩ := exists_pieces stringData
  obtain ⟨cs, rfl⟩ := exists_characters (happended.isCharacter h)
  have hcs : validateString stringData = ofCharacters cs := by
    rw [hstring, List.length_map]
    rfl
  have hnone : NoTerminator cs := by
    intro c hc hterminator
    rcases happended.isInfix _ (List.mem_map_of_mem hc) with hreplaced | hpart
    · rw [hterminator] at hreplaced
      exact absurd hreplaced (by decide)
    · exact terminator_not_isInfix stringData (hterminator ▸ hpart)
  refine ⟨cs, hcs, hkept, ?_⟩
  rw [hcs]
  exact validateString_bytesOf hnone

/-- The code takes nothing back. -/
theorem prefix_validateByte (s : Validation) (i : ℕ) : s.data <+: (validateByte bytes s i).data := by
  have hreplace (inProgress : Bool) : s.data <+: (s.replaceIf inProgress).data := by
    cases inProgress with
    | true => exact List.prefix_append _ _
    | false => exact List.prefix_refl _
  rw [validateByte]
  dsimp only
  split
  · split
    · exact List.prefix_append _ _
    · split
      · exact List.prefix_append _ _
      · exact List.prefix_refl _
  · split
    · exact (hreplace _).trans (List.prefix_append _ _)
    · split
      · exact hreplace _
      · exact List.prefix_refl _

theorem prefix_validateBytes (bytes : List UInt8) {i n : ℕ} (h : i ≤ n) :
    (validateBytes bytes i).data <+: (validateBytes bytes n).data := by
  induction n, h using Nat.le_induction with
  | base => exact List.prefix_refl _
  | succ n _ ih =>
    rw [validateBytes_succ]
    exact ih.trans (prefix_validateByte _ _)

/-- The last bytes, as many as the character has, are not all its own. -/
theorem exists_isIntruder_drop {inner : List UInt8} {last : UInt8} (w : ℕ)
    (hcont : isPartOfPreviousUtf8Multibyte last = true)
    (hinner : ∀ b ∈ inner, getByteWidthOfCharacter b = 0)
    (hcount : inner.countP isPartOfPreviousUtf8Multibyte + 2 = w) (hw : w ≤ inner.length + 1) :
    ∃ b ∈ (inner ++ [last]).drop (inner.length + 1 - w), IsIntruder b := by
  by_contra hnone
  have hall : ∀ b ∈ (inner ++ [last]).drop (inner.length + 1 - w),
      isPartOfPreviousUtf8Multibyte b = true := by
    intro b hb
    by_contra hnot
    refine hnone ⟨b, hb, ?_, Bool.eq_false_of_not_eq_true hnot⟩
    rcases List.mem_append.mp (List.mem_of_mem_drop hb) with hb | hb
    · exact hinner b hb
    · rw [List.mem_singleton.mp hb]
      exact getByteWidth_of_continuation hcont
  have hless := (List.drop_sublist (inner.length + 1 - w) (inner ++ [last])).countP_le
    (p := isPartOfPreviousUtf8Multibyte)
  rw [List.countP_eq_length.mpr hall, List.length_drop, List.length_append, List.countP_append,
    List.countP_singleton, hcont, if_pos rfl, List.length_singleton] at hless
  omega

/-- **An intruder** gets into the string. -/
theorem exists_isIntruder_of_intruded {stringData : List UInt8}
    (h : Intruded (terminated stringData)) : ∃ b ∈ (validateString stringData).data, IsIntruder b := by
  obtain ⟨front, lead, inner, last, back, hbytes, hcont, hinner, hwidth, b, hb, hintruder⟩ := h
  have hzero : ∀ b ∈ terminated stringData, b ≠ 0 := fun b => ne_zero_of_mem_terminated
  rw [validateString]
  generalize terminated stringData = bytes at hbytes hzero ⊢
  have hsplit : bytes = (front ++ lead :: inner) ++ last :: back := by
    rw [hbytes, List.append_assoc]
    rfl
  have hi : (front ++ lead :: inner).length < bytes.length := by
    have hlengths := congrArg List.length hsplit
    rw [List.length_append, List.length_cons (a := last)] at hlengths
    omega
  have hseen : bytes.take (front ++ lead :: inner).length = front ++ lead :: inner := by
    rw [hsplit, List.take_left]
  have hlast : bytes.getD (front ++ lead :: inner).length 0 = last := by
    rw [hsplit, List.getD_eq_getElem?_getD, List.getElem?_append_right (le_refl _), Nat.sub_self]
    rfl
  have hless : inner.countP isPartOfPreviousUtf8Multibyte < inner.length := by
    refine lt_of_le_of_ne List.countP_le_length fun hcount => ?_
    have hall := List.countP_eq_length.mp hcount b hb
    rw [hintruder.2] at hall
    cases hall
  obtain ⟨pieces, hscanned, -⟩ := exists_scanned hzero _ hi.le
  rw [hseen] at hscanned
  have hgrown := prefix_validateBytes bytes (Nat.succ_le_of_lt hi)
  cases hscanned.stands with
  | between hlength hposition hnone =>
    exact absurd (hnone front lead inner rfl hinner) (by omega)
  | inside front' lead' inner' hsame hlength hposition hbelow hinner' =>
    obtain ⟨rfl, rfl, rfl⟩ := eq_of_append_lead hsame hinner hinner' (by omega) (by omega)
    -- the byte is the last one of the character in progress
    have hindex : (front ++ lead :: inner).length + 1 = front.length + (inner.length + 2) := by
      rw [List.length_append, List.length_cons]
      rfl
    have htake : bytes.take ((front ++ lead :: inner).length + 1) = front ++ lead :: (inner ++ [last]) := by
      rw [hsplit, List.take_length_add_append, List.append_assoc]
      rfl
    obtain ⟨b, hb, hb'⟩ := exists_isIntruder_drop (getByteWidthOfCharacter lead) hcont hinner hwidth
      (by omega)
    refine ⟨b, hgrown.subset ?_, hb'⟩
    rw [validateBytes_succ, validateByte_last hi hlast hcont hlength (by omega) (by omega) (by omega),
      htake, hindex, drop_window _ (by omega)]
    exact List.mem_append_right _ hb

/-- No byte of a character is an intruder. -/
theorem not_isIntruder_of_mem_bytesOf {cs : List Utf8Character} (hb : b ∈ bytesOf cs) :
    ¬ IsIntruder b := by
  rintro ⟨hwidth, hcont⟩
  obtain ⟨p, hp, hb⟩ := List.mem_flatten.mp hb
  obtain ⟨c, -, rfl⟩ := List.mem_map.mp hp
  rcases List.mem_cons.mp hb with rfl | hb
  · rw [c.width_lead] at hwidth
    exact Nat.succ_ne_zero _ hwidth
  · rw [c.continues b hb] at hcont
    cases hcont

/-- **Normalisation**: exactly the inputs in which no intruder stands inside a character are normalised. -/
theorem normalised_iff (stringData : List UInt8) :
    Normalised stringData ↔ ¬ Intruded (terminated stringData) := by
  constructor
  · rintro ⟨cs, hcs, -⟩ hintruded
    obtain ⟨b, hb, hintruder⟩ := exists_isIntruder_of_intruded hintruded
    rw [hcs] at hb
    exact not_isIntruder_of_mem_bytesOf hb hintruder
  · exact normalised_of_not_intruded

/-- A byte that is no part of any character, inside the sign for the euro. -/
theorem not_normalised_intruder : ¬ Normalised [0xE2, 0xFF, 0x82, 0xAC] := by
  rintro ⟨cs, hcs, -⟩
  have hdata : (0xFF : UInt8) ∈ bytesOf cs := by
    have hmem : (0xFF : UInt8) ∈ (validateString [0xE2, 0xFF, 0x82, 0xAC]).data := by decide
    rw [hcs] at hmem
    exact hmem
  exact not_isIntruder_of_mem_bytesOf hdata (by unfold IsIntruder; decide)

end UTF8String

end OpenKit
