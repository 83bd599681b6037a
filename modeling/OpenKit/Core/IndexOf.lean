import Mathlib.Data.Nat.Find
import OpenKit.Core.Utf8Characters

/-!
# The search for a character

`getIndexOf` moves a pointer over the characters of a string, but does so once for each byte. Where the
string has characters of several bytes, and the search does not find what it looks for, the pointer gets
behind the terminator. A read from there is an error in the model; the code has no check.

## Main definitions

* `UTF8String.getIndexOf`: the search, with its reads
* `UTF8String.IsIndexOf`: what it is for

## Main results

* `UTF8String.getIndexOfLoop_of_notMem`: how far the pointer gets
* `UTF8String.isIndexOf_getIndexOf_iff`: when the search answers, and stays inside the string
-/

namespace OpenKit

namespace UTF8String

/-! ## The search -/

/-- The largest `size_t`, which stands for no index. -/
def npos : ℕ := 18446744073709551615

/-- A read from behind the terminator. -/
inductive ReadFault
  | pastEnd
deriving DecidableEq, Repr

/-- Reads some bytes of a string; one terminator follows its data. -/
def bytesAt (data : List UInt8) (position n : ℕ) : Except ReadFault (List UInt8) :=
  if position + n ≤ data.length + 1 then .ok (((data ++ [0]).drop position).take n)
  else .error .pastEnd

def byteAt (data : List UInt8) (position : ℕ) : Except ReadFault UInt8 :=
  if position ≤ data.length then .ok (data.getD position 0) else .error .pastEnd

/-- Whether some bytes of two strings are the same. -/
def memcmp (data : List UInt8) (position : ℕ) (other : List UInt8) (n : ℕ) : Except ReadFault Bool := do
  let left ← bytesAt data position n
  let right ← bytesAt other 0 n
  return left == right

/-- Whether the character at a position is the one that is looked for. -/
def isFoundAt (data comparisonCharacter : List UInt8) (position characterByteWidth : ℕ)
    (currentCharacter : UInt8) : Except ReadFault Bool :=
  let numberOfBytesCurrent := getByteWidthOfCharacter currentCharacter
  if characterByteWidth = numberOfBytesCurrent then do
    let firstByte ← byteAt comparisonCharacter 0
    if numberOfBytesCurrent = 1 ∧ currentCharacter = firstByte then return true
    else if numberOfBytesCurrent > 1 then memcmp data position comparisonCharacter numberOfBytesCurrent
    else return false
  else return false

/-- The loop of `getIndexOf`, for some more rounds. -/
def getIndexOfLoop (data comparisonCharacter : List UInt8) (characterByteWidth offset : ℕ) :
    ℕ → ℕ → ℕ → Except ReadFault (Option ℕ)
  | 0, _, _ => .ok none
  | rounds + 1, i, position => do
    let currentCharacter ← byteAt data position
    let isFound ←
      if i ≥ offset then isFoundAt data comparisonCharacter position characterByteWidth currentCharacter
      else pure false
    if isFound then return some i
    else
      getIndexOfLoop data comparisonCharacter characterByteWidth offset rounds (i + 1)
        (position + getByteWidthOfCharacter currentCharacter)

/-- The index of the first character from `offset` on that is the given one. -/
def getIndexOf (s : UTF8String) (comparisonCharacter : List UInt8) (offset : ℕ) :
    Except ReadFault (Option ℕ) :=
  if offset = npos ∧ offset ≥ s.data.length then .ok none
  else do
    let firstByte ← byteAt comparisonCharacter 0
    let characterByteWidth := getByteWidthOfCharacter firstByte
    if characterByteWidth = npos then return none
    else getIndexOfLoop s.data comparisonCharacter characterByteWidth offset s.data.length 0 0

/-- What the search is for. -/
def IsIndexOf (cs : List Utf8Character) (c : Utf8Character) (offset : ℕ) :
    Except ReadFault (Option ℕ) → Prop
  | .ok (some i) => offset ≤ i ∧ cs[i]? = some c ∧ ∀ j < i, offset ≤ j → cs[j]? ≠ some c
  | .ok none => ∀ j, offset ≤ j → cs[j]? ≠ some c
  | .error _ => False

/-! ## A round -/

variable {data tail : List UInt8} {cs ds : List Utf8Character} {c d : Utf8Character}
  {position offset rounds i : ℕ}

theorem byteAt_of_drop_eq (h : data.drop position = d.bytes ++ tail) :
    byteAt data position = .ok d.lead := by
  obtain ⟨hlt, hlead⟩ := getD_of_drop_append h
  rw [byteAt, if_pos hlt.le, hlead]

/-- The terminator. -/
theorem byteAt_length (data : List UInt8) : byteAt data data.length = .ok 0 := by
  rw [byteAt, if_pos (le_refl _), List.getD_eq_getElem?_getD, List.getElem?_eq_none (le_refl _)]
  rfl

theorem bytesAt_of_drop_eq {p tail : List UInt8} (h : data.drop position = p ++ tail)
    (hposition : position ≤ data.length) : bytesAt data position p.length = .ok p := by
  have hlength := congrArg List.length h
  rw [List.length_drop, List.length_append] at hlength
  rw [bytesAt, if_pos (by omega), List.drop_append_of_le_length hposition, h, List.append_assoc,
    List.take_left]

theorem byteAt_bytes (c : Utf8Character) : byteAt c.bytes 0 = .ok c.lead := rfl

/-- **A character** is found where it is. -/
theorem isFoundAt_character (h : data.drop position = d.bytes ++ tail) (c : Utf8Character) :
    isFoundAt data c.bytes position (getByteWidthOfCharacter c.lead) d.lead =
      .ok (decide (d.bytes = c.bytes)) := by
  have hposition := (getD_of_drop_append h).1.le
  rw [isFoundAt]
  by_cases hwidth : getByteWidthOfCharacter c.lead = getByteWidthOfCharacter d.lead
  · have hd := d.width_lead
    rw [if_pos hwidth, byteAt_bytes]
    by_cases hone : getByteWidthOfCharacter d.lead = 1
    · -- a byte is the whole character
      have hrest : d.rest = [] := List.length_eq_zero_iff.mp (by omega)
      have hrest' : c.rest = [] := List.length_eq_zero_iff.mp (by have hc := c.width_lead; omega)
      rw [Utf8Character.bytes, Utf8Character.bytes, hrest, hrest', hone]
      by_cases hsame : d.lead = c.lead
      · simp [hsame, bind, Except.bind, pure, Except.pure]
      · simp [hsame, bind, Except.bind, pure, Except.pure]
    · have hleft : bytesAt data position (getByteWidthOfCharacter d.lead) = .ok d.bytes := by
        rw [← d.length_bytes]
        exact bytesAt_of_drop_eq h hposition
      have hright : bytesAt c.bytes 0 (getByteWidthOfCharacter d.lead) = .ok c.bytes := by
        rw [← hwidth, ← c.length_bytes]
        exact bytesAt_of_drop_eq (List.append_nil c.bytes).symm (Nat.zero_le _)
      have hmore : 1 < getByteWidthOfCharacter d.lead := by omega
      simp only [bind, Except.bind, pure, Except.pure, hone, false_and, if_false, if_pos hmore, memcmp,
        hleft, hright, beq_eq_decide]
  · rw [if_neg hwidth, decide_eq_false]
    · rfl
    · intro hsame
      exact hwidth (congrArg getByteWidthOfCharacter (List.cons.inj hsame).1).symm

/-- **A round** at a character. -/
theorem getIndexOfLoop_character (h : data.drop position = d.bytes ++ tail) (c : Utf8Character) :
    getIndexOfLoop data c.bytes (getByteWidthOfCharacter c.lead) offset (rounds + 1) i position =
      if offset ≤ i ∧ d = c then .ok (some i)
      else getIndexOfLoop data c.bytes (getByteWidthOfCharacter c.lead) offset rounds (i + 1)
        (position + getByteWidthOfCharacter d.lead) := by
  rw [getIndexOfLoop, byteAt_of_drop_eq h]
  simp only [bind, Except.bind, isFoundAt_character h]
  have hbytes : d.bytes = c.bytes ↔ d = c := Utf8Character.bytes_injective.eq_iff
  by_cases hoffset : offset ≤ i
  · by_cases hsame : d = c
    · simp [hoffset, hsame, pure, Except.pure]
    · simp [hoffset, hsame, hbytes]
  · simp [hoffset, pure, Except.pure]

/-! ## The loop -/

/-- **Where the character is**, the loop ends at the first one. -/
theorem getIndexOfLoop_of_mem (h : data.drop position = bytesOf ds ++ tail)
    (hrounds : ds.length ≤ rounds)
    {k : ℕ} (hk : ds[k]? = some c) (hoffset : offset ≤ i + k)
    (hfirst : ∀ j < k, offset ≤ i + j → ds[j]? ≠ some c) :
    getIndexOfLoop data c.bytes (getByteWidthOfCharacter c.lead) offset rounds i position =
      .ok (some (i + k)) := by
  induction ds generalizing k rounds i position with
  | nil => cases hk
  | cons d ds ih =>
    obtain ⟨rounds, rfl⟩ := Nat.exists_eq_succ_of_ne_zero (Nat.ne_zero_of_lt hrounds)
    have hbytes : data.drop position = d.bytes ++ (bytesOf ds ++ tail) :=
      h.trans (List.append_assoc _ _ _)
    rw [getIndexOfLoop_character hbytes]
    cases k with
    | zero =>
      rw [if_pos ⟨hoffset, Option.some.inj hk⟩]
      rfl
    | succ k =>
      have hnot : ¬ (offset ≤ i ∧ d = c) := by
        rintro ⟨hle, rfl⟩
        exact hfirst 0 (Nat.succ_pos k) hle rfl
      rw [if_neg hnot, ih (drop_add_of_drop_append hbytes) (Nat.le_of_succ_le_succ hrounds) hk (by omega)
        fun j hj hle => hfirst (j + 1) (by omega) (by omega)]
      congr 2
      omega

/-- **Where it is not**, the loop goes over the characters, and rounds are left. -/
theorem getIndexOfLoop_of_notMem (h : data.drop position = bytesOf ds ++ tail)
    (hrounds : ds.length ≤ rounds) (hnone : ∀ j, offset ≤ i + j → ds[j]? ≠ some c) :
    getIndexOfLoop data c.bytes (getByteWidthOfCharacter c.lead) offset rounds i position =
      getIndexOfLoop data c.bytes (getByteWidthOfCharacter c.lead) offset (rounds - ds.length)
        (i + ds.length) (position + (bytesOf ds).length) := by
  induction ds generalizing rounds i position with
  | nil => rfl
  | cons d ds ih =>
    obtain ⟨rounds, rfl⟩ := Nat.exists_eq_succ_of_ne_zero (Nat.ne_zero_of_lt hrounds)
    have hbytes : data.drop position = d.bytes ++ (bytesOf ds ++ tail) :=
      h.trans (List.append_assoc _ _ _)
    have hnot : ¬ (offset ≤ i ∧ d = c) := by
      rintro ⟨hle, rfl⟩
      exact hnone 0 hle rfl
    have hlength : (bytesOf (d :: ds)).length = getByteWidthOfCharacter d.lead + (bytesOf ds).length := by
      rw [← d.length_bytes]
      exact List.length_append
    have hindex : i + (d :: ds).length = i + 1 + ds.length := by
      rw [List.length_cons]
      omega
    rw [getIndexOfLoop_character hbytes, if_neg hnot, ih (drop_add_of_drop_append hbytes)
      (Nat.le_of_succ_le_succ hrounds) (fun j hle => hnone (j + 1) (by omega)), hindex, hlength,
      ← Nat.add_assoc position, List.length_cons, Nat.succ_sub_succ]

/-- **At the terminator**, one round is harmless, and the next one reads behind it. -/
theorem getIndexOfLoop_length (c : Utf8Character) :
    getIndexOfLoop data c.bytes (getByteWidthOfCharacter c.lead) offset rounds i data.length =
      if rounds ≤ 1 then .ok none else .error .pastEnd := by
  have hround (rounds : ℕ) :
      getIndexOfLoop data c.bytes (getByteWidthOfCharacter c.lead) offset (rounds + 1) i data.length =
        getIndexOfLoop data c.bytes (getByteWidthOfCharacter c.lead) offset rounds (i + 1)
          (data.length + 1) := by
    have hfound : isFoundAt data c.bytes data.length (getByteWidthOfCharacter c.lead) 0 = .ok false := by
      rw [isFoundAt, byteAt_bytes]
      have hzero : ¬ 0 = c.lead := fun h => c.lead_ne_zero h.symm
      have hone : getByteWidthOfCharacter 0 = 1 := by decide
      simp [hone, hzero, bind, Except.bind, pure, Except.pure]
    have hone : getByteWidthOfCharacter 0 = 1 := by decide
    rw [getIndexOfLoop, byteAt_length]
    simp only [bind, Except.bind, pure, Except.pure, hfound, hone]
    split <;> rfl
  match rounds with
  | 0 => rfl
  | 1 => exact hround 0
  | rounds + 2 =>
    have hpast : byteAt data (data.length + 1) = .error .pastEnd := if_neg (Nat.not_succ_le_self _)
    rw [hround, getIndexOfLoop, hpast, if_neg (by omega)]
    rfl

/-- **The search**, after its first checks. -/
theorem getIndexOf_ofCharacters (hoffset : ¬ (offset = npos ∧ offset ≥ (bytesOf cs).length)) :
    getIndexOf (ofCharacters cs) c.bytes offset =
      getIndexOfLoop (bytesOf cs) c.bytes (getByteWidthOfCharacter c.lead) offset (bytesOf cs).length 0
        0 := by
  have hwidth : getByteWidthOfCharacter c.lead ≠ npos := by
    have hle := getByteWidth_le_four c.lead
    unfold npos
    omega
  have hrun : getIndexOf (ofCharacters cs) c.bytes offset = _ := if_neg hoffset
  rw [hrun, byteAt_bytes]
  simp only [bind, Except.bind, if_neg hwidth]
  rfl

/-- **The index of a character**: the search answers, without a read from behind the terminator, exactly
if it finds the character, looks for nothing, or the string has at most one byte more than characters. -/
theorem isIndexOf_getIndexOf_iff (cs : List Utf8Character) (c : Utf8Character) (offset : ℕ) :
    IsIndexOf cs c offset (getIndexOf (ofCharacters cs) c.bytes offset) ↔
      (∃ i, offset ≤ i ∧ cs[i]? = some c) ∨ (offset = npos ∧ (bytesOf cs).length ≤ npos) ∨
        (bytesOf cs).length ≤ cs.length + 1 := by
  have hlength := length_le_length_bytesOf cs
  have hall : (bytesOf cs).drop 0 = bytesOf cs ++ [] := (List.append_nil _).symm
  by_cases hnpos : offset = npos ∧ offset ≥ (bytesOf cs).length
  · -- no character has this index
    have hanswer : getIndexOf (ofCharacters cs) c.bytes offset = .ok none := if_pos hnpos
    rw [hanswer]
    refine iff_of_true (fun j hj => ?_) (.inr (.inl ⟨hnpos.1, hnpos.1 ▸ hnpos.2⟩))
    rw [List.getElem?_eq_none (by omega)]
    exact Option.some_ne_none c |>.symm
  · rw [getIndexOf_ofCharacters hnpos]
    by_cases hmem : ∃ i, offset ≤ i ∧ cs[i]? = some c
    · -- the first one is found
      classical
      have hfirst := Nat.find_spec hmem
      have hbefore (j : ℕ) (hj : j < Nat.find hmem) (hle : offset ≤ j) : cs[j]? ≠ some c :=
        fun hsame => Nat.find_min hmem hj ⟨hle, hsame⟩
      rw [getIndexOfLoop_of_mem hall hlength hfirst.2 (by omega)
        fun j hj hle => hbefore j hj (by omega), Nat.zero_add]
      exact iff_of_true ⟨hfirst.1, hfirst.2, hbefore⟩ (.inl hmem)
    · have hnone (j : ℕ) (hle : offset ≤ j) : cs[j]? ≠ some c := fun hsame => hmem ⟨j, hle, hsame⟩
      rw [getIndexOfLoop_of_notMem hall hlength (fun j hle => hnone j (by omega)), Nat.zero_add,
        Nat.zero_add, getIndexOfLoop_length]
      split
      next hrounds => exact iff_of_true hnone (.inr (.inr (by omega)))
      next hrounds =>
        refine iff_of_false id ?_
        rintro (hfound | ⟨hoffset, hbytes⟩ | hbytes)
        · exact hmem hfound
        · exact hnpos ⟨hoffset, hoffset ▸ hbytes⟩
        · omega

/-- The letter "ä". -/
def aUmlaut : Utf8Character := ⟨0xC3, [0xA4], by decide, by decide, List.forall_mem_singleton.mpr (by decide)⟩

/-- The search for a letter in two others, of two bytes each. -/
theorem not_isIndexOf_getIndexOf : ¬ IsIndexOf [aUmlaut, aUmlaut]
    (.ofAscii 0x78 (by decide) (by decide)) 0
    (getIndexOf (ofCharacters [aUmlaut, aUmlaut]) [0x78] 0) := by
  have hpast : getIndexOf (ofCharacters [aUmlaut, aUmlaut]) [0x78] 0 = .error .pastEnd := by
    decide
  rw [hpast]
  exact id

end UTF8String

end OpenKit
