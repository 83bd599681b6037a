import OpenKit.Core.Utf8Characters

/-!
# Substrings

`substring` walks over the characters of a string, remembers where the first one that is wanted starts,
and where the last one ends. Where there is no such character, the first offset keeps its default, so
that all bytes are taken.

## Main definitions

* `UTF8String.slice`: the characters from one on, some of them at most

## Main results

* `UTF8String.substring_eq_slice_iff`: when a substring is such a slice
* `UTF8String.substring_of_length_le`: what a start behind the last character gives
-/

namespace OpenKit

namespace UTF8String

variable {cs ds : List Utf8Character} {data : List UInt8} {start length : ℕ}

/-- The characters from `start` on, `length` of them at most. -/
def slice (cs : List Utf8Character) (start length : ℕ) : List Utf8Character :=
  (cs.drop start).take length

/-! ## The loop -/

/-- The offset of the last byte of the characters that are counted. -/
def endAfter (byteIndex : ℕ) (byteOffsetEnd : ℤ) (ds : List Utf8Character) : ℤ :=
  if ds = [] then byteOffsetEnd else byteIndex + (bytesOf ds).length - 1

/-- A character that is not the last one is followed by others. -/
theorem endAfter_cons (byteIndex : ℕ) (byteOffsetEnd : ℤ) (c : Utf8Character)
    (ds : List Utf8Character) :
    endAfter byteIndex byteOffsetEnd (c :: ds) =
      endAfter (byteIndex + getByteWidthOfCharacter c.lead)
        (byteIndex + getByteWidthOfCharacter c.lead - 1) ds := by
  have hbytes : (bytesOf (c :: ds)).length =
      getByteWidthOfCharacter c.lead + (bytesOf ds).length := by
    rw [← c.length_bytes]
    exact List.length_append
  rw [endAfter, if_neg (List.cons_ne_nil c ds), hbytes, endAfter]
  split
  next h =>
    rw [h]
    simp
  next => omega

/-- The loop once the first character is found: it counts characters, up to the length. -/
theorem substringOffsets_of_lt {rounds byteIndex byteOffsetStart characterIndex characterCounter : ℕ}
    {byteOffsetEnd : ℤ} (hdata : data.drop byteIndex = bytesOf ds) (hstart : start < characterIndex)
    (hcounter : characterCounter ≤ length) (hrounds : length ≤ characterCounter + rounds) :
    substringOffsets data start length rounds byteIndex byteOffsetStart byteOffsetEnd characterIndex
        characterCounter =
      (byteOffsetStart, endAfter byteIndex byteOffsetEnd (ds.take (length - characterCounter)),
        characterCounter + (ds.take (length - characterCounter)).length) := by
  induction rounds generalizing ds byteIndex byteOffsetEnd characterIndex characterCounter with
  | zero =>
    have hnone : length - characterCounter = 0 := by omega
    rw [substringOffsets, hnone]
    rfl
  | succ rounds ih =>
    rw [substringOffsets]
    cases ds with
    | nil =>
      have hend : ¬ byteIndex < data.length := by
        rw [not_lt]
        exact List.drop_eq_nil_iff.mp hdata
      rw [if_neg fun h => hend h.1, List.take_nil]
      rfl
    | cons c ds =>
      obtain ⟨hlt, hlead⟩ := getD_of_drop_eq hdata
      by_cases hmore : characterCounter < length
      · obtain ⟨left, hleft⟩ := Nat.exists_eq_add_of_lt hmore
        have hrest : length - characterCounter = left + 1 := by omega
        have hnext : length - (characterCounter + 1) = left := by omega
        dsimp only
        rw [if_pos ⟨hlt, hmore⟩, hlead, if_neg hstart.ne', if_pos hstart.le,
          ih (drop_add_of_drop_eq hdata) (hstart.trans (Nat.lt_succ_self _)) hmore (by omega), hnext,
          hrest, List.take_succ_cons, endAfter_cons, List.length_cons, Nat.succ_add_eq_add_succ]
      · have hnone : length - characterCounter = 0 := by omega
        rw [if_neg fun h => hmore h.2, hnone]
        rfl

/-- **The loop** up to the first character that is wanted, and from there. -/
theorem substringOffsets_of_le {rounds byteIndex characterIndex : ℕ} {byteOffsetEnd : ℤ}
    (hdata : data.drop byteIndex = bytesOf ds) (hstart : characterIndex ≤ start)
    (hrounds : start + length ≤ characterIndex + rounds) (hlength : 0 < length) :
    substringOffsets data start length rounds byteIndex 0 byteOffsetEnd characterIndex 0 =
      if start - characterIndex < ds.length then
        (byteIndex + (bytesOf (ds.take (start - characterIndex))).length,
          endAfter byteIndex byteOffsetEnd (ds.take (start - characterIndex + length)),
          (slice ds (start - characterIndex) length).length)
      else (0, endAfter byteIndex byteOffsetEnd ds, 0) := by
  induction rounds generalizing ds byteIndex byteOffsetEnd characterIndex with
  | zero => omega
  | succ rounds ih =>
    rw [substringOffsets]
    cases ds with
    | nil =>
      have hend : ¬ byteIndex < data.length := by
        rw [not_lt]
        exact List.drop_eq_nil_iff.mp hdata
      rw [if_neg fun h => hend h.1, List.length_nil, if_neg (Nat.not_lt_zero _)]
      rfl
    | cons c ds =>
      obtain ⟨hlt, hlead⟩ := getD_of_drop_eq hdata
      have hnext := drop_add_of_drop_eq hdata
      dsimp only
      rw [if_pos ⟨hlt, hlength⟩, hlead]
      rcases hstart.eq_or_lt with rfl | hbefore
      · -- this is the first character
        obtain ⟨left, rfl⟩ : ∃ left, length = left + 1 := ⟨length - 1, by omega⟩
        have hpos : 0 < (c :: ds).length := Nat.succ_pos _
        rw [if_pos rfl, if_pos (le_refl _), Nat.sub_self, if_pos hpos,
          substringOffsets_of_lt hnext (Nat.lt_succ_self _) (by omega) (by omega), Nat.zero_add,
          Nat.zero_add, Nat.add_sub_cancel, List.take_succ_cons, endAfter_cons, slice, List.drop_zero,
          List.take_succ_cons, List.length_cons, Nat.add_comm 1]
        rfl
      · obtain ⟨skipped, hskipped⟩ : ∃ skipped, start - characterIndex = skipped + 1 :=
          ⟨start - characterIndex - 1, by omega⟩
        have hskipped' : start - (characterIndex + 1) = skipped := by omega
        have hbytes (k : ℕ) : (bytesOf ((c :: ds).take (k + 1))).length =
            getByteWidthOfCharacter c.lead + (bytesOf (ds.take k)).length := by
          rw [List.take_succ_cons, ← c.length_bytes]
          exact List.length_append
        rw [if_neg hbefore.ne, if_neg (not_le.mpr hbefore), ih hnext hbefore (by omega), hskipped,
          hskipped']
        rw [List.length_cons]
        by_cases hfound : skipped < ds.length
        · rw [if_pos hfound, if_pos (Nat.add_lt_add_right hfound 1), hbytes, Nat.add_assoc,
            Nat.add_right_comm skipped 1 length, List.take_succ_cons, endAfter_cons, slice, slice,
            List.drop_succ_cons]
        · rw [if_neg hfound, if_neg fun h => hfound (Nat.lt_of_add_lt_add_right h), endAfter_cons]

/-! ## The string that is cut out -/

/-- The bytes of a slice are those from its first character to its last one. -/
theorem take_drop_bytesOf (cs : List Utf8Character) (start length : ℕ) :
    ((bytesOf cs).take (bytesOf (cs.take (start + length))).length).drop
      (bytesOf (cs.take start)).length = bytesOf (slice cs start length) := by
  have hprefix : (cs.take (start + length)).take start = cs.take start := by
    rw [List.take_take, Nat.min_eq_left (Nat.le_add_right _ _)]
  rw [take_bytesOf, ← hprefix, drop_bytesOf, slice, List.drop_take, Nat.add_sub_cancel_left]

/-- **A start before the end** gives a slice. -/
theorem substring_of_lt (h : start < cs.length) :
    (ofCharacters cs).substring start length = ofCharacters (slice cs start length) := by
  rcases Nat.eq_zero_or_pos length with rfl | hlength
  · rw [substring, if_pos (.inl rfl), slice, List.take_zero]
    rfl
  · have hne : cs.take (start + length) ≠ [] := by
      intro hnil
      rcases List.take_eq_nil_iff.mp hnil with hzero | rfl
      · omega
      · exact absurd h (Nat.not_lt_zero _)
    have hpos : 0 < (bytesOf (cs.take (start + length))).length :=
      List.length_pos_iff.mpr (mt bytesOf_eq_nil_iff.mp hne)
    -- the slice has a character, so that its first byte stands before its last one
    have hslice : slice cs start length ≠ [] := by
      intro hnil
      rcases List.take_eq_nil_iff.mp hnil with hzero | hnil
      · omega
      · exact absurd (List.drop_eq_nil_iff.mp hnil) (not_le.mpr h)
    have hparts : (bytesOf (cs.take (start + length))).length =
        (bytesOf (cs.take start)).length + (bytesOf (slice cs start length)).length := by
      rw [slice, ← List.length_append, ← bytesOf_append, ← List.take_add]
    have hbytes : 0 < (bytesOf (slice cs start length)).length :=
      List.length_pos_iff.mpr (mt bytesOf_eq_nil_iff.mp hslice)
    have hle : (bytesOf (cs.take (start + length))).length ≤ (bytesOf cs).length := by
      rw [← take_bytesOf]
      exact List.length_take_le' _ _
    have hall : (bytesOf cs).drop 0 = bytesOf cs := List.drop_zero
    have hstart : ¬ (bytesOf cs).length < start :=
      not_lt.mpr (h.le.trans (length_le_length_bytesOf cs))
    rw [substring, data_ofCharacters, if_neg (not_or.mpr ⟨hlength.ne', hstart⟩),
      substringOffsets_of_le hall (Nat.zero_le _) (Nat.zero_add _).ge hlength,
      Nat.sub_zero, if_pos h, endAfter, if_neg hne]
    dsimp only
    rw [if_pos (by omega), Nat.zero_add]
    have hend : ((0 : ℕ) + ((bytesOf (cs.take (start + length))).length : ℤ) - 1).toNat + 1 =
        (bytesOf (cs.take (start + length))).length := by omega
    rw [hend, take_drop_bytesOf]
    rfl

/-- **A start behind the end** gives all bytes, but no character. -/
theorem substring_of_length_le (h : cs.length ≤ start) (hlength : length ≠ 0)
    (hstart : start ≤ (bytesOf cs).length) (hcs : cs ≠ []) :
    (ofCharacters cs).substring start length = ⟨bytesOf cs, 0⟩ := by
  have hpos : 0 < (bytesOf cs).length := List.length_pos_iff.mpr (mt bytesOf_eq_nil_iff.mp hcs)
  have hall : (bytesOf cs).drop 0 = bytesOf cs := List.drop_zero
  rw [substring, data_ofCharacters, if_neg (not_or.mpr ⟨hlength, not_lt.mpr hstart⟩),
    substringOffsets_of_le hall (Nat.zero_le _) (Nat.zero_add _).ge
      (Nat.pos_of_ne_zero hlength), Nat.sub_zero, if_neg (not_lt.mpr h), endAfter, if_neg hcs]
  dsimp only
  rw [if_pos (by omega)]
  have hend : ((0 : ℕ) + ((bytesOf cs).length : ℤ) - 1).toNat + 1 = (bytesOf cs).length := by omega
  rw [hend, List.take_length, List.drop_zero]

/-! ## The first characters -/

/-- The loop from the start of a string on, over some of its characters. -/
theorem substringOffsets_zero {tail : List UInt8} {rounds byteIndex characterIndex characterCounter : ℕ}
    {byteOffsetEnd : ℤ} (hdata : data.drop byteIndex = bytesOf ds ++ tail)
    (hindex : characterIndex = 0 → byteIndex = 0) (hcounter : characterCounter + ds.length ≤ length)
    (hrounds : ds.length ≤ rounds) :
    substringOffsets data 0 length rounds byteIndex 0 byteOffsetEnd characterIndex characterCounter =
      substringOffsets data 0 length (rounds - ds.length) (byteIndex + (bytesOf ds).length) 0
        (endAfter byteIndex byteOffsetEnd ds) (characterIndex + ds.length)
        (characterCounter + ds.length) := by
  induction ds generalizing rounds byteIndex characterIndex characterCounter byteOffsetEnd with
  | nil => rfl
  | cons c ds ih =>
    obtain ⟨rounds, rfl⟩ := Nat.exists_eq_succ_of_ne_zero (Nat.ne_zero_of_lt hrounds)
    have hbytes : bytesOf (c :: ds) ++ tail = c.bytes ++ (bytesOf ds ++ tail) := List.append_assoc _ _ _
    rw [hbytes] at hdata
    have hlead := getD_of_drop_append hdata
    have hnext := drop_add_of_drop_append hdata
    have hstart : (if characterIndex = 0 then byteIndex else 0) = 0 := by
      split
      next h => exact hindex h
      next => rfl
    have hlength : (bytesOf (c :: ds)).length = getByteWidthOfCharacter c.lead + (bytesOf ds).length := by
      rw [← c.length_bytes]
      exact List.length_append
    rw [List.length_cons] at hcounter hrounds
    rw [substringOffsets, if_pos ⟨hlead.1, by omega⟩]
    dsimp only
    rw [hlead.2, hstart, if_pos (Nat.zero_le _), ih hnext (by omega) (by omega) (by omega), ← endAfter_cons,
      hlength, List.length_cons, Nat.succ_sub_succ]
    congr 1 <;> omega

/-- At a byte that starts no character the loop goes on counting. -/
theorem substringOffsets_stuck {b : UInt8} {tail : List UInt8}
    {rounds byteIndex characterIndex characterCounter : ℕ} {byteOffsetEnd : ℤ}
    (hdata : data.drop byteIndex = b :: tail) (hwidth : getByteWidthOfCharacter b = 0)
    (hindex : characterIndex = 0 → byteIndex = 0) (hcounter : characterCounter + rounds = length)
    (hrounds : 0 < rounds) :
    substringOffsets data 0 length rounds byteIndex 0 byteOffsetEnd characterIndex characterCounter =
      (0, (byteIndex : ℤ) - 1, length) := by
  have hlt : byteIndex < data.length := by
    by_contra hle
    rw [List.drop_eq_nil_of_le (not_lt.mp hle)] at hdata
    cases hdata
  have hb : data.getD byteIndex 0 = b := by
    rw [List.drop_eq_getElem_cons hlt] at hdata
    rw [List.getD_eq_getElem?_getD, List.getElem?_eq_getElem hlt]
    exact (List.cons.inj hdata).1
  have hstart : (if characterIndex = 0 then byteIndex else 0) = 0 := by
    split
    next h => exact hindex h
    next => rfl
  induction rounds generalizing characterIndex characterCounter byteOffsetEnd with
  | zero => cases hrounds
  | succ rounds ih =>
    rw [substringOffsets, if_pos ⟨hlt, by omega⟩]
    dsimp only
    have hend : (byteIndex : ℤ) + (0 : ℕ) - 1 = byteIndex - 1 := by omega
    rw [hb, hwidth, hstart, if_pos (Nat.zero_le _), Nat.add_zero, hend]
    rcases Nat.eq_zero_or_pos rounds with rfl | hmore
    · rw [substringOffsets, ← hcounter]
    · refine ih (by omega) (by omega) hmore ?_
      rw [if_neg (Nat.succ_ne_zero _)]

/-- **The first characters** of a string. -/
theorem substring_zero_length (tail : List UInt8) (n : ℕ) :
    (⟨bytesOf ds ++ tail, n⟩ : UTF8String).substring 0 ds.length = ofCharacters ds := by
  rcases eq_or_ne ds [] with rfl | hds
  · rfl
  · have hlength : ds.length ≠ 0 := mt List.length_eq_zero_iff.mp hds
    have hpos : 0 < (bytesOf ds).length := List.length_pos_iff.mpr (mt bytesOf_eq_nil_iff.mp hds)
    have hall : (bytesOf ds ++ tail).drop 0 = bytesOf ds ++ tail := List.drop_zero
    have hend : ((0 : ℕ) + ((bytesOf ds).length : ℤ) - 1).toNat + 1 = (bytesOf ds).length := by omega
    rw [substring, if_neg (not_or.mpr ⟨hlength, Nat.not_lt_zero _⟩), Nat.zero_add,
      substringOffsets_zero hall (fun _ => rfl) (Nat.zero_add _).le (le_refl _), Nat.sub_self,
      substringOffsets, endAfter, if_neg hds]
    dsimp only
    rw [if_pos ⟨by omega, by rw [List.length_append]; omega⟩, hend, List.take_left, Nat.zero_add]
    rfl

/-- A byte that starts no character ends the substring, but is counted. -/
theorem substring_zero_stuck {b : UInt8} (hwidth : getByteWidthOfCharacter b = 0) (tail : List UInt8)
    (n : ℕ) (h : ds.length < length) :
    (⟨bytesOf ds ++ b :: tail, n⟩ : UTF8String).substring 0 length =
      if ds = [] then nil else ⟨bytesOf ds, length⟩ := by
  have hall : (bytesOf ds ++ b :: tail).drop 0 = bytesOf ds ++ b :: tail := List.drop_zero
  have hbehind : (bytesOf ds ++ b :: tail).drop (0 + (bytesOf ds).length) = b :: tail := by
    rw [Nat.zero_add, List.drop_left]
  have hindex (hzero : 0 + ds.length = 0) : 0 + (bytesOf ds).length = 0 := by
    rw [Nat.zero_add] at hzero ⊢
    rw [List.length_eq_zero_iff.mp hzero]
    rfl
  rw [substring, if_neg (not_or.mpr ⟨by omega, Nat.not_lt_zero _⟩), Nat.zero_add,
    substringOffsets_zero hall (fun _ => rfl) (by omega) h.le,
    substringOffsets_stuck hbehind hwidth hindex (by omega) (by omega)]
  dsimp only
  by_cases hds : ds = []
  · subst hds
    rw [if_pos rfl]
    rfl
  · have hpos : 0 < (bytesOf ds).length := List.length_pos_iff.mpr (mt bytesOf_eq_nil_iff.mp hds)
    have hend : (((0 + (bytesOf ds).length : ℕ) : ℤ) - 1).toNat + 1 = (bytesOf ds).length := by omega
    rw [if_neg hds, if_pos ⟨by omega, by rw [List.length_append]; omega⟩, hend, List.take_left]
    rfl

/-- **A substring is a slice** of the characters, unless it starts behind the last one and not behind
the last byte. -/
theorem substring_eq_slice_iff (cs : List Utf8Character) (start length : ℕ) :
    (ofCharacters cs).substring start length = ofCharacters (slice cs start length) ↔
      start < cs.length ∨ length = 0 ∨ cs = [] ∨ (ofCharacters cs).data.length < start := by
  by_cases hbefore : start < cs.length
  · exact iff_of_true (substring_of_lt hbefore) (.inl hbefore)
  · have hslice : slice cs start length = [] := by
      rw [slice, List.drop_eq_nil_of_le (not_lt.mp hbefore), List.take_nil]
    rw [hslice]
    by_cases hlength : length = 0
    · rw [substring, if_pos (.inl hlength)]
      exact iff_of_true rfl (.inr (.inl hlength))
    · by_cases hstart : (bytesOf cs).length < start
      · rw [substring, if_pos (.inr hstart)]
        exact iff_of_true rfl (.inr (.inr (.inr hstart)))
      · by_cases hcs : cs = []
        · have hzero : start = 0 := by
            rw [hcs] at hstart
            exact Nat.le_zero.mp (not_lt.mp hstart)
          subst hcs hzero
          refine iff_of_true ?_ (.inr (.inr (.inl rfl)))
          rw [substring, data_ofCharacters, if_neg (not_or.mpr ⟨hlength, Nat.not_lt_zero _⟩),
            substringOffsets_of_le (List.drop_zero : _ = bytesOf []) (le_refl _) (Nat.zero_add _).ge
              (Nat.pos_of_ne_zero hlength)]
          rfl
        · rw [substring_of_length_le (not_lt.mp hbefore) hlength (not_lt.mp hstart) hcs]
          refine iff_of_false (fun h => ?_) ?_
          · exact hcs (bytesOf_eq_nil_iff.mp (congrArg UTF8String.data h))
          · rintro (h | h | h | h)
            · exact hbefore h
            · exact hlength h
            · exact hcs h
            · exact hstart h

/-- The whole string is the substring from its end on, and counts no character. -/
theorem not_substring_eq_slice :
    ¬ (ofCharacters [.ofAscii 97 (by decide) (by decide)]).substring 1 1 =
      ofCharacters (slice [.ofAscii 97 (by decide) (by decide)] 1 1) := by
  decide

end UTF8String

end OpenKit
