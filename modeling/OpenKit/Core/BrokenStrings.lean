import OpenKit.Core.IndexOf
import OpenKit.Core.Validation

/-!
# Strings that do not consist of characters

Where an intruder stands inside a character of the input, the string has bytes that belong to no
character. Such a string consists of characters up to the first of these bytes, which has no width, so
that whatever walks over the characters of the string stands still there. The loop of `substring` without
a length does so for as many rounds as there are numbers of 64 bits. This is a fault in the model, as is a
read from behind the terminator.

## Main definitions

* `UTF8String.Complete`: what consists of characters
* `UTF8String.WalkFault`, `UTF8String.substringFrom`: what can go wrong with a broken string

## Main results

* `UTF8String.validateString_cases`: every string is complete, or has a first byte without a width
* `UTF8String.exists_validateString_of_isInfix`: what is cut out of a string and made a string again is complete
* `UTF8String.getIndexOf_first`, `getIndexOf_broken`, `getIndexOf_complete`: a search in each of them
-/

namespace OpenKit

namespace UTF8String

variable {cs ds : List Utf8Character} {c : Utf8Character} {b : UInt8} {rest tail : List UInt8} {offset : ℕ}

/-- What consists of characters. -/
def Complete (data : List UInt8) : Prop := ∃ cs, bytesOf cs = data

theorem complete_bytesOf (cs : List Utf8Character) : Complete (bytesOf cs) := ⟨cs, rfl⟩

/-- Behind some characters there is another one, or nothing. -/
theorem width_of_bytesOf_eq (h : bytesOf ds = bytesOf cs ++ b :: rest) : getByteWidthOfCharacter b ≠ 0 := by
  induction cs generalizing ds with
  | nil =>
    cases ds with
    | nil => cases h
    | cons d ds =>
      have hlead : d.lead = b := (List.cons.inj h).1
      rw [← hlead, d.width_lead]
      exact Nat.succ_ne_zero _
  | cons c cs ih =>
    cases ds with
    | nil => cases h
    | cons d ds =>
      have hbytes : d.bytes ++ bytesOf ds = c.bytes ++ (bytesOf cs ++ b :: rest) :=
        h.trans (List.append_assoc _ _ _)
      have hlead : d.lead = c.lead := (List.cons.inj hbytes).1
      have hlength : d.bytes.length = c.bytes.length := by
        rw [d.length_bytes, c.length_bytes, hlead]
      exact ih (List.append_inj hbytes hlength).2

theorem not_complete_of_width (hb : getByteWidthOfCharacter b = 0) :
    ¬ Complete (bytesOf cs ++ b :: rest) := by
  rintro ⟨ds, hds⟩
  exact width_of_bytesOf_eq hds hb

/-- **What every string is**: some characters, and nothing or a byte without a width behind them. -/
theorem validateString_cases (stringData : List UInt8) :
    (∃ cs, validateString stringData = ofCharacters cs) ∨
      ∃ cs b rest n, validateString stringData = ⟨bytesOf cs ++ b :: rest, n⟩ ∧
        getByteWidthOfCharacter b = 0 := by
  obtain ⟨pieces, hstring, happended, -⟩ := exists_pieces stringData
  have hpieces : (∃ cs : List Utf8Character, pieces = cs.map Utf8Character.bytes) ∨
      ∃ cs b rest, pieces.flatten = bytesOf cs ++ b :: rest ∧ getByteWidthOfCharacter b = 0 := by
    have hpiece := happended.isPiece
    clear hstring happended
    induction pieces with
    | nil => exact .inl ⟨[], rfl⟩
    | cons p pieces ih =>
      obtain ⟨hp, hpieces⟩ := List.forall_mem_cons.mp hpiece
      rcases hp with ⟨c, rfl⟩ | ⟨hne, hzero⟩
      · rcases ih hpieces with ⟨cs, rfl⟩ | ⟨cs, b, rest, hflatten, hb⟩
        · exact .inl ⟨c :: cs, rfl⟩
        · refine .inr ⟨c :: cs, b, rest, ?_, hb⟩
          rw [List.flatten_cons, hflatten, ← List.append_assoc]
          rfl
      · obtain ⟨b, rest, rfl⟩ := List.exists_cons_of_ne_nil hne
        exact .inr ⟨[], b, rest ++ pieces.flatten, rfl, hzero b List.mem_cons_self⟩
  rcases hpieces with ⟨cs, rfl⟩ | ⟨cs, b, rest, hflatten, hb⟩
  · refine .inl ⟨cs, ?_⟩
    rw [hstring, List.length_map]
    rfl
  · exact .inr ⟨cs, b, rest, pieces.length, by rw [hstring, hflatten], hb⟩

/-! ## Strings of strings -/

/-- Behind a byte of some pieces that starts a character there are all other bytes of it. -/
theorem exists_prefix_of_flatten {pieces : List (List UInt8)} {front back : List UInt8} {lead : UInt8}
    (h : ∀ p ∈ pieces, IsPiece p) (hsplit : pieces.flatten = front ++ lead :: back)
    (hlead : getByteWidthOfCharacter lead ≠ 0) :
    ∃ c : Utf8Character, c.lead = lead ∧ c.rest <+: back := by
  induction pieces generalizing front with
  | nil => exact absurd hsplit (List.append_ne_nil_of_right_ne_nil front (List.cons_ne_nil _ _)).symm
  | cons p pieces ih =>
    obtain ⟨hp, hpieces⟩ := List.forall_mem_cons.mp h
    rw [List.flatten_cons] at hsplit
    rcases List.append_eq_append_iff.mp hsplit with ⟨as, -, hrest⟩ | ⟨as, hfront, hrest⟩
    · exact ih hpieces hrest
    · cases as with
      | nil => exact @ih [] hpieces hrest.symm
      | cons a as =>
        obtain ⟨rfl, rfl⟩ := List.cons.inj hrest
        have hmem : lead ∈ p := hfront ▸ List.mem_append_right front List.mem_cons_self
        rcases hp with ⟨c, rfl⟩ | ⟨-, hzero⟩
        · cases front with
          | nil =>
            obtain ⟨rfl, rfl⟩ := List.cons.inj hfront
            exact ⟨c, rfl, List.prefix_append _ _⟩
          | cons b front =>
            -- a later byte of a character starts none
            have hmem : lead ∈ c.rest := by
              rw [(List.cons.inj hfront).2]
              exact List.mem_append_right front List.mem_cons_self
            exact absurd (getByteWidth_of_continuation (c.continues lead hmem)) hlead
        · exact absurd (hzero lead hmem) hlead

/-- No intruder stands inside a character of a string. -/
theorem not_intruded_flatten {pieces : List (List UInt8)} (h : ∀ p ∈ pieces, IsPiece p) :
    ¬ Intruded pieces.flatten := by
  rintro ⟨front, lead, inner, last, back, hbytes, -, -, hwidth, b, hb, hintruder⟩
  have hlead : getByteWidthOfCharacter lead ≠ 0 := by omega
  obtain ⟨c, rfl, hprefix⟩ := exists_prefix_of_flatten h hbytes hlead
  have hlength : c.rest.length = inner.countP isPartOfPreviousUtf8Multibyte + 1 := by
    have hcharacter := c.width_lead
    omega
  have hcontinues : c.rest.countP isPartOfPreviousUtf8Multibyte = c.rest.length :=
    List.countP_eq_length.mpr c.continues
  rcases List.prefix_or_prefix_of_prefix hprefix (List.prefix_append inner (last :: back)) with hle | hle
  · -- the bytes between would hold the whole character
    have hcount := hle.sublist.countP_le (p := isPartOfPreviousUtf8Multibyte)
    omega
  · exact absurd (c.continues b (hle.subset hb)) (Bool.eq_false_iff.mp hintruder.2)

/-- An intruder stands in all bytes around. -/
theorem Intruded.of_isInfix {bytes bytes' : List UInt8} (h : Intruded bytes) (hpart : bytes <:+: bytes') :
    Intruded bytes' := by
  obtain ⟨front, lead, inner, last, back, rfl, hrest⟩ := h
  obtain ⟨before, after, rfl⟩ := hpart
  refine ⟨before ++ front, lead, inner, last, back ++ after, ?_, hrest⟩
  simp only [List.append_assoc, List.cons_append]

theorem terminated_of_isPrefix (stringData : List UInt8) : terminated stringData <+: stringData := by
  induction stringData with
  | nil => exact List.prefix_refl _
  | cons b stringData ih =>
    rw [terminated]
    split
    · exact List.nil_prefix
    · exact List.cons_prefix_cons.mpr ⟨rfl, ih⟩

/-- **A part of a string** that is made a string itself consists of characters. -/
theorem exists_validateString_of_isInfix {stringData data : List UInt8}
    (h : data <:+: (validateString stringData).data) : ∃ cs, validateString data = ofCharacters cs := by
  obtain ⟨pieces, hstring, happended, -⟩ := exists_pieces stringData
  rw [hstring] at h
  have hnot : ¬ Intruded (terminated data) := fun hintruded =>
    not_intruded_flatten happended.isPiece (hintruded.of_isInfix ((terminated_of_isPrefix data).isInfix.trans h))
  obtain ⟨cs, hcs, -⟩ := normalised_of_not_intruded hnot
  exact ⟨cs, hcs⟩

/-! ## Walks -/

/-- A read from behind the terminator, or a loop that stands still. -/
inductive WalkFault
  | readPastEnd
  | standsStill
deriving DecidableEq, Repr

/-- Whether a walk over the characters comes to a byte without a width. -/
def standsStill : ℕ → List UInt8 → Bool
  | 0, _ => false
  | _ + 1, [] => false
  | rounds + 1, b :: bytes =>
    getByteWidthOfCharacter b == 0 || standsStill rounds (bytes.drop (getByteWidthOfCharacter b - 1))

/-- `substring` without a length, which takes all characters that are left. Where the loop stands still, it
does so for as many rounds as there are numbers of 64 bits. -/
def substringFrom (s : UTF8String) (start : ℕ) : Except WalkFault UTF8String :=
  if standsStill s.data.length s.data then .error .standsStill
  else .ok (s.substring start s.data.length)

/-- A walk over characters does not stand still. -/
theorem standsStill_bytesOf (cs : List Utf8Character) (rounds : ℕ) :
    standsStill rounds (bytesOf cs) = false := by
  induction cs generalizing rounds with
  | nil => cases rounds <;> rfl
  | cons c cs ih =>
    cases rounds with
    | zero => rfl
    | succ rounds =>
      have hbytes : bytesOf (c :: cs) = c.lead :: (c.rest ++ bytesOf cs) := rfl
      have hwidth : ¬ getByteWidthOfCharacter c.lead = 0 := by
        rw [c.width_lead]
        exact Nat.succ_ne_zero _
      have hdrop : (c.rest ++ bytesOf cs).drop (getByteWidthOfCharacter c.lead - 1) = bytesOf cs := by
        rw [c.width_lead, Nat.add_sub_cancel, List.drop_left]
      rw [hbytes, standsStill, hdrop, ih, Bool.or_false, beq_eq_false_iff_ne]
      exact hwidth

/-- It does at the first byte without a width. -/
theorem standsStill_broken (hb : getByteWidthOfCharacter b = 0) {rounds : ℕ} (h : cs.length < rounds) :
    standsStill rounds (bytesOf cs ++ b :: rest) = true := by
  induction cs generalizing rounds with
  | nil =>
    obtain ⟨rounds, rfl⟩ := Nat.exists_eq_succ_of_ne_zero (Nat.ne_zero_of_lt h)
    have hbytes : bytesOf [] ++ b :: rest = b :: rest := rfl
    rw [hbytes, standsStill, hb]
    rfl
  | cons c cs ih =>
    obtain ⟨rounds, rfl⟩ := Nat.exists_eq_succ_of_ne_zero (Nat.ne_zero_of_lt h)
    have hbytes : bytesOf (c :: cs) ++ b :: rest = c.lead :: (c.rest ++ (bytesOf cs ++ b :: rest)) := by
      rw [← List.append_assoc]
      rfl
    have hdrop : (c.rest ++ (bytesOf cs ++ b :: rest)).drop (getByteWidthOfCharacter c.lead - 1) =
        bytesOf cs ++ b :: rest := by
      rw [c.width_lead, Nat.add_sub_cancel, List.drop_left]
    rw [hbytes, standsStill, hdrop, ih (Nat.lt_of_succ_lt_succ h), Bool.or_true]

/-! ## Searches -/

/-- The search, after its first checks. -/
theorem getIndexOf_of_ne_npos {data : List UInt8} {n : ℕ} (hoffset : offset ≠ npos) :
    getIndexOf ⟨data, n⟩ c.bytes offset =
      getIndexOfLoop data c.bytes (getByteWidthOfCharacter c.lead) offset data.length 0 0 := by
  have hwidth : getByteWidthOfCharacter c.lead ≠ npos := by
    have hle := getByteWidth_le_four c.lead
    unfold npos
    omega
  rw [getIndexOf, if_neg fun h => hoffset h.1, byteAt_bytes]
  simp only [bind, Except.bind, if_neg hwidth]

theorem length_le_length_append (cs : List Utf8Character) (tail : List UInt8) :
    cs.length ≤ (bytesOf cs ++ tail).length := by
  rw [List.length_append]
  exact (length_le_length_bytesOf cs).trans (Nat.le_add_right _ _)

/-- **A character is found** where it is first, whatever is behind it. -/
theorem getIndexOf_first {before after : List Utf8Character} {n : ℕ} (hbefore : c ∉ before) :
    getIndexOf ⟨bytesOf (before ++ c :: after) ++ tail, n⟩ c.bytes 0 = .ok (some before.length) := by
  have hoffset : 0 ≠ npos := by decide
  have hfound : (before ++ c :: after)[before.length]? = some c := by
    rw [List.getElem?_append_right (le_refl _), Nat.sub_self]
    rfl
  have hfirst (j : ℕ) (hj : j < before.length) : (before ++ c :: after)[j]? ≠ some c := by
    rw [List.getElem?_append_left hj]
    exact fun hsame => hbefore (List.mem_of_getElem? hsame)
  rw [getIndexOf_of_ne_npos hoffset, getIndexOfLoop_of_mem List.drop_zero
    (length_le_length_append _ tail) hfound (Nat.zero_le _) fun j hj _ => hfirst j hj, Nat.zero_add]

/-- The search stands still at a byte without a width. -/
theorem getIndexOfLoop_broken {data : List UInt8} {rounds i position : ℕ}
    (hdata : data.drop position = b :: rest) (hb : getByteWidthOfCharacter b = 0) :
    getIndexOfLoop data c.bytes (getByteWidthOfCharacter c.lead) offset rounds i position =
      .ok none := by
  have hlt : position < data.length := by
    by_contra hle
    rw [List.drop_eq_nil_of_le (not_lt.mp hle)] at hdata
    cases hdata
  have hbyte : byteAt data position = .ok b := by
    rw [List.drop_eq_getElem_cons hlt] at hdata
    rw [byteAt, if_pos hlt.le, List.getD_eq_getElem?_getD, List.getElem?_eq_getElem hlt]
    exact congrArg Except.ok (List.cons.inj hdata).1
  have hfound : isFoundAt data c.bytes position (getByteWidthOfCharacter c.lead) b = .ok false := by
    have hwidth : ¬ getByteWidthOfCharacter c.lead = getByteWidthOfCharacter b := by
      rw [hb, c.width_lead]
      exact Nat.succ_ne_zero _
    exact if_neg hwidth
  induction rounds generalizing i with
  | zero => rfl
  | succ rounds ih =>
    rw [getIndexOfLoop, hbyte]
    simp only [bind, Except.bind, pure, Except.pure, hfound, hb, Nat.add_zero]
    split <;> exact ih

/-- **Behind a byte without a width** nothing is found. -/
theorem getIndexOf_broken {n : ℕ} (hoffset : offset ≠ npos) (hb : getByteWidthOfCharacter b = 0)
    (hnone : ∀ j, offset ≤ j → cs[j]? ≠ some c) :
    getIndexOf ⟨bytesOf cs ++ b :: rest, n⟩ c.bytes offset = .ok none := by
  have hbroken : (bytesOf cs ++ b :: rest).drop (0 + (bytesOf cs).length) = b :: rest := by
    rw [Nat.zero_add, List.drop_left]
  rw [getIndexOf_of_ne_npos hoffset, getIndexOfLoop_of_notMem List.drop_zero
    (length_le_length_append cs _) fun j hle => hnone j (by omega)]
  exact getIndexOfLoop_broken hbroken hb

/-- **In a complete string** the search that finds nothing may read from behind the terminator. -/
theorem getIndexOf_complete (hoffset : offset ≠ npos) (hnone : ∀ j, offset ≤ j → cs[j]? ≠ some c) :
    getIndexOf (ofCharacters cs) c.bytes offset =
      if (bytesOf cs).length ≤ cs.length + 1 then .ok none else .error .pastEnd := by
  have hall : (bytesOf cs).drop 0 = bytesOf cs ++ [] := (List.append_nil _).symm
  have hrounds : (bytesOf cs).length - cs.length ≤ 1 ↔ (bytesOf cs).length ≤ cs.length + 1 := by omega
  rw [ofCharacters, getIndexOf_of_ne_npos hoffset, getIndexOfLoop_of_notMem hall
    (length_le_length_bytesOf cs) fun j hle => hnone j (by omega), Nat.zero_add, Nat.zero_add,
    getIndexOfLoop_length]
  exact if_congr hrounds rfl rfl

/-! ## ASCII characters -/

/-- An ASCII byte stands for itself only: no other character has it. -/
theorem mem_bytesOf_ascii (hzero : b ≠ 0) (hwidth : getByteWidthOfCharacter b = 1) :
    b ∈ bytesOf cs ↔ Utf8Character.ofAscii b hzero hwidth ∈ cs := by
  rw [List.mem_flatMap]
  constructor
  · rintro ⟨c, hc, hb⟩
    have hsame : c = .ofAscii b hzero hwidth := by
      have hc' := c.width_lead
      rcases List.mem_cons.mp hb with rfl | hb
      · have hrest : c.rest = [] := List.length_eq_zero_iff.mp (by omega)
        apply Utf8Character.bytes_injective
        rw [Utf8Character.bytes, hrest]
        rfl
      · rw [getByteWidth_of_continuation (c.continues b hb)] at hwidth
        cases hwidth
    rwa [hsame] at hc
  · exact fun hc => ⟨_, hc, List.mem_singleton.mpr rfl⟩

/-- **The bytes before an ASCII byte** are those of the characters before it. -/
theorem takeWhile_ne_ascii {before after : List Utf8Character} (hzero : b ≠ 0)
    (hwidth : getByteWidthOfCharacter b = 1) (hbefore : Utf8Character.ofAscii b hzero hwidth ∉ before) :
    (bytesOf (before ++ Utf8Character.ofAscii b hzero hwidth :: after) ++ tail).takeWhile (· ≠ b) =
      bytesOf before := by
  have hnone : ∀ a ∈ bytesOf before, (decide (a ≠ b)) = true := by
    intro a ha
    refine decide_eq_true ?_
    rintro rfl
    exact hbefore ((mem_bytesOf_ascii hzero hwidth).mp ha)
  have hbytes : bytesOf (before ++ Utf8Character.ofAscii b hzero hwidth :: after) ++ tail =
      bytesOf before ++ b :: (bytesOf after ++ tail) := by
    rw [bytesOf_append, List.append_assoc]
    rfl
  rw [hbytes, List.takeWhile_append_of_pos hnone, List.takeWhile_cons_of_neg (by simp),
    List.append_nil]

/-- A byte that is an ASCII character, and no terminator. -/
def IsAsciiCharacter (b : UInt8) : Prop := b ≠ 0 ∧ getByteWidthOfCharacter b = 1

instance (b : UInt8) : Decidable (IsAsciiCharacter b) :=
  inferInstanceAs (Decidable (b ≠ 0 ∧ getByteWidthOfCharacter b = 1))

/-- **ASCII characters** are kept, one for each byte. -/
theorem exists_characters_of_ascii {bytes : List UInt8} (h : ∀ b ∈ bytes, IsAsciiCharacter b) :
    ∃ cs, bytesOf cs = bytes ∧ validateString bytes = ofCharacters cs := by
  have hcharacters : ∃ cs, bytesOf cs = bytes ∧ ∀ c ∈ cs, c.rest = [] := by
    induction bytes with
    | nil => exact ⟨[], rfl, List.forall_mem_nil _⟩
    | cons b bytes ih =>
      obtain ⟨⟨hzero, hwidth⟩, hbytes⟩ := List.forall_mem_cons.mp h
      obtain ⟨cs, rfl, hcs⟩ := ih hbytes
      exact ⟨.ofAscii b hzero hwidth :: cs, rfl, List.forall_mem_cons.mpr ⟨rfl, hcs⟩⟩
  obtain ⟨cs, rfl, hcs⟩ := hcharacters
  refine ⟨cs, rfl, validateString_bytesOf fun c hc heq => ?_⟩
  -- the terminator in two bytes is no ASCII character
  rw [Utf8Character.bytes, hcs c hc] at heq
  exact List.cons_ne_nil _ _ (List.cons.inj heq).2.symm

/-- **The bytes of ASCII characters** are kept. -/
theorem data_validateString_of_ascii {bytes : List UInt8} (h : ∀ b ∈ bytes, IsAsciiCharacter b) :
    (validateString bytes).data = bytes := by
  obtain ⟨cs, hbytes, hstring⟩ := exists_characters_of_ascii h
  rw [hstring, data_ofCharacters, hbytes]

end UTF8String

end OpenKit
