import OpenKit.Core.Utf8Characters
import OpenKit.Json.JsonGrammar

/-!
# The pattern of numbers

The pattern takes as many digits as there are. No digit may stand behind an integer part, a fraction or an
exponent, so it takes what the grammar of numbers says.

## Main results

* `isSome_numberPattern_iff`: the pattern matches the numbers of the grammar
* `numberPattern_eq_some_iff`: neither a fraction nor an exponent is matched in an integer literal
* `forall_isLiteralCharacter_of_isNumber`: no character of a number ends a literal
-/

namespace OpenKit

namespace JsonLexer

/-- No digit follows. -/
def NoDigit (rest : List UInt8) : Prop := ∀ c ∈ rest.head?, isDigit c = false

theorem noDigit_nil : NoDigit [] := by
  intro c hc
  cases hc

theorem noDigit_cons {c : UInt8} (h : isDigit c = false) (rest : List UInt8) : NoDigit (c :: rest) := by
  intro d hd
  obtain rfl := Option.some.inj hd
  exact h

section Skip

variable {l rest ds : List UInt8}

theorem dropWhile_append_of_noDigit (hds : ∀ c ∈ ds, isDigit c = true) (hrest : NoDigit rest) :
    (ds ++ rest).dropWhile isDigit = rest := by
  rw [List.dropWhile_append_of_pos hds]
  cases rest with
  | nil => rfl
  | cons c rest => exact List.dropWhile_cons_of_neg (by rw [hrest c rfl]; exact Bool.false_ne_true)

/-! ## Each part -/

theorem skipMinus_append {minus : List UInt8} (hminus : minus = [] ∨ minus = [0x2D])
    (hl : l.head? ≠ some 0x2D) : skipMinus (minus ++ l) = l := by
  rcases hminus with rfl | rfl
  · cases l with
    | nil => rfl
    | cons c l => exact if_neg fun hc => hl (congrArg some hc)
  · rfl

theorem exists_of_skipMinus (l : List UInt8) :
    ∃ minus, (minus = [] ∨ minus = [0x2D]) ∧ l = minus ++ skipMinus l := by
  cases l with
  | nil => exact ⟨[], .inl rfl, rfl⟩
  | cons c l =>
    rw [skipMinus]
    split
    next hc =>
      rw [hc]
      exact ⟨[0x2D], .inr rfl, rfl⟩
    next => exact ⟨[], .inl rfl, rfl⟩

theorem skipInteger_append {integer : List UInt8} (h : IsInteger integer) (hrest : NoDigit rest) :
    skipInteger (integer ++ rest) = some rest := by
  rcases h with rfl | ⟨d, ds, rfl, hzero, hd, hds⟩
  · rfl
  · rw [List.cons_append, skipInteger, if_neg hzero, if_pos hd,
      dropWhile_append_of_noDigit hds hrest]

theorem exists_of_skipInteger (h : skipInteger l = some rest) :
    ∃ integer, IsInteger integer ∧ l = integer ++ rest := by
  cases l with
  | nil => cases h
  | cons d l =>
    rw [skipInteger] at h
    split at h
    next hzero =>
      rw [← Option.some.inj h, hzero]
      exact ⟨[0x30], .inl rfl, rfl⟩
    next hzero =>
      split at h
      next hd =>
        rw [← Option.some.inj h]
        refine ⟨d :: l.takeWhile isDigit, .inr ⟨d, _, rfl, hzero, hd, fun c hc => ?_⟩, ?_⟩
        · exact List.all_eq_true.mp List.all_takeWhile c hc
        · rw [List.cons_append, List.takeWhile_append_dropWhile]
      next => cases h

theorem skipDigits_append (hds : IsDigits ds) (hrest : NoDigit rest) :
    skipDigits (ds ++ rest) = some rest := by
  obtain ⟨hne, hall⟩ := hds
  obtain ⟨d, ds, rfl⟩ := List.exists_cons_of_ne_nil hne
  obtain ⟨hd, hds⟩ := List.forall_mem_cons.mp hall
  rw [List.cons_append, skipDigits, if_pos hd, dropWhile_append_of_noDigit hds hrest]

theorem exists_of_skipDigits (h : skipDigits l = some rest) : ∃ ds, IsDigits ds ∧ l = ds ++ rest := by
  cases l with
  | nil => cases h
  | cons d l =>
    rw [skipDigits] at h
    split at h
    next hd =>
      rw [← Option.some.inj h]
      refine ⟨d :: l.takeWhile isDigit, ⟨List.cons_ne_nil _ _, List.forall_mem_cons.mpr ⟨hd, ?_⟩⟩, ?_⟩
      · exact fun c hc => List.all_eq_true.mp List.all_takeWhile c hc
      · rw [List.cons_append, List.takeWhile_append_dropWhile]
    next => cases h

theorem skipFraction_append {fraction : List UInt8} (h : IsFraction fraction) (hrest : NoDigit rest) :
    skipFraction (fraction ++ rest) = some rest := by
  obtain ⟨ds, hds, rfl⟩ := h
  rw [List.cons_append, skipFraction, if_pos rfl, skipDigits_append hds hrest]

theorem exists_of_skipFraction (h : skipFraction l = some rest) :
    ∃ fraction, IsFraction fraction ∧ l = fraction ++ rest := by
  cases l with
  | nil => cases h
  | cons c l =>
    rw [skipFraction] at h
    split at h
    next hc =>
      obtain ⟨ds, hds, rfl⟩ := exists_of_skipDigits h
      rw [hc]
      exact ⟨0x2E :: ds, ⟨ds, hds, rfl⟩, rfl⟩
    next => cases h

theorem exists_of_skipSign (l : List UInt8) :
    ∃ sign, (sign = [] ∨ sign = [0x2B] ∨ sign = [0x2D]) ∧ l = sign ++ skipSign l := by
  cases l with
  | nil => exact ⟨[], .inl rfl, rfl⟩
  | cons c l =>
    rw [skipSign]
    split
    next hc =>
      rcases hc with rfl | rfl
      · exact ⟨[0x2B], .inr (.inl rfl), rfl⟩
      · exact ⟨[0x2D], .inr (.inr rfl), rfl⟩
    next => exact ⟨[], .inl rfl, rfl⟩

theorem skipSign_append {sign : List UInt8} (hsign : sign = [] ∨ sign = [0x2B] ∨ sign = [0x2D])
    (hds : IsDigits ds) : skipSign (sign ++ ds) = ds := by
  rcases hsign with rfl | rfl | rfl
  · obtain ⟨hne, hall⟩ := hds
    obtain ⟨d, ds, rfl⟩ := List.exists_cons_of_ne_nil hne
    have hd := hall d List.mem_cons_self
    refine if_neg ?_
    -- neither sign is a digit
    rintro (rfl | rfl)
    · exact absurd hd (by decide)
    · exact absurd hd (by decide)
  · rfl
  · rfl

theorem skipExponent_of_isExponent {exponent : List UInt8} (h : IsExponent exponent) :
    skipExponent exponent = some [] := by
  obtain ⟨e, sign, ds, he, hsign, hds, rfl⟩ := h
  have hskip := skipDigits_append hds noDigit_nil
  rw [List.append_nil] at hskip
  rw [skipExponent, if_pos he, skipSign_append hsign hds, hskip]

theorem exists_of_skipExponent (h : skipExponent l = some rest) :
    ∃ exponent, IsExponent exponent ∧ l = exponent ++ rest := by
  cases l with
  | nil => cases h
  | cons e l =>
    rw [skipExponent] at h
    split at h
    next he =>
      obtain ⟨sign, hsign, hl⟩ := exists_of_skipSign l
      obtain ⟨ds, hds, hdigits⟩ := exists_of_skipDigits h
      refine ⟨e :: (sign ++ ds), ⟨e, sign, ds, he, hsign, hds, rfl⟩, ?_⟩
      rw [hdigits] at hl
      rw [hl, List.cons_append, List.append_assoc]
    next => cases h

end Skip

/-! ## Numbers -/

variable {literal : List UInt8}

/-- What an integer part starts with. -/
theorem head?_of_isInteger {integer : List UInt8} (h : IsInteger integer) (rest : List UInt8) :
    ∃ d, (integer ++ rest).head? = some d ∧ isDigit d = true := by
  rcases h with rfl | ⟨d, ds, rfl, -, hd, -⟩
  · exact ⟨0x30, rfl, by decide⟩
  · exact ⟨d, rfl, hd⟩

theorem noDigit_of_isExponent {exponent : List UInt8} (h : exponent = [] ∨ IsExponent exponent) :
    NoDigit exponent := by
  rcases h with rfl | ⟨e, sign, ds, rfl | rfl, -, -, rfl⟩
  · exact noDigit_nil
  · exact noDigit_cons (by decide) _
  · exact noDigit_cons (by decide) _

/-- No exponent starts with a point. -/
theorem skipFraction_of_isExponent {exponent : List UInt8} (h : exponent = [] ∨ IsExponent exponent) :
    skipFraction exponent = none := by
  rcases h with rfl | ⟨e, sign, ds, rfl | rfl, -, -, rfl⟩ <;> rfl

/-- The pattern tells the parts of a number. -/
theorem numberPattern_of_parts {integer fraction exponent : List UInt8}
    (hinteger : IsIntegerLiteral integer) (hfraction : fraction = [] ∨ IsFraction fraction)
    (hexponent : exponent = [] ∨ IsExponent exponent) :
    numberPattern (integer ++ fraction ++ exponent) =
      some (decide (fraction ≠ []), decide (exponent ≠ [])) := by
  obtain ⟨minus, integer, hminus, hinteger, rfl⟩ := hinteger
  have hnoDigit : NoDigit (fraction ++ exponent) := by
    rcases hfraction with rfl | ⟨ds, -, rfl⟩
    · exact noDigit_of_isExponent hexponent
    · exact noDigit_cons (by decide) _
  have hstart : skipMinus (minus ++ integer ++ fraction ++ exponent) =
      integer ++ (fraction ++ exponent) := by
    rw [List.append_assoc, List.append_assoc]
    refine skipMinus_append hminus fun hhead => ?_
    obtain ⟨d, hd, hdigit⟩ := head?_of_isInteger hinteger (fraction ++ exponent)
    rw [hhead] at hd
    rw [← Option.some.inj hd] at hdigit
    exact absurd hdigit (by decide)
  have hlast : (skipExponent exponent).getD exponent = [] ∧
      (skipExponent exponent).isSome = decide (exponent ≠ []) := by
    rcases hexponent with rfl | hexponent
    · exact ⟨rfl, rfl⟩
    · rw [skipExponent_of_isExponent hexponent]
      obtain ⟨e, sign, ds, -, -, -, rfl⟩ := hexponent
      exact ⟨rfl, rfl⟩
  have hmiddle : (skipFraction (fraction ++ exponent)).getD (fraction ++ exponent) = exponent ∧
      (skipFraction (fraction ++ exponent)).isSome = decide (fraction ≠ []) := by
    rcases hfraction with rfl | hfraction
    · rw [List.nil_append, skipFraction_of_isExponent hexponent]
      exact ⟨rfl, rfl⟩
    · rw [skipFraction_append hfraction (noDigit_of_isExponent hexponent)]
      obtain ⟨ds, -, rfl⟩ := hfraction
      exact ⟨rfl, rfl⟩
  rw [numberPattern, hstart, skipInteger_append hinteger hnoDigit]
  simp only [hmiddle.1, hmiddle.2, hlast.1, hlast.2, if_true]

/-- What the pattern matches has the parts that it tells. -/
theorem exists_parts_of_numberPattern {hasFraction hasExponent : Bool}
    (h : numberPattern literal = some (hasFraction, hasExponent)) :
    ∃ integer fraction exponent, IsIntegerLiteral integer ∧
      (fraction = [] ∨ IsFraction fraction) ∧ (exponent = [] ∨ IsExponent exponent) ∧
      literal = integer ++ fraction ++ exponent := by
  obtain ⟨minus, hminus, hliteral⟩ := exists_of_skipMinus literal
  rw [numberPattern] at h
  split at h
  next => cases h
  next rest hrest =>
    obtain ⟨integer, hinteger, hskipped⟩ := exists_of_skipInteger hrest
    have hfraction : ∃ fraction, (fraction = [] ∨ IsFraction fraction) ∧
        rest = fraction ++ (skipFraction rest).getD rest := by
      cases hskip : skipFraction rest with
      | none => exact ⟨[], .inl rfl, rfl⟩
      | some after =>
        obtain ⟨fraction, hfraction, hrest⟩ := exists_of_skipFraction hskip
        exact ⟨fraction, .inr hfraction, hrest⟩
    obtain ⟨fraction, hfraction, hrest⟩ := hfraction
    have hexponent : ∃ exponent, (exponent = [] ∨ IsExponent exponent) ∧
        (skipFraction rest).getD rest = exponent ++
          (skipExponent ((skipFraction rest).getD rest)).getD ((skipFraction rest).getD rest) := by
      cases hskip : skipExponent ((skipFraction rest).getD rest) with
      | none => exact ⟨[], .inl rfl, rfl⟩
      | some after =>
        obtain ⟨exponent, hexponent, hafter⟩ := exists_of_skipExponent hskip
        exact ⟨exponent, .inr hexponent, hafter⟩
    obtain ⟨exponent, hexponent, hafter⟩ := hexponent
    simp only at h
    split at h
    next hend =>
      rw [hend, List.append_nil] at hafter
      refine ⟨minus ++ integer, fraction, exponent, ⟨minus, integer, hminus, hinteger, rfl⟩, hfraction,
        hexponent, ?_⟩
      rw [hliteral, hskipped, List.append_assoc, List.append_assoc, ← hafter, ← hrest]
    next => cases h

/-- **The pattern** matches the numbers of the grammar. -/
theorem isSome_numberPattern_iff : (numberPattern literal).isSome = true ↔ IsNumber literal := by
  constructor
  · intro h
    obtain ⟨⟨hasFraction, hasExponent⟩, hpattern⟩ := Option.isSome_iff_exists.mp h
    exact exists_parts_of_numberPattern hpattern
  · rintro ⟨integer, fraction, exponent, hinteger, hfraction, hexponent, rfl⟩
    rw [numberPattern_of_parts hinteger hfraction hexponent]
    rfl

/-- **An integer literal** has neither a fraction nor an exponent. -/
theorem numberPattern_eq_some_iff :
    numberPattern literal = some (false, false) ↔ IsIntegerLiteral literal := by
  constructor
  · intro h
    obtain ⟨integer, fraction, exponent, hinteger, hfraction, hexponent, rfl⟩ :=
      exists_parts_of_numberPattern h
    rw [numberPattern_of_parts hinteger hfraction hexponent] at h
    obtain ⟨hf, he⟩ := Prod.mk.inj (Option.some.inj h)
    have hfnil : fraction = [] := by simpa using hf
    have henil : exponent = [] := by simpa using he
    rw [hfnil, henil, List.append_nil, List.append_nil]
    exact hinteger
  · intro h
    have hparts := numberPattern_of_parts h (.inl rfl) (.inl rfl)
    rwa [List.append_nil, List.append_nil] at hparts

/-! ## The characters of a number -/

theorem isLiteralCharacter_of_isDigit {c : UInt8} (h : isDigit c = true) :
    isLiteralCharacter c = true := by
  have hall : ∀ c : UInt8, isDigit c = true → isLiteralCharacter c = true :=
    UTF8String.forall_byte (by decide +kernel)
  exact hall c h

/-- **No character of a number** ends a literal. -/
theorem forall_isLiteralCharacter_of_isNumber (h : IsNumber literal) :
    ∀ c ∈ literal, isLiteralCharacter c = true := by
  obtain ⟨integer, fraction, exponent, ⟨minus, integer, hminus, hinteger, rfl⟩, hfraction, hexponent,
    rfl⟩ := h
  have hdigits {ds : List UInt8} (hds : ∀ c ∈ ds, isDigit c = true) :
      ∀ c ∈ ds, isLiteralCharacter c = true :=
    fun c hc => isLiteralCharacter_of_isDigit (hds c hc)
  refine List.forall_mem_append.mpr ⟨List.forall_mem_append.mpr ⟨List.forall_mem_append.mpr
    ⟨?_, ?_⟩, ?_⟩, ?_⟩
  · rcases hminus with rfl | rfl
    · exact List.forall_mem_nil _
    · exact List.forall_mem_singleton.mpr (by decide)
  · rcases hinteger with rfl | ⟨d, ds, rfl, -, hd, hds⟩
    · exact List.forall_mem_singleton.mpr (by decide)
    · exact List.forall_mem_cons.mpr ⟨isLiteralCharacter_of_isDigit hd, hdigits hds⟩
  · rcases hfraction with rfl | ⟨ds, hds, rfl⟩
    · exact List.forall_mem_nil _
    · exact List.forall_mem_cons.mpr ⟨by decide, hdigits hds.2⟩
  · rcases hexponent with rfl | ⟨e, sign, ds, he, hsign, hds, rfl⟩
    · exact List.forall_mem_nil _
    · refine List.forall_mem_cons.mpr ⟨?_, List.forall_mem_append.mpr ⟨?_, hdigits hds.2⟩⟩
      · rcases he with rfl | rfl <;> decide
      · rcases hsign with rfl | rfl | rfl
        · exact List.forall_mem_nil _
        · exact List.forall_mem_singleton.mpr (by decide)
        · exact List.forall_mem_singleton.mpr (by decide)

end JsonLexer

end OpenKit
