import Mathlib.Data.List.TakeWhile
import OpenKit.Core.Utf8Characters
import OpenKit.Json.JsonGrammar
import OpenKit.Protocol.KeyValueResponseParser

/-!
# Decimal numbers as texts

A decimal number is a text of digits behind a sign that may be missing. `stoi` and `strtol` skip whitespace,
and stop at the first character that is no digit: what they scan is a decimal number if nothing is skipped in
front of it and nothing is behind it.

## Main definitions

* `IsDecimal`: the texts of a number

## Main results

* `isDecimal_iff`: the texts of a number are those that are scanned from end to end
-/

namespace OpenKit

open JsonNumberValue UTF8String

/-- A decimal number, with a sign that may be missing. -/
def IsDecimal (v : ℤ) (text : List UInt8) : Prop :=
  ∃ ds, IsDigits ds ∧ ((text = ds ∨ text = 0x2B :: ds) ∧ v = digitsValue ds ∨
    text = 0x2D :: ds ∧ v = -digitsValue ds)

/-- What is behind the digits of a number. -/
def behindDigits (str : List UInt8) : List UInt8 :=
  (skipSign (str.dropWhile isspace)).dropWhile JsonLexer.isDigit

section Scanning

variable {text ds rest : List UInt8} {chr : UInt8} {v : ℤ}

/-- A digit is neither whitespace nor a sign. -/
theorem not_isspace_of_isDigit (h : JsonLexer.isDigit chr = true) :
    isspace chr = false ∧ chr ≠ 0x2D ∧ chr ≠ 0x2B := by
  have hall : ∀ b : UInt8, JsonLexer.isDigit b = true → isspace b = false ∧ b ≠ 0x2D ∧ b ≠ 0x2B :=
    forall_byte (by decide +kernel)
  exact hall chr h

theorem digitsOf_append_behindDigits (text : List UInt8) :
    digitsOf text ++ behindDigits text = skipSign (text.dropWhile isspace) :=
  List.takeWhile_append_dropWhile

theorem isDigits_digitsOf (h : digitsOf text ≠ []) : IsDigits (digitsOf text) :=
  ⟨h, fun _ hc => List.all_eq_true.mp List.all_takeWhile _ hc⟩

/-- Digits behind which nothing follows are what is scanned. -/
theorem scan_of_skipSign_eq (hds : IsDigits ds) (h : skipSign (text.dropWhile isspace) = ds) :
    digitsOf text = ds ∧ behindDigits text = [] := by
  obtain ⟨-, hall⟩ := hds
  unfold digitsOf behindDigits
  rw [h]
  exact ⟨List.takeWhile_eq_self_iff.mpr hall, List.dropWhile_eq_nil_iff.mpr hall⟩

theorem IsDecimal.ne_nil (h : IsDecimal v text) : text ≠ [] := by
  obtain ⟨ds, ⟨hne, -⟩, ⟨rfl | rfl, -⟩ | ⟨rfl, -⟩⟩ := h
  · exact hne
  · exact List.cons_ne_nil _ _
  · exact List.cons_ne_nil _ _

/-- **A decimal number is scanned** from end to end. -/
theorem IsDecimal.scan (h : IsDecimal v text) :
    text.dropWhile isspace = text ∧ digitsOf text ≠ [] ∧ behindDigits text = [] ∧
      signOf text * digitsValue (digitsOf text) = v := by
  obtain ⟨ds, hds, htext⟩ := h
  rcases htext with ⟨rfl | rfl, rfl⟩ | ⟨rfl, rfl⟩
  · obtain ⟨d, ds', rfl⟩ := List.exists_cons_of_ne_nil hds.1
    obtain ⟨hspace, hminus, hplus⟩ := not_isspace_of_isDigit (hds.2 d List.mem_cons_self)
    have hdrop : (d :: ds').dropWhile isspace = d :: ds' :=
      List.dropWhile_cons_of_neg (by rw [hspace]; exact Bool.false_ne_true)
    have hskip : skipSign ((d :: ds').dropWhile isspace) = d :: ds' := by
      rw [hdrop]
      exact if_neg (not_or.mpr ⟨hminus, hplus⟩)
    obtain ⟨hdigits, hbehind⟩ := scan_of_skipSign_eq hds hskip
    have hsign : signOf (d :: ds') = 1 := by
      rw [signOf, hdrop]
      exact if_neg fun heq => hminus (Option.some.inj heq)
    rw [hdigits, hsign, one_mul]
    exact ⟨hdrop, hds.1, hbehind, rfl⟩
  · have hskip : skipSign ((0x2B :: ds).dropWhile isspace) = ds := rfl
    obtain ⟨hdigits, hbehind⟩ := scan_of_skipSign_eq hds hskip
    have hsign : signOf (0x2B :: ds) = 1 := rfl
    rw [hdigits, hsign, one_mul]
    exact ⟨rfl, hds.1, hbehind, rfl⟩
  · have hskip : skipSign ((0x2D :: ds).dropWhile isspace) = ds := rfl
    obtain ⟨hdigits, hbehind⟩ := scan_of_skipSign_eq hds hskip
    have hsign : signOf (0x2D :: ds) = -1 := rfl
    rw [hdigits, hsign, neg_one_mul]
    exact ⟨rfl, hds.1, hbehind, rfl⟩

/-- What is scanned from end to end is a decimal number. -/
theorem isDecimal_of_scan (hdrop : text.dropWhile isspace = text) (hne : digitsOf text ≠ [])
    (hbehind : behindDigits text = []) :
    IsDecimal (signOf text * digitsValue (digitsOf text)) text := by
  have hdigits : skipSign text = digitsOf text := by
    have happend := digitsOf_append_behindDigits text
    rw [hbehind, List.append_nil, hdrop] at happend
    exact happend.symm
  refine ⟨digitsOf text, isDigits_digitsOf hne, ?_⟩
  rw [signOf, hdrop]
  generalize digitsOf text = ds at hdigits hne
  cases text with
  | nil => exact absurd hdigits.symm hne
  | cons chr rest =>
    rw [List.head?_cons]
    -- a minus, a plus, or no sign at all
    by_cases hminus : chr = 0x2D
    · obtain rfl := hminus
      rw [if_pos rfl, neg_one_mul]
      exact .inr ⟨congrArg (List.cons 0x2D) hdigits, rfl⟩
    · rw [if_neg fun heq => hminus (Option.some.inj heq), one_mul]
      by_cases hplus : chr = 0x2B
      · obtain rfl := hplus
        exact .inl ⟨.inr (congrArg (List.cons 0x2B) hdigits), rfl⟩
      · have hskip : skipSign (chr :: rest) = chr :: rest := if_neg (not_or.mpr ⟨hminus, hplus⟩)
        exact .inl ⟨.inl (hskip.symm.trans hdigits), rfl⟩

/-- **The texts of a number.** -/
theorem isDecimal_iff :
    IsDecimal v text ↔ text.dropWhile isspace = text ∧ digitsOf text ≠ [] ∧ behindDigits text = [] ∧
      signOf text * digitsValue (digitsOf text) = v := by
  constructor
  · intro h
    exact h.scan
  · rintro ⟨hdrop, hne, hbehind, rfl⟩
    exact isDecimal_of_scan hdrop hne hbehind

theorem IsDecimal.unique {v' : ℤ} (h : IsDecimal v text) (h' : IsDecimal v' text) : v = v' := by
  obtain ⟨-, -, -, hvalue⟩ := h.scan
  obtain ⟨-, -, -, hvalue'⟩ := h'.scan
  exact hvalue.symm.trans hvalue'

/-- A decimal number is read. -/
theorem IsDecimal.stoi_eq (h : IsDecimal v text) (hv : InInt32Range v) : stoi text = .ok v := by
  obtain ⟨-, hne, -, hvalue⟩ := h.scan
  exact stoi_eq_ok_iff.mpr ⟨hne, hvalue, hv⟩

end Scanning

end OpenKit
