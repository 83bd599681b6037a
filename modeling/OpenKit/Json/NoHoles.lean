import OpenKit.Json.JsonTexts
import OpenKit.Json.ObjectMembers

/-!
# Trees without holes

A number that is out of range becomes the null pointer. Where it would be the value of a member the parser
refuses it, but it takes it as the whole value and as an element of an array. Only where a member with
such an array in it is replaced by a later one of the same name, the null pointer is gone.

## Main definitions

* `JsonValue.NoHoles`: the values without a null pointer
* `JsonTree.KeptInRange`: the numbers that are kept are in range

## Main results

* `JsonTree.noHoles_toValue_iff`: the trees whose values have no null pointer
* `JsonParser.parsesWithoutHoles_iff`: the strings whose value has none
-/

namespace OpenKit

open Thread JsonNumberValue

/-- A value without a null pointer: it is none, and none is in it. -/
inductive JsonValue.NoHoles : JsonValue → Prop
  | null : NoHoles .null
  | boolean (value : Bool) : NoHoles (.boolean value)
  | string (value : List UInt8) : NoHoles (.string value)
  | long (value : ℤ) : NoHoles (.long value)
  | double (literal : List UInt8) : NoHoles (.double literal)
  | array {values : List JsonValue} (h : ∀ value ∈ values, NoHoles value) : NoHoles (.array values)
  | object {map : List (List UInt8 × JsonValue)} (h : ∀ m ∈ map, NoHoles m.2) : NoHoles (.object map)

namespace JsonTree

/-- The numbers are in range, but for those in a member that a later one of the same name replaces. -/
inductive KeptInRange : JsonTree → Prop
  | null : KeptInRange .null
  | boolean (value : Bool) : KeptInRange (.boolean value)
  | string (value : List UInt8) : KeptInRange (.string value)
  | number {literal : List UInt8} (h : (number literal).InRange) : KeptInRange (.number literal)
  | array {ts : List JsonTree} (h : ∀ t ∈ ts, KeptInRange t) : KeptInRange (.array ts)
  | object {ms : List (List UInt8 × JsonTree)}
      (h : ∀ key t, lastNamed key ms = some t → KeptInRange t) : KeptInRange (.object ms)

theorem elementValues_eq_map (ts : List JsonTree) : elementValues ts = ts.map toValue := by
  induction ts with
  | nil => rfl
  | cons t ts ih => exact congrArg (t.toValue :: ·) ih

/-- A number is no hole if it could be converted. -/
theorem noHoles_fromNumberLiteral_iff {literal : List UInt8} (h : IsNumber literal) :
    (fromNumberLiteral literal).NoHoles ↔ (number literal).InRange := by
  refine Iff.trans ⟨?_, ?_⟩ (fromNumberLiteral_ne_nullPointer_iff h)
  · intro hno heq
    rw [heq] at hno
    cases hno
  · intro hne
    by_cases hinteger : IsIntegerLiteral literal
    · rw [fromNumberLiteral_of_isIntegerLiteral hinteger, parseLongValue_ne_nullPointer_iff] at hne
      rw [fromNumberLiteral_of_isIntegerLiteral hinteger, parseLongValue, if_pos hne]
      exact .long _
    · rw [fromNumberLiteral_of_not_isIntegerLiteral h hinteger,
        parseDoubleValue_ne_nullPointer_iff] at hne
      rw [fromNumberLiteral_of_not_isIntegerLiteral h hinteger, parseDoubleValue, if_pos hne]
      exact .double _

/-- **The trees whose values have no null pointer** are those whose numbers are in range, as far as they
are kept. -/
theorem noHoles_toValue_iff (t : JsonTree) :
    t.Everywhere IsNumeric → (t.toValue.NoHoles ↔ t.KeptInRange) := by
  induction t using JsonTree.induction with
  | null => exact fun _ => ⟨fun _ => .null, fun _ => .null⟩
  | boolean value => exact fun _ => ⟨fun _ => .boolean value, fun _ => .boolean value⟩
  | string value => exact fun _ => ⟨fun _ => .string value, fun _ => .string value⟩
  | number literal =>
    intro h
    have hnumber := noHoles_fromNumberLiteral_iff h.self
    rw [toValue]
    constructor
    · intro hno
      exact .number (hnumber.mp hno)
    · intro hkept
      cases hkept with
      | number hrange => exact hnumber.mpr hrange
  | array ts ih =>
    intro h
    cases h with
    | array _ helements =>
      rw [toValue, elementValues_eq_map]
      constructor
      · intro hno
        cases hno with
        | array hvalues =>
          refine .array fun t ht => (ih t ht (helements t ht)).mp ?_
          exact hvalues _ (List.mem_map_of_mem ht)
      · intro hkept
        cases hkept with
        | array hts =>
          refine .array fun value hvalue => ?_
          obtain ⟨t, ht, rfl⟩ := List.mem_map.mp hvalue
          exact (ih t ht (helements t ht)).mpr (hts t ht)
  | object ms ih =>
    intro h
    cases h with
    | object _ hmembers =>
      have hlast (key : List UInt8) (t : JsonTree) (ht : lastNamed key ms = some t) :
          t.toValue.NoHoles ↔ t.KeptInRange :=
        ih _ (mem_of_lastNamed_eq_some ht) (hmembers _ (mem_of_lastNamed_eq_some ht))
      rw [toValue]
      constructor
      · intro hno
        cases hno with
        | object hmap =>
          have hvalues := forall_mem_memberValues_iff.mp hmap
          exact .object fun key t ht => (hlast key t ht).mp (hvalues key t ht)
      · intro hkept
        cases hkept with
        | object hms =>
          refine .object (forall_mem_memberValues_iff.mpr fun key t ht => ?_)
          exact (hlast key t ht).mpr (hms key t ht)

end JsonTree

namespace JsonParser

/-- What a string is parsed to has no null pointer in it. -/
def ParsesWithoutHoles (input : List UInt8) : Prop :=
  ∀ value, (parse (.new input)).1 = .ok value → value.NoHoles

/-- **The strings whose value has no null pointer**: where the parser reads the text, the numbers in it
that are kept are in range. -/
theorem parsesWithoutHoles_iff (input : List UInt8) :
    ParsesWithoutHoles input ↔ ∀ t : JsonTree, SpelledAs t.tokens input → t.NamesNonEmpty →
      t.Everywhere (JsonTree.OfMembers JsonTree.InRange) → t.KeptInRange := by
  constructor
  · intro hparses t hspelled hnames hmembers
    have hnumeric := t.everywhere_isNumeric fun literal => hspelled.isNumber
    have hreadable := (JsonTree.readable_iff hnumeric).mpr ⟨hnames, hmembers⟩
    exact (t.noHoles_toValue_iff hnumeric).mp (hparses _ (parse_new_of_readable hspelled hreadable))
  · intro hkept value hparse
    obtain ⟨p', hrun⟩ := exists_run_of_parse_new hparse
    obtain ⟨-, ⟨t, hspelled, hreadable, rfl⟩, -⟩ := (ends_doParse input).run_ok hrun
    have hnumeric := t.everywhere_isNumeric fun literal => hspelled.isNumber
    obtain ⟨hnames, hmembers⟩ := (JsonTree.readable_iff hnumeric).mp hreadable
    exact (t.noHoles_toValue_iff hnumeric).mpr (hkept t hspelled hnames hmembers)

/-- The text of an array whose only element is `2 ^ 63`. -/
def largeElementText : List UInt8 :=
  [0x5B, 0x39, 0x32, 0x32, 0x33, 0x33, 0x37, 0x32, 0x30, 0x33, 0x36, 0x38, 0x35, 0x34, 0x37, 0x37, 0x35,
    0x38, 0x30, 0x38, 0x5D]

/-- **A number out of range** in an array becomes a null pointer. -/
theorem not_parsesWithoutHoles_largeElementText : ¬ ParsesWithoutHoles largeElementText := by
  intro hparses
  have hvalue : (parse (.new largeElementText)).1 = .ok (.array [.nullPointer]) := rfl
  cases hparses _ hvalue with
  | array h => cases h .nullPointer (List.mem_singleton_self _)

end JsonParser

end OpenKit
