import OpenKit.Json.ParserRuns

/-!
# JSON texts

The parser is to read the JSON texts whose numbers are in range: 64 bits for an integer, and double
precision for another number. It reads the trees none of whose members is refused. So it refuses the texts
with an empty member name, and it reads texts with a larger number if all of these are elements of arrays.

## Main definitions

* `IsJsonText`: the JSON texts whose numbers are in range
* `JsonParser.ReturnsValue`: the strings that are read
* `JsonTree.NamesNonEmpty`, `JsonTree.LargeOnlyInArrays`: where it goes wrong

## Main results

* `JsonParser.returnsValue_iff`: the strings that are read
* `JsonParser.returnsValue_iff_isJsonText_iff`: the strings for which these are the JSON texts
-/

namespace OpenKit

open Thread JsonNumberValue

namespace JsonTree

/-! ## Numbers -/

/-- A value that is no number out of its range: 64 bits for an integer, double precision for another
number. -/
def InRange : JsonTree → Prop
  | .number literal =>
    (IsIntegerLiteral literal → InLongRange (integerValue literal)) ∧
      (¬ IsIntegerLiteral literal → InDoubleRange (decimalValue literal))
  | _ => True

/-- What holds of the values of the members of an object. -/
def OfMembers (P : JsonTree → Prop) : JsonTree → Prop
  | .object ms => ∀ m ∈ ms, P m.2
  | _ => True

/-- All numbers are in range. -/
def NumbersInRange (t : JsonTree) : Prop := t.Everywhere InRange

/-- No member has an empty name. -/
def NamesNonEmpty (t : JsonTree) : Prop :=
  t.Everywhere fun t => match t with
    | .object ms => ∀ m ∈ ms, m.1 ≠ []
    | _ => True

/-- A number out of range is an element of an array. -/
def LargeOnlyInArrays (t : JsonTree) : Prop := t.InRange ∧ t.Everywhere (OfMembers InRange)

/-- A number that is one. -/
def IsNumeric : JsonTree → Prop
  | .number literal => IsNumber literal
  | _ => True

section Numbers

variable {P : JsonTree → Prop} {t : JsonTree}

/-- What holds everywhere holds of the values of members. -/
theorem Everywhere.ofMembers (h : Everywhere P t) : Everywhere (OfMembers P) t := by
  induction h with
  | null => exact .null trivial
  | boolean => exact .boolean trivial
  | string => exact .string trivial
  | number => exact .number trivial
  | array _ _ ih => exact .array trivial ih
  | object _ hmembers ih => exact .object (fun m hm => (hmembers m hm).self) ih

theorem parseLongValue_ne_nullPointer_iff {literal : List UInt8} :
    parseLongValue literal ≠ .nullPointer ↔ InLongRange (integerValue literal) := by
  rw [parseLongValue]
  split
  next hrange => exact ⟨fun _ => hrange, fun _ => nofun⟩
  next hrange => exact ⟨fun hne => absurd rfl hne, fun hin => absurd hin hrange⟩

theorem parseDoubleValue_ne_nullPointer_iff {literal : List UInt8} :
    parseDoubleValue literal ≠ .nullPointer ↔ InDoubleRange (decimalValue literal) := by
  rw [parseDoubleValue]
  split
  next hrange => exact ⟨fun _ => hrange, fun _ => nofun⟩
  next hrange => exact ⟨fun hne => absurd rfl hne, fun hin => absurd hin hrange⟩

theorem fromNumberLiteral_of_isIntegerLiteral {literal : List UInt8} (h : IsIntegerLiteral literal) :
    fromNumberLiteral literal = parseLongValue literal := by
  rw [fromNumberLiteral, JsonLexer.numberPattern_eq_some_iff.mpr h]

theorem fromNumberLiteral_of_not_isIntegerLiteral {literal : List UInt8} (h : IsNumber literal)
    (hinteger : ¬ IsIntegerLiteral literal) : fromNumberLiteral literal = parseDoubleValue literal := by
  obtain ⟨⟨hasFraction, hasExponent⟩, hpattern⟩ :=
    Option.isSome_iff_exists.mp (JsonLexer.isSome_numberPattern_iff.mpr h)
  rw [fromNumberLiteral, hpattern]
  rw [← JsonLexer.numberPattern_eq_some_iff, hpattern] at hinteger
  cases hasFraction <;> cases hasExponent
  · exact absurd rfl hinteger
  all_goals rfl

/-- The null pointer stands for the numbers out of range. -/
theorem fromNumberLiteral_ne_nullPointer_iff {literal : List UInt8} (h : IsNumber literal) :
    fromNumberLiteral literal ≠ .nullPointer ↔
      (IsIntegerLiteral literal → InLongRange (integerValue literal)) ∧
        (¬ IsIntegerLiteral literal → InDoubleRange (decimalValue literal)) := by
  by_cases hinteger : IsIntegerLiteral literal
  · rw [fromNumberLiteral_of_isIntegerLiteral hinteger, parseLongValue_ne_nullPointer_iff]
    exact ⟨fun h => ⟨fun _ => h, fun hnot => absurd hinteger hnot⟩, fun h => h.1 hinteger⟩
  · rw [fromNumberLiteral_of_not_isIntegerLiteral h hinteger, parseDoubleValue_ne_nullPointer_iff]
    exact ⟨fun h => ⟨fun hyes => absurd hyes hinteger, fun _ => h⟩, fun h => h.2 hinteger⟩

theorem toValue_ne_nullPointer_iff (h : t.IsNumeric) : t.toValue ≠ .nullPointer ↔ t.InRange := by
  cases t with
  | number literal => exact fromNumberLiteral_ne_nullPointer_iff h
  | _ => exact ⟨fun _ => trivial, fun _ => nofun⟩

/-- **A tree can be read** if no name is empty and no member's value is a number out of range. -/
theorem readable_iff (h : t.Everywhere IsNumeric) :
    t.Readable ↔ t.NamesNonEmpty ∧ t.Everywhere (OfMembers InRange) := by
  constructor
  · intro hreadable
    refine ⟨hreadable.mono fun t ht => ?_, (hreadable.and h.ofMembers).mono fun t ht => ?_⟩
    · cases t with
      | object ms => exact fun m hm => (ht m hm).1
      | _ => trivial
    · obtain ⟨ht, hnumeric⟩ := ht
      cases t with
      | object ms => exact fun m hm => (toValue_ne_nullPointer_iff (hnumeric m hm)).mp (ht m hm).2
      | _ => trivial
  · rintro ⟨hnames, hvalues⟩
    refine ((hnames.and hvalues).and h.ofMembers).mono fun t ht => ?_
    obtain ⟨⟨hnames, hvalues⟩, hnumeric⟩ := ht
    cases t with
    | object ms =>
      exact fun m hm =>
        ⟨hnames m hm, (toValue_ne_nullPointer_iff (hnumeric m hm)).mpr (hvalues m hm)⟩
    | _ => trivial

/-! ## Numbers that are spelled -/

theorem mem_moreElementTokens {ts : List JsonTree} {token : JsonToken} (h : t ∈ ts)
    (htoken : token ∈ t.tokens) : token ∈ moreElementTokens ts := by
  induction ts with
  | nil => cases h
  | cons t' ts ih =>
    rw [moreElementTokens]
    rcases List.mem_cons.mp h with rfl | h
    · exact List.mem_cons_of_mem _ (List.mem_append_left _ htoken)
    · exact List.mem_cons_of_mem _ (List.mem_append_right _ (ih h))

theorem mem_moreMemberTokens {ms : List (List UInt8 × JsonTree)} {m : List UInt8 × JsonTree}
    {token : JsonToken} (h : m ∈ ms) (htoken : token ∈ m.2.tokens) :
    token ∈ moreMemberTokens ms := by
  induction ms with
  | nil => cases h
  | cons m' ms ih =>
    obtain ⟨key, t'⟩ := m'
    rw [moreMemberTokens]
    refine List.mem_cons_of_mem _ (List.mem_cons_of_mem _ (List.mem_cons_of_mem _ ?_))
    rcases List.mem_cons.mp h with rfl | h
    · exact List.mem_append_left _ htoken
    · exact List.mem_append_right _ (ih h)

/-- If the number tokens are numbers, all numbers of the tree are. -/
theorem everywhere_isNumeric (t : JsonTree) :
    (∀ literal, .number literal ∈ t.tokens → IsNumber literal) → t.Everywhere IsNumeric := by
  induction t using JsonTree.induction with
  | null => exact fun _ => .null trivial
  | boolean value => exact fun _ => .boolean trivial
  | string value => exact fun _ => .string trivial
  | number literal =>
    intro h
    refine .number (h literal ?_)
    rw [tokens]
    exact List.mem_singleton_self _
  | array ts ih =>
    intro h
    refine .array trivial fun t ht => ih t ht fun literal hliteral => h literal ?_
    cases ts with
    | nil => cases ht
    | cons t' ts =>
      rw [tokens_array_cons]
      refine List.mem_cons_of_mem _ (List.mem_append_left _ ?_)
      rcases List.mem_cons.mp ht with rfl | ht
      · exact List.mem_append_left _ hliteral
      · exact List.mem_append_right _ (mem_moreElementTokens ht hliteral)
  | object ms ih =>
    intro h
    refine .object trivial fun m hm => ih m hm fun literal hliteral => h literal ?_
    cases ms with
    | nil => cases hm
    | cons m' ms =>
      obtain ⟨key, t'⟩ := m'
      rw [tokens_object_cons]
      refine List.mem_cons_of_mem _ (List.mem_cons_of_mem _ (List.mem_cons_of_mem _
        (List.mem_append_left _ ?_)))
      rcases List.mem_cons.mp hm with rfl | hm
      · exact List.mem_append_left _ hliteral
      · exact List.mem_append_right _ (mem_moreMemberTokens hm hliteral)

end Numbers

end JsonTree

theorem SpelledAs.isNumber {tokens : List JsonToken} {bytes literal : List UInt8}
    (h : SpelledAs tokens bytes) (hmem : .number literal ∈ tokens) : IsNumber literal := by
  induction h with
  | nil => cases hmem
  | cons _ hspelled _ ih =>
    rcases List.mem_cons.mp hmem with rfl | hmem
    · cases hspelled
      assumption
    · exact ih hmem

/-- **The JSON texts** whose numbers are in range. -/
def IsJsonText (input : List UInt8) : Prop :=
  ∃ t : JsonTree, SpelledAs t.tokens input ∧ t.NumbersInRange

namespace JsonParser

variable {input : List UInt8} {value : JsonValue}

/-- The first call on a string returns a value. -/
def ReturnsValue (input : List UInt8) : Prop :=
  ∃ value, (parse (.new input)).1 = .ok value ∧ value ≠ .nullPointer

/-- The first call, by the run of its loop. -/
theorem parse_new (input : List UInt8) :
    parse (.new input) = match doParse.run (.new input) with
      | (.ok value, p') => (.ok value, { p' with parsedValue := value })
      | (.error (.readingFault (.lexerException e)), p') =>
        (.error (.parserException (.lexicalAnalysis e)),
          { p' with parserStacks := { p'.parserStacks with state := .error } })
      | (.error fault, p') => (.error fault, p') := rfl

theorem parse_new_of_ok {p' : JsonParser} (h : doParse.run (.new input) = (.ok value, p')) :
    parse (.new input) = (.ok value, { p' with parsedValue := value }) := by
  rw [parse_new, h]

/-- A text that can be read is read. -/
theorem parse_new_of_readable {t : JsonTree} (hspelled : SpelledAs t.tokens input)
    (hreadable : t.Readable) : (parse (.new input)).1 = .ok t.toValue := by
  obtain ⟨p', hrun, -⟩ := run_doParse_of_readable hspelled hreadable
  rw [parse_new_of_ok hrun]

/-- The first call returns what the loop returns. -/
theorem exists_run_of_parse_new (h : (parse (.new input)).1 = .ok value) :
    ∃ p', doParse.run (.new input) = (.ok value, p') := by
  rw [parse_new] at h
  rcases hrun : doParse.run (.new input) with ⟨fault | value', p'⟩
  · rw [hrun] at h
    rcases fault with e | fault | _
    · cases h
    · cases fault <;> cases h
    · cases h
  · rw [hrun] at h
    obtain rfl := Except.ok.inj h
    exact ⟨p', rfl⟩

/-- **The strings that are read** spell a tree that can be read. -/
theorem returnsValue_iff :
    ReturnsValue input ↔ ∃ t : JsonTree, SpelledAs t.tokens input ∧ t.NamesNonEmpty ∧
      t.LargeOnlyInArrays := by
  constructor
  · rintro ⟨value, hparse, hvalue⟩
    obtain ⟨p', hrun⟩ := exists_run_of_parse_new hparse
    obtain ⟨-, ⟨t, hspelled, hreadable, rfl⟩, -⟩ := (ends_doParse input).run_ok hrun
    have hnumeric := t.everywhere_isNumeric fun literal => hspelled.isNumber
    obtain ⟨hnames, hmembers⟩ := (JsonTree.readable_iff hnumeric).mp hreadable
    exact ⟨t, hspelled, hnames, (JsonTree.toValue_ne_nullPointer_iff hnumeric.self).mp hvalue, hmembers⟩
  · rintro ⟨t, hspelled, hnames, hself, hmembers⟩
    have hnumeric := t.everywhere_isNumeric fun literal => hspelled.isNumber
    have hreadable := (JsonTree.readable_iff hnumeric).mpr ⟨hnames, hmembers⟩
    exact ⟨t.toValue, parse_new_of_readable hspelled hreadable,
      (JsonTree.toValue_ne_nullPointer_iff hnumeric.self).mpr hself⟩

/-- Where all numbers are in range, none is too large. -/
theorem largeOnlyInArrays_of_numbersInRange {t : JsonTree} (h : t.NumbersInRange) :
    t.LargeOnlyInArrays := ⟨h.self, h.ofMembers⟩

/-- **Where the strings that are read are the JSON texts**: a text whose numbers are in range must have no
empty name, and one whose numbers are not must be refused, by an empty name or by a number out of range
that is no element of an array. -/
theorem returnsValue_iff_isJsonText_iff (input : List UInt8) :
    (ReturnsValue input ↔ IsJsonText input) ↔
      ∀ t : JsonTree, SpelledAs t.tokens input →
        (t.NumbersInRange → t.NamesNonEmpty) ∧
          (¬ t.NumbersInRange → ¬ (t.NamesNonEmpty ∧ t.LargeOnlyInArrays)) := by
  rw [returnsValue_iff]
  constructor
  · intro h t ht
    refine ⟨fun hrange => ?_, fun hrange hread => hrange ?_⟩
    · obtain ⟨t', ht', hnames, -⟩ := h.mpr ⟨t, ht, hrange⟩
      rwa [JsonTree.eq_of_spelledAs ht ht']
    · obtain ⟨t', ht', hrange'⟩ := h.mp ⟨t, ht, hread⟩
      rwa [JsonTree.eq_of_spelledAs ht ht']
  · intro h
    constructor
    · rintro ⟨t, ht, hread⟩
      refine ⟨t, ht, ?_⟩
      by_contra hrange
      exact (h t ht).2 hrange hread
    · rintro ⟨t, ht, hrange⟩
      exact ⟨t, ht, (h t ht).1 hrange, largeOnlyInArrays_of_numbersInRange hrange⟩

/-- The text of an object whose only member has an empty name. -/
def emptyNameText : List UInt8 := [0x7B, 0x22, 0x22, 0x3A, 0x31, 0x7D]

/-- **A text with an empty name** is refused. -/
theorem isJsonText_and_not_returnsValue_emptyNameText :
    IsJsonText emptyNameText ∧ ¬ ReturnsValue emptyNameText := by
  have hone : IsIntegerLiteral [0x31] :=
    ⟨[], [0x31], .inl rfl, .inr ⟨0x31, [], rfl, by decide, by decide, nofun⟩, rfl⟩
  have hnumber : IsNumber [0x31] := ⟨[0x31], [], [], hone, .inl rfl, .inl rfl, rfl⟩
  have hspace : IsWhitespace [] := nofun
  constructor
  · refine ⟨.object [([], .number [0x31])], ?_, ?_⟩
    · have hend : SpelledAs [] [] := .nil hspace
      have hbrace := SpelledAs.cons hspace .rightBrace hend
      have hvalue := SpelledAs.cons hspace (.number hnumber) hbrace
      have hcolon := SpelledAs.cons hspace .colon hvalue
      have hname := SpelledAs.cons hspace (.string []) hcolon
      exact SpelledAs.cons hspace .leftBrace hname
    · refine .object trivial fun m hm => ?_
      obtain rfl := List.mem_singleton.mp hm
      exact .number ⟨fun _ => by decide, fun hnot => absurd hone hnot⟩
  · rintro ⟨value, hparse, -⟩
    have hrefused : (parse (.new emptyNameText)).1 = .error (.parserException
      (.internalParserError .inObjectValue "mLastParsedObjectKey is not set")) := rfl
    rw [hrefused] at hparse
    cases hparse

end JsonParser

end OpenKit
