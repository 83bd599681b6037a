import OpenKit.Core.Substring
import OpenKit.Protocol.ResponseParser

/-!
# The texts under the keys

A part of a list of pairs is cut at its first equals sign, and it is no pair if nothing stands in front of it
or behind it. So the text under a key is found in the first part that starts with the key and an equals sign,
and has something behind them.

## Main definitions

* `KeyValueResponseParser.textBehind`: the text behind a key in a part
* `KeyValueResponseParser.firstText`: the text under a key

## Main results

* `KeyValueResponseParser.lookup_insertPairs`: what is found under a key
-/

namespace OpenKit

open UTF8String Fallible

namespace KeyValueResponseParser

/-- The text behind a key in a part, unless it is empty. -/
def textBehind (key data : List UInt8) : Option (List UInt8) :=
  if (key ++ [0x3D]).isPrefixOf data ∧ data ≠ key ++ [0x3D] then some (data.drop (key.length + 1)) else none

/-- The text under a key. -/
def firstText (key : List UInt8) (parts : List UTF8String) : Option (List UInt8) :=
  parts.findSome? fun part => textBehind key part.data

/-- A key that may be looked up: ASCII characters other than the equals sign. -/
def IsKey (key : List UInt8) : Prop :=
  key ≠ [] ∧ ∀ b ∈ key, b ≠ 0x3D ∧ getByteWidthOfCharacter b = 1

variable {key text data : List UInt8} {cs before after : List Utf8Character} {b : UInt8}
  {rest item : List UInt8}

theorem textBehind_eq_some_iff :
    textBehind key data = some text ↔ data = key ++ 0x3D :: text ∧ text ≠ [] := by
  have hsplit (text : List UInt8) : key ++ 0x3D :: text = (key ++ [0x3D]) ++ text := by
    rw [List.append_assoc]
    rfl
  have hlength : key.length + 1 = (key ++ [0x3D]).length := by
    rw [List.length_append, List.length_singleton]
  rw [textBehind]
  constructor
  · intro h
    split at h
    next hfront =>
      obtain ⟨rest, rfl⟩ := List.isPrefixOf_iff_prefix.mp hfront.1
      rw [hlength, List.drop_left] at h
      obtain rfl := Option.some.inj h
      refine ⟨(hsplit _).symm, ?_⟩
      rintro rfl
      exact hfront.2 (List.append_nil _)
    next => cases h
  · rintro ⟨rfl, htext⟩
    have hfront : (key ++ [0x3D]).isPrefixOf ((key ++ [0x3D]) ++ text) = true :=
      List.isPrefixOf_iff_prefix.mpr (List.prefix_append _ _)
    rw [hsplit text, if_pos ⟨hfront, fun heq => htext (List.append_cancel_left
      (heq.trans (List.append_nil _).symm))⟩, hlength, List.drop_left]

/-- A string is split at the first of its bytes in one way. -/
theorem eq_of_append_cons_eq {front front' back back' : List UInt8} (h : b ∉ front) (h' : b ∉ front')
    (heq : front ++ b :: back = front' ++ b :: back') : front = front' ∧ back = back' := by
  induction front generalizing front' with
  | nil =>
    cases front' with
    | nil => exact ⟨rfl, (List.cons.inj heq).2⟩
    | cons a front' =>
      obtain ⟨rfl, -⟩ := List.cons.inj heq
      exact absurd List.mem_cons_self h'
  | cons a front ih =>
    cases front' with
    | nil =>
      obtain ⟨rfl, -⟩ := List.cons.inj heq
      exact absurd List.mem_cons_self h
    | cons a' front' =>
      obtain ⟨rfl, htail⟩ := List.cons.inj heq
      obtain ⟨rfl, rfl⟩ := ih (List.not_mem_of_not_mem_cons h) (List.not_mem_of_not_mem_cons h') htail
      exact ⟨rfl, rfl⟩

/-! ## A part -/

/-- **A part with an equals sign** is cut there. -/
theorem keyValuePair_ofCharacters (hbefore : equalsSign ∉ before) :
    keyValuePair (ofCharacters (before ++ equalsSign :: after)) =
      .ok (if before = [] ∨ after = [] then none else some (bytesOf before, bytesOf after)) := by
  have hlength : (before ++ equalsSign :: after).length = before.length + 1 + after.length := by
    rw [List.length_append, List.length_cons]
    omega
  have hbytes := length_le_length_bytesOf (before ++ equalsSign :: after)
  have hfound : (ofCharacters (before ++ equalsSign :: after)).getIndexOf equalsSign.bytes 0 =
      .ok (some before.length) := getIndexOf_of_mem hbefore
  have hwalk := standsStill_bytesOf (before ++ equalsSign :: after)
    (bytesOf (before ++ equalsSign :: after)).length
  have hkey : (ofCharacters (before ++ equalsSign :: after)).substring 0 before.length =
      ofCharacters before := by
    rw [substring_of_lt (by omega), slice, List.drop_zero, List.take_left]
  rw [keyValuePair_of_found hfound, substringFrom, data_ofCharacters, hwalk, if_neg Bool.false_ne_true, hkey]
  have hempty (cs : List Utf8Character) : (ofCharacters cs).isEmpty = decide (cs = []) := by
    cases cs <;> rfl
  by_cases hafter : after = []
  · -- nothing is behind the equals sign, so that the cut counts no character
    subst hafter
    rw [List.length_nil] at hlength
    have hvalue : (ofCharacters (before ++ [equalsSign])).substring (before.length + 1)
        (bytesOf (before ++ [equalsSign])).length = ⟨bytesOf (before ++ [equalsSign]), 0⟩ :=
      substring_of_length_le (by omega) (by omega) (by omega) (by simp)
    rw [hvalue, if_pos (.inr rfl)]
    simp [bind, Except.bind, Except.mapError, pure, Except.pure, isEmpty]
  · have hvalue : (ofCharacters (before ++ equalsSign :: after)).substring (before.length + 1)
        (bytesOf (before ++ equalsSign :: after)).length = ofCharacters after := by
      have hpos := List.length_pos_iff.mpr hafter
      have hdrop : (before ++ equalsSign :: after).drop (before.length + 1) = after := by
        rw [← List.drop_drop, List.drop_left]
        rfl
      rw [substring_of_lt (by omega), slice, hdrop, List.take_of_length_le (by omega)]
    rw [hvalue]
    simp only [bind, Except.bind, Except.mapError, pure, Except.pure, hempty, hafter, or_false,
      decide_false, Bool.or_false, decide_eq_true_eq]
    rfl

/-- **A part** is a pair with a key if the key, an equals sign and something else stand there. -/
theorem eq_some_iff_textBehind {part : UTF8String} {pair : Option (List UInt8 × List UInt8)}
    (hkey : IsKey key) (hpart : ∃ cs, part = ofCharacters cs) (h : keyValuePair part = .ok pair) :
    pair = some (key, text) ↔ textBehind key part.data = some text := by
  obtain ⟨hne, hascii⟩ := hkey
  have hsign : (0x3D : UInt8) ∉ key := fun hmem => (hascii _ hmem).1 rfl
  rw [textBehind_eq_some_iff]
  obtain ⟨cs, rfl⟩ := hpart
  by_cases hmem : equalsSign ∈ cs
  · obtain ⟨before, after, rfl, hbefore⟩ := List.eq_append_cons_of_mem hmem
    have hsign' : (0x3D : UInt8) ∉ bytesOf before := fun hb => hbefore ((mem_bytesOf_ascii _ _).mp hb)
    have hdata : (ofCharacters (before ++ equalsSign :: after)).data =
        bytesOf before ++ 0x3D :: bytesOf after := by
      rw [data_ofCharacters, bytesOf_append]
      rfl
    rw [keyValuePair_ofCharacters hbefore] at h
    obtain rfl := Except.ok.inj h
    rw [hdata]
    constructor
    · intro hpair
      split at hpair
      next => cases hpair
      next hparts =>
        obtain ⟨rfl, rfl⟩ := Prod.mk.inj (Option.some.inj hpair)
        exact ⟨rfl, fun hnil => hparts (.inr (bytesOf_eq_nil_iff.mp hnil))⟩
    · rintro ⟨heq, htext⟩
      obtain ⟨hfront, hback⟩ := eq_of_append_cons_eq hsign' hsign heq
      rw [if_neg ?_, hfront, hback]
      rintro (rfl | rfl)
      · exact hne hfront.symm
      · exact htext hback.symm
  · have hnone : pair = none := by
      rw [keyValuePair_of_notMem hmem] at h
      split at h
      next => exact (Except.ok.inj h).symm
      next => cases h
    rw [hnone]
    refine iff_of_false nofun fun hdata => hmem ?_
    refine (mem_bytesOf_ascii (by decide) (by decide)).mp ?_
    have hbytes : bytesOf cs = key ++ 0x3D :: text := hdata.1
    rw [hbytes]
    exact List.mem_append_right _ List.mem_cons_self

/-! ## All parts -/

/-- A pair is added unless its key is there. -/
theorem lookup_insertPair (keyValuePairs : List (List UInt8 × List UInt8)) (key key' value : List UInt8) :
    (if (keyValuePairs.lookup key').isSome then keyValuePairs
      else keyValuePairs ++ [(key', value)]).lookup key =
      (keyValuePairs.lookup key).or (if key = key' then some value else none) := by
  by_cases hkey : key = key'
  · subst hkey
    rw [if_pos rfl]
    split
    next hsome =>
      obtain ⟨v, hv⟩ := Option.isSome_iff_exists.mp hsome
      rw [hv, Option.some_or]
    next => rw [List.lookup_append, List.lookup_cons_self]
  · have hother : [(key', value)].lookup key = none := by
      rw [List.lookup_cons, beq_false_of_ne hkey, List.lookup_nil]
    rw [if_neg hkey, Option.or_none]
    split
    next => rfl
    next => rw [List.lookup_append, hother, Option.or_none]

/-- **What is found under a key** is the text behind it in the first part that has one. -/
theorem lookup_insertPairs {parts : List UTF8String}
    {keyValuePairs result : List (List UInt8 × List UInt8)} (hkey : IsKey key)
    (hparts : ∀ part ∈ parts, ∃ cs, part = ofCharacters cs)
    (h : insertPairs parts keyValuePairs = .ok result) :
    result.lookup key = (keyValuePairs.lookup key).or (firstText key parts) := by
  induction parts generalizing keyValuePairs with
  | nil =>
    obtain rfl := Except.ok.inj h
    exact (Option.or_none).symm
  | cons part parts ih =>
    obtain ⟨hpart, hparts⟩ := List.forall_mem_cons.mp hparts
    rw [insertPairs] at h
    rw [firstText, List.findSome?_cons]
    cases hpair : keyValuePair part with
    | error fault =>
      rw [hpair] at h
      cases h
    | ok pair =>
      have htext (text : List UInt8) : pair = some (key, text) ↔
          textBehind key part.data = some text := eq_some_iff_textBehind hkey hpart hpair
      rw [hpair] at h
      cases pair with
      | none =>
        have hnone : textBehind key part.data = none :=
          Option.eq_none_iff_forall_ne_some.mpr fun text heq =>
            Option.some_ne_none _ ((htext text).mpr heq).symm
        rw [hnone]
        exact ih hparts h
      | some pair =>
        obtain ⟨key', value⟩ := pair
        have hsome : textBehind key part.data =
            if key = key' then some value else none := by
          refine Option.ext fun text => ?_
          rw [← htext text, Option.some.injEq, Prod.mk.injEq]
          split
          next hsame => rw [Option.some.injEq, and_iff_right hsame.symm]
          next hother => exact iff_of_false (fun h => hother h.1.symm) (by simp)
        rw [ih hparts h, lookup_insertPair, hsome, Option.or_assoc]
        congr 1
        split <;> rfl

end KeyValueResponseParser

end OpenKit
