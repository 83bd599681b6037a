import Mathlib.Data.List.Induction

/-!
# Records whose newest setting wins

A record has a value at every key and says which of its keys it has set. Merging a newer record into
an older one takes over what the newer one has set, and keeps the rest. After a sequence of merges
each key has the value of the last record that set it.

## Main definitions

* `Overrides value isSet merge`: merging takes over what the newer record has set
* `lastSetting isSet k bs`: the last of the records `bs` that has set `k`

## Main results

* `Overrides.value_foldl`, `Overrides.isSet_foldl`: the values and settings after some merges
-/

namespace LastWrite

variable {ρ κ ν : Type}

/-- Merging takes over what the newer record has set. -/
structure Overrides (value : ρ → κ → ν) (isSet : ρ → κ → Bool) (merge : ρ → ρ → ρ) : Prop where
  value_merge : ∀ a b k, value (merge a b) k = if isSet b k then value b k else value a k
  isSet_merge : ∀ a b k, isSet (merge a b) k = (isSet a k || isSet b k)

/-- The last of some records that has set a key. -/
def lastSetting (isSet : ρ → κ → Bool) (k : κ) (bs : List ρ) : Option ρ :=
  (bs.filter fun b => isSet b k).getLast?

section LastSetting

variable {isSet : ρ → κ → Bool} {k : κ} {bs : List ρ} {b : ρ}

@[simp] theorem lastSetting_nil : lastSetting isSet k [] = none := rfl

theorem lastSetting_concat :
    lastSetting isSet k (bs ++ [b]) = if isSet b k then some b else lastSetting isSet k bs := by
  rw [lastSetting, List.filter_append]
  by_cases h : isSet b k = true
  · rw [if_pos h, List.filter_cons_of_pos (p := fun b => isSet b k) h]
    exact List.getLast?_concat
  · rw [if_neg h, List.filter_cons_of_neg (p := fun b => isSet b k) h, List.filter_nil,
      List.append_nil]
    rfl

theorem isSet_of_lastSetting (h : lastSetting isSet k bs = some b) :
    b ∈ bs ∧ isSet b k = true :=
  List.mem_filter.mp (List.mem_of_getLast? h)

/-- Some record has set the key exactly if there is a last one that did. -/
theorem lastSetting_eq_none : lastSetting isSet k bs = none ↔ ∀ b ∈ bs, isSet b k = false := by
  rw [lastSetting, List.getLast?_eq_none_iff, List.filter_eq_nil_iff]
  exact forall₂_congr fun b _ => iff_of_eq (Bool.not_eq_true _)

/-- A record that has set a key is the last one that did if no later one has. -/
theorem lastSetting_append_cons {before after : List ρ} (hset : isSet b k = true)
    (hafter : ∀ b' ∈ after, isSet b' k = false) :
    lastSetting isSet k (before ++ b :: after) = some b := by
  have hnone : after.filter (fun b => isSet b k) = [] :=
    List.filter_eq_nil_iff.mpr fun b' hb' => Bool.eq_false_iff.mp (hafter b' hb')
  rw [lastSetting, List.filter_append, List.filter_cons_of_pos (p := fun b => isSet b k) hset, hnone]
  exact List.getLast?_concat

end LastSetting

namespace Overrides

variable {value : ρ → κ → ν} {isSet : ρ → κ → Bool} {merge : ρ → ρ → ρ}

/-- **The last setting wins**: after some merges a key has the value of the last record that set it,
and that of the first record if none did. -/
theorem value_foldl (h : Overrides value isSet merge) (a : ρ) (bs : List ρ) (k : κ) :
    value (bs.foldl merge a) k = ((lastSetting isSet k bs).map (value · k)).getD (value a k) := by
  induction bs using List.reverseRecOn with
  | nil => rfl
  | append_singleton bs b ih =>
    rw [List.foldl_append, List.foldl_cons, List.foldl_nil, h.value_merge, lastSetting_concat]
    split
    · rfl
    · exact ih

/-- After some merges a key is set exactly if one of the records set it. -/
theorem isSet_foldl (h : Overrides value isSet merge) (a : ρ) (bs : List ρ) (k : κ) :
    isSet (bs.foldl merge a) k = (isSet a k || bs.any (isSet · k)) := by
  induction bs using List.reverseRecOn with
  | nil => exact (Bool.or_false _).symm
  | append_singleton bs b ih =>
    rw [List.foldl_append, List.foldl_cons, List.foldl_nil, h.isSet_merge, ih, List.any_append, Bool.or_assoc]
    simp

end Overrides

end LastWrite
