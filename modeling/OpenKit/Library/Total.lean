import Mathlib.Data.List.AList
import Mathlib.Algebra.BigOperators.Group.List.Basic
import Mathlib.Tactic.Abel

/-!
# Totals over association lists

The total of a measure over the values of an association list, and how it changes when a key is
inserted or erased.

## Main definitions

* `AList.values m`: the values of `m`
* `AList.total f m`: the sum of `f` over the values of `m`

## Main results

* `AList.total_insert`, `AList.total_erase`: one key's share of the total
* `AList.total_update`: the total of a measure that was changed at one value
-/

namespace AList

variable {κ β M : Type}

/-- The values, in the order of the entries. -/
def values (m : AList fun _ : κ => β) : List β := m.entries.map fun e => e.2

/-- The sum of `f` over the values of `m`. -/
def total [AddMonoid M] (f : β → M) (m : AList fun _ : κ => β) : M :=
  (m.entries.map fun e => f e.2).sum

@[simp] theorem total_empty [AddMonoid M] (f : β → M) :
    total f (∅ : AList fun _ : κ => β) = 0 := rfl

section Keys

variable [DecidableEq κ] [AddCommGroup M]

theorem sum_map_kerase (f : β → M) (k : κ) (l : List (Σ _ : κ, β)) :
    ((l.kerase k).map fun e => f e.2).sum =
      (l.map fun e => f e.2).sum - ((l.dlookup k).map f).getD 0 := by
  induction l with
  | nil => simp
  | cons e l ih =>
    obtain ⟨k', v⟩ := e
    by_cases h : k = k'
    · subst h
      simp
    · rw [List.kerase_cons_ne h, List.dlookup_cons_ne _ _ h]
      simp only [List.map_cons, List.sum_cons, ih, add_sub_assoc]

/-- Erasing a key removes its share. -/
theorem total_erase (f : β → M) (k : κ) (m : AList fun _ : κ => β) :
    total f (m.erase k) = total f m - ((m.lookup k).map f).getD 0 :=
  sum_map_kerase f k m.entries

/-- Inserting a key replaces its share. -/
theorem total_insert (f : β → M) (k : κ) (v : β) (m : AList fun _ : κ => β) :
    total f (m.insert k v) = f v + (total f m - ((m.lookup k).map f).getD 0) := by
  rw [← total_erase, total, entries_insert]
  rfl

/-! ## The values -/

theorem mem_values_of_lookup {k : κ} {v : β} {m : AList fun _ : κ => β} (h : m.lookup k = some v) :
    v ∈ m.values :=
  List.mem_map.mpr ⟨⟨k, v⟩, mem_lookup_iff.mp h, rfl⟩

theorem values_erase_sublist (k : κ) (m : AList fun _ : κ => β) :
    (m.erase k).values.Sublist m.values :=
  (List.kerase_sublist k m.entries).map _

theorem values_insert_of_lookup {k : κ} (v : β) {m : AList fun _ : κ => β}
    (h : m.lookup k = none) : (m.insert k v).values = v :: m.values := by
  rw [values, entries_insert_of_notMem (lookup_eq_none.mp h)]
  rfl

/-- Distinct keys have distinct values, if the values are. -/
theorem eq_of_lookup {k k' : κ} {v : β} {m : AList fun _ : κ => β} (hnodup : m.values.Nodup)
    (h : m.lookup k = some v) (h' : m.lookup k' = some v) : k = k' := by
  have hinj := List.inj_on_of_nodup_map hnodup (mem_lookup_iff.mp h) (mem_lookup_iff.mp h') rfl
  exact congrArg Sigma.fst hinj

end Keys

section Update

variable [DecidableEq β] [AddCommGroup M]

theorem sum_map_update (f : β → M) (v : β) (x : M) {l : List β} (h : l.Nodup) :
    (l.map (Function.update f v x)).sum = (l.map f).sum + if v ∈ l then x - f v else 0 := by
  induction l with
  | nil => simp
  | cons w l ih =>
    obtain ⟨hw, hl⟩ := List.nodup_cons.mp h
    rw [List.map_cons, List.sum_cons, List.map_cons, List.sum_cons, ih hl]
    by_cases hv : v = w
    · subst hv
      rw [Function.update_self, if_neg hw, if_pos List.mem_cons_self]
      abel
    · rw [Function.update_of_ne (Ne.symm hv), add_assoc]
      simp only [List.mem_cons, hv, false_or]

/-- Changing a measure at one value changes the total by its share, if the values are distinct. -/
theorem total_update (f : β → M) (v : β) (x : M) {m : AList fun _ : κ => β}
    (h : m.values.Nodup) :
    total (Function.update f v x) m = total f m + if v ∈ m.values then x - f v else 0 := by
  have hsum (g : β → M) : total g m = (m.values.map g).sum := by
    rw [values, List.map_map]
    rfl
  rw [hsum, hsum, sum_map_update f v x h]

end Update

end AList
