import Mathlib.Data.List.Pairwise
import Mathlib.Logic.Function.Basic

/-!
# Unordered maps

An unordered map finds the entry of a key by a hash and an equality that it is given. The hash nominates the
entries, and the equality decides. If both are those of a view of the keys, the map is a map of what the keys
look like: two keys are the same entry if they have the same view.

## Main definitions

* `UnorderedMap f ν`: the entries of a map, no two of them for the same key
* `UnorderedMap.KeyFunctions.Views`: the hash and the equality are those of a view
* `UnorderedMap.valueAt`: the value at a view

## Main results

* `UnorderedMap.find_eq`: what is found is the value at the view of the key
* `UnorderedMap.valueAt_erase`, `valueAt_insert`, `valueAt_assign` and so on: the values after a change
-/

namespace UnorderedMap

variable {κ η ν α : Type}

/-- A hash and an equality of keys. -/
structure KeyFunctions (κ η : Type) where
  hash : κ → η
  equal : κ → κ → Bool

/-- The hash nominates, and the equality decides. -/
def KeyFunctions.same [DecidableEq η] (f : KeyFunctions κ η) (k k' : κ) : Bool :=
  f.hash k == f.hash k' && f.equal k k'

/-- Keys are equal if they have the same view, and then they have the same hash. -/
structure KeyFunctions.Views (f : KeyFunctions κ η) (view : κ → α) : Prop where
  equal_iff : ∀ k k', f.equal k k' = true ↔ view k = view k'
  hash_eq : ∀ k k', view k = view k' → f.hash k = f.hash k'

theorem KeyFunctions.Views.same_iff [DecidableEq η] {f : KeyFunctions κ η} {view : κ → α}
    (h : f.Views view) (k k' : κ) : f.same k k' = true ↔ view k = view k' := by
  rw [KeyFunctions.same, Bool.and_eq_true, beq_iff_eq, h.equal_iff, and_iff_right_iff_imp]
  exact h.hash_eq k k'

end UnorderedMap

open UnorderedMap in
/-- The entries of a map. The order is not specified; no entry is found under the key of a later one. -/
structure UnorderedMap {κ η : Type} [DecidableEq η] (f : KeyFunctions κ η) (ν : Type) where
  entries : List (κ × ν)
  distinct : entries.Pairwise fun e e' => f.same e'.1 e.1 = false

namespace UnorderedMap

variable {κ η ν α : Type} [DecidableEq η] {f : KeyFunctions κ η}

/-- The map without entries. -/
def empty : UnorderedMap f ν := ⟨[], List.Pairwise.nil⟩

/-- The entry of a key. -/
def find (m : UnorderedMap f ν) (k : κ) : Option (κ × ν) := m.entries.find? fun e => f.same k e.1

/-- Removes the entry of a key. -/
def erase (m : UnorderedMap f ν) (k : κ) : UnorderedMap f ν where
  entries := m.entries.eraseP fun e => f.same k e.1
  distinct := m.distinct.sublist List.eraseP_sublist

theorem pairwise_concat (m : UnorderedMap f ν) {e : κ × ν} (h : m.find e.1 = none) :
    (m.entries ++ [e]).Pairwise fun e e' => f.same e'.1 e.1 = false := by
  refine List.pairwise_append.mpr ⟨m.distinct, List.pairwise_singleton _ _, ?_⟩
  intro e' he' e'' he''
  rw [List.mem_singleton.mp he'']
  exact Bool.not_eq_true _ ▸ List.find?_eq_none.mp h e' he'

/-- Adds an entry, unless there is one of its key. -/
def insert (m : UnorderedMap f ν) (e : κ × ν) : UnorderedMap f ν :=
  if h : m.find e.1 = none then ⟨m.entries ++ [e], m.pairwise_concat h⟩ else m

/-- The first of some entries that a key finds gets another value. -/
def updateEntries (k : κ) (g : ν → ν) : List (κ × ν) → List (κ × ν)
  | [] => []
  | e :: entries =>
    if f.same k e.1 then (e.1, g e.2) :: entries else e :: updateEntries k g entries

theorem map_fst_updateEntries (k : κ) (g : ν → ν) (entries : List (κ × ν)) :
    (updateEntries (f := f) k g entries).map Prod.fst = entries.map Prod.fst := by
  induction entries with
  | nil => rfl
  | cons e entries ih =>
    rw [updateEntries]
    split
    · rfl
    · rw [List.map_cons, List.map_cons, ih]

/-- The entry of a key gets another value. -/
def update (m : UnorderedMap f ν) (k : κ) (g : ν → ν) : UnorderedMap f ν where
  entries := updateEntries (f := f) k g m.entries
  distinct := by
    have hkeys := m.distinct
    rw [← List.pairwise_map (f := Prod.fst) (R := fun k k' => f.same k' k = false)] at hkeys ⊢
    rwa [map_fst_updateEntries]

/-- The entry of a key gets a value, or is added with it. -/
def assign (m : UnorderedMap f ν) (k : κ) (v : ν) : UnorderedMap f ν :=
  if (m.find k).isSome then m.update k fun _ => v else m.insert (k, v)

/-- The entries of some keys only. -/
def filter (m : UnorderedMap f ν) (keep : κ → Bool) : UnorderedMap f ν where
  entries := m.entries.filter fun e => keep e.1
  distinct := m.distinct.sublist List.filter_sublist

/-- Adds some entries one after the other. -/
def insertAll (m : UnorderedMap f ν) (entries : List (κ × ν)) : UnorderedMap f ν :=
  entries.foldl insert m

/-! ## The value at a view -/

section Views

variable [DecidableEq α] {view : κ → α} {m : UnorderedMap f ν} {entries : List (κ × ν)}

/-- The value of the first entry whose key has a view. -/
def valueIn (view : κ → α) (a : α) : List (κ × ν) → Option ν
  | [] => none
  | e :: entries => if view e.1 = a then some e.2 else valueIn view a entries

/-- The value of the entry whose key has a view. -/
def valueAt (view : κ → α) (m : UnorderedMap f ν) (a : α) : Option ν := valueIn view a m.entries

@[simp] theorem valueAt_empty (view : κ → α) (a : α) :
    (empty : UnorderedMap f ν).valueAt view a = none := rfl

theorem valueIn_append (view : κ → α) (a : α) (entries entries' : List (κ × ν)) :
    valueIn view a (entries ++ entries') =
      (valueIn view a entries).or (valueIn view a entries') := by
  induction entries with
  | nil => rfl
  | cons e entries ih =>
    rw [List.cons_append, valueIn, valueIn, ih]
    split
    · rfl
    · rfl

theorem valueIn_eq_none_iff {a : α} : valueIn view a entries = none ↔ ∀ e ∈ entries, view e.1 ≠ a := by
  induction entries with
  | nil => exact iff_of_true rfl (List.forall_mem_nil _)
  | cons e entries ih =>
    rw [valueIn, List.forall_mem_cons, ← ih]
    by_cases hview : view e.1 = a
    · rw [if_pos hview]
      exact iff_of_false (Option.some_ne_none _) fun h => h.1 hview
    · rw [if_neg hview]
      exact (and_iff_right hview).symm

variable (h : f.Views view)

include h

omit [DecidableEq α] in
theorem same_eq_false_iff (k k' : κ) : f.same k k' = false ↔ view k' ≠ view k := by
  rw [← Bool.not_eq_true, h.same_iff, ne_comm]

/-- **What is found** is the value at the view of the key. -/
theorem find_eq (m : UnorderedMap f ν) (k : κ) :
    (m.find k).map Prod.snd = m.valueAt view (view k) := by
  rw [find, valueAt]
  induction m.entries with
  | nil => rfl
  | cons e entries ih =>
    rw [List.find?_cons, valueIn]
    by_cases hsame : f.same k e.1 = true
    · rw [hsame, if_pos ((h.same_iff _ _).mp hsame).symm]
      rfl
    · rw [Bool.not_eq_true] at hsame
      rw [hsame, if_neg ((same_eq_false_iff h _ _).mp hsame)]
      exact ih

theorem find_eq_none_iff (k : κ) : m.find k = none ↔ m.valueAt view (view k) = none := by
  rw [← find_eq h, Option.map_eq_none_iff]

/-- **After an erasure** there is nothing at the view. -/
theorem valueAt_erase (m : UnorderedMap f ν) (k : κ) :
    (m.erase k).valueAt view = Function.update (m.valueAt view) (view k) none := by
  funext a
  rw [Function.update_apply]
  unfold valueAt erase
  dsimp only
  have hdistinct := m.distinct
  generalize m.entries = es at hdistinct ⊢
  induction es with
  | nil => exact (ite_self none).symm
  | cons e entries ih =>
    obtain ⟨hhead, htail⟩ := List.pairwise_cons.mp hdistinct
    by_cases hsame : f.same k e.1 = true
    · -- no later entry has the view of the one that is erased
      have hview : view k = view e.1 := (h.same_iff _ _).mp hsame
      have hnone : valueIn view (view k) entries = none := valueIn_eq_none_iff.mpr fun e' he' heq =>
        (same_eq_false_iff h _ _).mp (hhead e' he') (hview.symm.trans heq.symm)
      rw [List.eraseP_cons_of_pos (p := fun e : κ × ν => f.same k e.1) hsame, valueIn, ← hview]
      by_cases ha : a = view k
      · rw [if_pos ha, ha, hnone]
      · rw [if_neg ha, if_neg (Ne.symm ha)]
    · have hview := (same_eq_false_iff h _ _).mp (Bool.not_eq_true _ ▸ hsame)
      rw [List.eraseP_cons_of_neg (p := fun e : κ × ν => f.same k e.1) hsame, valueIn, valueIn, ih htail]
      by_cases ha : view e.1 = a
      · rw [if_pos ha, if_neg (ha ▸ hview), if_pos ha]
      · rw [if_neg ha, if_neg ha]

/-- **After an insertion** the value is there, unless there was one before. -/
theorem valueAt_insert (m : UnorderedMap f ν) (e : κ × ν) (a : α) :
    (m.insert e).valueAt view a = (m.valueAt view a).or (if view e.1 = a then some e.2 else none) := by
  rw [insert]
  by_cases hnone : m.find e.1 = none
  · rw [dif_pos hnone]
    exact valueIn_append view a m.entries [e]
  · rw [dif_neg hnone]
    by_cases ha : view e.1 = a
    · obtain ⟨v, hv⟩ := Option.ne_none_iff_exists'.mp (mt (find_eq_none_iff h _).mpr hnone)
      rw [← ha, hv]
      rfl
    · rw [if_neg ha, Option.or_none]

theorem valueAt_insertAll (m : UnorderedMap f ν) (entries : List (κ × ν)) (a : α) :
    (m.insertAll entries).valueAt view a = (m.valueAt view a).or (valueIn view a entries) := by
  induction entries generalizing m with
  | nil => exact Option.or_none.symm
  | cons e entries ih =>
    have hstep : (m.insertAll (e :: entries)).valueAt view a =
        ((m.insert e).valueAt view a).or (valueIn view a entries) := ih (m.insert e)
    rw [hstep, valueAt_insert h, Option.or_assoc, valueIn]
    split
    · rfl
    · rfl

omit h in
/-- **What is kept** is at the views of the keys that are. -/
theorem valueAt_filter (m : UnorderedMap f ν) {keep : κ → Bool} (k : κ)
    (hkeep : ∀ k', view k' = view k → keep k' = keep k) :
    (m.filter keep).valueAt view (view k) = if keep k then m.valueAt view (view k) else none := by
  unfold valueAt filter
  dsimp only
  induction m.entries with
  | nil => exact (ite_self none).symm
  | cons e entries ih =>
    by_cases hview : view e.1 = view k
    · rw [List.filter_cons, hkeep _ hview]
      by_cases hk : keep k = true
      · rw [if_pos hk, if_pos hk, valueIn, valueIn, if_pos hview, if_pos hview]
      · rw [if_neg hk, if_neg hk, ih, if_neg hk]
    · rw [List.filter_cons, valueIn, if_neg hview, ← ih]
      split
      · rw [valueIn, if_neg hview]
      · rfl

/-- **After an update** the value at the view is the other one. -/
theorem valueAt_update (m : UnorderedMap f ν) (k : κ) (g : ν → ν) :
    (m.update k g).valueAt view =
      Function.update (m.valueAt view) (view k) ((m.valueAt view (view k)).map g) := by
  funext a
  rw [Function.update_apply]
  unfold valueAt update
  dsimp only
  induction m.entries with
  | nil => exact (ite_self none).symm
  | cons e entries ih =>
    rw [updateEntries, valueIn, valueIn]
    by_cases hsame : f.same k e.1 = true
    · have hview : view k = view e.1 := (h.same_iff _ _).mp hsame
      rw [if_pos hsame, valueIn, ← hview, if_pos rfl]
      by_cases ha : a = view k
      · rw [if_pos ha, if_pos ha.symm]
        rfl
      · rw [if_neg ha, if_neg (Ne.symm ha), if_neg (Ne.symm ha)]
    · have hview := (same_eq_false_iff h _ _).mp (Bool.not_eq_true _ ▸ hsame)
      rw [if_neg hsame, valueIn, ih, if_neg hview]
      by_cases ha : view e.1 = a
      · rw [if_pos ha, if_neg (ha ▸ hview), if_pos ha]
      · rw [if_neg ha, if_neg ha]

/-- **After an assignment** the value is there. -/
theorem valueAt_assign (m : UnorderedMap f ν) (k : κ) (v : ν) (a : α) :
    (m.assign k v).valueAt view a = if view k = a then some v else m.valueAt view a := by
  have hfound := find_eq h m k
  rw [assign]
  cases hentry : m.find k with
  | none =>
    rw [hentry] at hfound
    rw [Option.isSome_none, if_neg Bool.false_ne_true, valueAt_insert h]
    by_cases ha : view k = a
    · rw [if_pos ha, if_pos ha, ← ha, ← hfound]
      rfl
    · rw [if_neg ha, if_neg ha, Option.or_none]
  | some e =>
    rw [hentry] at hfound
    rw [Option.isSome_some, if_pos rfl, valueAt_update h, ← hfound, Function.update_apply]
    by_cases ha : view k = a
    · rw [if_pos ha, if_pos ha.symm]
      rfl
    · rw [if_neg ha, if_neg (Ne.symm ha)]

/-- An entry has the value at the view of its key. -/
theorem valueAt_of_mem {e : κ × ν} (he : e ∈ m.entries) : m.valueAt view (view e.1) = some e.2 := by
  rw [valueAt]
  have hdistinct := m.distinct
  generalize m.entries = es at he hdistinct
  induction es with
  | nil => exact absurd he List.not_mem_nil
  | cons e' entries ih =>
    obtain ⟨hhead, htail⟩ := List.pairwise_cons.mp hdistinct
    rw [valueIn]
    rcases List.mem_cons.mp he with rfl | he
    · rw [if_pos rfl]
    · rw [if_neg ((same_eq_false_iff h _ _).mp (hhead e he)), ih he htail]

omit [DecidableEq α] in
/-- **After an erasure** the entries of the other views are left. -/
theorem mem_erase_iff {k : κ} {e : κ × ν} :
    e ∈ (m.erase k).entries ↔ e ∈ m.entries ∧ view e.1 ≠ view k := by
  unfold erase
  dsimp only
  have hdistinct := m.distinct
  generalize m.entries = es at hdistinct ⊢
  induction es with
  | nil => exact iff_of_false List.not_mem_nil fun he => List.not_mem_nil he.1
  | cons e' entries ih =>
    obtain ⟨hhead, htail⟩ := List.pairwise_cons.mp hdistinct
    by_cases hsame : f.same k e'.1 = true
    · have hview : view k = view e'.1 := (h.same_iff _ _).mp hsame
      rw [List.eraseP_cons_of_pos (p := fun e : κ × ν => f.same k e.1) hsame, List.mem_cons]
      constructor
      · intro he
        exact ⟨.inr he, fun heq => (same_eq_false_iff h _ _).mp (hhead e he) (heq.trans hview).symm⟩
      · rintro ⟨rfl | he, hne⟩
        · exact absurd hview.symm hne
        · exact he
    · have hview := (same_eq_false_iff h _ _).mp (Bool.not_eq_true _ ▸ hsame)
      rw [List.eraseP_cons_of_neg (p := fun e : κ × ν => f.same k e.1) hsame, List.mem_cons,
        List.mem_cons, or_and_right]
      refine or_congr (Iff.symm (and_iff_left_of_imp ?_)) (ih htail)
      rintro rfl
      exact hview

/-- **After a replacement** there is the entry, and those of the other views. -/
theorem mem_insert_erase_iff {e e' : κ × ν} :
    e' ∈ ((m.erase e.1).insert e).entries ↔ e' = e ∨ e' ∈ m.entries ∧ view e'.1 ≠ view e.1 := by
  have hnone : (m.erase e.1).find e.1 = none := by
    rw [find_eq_none_iff h, valueAt_erase h, Function.update_self]
  have hinsert : ((m.erase e.1).insert e).entries = (m.erase e.1).entries ++ [e] := by
    rw [insert, dif_pos hnone]
  rw [hinsert, List.mem_append, List.mem_singleton, mem_erase_iff h, or_comm]

omit h in
theorem exists_mem_of_valueIn {a : α} {v : ν} (hv : valueIn view a entries = some v) :
    ∃ e ∈ entries, view e.1 = a ∧ e.2 = v := by
  induction entries with
  | nil => cases hv
  | cons e entries ih =>
    rw [valueIn] at hv
    split at hv
    next ha => exact ⟨e, List.mem_cons_self, ha, Option.some.inj hv⟩
    next =>
      obtain ⟨e', he', hview⟩ := ih hv
      exact ⟨e', List.mem_cons_of_mem _ he', hview⟩

end Views

end UnorderedMap
