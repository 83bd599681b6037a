import Mathlib.Data.List.Induction
import Mathlib.Data.List.Nodup
import OpenKit.Json.ParserStates

/-!
# The members of an object

A map has each key once. Of the members of an object that have the same name, the last one is in the map
of its value.

## Main definitions

* `JsonTree.lastNamed`: the last member of a name

## Main results

* `lookup_memberValues`: the value under a key is that of the last member
* `forall_mem_memberValues_iff`: what holds of all values in the map
-/

namespace OpenKit

section Maps

variable {map : List (List UInt8 × JsonValue)} {key : List UInt8} {value : JsonValue}

theorem lookup_cons_of_ne {name : List UInt8} {v : JsonValue} (h : key ≠ name) :
    ((name, v) :: map).lookup key = map.lookup key := by
  rw [List.lookup_cons, beq_false_of_ne h]

/-- **An assignment** changes what is found under its key, and nothing else. -/
theorem lookup_insertOrAssign (key' : List UInt8) :
    (insertOrAssign key value map).lookup key' = if key' = key then some value else map.lookup key' := by
  induction map with
  | nil =>
    by_cases hkey : key' = key
    · rw [if_pos hkey, hkey, insertOrAssign, List.lookup_cons_self]
    · rw [if_neg hkey, insertOrAssign, lookup_cons_of_ne hkey]
  | cons m map ih =>
    obtain ⟨name, v⟩ := m
    rw [insertOrAssign]
    by_cases hkey : key' = name
    · subst hkey
      by_cases hname : key' = key
      · rw [if_pos hname, if_pos hname, hname, List.lookup_cons_self]
      · rw [if_neg hname, if_neg hname, List.lookup_cons_self, List.lookup_cons_self]
    · rw [lookup_cons_of_ne hkey]
      split
      next hname => rw [← hname, lookup_cons_of_ne hkey, if_neg hkey]
      next hname => rw [lookup_cons_of_ne hkey, ih]

/-- An assignment adds no key but its own. -/
theorem mem_keys_insertOrAssign {name : List UInt8}
    (h : name ∈ (insertOrAssign key value map).map Prod.fst) : name = key ∨ name ∈ map.map Prod.fst := by
  induction map with
  | nil => exact .inl (List.mem_singleton.mp h)
  | cons m map ih =>
    obtain ⟨name', v⟩ := m
    rw [insertOrAssign] at h
    split at h
    next hname =>
      rcases List.mem_cons.mp h with h | h
      · exact .inl h
      · exact .inr (List.mem_cons_of_mem _ h)
    next hname =>
      rcases List.mem_cons.mp h with h | h
      · exact .inr (List.mem_cons.mpr (.inl h))
      · exact (ih h).imp_right (List.mem_cons_of_mem _)

/-- An assignment keeps each key once. -/
theorem nodup_insertOrAssign (h : (map.map Prod.fst).Nodup) :
    ((insertOrAssign key value map).map Prod.fst).Nodup := by
  induction map with
  | nil => exact List.pairwise_singleton _ _
  | cons m map ih =>
    obtain ⟨name, v⟩ := m
    obtain ⟨hname, hmap⟩ := List.nodup_cons.mp h
    rw [insertOrAssign]
    split
    next heq =>
      rw [← heq]
      exact h
    next hne =>
      refine List.nodup_cons.mpr ⟨fun hmem => ?_, ih hmap⟩
      exact (mem_keys_insertOrAssign hmem).elim hne hname

/-- Where each key occurs once, the members are what is found. -/
theorem mem_iff_lookup_eq_some {α : Type} {map : List (List UInt8 × α)} (h : (map.map Prod.fst).Nodup)
    (key : List UInt8) (value : α) : (key, value) ∈ map ↔ map.lookup key = some value := by
  induction map with
  | nil => simp
  | cons m map ih =>
    obtain ⟨name, v⟩ := m
    obtain ⟨hname, hmap⟩ := List.nodup_cons.mp h
    rw [List.mem_cons, ih hmap]
    by_cases hkey : key = name
    · -- No other member has the name of the first one.
      subst hkey
      have hnone : map.lookup key = none := by
        refine List.lookup_eq_none_iff.mpr fun m hm => ?_
        have hne : key ≠ m.1 := fun heq => hname (List.mem_map.mpr ⟨m, hm, heq.symm⟩)
        simpa using hne
      simp [hnone, eq_comm]
    · rw [List.lookup_cons, beq_false_of_ne hkey]
      simp [hkey]

end Maps

/-- The last member of a name. -/
def JsonTree.lastNamed (key : List UInt8) (ms : List (List UInt8 × JsonTree)) : Option JsonTree :=
  ms.reverse.lookup key

theorem lookup_memberValues_append (key : List UInt8) (map : List (List UInt8 × JsonValue))
    (ms : List (List UInt8 × JsonTree)) :
    (memberValues map ms).lookup key =
      ((JsonTree.lastNamed key ms).map JsonTree.toValue).or (map.lookup key) := by
  induction ms using List.reverseRecOn with
  | nil => rfl
  | append_singleton ms m ih =>
    obtain ⟨name, t⟩ := m
    rw [memberValues_append, memberValues, memberValues, lookup_insertOrAssign, ih, JsonTree.lastNamed,
      JsonTree.lastNamed, List.reverse_concat]
    by_cases hkey : key = name
    · rw [if_pos hkey, hkey, List.lookup_cons_self]
      rfl
    · rw [if_neg hkey, List.lookup_cons, beq_false_of_ne hkey]

/-- **The value under a key** is that of the last member of this name. -/
theorem lookup_memberValues (key : List UInt8) (ms : List (List UInt8 × JsonTree)) :
    (memberValues [] ms).lookup key = (JsonTree.lastNamed key ms).map JsonTree.toValue := by
  rw [lookup_memberValues_append, List.lookup_nil, Option.or_none]

theorem nodup_memberValues (ms : List (List UInt8 × JsonTree)) :
    ((memberValues [] ms).map Prod.fst).Nodup := by
  induction ms using List.reverseRecOn with
  | nil => exact List.nodup_nil
  | append_singleton ms m ih =>
    rw [memberValues_append]
    exact nodup_insertOrAssign ih

/-- **The values in the map** are those of the last members of each name. -/
theorem forall_mem_memberValues_iff {P : JsonValue → Prop} {ms : List (List UInt8 × JsonTree)} :
    (∀ m ∈ memberValues [] ms, P m.2) ↔ ∀ key t, JsonTree.lastNamed key ms = some t → P t.toValue := by
  have hmem := mem_iff_lookup_eq_some (nodup_memberValues ms)
  constructor
  · intro h key t ht
    refine h (key, t.toValue) ((hmem key _).mpr ?_)
    rw [lookup_memberValues, ht]
    rfl
  · rintro h ⟨key, value⟩ hm
    have hlookup := (hmem key value).mp hm
    rw [lookup_memberValues] at hlookup
    obtain ⟨t, ht, rfl⟩ := Option.map_eq_some_iff.mp hlookup
    exact h key t ht

/-- A last member is a member. -/
theorem JsonTree.mem_of_lastNamed_eq_some {key : List UInt8} {ms : List (List UInt8 × JsonTree)}
    {t : JsonTree} (h : JsonTree.lastNamed key ms = some t) : (key, t) ∈ ms := by
  rw [lastNamed] at h
  obtain ⟨front, back, heq, -⟩ := List.lookup_eq_some_iff.mp h
  refine List.mem_reverse.mp ?_
  rw [heq]
  exact List.mem_append_right _ List.mem_cons_self

/-- Where each name occurs once, every member is the last one. -/
theorem JsonTree.lastNamed_of_mem {ms : List (List UInt8 × JsonTree)} (h : (ms.map Prod.fst).Nodup)
    {m : List UInt8 × JsonTree} (hm : m ∈ ms) : JsonTree.lastNamed m.1 ms = some m.2 := by
  have hnodup : (ms.reverse.map Prod.fst).Nodup := by
    rw [List.map_reverse]
    exact List.nodup_reverse.mpr h
  exact (mem_iff_lookup_eq_some hnodup m.1 m.2).mp (List.mem_reverse.mpr hm)

/-- A name that occurs has a last member. -/
theorem JsonTree.exists_lastNamed {ms : List (List UInt8 × JsonTree)} {m : List UInt8 × JsonTree}
    (hm : m ∈ ms) : ∃ t, JsonTree.lastNamed m.1 ms = some t := by
  refine Option.ne_none_iff_exists'.mp fun hnone => ?_
  have hne := List.lookup_eq_none_iff.mp hnone m (List.mem_reverse.mpr hm)
  simp at hne

end OpenKit
