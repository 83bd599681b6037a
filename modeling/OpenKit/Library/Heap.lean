import Mathlib.Data.Nat.Notation
import Mathlib.Logic.Function.Basic

/-!
# Objects by reference

Objects that others point to are kept in a heap, and pointers are references to its cells. No object
is ever freed, so that a reference that was handed out stays valid.

## Main definitions

* `Heap`: the objects made so far
* `Heap.get`, `Heap.modify`, `Heap.alloc`: reading, changing and making an object
-/

/-- Objects by reference: those below `size` have been made. -/
structure Heap (α : Type) where
  cells : ℕ → α
  size : ℕ

namespace Heap

variable {α : Type}

/-- No object has been made; `a` stands for those that have not. -/
def empty (a : α) : Heap α := ⟨fun _ => a, 0⟩

def get (h : Heap α) (r : ℕ) : α := h.cells r

def modify (h : Heap α) (r : ℕ) (f : α → α) : Heap α :=
  { h with cells := Function.update h.cells r (f (h.cells r)) }

/-- Makes an object. Its reference is the size before. -/
def alloc (h : Heap α) (a : α) : Heap α := ⟨Function.update h.cells h.size a, h.size + 1⟩

variable {h : Heap α} {r r' : ℕ} {f : α → α} {a : α}

@[simp] theorem size_modify : (h.modify r f).size = h.size := rfl

@[simp] theorem size_alloc : (h.alloc a).size = h.size + 1 := rfl

@[simp] theorem get_modify_self : (h.modify r f).get r = f (h.get r) :=
  Function.update_self _ _ _

theorem get_modify_of_ne (hr : r' ≠ r) : (h.modify r f).get r' = h.get r' :=
  Function.update_of_ne hr _ _

/-- Two changes of an object are one. -/
theorem modify_modify {g : α → α} : (h.modify r f).modify r g = h.modify r fun a => g (f a) := by
  rw [modify, modify, modify]
  dsimp only
  rw [Function.update_self, Function.update_idem]

@[simp] theorem get_alloc_size : (h.alloc a).get h.size = a := Function.update_self _ _ _

theorem get_alloc_of_lt (hr : r < h.size) : (h.alloc a).get r = h.get r :=
  Function.update_of_ne (Nat.ne_of_lt hr) _ _

/-- A property of one object that a change keeps, kept for all. -/
theorem get_modify_of_forall {P : α → α → Prop} (hrefl : ∀ a, P a a) (hf : P (h.get r) (f (h.get r)))
    (r' : ℕ) : P (h.get r') ((h.modify r f).get r') := by
  by_cases hr : r' = r
  · subst hr
    rw [get_modify_self]
    exact hf
  · rw [get_modify_of_ne hr]
    exact hrefl _

end Heap
