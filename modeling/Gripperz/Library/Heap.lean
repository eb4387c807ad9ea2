import Mathlib.Data.List.Basic

/-! # Heaps

Objects that are shared by pointer. A pointer is the position at which its object was made;
there is none of an object that has not been made yet.
-/
namespace Gripperz.Library

structure Heap (α : Type) where
  objects : List α

/-- A pointer to an object of a heap. -/
abbrev Ptr := ℕ

namespace Heap
variable {α : Type} (heap : Heap α)

def get (ptr : Ptr) : Option α := heap.objects[ptr]?

/-- A new object and the pointer to it. -/
def alloc (object : α) : Ptr × Heap α := (heap.objects.length, ⟨heap.objects ++ [object]⟩)

def set (ptr : Ptr) (object : α) : Heap α := ⟨heap.objects.set ptr object⟩

@[simp] theorem get_alloc_self (object : α) :
    (heap.alloc object).2.get (heap.alloc object).1 = some object := by
  simp [alloc, get]

variable {heap}

theorem lt_of_get {ptr : Ptr} {object : α} (h : heap.get ptr = some object) :
    ptr < heap.objects.length := (List.getElem?_eq_some_iff.mp h).1

/-- A new object is none of those that were there. -/
theorem alloc_ne {ptr : Ptr} {object : α} (h : heap.get ptr = some object) (object' : α) :
    ptr ≠ (heap.alloc object').1 := Nat.ne_of_lt (lt_of_get h)

theorem get_alloc_of_get {ptr : Ptr} {object : α} (h : heap.get ptr = some object) (object' : α) :
    (heap.alloc object').2.get ptr = some object := by
  rw [alloc, get, List.getElem?_append_left (lt_of_get h)]
  exact h

theorem get_set_self {ptr : Ptr} {object : α} (h : heap.get ptr = some object) (object' : α) :
    (heap.set ptr object').get ptr = some object' := by
  simp [set, get, lt_of_get h]

theorem get_set_of_ne {ptr ptr' : Ptr} (h : ptr' ≠ ptr) (object : α) :
    (heap.set ptr object).get ptr' = heap.get ptr' := by
  simp [set, get, Ne.symm h]

theorem set_get {ptr : Ptr} {object : α} (h : heap.get ptr = some object) :
    heap.set ptr object = heap := by
  obtain ⟨hlt, rfl⟩ := List.getElem?_eq_some_iff.mp h
  rw [set, List.set_getElem_self]

theorem set_set (ptr : Ptr) (object object' : α) :
    (heap.set ptr object).set ptr object' = heap.set ptr object' := by
  simp [set]

end Heap
end Gripperz.Library
