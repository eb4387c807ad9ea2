import Mathlib.Data.Nat.Init

/-! # The largest of a list

A search that keeps the best element so far, and changes it for a larger one only, finds one of the
largest.
-/
namespace Gripperz.Library
variable {α : Type} (size : α → ℕ)

/-- The first of the largest, after a first one. -/
def largestAfter (first : α) (rest : List α) : α :=
  rest.foldl (fun best a => if size best < size a then a else best) first

theorem largestAfter_mem (first : α) (rest : List α) :
    largestAfter size first rest ∈ first :: rest := by
  induction rest generalizing first with
  | nil => exact List.mem_cons_self
  | cons a rest ih =>
    rcases List.mem_cons.mp (ih (if size first < size a then a else first)) with h | h
    · rw [largestAfter, List.foldl_cons, ← largestAfter, h]
      split <;> simp
    · exact List.mem_cons_of_mem _ (List.mem_cons_of_mem _ h)

theorem size_le_largestAfter (first : α) (rest : List α) :
    ∀ a ∈ first :: rest, size a ≤ size (largestAfter size first rest) := by
  induction rest generalizing first with
  | nil => simp [largestAfter]
  | cons b rest ih =>
    have hbest := ih (if size first < size b then b else first)
    have hhead := hbest _ List.mem_cons_self
    have hfirst : size first ≤ size (if size first < size b then b else first) := by
      split <;> omega
    have hnext : size b ≤ size (if size first < size b then b else first) := by
      split <;> omega
    intro a ha
    rcases List.mem_cons.mp ha with rfl | ha
    · exact Nat.le_trans hfirst hhead
    · rcases List.mem_cons.mp ha with rfl | ha
      · exact Nat.le_trans hnext hhead
      · exact hbest a (List.mem_cons_of_mem _ ha)

end Gripperz.Library
