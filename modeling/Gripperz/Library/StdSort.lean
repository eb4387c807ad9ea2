import Mathlib.Data.List.Range
import Mathlib.Data.List.Sort
import Mathlib.Order.Basic
import Mathlib.Order.Lattice

/-! # Sorting as the C++ standard promises it

`std::sort` gives a permutation without inversions and leaves the order of
equivalent elements to the implementation. A `StdSort` is one implementation.
-/
namespace Gripperz.Library

structure StdSort {α : Type} (lt : α → α → Prop) where
  sort : List α → List α
  perm : ∀ l, (sort l).Perm l
  sorted : ∀ l, (sort l).Pairwise fun a b => ¬ lt b a

namespace StdSort
variable {α β : Type} {lt : α → α → Prop}

@[simp] theorem length_sort (srt : StdSort lt) (l : List α) : (srt.sort l).length = l.length :=
  (srt.perm l).length_eq

@[simp] theorem mem_sort (srt : StdSort lt) {l : List α} {a : α} : a ∈ srt.sort l ↔ a ∈ l :=
  (srt.perm l).mem_iff

section ByKey
variable [LinearOrder β] (key : α → β)

private theorem sorted_mergeSort (l : List α) :
    (l.mergeSort fun a b => key a ≤ key b).Pairwise fun a b => ¬ key b < key a := by
  have h := @List.pairwise_mergeSort _ (fun a b : α => decide (key a ≤ key b))
    (fun a b c hab hbc => by simpa using le_trans (by simpa using hab) (by simpa using hbc))
    (fun a b => by simpa using le_total (key a) (key b)) l
  exact h.imp fun hab => not_lt.mpr (by simpa using hab)

/-- Sorting by a key, equal keys in their old order. -/
def stable : StdSort fun a b : α => key a < key b where
  sort l := l.mergeSort fun a b => key a ≤ key b
  perm l := List.mergeSort_perm l _
  sorted l := sorted_mergeSort key l

theorem stable_of_sorted {l : List α} (h : l.Pairwise fun a b => key a ≤ key b) :
    (stable key).sort l = l := by
  apply List.mergeSort_of_pairwise
  exact h.imp fun hab => by simpa using hab

/-- The elements of one key stay in their order. -/
theorem filter_stable (l : List α) (k : β) :
    ((stable key).sort l).filter (fun a => key a = k) = l.filter fun a => key a = k := by
  have hequal : (l.filter fun a => key a = k).Pairwise fun a b =>
      decide (key a ≤ key b) = true := by
    rw [List.pairwise_iff_forall_sublist]
    intro a b hsub
    have ha : key a = k := by simpa using (List.mem_filter.mp (hsub.subset (by simp))).2
    have hb : key b = k := by simpa using (List.mem_filter.mp (hsub.subset (by simp))).2
    simp [ha, hb]
  have hsub : (l.filter fun a => key a = k).Sublist ((stable key).sort l) := by
    refine List.sublist_mergeSort ?_ ?_ hequal List.filter_sublist
    · intro a b c hab hbc
      simp only [decide_eq_true_eq] at hab hbc ⊢
      exact hab.trans hbc
    · intro a b
      simpa using le_total (key a) (key b)
  have hfilter := hsub.filter fun a => key a = k
  rw [List.filter_filter, List.filter_congr (q := fun a => key a = k) (by simp)] at hfilter
  exact (hfilter.eq_of_length ((((stable key).perm l).filter _).length_eq).symm).symm

end ByKey

/-! ## Groups -/

/-- What goes before the rest in a list is its first part. -/
theorem eq_filter_append {p : α → Bool} {l : List α}
    (h : l.Pairwise fun a b => p b = true → p a = true) :
    l = l.filter p ++ l.filter fun a => !p a := by
  induction l with
  | nil => rfl
  | cons a l ih =>
    obtain ⟨hfirst, hrest⟩ := List.pairwise_cons.mp h
    by_cases ha : p a = true
    · have hlast : (a :: l).filter (fun a => !p a) = l.filter fun a => !p a := by simp [ha]
      rw [List.filter_cons_of_pos ha, hlast, List.cons_append, ← ih hrest]
    · have hnone : l.filter p = [] := List.filter_eq_nil_iff.mpr fun b hb hp => ha (hfirst b hb hp)
      have hall : l.filter (fun a => !p a) = l := by
        apply List.filter_eq_self.mpr
        intro b hb
        simpa using fun hp => ha (hfirst b hb hp)
      simp [ha, hnone, hall]

/-- A list in the order of a group number is its groups one after the other. -/
theorem eq_flatMap_filter {tier : α → ℕ} (n : ℕ) {l : List α}
    (h : l.Pairwise fun a b => tier a ≤ tier b) (hn : ∀ a ∈ l, tier a < n) :
    l = (List.range n).flatMap fun i => l.filter fun a => tier a = i := by
  induction n generalizing l with
  | zero =>
    have hnone : l = [] := List.eq_nil_iff_forall_not_mem.mpr fun a ha => absurd (hn a ha) (by simp)
    simp [hnone]
  | succ n ih =>
    have hsplit : l = l.filter (fun a => tier a < n) ++ l.filter fun a => !decide (tier a < n) := by
      apply eq_filter_append
      apply h.imp
      intro a b hle hb
      simp only [decide_eq_true_eq] at hb ⊢
      omega
    have hlast : (l.filter fun a => !decide (tier a < n)) = l.filter fun a => tier a = n := by
      apply List.filter_congr
      intro a ha
      have hle := hn a ha
      rw [← decide_not, decide_eq_decide]
      omega
    have hfirst := ih (h.sublist (List.filter_sublist (p := fun a => tier a < n)))
      fun a ha => by simpa using (List.mem_filter.mp ha).2
    have hparts (i : ℕ) (hi : i ∈ List.range n) :
        ((l.filter fun a => tier a < n).filter fun a => tier a = i) =
          l.filter fun a => tier a = i := by
      rw [List.filter_filter]
      apply List.filter_congr
      intro a _
      have hlt := List.mem_range.mp hi
      by_cases htier : tier a = i
      · simp [htier, hlt]
      · simp [htier]
    rw [List.range_succ, List.flatMap_append, ← List.flatMap_congr hparts, ← hfirst,
      List.flatMap_singleton, ← hlast, ← hsplit]

end StdSort
end Gripperz.Library
