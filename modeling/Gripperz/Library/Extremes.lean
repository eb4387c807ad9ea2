import Mathlib.Order.Bounds.Basic
import Mathlib.Order.MinMax

/-! # Extremes that begin with a value of their own

A loop that keeps the least value so far finds the least of the values and of the one it begins
with. That one may not be among the values.
-/
namespace Gripperz.Library
variable {R : Type} [LinearOrder R]

theorem isLeast_foldl_min (values : List R) (start : R) :
    IsLeast (insert start {v | v ∈ values}) (values.foldl min start) := by
  induction values generalizing start with
  | nil => simp
  | cons v values ih =>
    obtain ⟨hmem, hle⟩ := ih (min start v)
    have hfirst := hle (Set.mem_insert _ _)
    constructor
    · rcases hmem with hmin | hlater
      · rw [List.foldl_cons, hmin]
        rcases min_choice start v with h | h
        · exact Or.inl h
        · rw [h]
          exact Or.inr List.mem_cons_self
      · exact Or.inr (List.mem_cons_of_mem v hlater)
    · rintro w (rfl | hw)
      · exact hfirst.trans (min_le_left _ _)
      · rcases List.mem_cons.mp hw with rfl | hw
        · exact hfirst.trans (min_le_right _ _)
        · exact hle (Set.mem_insert_of_mem _ hw)

theorem isGreatest_foldl_max (values : List R) (start : R) :
    IsGreatest (insert start {v | v ∈ values}) (values.foldl max start) :=
  isLeast_foldl_min (R := Rᵒᵈ) values start

variable {s : Set R} {start m : R}

/-- The least of a set and one more value is in the set when the set goes as low as the value. -/
theorem isLeast_iff_of_insert (h : IsLeast (insert start s) m) :
    IsLeast s m ↔ ∃ v ∈ s, v ≤ start := by
  constructor
  · intro hs
    exact ⟨m, hs.1, h.2 (Set.mem_insert start s)⟩
  · rintro ⟨v, hv, hle⟩
    refine ⟨?_, fun w hw => h.2 (Set.mem_insert_of_mem start hw)⟩
    rcases h.1 with rfl | hmem
    · rwa [← le_antisymm hle (h.2 (Set.mem_insert_of_mem m hv))]
    · exact hmem

theorem isGreatest_iff_of_insert (h : IsGreatest (insert start s) m) :
    IsGreatest s m ↔ ∃ v ∈ s, start ≤ v := isLeast_iff_of_insert (R := Rᵒᵈ) h

end Gripperz.Library
