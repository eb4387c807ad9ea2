import Mathlib.Algebra.BigOperators.Fin
import Mathlib.Analysis.Convex.Combination
import Mathlib.Tactic.Linarith
import Mathlib.Tactic.Module

/-! # Points between others

The mean of a list of points is in their convex hull. A point beyond one end of a segment is on
the segment only when the segment is a point.
-/
namespace Gripperz.Library
variable {K M : Type*} [Field K] [LinearOrder K] [IsStrictOrderedRing K] [AddCommGroup M]
  [Module K M]

theorem mean_mem_convexHull {l : List M} (hne : l ≠ []) :
    (l.length : K)⁻¹ • l.sum ∈ convexHull K {x | x ∈ l} := by
  have hpos : (0 : K) < l.length := by exact_mod_cast List.length_pos_of_ne_nil hne
  have hmean := (convex_convexHull K {x | x ∈ l}).sum_mem (t := Finset.univ)
    (w := fun _ : Fin l.length => (l.length : K)⁻¹) (z := l.get)
    (fun _ _ => (inv_pos.mpr hpos).le) (by simp [mul_inv_cancel₀ hpos.ne'])
    (fun i _ => subset_convexHull K _ (List.get_mem l i))
  rwa [← Finset.smul_sum, show ∑ i, l.get i = l.sum from Fin.sum_univ_getElem l] at hmean

/-- A convex set holds the points of a segment between two of its points. -/
theorem add_smul_sub_mem {s : Set M} (hs : Convex K s) {x y : M} (hx : x ∈ s) (hy : y ∈ s) {t : K}
    (hlower : -1 ≤ t) (hupper : t ≤ 0) : x + t • (x - y) ∈ s := by
  have hbetween := hs hx hy (by linarith : 0 ≤ 1 + t) (neg_nonneg.mpr hupper) (by ring)
  have heq : x + t • (x - y) = (1 + t) • x + -t • y := by module
  rwa [heq]

theorem add_smul_sub_mem_segment_iff {x y : M} {t : K} (ht : 0 < t) :
    x + t • (x - y) ∈ segment K x y ↔ y = x := by
  constructor
  · rintro ⟨a, b, -, hb, hab, h⟩
    have hzero : (t + b) • (y - x) = 0 := by
      have hx : x = (a + b) • x := by rw [hab, one_smul]
      have hsum : (t + b) • (y - x) = (a • x + b • y) - (x + t • (x - y)) + (x - (a + b) • x) := by
        module
      rw [hsum, h, sub_self, ← hx, sub_self, add_zero]
    rcases smul_eq_zero.mp hzero with hzero | hzero
    · exact absurd hzero (by positivity)
    · exact sub_eq_zero.mp hzero
  · rintro rfl
    simp

end Gripperz.Library
