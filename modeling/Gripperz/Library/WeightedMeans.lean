import Mathlib.Analysis.MeanInequalities
import Mathlib.Analysis.SpecialFunctions.Log.Base
import Gripperz.Library.Numerals

/-! # Weighted means

The weighted geometric mean of positive numbers, computed from their powers or from their
logarithms, is at least any lower bound of the numbers; their weighted arithmetic mean is at most
any upper bound. The means of numbers between zero and one are one only when all numbers that have
a weight are; the geometric mean is zero as soon as one of them is.
-/
namespace Gripperz.Library
open Finset

variable {ι : Type*} {s : Finset ι} {w z : ι → ℝ}

/-- The geometric mean through logarithms. -/
theorem rpow_sum_logb_eq (hz : ∀ i ∈ s, 0 < z i) :
    (2 : ℝ) ^ ((∑ i ∈ s, w i * Real.logb 2 (z i)) / ∑ i ∈ s, w i) =
      (∏ i ∈ s, z i ^ w i) ^ (1 / ∑ i ∈ s, w i) := by
  have hpower (i : ι) (hi : i ∈ s) : (2 : ℝ) ^ (w i * Real.logb 2 (z i)) = z i ^ w i := by
    rw [mul_comm, Real.rpow_mul zero_le_two, Real.rpow_logb two_pos (by norm_num) (hz i hi)]
  rw [div_eq_mul_one_div, Real.rpow_mul zero_le_two, Real.rpow_sum_of_pos two_pos,
    prod_congr rfl hpower]

/-- The geometric mean is at least any lower bound. -/
theorem le_geom_mean {low : ℝ} (hlow : 0 < low) (hz : ∀ i ∈ s, low ≤ z i) (hw : ∀ i ∈ s, 0 ≤ w i)
    (hsum : 0 < ∑ i ∈ s, w i) : low ≤ (∏ i ∈ s, z i ^ w i) ^ (1 / ∑ i ∈ s, w i) := by
  have hprod : low ^ (∑ i ∈ s, w i) ≤ ∏ i ∈ s, z i ^ w i := by
    rw [Real.rpow_sum_of_pos hlow]
    exact prod_le_prod (fun i _ => (Real.rpow_pos_of_pos hlow _).le)
      fun i hi => Real.rpow_le_rpow hlow.le (hz i hi) (hw i hi)
  calc low = (low ^ (∑ i ∈ s, w i)) ^ (1 / ∑ i ∈ s, w i) := by
        rw [one_div, Real.rpow_rpow_inv hlow.le hsum.ne']
    _ ≤ (∏ i ∈ s, z i ^ w i) ^ (1 / ∑ i ∈ s, w i) :=
        Real.rpow_le_rpow (Real.rpow_pos_of_pos hlow _).le hprod (one_div_pos.mpr hsum).le

/-- The arithmetic mean is at most any upper bound. -/
theorem arith_mean_le {high : ℝ} (hz : ∀ i ∈ s, z i ≤ high) (hw : ∀ i ∈ s, 0 ≤ w i)
    (hsum : 0 < ∑ i ∈ s, w i) : (∑ i ∈ s, w i * z i) / ∑ i ∈ s, w i ≤ high := by
  rw [div_le_iff₀ hsum, mul_comm high, sum_mul]
  exact sum_le_sum fun i hi => mul_le_mul_of_nonneg_left (hz i hi) (hw i hi)

/-! ## Numbers between zero and one -/

theorem arith_mean_eq_one_iff (hz : ∀ i ∈ s, z i ≤ 1) (hw : ∀ i ∈ s, 0 ≤ w i)
    (hsum : 0 < ∑ i ∈ s, w i) :
    (∑ i ∈ s, w i * z i) / ∑ i ∈ s, w i = 1 ↔ ∀ i ∈ s, 0 < w i → z i = 1 := by
  have hgap (i : ι) (hi : i ∈ s) : 0 ≤ w i * (1 - z i) :=
    mul_nonneg (hw i hi) (sub_nonneg.mpr (hz i hi))
  have hgaps : ∑ i ∈ s, w i * (1 - z i) = ∑ i ∈ s, w i - ∑ i ∈ s, w i * z i := by
    rw [← sum_sub_distrib]
    exact sum_congr rfl fun i _ => by rw [mul_sub, mul_one]
  rw [div_eq_one_iff_eq hsum.ne', eq_comm, ← sub_eq_zero, ← hgaps,
    sum_eq_zero_iff_of_nonneg hgap]
  refine forall₂_congr fun i hi => ?_
  rw [mul_eq_zero, sub_eq_zero, eq_comm (a := (1 : ℝ)), or_iff_not_imp_left, ← ne_eq,
    (hw i hi).lt_iff_ne, ne_comm]

theorem geom_mean_eq_zero_iff (hz : ∀ i ∈ s, 0 ≤ z i) (hw : ∀ i ∈ s, 0 ≤ w i)
    (hsum : 0 < ∑ i ∈ s, w i) :
    (∏ i ∈ s, z i ^ w i) ^ (1 / ∑ i ∈ s, w i) = 0 ↔ ∃ i ∈ s, 0 < w i ∧ z i = 0 := by
  have hprod : 0 ≤ ∏ i ∈ s, z i ^ w i := prod_nonneg fun i hi => Real.rpow_nonneg (hz i hi) _
  rw [Real.rpow_eq_zero hprod (one_div_pos.mpr hsum).ne', prod_eq_zero_iff]
  refine exists_congr fun i => and_congr_right fun hi => ?_
  rw [Real.rpow_eq_zero_iff_of_nonneg (hz i hi), and_comm, (hw i hi).lt_iff_ne, ne_comm]

theorem geom_mean_eq_one_iff (hz : ∀ i ∈ s, 0 ≤ z i) (hz' : ∀ i ∈ s, z i ≤ 1)
    (hw : ∀ i ∈ s, 0 ≤ w i) (hsum : 0 < ∑ i ∈ s, w i) :
    (∏ i ∈ s, z i ^ w i) ^ (1 / ∑ i ∈ s, w i) = 1 ↔ ∀ i ∈ s, 0 < w i → z i = 1 := by
  have hmean := Real.geom_mean_le_arith_mean s w z hw hsum hz
  rw [← one_div] at hmean
  constructor
  · intro hone
    rw [hone] at hmean
    exact (arith_mean_eq_one_iff hz' hw hsum).mp ((arith_mean_le hz' hw hsum).antisymm hmean)
  · intro hall
    have hpower (i : ι) (hi : i ∈ s) : z i ^ w i = 1 := by
      rcases (hw i hi).eq_or_lt with hnone | hpos
      · rw [← hnone, Real.rpow_zero]
      · rw [hall i hi hpos, Real.one_rpow]
    rw [prod_congr rfl hpower, prod_const_one, Real.one_rpow]

end Gripperz.Library
