import Mathlib.MeasureTheory.Measure.Lebesgue.Basic
import Mathlib.MeasureTheory.Measure.Prod
import Mathlib.MeasureTheory.Measure.Real

/-! # Volumes of prisms

A prism over a profile, and what a box cuts out of it.
-/
namespace Gripperz.Library
open MeasureTheory Set

/-- The points over a profile between two planes. -/
def prism {α : Type} (a b : ℝ) (profile : Set α) : Set (ℝ × α) := Icc a b ×ˢ profile

/-- The length two intervals share. -/
def sharedLength (a b c d : ℝ) : ℝ := max (min b d - max a c) 0

theorem sharedLength_of_le {a b c d : ℝ} (h : max a c ≤ min b d) :
    sharedLength a b c d = min b d - max a c :=
  max_eq_left (sub_nonneg.mpr h)

theorem prism_inter {α : Type} (a b c d : ℝ) (profile window : Set α) :
    prism a b profile ∩ prism c d window = prism (max a c) (min b d) (profile ∩ window) := by
  rw [prism, prism, prod_inter_prod, Icc_inter_Icc, prism]

variable {α : Type} [MeasureSpace α]

theorem volume_prism [SFinite (volume : Measure α)] (a b : ℝ) (profile : Set α) :
    volume.real (prism a b profile) = max (b - a) 0 * volume.real profile := by
  rw [prism, Measure.volume_eq_prod, measureReal_prod_prod, Real.volume_real_Icc]

/-- A box along the axis cuts a shorter prism out of a prism. -/
theorem volume_prism_inter [SFinite (volume : Measure α)] (a b c d : ℝ) (profile window : Set α) :
    volume.real (prism a b profile ∩ prism c d window) =
      sharedLength a b c d * volume.real (profile ∩ window) := by
  rw [prism_inter, volume_prism, sharedLength]

/-- A profile loses no area to a window exactly when nothing of it lies outside. -/
theorem area_inter_eq_iff {profile window : Set α} (hwindow : MeasurableSet window)
    (hfinite : volume profile ≠ ⊤) :
    volume.real (profile ∩ window) = volume.real profile ↔ volume (profile \ window) = 0 := by
  have hadd := measureReal_inter_add_sdiff (μ := volume) (s := profile) hwindow hfinite
  have houtside : volume (profile \ window) ≠ ⊤ := measure_ne_top_of_subset sdiff_subset hfinite
  rw [← measureReal_eq_zero_iff houtside]
  constructor
  · intro h
    linarith
  · intro h
    linarith

end Gripperz.Library
