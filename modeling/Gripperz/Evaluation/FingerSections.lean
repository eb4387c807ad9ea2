import Gripperz.Evaluation.Calculators
import Gripperz.Geometry.EndCorrection

/-! # Where a finger is looked at

The stress of a finger is sampled at positions that a loop counts in `double`. The sample at the
finger's root is in the middle of its slice; a sample within half a slice of the tip has a section
that is too large.
-/
namespace Gripperz.Evaluation.StressIndexCalculator
open MeasureTheory Set Library Gripperz.Geometry EulerBeam

/-- The positions that pass the first `n` tests of the loop. `Resolution` is the same double as
the depth of a slice. -/
def samples (length : ℚ) : ℕ → ℚ → List ℚ
  | 0, _ => []
  | n + 1, x => if x ≤ length then x :: samples length n (binary64.round (x + depth)) else []

/-- The first position is the root, all others are a step away from it or more. -/
theorem of_mem_samples {L : ℚ} {n : ℕ} {x₀ x : ℚ} (h0 : x₀ = 0 ∨ depth ≤ x₀)
    (h : x ∈ samples L n x₀) : (x = 0 ∨ depth ≤ x) ∧ x ≤ L := by
  induction n generalizing x₀ with
  | zero => cases h
  | succ n ih =>
    rw [samples] at h
    split at h
    · rename_i hle
      rcases List.mem_cons.mp h with rfl | h
      · exact ⟨h0, hle⟩
      · apply ih (Or.inr _) h
        have hstep : depth ≤ x₀ + depth := by
          rcases h0 with rfl | h0
          · exact (zero_add depth).ge
          · linarith [depth_pos]
        have hround : binary64.round depth ≤ binary64.round (x₀ + depth) :=
          FloatFormat.round_mono hstep
        rwa [round_depth] at hround
    · cases h

/-- The loop has ended once it has made more tests than it has found positions. -/
theorem mem_samples_of_length_lt {L : ℚ} {n m : ℕ} {x₀ x : ℚ}
    (hend : (samples L n x₀).length < n) (h : x ∈ samples L m x₀) : x ∈ samples L n x₀ := by
  induction n generalizing m x₀ with
  | zero => cases hend
  | succ n ih =>
    cases m with
    | zero => cases h
    | succ m =>
      rw [samples] at h hend ⊢
      split at h
      · rename_i hle
        rw [if_pos hle] at hend ⊢
        rcases List.mem_cons.mp h with rfl | h
        · exact List.mem_cons_self
        · exact List.mem_cons_of_mem _ (ih (Nat.lt_of_succ_lt_succ hend) h)
      · cases h

theorem nonempty_of_area {profile : Set (ℝ × ℝ)} (hA : 0 < volume.real profile) :
    profile.Nonempty := by
  apply Set.nonempty_iff_ne_empty.mpr
  rintro rfl
  simp at hA

theorem inter_window_iff {profile : Set (ℝ × ℝ)} (hA : 0 < volume.real profile) :
    volume.real (profile ∩ probeWindow) = volume.real profile ↔
      volume (profile \ probeWindow) = 0 := by
  apply area_inter_eq_iff (measurableSet_Icc.prod measurableSet_Icc)
  intro h
  simp [measureReal_def, h] at hA

section
variable {S : Type} {csg : CSG S ℝ} {solid : S → Set (ℝ × ℝ × ℝ)} (exact : csg.Exact solid)
  {mesh : S} {L : binary64.Value} {profile : Set (ℝ × ℝ)}
  (hsolid : solid mesh = prism 0 (L.value : ℝ) profile) (hL : depth ≤ L.value)
  (hA : 0 < volume.real profile)

include exact hsolid hL hA

/-- The section of a sample is right exactly when the sample is clear. -/
theorem section_at_iff (hwhole : volume (profile \ probeWindow) = 0) {n : ℕ} {x : ℚ}
    (hx : x ∈ samples L.value n 0) :
    csg.areaUsed L.value x mesh = volume.real profile ↔ Clear L.value x := by
  obtain ⟨hfrom, hle⟩ := of_mem_samples (Or.inl rfl) hx
  have h0 : 0 ≤ x := by
    rcases hfrom with rfl | hfrom
    · exact le_rfl
    · exact depth_pos.le.trans hfrom
  rw [exact.areaUsed_eq hsolid h0 hle, (inter_window_iff hA).mpr hwhole, mul_eq_right₀ hA.ne']
  have hone : (endRatio L.value x : ℝ) = 1 ↔ endRatio L.value x = 1 := by exact_mod_cast Iff.rfl
  rw [hone]
  rcases hfrom with rfl | hfrom
  · exact iff_of_true (endRatio_zero hL) (Or.inl rfl)
  · exact endRatio_eq_one_iff hfrom hle

/-- The samples of a prismatic finger all have its section exactly when nothing of the section
lies outside the probe and all samples are clear of the tip. -/
theorem samples_iff :
    (∀ n, ∀ x ∈ samples L.value n 0, csg.areaUsed L.value x mesh = volume.real profile) ↔
      volume (profile \ probeWindow) = 0 ∧ ∀ n, ∀ x ∈ samples L.value n 0, Clear L.value x := by
  have h0 : (0 : ℚ) ≤ L.value := depth_pos.le.trans hL
  constructor
  · intro h
    have hroot : (0 : ℚ) ∈ samples L.value 1 0 := by simp [samples, h0]
    have hwhole : volume (profile \ probeWindow) = 0 := by
      have hzero := h 1 0 hroot
      rw [exact.areaUsed_eq hsolid le_rfl h0, endRatio_zero hL, Rat.cast_one, one_mul] at hzero
      exact (inter_window_iff hA).mp hzero
    exact ⟨hwhole, fun n x hx => (section_at_iff exact hsolid hL hA hwhole hx).mp (h n x hx)⟩
  · rintro ⟨hwhole, hclear⟩ n x hx
    exact (section_at_iff exact hsolid hL hA hwhole hx).mpr (hclear n x hx)

/-- The code takes the length of the finger for what it is, and the samples of the finger all have
its section exactly when nothing of it lies outside the probe and all samples are clear. -/
theorem sections_iff : csg.length mesh = L.value ∧
    ((∀ n, ∀ x ∈ samples L.value n 0, csg.areaUsed L.value x mesh = volume.real profile) ↔
      volume (profile \ probeWindow) = 0 ∧ ∀ n, ∀ x ∈ samples L.value n 0, Clear L.value x) := by
  have h0 : (0 : ℚ) ≤ L.value := depth_pos.le.trans hL
  exact ⟨exact.length_eq hsolid (by exact_mod_cast h0) (nonempty_of_area hA),
    samples_iff exact hsolid hL hA⟩

end

/-! ## Fingers -/

/-- The section of a finger, twenty millimetres on each side. -/
def fingerProfile : Set (ℝ × ℝ) := Icc (-(1 / 100)) (1 / 100) ×ˢ Icc (-(1 / 100)) (1 / 100)

noncomputable def boxFinger (L : ℝ) : Box ℝ :=
  ⟨(0, -(1 / 100), -(1 / 100)), (L, 1 / 100, 1 / 100)⟩

theorem area_fingerProfile : volume.real fingerProfile = 1 / 2500 := by
  rw [fingerProfile, Measure.volume_eq_prod, measureReal_prod_prod, Real.volume_real_Icc]
  norm_num

theorem fingerProfile_seen : volume (fingerProfile \ probeWindow) = 0 := by
  have hsub : fingerProfile ⊆ probeWindow := by
    apply Set.prod_mono <;> apply Icc_subset_Icc <;> norm_num [sliceSize]
  rw [sdiff_eq_empty.mpr hsub, measure_empty]

/-- The double nearest to a length in millimetres. -/
def millimetres (y : ℚ) (h : |binary64.round (y / 1000)| ≤ binary64.largest) : binary64.Value :=
  ⟨binary64.round (y / 1000), FloatFormat.round_round _, h⟩

/-- A finger of 100.2 millimetres: the sample at about 100 has more than twice its section. -/
theorem not_sections : ¬ ∀ n, ∀ x ∈ samples (millimetres (1002 / 10) (by decide +kernel)).value n 0,
    Box.csg.areaUsed (millimetres (1002 / 10) (by decide +kernel)).value x
      (boxFinger (millimetres (1002 / 10) (by decide +kernel)).value) =
        volume.real fingerProfile := by
  set L := millimetres (1002 / 10) (by decide +kernel)
  have hL : depth ≤ L.value := by decide +kernel
  rw [samples_iff Box.exact rfl hL (by norm_num [area_fingerProfile])]
  rintro ⟨-, hclear⟩
  have hlast : ¬ ∀ x ∈ samples L.value 101 0, Clear L.value x := by decide +kernel
  exact hlast (hclear 101)

/-- A finger of 100 millimetres. -/
theorem sections_iff_clear :
    ¬ ∃ x ∈ samples (millimetres 100 (by decide +kernel)).value 101 0,
      Box.csg.areaUsed (millimetres 100 (by decide +kernel)).value x
        (boxFinger (millimetres 100 (by decide +kernel)).value) ≠ volume.real fingerProfile := by
  set L := millimetres 100 (by decide +kernel)
  have hL : depth ≤ L.value := by decide +kernel
  have hA : 0 < volume.real fingerProfile := by norm_num [area_fingerProfile]
  have hclear : ∀ x ∈ samples L.value 101 0, Clear L.value x := by decide +kernel
  have hend : (samples L.value 101 0).length < 101 := by decide +kernel
  have hsolid : Box.solid (boxFinger L.value) = prism 0 (L.value : ℝ) fingerProfile := rfl
  have hall := (sections_iff Box.exact hsolid hL hA).2.mpr
    ⟨fingerProfile_seen, fun n x hx => hclear x (mem_samples_of_length_lt hend hx)⟩
  rintro ⟨x, hx, hne⟩
  exact hne (hall 101 x hx)

end Gripperz.Evaluation.StressIndexCalculator
