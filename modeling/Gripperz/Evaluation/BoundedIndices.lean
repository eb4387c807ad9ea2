import Mathlib.Algebra.Order.Archimedean.Real.Basic
import Gripperz.Evaluation.Agreement
import Gripperz.Evaluation.IndexGripperQualityExtractor
import Gripperz.Evaluation.RatioIndices
import Gripperz.Math.CombineObjectives

/-! # Indices between zero and one

Every index is between zero and one, in whatever order the calculators are asked and whatever
results they mark in between, and so is the quality that the objectives combine to.
-/
namespace Gripperz.Evaluation
open Math Library Grasps Gripperz.Geometry Models

variable {R G V : Type} [Field R] [LinearOrder R] [IsStrictOrderedRing R]

/-- What is promised of the square root and of the variance. -/
structure LawfulSpatial (spatial : Spatial R G V) : Prop where
  sqrt_nonneg : ∀ x, 0 ≤ x → 0 ≤ spatial.sqrt x
  sqrt_pos : ∀ x, 0 < x → 0 < spatial.sqrt x
  variance_nonneg : ∀ xs, 0 ≤ spatial.variance xs

/-! ## The calculators -/

/-- An index that falls from one and is cut off at zero. -/
theorem cutOff_mem {x : R} (h : 0 ≤ x) : (if 1 - x < 0 then 0 else 1 - x) ∈ Set.Icc (0 : R) 1 := by
  split
  · exact ⟨le_rfl, zero_le_one⟩
  · rename_i hnot
    exact ⟨not_lt.mp hnot, sub_le_self 1 h⟩

theorem alignmentOf_mem {N : Nearness V} {filter : List V → List V} (thinner : Thinner N filter)
    (points : List V) : (alignmentOf filter points : R) ∈ Set.Icc (0 : R) 1 := by
  refine ⟨thinner.alignmentOf_nonneg points, ?_⟩
  rw [alignmentOf]
  split
  · exact zero_le_one
  · rw [one_mul]
    exact sub_le_self 1 (div_nonneg (Nat.cast_nonneg _) (Nat.cast_nonneg _))

section
variable (grasps : GraspTask R G V) (results : Results R G V)

theorem success_mem : SuccessIndexCalculator.calculate grasps results ∈ Set.Icc (0 : R) 1 := by
  obtain ⟨v, hv, hbounds⟩ := success_isIndex grasps results
  rw [success_of_checked hv]
  exact hbounds

theorem coverage_mem (rw : RobWork R G V) (positionFilteringRadius angleFilteringRadius : R) :
    (CoverageIndexCalculator.calculate rw positionFilteringRadius angleFilteringRadius grasps
      results).1 ∈ Set.Icc (0 : R) 1 := by
  obtain ⟨v, hv, hbounds⟩ :=
    coverage_isIndex grasps results rw positionFilteringRadius angleFilteringRadius
  rw [coverage_of_checked hv]
  exact hbounds

variable {grasps results}

theorem significance_mem
    (h : ∃ target ∈ grasps.targets, (results target.result).testStatus ≠ .skip) :
    SignificanceIndexCalculator.calculate grasps results ∈ Set.Icc (0 : R) 1 := by
  obtain ⟨v, hv, hbounds⟩ := (significance_isIndex_iff grasps results).mpr h
  rw [significance_of_checked hv]
  exact hbounds

theorem averageWrench_mem {measure : ℕ} (h : ∀ target ∈ liftedTargets grasps results,
      (results target.result).qualityAfterLifting.get measure ∈ Set.Icc (0 : R) 1) :
    averageWrench measure grasps results ∈ Set.Icc (0 : R) 1 := by
  set wrenches := (liftedTargets grasps results).map fun target =>
    (results target.result).qualityAfterLifting.get measure with hwrenches
  have hmem : ∀ wrench ∈ wrenches, wrench ∈ Set.Icc (0 : R) 1 := by
    simpa [hwrenches] using h
  have hsum : wrenches.sum ≤ wrenches.length := by
    simpa using List.sum_le_card_nsmul wrenches 1 fun wrench hwrench => (hmem wrench hwrench).2
  have hvalue : averageWrench measure grasps results =
      if wrenches.length = 0 then 0 else wrenches.sum / (wrenches.length : R) := rfl
  rw [hvalue]
  split
  · exact ⟨le_rfl, zero_le_one⟩
  · exact ⟨div_nonneg (List.sum_nonneg fun wrench hwrench => (hmem wrench hwrench).1)
      (Nat.cast_nonneg _), div_le_one_of_le₀ hsum (Nat.cast_nonneg _)⟩

end

omit [IsStrictOrderedRing R] in
theorem le_maxStress [FloorRing R] (force max_stress : R) (mesh : TriMesh R) :
    max_stress ≤ StressIndexCalculator.maxStress force max_stress mesh := by
  rw [StressIndexCalculator.maxStress]
  induction StressIndexCalculator.positions mesh.length generalizing max_stress with
  | nil => exact le_rfl
  | cons x positions ih =>
    refine le_trans ?_ (ih _)
    dsimp only
    split
    · rename_i hlt
      exact hlt.le
    · exact le_rfl

theorem stress_mem [FloorRing R] {stressLimit : R} (h : 0 < stressLimit) (gripper : Gripper R) :
    StressIndexCalculator.calculate stressLimit gripper ∈ Set.Icc (0 : R) 1 := by
  have hstress := (le_maxStress (gripper.motorForceLimits.get 0) 0 gripper.leftFinger).trans
    (le_maxStress (gripper.motorForceLimits.get 0) _ gripper.rightFinger)
  exact cutOff_mem (div_nonneg (div_nonneg hstress (by norm_num)) h.le)

theorem volume_mem {volumeLimit : R} (h : 0 < volumeLimit) {gripper : Gripper R}
    (hleft : 0 ≤ gripper.leftFinger.volume) (hright : 0 ≤ gripper.rightFinger.volume) :
    VolumeIndexCalculator.calculate volumeLimit gripper ∈ Set.Icc (0 : R) 1 := by
  have hvolume :
      0 ≤ 1000000 * gripper.leftFinger.volume + 1000000 * gripper.rightFinger.volume := by
    positivity
  exact cutOff_mem (div_nonneg hvolume h.le)

theorem deviationAlignment_mem {spatial : Spatial R G V} (hspatial : LawfulSpatial spatial)
    {dev uncertainty : R} (hdev : 0 ≤ dev) (h : 0 < uncertainty) :
    VarianceAlignmentCalculator.deviationAlignment spatial dev uncertainty ∈
      Set.Icc (0 : R) 1 := by
  have hexpected : 0 ≤ 2 * uncertainty / spatial.sqrt 12 :=
    div_nonneg (mul_nonneg zero_le_two h.le) (hspatial.sqrt_pos 12 (by norm_num)).le
  exact cutOff_mem (div_nonneg hdev hexpected)

section
variable [Group G] [AddCommGroup V] [DistribMulAction G V] (rw : RobWork R G V)
  (grasps : GraspTask R G V) (results : Results R G V)

theorem alignment_mem (positionFilteringRadius angleFilteringRadius : R) :
    AlignmentIndexCalculator.calculate rw positionFilteringRadius angleFilteringRadius grasps
      results ∈ Set.Icc (0 : R) 1 := by
  have hfiltered (radius : R) (points : List V) :
      alignmentOf (AlignmentIndexCalculator.filterPoints rw.spatial rw.tree rw.sort radius)
        points ∈ Set.Icc (0 : R) 1 :=
    alignmentOf_mem (AlignmentIndexCalculator.thinner rw.spatial rw.tree rw.sort radius) points
  have haxis (axis : V) :=
    hfiltered angleFilteringRadius (getVersors axis (posesAfter grasps results))
  have hposition :=
    hfiltered positionFilteringRadius ((posesAfter grasps results).map Transform3D.P)
  obtain ⟨hp, hp'⟩ := hposition
  obtain ⟨hx, hx'⟩ := haxis rw.spatial.x
  obtain ⟨hy, hy'⟩ := haxis rw.spatial.y
  obtain ⟨hz, hz'⟩ := haxis rw.spatial.z
  simp only [AlignmentIndexCalculator.calculate, AlignmentIndexCalculator.getPositionAlignment,
    AlignmentIndexCalculator.getAxisAlignment]
  constructor <;> linarith

variable {rw}

theorem varianceAlignment_mem (hspatial : LawfulSpatial rw.spatial)
    {positionUncertainty angleUncertainty : R} (hposition : 0 < positionUncertainty)
    (hangle : 0 < angleUncertainty) :
    VarianceAlignmentCalculator.calculate rw positionUncertainty angleUncertainty grasps results ∈
      Set.Icc (0 : R) 1 := by
  have hstddev (f : Transform3D G V → R) :
      0 ≤ rw.spatial.sqrt (rw.spatial.variance ((posesAfter grasps results).map f)) :=
    hspatial.sqrt_nonneg _ (hspatial.variance_nonneg _)
  have hmean {x y z : R} (hx : 0 ≤ x) (hy : 0 ≤ y) (hz : 0 ≤ z) : 0 ≤ (x + y + z) / 3 := by
    positivity
  rw [VarianceAlignmentCalculator.calculate]
  split
  · exact ⟨le_rfl, zero_le_one⟩
  · obtain ⟨hp, hp'⟩ := deviationAlignment_mem hspatial
      (hmean (hstddev fun pose => rw.spatial.coord pose.P 0)
        (hstddev fun pose => rw.spatial.coord pose.P 1)
        (hstddev fun pose => rw.spatial.coord pose.P 2)) hposition
    obtain ⟨ha, ha'⟩ := deviationAlignment_mem hspatial
      (hmean (hstddev fun pose => rw.spatial.rpy pose.R 0)
        (hstddev fun pose => rw.spatial.rpy pose.R 1)
        (hstddev fun pose => rw.spatial.rpy pose.R 2)) hangle
    constructor <;> linarith

end

namespace QualityIndexCalculator

/-- What a calculator asks of its limits, of the gripper and of the grasps. -/
def Bounded (gripper : Gripper R) (grasps : GraspTask R G V) (results : Results R G V) :
    QualityIndexCalculator R → Prop
  | significance => ∃ target ∈ grasps.targets, (results target.result).testStatus ≠ .skip
  | wrench => ∀ target ∈ liftedTargets grasps results,
      (results target.result).qualityAfterLifting.get 1 ∈ Set.Icc (0 : R) 1
  | varianceAlignment positionUncertainty angleUncertainty =>
    0 < positionUncertainty ∧ 0 < angleUncertainty
  | stress stressLimit => 0 < stressLimit
  | volume volumeLimit =>
    0 < volumeLimit ∧ 0 ≤ gripper.leftFinger.volume ∧ 0 ≤ gripper.rightFinger.volume
  | _ => True

variable [FloorRing R] [Group G] [AddCommGroup V] [DistribMulAction G V] {rw : RobWork R G V}
  {gripper : Gripper R} {grasps : GraspTask R G V} {results : Results R G V}
  {calculator : QualityIndexCalculator R}

theorem calculate_mem (hspatial : LawfulSpatial rw.spatial)
    (h : calculator.Bounded gripper grasps results) :
    (calculator.calculate rw gripper grasps results).1 ∈ Set.Icc (0 : R) 1 := by
  cases calculator with
  | success => exact success_mem grasps results
  | robustness => exact ⟨le_rfl, zero_le_one⟩
  | significance => exact significance_mem h
  | coverage positionFilteringRadius angleFilteringRadius =>
    exact coverage_mem grasps results rw positionFilteringRadius angleFilteringRadius
  | wrench => exact averageWrench_mem h
  | alignment positionFilteringRadius angleFilteringRadius =>
    exact alignment_mem rw grasps results positionFilteringRadius angleFilteringRadius
  | varianceAlignment positionUncertainty angleUncertainty =>
    exact varianceAlignment_mem grasps results hspatial h.1 h.2
  | stress stressLimit => exact stress_mem h gripper
  | volume volumeLimit => exact volume_mem h.1 h.2.1 h.2.2

/-- What other calculators mark does not matter: a marked target is not skipped, and it is no
longer lifted. -/
theorem Bounded.calculate (h : calculator.Bounded gripper grasps results)
    (other : QualityIndexCalculator R) :
    calculator.Bounded gripper grasps (other.calculate rw gripper grasps results).2 := by
  rw [calculate_results]
  set marks := other.marks rw grasps results
  cases calculator with
  | significance =>
    obtain ⟨target, htarget, hstatus⟩ := h
    refine ⟨target, htarget, ?_⟩
    by_cases hmem : target.result ∈ marks
    · rw [Results.testStatus_mark_of_mem hmem]
      exact TestStatus.noConfusion
    · rwa [Results.mark_of_not_mem hmem]
  | wrench =>
    intro target htarget
    obtain ⟨hmem, hlifted⟩ := mem_liftedTargets.mp htarget
    by_cases hmarked : target.result ∈ marks
    · rw [Results.testStatus_mark_of_mem hmarked] at hlifted
      cases hlifted
    · rw [Results.mark_of_not_mem hmarked] at hlifted ⊢
      exact h target (mem_liftedTargets.mpr ⟨hmem, hlifted⟩)
  | _ => exact h

end QualityIndexCalculator

/-! ## The evaluator -/

namespace GripperEvaluator
variable [FloorRing R] [Group G] [AddCommGroup V] [DistribMulAction G V] {rw : RobWork R G V}
  {gripper : Gripper R} {grasps : GraspTask R G V}

/-- The loop keeps the indices between zero and one. -/
theorem foldl_mem (hspatial : LawfulSpatial rw.spatial)
    {calculators : List (String × QualityIndexCalculator R)}
    {acc : GripperQuality R × Results R G V}
    (h : ∀ keyCalculator ∈ calculators, keyCalculator.2.Bounded gripper grasps acc.2)
    (hacc : ∀ key value, acc.1.getIndex key = some value → value ∈ Set.Icc (0 : R) 1) (key : String)
    (value : R)
    (hvalue : (calculators.foldl (addIndex rw gripper grasps) acc).1.getIndex key = some value) :
    value ∈ Set.Icc (0 : R) 1 := by
  induction calculators generalizing acc with
  | nil => exact hacc key value hvalue
  | cons keyCalculator calculators ih =>
    obtain ⟨hhead, htail⟩ := List.forall_mem_cons.mp h
    refine @ih (addIndex rw gripper grasps acc keyCalculator) ?_ ?_ hvalue
    · intro other hother
      exact (htail other hother).calculate keyCalculator.2
    · intro key' value' hvalue'
      change (acc.1.setIndex keyCalculator.1 _).getIndex key' = some value' at hvalue'
      by_cases heq : key' = keyCalculator.1
      · rw [heq, GripperQuality.getIndex_setIndex_self] at hvalue'
        exact Option.some.inj hvalue' ▸ QualityIndexCalculator.calculate_mem hspatial hhead
      · rw [GripperQuality.getIndex_setIndex_of_ne _ _ heq] at hvalue'
        exact hacc key' value' hvalue'

omit [IsStrictOrderedRing R] in
/-- An index once set stays there, and each calculator sets its own. -/
theorem foldl_isSome {calculators : List (String × QualityIndexCalculator R)}
    {acc : GripperQuality R × Results R G V} {key : String} :
    ((calculators.foldl (addIndex rw gripper grasps) acc).1.getIndex key).isSome = true ↔
      key ∈ calculators.map Prod.fst ∨ (acc.1.getIndex key).isSome = true := by
  induction calculators generalizing acc with
  | nil => simp
  | cons keyCalculator calculators ih =>
    rw [List.foldl_cons, ih, List.map_cons, List.mem_cons]
    change _ ∨ ((acc.1.setIndex keyCalculator.1 _).getIndex key).isSome = true ↔ _
    by_cases heq : key = keyCalculator.1
    · rw [heq, GripperQuality.getIndex_setIndex_self]
      exact iff_of_true (Or.inr rfl) (Or.inl (Or.inl rfl))
    · rw [GripperQuality.getIndex_setIndex_of_ne _ _ heq]
      simp [heq]

omit [IsStrictOrderedRing R] in
/-- Names are extracted exactly when each has a calculator. -/
theorem extract_evaluate_isSome {evaluator : GripperEvaluator R} {results : Results R G V}
    {names : List String} :
    (IndexGripperQualityExtractor.extract names
        (evaluator.evaluate rw gripper grasps results).1).isSome = true ↔
      ∀ name ∈ names, name ∈ evaluator.getIndexKeys := by
  rw [IndexGripperQualityExtractor.extract_isSome]
  refine forall₂_congr fun name _ => foldl_isSome.trans (or_iff_left ?_)
  exact Bool.false_ne_true

/-- The indices of an evaluation are between zero and one. -/
theorem extract_evaluate_mem (hspatial : LawfulSpatial rw.spatial)
    {evaluator : GripperEvaluator R} {results : Results R G V}
    (h : ∀ keyCalculator ∈ evaluator.calculators, keyCalculator.2.Bounded gripper grasps results)
    {names : List String} {objectives : List R}
    (hextract : IndexGripperQualityExtractor.extract names
      (evaluator.evaluate rw gripper grasps results).1 = some objectives) :
    ∀ objective ∈ objectives, objective ∈ Set.Icc (0 : R) 1 := by
  intro objective hobjective
  obtain ⟨name, -, hname⟩ := IndexGripperQualityExtractor.mem_extract hextract hobjective
  refine foldl_mem hspatial h ?_ name objective hname
  intro key value hvalue
  cases hvalue

end GripperEvaluator

/-! ## The overall quality -/

/-- A value that objectives with weights combine to. It is one only if every objective with a
weight is one, and if it is not the sum, it is zero as soon as one of these is zero. -/
structure Overall (combiner : CombineObjectives ℝ) (objectives : List ℝ) (q : ℝ) : Prop where
  mem : q ∈ Set.Icc (0 : ℝ) 1
  eq_one_iff : q = 1 ↔
    ∀ weighted ∈ combiner.weights.zip objectives, 0 < weighted.1 → weighted.2 = 1
  eq_zero_iff : combiner.method ≠ .sum →
    (q = 0 ↔ ∃ weighted ∈ combiner.weights.zip objectives, 0 < weighted.1 ∧ weighted.2 = 0)

open CombineObjectives

section
variable {weights objectives : List ℝ}

/-- The weights and the objectives by position. -/
theorem mem_zip_iff (hlength : objectives.length = weights.length) {weighted : ℝ × ℝ} :
    weighted ∈ weights.zip objectives ↔
      ∃ i ∈ Finset.range objectives.length, (weights.getD i 0, objectives.getD i 0) = weighted := by
  rw [List.mem_iff_getElem]
  constructor
  · rintro ⟨i, hi, rfl⟩
    have hi' : i < objectives.length := by
      rw [List.length_zip, ← hlength, Nat.min_self] at hi
      exact hi
    refine ⟨i, Finset.mem_range.mpr hi', ?_⟩
    rw [List.getElem_zip, List.getD_eq_getElem _ _ hi', List.getD_eq_getElem _ _ (hlength ▸ hi')]
  · rintro ⟨i, hi, rfl⟩
    have hi' := Finset.mem_range.mp hi
    refine ⟨i, by rwa [List.length_zip, ← hlength, Nat.min_self], ?_⟩
    rw [List.getElem_zip, List.getD_eq_getElem _ _ hi', List.getD_eq_getElem _ _ (hlength ▸ hi')]

variable (hlength : objectives.length = weights.length) (hweights : ∀ w ∈ weights, 0 ≤ w)
  (hsum : 0 < weights.sum) (hobjectives : ∀ objective ∈ objectives, objective ∈ Set.Icc (0 : ℝ) 1)
include hlength hweights hsum hobjectives

theorem overall_combineSum :
    Overall ⟨.sum, weights⟩ objectives (combineSum weights objectives) := by
  have hw : ∀ i ∈ Finset.range objectives.length, 0 ≤ weights.getD i 0 := fun i hi =>
    hweights _ (getD_mem (hlength ▸ hi))
  have hz : ∀ i ∈ Finset.range objectives.length, objectives.getD i 0 ∈ Set.Icc (0 : ℝ) 1 :=
    fun i hi => hobjectives _ (getD_mem hi)
  have htotal : 0 < ∑ i ∈ Finset.range objectives.length, weights.getD i 0 := by
    rwa [hlength, sum_getD]
  rw [combineSum_eq]
  refine ⟨⟨?_, arith_mean_le (fun i hi => (hz i hi).2) hw htotal⟩, ?_, fun hne => absurd rfl hne⟩
  · exact div_nonneg (Finset.sum_nonneg fun i hi => mul_nonneg (hw i hi) (hz i hi).1) htotal.le
  · rw [arith_mean_eq_one_iff (fun i hi => (hz i hi).2) hw htotal]
    simp only [mem_zip_iff hlength]
    exact ⟨fun h _ ⟨i, hi, heq⟩ => heq ▸ h i hi, fun h i hi => h _ ⟨i, hi, rfl⟩⟩

theorem overall_combineProduct {method : CombiningMethod} :
    Overall ⟨method, weights⟩ objectives (combineProduct Powers.real weights objectives) := by
  have hw : ∀ i ∈ Finset.range objectives.length, 0 ≤ weights.getD i 0 := fun i hi =>
    hweights _ (getD_mem (hlength ▸ hi))
  have hz : ∀ i ∈ Finset.range objectives.length, objectives.getD i 0 ∈ Set.Icc (0 : ℝ) 1 :=
    fun i hi => hobjectives _ (getD_mem hi)
  have htotal : 0 < ∑ i ∈ Finset.range objectives.length, weights.getD i 0 := by
    rwa [hlength, sum_getD]
  have hmean : combineProduct Powers.real weights objectives ≤ combineSum weights objectives := by
    rw [combineProduct_eq, combineSum_eq, one_div]
    exact Real.geom_mean_le_arith_mean _ _ _ hw htotal fun i hi => (hz i hi).1
  have hle := hmean.trans (overall_combineSum hlength hweights hsum hobjectives).mem.2
  rw [combineProduct_eq] at hle ⊢
  refine ⟨⟨?_, hle⟩, ?_, fun _ => ?_⟩
  · exact Real.rpow_nonneg (Finset.prod_nonneg fun i hi => Real.rpow_nonneg (hz i hi).1 _) _
  · rw [geom_mean_eq_one_iff (fun i hi => (hz i hi).1) (fun i hi => (hz i hi).2) hw htotal]
    simp only [mem_zip_iff hlength]
    exact ⟨fun h _ ⟨i, hi, heq⟩ => heq ▸ h i hi, fun h i hi => h _ ⟨i, hi, rfl⟩⟩
  · rw [geom_mean_eq_zero_iff (fun i hi => (hz i hi).1) hw htotal]
    simp only [mem_zip_iff hlength]
    constructor
    · rintro ⟨i, hi, h⟩
      exact ⟨_, ⟨i, hi, rfl⟩, h⟩
    · rintro ⟨_, ⟨i, hi, rfl⟩, h⟩
      exact ⟨i, hi, h⟩

end

/-- Logarithms are taken of positive objectives only. -/
theorem exists_overall {combiner : CombineObjectives ℝ} {objectives : List ℝ}
    (hlength : objectives.length = combiner.weights.length)
    (hweights : ∀ w ∈ combiner.weights, 0 ≤ w) (hsum : 0 < combiner.weights.sum)
    (hobjectives : ∀ objective ∈ objectives, objective ∈ Set.Icc (0 : ℝ) 1)
    (hlog : combiner.method = .log → ∀ objective ∈ objectives, objective ≠ 0) :
    ∃ q, combiner.combine Powers.real objectives = .ok q ∧ Overall combiner objectives q := by
  obtain ⟨method, weights⟩ := combiner
  refine ⟨_, combine_eq objectives hlength, ?_⟩
  cases method with
  | sum => exact overall_combineSum hlength hweights hsum hobjectives
  | product => exact overall_combineProduct hlength hweights hsum hobjectives
  | log =>
    have hpos : ∀ i ∈ Finset.range objectives.length, 0 < objectives.getD i 0 := fun i hi =>
      (hobjectives _ (getD_mem hi)).1.lt_of_ne (hlog rfl _ (getD_mem hi)).symm
    simp only [combineLog_eq weights objectives hpos]
    exact overall_combineProduct hlength hweights hsum hobjectives

end Gripperz.Evaluation
