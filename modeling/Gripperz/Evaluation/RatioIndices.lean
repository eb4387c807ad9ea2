import Mathlib.Tactic.Positivity
import Gripperz.Evaluation.CoverageRatio

/-! # Indices that are ratios

The calculators once more, with divisions that fail when they are by zero.
-/
namespace Gripperz.Evaluation
open Math Library Grasps

variable {R G V : Type} [Field R] [LinearOrder R]

/-- A division, unless it is by zero. -/
def divide (a b : R) : Option R := if b = 0 then none else some (a / b)

theorem divide_of_ne {a b : R} (h : b ≠ 0) : divide a b = some (a / b) := if_neg h

theorem divide_zero (a : R) : divide a 0 = none := if_pos rfl

theorem divide_eq_some {a b v : R} (h : divide a b = some v) : a / b = v := by
  by_cases hb : b = 0
  · rw [hb, divide_zero] at h
    cases h
  · rw [divide_of_ne hb] at h
    exact Option.some.inj h

/-! ## The calculators -/

namespace SuccessIndexCalculator

def calculateChecked (grasps : GraspTask R G V) (results : Results R G V) : Option R :=
  let nAllTargets := GraspStatistics.countGraspTargets grasps
  let successes := GraspStatistics.countGraspsWithStatus grasps results .success
  let filtered := GraspStatistics.countGraspsWithStatus grasps results .filtered
  let failures := GraspStatistics.countGraspsWithStatus grasps results .simulationFailure
  let samples := GraspStatistics.countGraspsWithStatus grasps results .skip
  let validTasks : R := (nAllTargets - filtered - failures - samples : ℤ)
  if validTasks = 0 then some 0 else divide (1 * successes) validTasks

end SuccessIndexCalculator

namespace SignificanceIndexCalculator

def calculateChecked (grasps : GraspTask R G V) (results : Results R G V) : Option R :=
  let all_tasks := GraspStatistics.countGraspTargets grasps -
    GraspStatistics.countGraspsWithStatus grasps results .skip
  let successes := GraspStatistics.countGraspsWithStatus grasps results .success
  let interferences := GraspStatistics.countGraspsWithStatus grasps results .interference
  let valid_tasks : R := (successes + interferences : ℤ)
  divide (1 * valid_tasks) all_tasks

end SignificanceIndexCalculator

namespace CoverageIndexCalculator

def calculateChecked (rw : RobWork R G V) (positionFilteringRadius angleFilteringRadius : R)
    (grasps : GraspTask R G V) (results : Results R G V) : Option R :=
  let diff := filteringBox rw.spatial positionFilteringRadius angleFilteringRadius
  let targets := GraspStatusFilter.filter [.success, .interference] grasps results
  let coverageTargets := KDGraspFilter.filter rw.spatial rw.tree diff targets.1 targets.2
  let coverageSamples := KDGraspFilter.filter rw.spatial rw.tree diff grasps coverageTargets.2
  let okTargets := GraspStatistics.countGraspTargets coverageTargets.1
  let allTargets := GraspStatistics.countGraspTargets coverageSamples.1
  if allTargets = 0 then some 0 else divide (1 * okTargets) (allTargets * 1)

end CoverageIndexCalculator

namespace AllPosesAlignment
variable [Group G] [AddCommGroup V] [DistribMulAction G V]

/-- How far each lifted object has turned, by the metric of rotations. -/
def turns (distance : G → G → R) (tasks : GraspTask R G V) (results : Results R G V) : List R :=
  (liftedTargets tasks results).map fun target =>
    let poseApproach := (results target.result).objectTtcpApproach⁻¹
    let poseLift := (results target.result).objectTtcpLift⁻¹
    distance poseApproach.R poseLift.R

def calculateChecked (sqrt : R → R) (distance : G → G → R) (tasks : GraspTask R G V)
    (results : Results R G V) : Option R := do
  let t_diffs := turns distance tasks results
  let avg_diff : R ← divide (t_diffs.foldl (fun avg_diff diff => avg_diff + diff) 0)
    (t_diffs.length : R)
  let var_diff := t_diffs.foldl (fun var_diff diff =>
    let var := diff - avg_diff
    var_diff + var * var) 0
  divide (sqrt var_diff) (t_diffs.length : R)

end AllPosesAlignment

/-! A value that is calculated is that of the plain calculator. -/

theorem success_of_checked {grasps : GraspTask R G V} {results : Results R G V} {v : R}
    (h : SuccessIndexCalculator.calculateChecked grasps results = some v) :
    SuccessIndexCalculator.calculate grasps results = v := by
  simp only [SuccessIndexCalculator.calculateChecked] at h
  simp only [SuccessIndexCalculator.calculate, successRatio]
  split_ifs at h ⊢
  · exact Option.some.inj h
  · exact divide_eq_some h

theorem significance_of_checked {grasps : GraspTask R G V} {results : Results R G V} {v : R}
    (h : SignificanceIndexCalculator.calculateChecked grasps results = some v) :
    SignificanceIndexCalculator.calculate grasps results = v := divide_eq_some h

theorem coverage_of_checked {rw : RobWork R G V} {positionRadius angleRadius : R}
    {grasps : GraspTask R G V} {results : Results R G V} {v : R}
    (h : CoverageIndexCalculator.calculateChecked rw positionRadius angleRadius grasps results =
      some v) :
    (CoverageIndexCalculator.calculate rw positionRadius angleRadius grasps results).1 = v := by
  simp only [CoverageIndexCalculator.calculateChecked] at h
  simp only [CoverageIndexCalculator.calculate, coverageRatio]
  split_ifs at h ⊢
  · exact Option.some.inj h
  · exact divide_eq_some h

/-! ## Where they divide -/

section
variable [IsStrictOrderedRing R]

/-- A value, between zero and one. -/
def IsIndex (value : Option R) : Prop := ∃ v, value = some v ∧ 0 ≤ v ∧ v ≤ 1

omit [IsStrictOrderedRing R] in
theorem not_isIndex_none : ¬ IsIndex (none : Option R) := by
  rintro ⟨v, hv, -⟩
  cases hv

theorem isIndex_divide {a b : ℤ} (h0 : 0 ≤ a) (h : a ≤ b) :
    IsIndex (divide (a : R) b) ↔ b ≠ 0 := by
  by_cases hb : b = 0
  · rw [hb, Int.cast_zero, divide_zero]
    exact iff_of_false not_isIndex_none fun hne => hne rfl
  · have hcast : (b : R) ≠ 0 := by exact_mod_cast hb
    rw [divide_of_ne hcast]
    refine iff_of_true ⟨_, rfl, ?_, ?_⟩ hb
    · exact div_nonneg (by exact_mod_cast h0) (by exact_mod_cast h0.trans h)
    · exact div_le_one_of_le₀ (by exact_mod_cast h) (by exact_mod_cast h0.trans h)

omit [Field R] [LinearOrder R] [IsStrictOrderedRing R] in
theorem countGraspsWithStatus_nonneg (grasps : GraspTask R G V) (results : Results R G V)
    (status : TestStatus) : 0 ≤ GraspStatistics.countGraspsWithStatus grasps results status :=
  Int.natCast_nonneg _

/-- A target has one status only. -/
theorem countP_add_le {α : Type} (status : α → TestStatus) (l : List α) :
    l.countP (fun a => status a = .success) + l.countP (fun a => status a = .interference) +
      l.countP (fun a => status a = .filtered) +
      l.countP (fun a => status a = .simulationFailure) +
      l.countP (fun a => status a = .skip) ≤ l.length := by
  induction l with
  | nil => simp
  | cons a l ih =>
    simp only [List.countP_cons, List.length_cons]
    cases status a <;> simp <;> omega

variable (grasps : GraspTask R G V) (results : Results R G V)

omit [Field R] [LinearOrder R] [IsStrictOrderedRing R] in
theorem counts_le :
    GraspStatistics.countGraspsWithStatus grasps results .success +
      GraspStatistics.countGraspsWithStatus grasps results .interference +
      GraspStatistics.countGraspsWithStatus grasps results .filtered +
      GraspStatistics.countGraspsWithStatus grasps results .simulationFailure +
      GraspStatistics.countGraspsWithStatus grasps results .skip ≤
    GraspStatistics.countGraspTargets grasps := by
  have h := countP_add_le (fun target => (results target.result).testStatus) grasps.targets
  simp only [GraspStatistics.countGraspsWithStatus, GraspStatistics.countGraspTargets]
  exact_mod_cast h

theorem success_isIndex : IsIndex (SuccessIndexCalculator.calculateChecked grasps results) := by
  have hcounts := counts_le grasps results
  have hinterference := countGraspsWithStatus_nonneg grasps results .interference
  simp only [SuccessIndexCalculator.calculateChecked, one_mul]
  split_ifs with hnone
  · exact ⟨0, rfl, le_refl 0, zero_le_one⟩
  · apply (isIndex_divide (countGraspsWithStatus_nonneg grasps results .success) (by omega)).mpr
    exact_mod_cast hnone

theorem coverage_isIndex (rw : RobWork R G V) (positionFilteringRadius angleFilteringRadius : R) :
    IsIndex (CoverageIndexCalculator.calculateChecked rw positionFilteringRadius
      angleFilteringRadius grasps results) := by
  have hle : (liftedTargets grasps results).length ≤ grasps.targets.length :=
    List.length_filter_le _ _
  simp only [CoverageIndexCalculator.calculateChecked, KDGraspFilter.filter_eq,
    GraspStatistics.countGraspTargets, targets_statusFilter, one_mul, mul_one]
  split_ifs with hnone
  · exact ⟨0, rfl, le_refl 0, zero_le_one⟩
  · exact (isIndex_divide (Int.natCast_nonneg _) (by exact_mod_cast hle)).mpr hnone

theorem significance_isIndex_iff :
    IsIndex (SignificanceIndexCalculator.calculateChecked grasps results) ↔
      ∃ target ∈ grasps.targets, (results target.result).testStatus ≠ .skip := by
  have hcounts := counts_le grasps results
  have hfiltered := countGraspsWithStatus_nonneg grasps results .filtered
  have hfailures := countGraspsWithStatus_nonneg grasps results .simulationFailure
  have hsuccess := countGraspsWithStatus_nonneg grasps results .success
  have hinterference := countGraspsWithStatus_nonneg grasps results .interference
  have hskip : GraspStatistics.countGraspTargets grasps -
      GraspStatistics.countGraspsWithStatus grasps results .skip = 0 ↔
        ∀ target ∈ grasps.targets, (results target.result).testStatus = .skip := by
    rw [sub_eq_zero, GraspStatistics.countGraspTargets, GraspStatistics.countGraspsWithStatus,
      Nat.cast_inj, eq_comm, List.countP_eq_length]
    simp
  simp only [SignificanceIndexCalculator.calculateChecked, one_mul]
  rw [isIndex_divide (by omega) (by omega), ne_eq, hskip]
  push Not
  exact Iff.rfl

variable [Group G] [AddCommGroup V] [DistribMulAction G V]

theorem alignment_defined_iff (sqrt : R → R) (distance : G → G → R) :
    (∃ v, AllPosesAlignment.calculateChecked sqrt distance grasps results = some v) ↔
      ∃ target ∈ grasps.targets, isLifted (results target.result).testStatus = true := by
  have hlength : ((AllPosesAlignment.turns distance grasps results).length : R) = 0 ↔
      liftedTargets grasps results = [] := by
    rw [Nat.cast_eq_zero, AllPosesAlignment.turns, List.length_map, List.length_eq_zero_iff]
  have hlifted : liftedTargets grasps results ≠ [] ↔
      ∃ target ∈ grasps.targets, isLifted (results target.result).testStatus = true := by
    constructor
    · intro hne
      obtain ⟨target, h⟩ := List.exists_mem_of_ne_nil _ hne
      exact ⟨target, mem_liftedTargets.mp h⟩
    · rintro ⟨target, h⟩
      exact List.ne_nil_of_mem (mem_liftedTargets.mpr h)
  rw [← hlifted]
  simp only [AllPosesAlignment.calculateChecked]
  by_cases hnone : liftedTargets grasps results = []
  · rw [hlength.mpr hnone, divide_zero]
    exact iff_of_false (by simp) fun hne => hne hnone
  · have hne := mt hlength.mp hnone
    rw [divide_of_ne hne]
    exact iff_of_true ⟨_, divide_of_ne hne⟩ hnone

/-- All four ratios are defined exactly when some grasp has been lifted. -/
theorem ratios_iff (rw : RobWork R G V) (positionFilteringRadius angleFilteringRadius : R)
    (sqrt : R → R) (distance : G → G → R) :
    ((IsIndex (SuccessIndexCalculator.calculateChecked grasps results) ∧
      IsIndex (SignificanceIndexCalculator.calculateChecked grasps results) ∧
      IsIndex (CoverageIndexCalculator.calculateChecked rw positionFilteringRadius
        angleFilteringRadius grasps results) ∧
      ∃ v, AllPosesAlignment.calculateChecked sqrt distance grasps results = some v) ↔
        ∃ target ∈ grasps.targets, isLifted (results target.result).testStatus = true) ∧
    IsIndex (SuccessIndexCalculator.calculateChecked grasps results) ∧
    IsIndex (CoverageIndexCalculator.calculateChecked rw positionFilteringRadius
      angleFilteringRadius grasps results) ∧
    (IsIndex (SignificanceIndexCalculator.calculateChecked grasps results) ↔
      ∃ target ∈ grasps.targets, (results target.result).testStatus ≠ .skip) := by
  have hsuccess := success_isIndex grasps results
  have hcoverage := coverage_isIndex grasps results rw positionFilteringRadius
    angleFilteringRadius
  have hsignificance := significance_isIndex_iff grasps results
  refine ⟨?_, hsuccess, hcoverage, hsignificance⟩
  rw [alignment_defined_iff]
  constructor
  · intro h
    exact h.2.2.2
  · rintro ⟨target, htarget, hlifted⟩
    have hskip : (results target.result).testStatus ≠ .skip := by
      intro hskip
      rw [hskip] at hlifted
      cases hlifted
    exact ⟨hsuccess, hsignificance.mpr ⟨target, htarget, hskip⟩, hcoverage, target, htarget,
      hlifted⟩

end

/-! ## Grasp sets -/

open GripperEvaluator

def skipped : Results ℚ ℤˣ ℚ :=
  fun ptr => { Sample.success ptr with testStatus := .skip }

/-- With every target skipped the significance is nought by nought. -/
theorem not_ratios :
    ¬ (IsIndex (SuccessIndexCalculator.calculateChecked (Sample.grasps 1) skipped) ∧
      IsIndex (SignificanceIndexCalculator.calculateChecked (Sample.grasps 1) skipped) ∧
      IsIndex (CoverageIndexCalculator.calculateChecked Sample.robWork 1 0 (Sample.grasps 1)
        skipped) ∧
      ∃ v, AllPosesAlignment.calculateChecked Sample.spatial.sqrt (fun _ _ => 0)
        (Sample.grasps 1) skipped = some v) := by
  rintro ⟨-, h, -⟩
  obtain ⟨target, htarget, hskip⟩ := (significance_isIndex_iff (Sample.grasps 1) skipped).mp h
  exact hskip rfl

theorem ratios_iff_lifted :
    IsIndex (SuccessIndexCalculator.calculateChecked (Sample.grasps 1) Sample.success) ∧
      IsIndex (SignificanceIndexCalculator.calculateChecked (Sample.grasps 1) Sample.success) ∧
      IsIndex (CoverageIndexCalculator.calculateChecked Sample.robWork 1 0 (Sample.grasps 1)
        Sample.success) ∧
      ∃ v, AllPosesAlignment.calculateChecked Sample.spatial.sqrt (fun _ _ => 0)
        (Sample.grasps 1) Sample.success = some v :=
  (ratios_iff (Sample.grasps 1) Sample.success Sample.robWork 1 0 Sample.spatial.sqrt
    fun _ _ => 0).1.mpr ⟨⟨⟨1, 0⟩, 0⟩, by decide, rfl⟩

end Gripperz.Evaluation
