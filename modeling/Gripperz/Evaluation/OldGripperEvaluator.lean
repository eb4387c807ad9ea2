import Gripperz.Evaluation.Coverage

/-! # The old gripper evaluator

All indices of a gripper of the old class in one go. The wrench is calculated after the
coverage, on the results it has marked.
-/
namespace Gripperz.Evaluation
open Math Library Grasps Models KDGraspFilter

variable {Gr R G V : Type} [Field R] [LinearOrder R]

/-- What the evaluator reads of the task description and of grippers. -/
structure OldGripperEvaluator (Gr R : Type) where
  coverageDistance : Q R
  stressLimit : R
  volumeLimit : R
  alignmentFilteringDistance : R
  getMaxStress : Gr → R
  getVolume : Gr → R

namespace OldGripperEvaluator

def calculateSuccess (grasps : GraspTask R G V) (results : Results R G V) : R :=
  successRatio grasps results

def calculateRobustness (rgrasps : Option (GraspTask R G V)) (results : Results R G V) : R :=
  match rgrasps with
  | none => 1
  | some rgrasps =>
    let nAllTargets := GraspStatistics.countGraspTargets rgrasps
    let successes := GraspStatistics.countGraspsWithStatus rgrasps results .success
    if nAllTargets = 0 then 0 else 1 * successes / nAllTargets

/-- The box of the coverage filter: the angle of the axes is the second distance. -/
def filteringBox (spatial : Spatial R G V) (evaluator : OldGripperEvaluator Gr R) : Q R :=
  let covDist := evaluator.coverageDistance
  let r := 2 * spatial.sin (1 / 4 * covDist.get 1)
  ⟨[covDist.get 0, covDist.get 0, covDist.get 0, r, r, r, covDist.get 2]⟩

def calculateCoverage (rw : RobWork R G V) (evaluator : OldGripperEvaluator Gr R)
    (grasps : GraspTask R G V) (results : Results R G V) : R × Results R G V :=
  coverageRatio rw (evaluator.filteringBox rw.spatial) grasps results

def calculateWrench (grasps : GraspTask R G V) (results : Results R G V) : R :=
  averageWrench 0 grasps results

def calculateStress (evaluator : OldGripperEvaluator Gr R) (gripper : Gr) : R :=
  let stress := 1 - evaluator.getMaxStress gripper / evaluator.stressLimit
  if stress < 0 then 0 else stress

def calculateVolume (evaluator : OldGripperEvaluator Gr R) (gripper : Gr) : R :=
  let volumeIndex := 1 - evaluator.getVolume gripper / evaluator.volumeLimit
  if volumeIndex < 0 then 0 else volumeIndex

variable [Group G] [AddCommGroup V] [DistribMulAction G V]

/-- `TaskDescription::getAlignmentCalculator` gives a clustering one. -/
def calculateAlignment (rw : RobWork R G V) (evaluator : OldGripperEvaluator Gr R)
    (tasks : GraspTask R G V) (results : Results R G V) : R :=
  ClusteringAlignment.calculateAlignment rw.spatial rw.tree evaluator.alignmentFilteringDistance
    tasks results

def evaluate (rw : RobWork R G V) (evaluator : OldGripperEvaluator Gr R) (gripper : Gr)
    (grasps : GraspTask R G V) (results : Results R G V) : GripperQuality R × Results R G V :=
  let quality := GripperQuality.makeGripperQuality
  let quality := quality.setIndex "success" (calculateSuccess grasps results)
  let quality := quality.setIndex "robustness" (calculateRobustness none results)
  let quality := quality.setIndex "alignment" (evaluator.calculateAlignment rw grasps results)
  let coverage := evaluator.calculateCoverage rw grasps results
  let quality := quality.setIndex "coverage" coverage.1
  let quality := quality.setIndex "wrench" (calculateWrench grasps coverage.2)
  let quality := quality.setIndex "stress" (evaluator.calculateStress gripper)
  (quality.setIndex "volume" (evaluator.calculateVolume gripper), coverage.2)

/-! ## What an evaluation does -/

variable [IsStrictOrderedRing R] (rw : RobWork R G V) (evaluator : OldGripperEvaluator Gr R)
  (gripper : Gr) (grasps : GraspTask R G V) (results : Results R G V)

theorem evaluate_results : (evaluator.evaluate rw gripper grasps results).2 =
    results.mark .filtered
      (covered rw.spatial (evaluator.filteringBox rw.spatial) grasps results) :=
  coverageRatio_results _ rw grasps results

/-- Without close targets to thin out the results are left as they are. -/
theorem evaluate_of_sparse
    (h : Sparse rw.spatial (evaluator.filteringBox rw.spatial) grasps results) :
    (evaluator.evaluate rw gripper grasps results).2 = results := by
  rw [evaluate_results, covered_eq_iff.mpr h, Results.mark_of_subset (Set.Subset.refl _)]

theorem coverage_evaluate :
    (evaluator.evaluate rw gripper grasps results).1.getIndex "coverage" =
      some ((liftedTargets grasps results).length / grasps.targets.length : R) := by
  rw [← coverageRatio_value (evaluator.filteringBox rw.spatial) rw grasps results]
  simp [evaluate, GripperQuality.setIndex, GripperQuality.getIndex, calculateCoverage]

variable {grasps results} in
/-- The quality is read off the results of the targets, where no close ones are thinned out. -/
theorem evaluate_congr {results' : Results R G V}
    (sparse : Sparse rw.spatial (evaluator.filteringBox rw.spatial) grasps results)
    (sparse' : Sparse rw.spatial (evaluator.filteringBox rw.spatial) grasps results')
    (h : ∀ target ∈ grasps.targets, results target.result = results' target.result) :
    (evaluator.evaluate rw gripper grasps results).1 =
      (evaluator.evaluate rw gripper grasps results').1 := by
  have hkept : (evaluator.calculateCoverage rw grasps results).2 = results :=
    evaluate_of_sparse rw evaluator gripper grasps results sparse
  have hkept' : (evaluator.calculateCoverage rw grasps results').2 = results' :=
    evaluate_of_sparse rw evaluator gripper grasps results' sparse'
  have hcount (status : TestStatus) :
      GraspStatistics.countGraspsWithStatus grasps results status =
        GraspStatistics.countGraspsWithStatus grasps results' status := by
    unfold GraspStatistics.countGraspsWithStatus
    congr 1
    exact List.countP_congr fun target htarget => by rw [h target htarget]
  have hlifted : liftedTargets grasps results = liftedTargets grasps results' :=
    List.filter_congr fun target htarget => by rw [h target htarget]
  have hposes : posesAfter grasps results = posesAfter grasps results' := by
    unfold posesAfter
    rw [hlifted]
    exact List.map_congr_left fun target htarget => by
      rw [h target (mem_liftedTargets.mp htarget).1]
  have hsuccess : (calculateSuccess grasps results : R) = calculateSuccess grasps results' := by
    simp only [calculateSuccess, successRatio, hcount]
  have halignment : evaluator.calculateAlignment rw grasps results =
      evaluator.calculateAlignment rw grasps results' := by
    simp only [calculateAlignment, ClusteringAlignment.calculateAlignment, hposes]
  have hcoverage : (evaluator.calculateCoverage rw grasps results).1 =
      (evaluator.calculateCoverage rw grasps results').1 := by
    rw [calculateCoverage, calculateCoverage, coverageRatio_value, coverageRatio_value, hlifted]
  have hwrench : (calculateWrench grasps results : R) = calculateWrench grasps results' := by
    have hmeasures : ((liftedTargets grasps results').map fun target =>
        (results target.result).qualityAfterLifting.get 0) =
        (liftedTargets grasps results').map fun target =>
          (results' target.result).qualityAfterLifting.get 0 :=
      List.map_congr_left fun target htarget => by rw [h target (mem_liftedTargets.mp htarget).1]
    simp only [calculateWrench, averageWrench, hlifted, hmeasures]
  simp only [evaluate, hkept, hkept', hsuccess, halignment, hcoverage, hwrench]
  rfl

/-- A gripper none of whose targets has been simulated has the quality of its geometry. -/
def idleQuality : GripperQuality R :=
  ((((((GripperQuality.makeGripperQuality.setIndex "success" 0).setIndex "robustness" 1).setIndex
    "alignment" 0).setIndex "coverage" 0).setIndex "wrench" 0).setIndex
      "stress" (evaluator.calculateStress gripper)).setIndex
        "volume" (evaluator.calculateVolume gripper)

omit [Field R] [LinearOrder R] [Group G] [AddCommGroup V] [DistribMulAction G V]
  [IsStrictOrderedRing R] in
theorem liftedTargets_of_skipped {grasps : GraspTask R G V} {results : Results R G V}
    (h : ∀ target ∈ grasps.targets, (results target.result).testStatus = .skip) :
    liftedTargets grasps results = [] := by
  rw [liftedTargets, List.filter_eq_nil_iff]
  intro target htarget
  simp [h target htarget, isLifted]

omit [Field R] [LinearOrder R] [Group G] [AddCommGroup V] [DistribMulAction G V]
  [IsStrictOrderedRing R] in
theorem candidates_of_skipped {grasps : GraspTask R G V} {results : Results R G V}
    (h : ∀ target ∈ grasps.targets, (results target.result).testStatus = .skip) :
    candidates grasps results = [] := by
  rw [candidates, List.filter_eq_nil_iff]
  intro target htarget
  simp [h target htarget, isCandidate]

theorem evaluate_of_skipped
    (h : ∀ target ∈ grasps.targets, (results target.result).testStatus = .skip) :
    evaluator.evaluate rw gripper grasps results = (evaluator.idleQuality gripper, results) := by
  have hlifted : liftedTargets grasps results = [] := liftedTargets_of_skipped h
  have hsparse : Sparse rw.spatial (evaluator.filteringBox rw.spatial) grasps results := by
    intro p hp
    rw [candidates_of_skipped h] at hp
    cases hp
  have hresults := evaluate_of_sparse rw evaluator gripper grasps results hsparse
  have hsuccess : (calculateSuccess grasps results : R) = 0 := by
    have hnone : GraspStatistics.countGraspsWithStatus grasps results .success = 0 := by
      rw [GraspStatistics.countGraspsWithStatus, Nat.cast_eq_zero, List.countP_eq_zero]
      intro target htarget
      simp [h target htarget]
    simp [calculateSuccess, successRatio, hnone]
  have halignment : evaluator.calculateAlignment rw grasps results = 0 := by
    simp [calculateAlignment, ClusteringAlignment.calculateAlignment,
      ClusteringAlignment.getAxisAlignment1, posesAfter, hlifted, getVersors, alignmentOf]
  have hcoverage : (evaluator.calculateCoverage rw grasps results).1 = 0 := by
    rw [calculateCoverage, coverageRatio_value, hlifted]
    simp
  have hwrench :
      (calculateWrench grasps (evaluator.calculateCoverage rw grasps results).2 : R) = 0 := by
    have hsame : (evaluator.calculateCoverage rw grasps results).2 = results := hresults
    rw [hsame]
    simp [calculateWrench, averageWrench, hlifted]
  apply Prod.ext _ hresults
  simp only [evaluate, hsuccess, halignment, hcoverage, hwrench]
  rfl

end OldGripperEvaluator
end Gripperz.Evaluation
