import Mathlib.Algebra.Module.Rat
import Mathlib.Data.Rat.Floor
import Gripperz.Evaluation.Coverage

/-! # The gripper evaluator

The evaluator asks its calculators one after the other about the same grasps. Their values
do not depend on each other as long as none of them marks a result.
-/
namespace Gripperz.Evaluation
open Math Library Grasps Gripperz.Geometry Models KDGraspFilter

variable {R G V : Type} [Field R] [LinearOrder R] [FloorRing R] [Group G] [AddCommGroup V]
  [DistribMulAction G V]

/-- The calculators with their keys, in the order in which they were added. -/
structure GripperEvaluator (R : Type) where
  calculators : List (String × QualityIndexCalculator R)

namespace GripperEvaluator

def addQualityIndexCalculator (indexName : String) (calculator : QualityIndexCalculator R)
    (evaluator : GripperEvaluator R) : GripperEvaluator R :=
  ⟨evaluator.calculators ++ [(indexName, calculator)]⟩

omit [Field R] [LinearOrder R] [FloorRing R] in
def getIndexKeys (evaluator : GripperEvaluator R) : List String :=
  evaluator.calculators.map Prod.fst

/-- One round of the loop over the calculators. -/
def addIndex (rw : RobWork R G V) (gripper : Gripper R) (grasps : GraspTask R G V)
    (acc : GripperQuality R × Results R G V) (keyCalculator : String × QualityIndexCalculator R) :
    GripperQuality R × Results R G V :=
  let value := keyCalculator.2.calculate rw gripper grasps acc.2
  (acc.1.setIndex keyCalculator.1 value.1, value.2)

def evaluate (rw : RobWork R G V) (evaluator : GripperEvaluator R) (gripper : Gripper R)
    (grasps : GraspTask R G V) (results : Results R G V) : GripperQuality R × Results R G V :=
  evaluator.calculators.foldl (addIndex rw gripper grasps) (.makeGripperQuality, results)

end GripperEvaluator

/-! ## What a calculator does to the results -/

namespace QualityIndexCalculator
variable [IsStrictOrderedRing R] (rw : RobWork R G V) (gripper : Gripper R)
  (grasps : GraspTask R G V) (results : Results R G V)

omit [FloorRing R] [Group G] [AddCommGroup V] [DistribMulAction G V] in
/-- The results marked after the calculation, those marked before included. -/
def marks : QualityIndexCalculator R → Set ResultPtr
  | coverage positionFilteringRadius angleFilteringRadius =>
    covered rw.spatial (CoverageIndexCalculator.filteringBox rw.spatial positionFilteringRadius
      angleFilteringRadius) grasps results
  | _ => results.withStatus .filtered

omit [FloorRing R] [Group G] [AddCommGroup V] [DistribMulAction G V] [IsStrictOrderedRing R] in
/-- A coverage calculator has no two targets to thin out that are close in its box. -/
def KeepsResults : QualityIndexCalculator R → Prop
  | coverage positionFilteringRadius angleFilteringRadius =>
    Sparse rw.spatial (CoverageIndexCalculator.filteringBox rw.spatial positionFilteringRadius
      angleFilteringRadius) grasps results
  | _ => True

theorem calculate_results (calculator : QualityIndexCalculator R) :
    (calculator.calculate rw gripper grasps results).2 =
      results.mark .filtered (calculator.marks rw grasps results) := by
  have hkeep : results = results.mark .filtered (results.withStatus .filtered) :=
    (Results.mark_of_subset (Set.Subset.refl _)).symm
  cases calculator with
  | coverage positionFilteringRadius angleFilteringRadius =>
    exact coverageRatio_results _ rw grasps results
  | success => exact hkeep
  | robustness => exact hkeep
  | significance => exact hkeep
  | wrench => exact hkeep
  | alignment positionFilteringRadius angleFilteringRadius => exact hkeep
  | varianceAlignment positionUncertainty angleUncertainty => exact hkeep
  | stress stressLimit => exact hkeep
  | volume volumeLimit => exact hkeep

omit [FloorRing R] [Group G] [AddCommGroup V] [DistribMulAction G V] in
theorem marks_eq_iff (calculator : QualityIndexCalculator R) :
    calculator.marks rw grasps results = results.withStatus .filtered ↔
      calculator.KeepsResults rw grasps results := by
  cases calculator with
  | coverage positionFilteringRadius angleFilteringRadius => exact covered_eq_iff
  | _ => exact iff_of_true rfl trivial

variable {rw gripper grasps results} {calculator : QualityIndexCalculator R}

omit [FloorRing R] [Group G] [AddCommGroup V] [DistribMulAction G V] in
theorem mem_marks {ptr : ResultPtr} (h : ptr ∈ calculator.marks rw grasps results) :
    ptr ∈ results.withStatus .filtered ∨
      ∃ target ∈ candidates grasps results, target.result = ptr := by
  cases calculator with
  | coverage positionFilteringRadius angleFilteringRadius => exact mem_covered h
  | _ => exact Or.inl h

omit [FloorRing R] [Group G] [AddCommGroup V] [DistribMulAction G V] in
theorem subset_marks : results.withStatus .filtered ⊆ calculator.marks rw grasps results := by
  cases calculator with
  | coverage positionFilteringRadius angleFilteringRadius => exact (subset_covered _ _ _ _).1
  | _ => exact Set.Subset.refl _

/-- Results marked before stay marked, and new ones are those of candidates. -/
theorem withStatus_calculate : ((calculator.calculate rw gripper grasps results).2).withStatus
    .filtered = calculator.marks rw grasps results := by
  rw [calculate_results, Results.withStatus_mark, Set.union_eq_self_of_subset_left subset_marks]

theorem calculate_keeps (h : calculator.KeepsResults rw grasps results) :
    (calculator.calculate rw gripper grasps results).2 = results := by
  rw [calculate_results, (marks_eq_iff rw grasps results calculator).mpr h,
    Results.mark_of_subset (Set.Subset.refl _)]

omit [FloorRing R] [Group G] [AddCommGroup V] [DistribMulAction G V] in
/-- A calculator that does not keep the results marks a target that was not marked. -/
theorem exists_marked (h : ¬ calculator.KeepsResults rw grasps results) :
    ∃ target ∈ grasps.targets, (results target.result).testStatus ≠ .filtered ∧
      target.result ∈ calculator.marks rw grasps results := by
  cases calculator with
  | coverage positionFilteringRadius angleFilteringRadius =>
    obtain ⟨target, htarget, hmarked⟩ := exists_covered h
    exact ⟨target, (mem_candidates.mp htarget).1, not_filtered_of_candidate htarget, hmarked⟩
  | _ => exact absurd trivial h

end QualityIndexCalculator

/-! ## Independence of the indices -/

namespace GripperEvaluator
section
variable [IsStrictOrderedRing R] {rw : RobWork R G V} {gripper : Gripper R}
  {grasps : GraspTask R G V}

/-- Every index has the value its calculator gives alone, and no status changes. -/
structure Independent (rw : RobWork R G V) (evaluator : GripperEvaluator R) (gripper : Gripper R)
    (grasps : GraspTask R G V) (results : Results R G V) : Prop where
  alone : ∀ keyCalculator ∈ evaluator.calculators,
    (evaluator.evaluate rw gripper grasps results).1.getIndex keyCalculator.1 =
      some (keyCalculator.2.calculate rw gripper grasps results).1
  untouched : ∀ target ∈ grasps.targets,
    ((evaluator.evaluate rw gripper grasps results).2 target.result).testStatus =
      (results target.result).testStatus

/-- Marked results stay marked to the end of the loop. -/
theorem marked_foldl (calculators : List (String × QualityIndexCalculator R))
    (acc : GripperQuality R × Results R G V) : acc.2.withStatus .filtered ⊆
      (calculators.foldl (addIndex rw gripper grasps) acc).2.withStatus .filtered := by
  induction calculators generalizing acc with
  | nil => exact Set.Subset.refl _
  | cons keyCalculator calculators ih =>
    have hstep : (addIndex rw gripper grasps acc keyCalculator).2.withStatus .filtered =
        keyCalculator.2.marks rw grasps acc.2 := QualityIndexCalculator.withStatus_calculate
    have hrest := ih (addIndex rw gripper grasps acc keyCalculator)
    rw [hstep] at hrest
    exact QualityIndexCalculator.subset_marks.trans hrest

/-- All that can happen to a result is that it is marked, if its target is to be thinned out. -/
theorem evaluate_results (evaluator : GripperEvaluator R) (gripper : Gripper R)
    (results : Results R G V) (ptr : ResultPtr) :
    (evaluator.evaluate rw gripper grasps results).2 ptr = results ptr ∨
      isCandidate (results ptr).testStatus = true ∧
        (evaluator.evaluate rw gripper grasps results).2 ptr =
          { results ptr with testStatus := .filtered } := by
  have hloop (calculators : List (String × QualityIndexCalculator R))
      (acc : GripperQuality R × Results R G V) :
      (calculators.foldl (addIndex rw gripper grasps) acc).2 ptr = acc.2 ptr ∨
        isCandidate (acc.2 ptr).testStatus = true ∧
          (calculators.foldl (addIndex rw gripper grasps) acc).2 ptr =
            { acc.2 ptr with testStatus := .filtered } := by
    induction calculators generalizing acc with
    | nil => exact Or.inl rfl
    | cons keyCalculator calculators ih =>
      have hstep : (addIndex rw gripper grasps acc keyCalculator).2 ptr = acc.2 ptr ∨
          isCandidate (acc.2 ptr).testStatus = true ∧
            (addIndex rw gripper grasps acc keyCalculator).2 ptr =
              { acc.2 ptr with testStatus := .filtered } := by
        change (keyCalculator.2.calculate rw gripper grasps acc.2).2 ptr = _ ∨ _ ∧
          (keyCalculator.2.calculate rw gripper grasps acc.2).2 ptr = _
        rw [QualityIndexCalculator.calculate_results]
        by_cases hmem : ptr ∈ keyCalculator.2.marks rw grasps acc.2
        · rw [Results.mark_of_mem hmem]
          rcases QualityIndexCalculator.mem_marks hmem with h | ⟨target, htarget, rfl⟩
          · have hstatus : (acc.2 ptr).testStatus = .filtered := h
            rw [← hstatus]
            exact Or.inl rfl
          · exact Or.inr ⟨(mem_candidates.mp htarget).2, rfl⟩
        · exact Or.inl (Results.mark_of_not_mem hmem)
      rw [List.foldl_cons]
      rcases hstep with hsame | ⟨hcandidate, hmarked⟩
      · rw [← hsame]
        exact ih _
      · rcases ih (addIndex rw gripper grasps acc keyCalculator) with h | ⟨hagain, _⟩
        · exact Or.inr ⟨hcandidate, h.trans hmarked⟩
        · rw [hmarked] at hagain
          cases hagain
  exact hloop evaluator.calculators _

/-- Calculators that keep the results leave each other's values alone. -/
theorem foldl_of_keeps {calculators : List (String × QualityIndexCalculator R)}
    {results : Results R G V} (distinct : (calculators.map Prod.fst).Nodup)
    (h : ∀ keyCalculator ∈ calculators, keyCalculator.2.KeepsResults rw grasps results)
    (gripper : Gripper R) (quality : GripperQuality R) :
    let after := calculators.foldl (addIndex rw gripper grasps) (quality, results)
    after.2 = results ∧
      (∀ key ∉ calculators.map Prod.fst, after.1.getIndex key = quality.getIndex key) ∧
      ∀ keyCalculator ∈ calculators, after.1.getIndex keyCalculator.1 =
        some (keyCalculator.2.calculate rw gripper grasps results).1 := by
  induction calculators generalizing quality with
  | nil => simp
  | cons keyCalculator calculators ih =>
    obtain ⟨hnew, hdistinct⟩ := List.nodup_cons.mp distinct
    set value := keyCalculator.2.calculate rw gripper grasps results with hvalue
    have hstep : addIndex rw gripper grasps (quality, results) keyCalculator =
        (quality.setIndex keyCalculator.1 value.1, results) := by
      have hresults : value.2 = results :=
        QualityIndexCalculator.calculate_keeps (h keyCalculator (by simp))
      simp only [addIndex, ← hvalue, hresults]
    obtain ⟨hresults, hothers, hvalues⟩ := ih hdistinct
      (fun other hother => h other (by simp [hother]))
      (quality.setIndex keyCalculator.1 value.1)
    simp only [List.foldl_cons, hstep]
    refine ⟨hresults, ?_, ?_⟩
    · intro key hkey
      rw [List.map_cons, List.mem_cons, not_or] at hkey
      rw [hothers key hkey.2, GripperQuality.getIndex_setIndex_of_ne _ _ hkey.1]
    · intro other hother
      rcases List.mem_cons.mp hother with rfl | hother
      · rw [hothers other.1 hnew, GripperQuality.getIndex_setIndex_self]
      · exact hvalues other hother

/-- A calculator that does not keep the results leaves some target marked. -/
theorem foldl_of_not_keeps {calculators : List (String × QualityIndexCalculator R)}
    {results : Results R G V} (gripper : Gripper R) (quality : GripperQuality R)
    (h : ∃ keyCalculator ∈ calculators, ¬ keyCalculator.2.KeepsResults rw grasps results) :
    ∃ target ∈ grasps.targets, (results target.result).testStatus ≠ .filtered ∧
      target.result ∈ (calculators.foldl (addIndex rw gripper grasps)
        (quality, results)).2.withStatus .filtered := by
  induction calculators generalizing quality with
  | nil => simp at h
  | cons keyCalculator calculators ih =>
    set value := keyCalculator.2.calculate rw gripper grasps results
    change ∃ target ∈ grasps.targets, _ ∧ target.result ∈ (calculators.foldl
      (addIndex rw gripper grasps)
      (quality.setIndex keyCalculator.1 value.1, value.2)).2.withStatus _
    by_cases hkeeps : keyCalculator.2.KeepsResults rw grasps results
    · have hresults : value.2 = results := QualityIndexCalculator.calculate_keeps hkeeps
      rw [hresults]
      apply ih
      obtain ⟨other, hother, hnot⟩ := h
      rcases List.mem_cons.mp hother with rfl | hother
      · exact absurd hkeeps hnot
      · exact ⟨other, hother, hnot⟩
    · obtain ⟨target, htarget, hold, hmarked⟩ := QualityIndexCalculator.exists_marked hkeeps
      refine ⟨target, htarget, hold, marked_foldl calculators _ ?_⟩
      change target.result ∈ value.2.withStatus .filtered
      rw [QualityIndexCalculator.withStatus_calculate]
      exact hmarked

end

/-! ## Two grasps on a line -/

namespace Sample

/-- Coordinates on a line, without rotations. The sine is needed at zero only. -/
def spatial : Spatial ℚ ℤˣ ℚ where
  sin x := x
  sqrt x := x
  coord v i := if i = 0 then v else 0
  x := 1
  y := 0
  z := 0
  axis _ := 1
  angle _ := 0
  rpy _ _ := 0
  variance _ := 0

def robWork : RobWork ℚ ℤˣ ℚ where
  spatial := spatial
  tree := .exhaustive ℚ ℕ
  sort := StdSort.stable fun p : Point ℚ => OrderDual.toDual p.neighbours.length

def mesh : TriMesh ℚ := ⟨1, 1, fun _ => 1⟩

def gripper : Gripper ℚ := ⟨mesh, mesh, ⟨[1]⟩⟩

/-- Two targets at a distance. -/
def grasps (distance : ℚ) : GraspTask ℚ ℤˣ ℚ where
  gripperID := "gripper"
  tcpID := "tcp"
  subTasks := [⟨"world", 1, 1, 1, ⟨[]⟩, [⟨⟨1, 0⟩, 0⟩, ⟨⟨1, distance⟩, 1⟩]⟩]

def success : Results ℚ ℤˣ ℚ := fun _ =>
  ⟨.success, 1, ⟨[]⟩, ⟨[]⟩, 1, 1, 1, 1, ⟨[]⟩, ⟨[1, 1, 1]⟩, [], []⟩

def evaluator : GripperEvaluator ℚ :=
  ⟨[("coverage", .coverage 1 0), ("significance", .significance)]⟩

end Sample

end GripperEvaluator
end Gripperz.Evaluation
