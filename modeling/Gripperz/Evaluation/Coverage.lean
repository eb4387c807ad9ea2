import Gripperz.Evaluation.Calculators

/-! # What the coverage calculator does to the results

Coverage thins the grasps out twice, first the lifted ones. The copies it thins out share
their results with the grasps it is given, so what it marks stays marked.
-/
namespace Gripperz.Evaluation
open Math Library Grasps KDGraspFilter

variable {R G V : Type} [Field R] [LinearOrder R]

omit [Field R] [LinearOrder R] in
theorem targets_statusFilter (grasps : GraspTask R G V) (results : Results R G V) :
    (GraspStatusFilter.filter [.success, .interference] grasps results).1.targets =
      liftedTargets grasps results := by
  rw [GraspStatusFilter.filter, GraspTask.targets_cloneWith, liftedTargets]
  congr 1
  funext target
  simp [GraspStatusFilter.isAllowed, isLifted]

variable [IsStrictOrderedRing R] (spatial : Spatial R G V) (diff : Q R)

/-- The results once the lifted grasps have been thinned out. -/
noncomputable def thinnedTargets (grasps : GraspTask R G V) (results : Results R G V) :
    Results R G V :=
  results.mark .filtered (thinned spatial diff
    (GraspStatusFilter.filter [.success, .interference] grasps results).1 results)

/-- The results marked in the end, those marked before included. -/
def covered (grasps : GraspTask R G V) (results : Results R G V) : Set ResultPtr :=
  thinned spatial diff grasps (thinnedTargets spatial diff grasps results)

/-- The value counts the grasps before they are thinned out. -/
theorem coverageRatio_value (rw : RobWork R G V) (grasps : GraspTask R G V)
    (results : Results R G V) : (coverageRatio rw diff grasps results).1 =
      (liftedTargets grasps results).length / grasps.targets.length := by
  simp only [coverageRatio, filter_eq, GraspStatistics.countGraspTargets, targets_statusFilter]
  split
  · rename_i hnone
    have hzero : grasps.targets.length = 0 := by exact_mod_cast hnone
    simp [hzero]
  · simp

theorem subset_covered (grasps : GraspTask R G V) (results : Results R G V) :
    results.withStatus .filtered ⊆ covered spatial diff grasps results ∧
      thinned spatial diff (GraspStatusFilter.filter [.success, .interference] grasps results).1
        results ⊆ covered spatial diff grasps results := by
  have hmarked := subset_thinned spatial diff grasps (thinnedTargets spatial diff grasps results)
  rw [thinnedTargets, Results.withStatus_mark] at hmarked
  exact ⟨Set.subset_union_left.trans hmarked, Set.subset_union_right.trans hmarked⟩

theorem coverageRatio_results (rw : RobWork R G V) (grasps : GraspTask R G V)
    (results : Results R G V) : (coverageRatio rw diff grasps results).2 =
      results.mark .filtered (covered rw.spatial diff grasps results) := by
  have htwice : (coverageRatio rw diff grasps results).2 =
      (thinnedTargets rw.spatial diff grasps results).mark .filtered
        (covered rw.spatial diff grasps results) := by
    simp only [coverageRatio, filter_eq, covered, thinnedTargets]
    split <;> rfl
  rw [htwice, thinnedTargets, Results.mark_mark,
    Set.union_eq_self_of_subset_left (subset_covered rw.spatial diff grasps results).2]

variable {spatial diff} {grasps : GraspTask R G V} {results : Results R G V}

omit [Field R] [LinearOrder R] [IsStrictOrderedRing R] in
theorem mem_candidates {target : GraspTarget G V} : target ∈ candidates grasps results ↔
    target ∈ grasps.targets ∧ isCandidate (results target.result).testStatus = true := by
  simp [candidates]

omit [Field R] [LinearOrder R] [IsStrictOrderedRing R] in
theorem candidates_statusFilter {target : GraspTarget G V} (h : target ∈ candidates
    (GraspStatusFilter.filter [.success, .interference] grasps results).1 results) :
    target ∈ candidates grasps results := by
  rw [mem_candidates, targets_statusFilter] at h
  exact mem_candidates.mpr ⟨(List.mem_filter.mp h.1).1, h.2⟩

/-- Only candidates are marked. -/
theorem mem_covered {ptr : ResultPtr} (h : ptr ∈ covered spatial diff grasps results) :
    ptr ∈ results.withStatus .filtered ∨
      ∃ target ∈ candidates grasps results, target.result = ptr := by
  have hfirst (ptr : ResultPtr) (h : ptr ∈ thinned spatial diff
      (GraspStatusFilter.filter [.success, .interference] grasps results).1 results) :
      ptr ∈ results.withStatus .filtered ∨
        ∃ target ∈ candidates grasps results, target.result = ptr := by
    rcases mem_thinned h with h | ⟨target, htarget, hresult⟩
    · exact Or.inl h
    · exact Or.inr ⟨target, candidates_statusFilter htarget, hresult⟩
  rcases mem_thinned h with h | ⟨target, htarget, rfl⟩
  · rw [thinnedTargets, Results.withStatus_mark] at h
    exact h.elim Or.inl (hfirst ptr)
  · by_cases hmem : target.result ∈ thinned spatial diff
        (GraspStatusFilter.filter [.success, .interference] grasps results).1 results
    · exact hfirst _ hmem
    · rw [mem_candidates, thinnedTargets, Results.mark_of_not_mem hmem] at htarget
      exact Or.inr ⟨target, mem_candidates.mpr htarget, rfl⟩

/-- Nothing is marked exactly when no two candidates are close. -/
theorem covered_eq_iff : covered spatial diff grasps results = results.withStatus .filtered ↔
    Sparse spatial diff grasps results := by
  have hsame (h : thinned spatial diff
      (GraspStatusFilter.filter [.success, .interference] grasps results).1 results ⊆
        results.withStatus .filtered) :
      covered spatial diff grasps results = thinned spatial diff grasps results := by
    rw [covered, thinnedTargets, Results.mark_of_subset h]
  constructor
  · intro h
    have hfirst := (subset_covered spatial diff grasps results).2
    rw [h] at hfirst
    rw [← thinned_eq_iff, ← hsame hfirst, h]
  · intro h
    have hlifted : Sparse spatial diff
        (GraspStatusFilter.filter [.success, .interference] grasps results).1 results :=
      fun p hp q hq => h p (candidates_statusFilter hp) q (candidates_statusFilter hq)
    rw [hsame ((thinned_eq_iff spatial diff _ _).mpr hlifted).subset]
    exact (thinned_eq_iff spatial diff _ _).mpr h

/-- When two candidates are close, a candidate is marked. -/
theorem exists_covered (h : ¬ Sparse spatial diff grasps results) :
    ∃ target ∈ candidates grasps results, target.result ∈ covered spatial diff grasps results := by
  rw [← covered_eq_iff] at h
  have hnew : ¬ covered spatial diff grasps results ⊆ results.withStatus .filtered :=
    fun hsub => h (Set.Subset.antisymm hsub (subset_covered spatial diff grasps results).1)
  obtain ⟨ptr, hmem, hold⟩ := Set.not_subset.mp hnew
  rcases mem_covered hmem with hmarked | ⟨target, htarget, rfl⟩
  · exact absurd hmarked hold
  · exact ⟨target, htarget, hmem⟩

end Gripperz.Evaluation
