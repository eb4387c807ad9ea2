import Gripperz.Evaluation.ThinnedPoints
import Gripperz.Evaluation.OldGripperEvaluator

/-! # The coverage as a ratio of thinned sets

Coverage thins the grasps out and then counts the targets that were thinned out as well.
-/
namespace Gripperz.Evaluation
open Math Library Grasps KDGraspFilter Models

variable {Gr R G V : Type} [Field R] [LinearOrder R]

/-- The targets that the filter leaves unfiltered, when it is applied to the grasps alone. -/
def countUnfiltered (rw : RobWork R G V) (diff : Q R) (grasps : GraspTask R G V)
    (results : Results R G V) : ℕ :=
  let filtered := KDGraspFilter.filter rw.spatial rw.tree diff grasps results
  filtered.1.targets.countP fun target => (filtered.2 target.result).testStatus ≠ .filtered

/-- What is unfiltered of the lifted targets, against what is unfiltered of all. -/
def thinnedRatio (rw : RobWork R G V) (diff : Q R) (grasps : GraspTask R G V)
    (results : Results R G V) : R :=
  let targets := (GraspStatusFilter.filter [.success, .interference] grasps results).1
  if countUnfiltered rw diff grasps results = 0 then 0
  else countUnfiltered rw diff targets results / countUnfiltered rw diff grasps results

variable [IsStrictOrderedRing R]

/-- The targets that greedy thinning drops, or that were dropped before. -/
noncomputable def countThinned (spatial : Spatial R G V) (diff : Q R) (grasps : GraspTask R G V)
    (results : Results R G V) : ℕ :=
  open Classical in grasps.targets.countP fun target => target.result ∈
    thinned spatial diff grasps results

/-- Thinning drops the same share of the lifted targets as of all targets, and not all. -/
def ThinsAlike (spatial : Spatial R G V) (diff : Q R) (grasps : GraspTask R G V)
    (results : Results R G V) : Prop :=
  let targets := (GraspStatusFilter.filter [.success, .interference] grasps results).1
  countThinned spatial diff grasps results < grasps.targets.length ∧
    targets.targets.length * countThinned spatial diff grasps results =
      grasps.targets.length * countThinned spatial diff targets results

theorem countUnfiltered_add (rw : RobWork R G V) (diff : Q R) (grasps : GraspTask R G V)
    (results : Results R G V) : countUnfiltered rw diff grasps results +
      countThinned rw.spatial diff grasps results = grasps.targets.length := by
  classical
  have hsame : (KDGraspFilter.filter rw.spatial rw.tree diff grasps results).1 = grasps := by
    rw [filter_eq]
  simp only [countUnfiltered, hsame, ne_eq, filtered_iff, countThinned]
  rw [Nat.add_comm, List.length_eq_countP_add_countP fun target => decide (target.result ∈
    thinned rw.spatial diff grasps results)]
  simp

/-- The coverage is the ratio of the thinned sets exactly when there is nothing lifted, or the
same share is dropped of both. -/
theorem coverageRatio_eq_iff (rw : RobWork R G V) (diff : Q R) (grasps : GraspTask R G V)
    (results : Results R G V) :
    (coverageRatio rw diff grasps results).1 = thinnedRatio rw diff grasps results ↔
      liftedTargets grasps results = [] ∨ ThinsAlike rw.spatial diff grasps results := by
  have hall := countUnfiltered_add rw diff grasps results
  have hlifted := countUnfiltered_add rw diff
    (GraspStatusFilter.filter [.success, .interference] grasps results).1 results
  rw [coverageRatio_value, thinnedRatio, ThinsAlike]
  simp only [targets_statusFilter] at hlifted ⊢
  set targets := (GraspStatusFilter.filter [.success, .interference] grasps results).1
  by_cases hnone : liftedTargets grasps results = []
  · rw [hnone, List.length_nil] at hlifted
    have hzero : countUnfiltered rw diff targets results = 0 := by omega
    simp [hnone, hzero]
  · have hpos : 0 < (liftedTargets grasps results).length := List.length_pos_of_ne_nil hnone
    have hle : (liftedTargets grasps results).length ≤ grasps.targets.length :=
      List.length_filter_le _ _
    have hlength : (grasps.targets.length : R) ≠ 0 := by
      exact_mod_cast (lt_of_lt_of_le hpos hle).ne'
    have hvalue : ((liftedTargets grasps results).length : R) ≠ 0 := by exact_mod_cast hpos.ne'
    rw [or_iff_right hnone]
    split
    · rename_i hdropped
      rw [hdropped, Nat.zero_add] at hall
      simp [hlength, hvalue, hall]
    · rename_i hleft
      have hcast : (countUnfiltered rw diff grasps results : R) ≠ 0 := by exact_mod_cast hleft
      have hless : countThinned rw.spatial diff grasps results < grasps.targets.length := by omega
      rw [div_eq_div_iff hlength hcast, and_iff_right hless]
      have hproducts : (liftedTargets grasps results).length *
            countUnfiltered rw diff grasps results +
          (liftedTargets grasps results).length * countThinned rw.spatial diff grasps results =
          countUnfiltered rw diff targets results * grasps.targets.length +
          grasps.targets.length * countThinned rw.spatial diff targets results := by
        rw [← Nat.mul_add, hall, Nat.mul_comm grasps.targets.length, ← Nat.add_mul, hlifted]
      norm_cast
      constructor <;> intro h <;> omega

/-- Without close candidates and targets dropped before, the coverage is the ratio. -/
theorem thinsAlike_of_sparse {spatial : Spatial R G V} {diff : Q R} {grasps : GraspTask R G V}
    {results : Results R G V} (hne : grasps.targets ≠ [])
    (sparse : Sparse spatial diff grasps results)
    (hfresh : ∀ target ∈ grasps.targets, (results target.result).testStatus ≠ .filtered) :
    ThinsAlike spatial diff grasps results := by
  classical
  have hnothing (part : GraspTask R G V) (hpart : ∀ target ∈ part.targets, target ∈ grasps.targets)
      (hsparse : Sparse spatial diff part results) :
      countThinned spatial diff part results = 0 := by
    rw [countThinned, List.countP_eq_zero]
    intro target htarget
    rw [decide_eq_true_iff, (thinned_eq_iff spatial diff part results).mpr hsparse]
    exact hfresh target (hpart target htarget)
  have hlifted : Sparse spatial diff
      (GraspStatusFilter.filter [.success, .interference] grasps results).1 results :=
    fun p hp q hq => sparse p (candidates_statusFilter hp) q (candidates_statusFilter hq)
  have hmem (target : GraspTarget G V) (h : target ∈
      (GraspStatusFilter.filter [.success, .interference] grasps results).1.targets) :
      target ∈ grasps.targets := by
    rw [targets_statusFilter] at h
    exact (List.mem_filter.mp h).1
  rw [ThinsAlike, hnothing grasps (fun _ h => h) sparse, hnothing _ hmem hlifted]
  exact ⟨List.length_pos_of_ne_nil hne, by simp⟩

/-- With all targets lifted, the same share is dropped. -/
theorem thinsAlike_of_all_lifted {spatial : Spatial R G V} {diff : Q R} {grasps : GraspTask R G V}
    {results : Results R G V} (hne : grasps.targets ≠ []) (distinct : grasps.DistinctResults)
    (hlifted : ∀ target ∈ grasps.targets, isLifted (results target.result).testStatus = true) :
    ThinsAlike spatial diff grasps results := by
  classical
  have hsame : liftedTargets grasps results = grasps.targets := List.filter_eq_self.mpr hlifted
  have hcandidates : candidates grasps results = grasps.targets := by
    apply List.filter_eq_self.mpr
    intro target htarget
    have hstatus := hlifted target htarget
    revert hstatus
    cases (results target.result).testStatus <;> simp [isLifted, isCandidate]
  have hpart : candidates
      (GraspStatusFilter.filter [.success, .interference] grasps results).1 results =
        candidates grasps results := by
    rw [candidates, targets_statusFilter, hsame, candidates]
  have hthinned : thinned spatial diff
      (GraspStatusFilter.filter [.success, .interference] grasps results).1 results =
        thinned spatial diff grasps results := by
    rw [thinned, hpart, thinned]
  have hcount : countThinned spatial diff
      (GraspStatusFilter.filter [.success, .interference] grasps results).1 results =
        countThinned spatial diff grasps results := by
    rw [countThinned, targets_statusFilter, hsame, hthinned, countThinned]
  rw [ThinsAlike, hcount, targets_statusFilter, hsame, and_iff_left rfl]
  -- one target is not dropped: it is the first, or near one that is kept
  have hthins : (closeness spatial diff).Thins (candidates grasps results) fun target =>
      target.result ∉ thinned spatial diff grasps results :=
    Nearness.thins_thin (injOn_candidates distinct) fun _ => not_filtered_of_candidate
  rw [hcandidates] at hthins
  obtain ⟨kept, hkept, hstays⟩ : ∃ target ∈ grasps.targets,
      target.result ∉ thinned spatial diff grasps results := by
    obtain ⟨first, hfirst⟩ := List.exists_mem_of_ne_nil _ hne
    by_cases hstays : first.result ∉ thinned spatial diff grasps results
    · exact ⟨first, hfirst, hstays⟩
    · obtain ⟨target, htarget, hstays, _⟩ := hthins.covered first hfirst hstays
      exact ⟨target, htarget, hstays⟩
  apply lt_of_le_of_ne List.countP_le_length
  intro hall
  have hgone := List.countP_eq_length.mp hall kept hkept
  exact hstays (of_decide_eq_true hgone)

/-- Thinning makes no difference to the coverage: there is nothing lifted, nothing to drop, or
nothing but lifted targets. -/
inductive Unaffected (spatial : Spatial R G V) (diff : Q R) (grasps : GraspTask R G V)
    (results : Results R G V) : Prop
  | nothingLifted (h : ∀ target ∈ grasps.targets,
      isLifted (results target.result).testStatus = false)
  | nothingDropped (sparse : Sparse spatial diff grasps results)
      (fresh : ∀ target ∈ grasps.targets, (results target.result).testStatus ≠ .filtered)
  | allLifted (distinct : grasps.DistinctResults)
      (h : ∀ target ∈ grasps.targets, isLifted (results target.result).testStatus = true)

theorem Unaffected.thinsAlike {spatial : Spatial R G V} {diff : Q R} {grasps : GraspTask R G V}
    {results : Results R G V} (h : Unaffected spatial diff grasps results) :
    liftedTargets grasps results = [] ∨ ThinsAlike spatial diff grasps results := by
  by_cases hne : grasps.targets = []
  · exact Or.inl (by simp [liftedTargets, hne])
  · cases h with
    | nothingLifted h => exact Or.inl (List.filter_eq_nil_iff.mpr fun t ht => by simp [h t ht])
    | nothingDropped sparse fresh => exact Or.inr (thinsAlike_of_sparse hne sparse fresh)
    | allLifted distinct h => exact Or.inr (thinsAlike_of_all_lifted hne distinct h)

namespace CoverageIndexCalculator
open GripperEvaluator

/-- Two close successes, and a miss far away. -/
def threeGrasps : GraspTask ℚ ℤˣ ℚ where
  gripperID := "gripper"
  tcpID := "tcp"
  subTasks := [⟨"world", 1, 1, 1, ⟨[]⟩, [⟨⟨1, 0⟩, 0⟩, ⟨⟨1, 1⟩, 1⟩, ⟨⟨1, 5⟩, 2⟩]⟩]

def missThird : Results ℚ ℤˣ ℚ :=
  Sample.success.edit 2 fun r => { r with testStatus := .objectMissed }

end CoverageIndexCalculator

end Gripperz.Evaluation
