import Gripperz.Evaluation.OldGripperEvaluator
import Gripperz.Process.StandardGripperEvaluationProcessManager

/-! # Evaluations in a row

The standard manager takes its grasps from a planner that keeps them, without a filter
that clears their statuses. A gripper evaluated second is judged by the grasps of the first,
and by their results where they have any.
-/
namespace Gripperz.Process
open Math Grasps KDGraspFilter Simulation Evaluation Models

variable {Gr R G V : Type} [Field R] [LinearOrder R] [Group G] [AddCommGroup V]
  [DistribMulAction G V]

namespace GripperEvaluationManagerFactory

/-- `makeStandardEvaluationManager`. -/
def makeStandardEvaluationManager (rw : RobWork R G V) (evaluator : OldGripperEvaluator Gr R)
    (plan : Gr → PlannedGrasps R G V) (outcome : Gr → Outcome R G V) :
    StandardGripperEvaluationProcessManager Gr R G V where
  graspSource := .caching fun gripper => some (plan gripper).toOwnedGrasps
  simulator := outcome
  evaluator := evaluator.evaluate rw

end GripperEvaluationManagerFactory

open GripperEvaluationManagerFactory

namespace StandardGripperEvaluationProcessManager

/-- The second gripper gets the quality it would get from a new manager. -/
def Isolated (manager : StandardGripperEvaluationProcessManager Gr R G V) (first second : Gr) :
    Prop :=
  ∀ evaluation cache, manager.evaluateGripper first none = some (evaluation, cache) →
    (manager.evaluateGripper second (some cache)).map (fun again => again.1.quality) =
      (manager.evaluateGripper second none).map fun fresh => fresh.1.quality

end StandardGripperEvaluationProcessManager

/-! ## Planned grasps -/

/-- The planner has found no target to simulate. -/
def AllSkipped (owned : PlannedGrasps R G V) : Prop :=
  ∀ target ∈ owned.grasps.targets, (owned.results target.result).testStatus = .skip

section Simulated
variable (owned : PlannedGrasps R G V) (outcome : Outcome R G V)

/-- The results of planned grasps after their simulation. -/
def simulated : Results R G V := simulate outcome owned.grasps owned.results

omit [Field R] [LinearOrder R] [Group G] [AddCommGroup V] [DistribMulAction G V] in
/-- A simulated target has its outcome, and another one is still marked `Skip`. -/
theorem status_simulated {target : GraspTarget G V} (h : target ∈ owned.grasps.targets) :
    (owned.results target.result).testStatus = .unInitialized ∧
        (simulated owned outcome target.result).testStatus = outcome.testStatus target ∨
      (owned.results target.result).testStatus = .skip ∧
        (simulated owned outcome target.result).testStatus = .skip := by
  have hsim := simulate_target outcome owned.results owned.distinct h
  rcases owned.planned target h with hplan | hplan
  · rw [if_pos hplan] at hsim
    exact Or.inl ⟨hplan, congrArg GraspResult.testStatus hsim⟩
  · rw [if_neg (by simp [hplan])] at hsim
    exact Or.inr ⟨hplan, (congrArg GraspResult.testStatus hsim).trans hplan⟩

omit [Field R] [LinearOrder R] [Group G] [AddCommGroup V] [DistribMulAction G V] in
theorem simulated_of_skipped (h : AllSkipped owned) : simulated owned outcome = owned.results := by
  apply simulate_of_processed
  intro target htarget
  simp [h target htarget]

omit [Field R] [LinearOrder R] [Group G] [AddCommGroup V] [DistribMulAction G V] in
/-- Only what was to be simulated can be thinned out after the simulation. -/
theorem candidates_simulated {target : GraspTarget G V}
    (h : target ∈ candidates owned.grasps (simulated owned outcome)) :
    target ∈ candidates owned.grasps owned.results := by
  obtain ⟨htarget, hcandidate⟩ := mem_candidates.mp h
  rcases status_simulated owned outcome htarget with ⟨hplan, _⟩ | ⟨_, hskip⟩
  · exact mem_candidates.mpr ⟨htarget, by rw [hplan]; rfl⟩
  · rw [hskip] at hcandidate
    cases hcandidate

end Simulated

/-! ## Two evaluations -/

section Twice
variable [IsStrictOrderedRing R] (rw : RobWork R G V) (evaluator : OldGripperEvaluator Gr R)
  (plan : Gr → PlannedGrasps R G V) (outcome : Gr → Outcome R G V) (first second : Gr)

/-- The results the first evaluation leaves behind. -/
def leftOver : Results R G V :=
  (evaluator.evaluate rw first (plan first).grasps (simulated (plan first) (outcome first))).2

/-- No target is simulated in the second evaluation: it judges the second gripper by what
the first evaluation has left behind. -/
theorem simulate_leftOver : simulate (outcome second) (plan first).grasps
    (leftOver rw evaluator plan outcome first) = leftOver rw evaluator plan outcome first := by
  apply simulate_of_processed
  intro target htarget
  rw [leftOver, OldGripperEvaluator.evaluate_results]
  rw [Results.mark]
  split
  · simp
  · rcases status_simulated (plan first) (outcome first) htarget with ⟨_, h⟩ | ⟨_, h⟩
    · rw [h]
      exact (ne_of_isOutcome ((outcome first).ended target)).1
    · simp [h]

theorem isolated_iff_quality :
    (makeStandardEvaluationManager rw evaluator plan outcome).Isolated first second ↔
      (evaluator.evaluate rw second (plan first).grasps
          (leftOver rw evaluator plan outcome first)).1 =
        (evaluator.evaluate rw second (plan second).grasps
          (simulated (plan second) (outcome second))).1 := by
  have hagain := simulate_leftOver rw evaluator plan outcome first second
  constructor
  · intro h
    have hquality := h _ _ rfl
    simp only [StandardGripperEvaluationProcessManager.evaluateGripper,
      makeStandardEvaluationManager, GraspSource.getGrasps, Option.map_some, Option.some.injEq]
      at hquality
    rw [← hagain]
    exact hquality
  · intro h evaluation cache hfirst
    have hcache : cache = ⟨(plan first).grasps, leftOver rw evaluator plan outcome first⟩ :=
      (congrArg Prod.snd (Option.some.inj hfirst)).symm
    rw [hcache]
    simp only [StandardGripperEvaluationProcessManager.evaluateGripper,
      makeStandardEvaluationManager, GraspSource.getGrasps, Option.map_some, Option.some.injEq]
    rw [hagain]
    exact h

/-- The second quality agrees with the fresh one on the coverage. -/
theorem coverage_of_isolated
    (h : (makeStandardEvaluationManager rw evaluator plan outcome).Isolated first second) :
    ((liftedTargets (plan first).grasps (leftOver rw evaluator plan outcome first)).length /
        (plan first).grasps.targets.length : R) =
      (liftedTargets (plan second).grasps (simulated (plan second) (outcome second))).length /
        (plan second).grasps.targets.length := by
  have hquality := (isolated_iff_quality rw evaluator plan outcome first second).mp h
  have hindex := congrArg (fun quality => GripperQuality.getIndex quality "coverage") hquality
  simp only [OldGripperEvaluator.coverage_evaluate, Option.some.injEq] at hindex
  exact hindex

/-! ## When evaluations are isolated -/

omit [Group G] [AddCommGroup V] [DistribMulAction G V] [IsStrictOrderedRing R] in
/-- Grasps that are far apart as planned are so after the simulation. -/
theorem sparse_simulated {owned : PlannedGrasps R G V} {spatial : Spatial R G V} {box : Q R}
    (h : Sparse spatial box owned.grasps owned.results) (outcome : Outcome R G V) :
    Sparse spatial box owned.grasps (simulated owned outcome) := fun p hp q hq =>
  h p (candidates_simulated owned outcome hp) q (candidates_simulated owned outcome hq)

theorem leftOver_of_sparse (h : Sparse rw.spatial (evaluator.filteringBox rw.spatial)
      (plan first).grasps (simulated (plan first) (outcome first))) :
    leftOver rw evaluator plan outcome first = simulated (plan first) (outcome first) :=
  OldGripperEvaluator.evaluate_of_sparse rw evaluator first _ _ h

theorem isolated_of_sparse (h : Sparse rw.spatial (evaluator.filteringBox rw.spatial)
      (plan first).grasps (plan first).results) :
    (makeStandardEvaluationManager rw evaluator plan outcome).Isolated first first := by
  rw [isolated_iff_quality,
    leftOver_of_sparse rw evaluator plan outcome first (sparse_simulated h _)]

omit [Field R] [LinearOrder R] [Group G] [AddCommGroup V] [DistribMulAction G V]
  [IsStrictOrderedRing R] in
theorem sparse_of_skipped [Field R] [LinearOrder R] {owned : PlannedGrasps R G V}
    (h : AllSkipped owned) (spatial : Spatial R G V) (box : Q R) :
    Sparse spatial box owned.grasps owned.results := by
  intro p hp
  rw [OldGripperEvaluator.candidates_of_skipped h] at hp
  cases hp

theorem leftOver_of_skipped (h : AllSkipped (plan first)) :
    leftOver rw evaluator plan outcome first = (plan first).results := by
  have hsparse := sparse_simulated (sparse_of_skipped h rw.spatial
    (evaluator.filteringBox rw.spatial)) (outcome first)
  rw [leftOver_of_sparse rw evaluator plan outcome first hsparse, simulated_of_skipped _ _ h]

theorem isolated_of_skipped (hfirst : AllSkipped (plan first))
    (hsecond : AllSkipped (plan second)) :
    (makeStandardEvaluationManager rw evaluator plan outcome).Isolated first second := by
  rw [isolated_iff_quality, leftOver_of_skipped rw evaluator plan outcome first hfirst,
    simulated_of_skipped _ _ hsecond,
    OldGripperEvaluator.evaluate_of_skipped rw evaluator second _ _ hfirst,
    OldGripperEvaluator.evaluate_of_skipped rw evaluator second _ _ hsecond]

/-- The result of a planned target once a gripper has been simulated with it. -/
def judged (owned : PlannedGrasps R G V) (outcome : Outcome R G V) (target : GraspTarget G V) :
    GraspResult R G V :=
  if (owned.results target.result).testStatus = .unInitialized then
    outcome.judge target (owned.results target.result)
  else owned.results target.result

omit [Field R] [LinearOrder R] [Group G] [AddCommGroup V] [DistribMulAction G V]
  [IsStrictOrderedRing R] in
theorem simulated_eq_judged (owned : PlannedGrasps R G V) (outcome : Outcome R G V)
    {target : GraspTarget G V} (h : target ∈ owned.grasps.targets) :
    simulated owned outcome target.result = judged owned outcome target :=
  simulate_target outcome owned.results owned.distinct h

/-- The same grasps are planned for both grippers, they come out the same, and no two of those that
are lifted or slip are close to each other. -/
structure JudgedAlike : Prop where
  grasps : (plan first).grasps = (plan second).grasps
  judged : ∀ target ∈ (plan first).grasps.targets,
    judged (plan first) (outcome first) target = judged (plan second) (outcome second) target
  apart : ∀ p ∈ (plan first).grasps.targets, ∀ q ∈ (plan first).grasps.targets,
    isCandidate (Process.judged (plan first) (outcome first) p).testStatus = true →
    isCandidate (Process.judged (plan first) (outcome first) q).testStatus = true →
      ¬ Near (evaluator.filteringBox rw.spatial) (key rw.spatial p.pose) (key rw.spatial q.pose)

omit [Group G] [AddCommGroup V] [DistribMulAction G V] [IsStrictOrderedRing R] in
theorem sparse_iff_apart (owned : PlannedGrasps R G V) (outcome : Outcome R G V)
    (spatial : Spatial R G V) (box : Q R) :
    Sparse spatial box owned.grasps (simulated owned outcome) ↔
      ∀ p ∈ owned.grasps.targets, ∀ q ∈ owned.grasps.targets,
        isCandidate (judged owned outcome p).testStatus = true →
        isCandidate (judged owned outcome q).testStatus = true →
          ¬ Near box (key spatial p.pose) (key spatial q.pose) := by
  constructor
  · intro h p hp q hq hcandidate hcandidate'
    apply h p (mem_candidates.mpr ⟨hp, _⟩) q (mem_candidates.mpr ⟨hq, _⟩)
    · rwa [simulated_eq_judged owned outcome hp]
    · rwa [simulated_eq_judged owned outcome hq]
  · intro h p hp q hq
    obtain ⟨hmem, hcandidate⟩ := mem_candidates.mp hp
    obtain ⟨hmem', hcandidate'⟩ := mem_candidates.mp hq
    rw [simulated_eq_judged owned outcome hmem] at hcandidate
    rw [simulated_eq_judged owned outcome hmem'] at hcandidate'
    exact h p hmem q hmem' hcandidate hcandidate'

variable {plan outcome first second} in
theorem isolated_of_judgedAlike (h : JudgedAlike rw evaluator plan outcome first second) :
    (makeStandardEvaluationManager rw evaluator plan outcome).Isolated first second := by
  have hsparse := (sparse_iff_apart (plan first) (outcome first) _ _).mpr h.apart
  have hsame (target : GraspTarget G V) (htarget : target ∈ (plan first).grasps.targets) :
      simulated (plan first) (outcome first) target.result =
        simulated (plan second) (outcome second) target.result := by
    rw [simulated_eq_judged _ _ htarget, simulated_eq_judged _ _ (h.grasps ▸ htarget)]
    exact h.judged target htarget
  have hsparse' : Sparse rw.spatial (evaluator.filteringBox rw.spatial) (plan first).grasps
      (simulated (plan second) (outcome second)) := by
    intro p hp q hq
    obtain ⟨hmem, hcandidate⟩ := mem_candidates.mp hp
    obtain ⟨hmem', hcandidate'⟩ := mem_candidates.mp hq
    apply hsparse p (mem_candidates.mpr ⟨hmem, _⟩) q (mem_candidates.mpr ⟨hmem', _⟩)
    · rwa [hsame p hmem]
    · rwa [hsame q hmem']
  rw [isolated_iff_quality, leftOver_of_sparse rw evaluator plan outcome first hsparse, ← h.grasps]
  exact OldGripperEvaluator.evaluate_congr rw evaluator second hsparse hsparse' hsame

/-- The second evaluation is by the grasps and the results that a new manager would judge by. -/
def JudgesAfresh : Prop :=
  ∀ evaluation cache again kept fresh kept',
    (makeStandardEvaluationManager rw evaluator plan outcome).evaluateGripper first none =
      some (evaluation, cache) →
    (makeStandardEvaluationManager rw evaluator plan outcome).evaluateGripper second (some cache) =
      some (again, kept) →
    (makeStandardEvaluationManager rw evaluator plan outcome).evaluateGripper second none =
      some (fresh, kept') →
    again.grasps = fresh.grasps ∧ ∀ target ∈ fresh.grasps.targets,
      again.simulated target.result = fresh.simulated target.result

variable {plan outcome first second} in
theorem judgedAlike_of_afresh (h : JudgesAfresh rw evaluator plan outcome first second) :
    JudgedAlike rw evaluator plan outcome first second := by
  obtain ⟨hgrasps, hsame⟩ := h _ _ _ _ _ _ rfl rfl rfl
  have hgrasps : (plan first).grasps = (plan second).grasps := hgrasps
  have hsame (target : GraspTarget G V) (htarget : target ∈ (plan first).grasps.targets) :
      leftOver rw evaluator plan outcome first target.result =
        simulated (plan second) (outcome second) target.result := by
    have htarget' : target ∈ (plan second).grasps.targets := hgrasps ▸ htarget
    rw [← simulate_leftOver rw evaluator plan outcome first second]
    exact hsame target htarget'
  have hunmarked (target : GraspTarget G V) (htarget : target ∈ (plan first).grasps.targets) :
      (leftOver rw evaluator plan outcome first target.result).testStatus ≠ .filtered := by
    rw [hsame target htarget]
    rcases status_simulated (plan second) (outcome second) (hgrasps ▸ htarget) with
      ⟨_, h⟩ | ⟨_, h⟩
    · rw [h]
      exact (ne_of_isOutcome ((outcome second).ended target)).2.2
    · simp [h]
  have hsparse : Sparse rw.spatial (evaluator.filteringBox rw.spatial) (plan first).grasps
      (simulated (plan first) (outcome first)) := by
    by_contra hclose
    obtain ⟨target, htarget, hmarked⟩ := exists_covered hclose
    apply hunmarked target (mem_candidates.mp htarget).1
    rw [leftOver, OldGripperEvaluator.evaluate_results]
    exact Results.testStatus_mark_of_mem hmarked
  refine ⟨hgrasps, fun target htarget => ?_, (sparse_iff_apart _ _ _ _).mp hsparse⟩
  rw [← simulated_eq_judged _ _ htarget, ← simulated_eq_judged _ _ (hgrasps ▸ htarget),
    ← leftOver_of_sparse rw evaluator plan outcome first hsparse]
  exact hsame target htarget

/-! ## When they are not -/

/-- Every target comes out the same. -/
def uniform (status : TestStatus) (ended : isOutcome status = true) : Outcome R G V where
  testStatus _ := status
  record _ r := r
  ended _ := ended

/-- The targets with one result succeed and all others miss the object. -/
def succeedsAt (ptr : ResultPtr) : Outcome R G V where
  testStatus target := if target.result = ptr then .success else .objectMissed
  record _ r := r
  ended target := by split <;> rfl

omit [Field R] [LinearOrder R] [Group G] [AddCommGroup V] [DistribMulAction G V]
  [IsStrictOrderedRing R] in
theorem succeedsAt_self (target : GraspTarget G V) :
    (succeedsAt target.result : Outcome R G V).testStatus target = .success :=
  if_pos rfl

omit [Field R] [LinearOrder R] [Group G] [AddCommGroup V] [DistribMulAction G V]
  [IsStrictOrderedRing R] in
theorem succeedsAt_of_ne {target : GraspTarget G V} {ptr : ResultPtr} (h : target.result ≠ ptr) :
    (succeedsAt ptr : Outcome R G V).testStatus target = .objectMissed :=
  if_neg h

omit [Field R] [LinearOrder R] [Group G] [AddCommGroup V] [DistribMulAction G V]
  [IsStrictOrderedRing R] in
/-- A target that is not skipped is simulated. -/
theorem exists_simulated {owned : PlannedGrasps R G V} (h : ¬ AllSkipped owned) :
    ∃ target ∈ owned.grasps.targets, ∀ outcome,
      (simulated owned outcome target.result).testStatus = outcome.testStatus target := by
  simp only [AllSkipped, not_forall] at h
  obtain ⟨target, htarget, hplan⟩ := h
  refine ⟨target, htarget, fun outcome => ?_⟩
  rcases status_simulated owned outcome htarget with ⟨_, h⟩ | ⟨h, _⟩
  · exact h
  · exact absurd h hplan

omit [Group G] [AddCommGroup V] [DistribMulAction G V] in
/-- A lifted grasp makes the coverage positive. -/
theorem coverage_pos {grasps : GraspTask R G V} {results : Results R G V}
    {target : GraspTarget G V} (h : target ∈ liftedTargets grasps results) :
    (0 : R) < (liftedTargets grasps results).length / grasps.targets.length := by
  have htargets := List.length_pos_of_mem (mem_liftedTargets.mp h).1
  have hlifted := List.length_pos_of_mem h
  positivity

omit [Field R] [LinearOrder R] [Group G] [AddCommGroup V] [DistribMulAction G V]
  [IsStrictOrderedRing R] in
theorem liftedTargets_of_missed (owned : PlannedGrasps R G V) :
    liftedTargets owned.grasps (simulated owned (uniform .objectMissed rfl)) = [] := by
  rw [liftedTargets, List.filter_eq_nil_iff]
  intro target htarget
  rcases status_simulated owned (uniform .objectMissed rfl) htarget with ⟨_, h⟩ | ⟨_, h⟩
  · rw [h]
    exact Bool.false_ne_true
  · rw [h]
    exact Bool.false_ne_true

/-- If two targets to be simulated are close, a gripper all of whose grasps succeed gets
another coverage the second time. -/
theorem not_isolated_of_close (h : ¬ Sparse rw.spatial (evaluator.filteringBox rw.spatial)
      (plan first).grasps (plan first).results) :
    ∃ outcome,
      ¬ (makeStandardEvaluationManager rw evaluator plan outcome).Isolated first first := by
  set owned := plan first
  set box := evaluator.filteringBox rw.spatial
  refine ⟨fun _ => uniform .success rfl, fun hisolated => ?_⟩
  set results := simulated owned (uniform .success rfl)
  have hsuccess (target : GraspTarget G V) (htarget : target ∈ candidates owned.grasps results) :
      (results target.result).testStatus = .success := by
    obtain ⟨hmem, hcandidate⟩ := mem_candidates.mp htarget
    rcases status_simulated owned (uniform .success rfl) hmem with ⟨_, h⟩ | ⟨_, h⟩
    · exact h
    · rw [h] at hcandidate
      cases hcandidate
  have hclose : ¬ Sparse rw.spatial box owned.grasps results := by
    intro hsparse
    apply h
    intro p hp q hq
    have hstill (target : GraspTarget G V)
        (htarget : target ∈ candidates owned.grasps owned.results) :
        target ∈ candidates owned.grasps results := by
      obtain ⟨hmem, hcandidate⟩ := mem_candidates.mp htarget
      rcases status_simulated owned (uniform .success rfl) hmem with ⟨_, h⟩ | ⟨h, _⟩
      · exact mem_candidates.mpr ⟨hmem, by rw [h]; rfl⟩
      · rw [h] at hcandidate
        cases hcandidate
    exact hsparse p (hstill p hp) q (hstill q hq)
  obtain ⟨target, htarget, hmarked⟩ := exists_covered hclose
  have hleft : leftOver rw evaluator plan (fun _ => uniform .success rfl) first =
      results.mark .filtered (covered rw.spatial box owned.grasps results) :=
    OldGripperEvaluator.evaluate_results rw evaluator first owned.grasps results
  have hcoverage := coverage_of_isolated rw evaluator plan _ first first hisolated
  rw [hleft] at hcoverage
  have hfewer : (liftedTargets owned.grasps
      (results.mark .filtered (covered rw.spatial box owned.grasps results))).length <
      (liftedTargets owned.grasps results).length := by
    have hsub : liftedTargets owned.grasps
        (results.mark .filtered (covered rw.spatial box owned.grasps results)) =
        (liftedTargets owned.grasps results).filter fun target => isLifted
          (results.mark .filtered (covered rw.spatial box owned.grasps results)
            target.result).testStatus := by
      rw [liftedTargets, liftedTargets, List.filter_filter]
      apply List.filter_congr
      intro other _
      by_cases hother : other.result ∈ covered rw.spatial box owned.grasps results
      · simp [Results.mark_of_mem hother, isLifted]
      · simp [Results.mark_of_not_mem hother]
    rw [hsub, List.length_filter_lt_length_iff_exists]
    refine ⟨target, mem_liftedTargets.mpr ⟨(mem_candidates.mp htarget).1, ?_⟩, ?_⟩
    · rw [hsuccess target htarget]
      rfl
    · simp [Results.mark_of_mem hmarked, isLifted]
  have hpos := List.length_pos_of_mem (mem_candidates.mp htarget).1
  have hne : (owned.grasps.targets.length : R) ≠ 0 := by positivity
  have hequal : ((liftedTargets owned.grasps
      (results.mark .filtered (covered rw.spatial box owned.grasps results))).length : R) =
      (liftedTargets owned.grasps results).length := (div_left_inj' hne).mp hcoverage
  exact absurd (Nat.cast_injective hequal) hfewer.ne

/-- If the first gripper has a target to simulate, its success counts for a second gripper
that misses all objects. -/
theorem not_isolated_of_first (hne : first ≠ second) (h : ¬ AllSkipped (plan first)) :
    ∃ outcome,
      ¬ (makeStandardEvaluationManager rw evaluator plan outcome).Isolated first second := by
  classical
  obtain ⟨target, htarget, hstatus⟩ := exists_simulated h
  set outcome : Gr → Outcome R G V := fun gripper =>
    if gripper = first then succeedsAt target.result else uniform .objectMissed rfl
  have hfirst : outcome first = succeedsAt target.result := if_pos rfl
  have hsecond : outcome second = uniform .objectMissed rfl := if_neg fun heq => hne heq.symm
  refine ⟨outcome, fun hisolated => ?_⟩
  have hcoverage := coverage_of_isolated rw evaluator plan outcome first second hisolated
  have honly (p : GraspTarget G V)
      (hp : p ∈ candidates (plan first).grasps (simulated (plan first) (outcome first))) :
      p = target := by
    obtain ⟨hmem, hcandidate⟩ := mem_candidates.mp hp
    apply List.inj_on_of_nodup_map (plan first).distinct hmem htarget
    by_contra hother
    rw [hfirst] at hcandidate
    rcases status_simulated (plan first) (succeedsAt target.result) hmem with ⟨_, h⟩ | ⟨_, h⟩
    · rw [h, succeedsAt_of_ne hother] at hcandidate
      cases hcandidate
    · rw [h] at hcandidate
      cases hcandidate
  have hsparse : Sparse rw.spatial (evaluator.filteringBox rw.spatial) (plan first).grasps
      (simulated (plan first) (outcome first)) := by
    intro p hp q hq hnear
    rw [honly p hp, honly q hq] at hnear
    exact hnear.1 rfl
  have hlifted : target ∈ liftedTargets (plan first).grasps
      (simulated (plan first) (outcome first)) := by
    apply mem_liftedTargets.mpr ⟨htarget, _⟩
    rw [hstatus, hfirst, succeedsAt_self]
    rfl
  rw [leftOver_of_sparse rw evaluator plan outcome first hsparse, hsecond,
    liftedTargets_of_missed, List.length_nil, Nat.cast_zero, zero_div] at hcoverage
  exact (coverage_pos hlifted).ne' hcoverage

/-- If only the second gripper has a target to simulate, it is not simulated. -/
theorem not_isolated_of_second (hfirst : AllSkipped (plan first)) (h : ¬ AllSkipped (plan second)) :
    ∃ outcome,
      ¬ (makeStandardEvaluationManager rw evaluator plan outcome).Isolated first second := by
  obtain ⟨target, htarget, hstatus⟩ := exists_simulated h
  refine ⟨fun _ => uniform .success rfl, fun hisolated => ?_⟩
  have hcoverage := coverage_of_isolated rw evaluator plan _ first second hisolated
  have hlifted : target ∈ liftedTargets (plan second).grasps
      (simulated (plan second) (uniform .success rfl)) := by
    apply mem_liftedTargets.mpr ⟨htarget, _⟩
    rw [hstatus]
    rfl
  rw [leftOver_of_skipped rw evaluator plan _ first hfirst,
    OldGripperEvaluator.liftedTargets_of_skipped hfirst, List.length_nil, Nat.cast_zero,
    zero_div] at hcoverage
  exact (coverage_pos hlifted).ne hcoverage

end Twice

/-- Whatever the simulation gives, the second evaluation is not influenced by the first
exactly when neither gripper has a target to simulate, or the gripper is the same and no two
of its targets to simulate are thinned out by the coverage. -/
theorem isolated_iff [IsStrictOrderedRing R] (rw : RobWork R G V)
    (evaluator : OldGripperEvaluator Gr R) (plan : Gr → PlannedGrasps R G V) (first second : Gr) :
    (∀ outcome, (makeStandardEvaluationManager rw evaluator plan outcome).Isolated first second) ↔
      AllSkipped (plan first) ∧ AllSkipped (plan second) ∨
        first = second ∧ Sparse rw.spatial (evaluator.filteringBox rw.spatial)
          (plan first).grasps (plan first).results := by
  constructor
  · intro h
    by_cases hsame : first = second
    · subst hsame
      by_contra hnot
      obtain ⟨outcome, houtcome⟩ := not_isolated_of_close rw evaluator plan first
        fun hsparse => hnot (Or.inr ⟨rfl, hsparse⟩)
      exact houtcome (h outcome)
    · by_contra hnot
      by_cases hfirst : AllSkipped (plan first)
      · obtain ⟨outcome, houtcome⟩ := not_isolated_of_second rw evaluator plan first second hfirst
          fun hsecond => hnot (Or.inl ⟨hfirst, hsecond⟩)
        exact houtcome (h outcome)
      · obtain ⟨outcome, houtcome⟩ :=
          not_isolated_of_first rw evaluator plan first second hsame hfirst
        exact houtcome (h outcome)
  · rintro (⟨hfirst, hsecond⟩ | ⟨rfl, hsparse⟩) outcome
    · exact isolated_of_skipped rw evaluator plan outcome first second hfirst hsecond
    · exact isolated_of_sparse rw evaluator plan outcome first hsparse

/-! ## Two grippers and two grasps -/

namespace Sample
open GripperEvaluator.Sample

/-- Two targets at a distance, both to be simulated. -/
def planned (distance : ℚ) : PlannedGrasps ℚ ℤˣ ℚ where
  grasps := grasps distance
  results := fun ptr => { success ptr with testStatus := .unInitialized }
  distinct := by simp [GraspTask.DistinctResults, GraspTask.targets, grasps]
  planned _ _ := Or.inl rfl

def oldEvaluator : OldGripperEvaluator Bool ℚ where
  coverageDistance := ⟨[1, 0, 0]⟩
  stressLimit := 1
  volumeLimit := 1
  alignmentFilteringDistance := 1
  getMaxStress _ := 0
  getVolume _ := 0

/-- One gripper lifts every object and the other one misses them all. -/
def outcomes (gripper : Bool) : Outcome ℚ ℤˣ ℚ :=
  if gripper then uniform .success rfl else uniform .objectMissed rfl

end Sample

end Gripperz.Process
