import Gripperz.Process.StandardGripperEvaluationProcessManager

/-! # The pipeline of the optimisation tool

`optimize_gripper` puts a filter between the source of the grasps and the simulator which
clears their statuses. So every evaluation starts from the grasps as they were planned.
-/
namespace Gripperz.Process
open Grasps Simulation Evaluation Models

variable {Gr R G V : Type} [Field R] [LinearOrder R] [FloorRing R] [Group G] [AddCommGroup V]
  [DistribMulAction G V]

/-- `make_grasp_source` without further filters. -/
def makeGraspSource (plan : Gr → Option (OwnedGrasps R G V)) : GraspSource Gr R G V :=
  .filtered (.caching plan) [ClearStatusFilter.filter]

/-- `make_evaluation_manager`; `view` is what the calculators read of a gripper. -/
def makeEvaluationManager (rw : RobWork R G V) (view : Gr → Gripper R)
    (plan : Gr → Option (OwnedGrasps R G V)) (outcome : Gr → Outcome R G V)
    (evaluator : GripperEvaluator R) : StandardGripperEvaluationProcessManager Gr R G V where
  graspSource := makeGraspSource plan
  simulator := outcome
  evaluator gripper := evaluator.evaluate rw (view gripper)

/-- In an evaluation every target that the planner did not mark `Skip` is uninitialized and
gets the outcome for the gripper; a target it marked stays marked throughout. -/
structure SimulatedAnew (owned : OwnedGrasps R G V) (outcome : Gr → Outcome R G V)
    (evaluation : Evaluated Gr R G V) : Prop where
  grasps : evaluation.grasps = owned.grasps
  anew : ∀ target ∈ owned.grasps.targets, (owned.results target.result).testStatus ≠ .skip →
    (evaluation.generated target.result).testStatus = .unInitialized ∧
      (evaluation.simulated target.result).testStatus =
        (outcome evaluation.gripper).testStatus target
  skipped : ∀ target ∈ owned.grasps.targets, (owned.results target.result).testStatus = .skip →
    (evaluation.generated target.result).testStatus = .skip ∧
      (evaluation.simulated target.result).testStatus = .skip ∧
      (evaluation.evaluated target.result).testStatus = .skip

/-- The source keeps the planned grasps, with the same targets marked `Skip`. -/
structure KeepsPlan (owned : OwnedGrasps R G V) (cache : Cache R G V) : Prop where
  grasps : cache.grasps = owned.grasps
  skip : ∀ target ∈ owned.grasps.targets, (cache.results target.result).testStatus = .skip ↔
    (owned.results target.result).testStatus = .skip

variable [IsStrictOrderedRing R] {rw : RobWork R G V} {view : Gr → Gripper R}
  {plan : Gr → Option (OwnedGrasps R G V)} {outcome : Gr → Outcome R G V}
  {evaluator : GripperEvaluator R} {owned : OwnedGrasps R G V}

omit [Field R] [LinearOrder R] [FloorRing R] [Group G] [AddCommGroup V] [DistribMulAction G V]
  [IsStrictOrderedRing R] in
/-- After the filter the targets are uninitialized, but for those marked `Skip`. -/
theorem cleared_target {cache : Cache R G V} {target : GraspTarget G V}
    (h : target ∈ cache.grasps.targets) :
    ((ClearStatusFilter.filter cache.grasps cache.results).2 target.result).testStatus =
      if (cache.results target.result).testStatus = .skip then .skip else .unInitialized := by
  rw [ClearStatusFilter.filter_results]
  split
  · rename_i hskip
    rw [Results.mark_of_not_mem, hskip]
    exact fun hmem => hmem.2 hskip
  · rename_i hskip
    exact Results.testStatus_mark_of_mem ⟨⟨target, h, rfl⟩, hskip⟩

/-- One evaluation from planned grasps. -/
theorem evaluateGripper_anew {cache : Cache R G V} (h : KeepsPlan owned cache) (gripper : Gr) :
    ∃ evaluation cache', (makeEvaluationManager rw view plan outcome evaluator).evaluateGripper
        gripper (some cache) = some (evaluation, cache') ∧ evaluation.gripper = gripper ∧
      SimulatedAnew owned outcome evaluation ∧ KeepsPlan owned cache' := by
  set generated := (ClearStatusFilter.filter cache.grasps cache.results).2 with hgenerated
  set simulated := simulate (outcome gripper) cache.grasps generated with hsimulated
  set evaluated := evaluator.evaluate rw (view gripper) cache.grasps simulated with hevaluated
  have hrun : (makeEvaluationManager rw view plan outcome evaluator).evaluateGripper gripper
      (some cache) = some (⟨gripper, evaluated.1, cache.grasps, generated, simulated, evaluated.2⟩,
        { cache with results := evaluated.2 }) := by
    have hcopy : (ClearStatusFilter.filter cache.grasps cache.results).1 = cache.grasps :=
      cache.grasps.cloneWith_true
    simp only [makeEvaluationManager, makeGraspSource,
      StandardGripperEvaluationProcessManager.evaluateGripper, GraspSource.getGrasps,
      GraspFilterChain.filter, List.foldl_cons, List.foldl_nil, Option.map_some, hcopy]
    rfl
  have hdistinct : cache.grasps.DistinctResults := h.grasps ▸ owned.distinct
  have hstart (target : GraspTarget G V) (ht : target ∈ owned.grasps.targets) :
      (generated target.result).testStatus =
        if (owned.results target.result).testStatus = .skip then .skip else .unInitialized := by
    rw [hgenerated, cleared_target (h.grasps ▸ ht)]
    simp only [h.skip target ht]
  have hanew (target : GraspTarget G V) (ht : target ∈ owned.grasps.targets)
      (hplan : (owned.results target.result).testStatus ≠ .skip) :
      (generated target.result).testStatus = .unInitialized ∧
        (simulated target.result).testStatus = (outcome gripper).testStatus target := by
    have hfresh := hstart target ht
    rw [if_neg hplan] at hfresh
    refine ⟨hfresh, ?_⟩
    rw [hsimulated, simulate_target _ _ hdistinct (h.grasps ▸ ht), if_pos hfresh]
    rfl
  have hskipped (target : GraspTarget G V) (ht : target ∈ owned.grasps.targets)
      (hplan : (owned.results target.result).testStatus = .skip) :
      (generated target.result).testStatus = .skip ∧
        (simulated target.result).testStatus = .skip ∧
        (evaluated.2 target.result).testStatus = .skip := by
    have hskip := hstart target ht
    rw [if_pos hplan] at hskip
    have hpassed : (simulated target.result).testStatus = .skip := by
      rw [hsimulated, simulate_target _ _ hdistinct (h.grasps ▸ ht), if_neg (by simp [hskip]),
        hskip]
    refine ⟨hskip, hpassed, ?_⟩
    rcases GripperEvaluator.evaluate_results evaluator (view gripper) simulated target.result with
      hsame | ⟨hcandidate, _⟩
    · exact hsame ▸ hpassed
    · rw [hpassed] at hcandidate
      cases hcandidate
  refine ⟨_, _, hrun, rfl, ⟨h.grasps, hanew, hskipped⟩, ⟨h.grasps, fun target ht => ⟨?_, ?_⟩⟩⟩
  · intro hskip
    by_contra hplan
    have hstatus := (hanew target ht hplan).2
    have hended := ne_of_isOutcome ((outcome gripper).ended target)
    change (evaluated.2 target.result).testStatus = .skip at hskip
    rcases GripperEvaluator.evaluate_results evaluator (view gripper) simulated target.result with
      hsame | ⟨_, hmarked⟩
    · rw [hevaluated, hsame, hstatus] at hskip
      exact hended.2.1 hskip
    · rw [hevaluated, hmarked] at hskip
      cases hskip
  · exact fun hplan => (hskipped target ht hplan).2.2

theorem evaluateGrippers_anew {cache : Cache R G V} (h : KeepsPlan owned cache)
    (grippers : List Gr) :
    ∃ evaluations, (makeEvaluationManager rw view plan outcome evaluator).evaluateGrippers grippers
        (some cache) = some evaluations ∧
      evaluations.map Evaluated.gripper = grippers ∧
      ∀ evaluation ∈ evaluations, SimulatedAnew owned outcome evaluation := by
  induction grippers generalizing cache with
  | nil => exact ⟨[], rfl, rfl, by simp⟩
  | cons gripper grippers ih =>
    obtain ⟨evaluation, cache', hrun, hgripper, hanew, hkeeps⟩ := evaluateGripper_anew h gripper
    obtain ⟨evaluations, hrest, hgrippers, hall⟩ := ih hkeeps
    refine ⟨evaluation :: evaluations, ?_, ?_, ?_⟩
    · rw [StandardGripperEvaluationProcessManager.evaluateGrippers, hrun, Option.bind_some, hrest]
      rfl
    · rw [List.map_cons, hgripper, hgrippers]
    · intro other hother
      rcases List.mem_cons.mp hother with rfl | hother
      · exact hanew
      · exact hall other hother

/-- For every sequence of grippers, every evaluation simulates all planned targets anew and
skips the others, whatever the calculators have marked before. -/
theorem simulated_anew (rw : RobWork R G V) (view : Gr → Gripper R)
    (plan : Gr → Option (OwnedGrasps R G V)) (outcome : Gr → Outcome R G V)
    (evaluator : GripperEvaluator R) (gripper : Gr) (grippers : List Gr) (owned : OwnedGrasps R G V)
    (planned : plan gripper = some owned) :
    ∃ evaluations, (makeEvaluationManager rw view plan outcome evaluator).evaluateGrippers
        (gripper :: grippers) none = some evaluations ∧
      evaluations.map Evaluated.gripper = gripper :: grippers ∧
      ∀ evaluation ∈ evaluations, SimulatedAnew owned outcome evaluation := by
  have hplan : (makeEvaluationManager rw view plan outcome evaluator).evaluateGrippers
      (gripper :: grippers) none =
      (makeEvaluationManager rw view plan outcome evaluator).evaluateGrippers
        (gripper :: grippers) (some ⟨owned.grasps, owned.results⟩) := by
    simp [StandardGripperEvaluationProcessManager.evaluateGrippers,
      StandardGripperEvaluationProcessManager.evaluateGripper, makeEvaluationManager,
      makeGraspSource, GraspSource.getGrasps, planned]
  rw [hplan]
  exact evaluateGrippers_anew ⟨rfl, fun _ _ => Iff.rfl⟩ (gripper :: grippers)

namespace Sample
open GripperEvaluator.Sample

/-- Two close targets are planned to be simulated, and a third is to be skipped. -/
def ownedGrasps : OwnedGrasps ℚ ℤˣ ℚ where
  grasps := { grasps 1 with
    subTasks := [⟨"world", 1, 1, 1, ⟨[]⟩, [⟨⟨1, 0⟩, 0⟩, ⟨⟨1, 1⟩, 1⟩, ⟨⟨1, 5⟩, 2⟩]⟩] }
  results := fun ptr =>
    { success ptr with testStatus := if ptr = 2 then .skip else .unInitialized }
  distinct := by decide

/-- One gripper lifts the object wherever it grasps it, and the other slips. -/
def slips (gripper : Bool) : Outcome ℚ ℤˣ ℚ where
  testStatus _ := if gripper then .success else .objectSlipped
  record _ r := r
  ended _ := by split <;> rfl

end Sample

/-- The second gripper slips on the target which the coverage of the first has filtered. -/
theorem simulated_anew_two :
    ∃ evaluations, (makeEvaluationManager GripperEvaluator.Sample.robWork
        (fun _ : Bool => GripperEvaluator.Sample.gripper) (fun _ => some Sample.ownedGrasps)
        Sample.slips GripperEvaluator.Sample.evaluator).evaluateGrippers [true, false] none =
          some evaluations ∧
      evaluations.map Evaluated.gripper = [true, false] ∧
      ∀ evaluation ∈ evaluations, SimulatedAnew Sample.ownedGrasps Sample.slips evaluation :=
  simulated_anew GripperEvaluator.Sample.robWork (fun _ => GripperEvaluator.Sample.gripper)
    (fun _ => some Sample.ownedGrasps) Sample.slips GripperEvaluator.Sample.evaluator true [false]
    Sample.ownedGrasps rfl

end Gripperz.Process
