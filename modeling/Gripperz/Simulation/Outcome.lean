import Gripperz.Grasps.Types

/-! # The outcome of a simulation

Seen from outside, the simulator gives every target with an uninitialized result an
outcome and passes over the others.
-/
namespace Gripperz.Simulation
open Grasps

variable {R G V : Type}

/-- The statuses a simulated target can be left with. -/
def isOutcome : TestStatus → Bool
  | .success | .objectMissed | .objectDropped | .objectSlipped | .timeOut | .simulationFailure
  | .collisionObjectInitially | .collisionEnvironmentInitially | .collisionDuringExecution
  | .interference => true
  | _ => false

/-- What becomes of each target that is simulated: its status, and what else is recorded in
its result. -/
structure Outcome (R G V : Type) where
  testStatus : GraspTarget G V → TestStatus
  record : GraspTarget G V → GraspResult R G V → GraspResult R G V
  ended : ∀ target, isOutcome (testStatus target) = true

def Outcome.judge (outcome : Outcome R G V) (target : GraspTarget G V) (r : GraspResult R G V) :
    GraspResult R G V :=
  { outcome.record target r with testStatus := outcome.testStatus target }

/-- A target is simulated, unless it was processed before. -/
def simulateTarget (outcome : Outcome R G V) (results : Results R G V) (target : GraspTarget G V) :
    Results R G V :=
  if (results target.result).testStatus = .unInitialized then
    results.edit target.result (outcome.judge target)
  else results

def simulate (outcome : Outcome R G V) (grasps : GraspTask R G V) (results : Results R G V) :
    Results R G V :=
  grasps.targets.foldl (simulateTarget outcome) results

variable {outcome : Outcome R G V} {results : Results R G V} {grasps : GraspTask R G V}
  {target : GraspTarget G V}

theorem ne_of_isOutcome {status : TestStatus} (h : isOutcome status = true) :
    status ≠ .unInitialized ∧ status ≠ .skip ∧ status ≠ .filtered := by
  refine ⟨?_, ?_, ?_⟩ <;> rintro rfl <;> cases h

theorem simulateTarget_of_ne {ptr : ResultPtr} (h : ptr ≠ target.result) :
    simulateTarget outcome results target ptr = results ptr := by
  unfold simulateTarget
  split
  · exact Results.edit_of_ne _ _ h
  · rfl

theorem foldl_simulateTarget_of_not_mem {targets : List (GraspTarget G V)} {ptr : ResultPtr}
    (h : ptr ∉ targets.map GraspTarget.result) :
    targets.foldl (simulateTarget outcome) results ptr = results ptr := by
  induction targets generalizing results with
  | nil => rfl
  | cons target targets ih =>
    rw [List.map_cons, List.mem_cons, not_or] at h
    rw [List.foldl_cons, ih h.2, simulateTarget_of_ne h.1]

/-- A target with a result of its own gets its outcome exactly when it was uninitialized. -/
theorem simulate_target (outcome : Outcome R G V) (results : Results R G V)
    (distinct : grasps.DistinctResults) (h : target ∈ grasps.targets) :
    simulate outcome grasps results target.result =
      if (results target.result).testStatus = .unInitialized then
        outcome.judge target (results target.result)
      else results target.result := by
  unfold simulate
  unfold GraspTask.DistinctResults at distinct
  generalize grasps.targets = targets at distinct h
  induction targets generalizing results with
  | nil => simp at h
  | cons first targets ih =>
    rw [List.map_cons, List.nodup_cons] at distinct
    rw [List.foldl_cons]
    rcases List.mem_cons.mp h with rfl | h
    · rw [foldl_simulateTarget_of_not_mem distinct.1]
      unfold simulateTarget
      split
      · exact Results.edit_self _ _ _
      · rfl
    · have hne : target.result ≠ first.result :=
        fun heq => distinct.1 (heq ▸ List.mem_map_of_mem h)
      rw [ih _ distinct.2 h, simulateTarget_of_ne hne]

/-- Targets that were all processed before are left as they are. -/
theorem simulate_of_processed
    (h : ∀ target ∈ grasps.targets, (results target.result).testStatus ≠ .unInitialized) :
    simulate outcome grasps results = results := by
  unfold simulate
  generalize grasps.targets = targets at h
  induction targets with
  | nil => rfl
  | cons target targets ih =>
    have hfirst : simulateTarget outcome results target = results :=
      if_neg (h target (by simp))
    rw [List.foldl_cons, hfirst]
    exact ih fun other hother => h other (by simp [hother])

end Gripperz.Simulation
