import Gripperz.Math.Q
import Gripperz.Math.Transform3D

/-! # Grasp sets

A grasp set is a list of subtasks, each with its targets. A target holds a pose and a
pointer to its result; copies of a target share the result. Results live in a heap.
-/
namespace Gripperz.Grasps
open Math

/-- `GraspResult::TestStatus`: the statuses this program uses by name, the others of
the status array, and the numbers beyond it. -/
inductive TestStatus where
  | unInitialized | success | objectMissed | objectDropped | objectSlipped | timeOut
  | simulationFailure | collisionObjectInitially | collisionEnvironmentInitially
  | collisionDuringExecution | interference | skip | filtered
  | other (code : ℕ)
  | beyond (code : ℕ)
  deriving DecidableEq, Repr

/-- `testStatus < SizeOfStatusArray`. -/
def TestStatus.inStatusArray : TestStatus → Bool
  | .beyond _ => false
  | _ => true

structure Contact3D (R V : Type) where
  p : V
  n : V
  mu : R
  normalForce : R
  deriving DecidableEq, Repr

structure GraspResult (R G V : Type) where
  testStatus : TestStatus
  liftresult : R
  gripperConfigurationGrasp : Q R
  gripperConfigurationLift : Q R
  objectTtcpTarget : Transform3D G V
  objectTtcpApproach : Transform3D G V
  objectTtcpGrasp : Transform3D G V
  objectTtcpLift : Transform3D G V
  qualityBeforeLifting : Q R
  qualityAfterLifting : Q R
  contactsGrasp : List (Contact3D R V)
  contactsLift : List (Contact3D R V)

/-- `GraspResult::Ptr`. -/
abbrev ResultPtr := ℕ

/-- The result objects, by pointer. -/
abbrev Results (R G V : Type) := ResultPtr → GraspResult R G V

/-- Rewrite the result object at a pointer. -/
def Results.edit {R G V : Type} (results : Results R G V) (ptr : ResultPtr)
    (e : GraspResult R G V → GraspResult R G V) : Results R G V :=
  Function.update results ptr (e (results ptr))

structure GraspTarget (G V : Type) where
  pose : Transform3D G V
  result : ResultPtr
  deriving DecidableEq, Repr

structure GraspSubTask (R G V : Type) where
  refFrame : String
  offset : Transform3D G V
  approach : Transform3D G V
  retract : Transform3D G V
  tauMax : Q R
  targets : List (GraspTarget G V)
  deriving DecidableEq, Repr

structure GraspTask (R G V : Type) where
  gripperID : String
  tcpID : String
  subTasks : List (GraspSubTask R G V)
  deriving DecidableEq, Repr

/-- A target built from a pose has no result yet: its pointer is the null pointer. -/
def newGraspTarget {G V : Type} (null : ResultPtr) (pose : Transform3D G V) : GraspTarget G V :=
  ⟨pose, null⟩

namespace Results
variable {R G V : Type} (results : Results R G V) (e : GraspResult R G V → GraspResult R G V)

@[simp] theorem edit_self (ptr : ResultPtr) : results.edit ptr e ptr = e (results ptr) := by
  simp [edit]

theorem edit_of_ne {ptr ptr' : ResultPtr} (h : ptr' ≠ ptr) :
    results.edit ptr e ptr' = results ptr' := by
  simp [edit, h]

end Results

/-- All targets, in subtask and target order. -/
def GraspTask.targets {R G V : Type} (task : GraspTask R G V) : List (GraspTarget G V) :=
  task.subTasks.flatMap GraspSubTask.targets

/-- No two targets share a result object. -/
def GraspTask.DistinctResults {R G V : Type} (task : GraspTask R G V) : Prop :=
  (task.targets.map GraspTarget.result).Nodup

instance {R G V : Type} (task : GraspTask R G V) : Decidable task.DistinctResults :=
  inferInstanceAs (Decidable (List.Nodup _))

end Gripperz.Grasps
