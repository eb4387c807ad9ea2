import Gripperz.Library.Pool
import Gripperz.Simulation.WorkCell

/-! # The grasp task simulator

Every simulator thread steps through `APPROACH`, `GRASPING`, `LIFTING` and `NEW_GRASP`
for one target after the other; the targets come from a queue shared by all threads.
`stepCB` is one callback of one thread. What the physics engine does between two
callbacks is free: each callback is given the state, the times and the error flag.

The object keeps a log of what happens to the targets; it is written and never read.
Delays, messages and the commands to the physics engine are left out.
-/
namespace Gripperz.Simulation
open Math Grasps

/-- A `GraspSubTask*`: the position in the task set and what is found there. -/
structure SubTaskPtr (R G V : Type) where
  address : ℕ
  subTask : GraspSubTask R G V
  deriving DecidableEq

/-- A `GraspTarget*`. -/
structure TargetPtr (G V : Type) where
  address : ℕ × ℕ
  target : GraspTarget G V
  deriving DecidableEq

inductive StepState where
  | grasping | lifting | newGrasp | approach
  deriving DecidableEq, Repr

/-- What a thread keeps of its current subtask. -/
structure TaskCache (R G V : Type) where
  task : Option (SubTaskPtr R G V)
  taskRefFrame : String
  taskOffset : Transform3D G V
  approach : Transform3D G V
  retract : Transform3D G V
  openQ : Q R
  closeQ : Q R
  deriving DecidableEq

structure SimState (R G V S : Type) extends TaskCache R G V where
  restingTime : R
  graspTime : R
  approachedTime : R
  currentState : StepState
  state : S
  homeState : S
  target : Option (TargetPtr G V)
  postLiftObjState : S
  restCount : ℤ
  wTtcp_initTarget : Transform3D G V
  wTmbase_initTarget : Transform3D G V
  wTmbase_approachTarget : Transform3D G V
  wTmbase_retractTarget : Transform3D G V
  stopped : Bool

/-- `_failed`, `_success`, …: how grasps came out. -/
inductive Counter where
  | failed | success | slipped | collision | timeout | simfailed | skipped
  deriving DecidableEq, Repr

/-- What a log entry says has happened. -/
inductive Happening (R G V : Type) where
  | taken (cache : TaskCache R G V)
  | skipped (status : TestStatus)
  | collided (status : TestStatus)
  | setUp (objectTtcpTarget : Transform3D G V)
  | approached (objectTtcpApproach : Transform3D G V)
  | grasped (qualityBeforeLifting : Q R) (contactsGrasp : List (Contact3D R V))
  | lifted (qualityAfterLifting : Q R) (objectTtcpGrasp objectTtcpLift : Transform3D G V)
  | finished (counter : Counter) (status final : TestStatus)
  deriving DecidableEq

abbrev Event (ι R G V : Type) := Library.Entry ι (TargetPtr G V) (Happening R G V)

structure GraspTaskSimulator (ι R G V S : Type) where
  requestSimulationStop : Bool
  autoSaveInterval : ℕ
  stat : TestStatus → ℕ
  counters : Counter → ℕ
  nrOfExperiments : ℕ
  lastSaveTaskIndex : ℕ
  totalNrOfExperiments : ℕ
  objects : List String
  dhand : Option (Device R S)
  hand : Device R S
  /-- The motor force limits of the hand, which is the same for all threads. -/
  motorForceLimits : Q R
  mbase : String
  tcp : String
  initState : S
  currentTask : Option (SubTaskPtr R G V)
  currentTarget : Option (TargetPtr G V)
  gtask : GraspTask R G V
  taskQueue : List (SubTaskPtr R G V × TargetPtr G V)
  wallTimeLimit : R
  simTimeLimit : R
  storeTimedStatePaths : Bool
  forceSimulateAll : Bool
  timedStatePaths : List (Option (SubTaskPtr R G V) × Option (TargetPtr G V) × R × S)
  results : Results R G V
  log : List (Event ι R G V)

/-- The regrading of a finished grasp by the class of the simulator. -/
inductive Grader (R G V : Type) where
  | graspTask
  | basic
  | interference (limit : R) (objects : List String)
      (metric : Transform3D G V → Transform3D G V → R)
  | alignment (expectedPose : Transform3D G V) (threshold : R)
      (metric : Transform3D G V → Transform3D G V → R)

/-- What one callback is told: the state, `sim->getTime()`, the wall timer and
`sim->isInError()`. -/
structure StepInput (R S : Type) where
  state : S
  time : R
  wallTime : R
  isInError : Bool

/-- The object and the thread's own state in the course of one callback. -/
structure Call (ι R G V S : Type) where
  thread : ι
  sim : GraspTaskSimulator ι R G V S
  own : SimState R G V S

/-! ## Loading -/

/-- `generateTaskList`: subtasks and targets are pushed from last to first. -/
def generateTaskList {R G V : Type} (graspTasks : GraspTask R G V) :
    List (SubTaskPtr R G V × TargetPtr G V) × ℕ :=
  graspTasks.subTasks.zipIdx.reverse.foldl
    (fun acc subtask => subtask.1.targets.zipIdx.reverse.foldl
      (fun acc target =>
        ((⟨subtask.2, subtask.1⟩, ⟨(subtask.2, target.2), target.1⟩) :: acc.1, acc.2 + 1))
      acc)
    ([], 0)

variable {ι R G V S : Type}

namespace GraspTaskSimulator

/-- `load`: the object afterwards, and the message of the exception if it raises one. -/
def load (wc : WorkCell R G V S) (graspTasks : GraspTask R G V)
    (sim : GraspTaskSimulator ι R G V S) : GraspTaskSimulator ι R G V S × Option String :=
  let list := generateTaskList graspTasks
  let sim := { sim with gtask := graspTasks, timedStatePaths := [], taskQueue := list.1,
                        totalNrOfExperiments := list.2, objects := wc.rigidBodies }
  match wc.findDevice graspTasks.gripperID with
  | none =>
    ({ sim with dhand := none },
      some ("No such gripper in dynamic workcell: " ++ graspTasks.gripperID))
  | some dhand =>
    let sim := { sim with dhand := some dhand, hand := dhand,
                          motorForceLimits := dhand.motorForceLimits }
    match dhand.movableFrame with
    | none =>
      (sim, some ("The gripper base must be a KinematicBody / RigidBody: " ++ graspTasks.gripperID))
    | some mbase => ({ sim with mbase := mbase, tcp := graspTasks.tcpID }, none)

end GraspTaskSimulator

/-! ## Starting -/

/-- The object and its simulator threads. -/
structure World (ι R G V S : Type) where
  sim : GraspTaskSimulator ι R G V S
  threads : ι → SimState R G V S

namespace World
variable [Zero R] [Group G] [AddCommGroup V]

/-- A default-constructed `SimState` with its states set. -/
def newSimState (state : S) : SimState R G V S :=
  { task := none, taskRefFrame := "", taskOffset := 1, approach := 1, retract := 1, openQ := ⟨[]⟩,
    closeQ := ⟨[]⟩, restingTime := 0, graspTime := 0, approachedTime := 0,
    currentState := .newGrasp, state := state, homeState := state, target := none,
    postLiftObjState := state, restCount := 0, wTtcp_initTarget := 1, wTmbase_initTarget := 1,
    wTmbase_approachTarget := 1, wTmbase_retractTarget := 1, stopped := false }

/-- `startSimulation`; `below` is the pose the hand waits in. It starts with an empty log. -/
def startSimulation (wc : WorkCell R G V S) (below : Transform3D G V) (initState : S)
    (w : World ι R G V S) : World ι R G V S :=
  let sim := { w.sim with nrOfExperiments := 0, log := [] }
  if sim.totalNrOfExperiments = 0 then
    { w with sim := { sim with requestSimulationStop := true } }
  else
    { sim := { sim with requestSimulationStop := false, counters := fun _ => 0,
                        lastSaveTaskIndex := 0, stat := fun _ => 0, timedStatePaths := [] }
      threads := fun _ => newSimState (wc.setTransform sim.mbase below initState) }

/-- `BasicSimulator::start`. -/
def start (wc : WorkCell R G V S) (below : Transform3D G V) (initState : S)
    (w : World ι R G V S) : World ι R G V S :=
  startSimulation wc below initState { w with sim := { w.sim with initState := initState } }

def pauseSimulation (w : World ι R G V S) : World ι R G V S :=
  { w with sim := { w.sim with requestSimulationStop := true } }

def resumeSimulation (w : World ι R G V S) : World ι R G V S :=
  { w with sim := { w.sim with requestSimulationStop := false } }

end World
end Gripperz.Simulation
