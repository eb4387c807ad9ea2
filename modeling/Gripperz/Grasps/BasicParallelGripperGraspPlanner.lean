import Gripperz.Context.TaskDescription
import Gripperz.Grasps.GraspSource
import Gripperz.Library.Loop
import Gripperz.Simulation.WorkCell

/-! # The parallel gripper planner

`planGrasps` tries samples of the surface of the target object until enough of them are free of
collision. Stored samples come first; drawing one from the surface is a stream. Every sample
tried becomes a target of its own subtask, to be simulated or to be skipped.

The planner keeps a log of what it tries; it is written and never read.
-/
namespace Gripperz.Grasps
open Math Context Simulation Library

variable {R G V S : Type}

structure SurfaceSample (R G V : Type) where
  transform : Transform3D G V
  graspW : R
  deriving DecidableEq, Repr

/-- What has been tried: a sample, the state in which it was tested and the outcome. -/
structure Trial (R G V S : Type) where
  sample : SurfaceSample R G V
  state : S
  collided : Bool

/-- The variables of `planGrasps`. The results are those made so far. -/
structure Planning (R G V S : Type) where
  ssamples : List (SurfaceSample R G V)
  drawn : ℕ
  state : S
  failures_in_row : ℕ
  successes : ℕ
  grasps : GraspTask R G V
  results : List (GraspResult R G V)
  log : List (Trial R G V S)

section
variable [Group G] [AddCommGroup V] [DistribMulAction G V]

/-- `MovableFrame::moveTo`: a frame is moved to a pose in the world. -/
def moveTo (wc : WorkCell R G V S) (frame : String) (pose : Transform3D G V) (state : S) : S :=
  wc.setTransform frame ((wc.worldTframe (wc.parent frame state) state)⁻¹ * pose) state

def moveFrameW (wc : WorkCell R G V S) (wTtcp : Transform3D G V) (tcp base : String) (state : S) :
    S :=
  let tcpTbase := wc.frameTframe tcp base state
  let wTbase_target := wTtcp * tcpTbase
  moveTo wc base wTbase_target state

end

/-- A default-constructed `GraspResult`. -/
def newGraspResult [Zero R] [One G] [Zero V] : GraspResult R G V where
  testStatus := .unInitialized
  liftresult := 0
  gripperConfigurationGrasp := ⟨[]⟩
  gripperConfigurationLift := ⟨[]⟩
  objectTtcpTarget := ⟨1, 0⟩
  objectTtcpApproach := ⟨1, 0⟩
  objectTtcpGrasp := ⟨1, 0⟩
  objectTtcpLift := ⟨1, 0⟩
  qualityBeforeLifting := ⟨[]⟩
  qualityAfterLifting := ⟨[]⟩
  contactsGrasp := []
  contactsLift := []

/-- A default-constructed `GraspSubTask` refers to the world. -/
def newGraspSubTask [One G] [Zero V] : GraspSubTask R G V where
  refFrame := "WORLD"
  offset := ⟨1, 0⟩
  approach := ⟨1, 0⟩
  retract := ⟨1, 0⟩
  tauMax := ⟨[]⟩
  targets := []

/-- What the planner is made with, and the collision detector and the stream of samples it
makes. -/
structure BasicParallelGripperGraspPlanner (R G V S : Type) where
  td : TaskDescription R G V S
  state : S
  ssamples : List (SurfaceSample R G V)
  inCollision : S → Bool
  sample : ℕ → SurfaceSample R G V

namespace BasicParallelGripperGraspPlanner
variable [Field R] [Group G] [AddCommGroup V] [Module R V] [DistribMulAction G V]
  (wc : WorkCell R G V S) (spatial : Spatial R G V)
  (planner : BasicParallelGripperGraspPlanner R G V S)

/-- `Transform3D<>(Vector3D<>(0, 0, z))`. -/
def alongZ (z : R) : Transform3D G V := .translation (z • spatial.z)

def wTobj : Transform3D G V := wc.worldTframe planner.td.targetObject.base planner.state

/-- The last stored sample, or a new one when none is left. -/
def nextSample (p : Planning R G V S) : SurfaceSample R G V × Planning R G V S :=
  match p.ssamples.getLast? with
  | some ssample => (ssample, { p with ssamples := p.ssamples.dropLast })
  | none => (planner.sample p.drawn, { p with drawn := p.drawn + 1 })

/-- The subtask of a target that is free of collision. -/
def freeSubTask (target : Transform3D G V) (result : ResultPtr) : GraspSubTask R G V :=
  { (newGraspSubTask : GraspSubTask R G V) with
    offset := planner.wTobj wc
    approach := alongZ spatial (3 / 10)
    retract := alongZ spatial (1 / 10)
    targets := [⟨target, result⟩] }

/-- The subtask of a target that is not. -/
def skippedSubTask (target : Transform3D G V) (result : ResultPtr) : GraspSubTask R G V :=
  { (newGraspSubTask : GraspSubTask R G V) with targets := [⟨target, result⟩] }

/-- A subtask with a target of its own, and the result of this target. -/
def addSubTask (subtask : Transform3D G V → ResultPtr → GraspSubTask R G V)
    (target : Transform3D G V) (result : GraspResult R G V) (p : Planning R G V S) :
    Planning R G V S :=
  { p with
    grasps := { p.grasps with subTasks := p.grasps.subTasks ++ [subtask target p.results.length] }
    results := p.results ++ [result] }

/-- One round of the loop, and whether it is left by `break`. -/
def round (p : Planning R G V S) : Planning R G V S × Bool :=
  let (ssample, p) := planner.nextSample p
  let target := ssample.transform
  let oq : Q R := ⟨[planner.td.gripperDevice.bounds.2.get 0]⟩
  let state := planner.td.gripperDevice.setQ oq p.state
  let state := moveFrameW wc (planner.wTobj wc * target) planner.td.gripperTCP
    planner.td.gripperMovable state
  let collided := planner.inCollision state
  let p := { p with state := state, log := p.log ++ [Trial.mk ssample state collided] }
  if !collided then
    let p := { p with successes := p.successes + 1, failures_in_row := 0 }
    (addSubTask (planner.freeSubTask wc spatial) target
      { (newGraspResult : GraspResult R G V) with objectTtcpTarget := target } p, false)
  else
    let p := { p with failures_in_row := p.failures_in_row + 1 }
    if 10000 < p.failures_in_row then (p, true)
    else (addSubTask skippedSubTask target
      { (newGraspResult : GraspResult R G V) with
        testStatus := .skip, objectTtcpTarget := target, gripperConfigurationGrasp := oq } p, false)

/-- The grasps before the loop: one subtask without targets. -/
def setup : GraspTask R G V where
  gripperID := planner.td.gripperID
  tcpID := planner.td.gripperTCP
  subTasks := [{ (newGraspSubTask : GraspSubTask R G V) with
    offset := planner.wTobj wc
    approach := alongZ spatial (1 / 10)
    retract := alongZ spatial (1 / 10) }]

def start : Planning R G V S where
  ssamples := planner.ssamples
  drawn := 0
  state := planner.state
  failures_in_row := 0
  successes := 0
  grasps := planner.setup wc spatial
  results := []
  log := []

/-- `planGrasps`, its loop given up after `fuel` rounds. -/
def planGrasps (nGrasps fuel : ℕ) : Option (Planning R G V S) :=
  whileLoop (fun p => p.successes < nGrasps) (planner.round wc spatial) fuel
    (planner.start wc spatial)

end BasicParallelGripperGraspPlanner
end Gripperz.Grasps
