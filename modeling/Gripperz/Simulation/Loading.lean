import Gripperz.Simulation.Dealing

/-! # Loading task sets

`load` assigns what it loads before it looks for the hand, and raises its exceptions with the
assignments made. The overload for files discards the task set that was read and loads the null
pointer. What a file holds is a parameter.
-/
namespace Gripperz.Simulation
open Math Grasps

variable {ι R G V S : Type} (wc : WorkCell R G V S) (parse : String → Option (GraspTask R G V))

/-- How an overload of `load` ends: it returns, after a warning or not, raises an exception or
follows a null pointer. -/
inductive Loaded (ι R G V S : Type) where
  | returned (sim : GraspTaskSimulator ι R G V S)
  | gaveUp (sim : GraspTaskSimulator ι R G V S)
  | raised (sim : GraspTaskSimulator ι R G V S) (message : String)
  | crashed

/-- What an overload of `load` is called with. -/
inductive Request (R G V : Type) where
  | file (filename : String)
  | tasks (graspTasks : GraspTask R G V)

namespace GraspTaskSimulator

/-- `load` of a pointer. The null pointer is followed to ask for the gripper. -/
def loadPtr (graspTasks : Option (GraspTask R G V)) (sim : GraspTaskSimulator ι R G V S) :
    Loaded ι R G V S :=
  match graspTasks with
  | none => .crashed
  | some graspTasks =>
    let loaded := sim.load wc graspTasks
    match loaded.2 with
    | none => .returned loaded.1
    | some message => .raised loaded.1 message

/-- `load` of a file. The pointer `task` is never assigned. -/
def loadFile (filename : String) (sim : GraspTaskSimulator ι R G V S) : Loaded ι R G V S :=
  match parse filename with
  | none => .gaveUp sim
  | some _ => sim.loadPtr wc none

def loadRequest (sim : GraspTaskSimulator ι R G V S) : Request R G V → Loaded ι R G V S
  | .file filename => sim.loadFile wc parse filename
  | .tasks graspTasks => sim.loadPtr wc (some graspTasks)

/-- The tasks, the queue, the number of targets and the hand are those of the other object. -/
structure SameTasks (sim sim' : GraspTaskSimulator ι R G V S) : Prop where
  gtask : sim'.gtask = sim.gtask
  taskQueue : sim'.taskQueue = sim.taskQueue
  total : sim'.totalNrOfExperiments = sim.totalNrOfExperiments
  dhand : sim'.dhand = sim.dhand
  hand : sim'.hand = sim.hand

/-- A file that can be read is loaded as the task set in it, and an overload that raises or gives
up leaves what was loaded before. -/
structure LoadsWhole (sim : GraspTaskSimulator ι R G V S) (request : Request R G V) : Prop where
  file : ∀ filename graspTasks, request = .file filename → parse filename = some graspTasks →
    sim.loadRequest wc parse request = sim.loadPtr wc (some graspTasks)
  raised : ∀ sim' message, sim.loadRequest wc parse request = .raised sim' message →
    sim.SameTasks sim'
  gaveUp : ∀ sim', sim.loadRequest wc parse request = .gaveUp sim' → sim.SameTasks sim'

/-- The gripper is a device of the work cell on a kinematic or a rigid base. -/
def Suitable (graspTasks : GraspTask R G V) : Prop :=
  ∃ dhand, wc.findDevice graspTasks.gripperID = some dhand ∧ dhand.movableFrame ≠ none

/-- The task set is the one last loaded, all of its targets are queued, and the hand is the gripper
of its name, if there is one. -/
structure Holds (sim : GraspTaskSimulator ι R G V S) (graspTasks : GraspTask R G V) : Prop where
  gtask : sim.gtask = graspTasks
  taskQueue : sim.taskQueue = (generateTaskList graspTasks).1
  total : sim.totalNrOfExperiments = (generateTaskList graspTasks).2
  dhand : sim.dhand = wc.findDevice graspTasks.gripperID
  hand : ∀ dhand, wc.findDevice graspTasks.gripperID = some dhand → sim.hand = dhand

/-- A request that leaves nothing half done. -/
def Whole (sim : GraspTaskSimulator ι R G V S) : Request R G V → Prop
  | .file filename => parse filename = none
  | .tasks graspTasks => Suitable wc graspTasks ∨ sim.Holds wc graspTasks

theorem SameTasks.refl (sim : GraspTaskSimulator ι R G V S) : sim.SameTasks sim :=
  ⟨rfl, rfl, rfl, rfl, rfl⟩

/-! ## What is assigned -/

variable {wc}

/-- Whether or not it raises, `load` has assigned the task set and its queue, and the hand as far
as it has been found. -/
theorem holds_load (graspTasks : GraspTask R G V) (sim : GraspTaskSimulator ι R G V S) :
    (sim.load wc graspTasks).1.Holds wc graspTasks := by
  cases hdevice : wc.findDevice graspTasks.gripperID with
  | none =>
    have hload : (sim.load wc graspTasks).1.dhand = none := by simp [load, hdevice]
    exact ⟨by simp [load, hdevice], by simp [load, hdevice], by simp [load, hdevice],
      hload.trans hdevice.symm, by simp [hdevice]⟩
  | some dhand =>
    cases hbase : dhand.movableFrame with
    | none => constructor <;> simp [load, hdevice, hbase]
    | some mbase => constructor <;> simp [load, hdevice, hbase]

/-- The hand stays when there is no gripper of the name. -/
theorem hand_load {graspTasks : GraspTask R G V} (h : wc.findDevice graspTasks.gripperID = none)
    (sim : GraspTaskSimulator ι R G V S) : (sim.load wc graspTasks).1.hand = sim.hand := by
  simp [load, h]

/-- Exceptions are raised for exactly the task sets whose gripper is not suitable. -/
theorem load_returns_iff (graspTasks : GraspTask R G V) (sim : GraspTaskSimulator ι R G V S) :
    (sim.load wc graspTasks).2 = none ↔ Suitable wc graspTasks := by
  unfold load Suitable
  simp only
  cases wc.findDevice graspTasks.gripperID with
  | none => simp
  | some dhand =>
    cases hbase : dhand.movableFrame with
    | none => simp [hbase]
    | some mbase => simp [hbase]

/-- What has been loaded is what was before exactly when the task set was loaded already. -/
theorem sameTasks_load_iff (graspTasks : GraspTask R G V) (sim : GraspTaskSimulator ι R G V S) :
    sim.SameTasks (sim.load wc graspTasks).1 ↔ sim.Holds wc graspTasks := by
  have hload : (sim.load wc graspTasks).1.Holds wc graspTasks := holds_load graspTasks sim
  constructor
  · intro h
    refine ⟨h.gtask ▸ hload.gtask, h.taskQueue ▸ hload.taskQueue, h.total ▸ hload.total,
      h.dhand ▸ hload.dhand, fun dhand hdevice => ?_⟩
    rw [← h.hand]
    exact hload.hand dhand hdevice
  · intro h
    refine ⟨hload.gtask.trans h.gtask.symm, hload.taskQueue.trans h.taskQueue.symm,
      hload.total.trans h.total.symm, hload.dhand.trans h.dhand.symm, ?_⟩
    cases hdevice : wc.findDevice graspTasks.gripperID with
    | none => exact hand_load hdevice sim
    | some dhand => rw [hload.hand dhand hdevice, h.hand dhand hdevice]

/-! ## Whole loads -/

variable {parse : String → Option (GraspTask R G V)}

theorem loadPtr_of_suitable {graspTasks : GraspTask R G V} (h : Suitable wc graspTasks)
    (sim : GraspTaskSimulator ι R G V S) :
    sim.loadPtr wc (some graspTasks) = .returned (sim.load wc graspTasks).1 := by
  simp [loadPtr, (load_returns_iff graspTasks sim).mpr h]

theorem loadPtr_of_not_suitable {graspTasks : GraspTask R G V} (h : ¬ Suitable wc graspTasks)
    (sim : GraspTaskSimulator ι R G V S) :
    ∃ message, sim.loadPtr wc (some graspTasks) = .raised (sim.load wc graspTasks).1 message := by
  obtain ⟨message, hmessage⟩ := Option.ne_none_iff_exists'.mp
    (mt (load_returns_iff graspTasks sim).mp h)
  exact ⟨message, by simp [loadPtr, hmessage]⟩

/-- A file that can be read is never loaded. -/
theorem loadFile_ne {filename : String} {graspTasks : GraspTask R G V}
    (h : parse filename = some graspTasks) (sim : GraspTaskSimulator ι R G V S) :
    sim.loadFile wc parse filename ≠ sim.loadPtr wc (some graspTasks) := by
  have hcrash : sim.loadFile wc parse filename = .crashed := by simp [loadFile, h, loadPtr]
  rw [hcrash]
  by_cases hsuitable : Suitable wc graspTasks
  · simp [loadPtr_of_suitable hsuitable]
  · obtain ⟨message, hmessage⟩ := loadPtr_of_not_suitable hsuitable sim
    simp [hmessage]

theorem loadsWhole_file_iff (filename : String) (sim : GraspTaskSimulator ι R G V S) :
    sim.LoadsWhole wc parse (.file filename) ↔ parse filename = none := by
  constructor
  · intro h
    cases hparse : parse filename with
    | none => rfl
    | some graspTasks => exact absurd (h.file _ _ rfl hparse) (loadFile_ne hparse sim)
  · intro hparse
    have hload : sim.loadRequest wc parse (.file filename) = .gaveUp sim := by
      simp [loadRequest, loadFile, hparse]
    constructor
    · intro filename' graspTasks hfile hsome
      cases hfile
      simp [hparse] at hsome
    · intro sim' message hraised
      rw [hload] at hraised
      cases hraised
    · intro sim' hgave
      rw [hload] at hgave
      cases hgave
      exact .refl sim

theorem loadsWhole_tasks_iff (graspTasks : GraspTask R G V) (sim : GraspTaskSimulator ι R G V S) :
    sim.LoadsWhole wc parse (.tasks graspTasks) ↔
      Suitable wc graspTasks ∨ sim.Holds wc graspTasks := by
  by_cases hsuitable : Suitable wc graspTasks
  · have hload : sim.loadRequest wc parse (.tasks graspTasks) = .returned _ :=
      loadPtr_of_suitable hsuitable sim
    refine ⟨fun _ => Or.inl hsuitable, fun _ => ⟨?_, ?_, ?_⟩⟩
    · intro filename graspTasks' hfile
      cases hfile
    · intro sim' message hraised
      rw [hload] at hraised
      cases hraised
    · intro sim' hgave
      rw [hload] at hgave
      cases hgave
  · obtain ⟨message, hmessage⟩ := loadPtr_of_not_suitable hsuitable sim
    have hload : sim.loadRequest wc parse (.tasks graspTasks) = .raised _ message := hmessage
    rw [← sameTasks_load_iff, or_iff_right hsuitable]
    constructor
    · intro h
      exact h.raised _ message hload
    · intro hsame
      constructor
      · intro filename graspTasks' hfile
        cases hfile
      · intro sim' message' hraised
        rw [hload] at hraised
        cases hraised
        exact hsame
      · intro sim' hgave
        rw [hload] at hgave
        cases hgave

/-- A file is loaded as it should exactly when it cannot be read, and a task set exactly when its
gripper is suitable or it was loaded already. -/
theorem loadsWhole_iff (wc : WorkCell R G V S) (parse : String → Option (GraspTask R G V))
    (sim : GraspTaskSimulator ι R G V S) (request : Request R G V) :
    sim.LoadsWhole wc parse request ↔ sim.Whole wc parse request := by
  cases request with
  | file filename => exact loadsWhole_file_iff filename sim
  | tasks graspTasks => exact loadsWhole_tasks_iff graspTasks sim

end GraspTaskSimulator

namespace Sample

/-- A work cell without a gripper. -/
def emptyCell : WorkCell ℚ ℤˣ ℚ Bool := { cell with findDevice := fun _ => none }

/-- A simulator that has loaded one target. -/
def loadedWorld : World Bool ℚ ℤˣ ℚ Bool := { world with sim := (world.sim.load cell (task 1)).1 }

end Sample

/-- The same two targets are not loaded from a file, and replace the one that was loaded when they
are given to a simulator whose work cell has no gripper for them. -/
theorem not_loadsWhole :
    ¬ Sample.loadedWorld.sim.LoadsWhole Sample.cell (fun _ => some (Sample.task 2))
      (.file "tasks.xml") ∧
    ¬ Sample.loadedWorld.sim.LoadsWhole Sample.emptyCell (fun _ => none)
      (.tasks (Sample.task 2)) := by
  constructor
  · rw [GraspTaskSimulator.loadsWhole_file_iff]
    simp
  · rw [GraspTaskSimulator.loadsWhole_tasks_iff]
    rintro (⟨dhand, hdevice, -⟩ | hholds)
    · cases hdevice
    · exact absurd hholds.total (by decide)

end Gripperz.Simulation
