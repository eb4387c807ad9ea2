import Gripperz.Library.Countdown
import Gripperz.Simulation.Poses
import Gripperz.Simulation.Statistics

/-! # Threads and their physics engines

In a run every thread steps a physics engine of its own. The engine is told what the controllers
of the hand are set to and what its motors may exert, its state is what the next callback is given,
and it is reset when a grasp begins. The limits of the motors belong to the hand, which is the same
for all threads. A thread that has stopped makes no more callbacks.
-/
namespace Gripperz.Simulation
open Math Grasps Library

variable {ι R G V S E : Type} [Field R] [LinearOrder R] [Group G] [AddCommGroup V] [Module R V]
  [DistribMulAction G V]

/-- What the controllers are set to: the pose of the base and the configuration of the fingers. -/
structure Commands (R G V : Type) where
  base : Transform3D G V
  fingers : Q R

/-- The last `setTarget` and `setTargetPos` of the thread. -/
def SimState.commands (own : SimState R G V S) : Commands R G V :=
  match own.currentState with
  | .newGrasp | .approach => ⟨own.wTmbase_approachTarget, own.openQ⟩
  | .grasping => ⟨own.wTmbase_approachTarget, own.closeQ⟩
  | .lifting => ⟨own.wTmbase_retractTarget, own.closeQ⟩

/-- The simulator of a thread: `reset` with a kinematic state, one time step within the force limits
of the hand, and what is read of it afterwards. -/
structure Engine (R G V S E : Type) where
  reset : S → E
  step : Q R → Commands R G V → E → E
  state : E → S
  time : E → R
  isInError : E → Bool

def Engine.input (engine : Engine R G V S E) (wallTime : R) (e : E) : StepInput R S :=
  ⟨engine.state e, engine.time e, wallTime, engine.isInError e⟩

/-- The object, its threads and their engines. -/
structure Driven (ι R G V S E : Type) where
  world : World ι R G V S
  engines : ι → E

/-- What a callback reads of the object and does not change. -/
structure Rig (R S : Type) extends Scene R S where
  mbase : String
  initState : S
  wallTimeLimit : R
  simTimeLimit : R
  requestSimulationStop : Bool

def GraspTaskSimulator.rig (sim : GraspTaskSimulator ι R G V S) : Rig R S :=
  ⟨sim.scene, sim.mbase, sim.initState, sim.wallTimeLimit, sim.simTimeLimit,
    sim.requestSimulationStop⟩

namespace Call
variable {wc : WorkCell R G V S} {grader : Grader R G V} {input : StepInput R S}
  {promise : Promise}

omit [Group G] [AddCommGroup V] [Module R V] [DistribMulAction G V] in
theorem rig_finish (k : Counter) (status : TestStatus) (e : GraspResult R G V → GraspResult R G V)
    (c : Call ι R G V S) : (c.finish wc grader k status e).sim.rig = c.sim.rig := rfl

omit [Field R] [LinearOrder R] [Module R V] in
theorem rig_setUp (nstate : S) (c : Call ι R G V S) :
    (c.setUp wc input nstate).sim.rig = c.sim.rig := rfl

omit [Field R] [LinearOrder R] [Module R V] in
theorem rig_prepare (task : SubTaskPtr R G V) (p : TargetPtr G V)
    (rest : List (SubTaskPtr R G V × TargetPtr G V)) (nstate : S) (c : Call ι R G V S) :
    (((c.take task p rest).setPoses wc p).setUp wc input nstate).sim.rig = c.sim.rig := by
  rw [rig_setUp]
  rfl

omit [Field R] [LinearOrder R] [Group G] [AddCommGroup V] [Module R V] [DistribMulAction G V] in
theorem rig_collide (nstate : S) (c : Call ι R G V S) :
    (c.collide wc nstate).sim.rig = c.sim.rig := rfl

omit [LinearOrder R] [Module R V] in
theorem rig_beginApproach (nstate : S) (c : Call ι R G V S) :
    (c.beginApproach wc nstate).sim.rig = c.sim.rig := rfl

omit [Module R V] in
theorem rig_move {c c' : Call ι R G V S} (h : c.Move wc grader input promise c') :
    c'.sim.rig = c.sim.rig := by
  cases h with
  | quiet h =>
    obtain ⟨paths, hsim⟩ := h.sim
    simp [GraspTaskSimulator.rig, GraspTaskSimulator.scene, hsim]
  | abort h once assigned => exact rig_finish _ _ _ c
  | configure h q => rfl
  | approach h => rfl
  | miss h => exact rig_finish _ _ _ c
  | grasp h closed touching => rfl
  | drop h => exact rig_finish _ _ _ c
  | lift h object x hs touching graded =>
    rw [lift_eq]
    rfl
  | stop h hq =>
    rw [getNextTarget_nil hq]
    rfl
  | skip h hq set => rfl
  | collide h hq nstate unset => rw [rig_collide, rig_prepare]
  | begin h hq nstate unset free => rw [rig_beginApproach, rig_prepare]

omit [Module R V] in
theorem rig_moves {c c' : Call ι R G V S} (h : c.Moves wc grader input promise c') :
    c'.sim.rig = c.sim.rig := by
  induction h with
  | refl => rfl
  | tail _ hmove ih => exact (rig_move hmove).trans ih

theorem rig_stepCB {fuel : ℕ} {c c' : Call ι R G V S}
    (h : c.stepCB wc grader input fuel = some c') : c'.sim.rig = c.sim.rig := by
  have hmoves : c.Moves wc grader input noPromise c' :=
    moves_stepCB (Or.inr ⟨False.elim, False.elim, False.elim⟩) h
  exact rig_moves hmoves

/-- The state the engine is reset to by the loop of `NEW_GRASP`, if a grasp begins. -/
def newGraspReset (wc : WorkCell R G V S) (input : StepInput R S) :
    ℕ → Call ι R G V S × S → Option S
  | 0, _ => none
  | fuel + 1, round =>
    let (next, again) := nextGrasp wc input round
    if again then newGraspReset wc input fuel next
    else if next.1.own.currentState = .approach then some next.2 else none

/-- The state the engine is reset to by a callback. -/
def stepReset (wc : WorkCell R G V S) (grader : Grader R G V) (input : StepInput R S) (fuel : ℕ)
    (c : Call ι R G V S) : Option S :=
  if c.sim.requestSimulationStop then none
  else
    let c := c.act wc grader input
    if c.own.currentState = .newGrasp then newGraspReset wc input fuel (c, c.own.homeState)
    else none

omit [LinearOrder R] [Module R V] in
/-- The loop leaves the thread stopped, or with a grasp begun and the queue shorter. -/
theorem newGrasp_ends {wc : WorkCell R G V S} {input : StepInput R S} {fuel : ℕ}
    {round : Call ι R G V S × S} {c : Call ι R G V S}
    (h : newGrasp wc input fuel round = some c)
    (idle : round.1.own.currentState = .newGrasp) :
    (c.own.stopped = true ∧ c.own.currentState = .newGrasp ∧
      c.sim.taskQueue.length ≤ round.1.sim.taskQueue.length) ∨
    (c.own.currentState = .approach ∧
      c.sim.taskQueue.length + 1 ≤ round.1.sim.taskQueue.length ∧
      ∃ nstate, newGraspReset wc input fuel round = some nstate) := by
  induction fuel generalizing round with
  | zero => cases h
  | succ fuel ih =>
    simp only [newGrasp] at h
    simp only [newGraspReset]
    split at h
    · rename_i hagain
      obtain ⟨hidle, hlength⟩ := nextGrasp_again round idle hagain
      rw [if_pos hagain]
      rcases ih h hidle with ⟨hstopped, hnew, hle⟩ | ⟨happroach, hlt, hreset⟩
      · exact Or.inl ⟨hstopped, hnew, by omega⟩
      · exact Or.inr ⟨happroach, by omega, hreset⟩
    · rename_i hlast
      rw [if_neg hlast]
      obtain rfl := Option.some.inj h
      cases hq : round.1.sim.taskQueue with
      | nil =>
        left
        rw [nextGrasp, getNextTarget_nil hq]
        exact ⟨rfl, idle, by simp [stop, hq]⟩
      | cons entry rest =>
        right
        rw [nextGrasp, getNextTarget_cons hq] at hlast ⊢
        simp only at hlast ⊢
        split
        · rename_i hset
          simp [hset] at hlast
        · rename_i hset
          rw [if_neg hset] at hlast
          split
          · rename_i hcol
            simp [hcol] at hlast
          · exact ⟨rfl, le_rfl, _, if_pos rfl⟩

end Call

namespace Driven
variable [DecidableEq ι]

/-- The engine of a thread after its next time step. -/
def stepped (engine : Engine R G V S E) (d : Driven ι R G V S E) (t : ι) : E :=
  engine.step d.world.sim.motorForceLimits (d.world.threads t).commands (d.engines t)

/-- What the next callback of a thread is given. -/
def input (engine : Engine R G V S E) (d : Driven ι R G V S E) (t : ι) (wallTime : R) :
    StepInput R S :=
  engine.input wallTime (d.stepped engine t)

/-- A thread that runs makes a time step and a callback that ends. -/
inductive Step (wc : WorkCell R G V S) (grader : Grader R G V) (engine : Engine R G V S E)
    (cond : StepInput R S → Call ι R G V S → Prop) :
    Driven ι R G V S E → Driven ι R G V S E → Prop where
  | stepCB {d : Driven ι R G V S E} (t : ι) (wallTime : R) {fuel : ℕ} {c : Call ι R G V S}
      (running : (d.world.threads t).stopped = false)
      (meets : cond (d.input engine t wallTime) (d.world.call t))
      (h : (d.world.call t).stepCB wc grader (d.input engine t wallTime) fuel = some c) :
      Step wc grader engine cond d
        { world := d.world.during c
          engines := Function.update d.engines t
            (((d.world.call t).stepReset wc grader (d.input engine t wallTime) fuel).elim
              (d.stepped engine t) engine.reset) }

/-- Time steps and callbacks of any threads. -/
abbrev Run (wc : WorkCell R G V S) (grader : Grader R G V) (engine : Engine R G V S E)
    (cond : StepInput R S → Call ι R G V S → Prop) :
    Driven ι R G V S E → Driven ι R G V S E → Prop :=
  Relation.ReflTransGen (Step wc grader engine cond)

variable {wc : WorkCell R G V S} {grader : Grader R G V} {engine : Engine R G V S E}
  {cond : StepInput R S → Call ι R G V S → Prop}

/-- What is driven is a run of the simulator. -/
theorem Run.world {d d' : Driven ι R G V S E} (run : Run wc grader engine cond d d') :
    World.Run wc grader cond d.world d'.world := by
  induction run with
  | refl => exact .refl
  | tail _ hstep ih =>
    cases hstep with
    | stepCB t wallTime running meets h =>
      exact ih.tail ⟨_, .stepCB h, Or.inr meets⟩

/-- The task set is loaded and started, with any engines. -/
def launch (wc : WorkCell R G V S) (task : GraspTask R G V) (below : Transform3D G V)
    (initState : S) (d : Driven ι R G V S E) : Driven ι R G V S E :=
  { d with world := d.world.launch wc task below initState }

section Performing
variable (wc) (grader) (engine) (cond) [∀ input c, Decidable (cond input c)]

/-- A time step of a thread at the start of the wall clock, given up after `fuel` rounds. -/
def perform (fuel : ℕ) (t : ι) (d : Driven ι R G V S E) : Option (Driven ι R G V S E) :=
  if (d.world.threads t).stopped = false ∧ cond (d.input engine t 0) (d.world.call t) then
    ((d.world.call t).stepCB wc grader (d.input engine t 0) fuel).map fun c =>
      { world := d.world.during c
        engines := Function.update d.engines t
          (((d.world.call t).stepReset wc grader (d.input engine t 0) fuel).elim
            (d.stepped engine t) engine.reset) }
  else none

/-- Time steps of these threads, one after the other. -/
def performAll (fuel : ℕ) : List ι → Driven ι R G V S E → Option (Driven ι R G V S E)
  | [], d => some d
  | t :: ts, d => (perform wc grader engine cond fuel t d).bind (performAll fuel ts)

variable {wc grader engine cond}

/-- What is performed takes as many time steps. -/
theorem takes_of_performAll {fuel : ℕ} {ts : List ι} {d d' : Driven ι R G V S E}
    (h : performAll wc grader engine cond fuel ts d = some d') :
    Takes (Step wc grader engine cond) d ts.length d' := by
  induction ts generalizing d with
  | nil =>
    cases h
    exact .none
  | cons t ts ih =>
    obtain ⟨d₁, hstep, hrest⟩ := Option.bind_eq_some_iff.mp h
    unfold perform at hstep
    split at hstep
    · rename_i hcond
      obtain ⟨c, hc, rfl⟩ := Option.map_eq_some_iff.mp hstep
      exact .head (.stepCB t 0 hcond.1 hcond.2 hc) (ih hrest)
    · cases hstep

end Performing
end Driven

/-! ## The end of a run -/

namespace World

/-- `isRunning`. -/
def isRunning (w : World ι R G V S) : Prop := ∃ t, (w.threads t).stopped = false

/-- `isFinished`. -/
def isFinished (w : World ι R G V S) : Prop :=
  w.sim.totalNrOfExperiments = w.sim.nrOfExperiments ∧ ¬ w.isRunning

omit [Field R] [LinearOrder R] [Group G] [AddCommGroup V] [Module R V] [DistribMulAction G V] in
theorem not_isRunning {w : World ι R G V S} :
    ¬ w.isRunning ↔ ∀ t, (w.threads t).stopped = true := by
  simp [isRunning]

end World

namespace Sample

/-- An engine that counts quarters of a second, in the sample cell without any collision. -/
def clock : Engine ℚ ℤˣ ℚ Bool ℚ where
  reset := fun _ => 0
  step := fun _ _ time => time + 1 / 4
  state := fun _ => false
  time := fun time => time
  isInError := fun _ => false

/-- The sample object with any number of threads. -/
def driven (ι : Type) : Driven ι ℚ ℤˣ ℚ Bool ℚ where
  world :=
    { sim := { world.sim with log := [] }
      threads := fun _ => World.newSimState false }
  engines := fun _ => 0

end Sample
end Gripperz.Simulation
