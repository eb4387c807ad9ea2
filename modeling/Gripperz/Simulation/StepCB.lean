import Gripperz.Simulation.GraspTaskSimulator

/-! # The step callback

`stepCB` in the order of its checks: the configured limits, the fixed limit, the error
flag and the collision test may each end the grasp; then the state of the thread is
acted on, and a thread in `NEW_GRASP` takes targets from the queue until one can be
set up without collision.
-/
namespace Gripperz.Simulation
open Math Grasps

variable {ι R G V S : Type} [Field R] [LinearOrder R] [Group G] [AddCommGroup V] [Module R V]
  [DistribMulAction G V]

namespace Call

/-! ## Results, counters and the log -/

/-- Write through `sstate._target->getResult()`. No loaded result is behind a pointer
that is not yet assigned. -/
def edit (e : GraspResult R G V → GraspResult R G V) (c : Call ι R G V S) : Call ι R G V S :=
  { c with sim := { c.sim with results := match c.own.target with
      | none => c.sim.results
      | some p => c.sim.results.edit p.target.result e } }

def count (k : Counter) (c : Call ι R G V S) : Call ι R G V S :=
  { c with sim := { c.sim with
      counters := Function.update c.sim.counters k (c.sim.counters k + 1) } }

/-- `_stat[status]++`. -/
def tally (status : TestStatus) (c : Call ι R G V S) : Call ι R G V S :=
  { c with sim := { c.sim with
      stat := Function.update c.sim.stat status (c.sim.stat status + 1) } }

def record (what : Happening R G V) (c : Call ι R G V S) : Call ι R G V S :=
  { c with sim := { c.sim with log := c.sim.log ++ [⟨c.thread, c.own.target, what⟩] } }

/-! ## The end of a grasp -/

/-- `calculateSceneInterference`. -/
def calculateSceneInterference (wc : WorkCell R G V S) (objects : List String)
    (metric : Transform3D G V → Transform3D G V → R) (state0 state1 : S) : R :=
  objects.foldl (fun interference object =>
    interference + metric (wc.getTransform object state0) (wc.getTransform object state1)) 0

/-- `BasicSimulator::evaluateGrasp`: slippages count as successes. -/
def basicGrade (status : TestStatus) : TestStatus :=
  if status = .objectSlipped then .success else status

/-- The status `evaluateGrasp` leaves a grasp with, by its status and its lift pose. -/
def grade (wc : WorkCell R G V S) (grader : Grader R G V) (initState state : S)
    (status : TestStatus) (objectTtcpLift : Transform3D G V) : TestStatus :=
  match grader with
  | .graspTask => status
  | .basic => basicGrade status
  | .interference limit objects metric =>
    if basicGrade status = .success ∧
        limit < calculateSceneInterference wc objects metric initState state then .interference
    else basicGrade status
  | .alignment expectedPose threshold metric =>
    if basicGrade status = .success ∧ threshold < metric expectedPose objectTtcpLift then
      .interference
    else basicGrade status

def evaluateGrasp (wc : WorkCell R G V S) (grader : Grader R G V) (c : Call ι R G V S)
    (result : GraspResult R G V) : TestStatus :=
  grade wc grader c.sim.initState c.own.state result.testStatus result.objectTtcpLift

/-- `graspFinished`. -/
def graspFinished (wc : WorkCell R G V S) (grader : Grader R G V) (k : Counter)
    (status : TestStatus) (c : Call ι R G V S) : Call ι R G V S :=
  let graded := c.edit fun r => { r with testStatus := c.evaluateGrasp wc grader r }
  let final := match c.own.target with
    | none => status
    | some p => (graded.sim.results p.target.result).testStatus
  graded.record (.finished k status final)

/-- Every end of a grasp: a counter, the result with its status, the statistics, the
state of the thread and the hook. -/
def finish (wc : WorkCell R G V S) (grader : Grader R G V) (k : Counter) (status : TestStatus)
    (e : GraspResult R G V → GraspResult R G V) (c : Call ι R G V S) : Call ι R G V S :=
  let c := ((c.count k).edit fun r => { e r with testStatus := status }).tally status
  graspFinished wc grader k status { c with own := { c.own with currentState := .newGrasp } }

/-- The end of a grasp that is cut short. -/
def abort (wc : WorkCell R G V S) (grader : Grader R G V) (input : StepInput R S) (k : Counter)
    (status : TestStatus) (c : Call ι R G V S) : Call ι R G V S :=
  c.finish wc grader k status fun r =>
    { r with gripperConfigurationGrasp := c.sim.hand.getQ input.state }

/-! ## The checks -/

def overLimits (input : StepInput R S) (c : Call ι R G V S) : Prop :=
  c.sim.wallTimeLimit < input.wallTime ∧ c.sim.simTimeLimit < input.time

instance (input : StepInput R S) (c : Call ι R G V S) : Decidable (c.overLimits input) :=
  inferInstanceAs (Decidable (_ ∧ _))

def checkTimeLimits (wc : WorkCell R G V S) (grader : Grader R G V) (input : StepInput R S)
    (c : Call ι R G V S) : Call ι R G V S :=
  if c.overLimits input then c.abort wc grader input .timeout .timeOut else c

def checkSimTime (wc : WorkCell R G V S) (grader : Grader R G V) (input : StepInput R S)
    (c : Call ι R G V S) : Call ι R G V S :=
  if 5 < input.time ∧ c.own.currentState ≠ .newGrasp then
    c.abort wc grader input .timeout .timeOut
  else c

def checkError (wc : WorkCell R G V S) (grader : Grader R G V) (input : StepInput R S)
    (c : Call ι R G V S) : Call ι R G V S :=
  if input.isInError = true ∧ c.own.currentState ≠ .newGrasp then
    c.abort wc grader input .simfailed .simulationFailure
  else c

def checkCollision (wc : WorkCell R G V S) (grader : Grader R G V) (input : StepInput R S)
    (c : Call ι R G V S) : Call ι R G V S :=
  if wc.inCollision input.state then
    c.abort wc grader input .collision .collisionDuringExecution
  else c

/-! ## The states of a grasp -/

/-- The end of `APPROACH`. -/
def reachApproach (wc : WorkCell R G V S) (input : StepInput R S) (c : Call ι R G V S) :
    Call ι R G V S :=
  let t3d := wc.frameTframe c.sim.tcp (c.sim.objects.headD "") input.state
  let c := { c with own := { c.own with
    currentState := .grasping, approachedTime := input.time, restingTime := input.time,
    restCount := 0 } }
  (c.edit fun r => { r with objectTtcpApproach := t3d⁻¹ }).record (.approached t3d⁻¹)

def stepApproach (wc : WorkCell R G V S) (input : StepInput R S) (c : Call ι R G V S) :
    Call ι R G V S :=
  if c.own.currentState = .approach ∧
      wc.norm2 ((wc.worldTframe c.sim.mbase input.state).P - c.own.wTmbase_approachTarget.P) <
        2 / 1000 then
    c.reachApproach wc input
  else c

/-- The contacts are written and the hand is sent to its retract pose. -/
def beginLift (wc : WorkCell R G V S) (input : StepInput R S) (c : Call ι R G V S) :
    Call ι R G V S :=
  let qualities := wc.calcGraspQuality c.sim.hand c.sim.objects input.state
  let contacts := (wc.getObjectContacts c.sim.hand c.sim.objects input.state).contacts
  let c := { c with own := { c.own with currentState := .lifting, restCount := 0 } }
  (c.edit fun r => { r with qualityBeforeLifting := qualities, contactsGrasp := contacts }).record
    (.grasped qualities contacts)

/-- The hand has come to rest: the object is in contact with it, or was missed. -/
def closeGrasp (wc : WorkCell R G V S) (grader : Grader R G V) (input : StepInput R S)
    (c : Call ι R G V S) : Call ι R G V S :=
  let c := { c with own := { c.own with graspTime := input.time, postLiftObjState := input.state } }
  let c := c.edit fun r =>
    { r with gripperConfigurationGrasp := c.sim.hand.getQ input.state }
  let gobj := wc.getObjectContacts c.sim.hand c.sim.objects input.state
  if gobj.object.isNone ∧ c.sim.hand.suctionCup.isNone then
    c.finish wc grader .failed .objectMissed fun r => { r with qualityBeforeLifting := ⟨[]⟩ }
  else c.beginLift wc input

/-- `_restCount` counts the callbacks that find the fingers still. -/
def countRest (input : StepInput R S) (c : Call ι R G V S) : Call ι R G V S :=
  let restCount :=
    if c.sim.hand.isResting input.state then c.own.restCount + 1 else c.own.restCount
  { c with own := { c.own with restCount := restCount } }

/-- A suction cup rests when it is closed, another hand after six still callbacks. -/
def isResting (input : StepInput R S) (c : Call ι R G V S) : Bool :=
  match c.sim.hand.suctionCup with
  | none => decide (5 < c.own.restCount)
  | some scup => scup.isClosed input.state

/-- The grasp is closed once the hand has rested long enough, or after eight seconds. -/
def settle (wc : WorkCell R G V S) (grader : Grader R G V) (input : StepInput R S)
    (c : Call ι R G V S) : Call ι R G V S :=
  if (c.isResting input = true ∧ 3 / 2 < input.time - c.own.restingTime) ∨ 8 < input.time then
    c.closeGrasp wc grader input
  else c

/-- `_restingTime` is the time of the third still callback. -/
def noteRest (input : StepInput R S) (c : Call ι R G V S) : Call ι R G V S :=
  let restingTime := if c.own.restCount = 3 then input.time else c.own.restingTime
  { c with own := { c.own with restingTime := restingTime } }

def stepGrasping (wc : WorkCell R G V S) (grader : Grader R G V) (input : StepInput R S)
    (c : Call ι R G V S) : Call ι R G V S :=
  if c.own.currentState = .grasping then
    if c.own.approachedTime + 1 / 2 < input.time then
      ((c.countRest input).settle wc grader input).noteRest input
    else { c with own := { c.own with restingTime := input.time } }
  else c

/-- The poses of the lifted object and the contacts are written. -/
def recordLift (wc : WorkCell R G V S) (input : StepInput R S) (object : String)
    (c : Call ι R G V S) : Call ι R G V S :=
  let qualities := wc.calcGraspQuality c.sim.hand c.sim.objects input.state
  let contacts := (wc.getObjectContacts c.sim.hand c.sim.objects input.state).contacts
  let tcpTo_before := wc.frameTframe c.sim.tcp object c.own.postLiftObjState
  let tcpTo_after := wc.frameTframe c.sim.tcp object input.state
  (c.edit fun r =>
    { r with qualityAfterLifting := qualities, contactsLift := contacts,
             objectTtcpGrasp := tcpTo_before⁻¹, objectTtcpLift := tcpTo_after⁻¹ }).record
    (.lifted qualities tcpTo_before⁻¹ tcpTo_after⁻¹)

/-- How far the object has slipped in the hand since it was grasped. -/
def slippage (wc : WorkCell R G V S) (input : StepInput R S) (object gripperBody : String)
    (contacts : List (Contact3D R V)) (c : Call ι R G V S) : R :=
  let contactAvg := (contacts.length : R)⁻¹ • contacts.foldl (fun sum contact => sum + contact.p) 0
  let oTc : Transform3D G V := .translation contactAvg
  let oTg_before := oTc⁻¹ * wc.frameTframe object gripperBody c.own.postLiftObjState
  let oTg_after := oTc⁻¹ * wc.frameTframe object gripperBody input.state
  wc.norm2 (oTg_after.P - oTg_before.P)

def liftResult (slippage : R) : R :=
  if slippage ≤ 2 / 100 then (2 / 100 - slippage) * 50 else 0

/-- The object was dropped on the way. -/
def drop (wc : WorkCell R G V S) (grader : Grader R G V) (input : StepInput R S)
    (c : Call ι R G V S) : Call ι R G V S :=
  c.finish wc grader .failed .objectDropped fun r =>
    { r with qualityAfterLifting := ⟨[]⟩,
             gripperConfigurationLift := c.sim.hand.getQ input.state }

/-- The lift of an object is recorded and ends the grasp. -/
def lift (wc : WorkCell R G V S) (grader : Grader R G V) (input : StepInput R S)
    (object : String) (k : Counter) (status : TestStatus) (liftresult : R)
    (c : Call ι R G V S) : Call ι R G V S :=
  let c := c.recordLift wc input object
  { c with own := { c.own with restCount := 0 } }.finish wc grader k status fun r =>
    { r with liftresult := liftresult, gripperConfigurationLift := c.sim.hand.getQ input.state }

/-- The object has been lifted or has been dropped. -/
def judgeLift (wc : WorkCell R G V S) (grader : Grader R G V) (input : StepInput R S)
    (c : Call ι R G V S) : Call ι R G V S :=
  let gobj := wc.getObjectContacts c.sim.hand c.sim.objects input.state
  match c.sim.hand.suctionCup, gobj.object with
  | some scup, _ =>
    if scup.isClosed input.state then
      c.lift wc grader input (scup.contactBody input.state) .success .success 1
    else c.drop wc grader input
  | none, none => c.drop wc grader input
  | none, some object =>
    let lifted := liftResult
      (c.slippage wc input object (gobj.bodies.headD "") gobj.contacts)
    if 1 / 2 < lifted then c.lift wc grader input object .success .success lifted
    else c.lift wc grader input object .slipped .objectSlipped lifted

/-- The hand has reached its retract pose, or a suction cup holds. -/
def isLifted (wc : WorkCell R G V S) (input : StepInput R S) (c : Call ι R G V S) : Bool :=
  match c.sim.hand.suctionCup with
  | none => decide (wc.norm2 ((wc.worldTframe c.sim.hand.base input.state).P -
      c.own.wTmbase_retractTarget.P) < 1 / 1000)
  | some scup => scup.isClosed input.state

def stepLifting (wc : WorkCell R G V S) (grader : Grader R G V) (input : StepInput R S)
    (c : Call ι R G V S) : Call ι R G V S :=
  if c.own.currentState = .lifting ∧ c.isLifted wc input = true then
    let c := { c with own := { c.own with restCount := c.own.restCount + 1 } }
    if 5 < c.own.restCount then c.judgeLift wc grader input else c
  else c

/-! ## The next target -/

/-- What is cached of a subtask. -/
def cacheOf (hand : Device R S) (task : SubTaskPtr R G V) : TaskCache R G V where
  task := some task
  taskRefFrame := task.subTask.refFrame
  taskOffset := task.subTask.offset
  approach := task.subTask.approach
  retract := task.subTask.retract
  openQ := hand.bounds.2
  closeQ := hand.bounds.1

/-- The cache is refilled when the subtask is another one. -/
def nextCache (task : SubTaskPtr R G V) (c : Call ι R G V S) : TaskCache R G V :=
  if c.own.task.map SubTaskPtr.address = some task.address then c.own.toTaskCache
  else cacheOf c.sim.hand task

/-- The top of the queue is handed to the thread. -/
def take (task : SubTaskPtr R G V) (target : TargetPtr G V)
    (rest : List (SubTaskPtr R G V × TargetPtr G V)) (c : Call ι R G V S) : Call ι R G V S :=
  { c with
    sim := { c.sim with currentTask := some task, currentTarget := some target,
                        taskQueue := rest }
    own := { c.own with toTaskCache := c.nextCache task, target := some target } }.record
    (.taken (c.nextCache task))

/-- `getNextTarget`: the target handed out, if any. -/
def getNextTarget (c : Call ι R G V S) : Option (TargetPtr G V) × Call ι R G V S :=
  match c.sim.taskQueue with
  | [] => (none, { c with sim := { c.sim with currentTask := none } })
  | (task, target) :: rest => (some target, c.take task target rest)

/-- The queue is empty: the thread stops. -/
def stop (c : Call ι R G V S) : Call ι R G V S :=
  { c with own := { c.own with stopped := true } }

/-- The target was processed before. -/
def skip (status : TestStatus) (c : Call ι R G V S) : Call ι R G V S :=
  let c := { c with sim := { c.sim with
    stat := if status.inStatusArray
      then Function.update c.sim.stat status (c.sim.stat status + 1) else c.sim.stat } }
  let c := c.count .skipped
  { c with sim := { c.sim with nrOfExperiments := c.sim.nrOfExperiments + 1 } }.record
    (.skipped status)

/-- The poses of the hand for a target. -/
def setPoses (wc : WorkCell R G V S) (target : TargetPtr G V) (c : Call ι R G V S) :
    Call ι R G V S :=
  let wTref := wc.worldTframe c.own.taskRefFrame c.own.homeState
  let refToffset := c.own.taskOffset
  let offsetTtarget := target.target.pose
  let mbaseTtcp := wc.frameTframe c.sim.mbase c.sim.tcp c.own.homeState
  let wTtcp_initTarget := wTref * refToffset * offsetTtarget * c.own.approach⁻¹
  let wTmbase_approachTarget := wTtcp_initTarget * c.own.approach * mbaseTtcp⁻¹
  { c with own := { c.own with
      wTtcp_initTarget := wTtcp_initTarget
      wTmbase_initTarget := wTtcp_initTarget * mbaseTtcp⁻¹
      wTmbase_approachTarget := wTmbase_approachTarget
      wTmbase_retractTarget :=
        { wTmbase_approachTarget with P := wTmbase_approachTarget.P + c.own.retract.P } } }

/-- The objects back at their places, the open hand at its start. -/
def setupState (wc : WorkCell R G V S) (nstate : S) (c : Call ι R G V S) : S :=
  let nstate := c.sim.objects.foldl
    (fun nstate object => wc.setTransform object (wc.getTransform object c.own.homeState) nstate)
    nstate
  let wTmparent := wc.worldTframe (wc.parent c.sim.mbase c.own.homeState) c.own.homeState
  let nstate := wc.setTransform c.sim.mbase (wTmparent⁻¹ * c.own.wTmbase_initTarget) nstate
  c.sim.hand.setQ c.own.openQ nstate

def storePath (time : R) (state : S) (c : Call ι R G V S) : Call ι R G V S :=
  { c with sim := { c.sim with
      timedStatePaths := if c.sim.storeTimedStatePaths
        then c.sim.timedStatePaths ++ [(c.own.task, c.own.target, time, state)]
        else c.sim.timedStatePaths } }

/-- The pose of the first object for the hand as it is set up. -/
def setupPose (wc : WorkCell R G V S) (nstate : S) (c : Call ι R G V S) : Transform3D G V :=
  (wc.frameTframe c.sim.tcp (c.sim.objects.headD "") nstate)⁻¹

/-- The limits of the subtask, if it has any and the hand is a `RigidDevice`. -/
def forceLimits (c : Call ι R G V S) : Q R :=
  match c.own.task with
  | none => c.sim.motorForceLimits
  | some task =>
    if c.sim.hand.isRigidDevice = true ∧ 0 < task.subTask.tauMax.size then task.subTask.tauMax
    else c.sim.motorForceLimits

/-- `setMotorForceLimits` on the one hand there is. -/
def setMotorForceLimits (c : Call ι R G V S) : Call ι R G V S :=
  { c with sim := { c.sim with motorForceLimits := c.forceLimits } }

/-- The hand is set up for a target in the state `nstate`. -/
def setUp (wc : WorkCell R G V S) (input : StepInput R S) (nstate : S) (c : Call ι R G V S) :
    Call ι R G V S :=
  let pose := c.setupPose wc nstate
  (c.setMotorForceLimits.edit fun r => { r with objectTtcpTarget := pose }).storePath
    input.time nstate

/-- The hand collides with an object, or else with the environment. -/
def initialCollision (wc : WorkCell R G V S) (nstate : S) (c : Call ι R G V S) : TestStatus :=
  let colObject := (wc.collidingFrames nstate).any fun pair =>
    c.sim.objects.any fun object => object == pair.1 || object == pair.2
  if colObject then .collisionObjectInitially else .collisionEnvironmentInitially

/-- The hand cannot be set up without collision. -/
def collide (wc : WorkCell R G V S) (nstate : S) (c : Call ι R G V S) : Call ι R G V S :=
  let status := c.initialCollision wc nstate
  let c := c.edit fun r =>
    { r with testStatus := status, gripperConfigurationGrasp := c.own.openQ }
  let c := (c.tally status).count .collision
  { c with sim := { c.sim with nrOfExperiments := c.sim.nrOfExperiments + 1 } }.record
    (.collided status)

/-- The hand is set up without collision: the grasp begins. -/
def beginApproach (wc : WorkCell R G V S) (nstate : S) (c : Call ι R G V S) : Call ι R G V S :=
  let nrOfExperiments := c.sim.nrOfExperiments + 1
  let lastSaveTaskIndex := if c.sim.lastSaveTaskIndex + c.sim.autoSaveInterval < nrOfExperiments
    then nrOfExperiments else c.sim.lastSaveTaskIndex
  { c with
    sim := { c.sim with nrOfExperiments := nrOfExperiments, lastSaveTaskIndex := lastSaveTaskIndex }
    own := { c.own with currentState := .approach, restingTime := 0 } }.record
    (.setUp (c.setupPose wc nstate))

/-- The next target is tried: the call, whether the loop goes round again, and the
state the next round starts from. -/
def nextGrasp (wc : WorkCell R G V S) (input : StepInput R S) (round : Call ι R G V S × S) :
    (Call ι R G V S × S) × Bool :=
  match round.1.getNextTarget with
  | (none, c) => ((c.stop, round.2), false)
  | (some target, c) =>
    let status := (c.sim.results target.target.result).testStatus
    if c.sim.forceSimulateAll = false ∧ status ≠ .unInitialized then
      ((c.skip status, round.2), true)
    else
      let c := c.setPoses wc target
      let nstate := c.setupState wc round.2
      let c := c.setUp wc input nstate
      if wc.inCollision nstate then ((c.collide wc nstate, nstate), true)
      else ((c.beginApproach wc nstate, nstate), false)

/-- The `do … while` loop of `NEW_GRASP`, given up after `fuel` rounds. -/
def newGrasp (wc : WorkCell R G V S) (input : StepInput R S) :
    ℕ → Call ι R G V S × S → Option (Call ι R G V S)
  | 0, _ => none
  | fuel + 1, round =>
    let (round, again) := nextGrasp wc input round
    if again then newGrasp wc input fuel round else some round.1

/-! ## The callback -/

/-- The checks that may end the grasp. -/
def checks (wc : WorkCell R G V S) (grader : Grader R G V) (input : StepInput R S)
    (c : Call ι R G V S) : Call ι R G V S :=
  let c := c.checkTimeLimits wc grader input
  let c := c.checkSimTime wc grader input
  let c := c.checkError wc grader input
  c.checkCollision wc grader input

/-- Everything before the state `NEW_GRASP`. -/
def act (wc : WorkCell R G V S) (grader : Grader R G V) (input : StepInput R S)
    (c : Call ι R G V S) : Call ι R G V S :=
  let c := { c with own := { c.own with state := input.state } }
  let c := (c.storePath input.time input.state).checks wc grader input
  ((c.stepApproach wc input).stepGrasping wc grader input).stepLifting wc grader input

def stepCB (wc : WorkCell R G V S) (grader : Grader R G V) (input : StepInput R S) (fuel : ℕ)
    (c : Call ι R G V S) : Option (Call ι R G V S) :=
  if c.sim.requestSimulationStop then some c
  else
    let c := c.act wc grader input
    if c.own.currentState = .newGrasp then newGrasp wc input fuel (c, c.own.homeState)
    else some c

end Call

namespace World
variable [DecidableEq ι]

/-- A thread's callback as the thread sees it. -/
def call (t : ι) (w : World ι R G V S) : Call ι R G V S := ⟨t, w.sim, w.threads t⟩

/-- The world in the course of a thread's callback. -/
def during (w : World ι R G V S) (c : Call ι R G V S) : World ι R G V S :=
  { sim := c.sim, threads := Function.update w.threads c.thread c.own }

inductive Action (ι R S : Type) where
  | stepCB (thread : ι) (input : StepInput R S)
  | pauseSimulation
  | resumeSimulation

/-- One atomic action: a callback that ends, a pause or a resume. -/
inductive Step (wc : WorkCell R G V S) (grader : Grader R G V) :
    World ι R G V S → Action ι R S → World ι R G V S → Prop where
  | stepCB {w : World ι R G V S} {t : ι} {input : StepInput R S} {fuel : ℕ} {c : Call ι R G V S}
      (h : (w.call t).stepCB wc grader input fuel = some c) :
      Step wc grader w (.stepCB t input) (w.during c)
  | pauseSimulation {w : World ι R G V S} :
      Step wc grader w .pauseSimulation w.pauseSimulation
  | resumeSimulation {w : World ι R G V S} :
      Step wc grader w .resumeSimulation w.resumeSimulation

end World
end Gripperz.Simulation
