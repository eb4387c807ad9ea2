import Gripperz.Simulation.Lifecycle

/-! # Runs

A run is a sequence of callbacks of any threads, pauses and resumes. Seen as a pool of
workers, the simulator follows the rules of the life of a target: every move is one step
of the pool.
-/
namespace Gripperz.Simulation
open Math Grasps Library

variable {ι R G V S : Type} [Field R] [LinearOrder R] [Group G] [AddCommGroup V] [Module R V]
  [DistribMulAction G V]

/-- The target an event takes from the queue. -/
def takenTarget (e : Event ι R G V) : Option (TargetPtr G V) :=
  match e.what with
  | .taken _ => e.target
  | _ => none

namespace Call
variable {wc : WorkCell R G V S} {grader : Grader R G V} {input : StepInput R S}
  {promise : Promise}

/-! ## Ends -/

omit [Group G] [AddCommGroup V] [Module R V] [DistribMulAction G V] in
theorem grade_of_cut {k : Counter} {status : TestStatus} (h : Cut k status) (initState state : S)
    (pose : Transform3D G V) : grade wc grader initState state status pose = status := by
  have hslipped : status ≠ .objectSlipped := fun heq => not_lifted_of_cut h (heq ▸ .slipped)
  have hsuccess : status ≠ .success := fun heq => not_lifted_of_cut h (heq ▸ .success)
  cases grader <;> simp [grade, basicGrade, hslipped, hsuccess]

omit [Group G] [AddCommGroup V] [Module R V] [DistribMulAction G V] in
theorem regraded_grade {status : TestStatus} (h : Regraded status) (initState state : S)
    (pose : Transform3D G V) : Regraded (grade wc grader initState state status pose) := by
  have hbasic : Regraded (basicGrade status) := by
    unfold basicGrade
    split
    · exact .success
    · exact h
  cases grader with
  | graspTask => exact h
  | basic => exact hbasic
  | interference limit objects metric =>
    simp only [grade]
    split
    · exact .interference
    · exact hbasic
  | alignment expectedPose threshold metric =>
    simp only [grade]
    split
    · exact .interference
    · exact hbasic

/-- The status a target's result has after the hook. -/
def finalStatus (wc : WorkCell R G V S) (grader : Grader R G V) (status : TestStatus)
    (e : GraspResult R G V → GraspResult R G V) (c : Call ι R G V S) : TestStatus :=
  match c.own.target with
  | none => status
  | some p => grade wc grader c.sim.initState c.own.state status
      (e (c.sim.results p.target.result)).objectTtcpLift

/-- What the end of a grasp does to its result. -/
def finishEdit (wc : WorkCell R G V S) (grader : Grader R G V) (status : TestStatus)
    (e : GraspResult R G V → GraspResult R G V) (c : Call ι R G V S) (r : GraspResult R G V) :
    GraspResult R G V :=
  let status' := grade wc grader c.sim.initState c.own.state status (e r).objectTtcpLift
  { e r with testStatus := status' }

omit [Group G] [AddCommGroup V] [Module R V] [DistribMulAction G V] in
/-- The end of a grasp in one piece. -/
theorem finish_eq (k : Counter) (status : TestStatus) (e : GraspResult R G V → GraspResult R G V)
    (c : Call ι R G V S) : c.finish wc grader k status e =
      { thread := c.thread
        sim := { c.sim with
          counters := Function.update c.sim.counters k (c.sim.counters k + 1)
          stat := Function.update c.sim.stat status (c.sim.stat status + 1)
          results := (c.edit (c.finishEdit wc grader status e)).sim.results
          log := c.sim.log ++ entries c.thread c.own.target
            [.finished k status (c.finalStatus wc grader status e)] }
        own := { c.own with currentState := .newGrasp } } := by
  cases ht : c.own.target with
  | none => simp [finish, graspFinished, record, tally, edit, count, finalStatus, entries, ht]
  | some p =>
    simp [finish, graspFinished, record, tally, edit, count, finalStatus, finishEdit, entries, ht,
      evaluateGrasp, Results.edit]

omit [Group G] [AddCommGroup V] [Module R V] [DistribMulAction G V] in
theorem finalStatus_of_cut {k : Counter} {status : TestStatus} (h : Cut k status)
    (e : GraspResult R G V → GraspResult R G V) (c : Call ι R G V S) :
    c.finalStatus wc grader status e = status := by
  unfold finalStatus
  cases c.own.target with
  | none => rfl
  | some p => exact grade_of_cut h _ _ _

/-- The status of a lift after the hook. -/
def liftStatus (wc : WorkCell R G V S) (grader : Grader R G V) (input : StepInput R S)
    (object : String) (status : TestStatus) (c : Call ι R G V S) : TestStatus :=
  match c.own.target with
  | none => status
  | some _ => grade wc grader c.sim.initState c.own.state status
      (wc.frameTframe c.sim.tcp object input.state)⁻¹

omit [Module R V] in
theorem regraded_liftStatus {status : TestStatus} (h : Regraded status) (object : String)
    (c : Call ι R G V S) : Regraded (c.liftStatus wc grader input object status) := by
  unfold liftStatus
  cases c.own.target with
  | none => exact h
  | some p => exact regraded_grade h _ _ _

omit [Module R V] in
theorem liftStatus_of_graded {status : TestStatus} {object : String} {c : Call ι R G V S}
    (h : grade wc grader c.sim.initState c.own.state status
      (wc.frameTframe c.sim.tcp object input.state)⁻¹ = status) :
    c.liftStatus wc grader input object status = status := by
  unfold liftStatus
  cases c.own.target with
  | none => rfl
  | some p => exact h

/-- What a lift does to its result. -/
def liftEdit (wc : WorkCell R G V S) (grader : Grader R G V) (input : StepInput R S)
    (object : String) (status : TestStatus) (liftresult : R) (c : Call ι R G V S)
    (r : GraspResult R G V) : GraspResult R G V :=
  { r with
    testStatus := grade wc grader c.sim.initState c.own.state status
      (wc.frameTframe c.sim.tcp object input.state)⁻¹
    liftresult := liftresult
    gripperConfigurationLift := c.sim.hand.getQ input.state
    qualityAfterLifting := wc.calcGraspQuality c.sim.hand c.sim.objects input.state
    contactsLift := (wc.getObjectContacts c.sim.hand c.sim.objects input.state).contacts
    objectTtcpGrasp := (wc.frameTframe c.sim.tcp object c.own.postLiftObjState)⁻¹
    objectTtcpLift := (wc.frameTframe c.sim.tcp object input.state)⁻¹ }

omit [Module R V] in
/-- A lift in one piece. -/
theorem lift_eq (object : String) (k : Counter) (status : TestStatus) (x : R)
    (c : Call ι R G V S) : c.lift wc grader input object k status x =
      { thread := c.thread
        sim := { c.sim with
          counters := Function.update c.sim.counters k (c.sim.counters k + 1)
          stat := Function.update c.sim.stat status (c.sim.stat status + 1)
          results := (c.edit (c.liftEdit wc grader input object status x)).sim.results
          log := c.sim.log ++ entries c.thread c.own.target
            [.lifted (wc.calcGraspQuality c.sim.hand c.sim.objects input.state)
              (wc.frameTframe c.sim.tcp object c.own.postLiftObjState)⁻¹
              (wc.frameTframe c.sim.tcp object input.state)⁻¹,
              .finished k status (c.liftStatus wc grader input object status)] }
        own := { c.own with restCount := 0, currentState := .newGrasp } } := by
  rw [lift, finish_eq]
  cases ht : c.own.target with
  | none => simp [recordLift, record, edit, finalStatus, liftStatus, entries, ht]
  | some p =>
    simp [recordLift, record, edit, finalStatus, liftStatus, entries, ht, finishEdit, liftEdit,
      Results.edit]

/-! ## What a move does -/

/-- What every move leaves alone. -/
structure Frame (c c' : Call ι R G V S) : Prop where
  thread : c'.thread = c.thread
  scene : c'.sim.scene = c.sim.scene
  total : c'.sim.totalNrOfExperiments = c.sim.totalNrOfExperiments

/-- The thread goes on with its target. -/
structure Shift (es : List (Happening R G V)) (c c' : Call ι R G V S) : Prop
    extends Frame c c' where
  queue : c'.sim.taskQueue = c.sim.taskQueue
  taken : c'.sim.nrOfExperiments = c.sim.nrOfExperiments
  target : c'.own.target = c.own.target
  cache : c'.own.toTaskCache = c.own.toTaskCache
  stopped : c'.own.stopped = true → c.own.stopped = true ∨
    (c.sim.taskQueue = [] ∧ c.own.currentState = .newGrasp)
  log : c'.sim.log = c.sim.log ++ entries c.thread c.own.target es

/-- The thread takes the top of the queue. -/
structure Deal (task : SubTaskPtr R G V) (p : TargetPtr G V) (e : Happening R G V)
    (c c' : Call ι R G V S) : Prop extends Frame c c' where
  idle : c.own.currentState = .newGrasp
  queue : c.sim.taskQueue = (task, p) :: c'.sim.taskQueue
  taken : c'.sim.nrOfExperiments = c.sim.nrOfExperiments + 1
  target : c'.own.target = some p
  cache : c'.own.toTaskCache = c.nextCache task
  stopped : c'.own.stopped = c.own.stopped
  log : c'.sim.log = c.sim.log ++ entries c.thread (some p) [.taken (c.nextCache task), e]

omit [Group G] [AddCommGroup V] [Module R V] [DistribMulAction G V] in
theorem shift_cut {k : Counter} {status : TestStatus} (h : Cut k status)
    (e : GraspResult R G V → GraspResult R G V) (c : Call ι R G V S) :
    c.Shift [.finished k status status] (c.finish wc grader k status e) := by
  rw [finish_eq, finalStatus_of_cut h]
  exact ⟨⟨rfl, rfl, rfl⟩, rfl, rfl, rfl, rfl, Or.inl, rfl⟩

omit [Field R] [LinearOrder R] [Group G] [AddCommGroup V] [Module R V] [DistribMulAction G V] in
theorem shift_configure (q : Q R) (c : Call ι R G V S) :
    c.Shift [] (c.edit fun r => { r with gripperConfigurationGrasp := q }) := by
  refine ⟨⟨rfl, rfl, rfl⟩, rfl, rfl, rfl, rfl, Or.inl, ?_⟩
  simp [edit, entries]

omit [Field R] [LinearOrder R] [Module R V] in
theorem shift_approach (c : Call ι R G V S) :
    c.Shift [.approached (objectPose wc c.sim.scene input.state)] (c.reachApproach wc input) :=
  ⟨⟨rfl, rfl, rfl⟩, rfl, rfl, rfl, rfl, Or.inl, rfl⟩

omit [LinearOrder R] [Group G] [AddCommGroup V] [Module R V] [DistribMulAction G V] in
theorem shift_grasp (c : Call ι R G V S) : c.Shift
    [.grasped (wc.calcGraspQuality c.sim.hand c.sim.objects input.state)
      (wc.getObjectContacts c.sim.hand c.sim.objects input.state).contacts]
    (c.beginLift wc input) :=
  ⟨⟨rfl, rfl, rfl⟩, rfl, rfl, rfl, rfl, Or.inl, rfl⟩

omit [Module R V] in
theorem shift_lift (object : String) (k : Counter) (status : TestStatus) (x : R)
    (c : Call ι R G V S) : c.Shift
      [.lifted (wc.calcGraspQuality c.sim.hand c.sim.objects input.state)
        (wc.frameTframe c.sim.tcp object c.own.postLiftObjState)⁻¹
        (wc.frameTframe c.sim.tcp object input.state)⁻¹,
        .finished k status (c.liftStatus wc grader input object status)]
      (c.lift wc grader input object k status x) := by
  rw [lift_eq]
  exact ⟨⟨rfl, rfl, rfl⟩, rfl, rfl, rfl, rfl, Or.inl, rfl⟩

section
omit [Field R] [LinearOrder R] [Group G] [AddCommGroup V] [Module R V] [DistribMulAction G V]

theorem Quiet.shift {c c' : Call ι R G V S} (h : c.Quiet c') : c.Shift [] c' := by
  obtain ⟨paths, hsim⟩ := h.sim
  constructor
  · constructor
    · exact h.thread
    · simp [hsim, GraspTaskSimulator.scene]
    · simp [hsim]
  · simp [hsim]
  · simp [hsim]
  · exact h.target
  · exact h.cache
  · exact fun hs => Or.inl (h.stopped ▸ hs)
  · simp [hsim, entries]

theorem shift_stop {c : Call ι R G V S} (hnew : c.own.currentState = .newGrasp)
    (hq : c.sim.taskQueue = []) :
    c.Shift [] c.getNextTarget.2.stop ∧ c.getNextTarget.2.stop.own.stage = c.own.stage := by
  rw [getNextTarget_nil hq]
  refine ⟨⟨⟨rfl, rfl, rfl⟩, rfl, rfl, rfl, rfl, fun _ => Or.inr ⟨hq, hnew⟩, ?_⟩, rfl⟩
  simp [stop, entries]

theorem initialCollision_cases (nstate : S) (c : Call ι R G V S) :
    c.initialCollision wc nstate = .collisionObjectInitially ∨
      c.initialCollision wc nstate = .collisionEnvironmentInitially := by
  simp only [initialCollision]
  split
  · exact Or.inl rfl
  · exact Or.inr rfl

end

/-- The target has been taken and it is not yet decided what becomes of it. -/
structure Taken (task : SubTaskPtr R G V) (p : TargetPtr G V) (c c' : Call ι R G V S) : Prop
    extends Frame c c' where
  state : c'.own.currentState = c.own.currentState
  queue : c.sim.taskQueue = (task, p) :: c'.sim.taskQueue
  count : c'.sim.nrOfExperiments = c.sim.nrOfExperiments
  target : c'.own.target = some p
  cache : c'.own.toTaskCache = c.nextCache task
  stopped : c'.own.stopped = c.own.stopped
  log : c'.sim.log = c.sim.log ++ entries c.thread (some p) [.taken (c.nextCache task)]

omit [Field R] [LinearOrder R] [Group G] [AddCommGroup V] [Module R V] [DistribMulAction G V] in
theorem taken_take {c : Call ι R G V S} {task : SubTaskPtr R G V} {p : TargetPtr G V}
    {rest : List (SubTaskPtr R G V × TargetPtr G V)} (hq : c.sim.taskQueue = (task, p) :: rest) :
    c.Taken task p (c.take task p rest) :=
  ⟨⟨rfl, rfl, rfl⟩, rfl, hq, rfl, rfl, rfl, rfl, rfl⟩

omit [Field R] [LinearOrder R] [Module R V] in
theorem Taken.setUp {c c₁ : Call ι R G V S} {task : SubTaskPtr R G V} {p : TargetPtr G V}
    (h : c.Taken task p c₁) (wc : WorkCell R G V S) (input : StepInput R S) (nstate : S) :
    c.Taken task p ((c₁.setPoses wc p).setUp wc input nstate) :=
  ⟨⟨h.thread, h.scene, h.total⟩, h.state, h.queue, h.count, h.target, h.cache, h.stopped, h.log⟩

section
omit [Field R] [LinearOrder R] [Group G] [AddCommGroup V] [Module R V] [DistribMulAction G V]

theorem Taken.log_record {c c₁ : Call ι R G V S} {task : SubTaskPtr R G V} {p : TargetPtr G V}
    (h : c.Taken task p c₁) (e : Happening R G V) :
    c₁.sim.log ++ [⟨c₁.thread, c₁.own.target, e⟩] =
      c.sim.log ++ entries c.thread (some p) [.taken (c.nextCache task), e] := by
  simp [h.log, h.thread, h.target, entries]

theorem skip_own (status : TestStatus) (c : Call ι R G V S) : (c.skip status).own = c.own := rfl

theorem collide_own (nstate : S) (c : Call ι R G V S) : (c.collide wc nstate).own = c.own := rfl

theorem Taken.skip {c c₁ : Call ι R G V S} {task : SubTaskPtr R G V} {p : TargetPtr G V}
    (h : c.Taken task p c₁) (hnew : c.own.currentState = .newGrasp) (status : TestStatus) :
    c.Deal task p (.skipped status) (c₁.skip status) :=
  ⟨⟨h.thread, h.scene, h.total⟩, hnew, h.queue, congrArg Nat.succ h.count, h.target, h.cache,
    h.stopped, h.log_record _⟩

theorem Taken.collide {c c₁ : Call ι R G V S} {task : SubTaskPtr R G V} {p : TargetPtr G V}
    (h : c.Taken task p c₁) (wc : WorkCell R G V S) (hnew : c.own.currentState = .newGrasp)
    (nstate : S) : c.Deal task p (.collided (c₁.initialCollision wc nstate))
      (c₁.collide wc nstate) :=
  ⟨⟨h.thread, h.scene, h.total⟩, hnew, h.queue, congrArg Nat.succ h.count, h.target, h.cache,
    h.stopped, h.log_record _⟩

end

omit [LinearOrder R] [Module R V] in
theorem Taken.beginApproach {c c₁ : Call ι R G V S} {task : SubTaskPtr R G V}
    {p : TargetPtr G V} (h : c.Taken task p c₁) (wc : WorkCell R G V S)
    (hnew : c.own.currentState = .newGrasp) (nstate : S) :
    c.Deal task p (.setUp (objectPose wc c.sim.scene nstate)) (c₁.beginApproach wc nstate) :=
  ⟨⟨h.thread, h.scene, h.total⟩, hnew, h.queue, congrArg Nat.succ h.count, h.target, h.cache,
    h.stopped, h.scene ▸ h.log_record _⟩

/-- What becomes of the next target is decided by the status of its result. -/
inductive Disposes (p : TargetPtr G V) (c c' : Call ι R G V S) : Happening R G V → Prop where
  | skipped (set : (c.sim.results p.target.result).testStatus ≠ .unInitialized)
      (results : c'.sim.results = c.sim.results) :
      Disposes p c c' (.skipped (c.sim.results p.target.result).testStatus)
  | simulated {e : Happening R G V} (unset : c.sim.forceSimulateAll = true ∨
        (c.sim.results p.target.result).testStatus = .unInitialized)
      (anew : ∀ status, e ≠ .skipped status) : Disposes p c c' e

omit [Module R V] in
/-- A move goes on with the target of the thread or takes the next one. -/
theorem move_cases {c c' : Call ι R G V S} (h : c.Move wc grader input promise c') :
    (∃ es, c.Shift es c' ∧ GoesOn wc c.sim.scene promise c.own.stage es c'.own.stage ∧
      (es = [] ∨ c.own.currentState ≠ .newGrasp ∨ (promise.assigned → c.own.target ≠ none))) ∨
    (∃ task target e, c.Deal task target e c' ∧
      Opens wc c.sim.scene [.taken (c.nextCache task), e] c'.own.stage ∧
      c.Disposes target c' e) := by
  cases h with
  | quiet h => exact Or.inl ⟨_, h.shift, h.stage ▸ .still, Or.inl rfl⟩
  | abort h once assigned =>
    left
    exact ⟨_, shift_cut (.aborted h) _ c,
      .abort h fun hp hst => once hp (SimState.stage_eq_newGrasp.mp hst), Or.inr (Or.inr assigned)⟩
  | configure h q => exact Or.inl ⟨_, shift_configure q c, .still, Or.inl rfl⟩
  | approach h =>
    refine Or.inl ⟨_, shift_approach c, ?_, Or.inr (Or.inl (by simp [h]))⟩
    rw [SimState.stage_of_approach h]
    exact .approach input.state
  | miss h =>
    refine Or.inl ⟨_, shift_cut .missed _ c, ?_, Or.inr (Or.inl (by simp [h]))⟩
    rw [SimState.stage_of_grasping h]
    exact .miss
  | grasp h closed touching =>
    have hlifting : (c.beginLift wc input).own.stage = .lifting input.state :=
      closed ▸ SimState.stage_of_lifting rfl
    refine Or.inl ⟨_, shift_grasp c, ?_, Or.inr (Or.inl (by simp [h]))⟩
    rw [SimState.stage_of_grasping h, hlifting]
    exact .grasp input.state touching
  | drop h =>
    refine Or.inl ⟨_, shift_cut .dropped _ c, ?_, Or.inr (Or.inl (by simp [h]))⟩
    rw [SimState.stage_of_lifting h]
    exact .drop
  | lift h object x hs touching graded =>
    refine Or.inl ⟨_, shift_lift object _ _ x c, ?_, Or.inr (Or.inl (by simp [h]))⟩
    rw [SimState.stage_of_lifting h]
    exact .lift object input.state touching hs
      (regraded_liftStatus (regraded_of_lifted hs) object c)
      fun hp => liftStatus_of_graded (graded hp)
  | stop h hq =>
    have hstop := shift_stop h hq
    exact Or.inl ⟨_, hstop.1, hstop.2 ▸ .still, Or.inl rfl⟩
  | skip h hq set =>
    have htaken := taken_take hq
    refine Or.inr ⟨_, _, _, htaken.skip h _, ?_, .skipped set rfl⟩
    rw [skip_own, SimState.stage_eq_newGrasp.mpr (htaken.state.trans h)]
    exact .skipped _ _
  | collide h hq nstate unset =>
    have htaken := (taken_take hq).setUp wc input nstate
    refine Or.inr ⟨_, _, _, htaken.collide wc h nstate, ?_, .simulated unset (by simp)⟩
    rw [collide_own, SimState.stage_eq_newGrasp.mpr (htaken.state.trans h)]
    exact .collided _ (initialCollision_cases nstate _)
  | begin h hq nstate unset free =>
    have htaken := (taken_take hq).setUp wc input nstate
    exact Or.inr ⟨_, _, _, htaken.beginApproach wc h nstate, .setUp ⟨_, nstate, free⟩,
      .simulated unset (by simp)⟩

end Call

namespace World
variable [DecidableEq ι]

/-! ## The pool -/

/-- The simulator as a pool of workers on the queue. -/
def pool (w : World ι R G V S) : Pool ι (TargetPtr G V) (Stage S) (Happening R G V) where
  waiting := w.sim.taskQueue.map Prod.snd
  dealt := w.sim.log.filterMap takenTarget
  held t := (w.threads t).target
  stage t := (w.threads t).stage
  log := w.sim.log

omit [Field R] [LinearOrder R] [Group G] [AddCommGroup V] [Module R V] [DistribMulAction G V] in
theorem during_call (w : World ι R G V S) (t : ι) : w.during (w.call t) = w := by
  simp [during, call]

omit [Field R] [LinearOrder R] [Group G] [AddCommGroup V] [Module R V] [DistribMulAction G V] in
theorem threads_during (w : World ι R G V S) (c : Call ι R G V S) (t : ι) :
    (w.during c).threads t = if t = c.thread then c.own else w.threads t := by
  simp [during, Function.update_apply]

variable {wc : WorkCell R G V S} {grader : Grader R G V} {input : StepInput R S}
  {promise : Promise}

omit [Field R] [LinearOrder R] [Group G] [AddCommGroup V] [Module R V] [DistribMulAction G V] in
/-- What a thread does shows in the pool at that worker. -/
theorem at_worker {α : Type} (w : World ι R G V S) (f : SimState R G V S → α)
    {c c' : Call ι R G V S} (h : c'.thread = c.thread) :
    (fun t => f ((w.during c').threads t)) =
      Function.update (fun t => f ((w.during c).threads t)) c.thread (f c'.own) := by
  funext t
  by_cases ht : t = c.thread
  · simp [threads_during, h, ht]
  · simp [threads_during, h, ht]

omit [Field R] [LinearOrder R] [Group G] [AddCommGroup V] [Module R V] [DistribMulAction G V] in
/-- What holds of every thread still does if it does of the one that has moved. -/
theorem forall_threads {Q : SimState R G V S → Prop} (w : World ι R G V S)
    {c c' : Call ι R G V S} (h : c'.thread = c.thread) (hQ : ∀ t, Q ((w.during c).threads t))
    (own : Q c.own → Q c'.own) : ∀ t, Q ((w.during c').threads t) := by
  intro t
  have hself : Q c.own := by simpa [threads_during] using hQ c.thread
  rw [threads_during, h]
  by_cases ht : t = c.thread
  · rw [if_pos ht]
    exact own hself
  · simpa [threads_during, ht] using hQ t

omit [LinearOrder R] [Module R V] [DecidableEq ι] in
theorem untaken {st st' : Stage S} {es : List (Happening R G V)} {scene : Scene R S}
    (h : GoesOn wc scene promise st es st') (t : ι) (p : Option (TargetPtr G V)) :
    (entries t p es).filterMap takenTarget = [] := by
  cases h <;> rfl

omit [Field R] [LinearOrder R] [Module R V] [DecidableEq ι] in
theorem taken_of_opens {st : Stage S} {es : List (Happening R G V)} {scene : Scene R S}
    (h : Opens wc scene es st) (t : ι) (p : TargetPtr G V) :
    (entries t (some p) es).filterMap takenTarget = [p] := by
  cases h <;> rfl

omit [LinearOrder R] [Module R V] in
theorem pool_shift (w : World ι R G V S) {c c' : Call ι R G V S} {es : List (Happening R G V)}
    (h : c.Shift es c')
    (hgo : GoesOn wc c.sim.scene promise c.own.stage es c'.own.stage) :
    Pool.Step (lifecycle wc c.sim.scene promise) (w.during c).pool (w.during c').pool := by
  have hstage : (w.during c).pool.stage c.thread = c.own.stage := by simp [pool, during]
  have hheld : (w.during c).pool.held c.thread = c.own.target := by simp [pool, during]
  have hpool : (w.during c').pool = (w.during c).pool.goOn c.thread es c'.own.stage := by
    apply Pool.ext
    · simp [pool, during, Pool.goOn, h.queue]
    · simp [pool, during, Pool.goOn, h.log, untaken hgo]
    · have hupdate := at_worker w SimState.target h.thread
      rw [h.target, ← hheld] at hupdate
      exact hupdate.trans (Function.update_eq_self _ _)
    · exact at_worker w SimState.stage h.thread
    · rw [Pool.goOn, hheld]
      exact h.log
  rw [hpool]
  exact .goOn c.thread (hstage ▸ hgo)

omit [LinearOrder R] [Module R V] in
theorem pool_deal (w : World ι R G V S) {c c' : Call ι R G V S} {task : SubTaskPtr R G V}
    {p : TargetPtr G V} {e : Happening R G V} (h : c.Deal task p e c')
    (hopens : Opens wc c.sim.scene [.taken (c.nextCache task), e] c'.own.stage) :
    Pool.Step (lifecycle wc c.sim.scene promise) (w.during c).pool (w.during c').pool := by
  have hstage : (w.during c).pool.stage c.thread = c.own.stage := by simp [pool, during]
  have htaken := taken_of_opens hopens c.thread p
  have hpool : (w.during c').pool = (w.during c).pool.deal c.thread p
      (c'.sim.taskQueue.map Prod.snd) [.taken (c.nextCache task), e] c'.own.stage := by
    apply Pool.ext
    · simp [pool, during, Pool.deal]
    · simp [pool, during, Pool.deal, h.log, htaken]
    · exact (at_worker w SimState.target h.thread).trans (by rw [h.target]; rfl)
    · exact at_worker w SimState.stage h.thread
    · exact h.log
  rw [hpool]
  apply Pool.Step.deal c.thread _ _ hopens
  · exact hstage.trans (SimState.stage_eq_newGrasp.mpr h.idle)
  · simp [pool, during, h.queue]

omit [Module R V] in
/-- Every move is a step of the pool. -/
theorem pool_move (w : World ι R G V S) {c c' : Call ι R G V S}
    (h : c.Move wc grader input promise c') :
    Pool.Step (lifecycle wc c.sim.scene promise) (w.during c).pool (w.during c').pool := by
  rcases Call.move_cases h with ⟨es, hshift, hgo, -⟩ | ⟨task, p, e, hdeal, hopens, -⟩
  · exact pool_shift w hshift hgo
  · exact pool_deal w hdeal hopens

/-! ## Runs -/

/-- The condition holds of a callback, unless it does nothing. -/
def Action.Meets (cond : StepInput R S → Call ι R G V S → Prop) (w : World ι R G V S) :
    Action ι R S → Prop
  | .stepCB t input => w.sim.requestSimulationStop = true ∨ cond input (w.call t)
  | .pauseSimulation => True
  | .resumeSimulation => True

/-- A sequence of actions that meet a condition. -/
abbrev Run (wc : WorkCell R G V S) (grader : Grader R G V)
    (cond : StepInput R S → Call ι R G V S → Prop) : World ι R G V S → World ι R G V S → Prop :=
  Relation.ReflTransGen fun w w' => ∃ a, Step wc grader w a w' ∧ a.Meets cond w

variable {cond : StepInput R S → Call ι R G V S → Prop} {P : World ι R G V S → Prop}

/-- An invariant of the moves is one of the runs. -/
theorem Run.invariant (promise : Promise) (keeps : ∀ w t input, P w → cond input (w.call t) →
      (w.call t).Keeps wc grader input promise)
    (move : ∀ (w : World ι R G V S) (c c' : Call ι R G V S) (input : StepInput R S),
      P (w.during c) → c.Move wc grader input promise c' → P (w.during c'))
    (request : ∀ w b, P w → P { w with sim := { w.sim with requestSimulationStop := b } })
    {w w' : World ι R G V S} (run : Run wc grader cond w w') (h : P w) : P w' := by
  have moves (w : World ι R G V S) (input : StepInput R S) {c c' : Call ι R G V S}
      (hc : c.Moves wc grader input promise c') (hP : P (w.during c)) : P (w.during c') := by
    induction hc with
    | refl => exact hP
    | tail _ hmove ih => exact move w _ _ input ih hmove
  induction run with
  | refl => exact h
  | @tail w w' _ hstep ih =>
    obtain ⟨a, hstep, hmeets⟩ := hstep
    cases hstep with
    | @stepCB t input fuel c hc =>
      have hkeeps := hmeets.imp_right fun hcond => keeps w t input ih hcond
      have hmoves := Call.moves_stepCB hkeeps hc
      exact moves w input hmoves (by rwa [during_call])
    | pauseSimulation => exact request w true ih
    | resumeSimulation => exact request w false ih

/-! ## Performing a run -/

section Performing
variable (wc) (grader) (cond) [∀ input c, Decidable (cond input c)]

instance (w : World ι R G V S) : (a : Action ι R S) → Decidable (a.Meets cond w)
  | .stepCB _ _ => inferInstanceAs (Decidable (_ ∨ _))
  | .pauseSimulation => inferInstanceAs (Decidable True)
  | .resumeSimulation => inferInstanceAs (Decidable True)

/-- One action, its callback given up after `fuel` rounds. -/
def perform (fuel : ℕ) : Action ι R S → World ι R G V S → Option (World ι R G V S)
  | .stepCB t input, w => ((w.call t).stepCB wc grader input fuel).map w.during
  | .pauseSimulation, w => some w.pauseSimulation
  | .resumeSimulation, w => some w.resumeSimulation

/-- Actions that each meet the condition, one after the other. -/
def performAll (fuel : ℕ) : List (Action ι R S) → World ι R G V S → Option (World ι R G V S)
  | [], w => some w
  | a :: as, w => if a.Meets cond w then (perform wc grader fuel a w).bind (performAll fuel as)
    else none

variable {wc grader cond}

omit [∀ input c, Decidable (cond input c)] in
theorem step_of_perform {fuel : ℕ} {a : Action ι R S} {w w' : World ι R G V S}
    (h : perform wc grader fuel a w = some w') : Step wc grader w a w' := by
  cases a with
  | stepCB t input =>
    obtain ⟨c, hc, rfl⟩ := Option.map_eq_some_iff.mp h
    exact .stepCB hc
  | pauseSimulation =>
    cases h
    exact .pauseSimulation
  | resumeSimulation =>
    cases h
    exact .resumeSimulation

/-- What is performed is a run. -/
theorem run_of_performAll {fuel : ℕ} {as : List (Action ι R S)} {w w' : World ι R G V S}
    (h : performAll wc grader cond fuel as w = some w') : Run wc grader cond w w' := by
  induction as generalizing w with
  | nil =>
    cases h
    exact .refl
  | cons a as ih =>
    unfold performAll at h
    split at h
    · rename_i hmeets
      obtain ⟨w₁, hstep, hrest⟩ := Option.bind_eq_some_iff.mp h
      exact .head ⟨a, step_of_perform hstep, hmeets⟩ (ih hrest)
    · cases h

end Performing
end World
end Gripperz.Simulation
