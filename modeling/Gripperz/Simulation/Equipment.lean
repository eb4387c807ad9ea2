import Gripperz.Simulation.Access

/-! # What a callback needs of the work cell

`getNextTarget` asserts that the frame of a new subtask is found, and asks the hand for its force
limits as a `RigidDevice`; a target is set up relative to the TCP and the first object. A checked
callback fails where one of these is missing, or a pointer is not assigned yet. In a work cell that
has all of them only the pointers are left.
-/
namespace Gripperz.Simulation
open Math Grasps Library

variable {ι R G V S : Type} [Field R] [LinearOrder R] [Group G] [AddCommGroup V] [Module R V]
  [DistribMulAction G V]

namespace Call

/-! ## Checked callbacks -/

section Checked
variable (wc : WorkCell R G V S) (grader : Grader R G V) (input : StepInput R S)

/-- `getNextTarget`, with what it looks up for a subtask that is new to the thread. -/
def getNextTargetChecked (c : Call ι R G V S) :
    Except Fault (Option (TargetPtr G V) × Call ι R G V S) :=
  match c.sim.taskQueue with
  | [] => .ok c.getNextTarget
  | (task, _) :: _ =>
    if c.own.task.map SubTaskPtr.address = some task.address then .ok c.getNextTarget
    else if wc.hasFrame task.subTask.refFrame = false then .error .unknownFrame
    else if c.sim.hand.isRigidDevice = false then .error .noRigidDevice
    else .ok c.getNextTarget

/-- A target that is not passed over is set up with the TCP and the first object. -/
def nextGraspChecked (round : Call ι R G V S × S) :
    Except Fault ((Call ι R G V S × S) × Bool) := do
  match ← round.1.getNextTargetChecked wc with
  | (none, _) => .ok (nextGrasp wc input round)
  | (some target, c) =>
    let status := (c.sim.results target.target.result).testStatus
    if c.sim.forceSimulateAll = false ∧ status ≠ .unInitialized then
      .ok (nextGrasp wc input round)
    else if wc.hasFrame c.sim.tcp = false then .error .unknownFrame
    else if c.sim.objects = [] then .error .noObject
    else .ok (nextGrasp wc input round)

def newGraspChecked : ℕ → Call ι R G V S × S → Except Fault (Call ι R G V S)
  | 0, _ => .error .unfinished
  | fuel + 1, round => do
    let (round, again) ← nextGraspChecked wc input round
    if again then newGraspChecked fuel round else .ok round.1

def stepCBChecked (fuel : ℕ) (c : Call ι R G V S) : Except Fault (Call ι R G V S) :=
  if c.sim.requestSimulationStop then .ok c
  else do
    let c ← c.actGuarded false wc grader input
    if c.own.currentState = .newGrasp then newGraspChecked wc input fuel (c, c.own.homeState)
    else .ok c

/-- The callback comes to its end. -/
def Ends (c : Call ι R G V S) : Prop :=
  ∃ fuel c', c.stepCBChecked wc grader input fuel = .ok c'

end Checked

/-! ## Everything is there -/

/-- What the callback looks up is found. -/
structure Finds (wc : WorkCell R G V S) (c : Call ι R G V S) : Prop where
  rigidDevice : c.sim.hand.isRigidDevice = true
  tcp : wc.hasFrame c.sim.tcp = true
  objects : c.sim.objects ≠ []
  refFrames : ∀ entry ∈ c.sim.taskQueue, wc.hasFrame entry.1.subTask.refFrame = true

variable {wc : WorkCell R G V S} {grader : Grader R G V} {input : StepInput R S}
  {promise : Promise}

omit [Field R] [LinearOrder R] [Group G] [AddCommGroup V] [Module R V] [DistribMulAction G V] in
theorem Finds.getNextTarget {c : Call ι R G V S} (h : c.Finds wc) :
    c.getNextTargetChecked wc = .ok c.getNextTarget := by
  unfold getNextTargetChecked
  cases hq : c.sim.taskQueue with
  | nil => rfl
  | cons entry rest =>
    have hframe := h.refFrames entry (hq ▸ List.mem_cons_self)
    simp [hframe, h.rigidDevice]

omit [LinearOrder R] [Module R V] in
theorem Finds.nextGrasp {round : Call ι R G V S × S} (h : round.1.Finds wc) :
    nextGraspChecked wc input round = .ok (nextGrasp wc input round) := by
  rw [nextGraspChecked, h.getNextTarget, ok_bind]
  cases hq : round.1.sim.taskQueue with
  | nil => rw [getNextTarget_nil hq]
  | cons entry rest =>
    have htcp : wc.hasFrame (round.1.take entry.1 entry.2 rest).sim.tcp = true := h.tcp
    have hobjects : (round.1.take entry.1 entry.2 rest).sim.objects ≠ [] := h.objects
    rw [getNextTarget_cons hq]
    simp only [htcp, hobjects, if_false, reduceCtorEq]
    split <;> rfl

section
omit [Module R V]

/-- Nothing gets lost over a move. -/
theorem Finds.move {c c' : Call ι R G V S} (h : c.Finds wc)
    (hmove : c.Move wc grader input promise c') : c'.Finds wc := by
  have hkept (hscene : c'.sim.scene = c.sim.scene)
      (hqueue : ∀ entry ∈ c'.sim.taskQueue, entry ∈ c.sim.taskQueue) : c'.Finds wc := by
    have hhand : c'.sim.hand = c.sim.hand := congrArg Scene.hand hscene
    have htcp : c'.sim.tcp = c.sim.tcp := congrArg Scene.tcp hscene
    have hobjects : c'.sim.objects = c.sim.objects := congrArg Scene.objects hscene
    exact ⟨hhand ▸ h.rigidDevice, htcp ▸ h.tcp, hobjects ▸ h.objects,
      fun entry hentry => h.refFrames entry (hqueue entry hentry)⟩
  rcases move_cases hmove with ⟨es, hshift, -⟩ | ⟨subtask, p, e, hdeal, -⟩
  · exact hkept hshift.scene fun entry hentry => hshift.queue ▸ hentry
  · exact hkept hdeal.scene fun entry hentry => hdeal.queue ▸ List.mem_cons_of_mem _ hentry

theorem Finds.moves {c c' : Call ι R G V S} (h : c.Finds wc)
    (hmoves : c.Moves wc grader input promise c') : c'.Finds wc := by
  induction hmoves with
  | refl => exact h
  | tail _ hmove ih => exact ih.move hmove

theorem Finds.newGrasp {fuel : ℕ} {round : Call ι R G V S × S} (h : round.1.Finds wc)
    (idle : round.1.own.currentState = .newGrasp) :
    newGraspChecked wc input fuel round = finished (newGrasp wc input fuel round) := by
  induction fuel generalizing round with
  | zero => rfl
  | succ fuel ih =>
    have hmove : round.1.Move wc .graspTask input ⟨False, False, False⟩
        (Call.nextGrasp wc input round).1.1 := move_nextGrasp round idle
    have hagain (again : (Call.nextGrasp wc input round).2 = true) :
        (Call.nextGrasp wc input round).1.1.own.currentState = .newGrasp :=
      (nextGrasp_again round idle again).1
    rw [newGraspChecked, h.nextGrasp, Call.newGrasp, ok_bind]
    generalize Call.nextGrasp wc input round = next at hmove hagain
    obtain ⟨round', again⟩ := next
    cases again with
    | true => exact ih (h.move hmove) (hagain rfl)
    | false => rfl

end

/-- Where everything is there, a callback fails exactly where it uses a pointer before the first
target. -/
theorem stepCBChecked_eq {c : Call ι R G V S} (consistent : Consistent c.own) (finds : c.Finds wc)
    (fuel : ℕ) : c.stepCBChecked wc grader input fuel =
      if c.sim.requestSimulationStop = true ∨ c.UsesAssigned false wc input then
        finished (c.stepCB wc grader input fuel)
      else .error .unassigned := by
  by_cases hstop : c.sim.requestSimulationStop = true
  · rw [if_pos (.inl hstop), stepCBChecked, stepCB, if_pos hstop, if_pos hstop]
    rfl
  · have hact : c.actGuarded false wc grader input = _ := actGuarded_eq consistent
    rw [stepCBChecked, stepCB, if_neg hstop, if_neg hstop, hact]
    by_cases huses : c.UsesAssigned false wc input
    · have hmoves : c.Moves wc grader input ⟨False, False, False⟩ (c.act wc grader input) :=
        moves_act c ⟨False.elim, False.elim, False.elim⟩
      rw [if_pos huses, if_pos (.inr huses), ok_bind]
      simp only
      split
      · rename_i hidle
        exact (finds.moves hmoves).newGrasp hidle
      · rfl
    · rw [if_neg huses, if_neg (not_or.mpr ⟨hstop, huses⟩)]
      rfl

/-! ## A checked callback that ends is the callback -/

omit [LinearOrder R] [Module R V] in
theorem nextGrasp_of_checked {round : Call ι R G V S × S} {next : (Call ι R G V S × S) × Bool}
    (h : nextGraspChecked wc input round = .ok next) : Call.nextGrasp wc input round = next := by
  unfold nextGraspChecked at h
  cases hnext : round.1.getNextTargetChecked wc with
  | error fault =>
    rw [hnext] at h
    cases h
  | ok found =>
    rw [hnext, ok_bind] at h
    obtain ⟨target, c⟩ := found
    cases target with
    | none => exact Except.ok.inj h
    | some target =>
      simp only at h
      split at h
      · exact Except.ok.inj h
      · split at h
        · cases h
        · split at h
          · cases h
          · exact Except.ok.inj h

omit [LinearOrder R] [Module R V] in
theorem newGrasp_of_checked {fuel : ℕ} {round : Call ι R G V S × S} {c : Call ι R G V S}
    (h : newGraspChecked wc input fuel round = .ok c) :
    Call.newGrasp wc input fuel round = some c := by
  induction fuel generalizing round with
  | zero => cases h
  | succ fuel ih =>
    rw [newGraspChecked] at h
    cases hnext : nextGraspChecked wc input round with
    | error fault =>
      rw [hnext] at h
      cases h
    | ok next =>
      obtain ⟨round', again⟩ := next
      rw [hnext, ok_bind] at h
      rw [Call.newGrasp, nextGrasp_of_checked hnext]
      cases again with
      | true => exact ih h
      | false => exact congrArg some (Except.ok.inj h)

theorem stepCB_of_checked {c c' : Call ι R G V S} (consistent : Consistent c.own) {fuel : ℕ}
    (h : c.stepCBChecked wc grader input fuel = .ok c') :
    c.stepCB wc grader input fuel = some c' := by
  unfold stepCBChecked at h
  unfold stepCB
  split at h
  · rename_i hstop
    rw [if_pos hstop, Except.ok.inj h]
  · rename_i hstop
    rw [if_neg hstop]
    have hact : c.actGuarded false wc grader input = _ := actGuarded_eq consistent
    rw [hact] at h
    by_cases huses : c.UsesAssigned false wc input
    · rw [if_pos huses, ok_bind] at h
      simp only at h ⊢
      split at h
      · rename_i hidle
        rw [if_pos hidle]
        exact newGrasp_of_checked h
      · rename_i hbusy
        rw [if_neg hbusy, Except.ok.inj h]
    · rw [if_neg huses] at h
      cases h

/-- Where everything is there a callback ends, unless it uses a pointer before the first target. -/
theorem ends_of_finds {c : Call ι R G V S} (consistent : Consistent c.own) (finds : c.Finds wc)
    (uses : c.sim.requestSimulationStop = true ∨ c.UsesAssigned false wc input) :
    ∃ c', ∀ fuel, c.sim.taskQueue.length < fuel →
      c.stepCBChecked wc grader input fuel = .ok c' := by
  obtain ⟨c', hc⟩ : ∃ c', ∀ fuel, c.sim.taskQueue.length < fuel →
      c.stepCB wc grader input fuel = some c' := stepCB_terminates c
  refine ⟨c', fun fuel hfuel => ?_⟩
  rw [stepCBChecked_eq consistent finds, if_pos uses, hc fuel hfuel]
  rfl

end Call

/-! ## Runs -/

/-- The work cell has what a task set needs: a hand that can be loaded and is a `RigidDevice`, the
TCP, the frames of the subtasks that have targets, and an object. -/
structure Equipped (wc : WorkCell R G V S) (task : GraspTask R G V) : Prop where
  hand : ∃ hand, wc.findDevice task.gripperID = some hand ∧ hand.isRigidDevice = true ∧
    hand.movableFrame ≠ none
  tcp : wc.hasFrame task.tcpID = true
  refFrames : ∀ subtask ∈ task.subTasks, subtask.targets ≠ [] →
    wc.hasFrame subtask.refFrame = true
  objects : wc.rigidBodies ≠ []

namespace World
variable [DecidableEq ι] {wc : WorkCell R G V S} {grader : Grader R G V}
  {task : GraspTask R G V} {cond : StepInput R S → Call ι R G V S → Prop}

/-- A thread's callbacks find everything, and its pointers are consistent. -/
structure Provided (wc : WorkCell R G V S) (w : World ι R G V S) : Prop where
  finds : ∀ t, (w.call t).Finds wc
  consistent : w.ConsistentThreads

omit [LinearOrder R] [Module R V] [DistribMulAction G V] [DecidableEq ι] in
theorem provided_launch (equipped : Equipped wc task) (below : Transform3D G V) (initState : S)
    {w : World ι R G V S} (fresh : task.targets ≠ [] ∨ w.ConsistentThreads) :
    Provided wc (w.launch wc task below initState) := by
  obtain ⟨hand, hdevice, hrigid, hmovable⟩ := equipped.hand
  have hlaunched := launched wc task below initState w
  have hscene : (w.launch wc task below initState).sim.hand = hand ∧
      (w.launch wc task below initState).sim.tcp = task.tcpID ∧
      (w.launch wc task below initState).sim.objects = wc.rigidBodies := by
    have hload : (w.sim.load wc task).1.hand = hand ∧ (w.sim.load wc task).1.tcp = task.tcpID ∧
        (w.sim.load wc task).1.objects = wc.rigidBodies := by
      obtain ⟨mbase, hmbase⟩ := Option.ne_none_iff_exists'.mp hmovable
      unfold GraspTaskSimulator.load
      simp only [hdevice, hmbase]
      exact ⟨trivial, trivial, trivial⟩
    simp only [launch, start, startSimulation]
    split
    · exact hload
    · exact hload
  constructor
  · intro t
    refine ⟨hscene.1 ▸ hrigid, hscene.2.1 ▸ equipped.tcp, hscene.2.2 ▸ equipped.objects, ?_⟩
    intro entry hentry
    have howns : Owns task entry.1 entry.2 := owns_of_mem (hlaunched.queue ▸ hentry)
    exact equipped.refFrames _ (List.mem_of_getElem? howns.loaded)
      (List.ne_nil_of_mem (List.mem_of_getElem? howns.target))
  · unfold launch start startSimulation ConsistentThreads
    simp only
    split
    · rename_i hnone
      refine fresh.resolve_left fun hne => hne ?_
      rwa [(load_eq wc task w.sim).2, List.length_eq_zero_iff] at hnone
    · exact fun t => consistent_newSimState _

omit [Module R V] in
theorem Provided.during (w : World ι R G V S) {c c' : Call ι R G V S} {input : StepInput R S}
    {promise : Promise} (h : Provided wc (w.during c))
    (hmove : c.Move wc grader input promise c') : Provided wc (w.during c') := by
  have hself : c.Finds wc :=
    ⟨(h.finds c.thread).rigidDevice, (h.finds c.thread).tcp, (h.finds c.thread).objects,
      (h.finds c.thread).refFrames⟩
  have hnext : c'.Finds wc := hself.move hmove
  have hthread : c'.thread = c.thread := by
    rcases Call.move_cases hmove with ⟨es, hshift, -⟩ | ⟨subtask, p, e, hdeal, -⟩
    · exact hshift.thread
    · exact hdeal.thread
  exact ⟨fun t => ⟨hnext.rigidDevice, hnext.tcp, hnext.objects, hnext.refFrames⟩,
    forall_threads w hthread h.consistent (Call.consistent_move hmove)⟩

theorem Provided.run {w w' : World ι R G V S} (h : Provided wc w)
    (run : Run wc grader cond w w') : Provided wc w' := by
  apply Run.invariant ⟨False, False, False⟩ _ _ _ run h
  · intro w t input _ _
    exact ⟨False.elim, False.elim, False.elim⟩
  · exact fun w c c' input hP hmove => hP.during w hmove
  · exact fun w b hP => ⟨fun t => ⟨(hP.finds t).rigidDevice, (hP.finds t).tcp, (hP.finds t).objects,
      (hP.finds t).refFrames⟩, hP.consistent⟩

end World

/-- Over every run of any number of threads no target is lost, dealt twice or dealt for another
subtask. In a work cell that has what the task set needs, every callback ends that uses no pointer
before its thread has a target. -/
theorem every_target_dealt [DecidableEq ι] (wc : WorkCell R G V S) (grader : Grader R G V)
    (task : GraspTask R G V) (below : Transform3D G V) (initState : S) (w₀ w : World ι R G V S)
    (run : World.Run wc grader (fun input c => c.Ends wc grader input)
      (w₀.launch wc task below initState) w) :
    DealtInOrder task w ∧
      (Equipped wc task → task.targets ≠ [] ∨ w₀.ConsistentThreads → ∀ t input,
        w.sim.requestSimulationStop = true ∨ (w.call t).UsesAssigned false wc input →
          ∃ c, ∀ fuel, w.sim.taskQueue.length < fuel →
            (w.call t).stepCBChecked wc grader input fuel = .ok c) := by
  have hdeals : Deals task w := deals_run run (launched wc task below initState w₀).deals
  refine ⟨hdeals.dealtInOrder, fun equipped fresh t input uses => ?_⟩
  have hprovided := (World.provided_launch equipped below initState fresh).run run
  exact Call.ends_of_finds (hprovided.consistent t) (hprovided.finds t) uses

/-- In a work cell with all it needs, callbacks that use no unassigned pointer end. -/
theorem World.Run.ends [DecidableEq ι] {wc : WorkCell R G V S} {grader : Grader R G V}
    {cond : StepInput R S → Call ι R G V S → Prop} {w w' : World ι R G V S}
    (run : World.Run wc grader cond w w') (provided : World.Provided wc w)
    (uses : ∀ input c, cond input c → Call.Consistent c.own → c.UsesAssigned false wc input) :
    World.Run wc grader (fun input c => c.Ends wc grader input) w w' := by
  induction run with
  | refl => exact .refl
  | @tail w₁ w₂ hrun hstep ih =>
    obtain ⟨a, step, meets⟩ := hstep
    refine ih.tail ⟨a, step, ?_⟩
    have hprovided : World.Provided wc w₁ := provided.run hrun
    cases a with
    | stepCB t input =>
      refine meets.imp_right fun hcond => ?_
      have huses := uses input (w₁.call t) hcond (hprovided.consistent t)
      obtain ⟨c, hc⟩ := Call.ends_of_finds (hprovided.consistent t) (hprovided.finds t) (.inr huses)
      exact ⟨_, c, hc _ (Nat.lt_succ_self _)⟩
    | pauseSimulation => trivial
    | resumeSimulation => trivial

namespace Sample

theorem equipped (targets : ℕ) : Equipped cell (task targets) :=
  ⟨⟨hand, rfl, rfl, by decide⟩, rfl, fun _ _ _ => rfl, by decide⟩

/-- The sample cell without any of the frames. -/
def framelessCell : WorkCell ℚ ℤˣ ℚ Bool := { cell with hasFrame := fun _ => false }

/-- The sample cell with a hand that is no `RigidDevice`. -/
def suctionCell : WorkCell ℚ ℤˣ ℚ Bool :=
  { cell with findDevice := fun _ => some { hand with isRigidDevice := false } }

end Sample

theorem every_target_dealt_two : ∃ w : World Bool ℚ ℤˣ ℚ Bool,
    World.performAll Sample.cell .basic (fun input c => c.UsesAssigned false Sample.cell input) 3
      Sample.takeBoth (Sample.world.launch Sample.cell (Sample.task 2) 1 false) = some w ∧
    DealtInOrder (Sample.task 2) w ∧
    ∃ c, (w.call true).stepCBChecked Sample.cell .basic (Sample.callback 1 false) 1 = .ok c := by
  have hsome : (World.performAll Sample.cell .basic
      (fun input c => c.UsesAssigned false Sample.cell input) 3 Sample.takeBoth
      (Sample.world.launch Sample.cell (Sample.task 2) 1 false)).map
      (fun w => decide (w.sim.taskQueue = [] ∧ (w.threads true).target ≠ none)) = some true := by
    decide +kernel
  obtain ⟨w, hw, hqueue⟩ := Option.map_eq_some_iff.mp hsome
  obtain ⟨hqueue, htarget⟩ := of_decide_eq_true hqueue
  have hne : (Sample.task 2).targets ≠ [] := by decide
  have run := (World.run_of_performAll hw).ends
    (World.provided_launch (Sample.equipped 2) 1 false (.inl hne)) fun _ _ huses _ => huses
  obtain ⟨hdealt, hends⟩ := every_target_dealt Sample.cell .basic (Sample.task 2) 1 false
    Sample.world w run
  obtain ⟨c, hc⟩ := hends (Sample.equipped 2) (.inl hne) true (Sample.callback 1 false)
    (.inr fun hnone => absurd hnone htarget)
  exact ⟨w, hw, hdealt, c, hc 1 (by simp [hqueue])⟩

/-- The first callback never comes to its end where the frame of the subtask is not in the work
cell, and where the hand is no `RigidDevice`. -/
theorem not_every_target_dealt :
    ¬ ((Sample.world.launch Sample.framelessCell (Sample.task 1) 1 false).call true).Ends
      Sample.framelessCell .basic (Sample.callback 0 false) ∧
    ¬ ((Sample.world.launch Sample.suctionCell (Sample.task 1) 1 false).call true).Ends
      Sample.suctionCell .basic (Sample.callback 0 false) := by
  constructor
  · rintro ⟨fuel, c, hc⟩
    cases fuel <;> cases hc
  · rintro ⟨fuel, c, hc⟩
    cases fuel <;> cases hc

end Gripperz.Simulation
