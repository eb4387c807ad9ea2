import Gripperz.Simulation.Access
import Gripperz.Simulation.Setups

/-! # A target on its own

What becomes of a target when a thread of its own simulates it, with an engine of its own: the
loop of `NEW_GRASP` meets it first, and the callbacks follow until the grasp has ended.
-/
namespace Gripperz.Simulation
open Math Grasps Library

variable {ι κ R G V S E : Type} [DecidableEq ι] [DecidableEq κ] [DecidableEq G] [DecidableEq V]
  [Field R] [LinearOrder R] [Group G] [AddCommGroup V] [Module R V] [DistribMulAction G V]

namespace Call
variable {wc : WorkCell R G V S} {grader : Grader R G V} {input input' : StepInput R S}

/-! ## The next target -/

/-- Two idle threads are about to take the same target of the same subtask. -/
structure Ready (task : SubTaskPtr R G V) (p : TargetPtr G V) (c : Call ι R G V S)
    (c' : Call κ R G V S) : Prop where
  rig : c'.sim.rig = c.sim.rig
  result : c'.sim.results p.target.result = c.sim.results p.target.result
  happened : trace p c'.sim.log = trace p c.sim.log
  idle : c.own.currentState = .newGrasp
  idle' : c'.own.currentState = .newGrasp
  state : c'.own.state = c.own.state
  homeState : c'.own.homeState = c.own.homeState
  cache : c'.nextCache task = c.nextCache task

variable {task : SubTaskPtr R G V} {p : TargetPtr G V} {c : Call ι R G V S} {c' : Call κ R G V S}
  {rest rest' : List (SubTaskPtr R G V × TargetPtr G V)}

omit [DecidableEq G] [DecidableEq V] [Field R] [LinearOrder R] [Group G] [AddCommGroup V]
  [Module R V] [DistribMulAction G V] in
/-- An idle thread has nothing left to be compared but the poses of its hand. -/
theorem sameGrasp_of_idle {own own' : SimState R G V S} (target : own.target = some p)
    (target' : own'.target = some p) (cache : own'.toTaskCache = own.toTaskCache)
    (idle : own.currentState = .newGrasp) (idle' : own'.currentState = .newGrasp)
    (state : own'.state = own.state) (homeState : own'.homeState = own.homeState)
    (approachTarget : own'.wTmbase_approachTarget = own.wTmbase_approachTarget)
    (retractTarget : own'.wTmbase_retractTarget = own.wTmbase_retractTarget) :
    SameGrasp p own own' where
  target := target
  target' := target'
  cache := cache
  currentState := idle'.trans idle.symm
  state := state
  homeState := homeState
  approachTarget := approachTarget
  retractTarget := retractTarget
  restingTime hbusy := absurd idle hbusy
  approachedTime hgrasping := by simp [idle] at hgrasping
  restCount hbusy := by simp [idle] at hbusy
  closed hlifting := by simp [idle] at hlifting

omit [DecidableEq ι] [DecidableEq κ] [Field R] [LinearOrder R] [Group G] [AddCommGroup V]
  [Module R V] [DistribMulAction G V] in
theorem Ready.take (h : Ready task p c c') :
    trace p (c'.take task p rest').sim.log = trace p (c.take task p rest).sim.log := by
  change trace p (c'.sim.log ++ entries c'.thread (some p) [.taken (c'.nextCache task)]) =
    trace p (c.sim.log ++ entries c.thread (some p) [.taken (c.nextCache task)])
  rw [trace_append, trace_append, trace_entries_self, trace_entries_self, h.happened, h.cache]

section
omit [DecidableEq ι] [DecidableEq κ] [Field R] [LinearOrder R] [Module R V]

/-- The target has been taken and its poses are set. -/
theorem Ready.setPoses (h : Ready task p c c') :
    Alike p ((c.take task p rest).setPoses wc p) ((c'.take task p rest').setPoses wc p) := by
  have hmbase : c'.sim.mbase = c.sim.mbase := congrArg Rig.mbase h.rig
  have htcp : c'.sim.tcp = c.sim.tcp := congrArg (fun rig => rig.toScene.tcp) h.rig
  refine ⟨h.rig, h.result, h.take, ?_⟩
  refine sameGrasp_of_idle rfl rfl h.cache h.idle h.idle' h.state h.homeState ?_ ?_
  · simp only [Call.setPoses, Call.take, Call.record, h.cache, h.homeState, hmbase, htcp]
  · simp only [Call.setPoses, Call.take, Call.record, h.cache, h.homeState, hmbase, htcp]

theorem Ready.initTarget (h : Ready task p c c') :
    ((c'.take task p rest').setPoses wc p).own.wTmbase_initTarget =
      ((c.take task p rest).setPoses wc p).own.wTmbase_initTarget := by
  have hmbase : c'.sim.mbase = c.sim.mbase := congrArg Rig.mbase h.rig
  have htcp : c'.sim.tcp = c.sim.tcp := congrArg (fun rig => rig.toScene.tcp) h.rig
  simp only [Call.setPoses, Call.take, Call.record, h.cache, h.homeState, hmbase, htcp]

theorem Alike.setUp (h : Alike p c c') (nstate : S) :
    Alike p (c.setUp wc input nstate) (c'.setUp wc input' nstate) := by
  have hpose : c'.setupPose wc nstate = c.setupPose wc nstate := by
    simp only [setupPose, h.tcp, h.objects]
  unfold Call.setUp
  simp only [hpose]
  have hedit := h.edit fun r => { r with objectTtcpTarget := c.setupPose wc nstate }
  exact ⟨hedit.rig, hedit.result, hedit.happened, hedit.own⟩

end

variable (wc) in
omit [DecidableEq ι] [DecidableEq κ] [Field R] [LinearOrder R] [Group G] [AddCommGroup V]
  [Module R V] [DistribMulAction G V] in
theorem Alike.collide (h : Alike p c c') (nstate : S) :
    Alike p (c.collide wc nstate) (c'.collide wc nstate) := by
  have hstatus : c'.initialCollision wc nstate = c.initialCollision wc nstate := by
    simp only [initialCollision, h.objects]
  have hopen : c'.own.openQ = c.own.openQ := congrArg TaskCache.openQ h.own.cache
  unfold Call.collide
  simp only [hstatus, hopen]
  have hedit := h.edit fun r => { r with
    testStatus := c.initialCollision wc nstate, gripperConfigurationGrasp := c.own.openQ }
  exact ⟨hedit.rig, hedit.result, hedit.log [.collided (c.initialCollision wc nstate)], hedit.own⟩

variable (wc) in
omit [DecidableEq ι] [DecidableEq κ] [LinearOrder R] [Module R V] in
theorem Alike.beginApproach (h : Alike p c c') (nstate : S) :
    Alike p (c.beginApproach wc nstate) (c'.beginApproach wc nstate) := by
  have hpose : c'.setupPose wc nstate = c.setupPose wc nstate := by
    simp only [setupPose, h.tcp, h.objects]
  refine ⟨h.rig, h.result, ?_, ?_⟩
  · have hlog := h.log [.setUp (c.setupPose wc nstate)]
    unfold Call.beginApproach
    rw [hpose]
    exact hlog
  · exact { h.own with
      currentState := rfl
      restingTime := fun _ => rfl
      approachedTime := fun hgrasping => by cases hgrasping
      restCount := fun hbusy => by rcases hbusy with hbusy | hbusy <;> cases hbusy
      closed := fun hlifting => by cases hlifting }

omit [DecidableEq ι] [DecidableEq G] [DecidableEq V] [LinearOrder R] [Module R V] in
/-- What one round makes of the target at the top of the queue. -/
theorem nextGrasp_cons (hq : c.sim.taskQueue = (task, p) :: rest) (state : S) :
    nextGrasp wc input (c, state) =
      if c.sim.forceSimulateAll = false ∧
          (c.sim.results p.target.result).testStatus ≠ .unInitialized then
        (((c.take task p rest).skip (c.sim.results p.target.result).testStatus, state), true)
      else
        let taken := (c.take task p rest).setPoses wc p
        let nstate := taken.setupState wc state
        let ready := taken.setUp wc input nstate
        if wc.inCollision nstate then ((ready.collide wc nstate, nstate), true)
        else ((ready.beginApproach wc nstate, nstate), false) := by
  rw [nextGrasp, getNextTarget_cons hq]
  rfl

/-- Both threads do the same with the target, and begin the grasp from the same state. -/
structure SameRound (p : TargetPtr G V) (round : (Call ι R G V S × S) × Bool)
    (round' : (Call κ R G V S × S) × Bool) : Prop where
  again : round'.2 = round.2
  result : round'.1.1.sim.results p.target.result = round.1.1.sim.results p.target.result
  happened : trace p round'.1.1.sim.log = trace p round.1.1.sim.log
  begun : round.2 = false → Alike p round.1.1 round'.1.1 ∧ round'.1.2 = round.1.2

omit [DecidableEq ι] [DecidableEq κ] [Field R] [LinearOrder R] [Group G] [AddCommGroup V]
  [Module R V] [DistribMulAction G V] in
theorem Ready.skip (h : Ready task p c c') (status : TestStatus) :
    trace p ((c'.take task p rest').skip status).sim.log =
      trace p ((c.take task p rest).skip status).sim.log := by
  change trace p ((c'.take task p rest').sim.log ++
      entries c'.thread (some p) [.skipped status]) =
    trace p ((c.take task p rest).sim.log ++ entries c.thread (some p) [.skipped status])
  rw [trace_append, trace_append, trace_entries_self, trace_entries_self, h.take]

omit [DecidableEq ι] [DecidableEq κ] [Field R] [LinearOrder R] [Module R V] in
theorem Ready.setupState (h : Ready task p c c') {state state' : S}
    (hsetup : SetsUpAlike wc c.sim.hand c.sim.mbase c.sim.objects c.own.homeState state state') :
    ((c'.take task p rest').setPoses wc p).setupState wc state' =
      ((c.take task p rest).setPoses wc p).setupState wc state := by
  have hposes : Alike p ((c.take task p rest).setPoses wc p)
      ((c'.take task p rest').setPoses wc p) := h.setPoses
  have hopen : ((c'.take task p rest').setPoses wc p).own.openQ =
      ((c.take task p rest).setPoses wc p).own.openQ := congrArg TaskCache.openQ hposes.own.cache
  rw [setupState_eq, setupState_eq, hposes.hand, hposes.mbase, hposes.objects,
    hposes.own.homeState, hopen, h.initTarget]
  exact hsetup _ _

omit [DecidableEq ι] [DecidableEq κ] [LinearOrder R] [Module R V] in
theorem Ready.nextGrasp (h : Ready task p c c') (hq : c.sim.taskQueue = (task, p) :: rest)
    (hq' : c'.sim.taskQueue = (task, p) :: rest') {state state' : S}
    (hsetup : SetsUpAlike wc c.sim.hand c.sim.mbase c.sim.objects c.own.homeState state state') :
    SameRound p (nextGrasp wc input (c, state)) (nextGrasp wc input' (c', state')) := by
  have hforce : c'.sim.forceSimulateAll = c.sim.forceSimulateAll :=
    congrArg (fun rig => rig.toScene.forceSimulateAll) h.rig
  set taken := (c.take task p rest).setPoses wc p with htaken
  set taken' := (c'.take task p rest').setPoses wc p with htaken'
  have hposes : Alike p taken taken' := h.setPoses
  have hstate : taken'.setupState wc state' = taken.setupState wc state := h.setupState hsetup
  rw [nextGrasp_cons hq, nextGrasp_cons hq', hforce, h.result]
  split
  · exact ⟨rfl, h.result, h.skip _, fun hlast => by cases hlast⟩
  · simp only [← htaken, ← htaken', hstate]
    set nstate := taken.setupState wc state
    have hready : Alike p (taken.setUp wc input nstate) (taken'.setUp wc input' nstate) :=
      hposes.setUp nstate
    split
    · have hcollide := hready.collide wc nstate
      exact ⟨rfl, hcollide.result, hcollide.happened, fun hlast => by cases hlast⟩
    · have hbegin := hready.beginApproach wc nstate
      exact ⟨rfl, hbegin.result, hbegin.happened, fun _ => ⟨hbegin, rfl⟩⟩

/-! ## What a thread knew before -/

omit [DecidableEq ι] [DecidableEq G] [DecidableEq V] [LinearOrder R] [Module R V] in
/-- The loop does not read the state the thread was given. -/
theorem nextGrasp_sense (c : Call ι R G V S) (given state : S) :
    nextGrasp wc input (c.sense given, state) =
      (((nextGrasp wc input (c, state)).1.1.sense given, (nextGrasp wc input (c, state)).1.2),
        (nextGrasp wc input (c, state)).2) := by
  have hqueue : (c.sense given).sim.taskQueue = c.sim.taskQueue := rfl
  cases hq : c.sim.taskQueue with
  | nil =>
    rw [nextGrasp, nextGrasp, getNextTarget_nil hq, getNextTarget_nil (hqueue.trans hq)]
    rfl
  | cons entry rest =>
    obtain ⟨task, p⟩ := entry
    rw [nextGrasp_cons hq, nextGrasp_cons (hqueue.trans hq)]
    by_cases hset : c.sim.forceSimulateAll = false ∧
        (c.sim.results p.target.result).testStatus ≠ .unInitialized
    · rw [if_pos hset]
      exact if_pos hset
    · rw [if_neg hset]
      by_cases hcol : wc.inCollision (((c.take task p rest).setPoses wc p).setupState wc state)
      · simp only [if_pos hcol]
        exact (if_neg hset).trans (if_pos hcol)
      · simp only [if_neg hcol]
        exact (if_neg hset).trans (if_neg hcol)

omit [DecidableEq ι] [DecidableEq G] [DecidableEq V] [LinearOrder R] [Module R V] in
/-- The state the next round starts from sets up what this one did. -/
theorem nextGrasp_setsUpAlike {home : S} (overwrites : wc.Overwrites c.sim.hand)
    (hhome : c.own.homeState = home) {state : S}
    (h : SetsUpAlike wc c.sim.hand c.sim.mbase c.sim.objects home home state) :
    SetsUpAlike wc c.sim.hand c.sim.mbase c.sim.objects home home
      (nextGrasp wc input (c, state)).1.2 := by
  subst hhome
  cases hq : c.sim.taskQueue with
  | nil =>
    rw [nextGrasp, getNextTarget_nil hq]
    exact h
  | cons entry rest =>
    obtain ⟨task, p⟩ := entry
    have hnext : SetsUpAlike wc c.sim.hand c.sim.mbase c.sim.objects c.own.homeState
        c.own.homeState (((c.take task p rest).setPoses wc p).setupState wc state) :=
      SetsUpAlike.setupState ((c.take task p rest).setPoses wc p) overwrites h
    rw [nextGrasp_cons hq]
    split
    · exact h
    · simp only
      split
      · exact hnext
      · exact hnext

end Call

/-! ## A thread of its own -/

/-- One thread that has just been started finds the target alone in the queue. -/
def GraspTaskSimulator.alone (sim : GraspTaskSimulator ι R G V S) (home : S)
    (entry : SubTaskPtr R G V × TargetPtr G V) : Call Unit R G V S :=
  ⟨(), { sim with taskQueue := [entry], log := [] }, World.newSimState home⟩

/-- A callback of this thread while its grasp is in progress, the wall clock at its limit. -/
def soloStep (wc : WorkCell R G V S) (grader : Grader R G V) (engine : Engine R G V S E)
    (now : Call ι R G V S × E) : Call ι R G V S × E :=
  if now.1.own.currentState = .newGrasp then now
  else
    let e := engine.step now.1.sim.motorForceLimits now.1.own.commands now.2
    (now.1.act wc grader (engine.input now.1.sim.wallTimeLimit e), e)

/-- The thread after the loop of `NEW_GRASP` and so many callbacks. -/
def solo (wc : WorkCell R G V S) (grader : Grader R G V) (engine : Engine R G V S E)
    (start : Call ι R G V S) : ℕ → Call ι R G V S × E
  | 0 =>
    let home := start.own.homeState
    let round := (Call.nextGrasp wc (engine.input 0 (engine.reset home)) (start, home)).1
    (round.1, engine.reset round.2)
  | k + 1 => soloStep wc grader engine (solo wc grader engine start k)

variable {wc : WorkCell R G V S} {grader : Grader R G V} {engine : Engine R G V S E}

omit [DecidableEq ι] [DecidableEq κ] in
/-- A thread abreast of it stays so over the next callback, within the limits. -/
theorem soloStep_alike {p : TargetPtr G V} {now : Call κ R G V S × E} {c : Call ι R G V S}
    (h : Call.Abreast p now.1 c) (busy : c.own.currentState ≠ .newGrasp) {wallTime : R} {e : E}
    (he : engine.step now.1.sim.motorForceLimits c.own.commands now.2 = e)
    (within : ¬ c.overLimits (engine.input wallTime e)) :
    Call.Alike p (soloStep wc grader engine now).1
        (c.act wc grader (engine.input wallTime e)) ∧
      (soloStep wc grader engine now).2 = e := by
  have hsame := h (engine.state now.2)
  have hbusy : now.1.own.currentState ≠ .newGrasp := fun hnew =>
    busy (hsame.own.currentState.trans hnew)
  have hcommands : c.own.commands = now.1.own.commands := hsame.own.commands
  have hwithin : ¬ now.1.overLimits (engine.input now.1.sim.wallTimeLimit e) := fun hover =>
    lt_irrefl _ hover.1
  rw [hcommands] at he
  rw [soloStep, if_neg hbusy, he]
  exact ⟨h.act hwithin within, rfl⟩

omit [DecidableEq ι] [DecidableEq G] [DecidableEq V] in
/-- After its grasp the thread stays as it is. -/
theorem solo_ended {start : Call ι R G V S} {k : ℕ}
    (h : (solo wc grader engine start k).1.own.currentState = .newGrasp) (m : ℕ) :
    solo wc grader engine start (k + m) = solo wc grader engine start k := by
  induction m with
  | zero => rfl
  | succ m ih =>
    have hsame : (solo wc grader engine start (k + m)).1.own.currentState = .newGrasp := by
      rw [ih]
      exact h
    rw [← Nat.add_assoc, solo, soloStep, if_pos hsame, ih]

omit [DecidableEq ι] [DecidableEq G] [DecidableEq V] in
/-- The grasp ends in one way. -/
theorem solo_unique {start : Call ι R G V S} {k k' : ℕ}
    (h : (solo wc grader engine start k).1.own.currentState = .newGrasp)
    (h' : (solo wc grader engine start k').1.own.currentState = .newGrasp) :
    solo wc grader engine start k = solo wc grader engine start k' := by
  rcases Nat.le_total k k' with hle | hle
  · obtain ⟨m, rfl⟩ := Nat.exists_eq_add_of_le hle
    exact (solo_ended h m).symm
  · obtain ⟨m, rfl⟩ := Nat.exists_eq_add_of_le hle
    exact solo_ended h' m

end Gripperz.Simulation
