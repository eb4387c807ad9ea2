import Gripperz.Simulation.Solo

/-! # The force limits of the hand

There is one hand for all threads. Its motors are limited anew by every target that is set up for a
subtask with limits of its own, and every thread that is in the middle of a grasp feels it. The
limits stay as they are when no subtask has other ones than the hand was loaded with.
-/
namespace Gripperz.Simulation
open Math Grasps Library

variable {ι R G V S E : Type} [Field R] [LinearOrder R] [Group G] [AddCommGroup V] [Module R V]
  [DistribMulAction G V]

/-- No target is grasped with other limits. -/
def LeavesLimits (limits : Q R) (task : GraspTask R G V) : Prop :=
  ∀ subtask ∈ task.subTasks, subtask.targets ≠ [] →
    subtask.tauMax.size = 0 ∨ subtask.tauMax = limits

namespace Call
variable {wc : WorkCell R G V S} {grader : Grader R G V} {input : StepInput R S}
  {promise : Promise}

omit [Group G] [AddCommGroup V] [Module R V] [DistribMulAction G V] in
theorem motor_finish (k : Counter) (status : TestStatus)
    (e : GraspResult R G V → GraspResult R G V) (c : Call ι R G V S) :
    (c.finish wc grader k status e).sim.motorForceLimits = c.sim.motorForceLimits := by
  rw [finish_eq]

omit [Field R] [LinearOrder R] [Module R V] in
/-- What is set up for a target is what its subtask and the hand allow. -/
theorem motor_setUp (wc : WorkCell R G V S) (input : StepInput R S) (subtask : SubTaskPtr R G V)
    (p : TargetPtr G V) (rest : List (SubTaskPtr R G V × TargetPtr G V)) (nstate : S)
    (c : Call ι R G V S) :
    let ready := ((c.take subtask p rest).setPoses wc p).setUp wc input nstate
    ready.sim.taskQueue = rest ∧
      ready.sim.motorForceLimits = (c.take subtask p rest).forceLimits := by
  set c₁ := (c.take subtask p rest).setPoses wc p with hc₁
  have hqueue : (c₁.setUp wc input nstate).sim.taskQueue = c₁.sim.taskQueue := rfl
  have hlimits : (c₁.setUp wc input nstate).sim.motorForceLimits = c₁.forceLimits := rfl
  exact ⟨hqueue, hlimits⟩

omit [Field R] [LinearOrder R] [Group G] [AddCommGroup V] [Module R V] [DistribMulAction G V] in
theorem motor_collide (wc : WorkCell R G V S) (nstate : S) (c : Call ι R G V S) :
    (c.collide wc nstate).sim.taskQueue = c.sim.taskQueue ∧
      (c.collide wc nstate).sim.motorForceLimits = c.sim.motorForceLimits := ⟨rfl, rfl⟩

omit [LinearOrder R] [Module R V] in
theorem motor_beginApproach (wc : WorkCell R G V S) (nstate : S) (c : Call ι R G V S) :
    (c.beginApproach wc nstate).sim.taskQueue = c.sim.taskQueue ∧
      (c.beginApproach wc nstate).sim.motorForceLimits = c.sim.motorForceLimits := ⟨rfl, rfl⟩

omit [Module R V] in
/-- The limits change only when a target is set up, to those of its subtask. -/
theorem motor_move {c c' : Call ι R G V S} (h : c.Move wc grader input promise c') :
    c'.sim.motorForceLimits = c.sim.motorForceLimits ∨
      ∃ subtask p rest, c.sim.taskQueue = (subtask, p) :: rest ∧ c'.sim.taskQueue = rest ∧
        c'.sim.motorForceLimits = (c.take subtask p rest).forceLimits := by
  cases h with
  | quiet h =>
    obtain ⟨paths, hsim⟩ := h.sim
    exact .inl (by rw [hsim])
  | abort h once assigned => exact .inl (motor_finish _ _ _ c)
  | configure h q => exact .inl rfl
  | approach h => exact .inl rfl
  | miss h => exact .inl (motor_finish _ _ _ c)
  | grasp h closed touching => exact .inl rfl
  | drop h => exact .inl (motor_finish _ _ _ c)
  | lift h object x hs touching graded =>
    rw [lift_eq]
    exact .inl rfl
  | stop h hq =>
    rw [getNextTarget_nil hq]
    exact .inl rfl
  | skip h hq set => exact .inl rfl
  | @collide _ subtask p rest hq nstate unset =>
    obtain ⟨hqueue, hlimits⟩ := motor_setUp wc input subtask p rest nstate c
    obtain ⟨hqueue', hlimits'⟩ := motor_collide wc nstate
      (((c.take subtask p rest).setPoses wc p).setUp wc input nstate)
    exact .inr ⟨subtask, p, rest, hq, hqueue'.trans hqueue, hlimits'.trans hlimits⟩
  | @begin _ subtask p rest hq nstate unset free =>
    obtain ⟨hqueue, hlimits⟩ := motor_setUp wc input subtask p rest nstate c
    obtain ⟨hqueue', hlimits'⟩ := motor_beginApproach wc nstate
      (((c.take subtask p rest).setPoses wc p).setUp wc input nstate)
    exact .inr ⟨subtask, p, rest, hq, hqueue'.trans hqueue, hlimits'.trans hlimits⟩

omit [Field R] [LinearOrder R] [Group G] [AddCommGroup V] [Module R V] [DistribMulAction G V] in
/-- A target is set up with the limits there are. -/
theorem forceLimits_take {c : Call ι R G V S} {task : GraspTask R G V} {limits : Q R}
    {subtask : SubTaskPtr R G V} {p : TargetPtr G V}
    (rest : List (SubTaskPtr R G V × TargetPtr G V)) (leaves : LeavesLimits limits task)
    (before : c.sim.motorForceLimits = limits) (owns : Owns task subtask p)
    (cache : c.nextCache subtask = cacheOf c.sim.hand subtask) :
    (c.take subtask p rest).forceLimits = limits := by
  have hmem : subtask.subTask ∈ task.subTasks := List.mem_of_getElem? owns.loaded
  have hne : subtask.subTask.targets ≠ [] := List.ne_nil_of_mem (List.mem_of_getElem? owns.target)
  have htask : (c.take subtask p rest).own.task = some subtask := congrArg TaskCache.task cache
  rw [forceLimits, htask]
  simp only
  split
  · rename_i hset
    exact (leaves _ hmem hne).resolve_left hset.2.ne'
  · exact before

end Call

omit [Module R V] in
/-- Over a run the limits stay as they are. -/
theorem limits_kept [DecidableEq ι] {wc : WorkCell R G V S} {grader : Grader R G V}
    {input : StepInput R S} {promise : Promise} {task : GraspTask R G V} {limits : Q R}
    (w : World ι R G V S) {c c' : Call ι R G V S} (deals : Deals task (w.during c))
    (leaves : LeavesLimits limits task) (before : c.sim.motorForceLimits = limits)
    (h : c.Move wc grader input promise c') : c'.sim.motorForceLimits = limits := by
  rcases Call.motor_move h with hsame | ⟨subtask, p, rest, hq, -, hlimits⟩
  · exact hsame.trans before
  · obtain ⟨owns, cache⟩ := deals_next w deals hq
    rw [hlimits]
    exact Call.forceLimits_take rest leaves before owns cache

end Gripperz.Simulation
