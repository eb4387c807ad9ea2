import Gripperz.Simulation.Finalising

/-! # Statistics and results

The statistics count the status a grasp is finished with, before the hook of the simulator
class regrades it. When the hook regrades nothing and no grasp is ended before the first
target, a complete run leaves statistics that agree with the results.
-/
namespace Gripperz.Simulation
open Math Grasps Library

variable {ι R G V S : Type} [DecidableEq ι] [DecidableEq G] [DecidableEq V] [Field R]
  [LinearOrder R] [Group G] [AddCommGroup V] [Module R V] [DistribMulAction G V]

variable {wc : WorkCell R G V S} {grader : Grader R G V} {input : StepInput R S}
  {promise : Promise} {task : GraspTask R G V}

/-! ## Threads and their targets -/

/-- No statistics yet, and no thread with a target. -/
structure Idle (w : World ι R G V S) : Prop where
  stat : ∀ s, w.sim.stat s = 0
  target : ∀ t, (w.threads t).target = none
  state : ∀ t, (w.threads t).currentState = .newGrasp

omit [DecidableEq ι] [DecidableEq G] [DecidableEq V] [LinearOrder R] [Module R V]
  [DistribMulAction G V] in
theorem idle_launch (wc : WorkCell R G V S) (task : GraspTask R G V) (below : Transform3D G V)
    (initState : S) (w : World ι R G V S) (h : task.targets ≠ [] ∨ Idle w) :
    Idle (w.launch wc task below initState) := by
  by_cases hne : task.targets = []
  · have hidle := h.resolve_left fun hnot => hnot hne
    obtain ⟨-, htotal⟩ := load_eq wc task w.sim
    have hlaunch : w.launch wc task below initState =
        World.start wc below initState { w with sim := (w.sim.load wc task).1 } := rfl
    have hzero : (w.sim.load wc task).1.totalNrOfExperiments = 0 := by simp [htotal, hne]
    have hstat : (w.sim.load wc task).1.stat = w.sim.stat := by
      unfold GraspTaskSimulator.load
      cases wc.findDevice task.gripperID with
      | none => rfl
      | some dhand =>
        simp only
        cases dhand.movableFrame <;> rfl
    rw [hlaunch, World.start, World.startSimulation, if_pos hzero]
    exact ⟨fun s => (congrFun hstat s).trans (hidle.stat s), hidle.target, hidle.state⟩
  · have hlaunched := launched wc task below initState w
    obtain ⟨state, hthreads⟩ := hlaunched.threads hne
    constructor
    · intro s
      rw [hlaunched.stat hne]
    · intro t
      rw [hthreads]
      rfl
    · intro t
      rw [hthreads]
      rfl

/-- Every event is about a target, and a thread without one or that has stopped is in
`NEW_GRASP`. -/
structure Assigned (w : World ι R G V S) : Prop where
  logged : ∀ e ∈ w.sim.log, e.target ≠ none
  idle : ∀ t, (w.threads t).target = none → (w.threads t).currentState = .newGrasp
  stopped : ∀ t, (w.threads t).stopped = true →
    (w.threads t).currentState = .newGrasp ∧ w.sim.taskQueue = []

omit [DecidableEq G] [DecidableEq V] [Module R V] in
theorem assigned_move (w : World ι R G V S) {c c' : Call ι R G V S} (h : Assigned (w.during c))
    (assigned : promise.assigned) (hmove : c.Move wc grader input promise c') :
    Assigned (w.during c') := by
  have hself : (w.during c).threads c.thread = c.own := by simp [World.during]
  have hidle := h.idle c.thread
  have hstopped := h.stopped c.thread
  rw [hself] at hidle hstopped
  rcases Call.move_cases hmove with ⟨es, hshift, hgo, hes⟩ | ⟨subtask, p, e, hdeal, hopens, -⟩
  · have hnew (hnew : c.own.currentState = .newGrasp) : c'.own.currentState = .newGrasp := by
      rw [← SimState.stage_eq_newGrasp] at hnew ⊢
      generalize c'.own.stage = st at hgo
      rw [hnew] at hgo
      cases hgo <;> rfl
    constructor
    · intro e he
      have hlog : (w.during c').sim.log = (w.during c).sim.log ++ _ := hshift.log
      rw [hlog, List.mem_append] at he
      rcases he with he | he
      · exact h.logged e he
      · obtain ⟨e', he', rfl⟩ := List.mem_map.mp he
        intro hnone
        rcases hes with rfl | hstate | htarget
        · cases he'
        · exact hstate (hidle hnone)
        · exact htarget assigned hnone
    · apply World.forall_threads (Q := fun own => own.target = none → own.currentState = .newGrasp)
        w hshift.thread h.idle
      intro _ hnone
      rw [hshift.target] at hnone
      exact hnew (hidle hnone)
    · have hqueue : (w.during c').sim.taskQueue = (w.during c).sim.taskQueue := hshift.queue
      rw [hqueue]
      apply World.forall_threads (Q := fun own => own.stopped = true →
        own.currentState = .newGrasp ∧ (w.during c).sim.taskQueue = []) w hshift.thread h.stopped
      intro _ hstop
      rcases hshift.stopped hstop with hold | ⟨hempty, hstate⟩
      · exact ⟨hnew (hstopped hold).1, (hstopped hold).2⟩
      · exact ⟨hnew hstate, hempty⟩
  · have hqueue : (w.during c).sim.taskQueue = (subtask, p) :: (w.during c').sim.taskQueue :=
      hdeal.queue
    constructor
    · intro e' he'
      have hlog : (w.during c').sim.log = (w.during c).sim.log ++ _ := hdeal.log
      rw [hlog, List.mem_append] at he'
      rcases he' with he' | he'
      · exact h.logged e' he'
      · obtain ⟨_, _, rfl⟩ := List.mem_map.mp he'
        simp
    · apply World.forall_threads (Q := fun own => own.target = none → own.currentState = .newGrasp)
        w hdeal.thread h.idle
      intro _ hnone
      rw [hdeal.target] at hnone
      cases hnone
    · intro t hstop
      exfalso
      have hold : ((w.during c).threads t).stopped = true := by
        rw [World.threads_during] at hstop ⊢
        by_cases ht : t = c.thread
        · rw [if_pos (ht.trans hdeal.thread.symm), hdeal.stopped] at hstop
          rwa [if_pos ht]
        · rw [if_neg fun heq => ht (heq.trans hdeal.thread)] at hstop
          rwa [if_neg ht]
      have hempty := (h.stopped t hold).2
      rw [hqueue] at hempty
      cases hempty

omit [DecidableEq ι] [DecidableEq G] [DecidableEq V] [LinearOrder R] [Module R V]
  [DistribMulAction G V] in
theorem assigned_launched {w : World ι R G V S} (h : Launched task w) (idle : Idle w) :
    Assigned w := by
  constructor
  · simp [h.log]
  · exact fun t _ => idle.state t
  · exact fun t ht => ⟨idle.state t, h.deals.stopped t ht⟩

omit [DecidableEq ι] [LinearOrder R] [Module R V] in
/-- When all threads have stopped every target has been disposed of. -/
theorem ended_of_complete {scene : Scene R S} {w : World ι R G V S}
    (htracked : Tracked wc scene promise task w) (hassigned : Assigned w)
    (queue : w.sim.taskQueue = []) (stopped : ∀ t, (w.threads t).stopped = true)
    {p : TargetPtr G V} (hp : p ∈ targetPtrs task) :
    Ended wc scene promise (trace p w.sim.log) := by
  have hdealt : w.pool.dealt = targetPtrs task := by
    rw [← htracked.jobs]
    simp [World.pool, queue]
  apply ended_of_life
  apply htracked.orderly.life_of_idle _ (hdealt ▸ hp)
  intro t
  exact SimState.stage_eq_newGrasp.mpr (hassigned.stopped t (stopped t)).1

/-! ## What is counted -/

omit [DecidableEq G] [DecidableEq V] [Field R] [LinearOrder R] [Group G] [AddCommGroup V]
  [Module R V] [DistribMulAction G V] in
theorem isFinal_of_tallies {e : Happening R G V} {s : TestStatus} (h : e.tallies s = true) :
    e.isFinal = true := by
  cases e <;> first | rfl | cases h

omit [DecidableEq G] [DecidableEq V] [Field R] [LinearOrder R] [Group G] [AddCommGroup V]
  [Module R V] [DistribMulAction G V] in
/-- What ends nothing is not counted, and leaves no status. -/
theorem tallies_iff_of_open {e : Happening R G V} {s : TestStatus} (h : e.isFinal = false) :
    e.tallies s = true ↔ e.final = some s := by
  constructor
  · intro htallies
    rw [isFinal_of_tallies htallies] at h
    cases h
  · intro hstatus
    simp [Happening.isFinal, hstatus] at h

omit [DecidableEq G] [DecidableEq V] [LinearOrder R] [Module R V] in
/-- An end is counted as the status it leaves, when no status is regraded. -/
theorem tallies_iff_final {scene : Scene R S} {es : List (Happening R G V)}
    (h : Ended wc scene promise es) (graded : promise.graded) {s : TestStatus}
    (hs : s.inStatusArray = true) :
    ∀ e ∈ es, e.tallies s = true ↔ e.final = some s := by
  have hfinished (k : Counter) (status : TestStatus) :
      (Happening.finished k status status : Happening R G V).tallies s = true ↔
        (Happening.finished k status status : Happening R G V).final = some s := by
    simp [Happening.tallies, Happening.final, eq_comm]
  induction h with
  | skipped cache status =>
    intro e he
    simp only [List.mem_cons, List.not_mem_nil, or_false] at he
    rcases he with rfl | rfl
    · simp [Happening.tallies, Happening.final]
    · simp only [Happening.tallies, Happening.final, Bool.and_eq_true, decide_eq_true_eq,
        Option.some.injEq]
      constructor
      · exact fun h => h.2.symm
      · exact fun h => ⟨h ▸ hs, h.symm⟩
  | collided cache _ =>
    intro e he
    simp only [List.mem_cons, List.not_mem_nil, or_false] at he
    rcases he with rfl | rfl <;> simp [Happening.tallies, Happening.final, eq_comm]
  | cut h _ =>
    intro e he
    rcases List.mem_append.mp he with he | he
    · exact tallies_iff_of_open (isFinal_of_open h e he)
    · exact List.mem_singleton.mp he ▸ hfinished _ _
  | lifted l _ _ hgraded =>
    intro e he
    rcases List.mem_append.mp he with he | he
    · exact tallies_iff_of_open (isFinal_of_lift l e he)
    · rw [List.mem_singleton.mp he, hgraded graded]
      exact hfinished _ _
  | again h _ _ ih =>
    intro e he
    rcases List.mem_append.mp he with he | he
    · exact ih e he
    · exact List.mem_singleton.mp he ▸ hfinished _ _

theorem sum_map_eq_countP {α : Type} {f : α → ℕ} {q : α → Bool} {xs : List α}
    (h : ∀ x ∈ xs, f x = if q x then 1 else 0) : (xs.map f).sum = xs.countP q := by
  induction xs with
  | nil => rfl
  | cons x xs ih =>
    rw [List.map_cons, List.sum_cons, List.countP_cons, h x List.mem_cons_self,
      ih fun y hy => h y (List.mem_cons_of_mem x hy), Nat.add_comm]

omit [DecidableEq ι] [LinearOrder R] [Module R V] in
/-- What is known of the log of a run that has counted each target once. -/
theorem stat_of_log {scene : Scene R S} {start w : World ι R G V S}
    (htracked : Tracked wc scene promise task w) (hshown : Shown task w)
    (hassigned : Assigned w) (hcounted : Counted start w) (hstart : ∀ s, start.sim.stat s = 0)
    (graded : promise.graded)
    (once : ∀ p ∈ targetPtrs task, (trace p w.sim.log).countP Happening.isFinal ≤ 1)
    (queue : w.sim.taskQueue = []) (stopped : ∀ t, (w.threads t).stopped = true)
    (s : TestStatus) (hs : s.inStatusArray = true) :
    w.sim.stat s = task.targets.countP fun target =>
      (w.sim.results target.result).testStatus = s := by
  have hdealt : w.pool.dealt = targetPtrs task := by
    rw [← htracked.jobs]
    simp [World.pool, queue]
  have hended (p : TargetPtr G V) (hp : p ∈ targetPtrs task) :
      Ended wc scene promise (trace p w.sim.log) :=
    ended_of_complete htracked hassigned queue stopped hp
  have hone (p : TargetPtr G V) (hp : p ∈ targetPtrs task) :
      (trace p w.sim.log).countP (Happening.tallies s) =
        if (w.sim.results p.target.result).testStatus = s then 1 else 0 := by
    obtain ⟨before, last, hlast, hfinal, hbefore⟩ := ended_last (hended p hp) (Or.inr (once p hp))
    have htallies := tallies_iff_final (hended p hp) graded hs
    obtain ⟨status, hstatus⟩ := Option.isSome_iff_exists.mp hfinal
    have hresult := (hshown p hp).status status (hlast ▸ lastFinal_append hstatus)
    rw [hlast] at htallies ⊢
    have hnone : before.countP (Happening.tallies s) = 0 := by
      rw [List.countP_eq_zero]
      intro e he htally
      have hnot := hbefore e he
      rw [isFinal_of_tallies htally] at hnot
      cases hnot
    have hthis := htallies last (by simp)
    rw [hstatus, Option.some.injEq] at hthis
    rw [List.countP_append, hnone, List.countP_singleton, hresult, Nat.zero_add]
    simp only [hthis]
  calc w.sim.stat s = w.sim.log.countP fun e => e.what.tallies s := by
        rw [hcounted.stat, hstart, Nat.zero_add]
    _ = ((targetPtrs task).map fun p =>
          (trace p w.sim.log).countP (Happening.tallies s)).sum := by
        apply countP_eq_sum_trace _ (nodup_targetPtrs task)
        intro e he
        obtain ⟨p, hp⟩ := Option.ne_none_iff_exists'.mp (hassigned.logged e he)
        exact ⟨p, hdealt ▸ htracked.orderly.logged e he p hp, hp⟩
    _ = (targetPtrs task).countP fun p => (w.sim.results p.target.result).testStatus = s := by
        apply sum_map_eq_countP
        intro p hp
        simpa using hone p hp
    _ = _ := by
        rw [← map_target_targetPtrs, List.countP_map]
        rfl

/-- After a complete run in which no lift is regraded and nothing is ended before the first
target, the statistics count the statuses of the results. -/
theorem stat_agrees (wc : WorkCell R G V S) (grader : Grader R G V) (task : GraspTask R G V)
    (below : Transform3D G V) (initState : S) (w₀ w : World ι R G V S)
    (distinct : task.DistinctResults) (fresh : task.targets ≠ [] ∨ Idle w₀)
    (run : World.Run wc grader
      (fun input c => c.EndsAssigned wc input ∧ c.KeepsGrade wc grader input)
      (w₀.launch wc task below initState) w)
    (once : ∀ p ∈ targetPtrs task, (trace p w.sim.log).countP Happening.isFinal ≤ 1)
    (queue : w.sim.taskQueue = []) (stopped : ∀ t, (w.threads t).stopped = true)
    (s : TestStatus) (hs : s.inStatusArray = true) :
    w.sim.stat s = task.targets.countP fun target =>
      (w.sim.results target.result).testStatus = s := by
  set start := w₀.launch wc task below initState
  have hlaunched : Launched task start := launched wc task below initState w₀
  have hidle : Idle start := idle_launch wc task below initState w₀ fresh
  have hinvariant : Tracked wc start.sim.scene ⟨False, True, True⟩ task w ∧ Shown task w ∧
      Assigned w := by
    have hbegin : Tracked wc start.sim.scene ⟨False, True, True⟩ task start ∧ Shown task start ∧
        Assigned start :=
      ⟨Tracked.launched hlaunched hidle.target, shown_launched hlaunched,
        assigned_launched hlaunched hidle⟩
    apply World.Run.invariant ⟨False, True, True⟩ _ _ _ run hbegin
    · intro w t input hP hcond
      exact ⟨False.elim, fun _ => ⟨hcond.1, hP.2.2.idle t⟩, fun _ => hcond.2⟩
    · intro w c c' input hP hmove
      exact ⟨hP.1.move w hmove, shown_move w distinct hP.1 hP.2.1 hmove,
        assigned_move w hP.2.2 trivial hmove⟩
    · intro w b hP
      exact ⟨hP.1.request b, hP.2.1, hP.2.2.logged, hP.2.2.idle, hP.2.2.stopped⟩
  have hcounted : Counted start w :=
    counted_run run ⟨by simp [hlaunched.log], by simp [hlaunched.log]⟩
  exact stat_of_log hinvariant.1 hinvariant.2.1 hinvariant.2.2 hcounted hidle.stat trivial once
    queue stopped s hs

theorem stat_agrees_one : ∃ w : World Bool ℚ ℤˣ ℚ Bool,
    World.performAll Sample.cell .basic
      (fun input c => c.EndsAssigned Sample.cell input ∧ c.KeepsGrade Sample.cell .basic input) 3
      Sample.liftOne (Sample.world.launch Sample.cell (Sample.task 1) 1 false) = some w ∧
    w.sim.stat .success = (Sample.task 1).targets.countP fun target =>
      (w.sim.results target.result).testStatus = .success := by
  have hrun : ((World.performAll Sample.cell .basic
      (fun input c => c.EndsAssigned Sample.cell input ∧ c.KeepsGrade Sample.cell .basic input) 3
      Sample.liftOne (Sample.world.launch Sample.cell (Sample.task 1) 1 false)).map fun w =>
        ((targetPtrs (Sample.task 1)).all fun p =>
            (trace p w.sim.log).countP Happening.isFinal ≤ 1) &&
          w.sim.taskQueue.isEmpty && (w.threads true).stopped && (w.threads false).stopped) =
      some true := by decide +kernel
  obtain ⟨w, hw, hchecked⟩ := Option.map_eq_some_iff.mp hrun
  simp only [Bool.and_eq_true, List.all_eq_true, decide_eq_true_eq, List.isEmpty_iff] at hchecked
  obtain ⟨⟨⟨honce, hqueue⟩, htrue⟩, hfalse⟩ := hchecked
  have hstopped (t : Bool) : (w.threads t).stopped = true := by
    cases t
    · exact hfalse
    · exact htrue
  exact ⟨w, hw, stat_agrees _ _ _ _ _ _ w (by decide) (Or.inl (by decide))
    (World.run_of_performAll hw) honce hqueue hstopped .success rfl⟩

/-- A lift that is regraded is counted as a success and has the result of an interference. -/
theorem not_stat_agrees : ∃ w : World Bool ℚ ℤˣ ℚ Bool,
    World.performAll Sample.cell (.interference 1 ["part"] fun _ _ => 2) (fun _ _ => True) 3
      Sample.liftOne (Sample.world.launch Sample.cell (Sample.task 1) 1 false) = some w ∧
    (∀ p ∈ targetPtrs (Sample.task 1), (trace p w.sim.log).countP Happening.isFinal ≤ 1) ∧
    w.sim.taskQueue = [] ∧ (∀ t, (w.threads t).stopped = true) ∧
    w.sim.stat .success ≠ (Sample.task 1).targets.countP fun target =>
      (w.sim.results target.result).testStatus = .success := by
  have hrun : ((World.performAll Sample.cell (.interference 1 ["part"] fun _ _ => 2)
      (fun _ _ => True) 3 Sample.liftOne
      (Sample.world.launch Sample.cell (Sample.task 1) 1 false)).map fun w =>
        ((targetPtrs (Sample.task 1)).all fun p =>
            (trace p w.sim.log).countP Happening.isFinal ≤ 1) &&
          w.sim.taskQueue.isEmpty && (w.threads true).stopped && (w.threads false).stopped &&
          w.sim.stat .success != (Sample.task 1).targets.countP fun target =>
            (w.sim.results target.result).testStatus = .success) = some true := by decide +kernel
  obtain ⟨w, hw, hchecked⟩ := Option.map_eq_some_iff.mp hrun
  simp only [Bool.and_eq_true, List.all_eq_true, decide_eq_true_eq, List.isEmpty_iff, bne_iff_ne]
    at hchecked
  obtain ⟨⟨⟨⟨honce, hqueue⟩, htrue⟩, hfalse⟩, hdiffers⟩ := hchecked
  refine ⟨w, hw, honce, hqueue, ?_, hdiffers⟩
  intro t
  cases t
  · exact hfalse
  · exact htrue

end Gripperz.Simulation
