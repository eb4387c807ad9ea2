import Gripperz.Simulation.Outcome
import Gripperz.Simulation.Statistics

/-! # Complete runs

Seen from outside, a complete run is a simulation with some outcome: every target whose
result is uninitialized gets a new one, and all other results are left as they were.
-/
namespace Gripperz.Simulation
open Math Grasps Library

variable {ι R G V S : Type} [DecidableEq ι] [DecidableEq G] [DecidableEq V] [Field R]
  [LinearOrder R] [Group G] [AddCommGroup V] [Module R V] [DistribMulAction G V]

variable {wc : WorkCell R G V S} {grader : Grader R G V} {input : StepInput R S}
  {promise : Promise} {task : GraspTask R G V} {scene : Scene R S}

/-! ## What a move writes -/

omit [DecidableEq ι] [DecidableEq G] [DecidableEq V] [Module R V] in
/-- A move writes to the result of the thread's target only. -/
theorem results_frame {c c' : Call ι R G V S} (hmove : c.Move wc grader input promise c')
    (ptr : ResultPtr) (h : ∀ p, c'.own.target = some p → ptr ≠ p.target.result) :
    c'.sim.results ptr = c.sim.results ptr := by
  have hfinish (k : Counter) (status : TestStatus) (e : GraspResult R G V → GraspResult R G V)
      (hc : ∀ p, c.own.target = some p → ptr ≠ p.target.result) :
      (c.finish wc grader k status e).sim.results ptr = c.sim.results ptr := by
    rw [Call.finish_eq]
    exact Call.edit_frame _ c ptr hc
  cases hmove with
  | quiet hquiet =>
    obtain ⟨paths, hsim⟩ := hquiet.sim
    rw [hsim]
  | configure hgrasping q => exact Call.edit_frame _ c ptr h
  | abort habort once assigned => exact hfinish _ _ _ h
  | approach happroach => exact Call.edit_frame _ c ptr h
  | miss hgrasping => exact hfinish _ _ _ h
  | grasp hgrasping closed touching => exact Call.edit_frame _ c ptr h
  | drop hlifting => exact hfinish _ _ _ h
  | lift hlifting object x hs touching graded =>
    rw [Call.lift_eq] at h ⊢
    exact Call.edit_frame _ c ptr h
  | stop hnew hq =>
    simp [Call.getNextTarget, hq, Call.stop]
  | skip hnew hq set => rfl
  | @collide hnew subtask p rest hq nstate unset =>
    set c₁ := (c.take subtask p rest).setPoses wc p
    rw [Call.results_collide, Call.edit_frame _ (c₁.setUp wc input nstate) ptr h,
      Call.results_setUp, Call.edit_frame _ c₁ ptr h]
    rfl
  | @begin hnew subtask p rest hq nstate unset free =>
    set c₁ := (c.take subtask p rest).setPoses wc p
    rw [Call.results_beginApproach, Call.results_setUp, Call.edit_frame _ c₁ ptr h]
    rfl

omit [DecidableEq ι] [DecidableEq G] [DecidableEq V] [Module R V] in
/-- Between two grasps a thread writes nothing before it takes a target. -/
theorem results_of_idle {c c' : Call ι R G V S} (hmove : c.Move wc grader input promise c')
    (once : promise.once) (hnew : c.own.currentState = .newGrasp)
    (queue : c'.sim.taskQueue = c.sim.taskQueue) : c'.sim.results = c.sim.results := by
  cases hmove with
  | quiet hquiet =>
    obtain ⟨paths, hsim⟩ := hquiet.sim
    rw [hsim]
  | configure h q => simp [hnew] at h
  | abort habort hbusy assigned => exact absurd hnew (hbusy once)
  | approach h => simp [hnew] at h
  | miss h => simp [hnew] at h
  | grasp h closed touching => simp [hnew] at h
  | drop h => simp [hnew] at h
  | lift h object x hs touching graded => simp [hnew] at h
  | stop h hq => simp [Call.getNextTarget, hq, Call.stop]
  | skip h hq set => exact absurd (queue.trans hq) List.ne_cons_self
  | collide h hq nstate unset => exact absurd (queue.trans hq) List.ne_cons_self
  | begin h hq nstate unset free => exact absurd (queue.trans hq) List.ne_cons_self

omit [DecidableEq G] [DecidableEq V] [LinearOrder R] [Module R V] in
theorem not_skipped_of_goesOn {st st' : Stage S} {es : List (Happening R G V)}
    (h : GoesOn wc scene promise st es st') (status : TestStatus) : .skipped status ∉ es := by
  cases h <;> simp

omit [DecidableEq G] [DecidableEq V] [LinearOrder R] [Module R V] in
/-- A thread whose grasps end once does nothing in between. -/
theorem goesOn_newGrasp {st : Stage S} {es : List (Happening R G V)}
    (h : GoesOn wc scene promise .newGrasp es st) (once : promise.once) : es = [] := by
  cases h with
  | still => rfl
  | abort h hbusy => exact absurd rfl (hbusy once)

/-! ## How a target fares -/

/-- From the result before the run, what is said of a target and its result now. -/
inductive Fate (before : GraspResult R G V) : List (Happening R G V) → GraspResult R G V → Prop
  where
  | waiting : Fate before [] before
  | skipped (cache : TaskCache R G V) (set : before.testStatus ≠ .unInitialized) :
      Fate before [.taken cache, .skipped before.testStatus] before
  | simulated {es : List (Happening R G V)} {after : GraspResult R G V}
      (unset : before.testStatus = .unInitialized) (begun : es ≠ [])
      (anew : ∀ status, .skipped status ∉ es) : Fate before es after

omit [DecidableEq G] [DecidableEq V] [LinearOrder R] [Module R V] in
theorem Fate.goOn {before after after' : GraspResult R G V} {es es' : List (Happening R G V)}
    (h : Fate before es after) {st : Stage S} (hopen : Open wc scene st es)
    (anew : ∀ status, .skipped status ∉ es') : Fate before (es ++ es') after' := by
  cases h with
  | waiting => cases hopen
  | skipped cache set =>
    have hfinal := isFinal_of_open hopen (.skipped before.testStatus) (by simp)
    cases hfinal
  | simulated unset begun hanew =>
    apply Fate.simulated unset (by simp [begun])
    intro status hmem
    rcases List.mem_append.mp hmem with hmem | hmem
    · exact hanew status hmem
    · exact anew status hmem

/-- The targets have fared as their results before the run decide; no other result has
changed. -/
structure Handled (task : GraspTask R G V) (before : Results R G V) (w : World ι R G V S) :
    Prop where
  fate : ∀ p ∈ targetPtrs task,
    Fate (before p.target.result) (trace p w.sim.log) (w.sim.results p.target.result)
  others : ∀ ptr, (∀ p ∈ targetPtrs task, ptr ≠ p.target.result) →
    w.sim.results ptr = before ptr

variable {before : Results R G V}

omit [Module R V] in
theorem handled_log (w : World ι R G V S) {c c' : Call ι R G V S}
    (distinct : task.DistinctResults) (h : Handled task before (w.during c))
    (hmove : c.Move wc grader input promise c') (es : List (Happening R G V))
    (loaded : ∀ p, c'.own.target = some p → p ∈ targetPtrs task)
    (log : c'.sim.log = c.sim.log ++ entries c.thread c'.own.target es)
    (fate : ∀ p, c'.own.target = some p →
      Fate (before p.target.result) (trace p c.sim.log) (c.sim.results p.target.result) →
      Fate (before p.target.result) (trace p c.sim.log ++ es) (c'.sim.results p.target.result)) :
    Handled task before (w.during c') := by
  constructor
  · intro p hp
    change Fate _ (trace p c'.sim.log) (c'.sim.results p.target.result)
    rw [log, trace_append]
    by_cases hq : c'.own.target = some p
    · rw [hq, trace_entries_self]
      exact fate p hq (h.fate p hp)
    · rw [trace_entries_of_ne c.thread hq, List.append_nil, results_frame hmove]
      · exact h.fate p hp
      · intro p' hp'
        exact result_ne distinct (loaded p' hp') hp fun heq => hq (heq ▸ hp')
  · intro ptr hptr
    have hsame := results_frame hmove ptr fun p hp => hptr p (loaded p hp)
    exact hsame.trans (h.others ptr hptr)

omit [Module R V] in
theorem handled_move (w : World ι R G V S) {c c' : Call ι R G V S}
    (distinct : task.DistinctResults) (htracked : Tracked wc scene promise task (w.during c))
    (once : promise.once) (force : scene.forceSimulateAll = false)
    (h : Handled task before (w.during c)) (hmove : c.Move wc grader input promise c') :
    Handled task before (w.during c') := by
  rcases Call.move_cases hmove with ⟨es, hshift, hgo, -⟩ | ⟨subtask, p, e, hdeal, -, hdisposes⟩
  · apply handled_log w distinct h hmove es
    · intro p hp
      exact (htracked.held w (hshift.target ▸ hp)).1
    · rw [hshift.target]
      exact hshift.log
    · intro p hp hfate
      by_cases hnew : c.own.currentState = .newGrasp
      · rw [SimState.stage_eq_newGrasp.mpr hnew] at hgo
        rw [goesOn_newGrasp hgo once, List.append_nil,
          results_of_idle hmove once hnew hshift.queue]
        exact hfate
      · have hlife := (htracked.held w (hshift.target ▸ hp)).2
        have hopen := open_of_life hlife fun hst => hnew (SimState.stage_eq_newGrasp.mp hst)
        exact hfate.goOn hopen (not_skipped_of_goesOn hgo)
  · obtain ⟨hloaded, hfresh⟩ := htracked.next w hdeal.queue
    apply handled_log w distinct h hmove [.taken (c.nextCache subtask), e]
    · intro q hq
      rw [hdeal.target] at hq
      exact Option.some.inj hq ▸ hloaded
    · rw [hdeal.target]
      exact hdeal.log
    · intro q hq hfate
      rw [hdeal.target] at hq
      cases hq
      rw [hfresh] at hfate ⊢
      generalize hbefore : before p.target.result = r at hfate ⊢
      generalize hafter : c.sim.results p.target.result = r' at hfate
      cases hfate with
      | simulated unset begun anew => exact absurd rfl begun
      | waiting =>
        cases hdisposes with
        | skipped set results =>
          rw [results, hafter]
          rw [hafter] at set
          exact .skipped _ set
        | simulated unset anew =>
          have hforce : c.sim.forceSimulateAll = false :=
            (congrArg Scene.forceSimulateAll htracked.same).trans force
          rw [hforce, hafter] at unset
          apply Fate.simulated (unset.resolve_left Bool.false_ne_true) (by simp)
          intro status hmem
          simp only [List.nil_append, List.mem_cons, List.not_mem_nil, or_false] at hmem
          rcases hmem with hmem | hmem
          · cases hmem
          · exact anew status hmem.symm

omit [DecidableEq ι] [DecidableEq G] [DecidableEq V] [LinearOrder R] [Module R V]
  [DistribMulAction G V] in
theorem launch_frame (wc : WorkCell R G V S) (task : GraspTask R G V) (below : Transform3D G V)
    (initState : S) (w : World ι R G V S) :
    (w.launch wc task below initState).sim.results = w.sim.results ∧
      (w.launch wc task below initState).sim.forceSimulateAll = w.sim.forceSimulateAll := by
  have hload : (w.sim.load wc task).1.results = w.sim.results ∧
      (w.sim.load wc task).1.forceSimulateAll = w.sim.forceSimulateAll := by
    unfold GraspTaskSimulator.load
    cases wc.findDevice task.gripperID with
    | none => exact ⟨rfl, rfl⟩
    | some dhand =>
      simp only
      cases dhand.movableFrame <;> exact ⟨rfl, rfl⟩
  simp only [World.launch, World.start, World.startSimulation]
  split
  · exact hload
  · exact hload

omit [DecidableEq ι] [LinearOrder R] [Module R V] [DistribMulAction G V] in
theorem handled_launched {w : World ι R G V S} (h : Launched task w) :
    Handled task w.sim.results w := by
  constructor
  · intro p _
    rw [h.log]
    exact .waiting
  · exact fun _ _ => rfl

/-! ## The outcome of a run -/

theorem isOutcome_of_cut {k : Counter} {status : TestStatus} (h : Cut k status) :
    isOutcome status = true := by
  cases h with
  | aborted h => cases h <;> rfl
  | missed => rfl
  | dropped => rfl

omit [DecidableEq G] [DecidableEq V] [LinearOrder R] [Module R V] in
/-- A target that was not skipped is left with an outcome. -/
theorem outcome_of_ended {es : List (Happening R G V)} (h : Ended wc scene promise es)
    (once : promise.once) (anew : ∀ status, .skipped status ∉ es) :
    ∃ status, lastFinal es = some status ∧ isOutcome status = true := by
  cases h with
  | skipped cache status => exact absurd (by simp) (anew status)
  | collided cache h =>
    refine ⟨_, rfl, ?_⟩
    rcases h with rfl | rfl <;> rfl
  | cut h cut => exact ⟨_, lastFinal_append rfl, isOutcome_of_cut cut⟩
  | lifted l lifted regraded graded =>
    refine ⟨_, lastFinal_append rfl, ?_⟩
    cases regraded <;> rfl
  | again h again aborted => exact absurd once again

/-- What a run has made of the targets. -/
def World.outcome (w : World ι R G V S) : Outcome R G V where
  testStatus target :=
    let status := (w.sim.results target.result).testStatus
    if isOutcome status then status else .timeOut
  record target _ := w.sim.results target.result
  ended target := by
    dsimp only
    split
    · assumption
    · rfl

omit [DecidableEq ι] [DecidableEq G] [DecidableEq V] [Field R] [LinearOrder R] [Group G]
  [AddCommGroup V] [Module R V] [DistribMulAction G V] in
theorem judge_outcome {w : World ι R G V S} {target : GraspTarget G V}
    (h : isOutcome (w.sim.results target.result).testStatus = true) (r : GraspResult R G V) :
    w.outcome.judge target r = w.sim.results target.result := by
  simp [Outcome.judge, World.outcome, h]

/-- A complete run whose grasps end once is a simulation of the task set. -/
theorem run_simulates (wc : WorkCell R G V S) (grader : Grader R G V) (task : GraspTask R G V)
    (below : Transform3D G V) (initState : S) (w₀ w : World ι R G V S)
    (distinct : task.DistinctResults) (fresh : task.targets ≠ [] ∨ Idle w₀)
    (force : w₀.sim.forceSimulateAll = false)
    (run : World.Run wc grader (fun input c => c.EndsOnce wc input)
      (w₀.launch wc task below initState) w)
    (queue : w.sim.taskQueue = []) (stopped : ∀ t, (w.threads t).stopped = true) :
    w.sim.results = simulate w.outcome task w₀.sim.results := by
  set start := w₀.launch wc task below initState
  have hframe := launch_frame wc task below initState w₀
  have hlaunched : Launched task start := launched wc task below initState w₀
  have hidle : Idle start := idle_launch wc task below initState w₀ fresh
  have hforce : start.sim.scene.forceSimulateAll = false := hframe.2.trans force
  have hinvariant : Tracked wc start.sim.scene ⟨True, True, False⟩ task w ∧ Shown task w ∧
      Assigned w ∧ Handled task start.sim.results w := by
    have hbegin : Tracked wc start.sim.scene ⟨True, True, False⟩ task start ∧ Shown task start ∧
        Assigned start ∧ Handled task start.sim.results start :=
      ⟨Tracked.launched hlaunched hidle.target, shown_launched hlaunched,
        assigned_launched hlaunched hidle, handled_launched hlaunched⟩
    apply World.Run.invariant ⟨True, True, False⟩ _ _ _ run hbegin
    · intro w t input hP hcond
      have hassigned := hP.2.2.1.idle t
      exact ⟨fun _ => hcond,
        fun _ => ⟨fun hnone => hcond.1 (hassigned hnone), hassigned⟩, False.elim⟩
    · intro w c c' input hP hmove
      exact ⟨hP.1.move w hmove, shown_move w distinct hP.1 hP.2.1 hmove,
        assigned_move w hP.2.2.1 trivial hmove,
        handled_move w distinct hP.1 trivial hforce hP.2.2.2 hmove⟩
    · intro w b hP
      exact ⟨hP.1.request b, hP.2.1, ⟨hP.2.2.1.logged, hP.2.2.1.idle, hP.2.2.1.stopped⟩,
        ⟨hP.2.2.2.fate, hP.2.2.2.others⟩⟩
  obtain ⟨htracked, hshown, hassigned, hhandled⟩ := hinvariant
  rw [← hframe.1]
  funext ptr
  by_cases hptr : ptr ∈ task.targets.map GraspTarget.result
  · obtain ⟨target, htarget, rfl⟩ := List.mem_map.mp hptr
    obtain ⟨p, hp, rfl⟩ : ∃ p ∈ targetPtrs task, p.target = target := by
      rw [← map_target_targetPtrs] at htarget
      exact List.mem_map.mp htarget
    have hended := ended_of_complete htracked hassigned queue stopped hp
    have hshows := hshown p hp
    have hfate := hhandled.fate p hp
    rw [simulate_target _ _ distinct htarget]
    generalize hes : trace p w.sim.log = es at hended hshows hfate
    generalize hafter : w.sim.results p.target.result = after at hshows hfate ⊢
    cases hfate with
    | waiting =>
      obtain ⟨e, he, _⟩ := ended_isFinal hended
      cases he
    | skipped cache set => rw [if_neg set]
    | simulated unset begun anew =>
      obtain ⟨status, hlast, houtcome⟩ := outcome_of_ended hended trivial anew
      have hstatus := hshows.status status hlast
      rw [if_pos unset, judge_outcome (by rw [hafter, hstatus, houtcome]), hafter]
  · rw [simulate, foldl_simulateTarget_of_not_mem hptr]
    apply hhandled.others
    rintro p hp rfl
    apply hptr
    rw [← map_target_targetPtrs, List.map_map]
    exact List.mem_map.mpr ⟨p, hp, rfl⟩

end Gripperz.Simulation
