import Gripperz.Simulation.Results

/-! # How grasps are finalised

The checks of the configured limits and of collisions do not look at the state of the
thread. When they end only a grasp in progress, and not a second time in one callback, each
target is finalised at most once over a whole run, and its status is final.
-/
namespace Gripperz.Simulation
open Math Grasps Library

variable {ι R G V S : Type} [DecidableEq ι] [DecidableEq G] [DecidableEq V] [Field R]
  [LinearOrder R] [Group G] [AddCommGroup V] [Module R V] [DistribMulAction G V]

variable {wc : WorkCell R G V S} {grader : Grader R G V} {task : GraspTask R G V}
  {cond : StepInput R S → Call ι R G V S → Prop}

omit [DecidableEq G] [DecidableEq V] in
/-- The log of a run only grows. -/
theorem log_run {w w' : World ι R G V S} (run : World.Run wc grader cond w w') :
    w.sim.log <+: w'.sim.log := by
  apply World.Run.invariant ⟨False, False, False⟩ _ _ _ run List.prefix_rfl
  · intro w' t input _ _
    exact ⟨False.elim, False.elim, False.elim⟩
  · intro w' c c' input hprefix hmove
    rcases Call.move_cases hmove with ⟨es, hshift, _⟩ | ⟨subtask, p, e, hdeal, _⟩
    · have hlog : (w'.during c').sim.log = (w'.during c).sim.log ++ _ := hshift.log
      exact hlog ▸ hprefix.trans (List.prefix_append _ _)
    · have hlog : (w'.during c').sim.log = (w'.during c).sim.log ++ _ := hdeal.log
      exact hlog ▸ hprefix.trans (List.prefix_append _ _)
  · intro w' b hprefix
    exact hprefix

/-- Each loaded target has come to at most one end, and its result has the status it was
left with then. The counters and the statistics count the ends since the start. -/
structure FinalisedOnce (task : GraspTask R G V) (start w : World ι R G V S) : Prop where
  once : ∀ p ∈ targetPtrs task, (trace p w.sim.log).countP Happening.isFinal ≤ 1
  status : ∀ p ∈ targetPtrs task, ∀ e ∈ trace p w.sim.log, ∀ s, e.final = some s →
    (w.sim.results p.target.result).testStatus = s
  counted : Counted start w

omit [DecidableEq G] [DecidableEq V] [LinearOrder R] [Module R V] in
/-- The only end of a target with one life is the last event about it. -/
theorem lastFinal_of_once {scene : Scene R S} {promise : Promise} {es : List (Happening R G V)}
    (h : Ended wc scene promise es) (once : promise.once ∨ es.countP Happening.isFinal ≤ 1) :
    es.countP Happening.isFinal = 1 ∧
      ∀ e ∈ es, ∀ s, e.final = some s → lastFinal es = some s := by
  obtain ⟨before, last, rfl, hlast, hbefore⟩ := ended_last h once
  have hnone : before.countP Happening.isFinal = 0 := by
    rw [List.countP_eq_zero]
    intro e he
    simp [hbefore e he]
  constructor
  · rw [List.countP_append, hnone, List.countP_singleton, if_pos hlast]
  · intro e he s hs
    rcases List.mem_append.mp he with he | he
    · have hfinal := hbefore e he
      simp [Happening.isFinal, hs] at hfinal
    · rw [List.mem_singleton.mp he] at hs
      exact lastFinal_append hs

omit [DecidableEq ι] [LinearOrder R] [Module R V] in
theorem finalisedOnce_of_tracked {scene : Scene R S} {start w : World ι R G V S}
    (htracked : Tracked wc scene ⟨True, False, False⟩ task w) (hshown : Shown task w)
    (hcounted : Counted start w) : FinalisedOnce task start w := by
  have hlife (p : TargetPtr G V) (hp : p ∈ targetPtrs task) :
      trace p w.sim.log = [] ∨ ∃ st, (lifecycle wc scene ⟨True, False, False⟩).Life st
        (trace p w.sim.log) := by
    rw [← htracked.jobs] at hp
    rcases List.mem_append.mp hp with hp | hp
    · exact Or.inr (htracked.orderly.life hp)
    · exact Or.inl (htracked.orderly.waiting p hp)
  constructor
  · intro p hp
    rcases hlife p hp with hempty | ⟨st, hst⟩
    · simp [hempty]
    · rcases life_cases hst with hopen | ⟨_, hended⟩
      · have hzero : (trace p w.sim.log).countP Happening.isFinal = 0 := by
          rw [List.countP_eq_zero]
          intro e he
          simp [isFinal_of_open hopen e he]
        omega
      · exact (lastFinal_of_once hended (Or.inl trivial)).1.le
  · intro p hp e he s hs
    apply (hshown p hp).status
    rcases hlife p hp with hempty | ⟨st, hst⟩
    · simp [hempty] at he
    · rcases life_cases hst with hopen | ⟨_, hended⟩
      · have hfinal := isFinal_of_open hopen e he
        simp [Happening.isFinal, hs] at hfinal
      · exact (lastFinal_of_once hended (Or.inl trivial)).2 e he s hs
  · exact hcounted

/-- In a run whose callbacks never end a grasp twice, nor one that is not in progress, each
target is finalised at most once and its status never changes again. -/
theorem finalised_once (wc : WorkCell R G V S) (grader : Grader R G V) (task : GraspTask R G V)
    (below : Transform3D G V) (initState : S) (w₀ w : World ι R G V S)
    (distinct : task.DistinctResults)
    (run : World.Run wc grader (fun input c => c.EndsOnce wc input)
      (w₀.launch wc task below initState) w) :
    FinalisedOnce task (w₀.launch wc task below initState) w ∧
      ∀ w', World.Run wc grader (fun input c => c.EndsOnce wc input) w w' →
        ∀ p ∈ targetPtrs task, ∀ e ∈ trace p w.sim.log, e.isFinal = true →
          (w'.sim.results p.target.result).testStatus =
            (w.sim.results p.target.result).testStatus := by
  set start := w₀.launch wc task below initState
  have hlaunched : Launched task start := launched wc task below initState w₀
  have honce (w : World ι R G V S) (run : World.Run wc grader
      (fun input c => c.EndsOnce wc input) start w) : FinalisedOnce task start w := by
    have hcounted : Counted start w :=
      counted_run run ⟨by simp [hlaunched.log], by simp [hlaunched.log]⟩
    by_cases hne : task.targets = []
    · have hnone : targetPtrs task = [] := congrArg (List.map Prod.snd) (taskEntries_eq_nil hne)
      exact ⟨by simp [hnone], by simp [hnone], hcounted⟩
    · obtain ⟨state, hthreads⟩ := hlaunched.threads hne
      have hheld (t : ι) : (start.threads t).target = none := by
        rw [hthreads]
        rfl
      have hkeeps (w : World ι R G V S) (t : ι) (input : StepInput R S)
          (hcond : (w.call t).EndsOnce wc input) :
          (w.call t).Keeps wc grader input ⟨True, False, False⟩ :=
        ⟨fun _ => hcond, False.elim, False.elim⟩
      have htracked : Tracked wc start.sim.scene ⟨True, False, False⟩ task start :=
        Tracked.launched hlaunched hheld
      exact finalisedOnce_of_tracked (tracked_run _ hkeeps run htracked)
        (shown_run _ hkeeps distinct run htracked (shown_launched hlaunched)) hcounted
  refine ⟨honce w run, fun w' more p hp e he hfinal => ?_⟩
  obtain ⟨s, hs⟩ := Option.isSome_iff_exists.mp hfinal
  have he' : e ∈ trace p w'.sim.log := by
    obtain ⟨later, hlater⟩ := log_run more
    rw [← hlater, trace_append]
    exact List.mem_append_left _ he
  rw [(honce w run).status p hp e he s hs, (honce w' (run.trans more)).status p hp e he' s hs]

theorem finalised_once_two : ∃ w : World Bool ℚ ℤˣ ℚ Bool,
    World.performAll Sample.cell .basic (fun input c => c.EndsOnce Sample.cell input) 3
      Sample.takeBoth (Sample.world.launch Sample.cell (Sample.task 2) 1 false) = some w ∧
    FinalisedOnce (Sample.task 2) (Sample.world.launch Sample.cell (Sample.task 2) 1 false) w := by
  have hsome : (World.performAll Sample.cell .basic (fun input c => c.EndsOnce Sample.cell input) 3
      Sample.takeBoth (Sample.world.launch Sample.cell (Sample.task 2) 1 false)).isSome := by
    decide +kernel
  obtain ⟨w, hw⟩ := Option.isSome_iff_exists.mp hsome
  exact ⟨w, hw, (finalised_once _ _ _ _ _ _ w (by decide) (World.run_of_performAll hw)).1⟩

namespace Sample

/-- After six seconds a hand in collision times out and collides in one callback. -/
def endTwice : List (World.Action Bool ℚ Bool) :=
  [.stepCB true (callback 0 false), .stepCB true (callback 6 true)]

end Sample

/-- A grasp that has timed out in a callback is ended again by the collision test. -/
theorem not_finalised_once : ∃ w : World Bool ℚ ℤˣ ℚ Bool,
    World.performAll Sample.cell .basic (fun _ _ => True) 3 Sample.endTwice
      (Sample.world.launch Sample.cell (Sample.task 1) 1 false) = some w ∧
    ¬ FinalisedOnce (Sample.task 1)
      (Sample.world.launch Sample.cell (Sample.task 1) 1 false) w := by
  have htwice : ((World.performAll Sample.cell .basic (fun _ _ => True) 3 Sample.endTwice
      (Sample.world.launch Sample.cell (Sample.task 1) 1 false)).map fun w =>
        (trace ⟨(0, 0), ⟨1, 0⟩⟩ w.sim.log).countP Happening.isFinal) = some 2 := by decide +kernel
  obtain ⟨w, hw, hcount⟩ := Option.map_eq_some_iff.mp htwice
  refine ⟨w, hw, fun h => ?_⟩
  have hone := h.once ⟨(0, 0), ⟨1, 0⟩⟩ (by decide +kernel)
  omega

end Gripperz.Simulation
