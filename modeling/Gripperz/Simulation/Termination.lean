import Mathlib.Algebra.Order.Floor.Semiring
import Mathlib.Algebra.Order.Field.Rat
import Mathlib.Data.Fintype.Card
import Mathlib.Data.Rat.Floor
import Gripperz.Library.Countdown
import Gripperz.Simulation.Driven
import Gripperz.Simulation.Equipment

/-! # Every simulation ends

A grasp is given up after five seconds of simulated time. With engines whose time advances, each
target takes a bounded number of callbacks of the thread that holds it, whatever the interleaving,
and the loop that waits for the threads to stop is left.
-/
namespace Gripperz.Simulation
open Math Grasps Library
open scoped BigOperators

variable {ι R G V S E : Type} [Field R] [LinearOrder R] [IsStrictOrderedRing R] [FloorRing R]
  [Group G] [AddCommGroup V] [Module R V] [DistribMulAction G V]

/-- The time of an engine starts at its reset and advances by `dt` at least. -/
structure Engine.Ticks (engine : Engine R G V S E) (dt : R) : Prop where
  pos : 0 < dt
  reset : ∀ state, 0 ≤ engine.time (engine.reset state)
  step : ∀ limits commands e, engine.time e + dt ≤ engine.time (engine.step limits commands e)

/-- The callbacks that a grasp may have left at a time. -/
def callbacksLeft (dt time : R) : ℕ := ⌊(5 - time) / dt⌋₊ + 1

theorem callbacksLeft_step {dt time time' : R} (hdt : 0 < dt) (hstep : time + dt ≤ time')
    (hlimit : time' ≤ 5) : callbacksLeft dt time' + 1 ≤ callbacksLeft dt time := by
  have hnonneg : 0 ≤ (5 - time') / dt := div_nonneg (sub_nonneg.mpr hlimit) hdt.le
  have hle : (5 - time') / dt + 1 ≤ (5 - time) / dt := by
    rw [le_div_iff₀ hdt, add_mul, one_mul, div_mul_cancel₀ _ hdt.ne']
    linarith
  have hfloor : ⌊(5 - time') / dt⌋₊ + 1 ≤ ⌊(5 - time) / dt⌋₊ := by
    rw [← Nat.floor_add_one hnonneg]
    exact Nat.floor_mono hle
  exact Nat.succ_le_succ hfloor

theorem callbacksLeft_le {dt time : R} (hdt : 0 < dt) (htime : 0 ≤ time) :
    callbacksLeft dt time ≤ callbacksLeft dt 0 := by
  apply Nat.succ_le_succ
  apply Nat.floor_mono
  exact div_le_div_of_nonneg_right (by linarith) hdt.le

namespace Call
variable {wc : WorkCell R G V S} {grader : Grader R G V} {input : StepInput R S}

omit [IsStrictOrderedRing R] [FloorRing R] in
/-- A grasp that outlasts a callback was in progress and within the five seconds. -/
theorem act_busy {c : Call ι R G V S}
    (h : (c.act wc grader input).own.currentState ≠ .newGrasp) :
    c.own.currentState ≠ .newGrasp ∧ input.time ≤ 5 := by
  have hbusy : c.own.currentState ≠ .newGrasp := fun hnew => h ((steady_act c).idle hnew)
  refine ⟨hbusy, ?_⟩
  set c₁ : Call ι R G V S := { c with own := { c.own with state := input.state } }
  set c₂ := c₁.storePath input.time input.state
  set c₃ := c₂.checks wc grader input with hc₃
  obtain ⟨-, -, -, hwithin⟩ | hnew : (c₃ = c₂ ∧ ¬ c₂.overLimits input ∧
      wc.inCollision input.state = false ∧
      (c₂.own.currentState ≠ .newGrasp → ¬ 5 < input.time ∧ input.isInError = false)) ∨
      c₃.own.currentState = .newGrasp := checks_cases c₂
  · exact not_lt.mp (hwithin hbusy).1
  · have happroach : Steady c₃.own (c₃.stepApproach wc input).own := steady_approach c₃
    have hgrasping : Steady (c₃.stepApproach wc input).own
        ((c₃.stepApproach wc input).stepGrasping wc grader input).own := steady_grasping _
    have hnew' := hgrasping.idle (happroach.idle hnew)
    exact absurd ((steady_lifting _).idle hnew') h

end Call

namespace Driven
variable [DecidableEq ι] {wc : WorkCell R G V S} {grader : Grader R G V}
  {engine : Engine R G V S E} {cond : StepInput R S → Call ι R G V S → Prop} {dt : R}

/-- The callbacks a thread may have left for what it holds. -/
def remaining (engine : Engine R G V S E) (dt : R) (d : Driven ι R G V S E) (t : ι) : ℕ :=
  if (d.world.threads t).stopped = true then 0
  else if (d.world.threads t).currentState = .newGrasp then 1
  else callbacksLeft dt (engine.time (d.engines t))

/-- The callbacks that may be left altogether. -/
def work [Fintype ι] (engine : Engine R G V S E) (dt : R) (d : Driven ι R G V S E) : ℕ :=
  callbacksLeft dt 0 * d.world.sim.taskQueue.length + ∑ t, d.remaining engine dt t

section
omit [IsStrictOrderedRing R] [Group G] [AddCommGroup V] [Module R V] [DistribMulAction G V]
  [DecidableEq ι]

theorem remaining_pos {d : Driven ι R G V S E} {t : ι}
    (running : (d.world.threads t).stopped = false) : 1 ≤ d.remaining engine dt t := by
  rw [remaining, if_neg (by simp [running])]
  split
  · exact le_rfl
  · exact Nat.le_add_left 1 _

theorem remaining_of_stopped {d : Driven ι R G V S E} {t : ι}
    (stopped : (d.world.threads t).stopped = true) : d.remaining engine dt t = 0 := if_pos stopped

theorem remaining_of_busy {d : Driven ι R G V S E} {t : ι}
    (running : (d.world.threads t).stopped = false)
    (busy : (d.world.threads t).currentState ≠ .newGrasp) :
    d.remaining engine dt t = callbacksLeft dt (engine.time (d.engines t)) := by
  rw [remaining, if_neg (by simp [running]), if_neg busy]

theorem remaining_le {d : Driven ι R G V S E} {t : ι}
    (busy : (d.world.threads t).currentState ≠ .newGrasp) :
    d.remaining engine dt t ≤ callbacksLeft dt (engine.time (d.engines t)) := by
  unfold remaining
  split
  · exact Nat.zero_le _
  · exact le_rfl

end

omit [DecidableEq ι] in
/-- One callback, seen from its thread: it uses up some of what is left. -/
theorem remaining_stepCB (ticks : engine.Ticks dt) {d : Driven ι R G V S E} {t : ι} {wallTime : R}
    {fuel : ℕ} {c : Call ι R G V S} (request : d.world.sim.requestSimulationStop = false)
    (running : (d.world.threads t).stopped = false)
    (h : (d.world.call t).stepCB wc grader (d.input engine t wallTime) fuel = some c)
    {d' : Driven ι R G V S E} (own : d'.world.threads t = c.own)
    (engines : d'.engines t =
      ((d.world.call t).stepReset wc grader (d.input engine t wallTime) fuel).elim
        (d.stepped engine t) engine.reset) :
    callbacksLeft dt 0 * c.sim.taskQueue.length + d'.remaining engine dt t <
      callbacksLeft dt 0 * d.world.sim.taskQueue.length + d.remaining engine dt t := by
  set a := (d.world.call t).act wc grader (d.input engine t wallTime)
  have hqueue : a.sim.taskQueue = d.world.sim.taskQueue := Call.taskQueue_act (d.world.call t)
  have hone : 1 ≤ d.remaining engine dt t := remaining_pos running
  have hrequest : ¬ (d.world.call t).sim.requestSimulationStop = true := by
    simp [World.call, request]
  rw [Call.stepCB, if_neg hrequest] at h
  rw [Call.stepReset, if_neg hrequest] at engines
  simp only at h engines
  split at h
  · rename_i hnew
    rw [if_pos hnew] at engines
    rcases Call.newGrasp_ends h hnew with ⟨hstopped, -, hle⟩ | ⟨happroach, hlt, nstate, hreset⟩
    · rw [remaining_of_stopped (own ▸ hstopped)]
      have hle' : c.sim.taskQueue.length ≤ d.world.sim.taskQueue.length := hqueue ▸ hle
      have hmul := Nat.mul_le_mul_left (callbacksLeft dt 0) hle'
      omega
    · have hbusy : (d'.world.threads t).currentState ≠ .newGrasp := by simp [own, happroach]
      rw [hreset] at engines
      have htime : 0 ≤ engine.time (d'.engines t) := by
        rw [engines]
        exact ticks.reset nstate
      have hrest : d'.remaining engine dt t ≤ callbacksLeft dt 0 :=
        (remaining_le hbusy).trans (callbacksLeft_le ticks.pos htime)
      have hlt' : c.sim.taskQueue.length + 1 ≤ d.world.sim.taskQueue.length := hqueue ▸ hlt
      have hmul := Nat.mul_le_mul_left (callbacksLeft dt 0) hlt'
      rw [Nat.mul_add, Nat.mul_one] at hmul
      omega
  · rename_i hbusy
    rw [if_neg hbusy] at engines
    obtain rfl := Option.some.inj h
    obtain ⟨hbefore, hlimit⟩ := Call.act_busy hbusy
    have hafter : (d'.world.threads t).currentState ≠ .newGrasp := by rwa [own]
    have hengine : d'.engines t = d.stepped engine t := engines
    have hstep := callbacksLeft_step ticks.pos
      (ticks.step d.world.sim.motorForceLimits (d.world.threads t).commands (d.engines t)) hlimit
    have hrest : d'.remaining engine dt t ≤ callbacksLeft dt (engine.time (d'.engines t)) :=
      remaining_le hafter
    rw [hengine, stepped] at hrest
    rw [hqueue, remaining_of_busy running hbefore]
    omega

theorem work_step [Fintype ι] (ticks : engine.Ticks dt) {d d' : Driven ι R G V S E}
    (request : d.world.sim.requestSimulationStop = false)
    (step : Step wc grader engine cond d d') :
    d'.world.sim.requestSimulationStop = false ∧ d'.work engine dt < d.work engine dt := by
  cases step with
  | @stepCB t wallTime fuel c running meets h =>
    have hthread : c.thread = t :=
      thread_moves (Call.moves_stepCB (Or.inr ⟨False.elim, False.elim, False.elim⟩) h)
    constructor
    · exact (congrArg Rig.requestSimulationStop (Call.rig_stepCB h)).trans request
    · set d' : Driven ι R G V S E :=
        { world := d.world.during c
          engines := Function.update d.engines t
            (((d.world.call t).stepReset wc grader (d.input engine t wallTime) fuel).elim
              (d.stepped engine t) engine.reset) } with hd'
      have hown : d'.world.threads t = c.own := by
        rw [hd', World.threads_during, if_pos hthread.symm]
      have hless := remaining_stepCB ticks request running h hown
        (by rw [hd']; exact Function.update_self _ _ _)
      have hothers (s : ι) (hs : s ≠ t) : d'.remaining engine dt s = d.remaining engine dt s := by
        have hthreads : d'.world.threads s = d.world.threads s := by
          rw [hd', World.threads_during, hthread, if_neg hs]
        have hengines : d'.engines s = d.engines s := by
          rw [hd']
          exact Function.update_of_ne hs _ _
        rw [remaining, remaining, hthreads, hengines]
      have hsum := sum_update_add _ _ t hothers
      have hqueue : d'.world.sim.taskQueue = c.sim.taskQueue := rfl
      rw [work, work, hqueue]
      omega

/-- The thread runs, and whatever the wall clock says its next callback uses a pointer that is not
assigned yet. -/
def Stuck (wc : WorkCell R G V S) (engine : Engine R G V S E) (d : Driven ι R G V S E) (t : ι) :
    Prop :=
  (d.world.threads t).stopped = false ∧
    ∀ wallTime, ¬ (d.world.call t).UsesAssigned false wc (d.input engine t wallTime)

omit [IsStrictOrderedRing R] [FloorRing R] in
/-- Where everything is there, a run is over only when no thread runs but those that are stuck. -/
theorem stuck_of_last {d : Driven ι R G V S E} (provided : World.Provided wc d.world)
    (last : ∀ d', ¬ Step wc grader engine (fun input c => c.Ends wc grader input) d d') {t : ι}
    (running : (d.world.threads t).stopped = false) : d.Stuck wc engine t := by
  refine ⟨running, fun wallTime uses => ?_⟩
  obtain ⟨c, hc⟩ : ∃ c, ∀ fuel, (d.world.call t).sim.taskQueue.length < fuel →
      (d.world.call t).stepCBChecked wc grader (d.input engine t wallTime) fuel = .ok c :=
    Call.ends_of_finds (provided.consistent t) (provided.finds t) (.inr uses)
  have hok := hc _ (Nat.lt_succ_self _)
  exact last _ (.stepCB t wallTime running ⟨_, c, hok⟩
    (Call.stepCB_of_checked (provided.consistent t) hok))

omit [IsStrictOrderedRing R] [FloorRing R] in
/-- Where everything is there, callbacks that use no unassigned pointer end. -/
theorem takes_ends {d d' : Driven ι R G V S E} {n : ℕ} (provided : World.Provided wc d.world)
    (h : Takes (Step wc grader engine fun input c => c.UsesAssigned false wc input) d n d') :
    Takes (Step wc grader engine fun input c => c.Ends wc grader input) d n d' ∧
      World.Provided wc d'.world := by
  induction h with
  | none => exact ⟨.none, provided⟩
  | @step n b c _ hstep ih =>
    have hrun : Run wc grader engine (fun input c => c.UsesAssigned false wc input) b c :=
      .single hstep
    refine ⟨ih.1.step ?_, ih.2.run hrun.world⟩
    cases hstep with
    | stepCB t wallTime running meets h =>
      obtain ⟨c', hc'⟩ := Call.ends_of_finds (ih.2.consistent t) (ih.2.finds t) (.inr meets)
      exact .stepCB t wallTime running ⟨_, c', hc' _ (Nat.lt_succ_self _)⟩ h

omit [IsStrictOrderedRing R] [Module R V] [DistribMulAction G V] [DecidableEq ι] in
/-- With `n` threads at most `n` callbacks find the queue empty, and every target takes at most
`callbacksLeft dt 0` callbacks. -/
theorem work_launch [Fintype ι] (task : GraspTask R G V) (hne : task.targets ≠ [])
    (below : Transform3D G V) (initState : S) (d : Driven ι R G V S E) :
    (d.launch wc task below initState).world.sim.requestSimulationStop = false ∧
      (d.launch wc task below initState).work engine dt =
        callbacksLeft dt 0 * task.targets.length + Fintype.card ι := by
  have hlaunched := launched wc task below initState d.world
  have hpos : task.targets.length ≠ 0 := fun heq => hne (List.length_eq_zero_iff.mp heq)
  have htotal := (load_eq wc task d.world.sim).2
  constructor
  · rw [launch, World.launch, World.start, World.startSimulation,
      if_neg fun heq => hpos (htotal.symm.trans heq)]
  · have hlength : (d.launch wc task below initState).world.sim.taskQueue.length =
        task.targets.length := by
      rw [← length_targetPtrs, targetPtrs, List.length_map]
      exact congrArg List.length hlaunched.queue
    have hone (t : ι) : (d.launch wc task below initState).remaining engine dt t = 1 := by
      obtain ⟨state, hthreads⟩ := hlaunched.threads hne
      have hthread : (d.launch wc task below initState).world.threads t =
          World.newSimState state := congrFun hthreads t
      rw [remaining, hthread]
      rfl
    simp only [work, hlength, hone, Finset.sum_const, Finset.card_univ, smul_eq_mul, mul_one]

end Driven

/-- Every target is disposed of: its result is decided. -/
def AllEnded [DecidableEq G] [DecidableEq V] (task : GraspTask R G V) (w : World ι R G V S) :
    Prop :=
  ∀ p ∈ targetPtrs task, ∃ e ∈ trace p w.sim.log, e.isFinal = true

/-- A thread that has stopped holds no grasp. -/
def StandsStill (w : World ι R G V S) : Prop :=
  ∀ t, (w.threads t).stopped = true → (w.threads t).currentState = .newGrasp

omit [IsStrictOrderedRing R] [FloorRing R] [Module R V] in
theorem standsStill_move [DecidableEq ι] {wc : WorkCell R G V S} {grader : Grader R G V}
    {input : StepInput R S} {promise : Promise} {task : GraspTask R G V} (w : World ι R G V S)
    {c c' : Call ι R G V S} (hdeals : Deals task (w.during c)) (h : StandsStill (w.during c))
    (hmove : c.Move wc grader input promise c') : StandsStill (w.during c') := by
  rcases Call.move_cases hmove with ⟨es, hshift, hgo, -⟩ | ⟨subtask, p, e, hdeal, -, -⟩
  · have hnew (hnew : c.own.currentState = .newGrasp) : c'.own.currentState = .newGrasp := by
      rw [← SimState.stage_eq_newGrasp] at hnew ⊢
      generalize c'.own.stage = st at hgo
      rw [hnew] at hgo
      cases hgo <;> rfl
    apply World.forall_threads (Q := fun own => own.stopped = true →
      own.currentState = .newGrasp) w hshift.thread h
    intro hself hstopped
    rcases hshift.stopped hstopped with hold | ⟨-, hstate⟩
    · exact hnew (hself hold)
    · exact hnew hstate
  · have hrunning (own : SimState R G V S) (t : ι) (hown : own = (w.during c).threads t)
        (hstopped : own.stopped = true) : False := by
      have hempty := hdeals.stopped t (hown ▸ hstopped)
      have hqueue : (w.during c).sim.taskQueue = (subtask, p) :: c'.sim.taskQueue := hdeal.queue
      rw [hqueue] at hempty
      cases hempty
    intro t hstopped
    exfalso
    rw [World.threads_during, hdeal.thread] at hstopped
    by_cases ht : t = c.thread
    · rw [if_pos ht, hdeal.stopped] at hstopped
      exact hrunning c.own t (by rw [World.threads_during, if_pos ht]) hstopped
    · rw [if_neg ht] at hstopped
      exact hrunning (w.threads t) t (by rw [World.threads_during, if_neg ht]) hstopped

omit [IsStrictOrderedRing R] [FloorRing R] in
theorem standsStill_run [DecidableEq ι] {wc : WorkCell R G V S} {grader : Grader R G V}
    {task : GraspTask R G V} {cond : StepInput R S → Call ι R G V S → Prop}
    {w w' : World ι R G V S} (run : World.Run wc grader cond w w') (hdeals : Deals task w)
    (h : StandsStill w) : StandsStill w' := by
  have hboth : Deals task w' ∧ StandsStill w' := by
    apply World.Run.invariant Call.noPromise _ _ _ run (And.intro hdeals h)
    · intro w t input _ _
      exact ⟨False.elim, False.elim, False.elim⟩
    · intro w c c' input hP hmove
      exact ⟨deals_move w hP.1 hmove, standsStill_move w hP.1 hP.2 hmove⟩
    · intro w b hP
      exact ⟨⟨hP.1.entries, hP.1.counted, hP.1.total, hP.1.stopped, hP.1.threads, hP.1.taken⟩,
        hP.2⟩
  exact hboth.2

omit [IsStrictOrderedRing R] [FloorRing R] in
/-- When no thread runs any more, every target was dealt and has come to an end. -/
theorem finished_of_stopped [DecidableEq ι] [DecidableEq G] [DecidableEq V] [Nonempty ι]
    {wc : WorkCell R G V S} {grader : Grader R G V} {task : GraspTask R G V}
    {cond : StepInput R S → Call ι R G V S → Prop} {below : Transform3D G V} {initState : S}
    {w₀ w : World ι R G V S} (hne : task.targets ≠ [])
    (run : World.Run wc grader cond (w₀.launch wc task below initState) w)
    (stopped : ¬ w.isRunning) : w.isFinished ∧ AllEnded task w := by
  rw [World.not_isRunning] at stopped
  have hlaunched := launched wc task below initState w₀
  have hdeals : Deals task w := deals_run run hlaunched.deals
  obtain ⟨t⟩ := ‹Nonempty ι›
  have hqueue := hdeals.stopped t (stopped t)
  have hidle : Idle (w₀.launch wc task below initState) :=
    idle_launch wc task below initState w₀ (Or.inl hne)
  have hkeeps (w : World ι R G V S) (t : ι) (input : StepInput R S) :
      (w.call t).Keeps wc grader input Call.noPromise := ⟨False.elim, False.elim, False.elim⟩
  have htracked : Tracked wc (w₀.launch wc task below initState).sim.scene Call.noPromise task w :=
    tracked_run _ (fun w t input _ => hkeeps w t input) run
      (Tracked.launched hlaunched hidle.target)
  obtain ⟨gone, hgone, htaken⟩ := hdeals.entries
  rw [hqueue, List.append_nil] at hgone
  have hdealt : w.pool.dealt = targetPtrs task := by
    rw [← htracked.jobs]
    simp [World.pool, hqueue]
  have hstill : StandsStill w :=
    standsStill_run run hlaunched.deals fun t _ => hidle.state t
  constructor
  · constructor
    · rw [hdeals.counted, htaken, hgone, hdeals.total, ← length_targetPtrs, targetPtrs]
    · rw [World.not_isRunning]
      exact stopped
  · intro p hp
    have hended : Ended wc (w₀.launch wc task below initState).sim.scene Call.noPromise
        (trace p w.sim.log) := by
      apply ended_of_life
      apply htracked.orderly.life_of_idle _ (hdealt ▸ hp)
      exact fun t => SimState.stage_eq_newGrasp.mpr (hstill t (stopped t))
    exact ended_isFinal hended

/-- In a work cell that has what the task set needs, every way of interleaving the threads comes to
an end: after a bounded number of callbacks no thread runs any more, and then all targets have been
dealt and disposed of; or a thread is stuck at its first callback. -/
theorem simulation_ends [DecidableEq ι] [DecidableEq G] [DecidableEq V] [Fintype ι] [Nonempty ι]
    (wc : WorkCell R G V S) (grader : Grader R G V) (engine : Engine R G V S E) {dt : R}
    (ticks : engine.Ticks dt) (task : GraspTask R G V) (hne : task.targets ≠ [])
    (equipped : Equipped wc task) (below : Transform3D G V) (initState : S)
    (d₀ : Driven ι R G V S E) {n : ℕ} {d : Driven ι R G V S E}
    (run : Takes (Driven.Step wc grader engine fun input c => c.Ends wc grader input)
      (d₀.launch wc task below initState) n d) :
    n ≤ callbacksLeft dt 0 * task.targets.length + Fintype.card ι ∧
      (d.world.isRunning ∨ d.world.isFinished ∧ AllEnded task d.world) ∧
      ∃ d', Driven.Run wc grader engine (fun input c => c.Ends wc grader input) d d' ∧
        (d'.world.isFinished ∧ AllEnded task d'.world ∨ ∃ t, d'.Stuck wc engine t) := by
  obtain ⟨hrequest, hwork⟩ :
      (d₀.launch wc task below initState).world.sim.requestSimulationStop = false ∧
        (d₀.launch wc task below initState).work engine dt =
          callbacksLeft dt 0 * task.targets.length + Fintype.card ι :=
    Driven.work_launch task hne below initState d₀
  have hlowers (a b : Driven ι R G V S E) (ha : a.world.sim.requestSimulationStop = false)
      (hab : Driven.Step wc grader engine (fun input c => c.Ends wc grader input) a b) :
      b.world.sim.requestSimulationStop = false ∧ b.work engine dt < a.work engine dt :=
    Driven.work_step ticks ha hab
  have hended {d' : Driven ι R G V S E}
      (hrun : Driven.Run wc grader engine (fun input c => c.Ends wc grader input)
        (d₀.launch wc task below initState) d')
      (hstopped : ¬ d'.world.isRunning) : d'.world.isFinished ∧ AllEnded task d'.world :=
    finished_of_stopped hne hrun.world hstopped
  obtain ⟨hlast, hbound⟩ := run.add_le _ _ hlowers hrequest
  refine ⟨by omega, ?_, ?_⟩
  · by_cases hrunning : d.world.isRunning
    · exact Or.inl hrunning
    · exact Or.inr (hended run.run hrunning)
  · obtain ⟨m, d', htakes, hrest, hnone⟩ := exists_takes_last _ _ hlowers run hlast
    refine ⟨d', hrest, ?_⟩
    by_cases hrunning : d'.world.isRunning
    · obtain ⟨t, hrunning⟩ := hrunning
      have hrun : Driven.Run wc grader engine (fun input c => c.Ends wc grader input)
          (d₀.launch wc task below initState) d' := htakes.run
      have hprovided : World.Provided wc d'.world :=
        (World.provided_launch equipped below initState (.inl hne)).run hrun.world
      exact .inr ⟨t, Driven.stuck_of_last hprovided hnone hrunning⟩
    · exact .inl (hended htakes.run hrunning)

theorem Sample.ticks_clock : Sample.clock.Ticks (1 / 4) where
  pos := by norm_num
  reset _ := le_rfl
  step _ _ _ := le_rfl

theorem simulation_ends_clock : ∃ d : Driven Bool ℚ ℤˣ ℚ Bool ℚ,
    Takes (Driven.Step Sample.cell .basic Sample.clock fun input c =>
      c.Ends Sample.cell .basic input)
      ((Sample.driven Bool).launch Sample.cell (Sample.task 2) 1 false) 38 d ∧
    38 ≤ callbacksLeft (1 / 4 : ℚ) 0 * 2 + 2 ∧ d.world.isFinished ∧
    AllEnded (Sample.task 2) d.world := by
  have hsome : ((Driven.performAll Sample.cell .basic Sample.clock
      (fun input c => c.UsesAssigned false Sample.cell input) 3
      (List.replicate 19 [true, false]).flatten
      ((Sample.driven Bool).launch Sample.cell (Sample.task 2) 1 false)).map
      fun d => decide (∀ t, (d.world.threads t).stopped = true)) = some true := by decide +kernel
  obtain ⟨d, hd, hstopped⟩ := Option.map_eq_some_iff.mp hsome
  have hne : (Sample.task 2).targets ≠ [] := by decide
  obtain ⟨htakes, -⟩ := Driven.takes_ends
    (World.provided_launch (Sample.equipped 2) 1 false (.inl hne)) (Driven.takes_of_performAll hd)
  obtain ⟨hbound, hended, -⟩ := simulation_ends Sample.cell .basic Sample.clock Sample.ticks_clock
    (Sample.task 2) hne (Sample.equipped 2) 1 false (Sample.driven Bool) htakes
  have hnot : ¬ d.world.isRunning := World.not_isRunning.mpr (of_decide_eq_true hstopped)
  exact ⟨d, htakes, hbound, hended.resolve_left hnot⟩

end Gripperz.Simulation
