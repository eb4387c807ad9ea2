import Gripperz.Simulation.Dealing

/-! # The poses of the hand

A target taken from the queue sets the poses of the hand, from what is cached of its subtask.
They stay until the grasp ends. The cache is that of the target, so over every run the poses
are those of the target's own subtask.
-/
namespace Gripperz.Simulation
open Math Grasps Library

variable {ι R G V S : Type} [Field R] [LinearOrder R] [Group G] [AddCommGroup V] [Module R V]
  [DistribMulAction G V]

/-- The poses of a thread are those for a target of a subtask. -/
structure PosedFor (wc : WorkCell R G V S) (mbase tcp : String) (subtask : GraspSubTask R G V)
    (target : GraspTarget G V) (own : SimState R G V S) : Prop where
  start : own.wTtcp_initTarget = wc.worldTframe subtask.refFrame own.homeState * subtask.offset *
    target.pose * subtask.approach⁻¹
  init : own.wTmbase_initTarget =
    own.wTtcp_initTarget * (wc.frameTframe mbase tcp own.homeState)⁻¹
  approach : own.wTmbase_approachTarget =
    own.wTtcp_initTarget * subtask.approach * (wc.frameTframe mbase tcp own.homeState)⁻¹
  retract : own.wTmbase_retractTarget =
    { own.wTmbase_approachTarget with P := own.wTmbase_approachTarget.P + subtask.retract.P }

/-- A thread goes on with its grasp or ends it. -/
structure Steady (own own' : SimState R G V S) : Prop where
  target : own'.target = own.target
  home : own'.homeState = own.homeState
  tcp : own'.wTtcp_initTarget = own.wTtcp_initTarget
  init : own'.wTmbase_initTarget = own.wTmbase_initTarget
  approach : own'.wTmbase_approachTarget = own.wTmbase_approachTarget
  retract : own'.wTmbase_retractTarget = own.wTmbase_retractTarget
  idle : own.currentState = .newGrasp → own'.currentState = .newGrasp

namespace Steady
variable {own own' own'' : SimState R G V S}

omit [Field R] [LinearOrder R] [Group G] [AddCommGroup V] [Module R V] [DistribMulAction G V] in
theorem refl (own : SimState R G V S) : Steady own own := ⟨rfl, rfl, rfl, rfl, rfl, rfl, id⟩

omit [Field R] [LinearOrder R] [Group G] [AddCommGroup V] [Module R V] [DistribMulAction G V] in
theorem trans (h : Steady own own') (h' : Steady own' own'') : Steady own own'' where
  target := h'.target.trans h.target
  home := h'.home.trans h.home
  tcp := h'.tcp.trans h.tcp
  init := h'.init.trans h.init
  approach := h'.approach.trans h.approach
  retract := h'.retract.trans h.retract
  idle := h'.idle ∘ h.idle

omit [Field R] [LinearOrder R] [Module R V] in
theorem posedFor {wc : WorkCell R G V S} {mbase tcp : String} {subtask : GraspSubTask R G V}
    {target : GraspTarget G V} (h : Steady own own')
    (hposed : PosedFor wc mbase tcp subtask target own) :
    PosedFor wc mbase tcp subtask target own' := by
  constructor
  · rw [h.tcp, h.home]
    exact hposed.start
  · rw [h.init, h.tcp, h.home]
    exact hposed.init
  · rw [h.approach, h.tcp, h.home]
    exact hposed.approach
  · rw [h.retract, h.approach]
    exact hposed.retract

end Steady

namespace Call
variable {wc : WorkCell R G V S} {grader : Grader R G V} {input : StepInput R S}

/-! ## A callback before its loop -/

omit [Group G] [AddCommGroup V] [Module R V] [DistribMulAction G V] in
/-- The end of a grasp. -/
theorem steady_finish (k : Counter) (status : TestStatus)
    (e : GraspResult R G V → GraspResult R G V) (c : Call ι R G V S) :
    Steady c.own (c.finish wc grader k status e).own := ⟨rfl, rfl, rfl, rfl, rfl, rfl, fun _ => rfl⟩

omit [Group G] [AddCommGroup V] [Module R V] [DistribMulAction G V] in
theorem steady_checks (c : Call ι R G V S) : Steady c.own (c.checks wc grader input).own := by
  have hlimits (c : Call ι R G V S) : Steady c.own (c.checkTimeLimits wc grader input).own := by
    unfold checkTimeLimits
    split
    · exact steady_finish _ _ _ c
    · exact .refl _
  have htime (c : Call ι R G V S) : Steady c.own (c.checkSimTime wc grader input).own := by
    unfold checkSimTime
    split
    · exact steady_finish _ _ _ c
    · exact .refl _
  have herror (c : Call ι R G V S) : Steady c.own (c.checkError wc grader input).own := by
    unfold checkError
    split
    · exact steady_finish _ _ _ c
    · exact .refl _
  have hcollision (c : Call ι R G V S) : Steady c.own (c.checkCollision wc grader input).own := by
    unfold checkCollision
    split
    · exact steady_finish _ _ _ c
    · exact .refl _
  exact (((hlimits c).trans (htime _)).trans (herror _)).trans (hcollision _)

omit [Module R V] in
theorem steady_approach (c : Call ι R G V S) : Steady c.own (c.stepApproach wc input).own := by
  unfold stepApproach
  split
  · rename_i h
    exact ⟨rfl, rfl, rfl, rfl, rfl, rfl, fun hnew => by simp [hnew] at h⟩
  · exact .refl _

omit [Group G] [AddCommGroup V] [Module R V] [DistribMulAction G V] in
theorem steady_grasping (c : Call ι R G V S) :
    Steady c.own (c.stepGrasping wc grader input).own := by
  unfold stepGrasping
  split
  · rename_i h
    have hbusy {own : SimState R G V S} (hnew : c.own.currentState = .newGrasp) :
        own.currentState = .newGrasp := by simp [hnew] at h
    split
    · unfold noteRest settle
      split
      · unfold closeGrasp
        simp only
        split
        · exact ⟨rfl, rfl, rfl, rfl, rfl, rfl, hbusy⟩
        · exact ⟨rfl, rfl, rfl, rfl, rfl, rfl, hbusy⟩
      · exact ⟨rfl, rfl, rfl, rfl, rfl, rfl, hbusy⟩
    · exact ⟨rfl, rfl, rfl, rfl, rfl, rfl, hbusy⟩
  · exact .refl _

theorem steady_judgeLift (c : Call ι R G V S) : Steady c.own (c.judgeLift wc grader input).own := by
  unfold judgeLift
  simp only
  split
  · split
    · exact ⟨rfl, rfl, rfl, rfl, rfl, rfl, fun _ => rfl⟩
    · exact steady_finish _ _ _ c
  · exact steady_finish _ _ _ c
  · split
    · exact ⟨rfl, rfl, rfl, rfl, rfl, rfl, fun _ => rfl⟩
    · exact ⟨rfl, rfl, rfl, rfl, rfl, rfl, fun _ => rfl⟩

theorem steady_lifting (c : Call ι R G V S) : Steady c.own (c.stepLifting wc grader input).own := by
  unfold stepLifting
  split
  · set c₁ : Call ι R G V S := { c with own := { c.own with restCount := c.own.restCount + 1 } }
    have hcount : Steady c.own c₁.own := ⟨rfl, rfl, rfl, rfl, rfl, rfl, id⟩
    simp only
    split
    · exact hcount.trans (steady_judgeLift c₁)
    · exact hcount
  · exact .refl _

/-- Until its loop a callback goes on with the grasp or ends it. -/
theorem steady_act (c : Call ι R G V S) : Steady c.own (c.act wc grader input).own := by
  set c₁ : Call ι R G V S := { c with own := { c.own with state := input.state } }
  have hstate : Steady c.own (c₁.storePath input.time input.state).own :=
    ⟨rfl, rfl, rfl, rfl, rfl, rfl, id⟩
  exact (((hstate.trans (steady_checks _)).trans (steady_approach _)).trans
    (steady_grasping _)).trans (steady_lifting _)

/-! ## The loop -/

/-- The rounds of the loop of a callback. -/
inductive Round (wc : WorkCell R G V S) (grader : Grader R G V) (input : StepInput R S)
    (c : Call ι R G V S) : Call ι R G V S × S → Prop where
  | first (going : c.sim.requestSimulationStop = false)
      (h : (c.act wc grader input).own.currentState = .newGrasp) :
      Round wc grader input c (c.act wc grader input, (c.act wc grader input).own.homeState)
  | next {round : Call ι R G V S × S} (h : Round wc grader input c round)
      (again : (nextGrasp wc input round).2 = true) :
      Round wc grader input c (nextGrasp wc input round).1

/-- Nothing is promised of the inputs. -/
abbrev noPromise : Promise := ⟨False, False, False⟩

theorem Round.moves {c : Call ι R G V S} {round : Call ι R G V S × S}
    (h : c.Round wc grader input round) :
    round.1.own.currentState = .newGrasp ∧ c.Moves wc grader input noPromise round.1 := by
  induction h with
  | first going hnew => exact ⟨hnew, moves_act c ⟨False.elim, False.elim, False.elim⟩⟩
  | next hround again ih =>
    exact ⟨(nextGrasp_again _ ih.1 again).1, ih.2.tail (move_nextGrasp _ ih.1)⟩

/-- A callback does nothing, does not come to its loop, or ends with the last round. -/
theorem stepCB_cases {fuel : ℕ} {c c' : Call ι R G V S}
    (h : c.stepCB wc grader input fuel = some c') :
    c' = c ∨ c' = c.act wc grader input ∨ ∃ round, c.Round wc grader input round ∧
      (nextGrasp wc input round).2 = false ∧ c' = (nextGrasp wc input round).1.1 := by
  have hloop (fuel : ℕ) (round : Call ι R G V S × S) (hround : c.Round wc grader input round)
      (hc : newGrasp wc input fuel round = some c') : ∃ round, c.Round wc grader input round ∧
      (nextGrasp wc input round).2 = false ∧ c' = (nextGrasp wc input round).1.1 := by
    induction fuel generalizing round with
    | zero => cases hc
    | succ fuel ih =>
      simp only [newGrasp] at hc
      split at hc
      · rename_i hagain
        exact ih _ (hround.next hagain) hc
      · rename_i hlast
        exact ⟨round, hround, Bool.eq_false_iff.mpr hlast, (Option.some.inj hc).symm⟩
  unfold stepCB at h
  split at h
  · exact Or.inl (Option.some.inj h).symm
  · rename_i hstop
    simp only at h
    split at h
    · rename_i hnew
      exact Or.inr (Or.inr (hloop _ _ (.first (Bool.eq_false_iff.mpr hstop) hnew) h))
    · exact Or.inr (Or.inl (Option.some.inj h).symm)

omit [LinearOrder R] [Module R V] in
/-- The last round stops the thread, or leaves it with the poses for the target it was given. -/
theorem nextGrasp_last {round : Call ι R G V S × S} (last : (nextGrasp wc input round).2 = false) :
    (nextGrasp wc input round).1.1.own.currentState = round.1.own.currentState ∨
      ∃ p c, round.1.getNextTarget = (some p, c) ∧ c.own.target = some p ∧
        (nextGrasp wc input round).1.1.own =
          { (c.setPoses wc p).own with currentState := .approach, restingTime := 0 } := by
  cases hq : round.1.sim.taskQueue with
  | nil =>
    left
    simp [nextGrasp, getNextTarget, hq, stop]
  | cons entry rest =>
    right
    refine ⟨_, _, getNextTarget_cons hq, rfl, ?_⟩
    rw [nextGrasp, getNextTarget_cons hq] at last ⊢
    simp only at last ⊢
    split
    · rename_i hset
      simp [hset] at last
    · rename_i hset
      split
      · rename_i hcol
        simp [hset, hcol] at last
      · rfl

omit [Field R] [LinearOrder R] [Module R V] in
/-- The poses that a target sets are those of the cached subtask. -/
theorem posedFor_setPoses {c : Call ι R G V S} {task : GraspTask R G V} {p : TargetPtr G V}
    {subtask : SubTaskPtr R G V} (h : CachedFor task p c.own.toTaskCache subtask) :
    PosedFor wc c.sim.mbase c.sim.tcp subtask.subTask p.target (c.setPoses wc p).own := by
  constructor <;> simp only [setPoses, h.taskRefFrame, h.taskOffset, h.approach, h.retract]

omit [Group G] [AddCommGroup V] [Module R V] [DistribMulAction G V] in
theorem frames_finish (k : Counter) (status : TestStatus)
    (e : GraspResult R G V → GraspResult R G V) (c : Call ι R G V S) :
    (c.finish wc grader k status e).sim.mbase = c.sim.mbase ∧
      (c.finish wc grader k status e).sim.tcp = c.sim.tcp := by
  rw [finish_eq]
  exact ⟨rfl, rfl⟩

omit [Module R V] in
/-- The frames of the hand are loaded once. -/
theorem frames_move {promise : Promise} {c c' : Call ι R G V S}
    (h : c.Move wc grader input promise c') :
    c'.sim.mbase = c.sim.mbase ∧ c'.sim.tcp = c.sim.tcp := by
  cases h with
  | quiet h =>
    obtain ⟨paths, hsim⟩ := h.sim
    simp [hsim]
  | stop h hq => simp [getNextTarget, hq, stop]
  | abort => exact frames_finish _ _ _ c
  | miss => exact frames_finish _ _ _ c
  | drop => exact frames_finish _ _ _ c
  | lift =>
    rw [lift_eq]
    exact ⟨rfl, rfl⟩
  | collide =>
    simp [collide, setUp, setMotorForceLimits, setPoses, take, edit, record, tally, count,
      storePath]
  | begin =>
    simp [beginApproach, setUp, setMotorForceLimits, setPoses, take, edit, record, storePath]
  | _ => exact ⟨rfl, rfl⟩

end Call

/-! ## Runs -/

variable [DecidableEq ι] {wc : WorkCell R G V S} {grader : Grader R G V} {input : StepInput R S}
  {task : GraspTask R G V} {mbase tcp : String}

/-- The targets are dealt for a hand with these frames. -/
structure Poised (task : GraspTask R G V) (mbase tcp : String) (w : World ι R G V S) : Prop where
  deals : Deals task w
  frames : w.sim.mbase = mbase ∧ w.sim.tcp = tcp

omit [Module R V] [DecidableEq ι] in
theorem thread_moves {c c' : Call ι R G V S} (moves : c.Moves wc grader input Call.noPromise c') :
    c'.thread = c.thread := by
  induction moves with
  | refl => rfl
  | tail _ hmove ih =>
    rcases Call.move_cases hmove with ⟨_, hshift, -⟩ | ⟨_, _, _, hdeal, -⟩
    · exact hshift.thread.trans ih
    · exact hdeal.thread.trans ih

omit [Module R V] in
theorem poised_moves (w : World ι R G V S) {c c' : Call ι R G V S}
    (h : Poised task mbase tcp (w.during c)) (moves : c.Moves wc grader input Call.noPromise c') :
    Poised task mbase tcp (w.during c') := by
  induction moves with
  | refl => exact h
  | tail _ hmove ih =>
    obtain ⟨hmbase, htcp⟩ := Call.frames_move hmove
    exact ⟨deals_move w ih.deals hmove, hmbase.trans ih.frames.1, htcp.trans ih.frames.2⟩

omit [Field R] [LinearOrder R] [Module R V] in
/-- A target that is handed out sets the poses for its own subtask. -/
theorem posed_next (w : World ι R G V S) {c c' : Call ι R G V S} {p : TargetPtr G V}
    (h : Poised task mbase tcp (w.during c)) (hnext : c.getNextTarget = (some p, c')) :
    ∃ subtask, Owns task subtask p ∧
      PosedFor wc mbase tcp subtask.subTask p.target (c'.setPoses wc p).own := by
  cases hq : c.sim.taskQueue with
  | nil => simp [Call.getNextTarget, hq] at hnext
  | cons entry rest =>
    rw [Call.getNextTarget_cons hq, Prod.mk.injEq, Option.some.injEq] at hnext
    obtain ⟨rfl, rfl⟩ := hnext
    obtain ⟨howns, hcache⟩ := deals_next w h.deals hq
    have hcached :
        CachedFor task entry.2 (c.take entry.1 entry.2 rest).own.toTaskCache entry.1 := by
      have hown : (c.take entry.1 entry.2 rest).own.toTaskCache = c.nextCache entry.1 := rfl
      rw [hown, hcache]
      exact cachedFor_cacheOf howns c.sim.hand
    refine ⟨entry.1, howns, ?_⟩
    rw [← h.frames.1, ← h.frames.2]
    exact Call.posedFor_setPoses hcached

/-- A thread that is at work on a target has the poses for the target's own subtask. Only
without targets may there be threads of an earlier run. -/
structure Posed (wc : WorkCell R G V S) (task : GraspTask R G V) (mbase tcp : String)
    (w : World ι R G V S) : Prop extends Poised task mbase tcp w where
  busy : task.targets ≠ [] → ∀ t p, (w.threads t).currentState ≠ .newGrasp →
    (w.threads t).target = some p → ∃ subtask, Owns task subtask p ∧
      PosedFor wc mbase tcp subtask.subTask p.target (w.threads t)

/-- What a round hands out sets the poses for its own subtask. -/
theorem Poised.round {w : World ι R G V S} (h : Poised task mbase tcp w) {t : ι}
    {round : Call ι R G V S × S} (hround : (w.call t).Round wc grader input round)
    {p : TargetPtr G V} {c : Call ι R G V S} (hnext : round.1.getNextTarget = (some p, c)) :
    ∃ subtask, Owns task subtask p ∧
      PosedFor wc mbase tcp subtask.subTask p.target (c.setPoses wc p).own := by
  have hpoised : Poised task mbase tcp (w.during (w.call t)) := by rwa [World.during_call]
  exact posed_next w (poised_moves w hpoised hround.moves.2) hnext

theorem Posed.stepCB {w : World ι R G V S} (h : Posed wc task mbase tcp w) {t : ι} {fuel : ℕ}
    {c : Call ι R G V S} (hstep : (w.call t).stepCB wc grader input fuel = some c) :
    Posed wc task mbase tcp (w.during c) := by
  have hpoised : Poised task mbase tcp (w.during (w.call t)) := by
    rw [World.during_call]
    exact h.toPoised
  have hmoves : (w.call t).Moves wc grader input Call.noPromise c :=
    Call.moves_stepCB (Or.inr ⟨False.elim, False.elim, False.elim⟩) hstep
  refine ⟨poised_moves w hpoised hmoves, ?_⟩
  intro hne t' p hbusy htarget
  have hthread : c.thread = t := thread_moves hmoves
  rw [World.threads_during, hthread] at hbusy htarget ⊢
  by_cases hself : t' = t
  · rw [if_pos hself] at hbusy htarget ⊢
    have hown := h.busy hne t p
    rcases Call.stepCB_cases hstep with rfl | rfl | ⟨round, hround, hlast, rfl⟩
    · exact hown hbusy htarget
    · have hsteady : Steady (w.threads t) ((w.call t).act wc grader input).own :=
        Call.steady_act (w.call t)
      obtain ⟨subtask, howns, hposed⟩ := hown (fun hnew => hbusy (hsteady.idle hnew))
        (hsteady.target.symm.trans htarget)
      exact ⟨subtask, howns, hsteady.posedFor hposed⟩
    · rcases Call.nextGrasp_last hlast with hidle | ⟨p', c₁, hnext, htaken, hset⟩
      · exact absurd (hidle.trans hround.moves.1) hbusy
      · obtain ⟨subtask, howns, hposed⟩ := h.toPoised.round hround hnext
        rw [hset] at htarget ⊢
        obtain rfl : p' = p := Option.some.inj (htaken.symm.trans htarget)
        exact ⟨subtask, howns, ⟨hposed.start, hposed.init, hposed.approach, hposed.retract⟩⟩
  · rw [if_neg hself] at hbusy htarget ⊢
    exact h.busy hne t' p hbusy htarget

theorem posed_run {cond : StepInput R S → Call ι R G V S → Prop} {w w' : World ι R G V S}
    (run : World.Run wc grader cond w w') (h : Posed wc task mbase tcp w) :
    Posed wc task mbase tcp w' := by
  have request (w : World ι R G V S) (b : Bool) (h : Posed wc task mbase tcp w) :
      Posed wc task mbase tcp { w with sim := { w.sim with requestSimulationStop := b } } :=
    ⟨⟨⟨h.deals.entries, h.deals.counted, h.deals.total, h.deals.stopped, h.deals.threads,
      h.deals.taken⟩, h.frames⟩, h.busy⟩
  induction run with
  | refl => exact h
  | tail _ hstep ih =>
    obtain ⟨a, hstep, -⟩ := hstep
    cases hstep with
    | stepCB hc => exact ih.stepCB hc
    | pauseSimulation => exact request _ true ih
    | resumeSimulation => exact request _ false ih

omit [LinearOrder R] [Module R V] [DecidableEq ι] in
/-- A run starts with idle threads, and with the frames of the loaded hand. -/
theorem posed_launch {dhand : Device R S} (hdevice : wc.findDevice task.gripperID = some dhand)
    (hmovable : dhand.movableFrame = some mbase) (below : Transform3D G V) (initState : S)
    (w : World ι R G V S) :
    Posed wc task mbase task.tcpID (w.launch wc task below initState) := by
  have hlaunched := launched wc task below initState w
  refine ⟨⟨hlaunched.deals, ?_⟩, ?_⟩
  · have hload : (w.sim.load wc task).1.mbase = mbase ∧
        (w.sim.load wc task).1.tcp = task.tcpID := by
      simp [GraspTaskSimulator.load, hdevice, hmovable]
    unfold World.launch World.start World.startSimulation
    simp only
    split
    · exact hload
    · exact hload
  · intro hne t p hbusy
    obtain ⟨state, hthreads⟩ := hlaunched.threads hne
    rw [hthreads] at hbusy
    exact absurd rfl hbusy

end Gripperz.Simulation
