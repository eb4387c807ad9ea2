import Gripperz.Simulation.Equipment
import Gripperz.Simulation.ForceLimits
import Gripperz.Simulation.Simulated

/-! # Independence of the schedule

Threads share the queue, the results, the statistics and the force limits of the hand, and the time
steps of their engines come in any order. All the same a complete run leaves of every target what a
thread of its own would have left, as long as no thread exceeds its limits or starts in collision
and no subtask has force limits of its own. So the number of threads and their interleaving show in
no result and in no statistics.
-/
namespace Gripperz.Simulation
open Math Grasps Library

variable {ι κ R G V S E : Type} [DecidableEq ι] [DecidableEq κ] [DecidableEq G] [DecidableEq V]
  [Field R] [LinearOrder R] [Group G] [AddCommGroup V] [Module R V] [DistribMulAction G V]

variable {wc : WorkCell R G V S} {grader : Grader R G V} {engine : Engine R G V S E}
  {input : StepInput R S} {promise : Promise} {task : GraspTask R G V} {scene : Scene R S}

/-- The callback is within the limits, and does not end an earlier grasp once more. -/
def Undisturbed (wc : WorkCell R G V S) (input : StepInput R S) (c : Call ι R G V S) : Prop :=
  ¬ c.overLimits input ∧ (c.own.currentState = .newGrasp → wc.inCollision input.state = false)

instance (wc : WorkCell R G V S) (input : StepInput R S) (c : Call ι R G V S) :
    Decidable (Undisturbed wc input c) := inferInstanceAs (Decidable (_ ∧ _))

namespace Call

omit [DecidableEq ι] [DecidableEq κ] [Field R] [LinearOrder R] [Group G] [AddCommGroup V]
  [Module R V] [DistribMulAction G V] in
theorem Abreast.frame {p : TargetPtr G V} {c : Call κ R G V S} {c₁ c₂ : Call ι R G V S}
    (h : Abreast p c c₁) (rig : c₂.sim.rig = c₁.sim.rig)
    (result : c₂.sim.results p.target.result = c₁.sim.results p.target.result)
    (happened : trace p c₂.sim.log = trace p c₁.sim.log) (own : c₂.own = c₁.own) :
    Abreast p c c₂ := by
  intro state
  have hsame := h state
  have hown : (c₂.sense state).own = (c₁.sense state).own := by rw [sense, sense, own]
  exact ⟨rig.trans hsame.rig, result.trans hsame.result, happened.trans hsame.happened,
    hown ▸ hsame.own⟩

/-! ## What one thread changes -/

/-- The thread goes on with the target it holds. -/
structure Pursues (c c' : Call ι R G V S) : Prop where
  thread : c'.thread = c.thread
  queue : c'.sim.taskQueue = c.sim.taskQueue
  target : c'.own.target = c.own.target
  limits : c'.sim.motorForceLimits = c.sim.motorForceLimits
  results : ∀ ptr, (∀ p, c.own.target = some p → ptr ≠ p.target.result) →
    c'.sim.results ptr = c.sim.results ptr
  log : ∃ es, c'.sim.log = c.sim.log ++ entries c.thread c.own.target es

omit [DecidableEq ι] [DecidableEq G] [DecidableEq V] [Field R] [LinearOrder R] [Group G]
  [AddCommGroup V] [Module R V] [DistribMulAction G V] in
theorem Pursues.refl (c : Call ι R G V S) : c.Pursues c :=
  ⟨rfl, rfl, rfl, rfl, fun _ _ => rfl, [], (List.append_nil _).symm⟩

omit [DecidableEq ι] [DecidableEq G] [DecidableEq V] [Module R V] in
/-- Moves that take no target go on with the one the thread holds. -/
theorem pursues_moves {c c' : Call ι R G V S} (h : c.Moves wc grader input promise c') :
    c.Pursues c' ∨ c'.sim.taskQueue.length < c.sim.taskQueue.length := by
  induction h with
  | refl => exact Or.inl (.refl c)
  | @tail c₁ c₂ _ hmove ih =>
    rcases move_cases hmove with ⟨es, hshift, -, -⟩ | ⟨subtask, p, e, hdeal, -, -⟩
    · rcases ih with ih | ih
      · left
        obtain ⟨es', hlog⟩ := ih.log
        have hlimits : c₂.sim.motorForceLimits = c₁.sim.motorForceLimits := by
          rcases motor_move hmove with hsame | ⟨subtask, p, rest, hq, hrest, -⟩
          · exact hsame
          · exact absurd (hq.symm.trans (hshift.queue.symm.trans hrest)) (List.cons_ne_self _ _)
        refine ⟨hshift.thread.trans ih.thread, hshift.queue.trans ih.queue,
          hshift.target.trans ih.target, hlimits.trans ih.limits, ?_, es' ++ es, ?_⟩
        · intro ptr hptr
          rw [results_frame hmove ptr, ih.results ptr hptr]
          rwa [hshift.target, ih.target]
        · rw [hshift.log, hlog, ih.thread, ih.target, List.append_assoc]
          simp [entries]
      · exact Or.inr (hshift.queue ▸ ih)
    · right
      have hlength : c₁.sim.taskQueue.length = c₂.sim.taskQueue.length + 1 := by
        rw [hdeal.queue, List.length_cons]
      rcases ih with ih | ih
      · rw [← ih.queue, hlength]
        exact Nat.lt_succ_self _
      · omega

omit [DecidableEq ι] [DecidableEq G] [DecidableEq V] in
theorem pursues_act (c : Call ι R G V S) : c.Pursues (c.act wc grader input) := by
  have hmoves : c.Moves wc grader input noPromise (c.act wc grader input) :=
    moves_act c ⟨False.elim, False.elim, False.elim⟩
  rcases pursues_moves hmoves with h | h
  · exact h
  · rw [taskQueue_act] at h
    exact absurd h (lt_irrefl _)

omit [DecidableEq ι] [DecidableEq G] [DecidableEq V] in
/-- Between two grasps a callback does nothing before its loop. -/
theorem act_of_idle {c : Call ι R G V S} (idle : c.own.currentState = .newGrasp)
    (undisturbed : Undisturbed wc input c) :
    c.act wc grader input = (c.sense input.state).storePath input.time input.state := by
  have hidle : ((c.sense input.state).storePath input.time input.state).own.currentState =
      .newGrasp := idle
  have hchecks : ((c.sense input.state).storePath input.time input.state).checks wc grader input =
      (c.sense input.state).storePath input.time input.state :=
    checks_of_idle hidle undisturbed.1 (undisturbed.2 idle)
  change (((((c.sense input.state).storePath input.time input.state).checks wc grader
    input).stepApproach wc input).stepGrasping wc grader input).stepLifting wc grader input = _
  rw [hchecks, stages_of_idle hidle]

end Call

/-! ## What the pool provides -/

/-- The invariants of the pool that hold over the run. -/
structure Dealt (wc : WorkCell R G V S) (scene : Scene R S) (task : GraspTask R G V)
    (w : World ι R G V S) : Prop where
  tracked : Tracked wc scene ⟨False, True, False⟩ task w
  deals : Deals task w
  assigned : Assigned w

omit [Module R V] in
theorem Dealt.move (w : World ι R G V S) {c c' : Call ι R G V S}
    (h : Dealt wc scene task (w.during c))
    (hmove : c.Move wc grader input ⟨False, True, False⟩ c') :
    Dealt wc scene task (w.during c') :=
  ⟨h.tracked.move w hmove, deals_move w h.deals hmove, assigned_move w h.assigned trivial hmove⟩

omit [Module R V] in
theorem Dealt.moves (w : World ι R G V S) {c c' : Call ι R G V S}
    (h : Dealt wc scene task (w.during c))
    (hmoves : c.Moves wc grader input ⟨False, True, False⟩ c') :
    Dealt wc scene task (w.during c') := by
  induction hmoves with
  | refl => exact h
  | tail _ hmove ih => exact ih.move w hmove

omit [DecidableEq ι] in
theorem Dealt.keeps {w : World ι R G V S} (h : Dealt wc scene task w) {t : ι}
    (undisturbed : Undisturbed wc input (w.call t)) :
    (w.call t).Keeps wc grader input ⟨False, True, False⟩ where
  once := False.elim
  assigned _ := ⟨fun hnone => ⟨undisturbed.1, undisturbed.2 (h.assigned.idle t hnone)⟩,
    h.assigned.idle t⟩
  graded := False.elim

omit [LinearOrder R] [Module R V] in
/-- Nobody else holds what the thread does. -/
theorem Dealt.alone (w : World ι R G V S) {c : Call ι R G V S}
    (h : Dealt wc scene task (w.during c)) {p : TargetPtr G V} (hp : c.own.target = some p) {s : ι}
    (hs : s ≠ c.thread) : (w.threads s).target ≠ some p := by
  intro hother
  have hself : (w.during c).pool.held c.thread = some p := by
    simpa [World.pool, World.during] using hp
  have hheld : (w.during c).pool.held s = some p := by
    change ((w.during c).threads s).target = some p
    rw [World.threads_during, if_neg hs]
    exact hother
  exact hs (h.tracked.orderly.alone s c.thread p hheld hself)

omit [DecidableEq G] [DecidableEq V] [LinearOrder R] [Module R V] in
theorem life_ne_nil {st : Stage S} {es : List (Happening R G V)}
    (h : (lifecycle wc scene promise).Life st es) : es ≠ [] := by
  induction h with
  | opened h => cases h <;> simp [Setup.events]
  | goesOn h h' ih => simp [ih]

omit [LinearOrder R] [Module R V] in
/-- What the thread holds has been taken. -/
theorem Dealt.begun (w : World ι R G V S) {c : Call ι R G V S}
    (h : Dealt wc scene task (w.during c)) {p : TargetPtr G V} (hp : c.own.target = some p) :
    trace p c.sim.log ≠ [] := life_ne_nil (h.tracked.held w hp).2

/-! ## Along with the targets on their own -/

/-- What becomes of the target when one thread is started for it alone. -/
def reference (wc : WorkCell R G V S) (grader : Grader R G V) (engine : Engine R G V S E)
    (sim : GraspTaskSimulator κ R G V S) (home : S) (entry : SubTaskPtr R G V × TargetPtr G V)
    (k : ℕ) : Call Unit R G V S × E :=
  solo wc grader engine (sim.alone home entry) k

omit [DecidableEq κ] [DecidableEq G] [DecidableEq V] in
/-- A thread of its own keeps the force limits it was started with. -/
theorem limits_reference {sim : GraspTaskSimulator κ R G V S} {home : S}
    (leaves : LeavesLimits sim.motorForceLimits task) {entry : SubTaskPtr R G V × TargetPtr G V}
    (hentry : entry ∈ taskEntries task) (k : ℕ) :
    (reference wc grader engine sim home entry k).1.sim.motorForceLimits =
      sim.motorForceLimits := by
  induction k with
  | zero =>
    obtain ⟨subtask, p⟩ := entry
    have howns : Owns task subtask p := owns_of_mem hentry
    have hmove : (sim.alone home (subtask, p)).Move wc grader (engine.input 0 (engine.reset home))
        Call.noPromise (Call.nextGrasp wc (engine.input 0 (engine.reset home))
          (sim.alone home (subtask, p), home)).1.1 :=
      Call.move_nextGrasp (sim.alone home (subtask, p), home) rfl
    change (Call.nextGrasp wc (engine.input 0 (engine.reset home))
      (sim.alone home (subtask, p), home)).1.1.sim.motorForceLimits = _
    rcases Call.motor_move hmove with hsame | ⟨subtask', p', rest, hq, -, hlimits⟩
    · exact hsame
    · obtain ⟨⟨rfl, rfl⟩, -⟩ : (subtask = subtask' ∧ p = p') ∧ [] = rest := by
        simpa [GraspTaskSimulator.alone] using hq
      rw [hlimits]
      exact Call.forceLimits_take rest leaves rfl howns
        (nextCache_eq (fun known hknown => by cases hknown) howns)
  | succ k ih =>
    rw [← ih, reference, solo, soloStep]
    split
    · rfl
    · exact (Call.pursues_act _).limits

/-- Every target is as it was, or at some callback of a thread of its own. -/
structure Along (wc : WorkCell R G V S) (grader : Grader R G V) (engine : Engine R G V S E)
    (task : GraspTask R G V) (sim : GraspTaskSimulator κ R G V S) (home : S)
    (d : Driven ι R G V S E) : Prop where
  rig : d.world.sim.rig = sim.rig
  limits : d.world.sim.motorForceLimits = sim.motorForceLimits
  homes : ∀ t, (d.world.threads t).homeState = home
  fresh : ∀ entry ∈ taskEntries task, trace entry.2 d.world.sim.log = [] →
    d.world.sim.results entry.2.target.result = sim.results entry.2.target.result
  busy : ∀ t, (d.world.threads t).currentState ≠ .newGrasp → ∀ entry ∈ taskEntries task,
    (d.world.threads t).target = some entry.2 →
      ∃ k, Call.Abreast entry.2 (reference wc grader engine sim home entry k).1 (d.world.call t) ∧
        d.engines t = (reference wc grader engine sim home entry k).2
  elsewhere : ∀ ptr, (∀ p ∈ targetPtrs task, ptr ≠ p.target.result) →
    d.world.sim.results ptr = sim.results ptr
  left : ∀ entry ∈ taskEntries task, trace entry.2 d.world.sim.log ≠ [] →
    (∀ t, (d.world.threads t).target = some entry.2 →
      (d.world.threads t).currentState = .newGrasp) →
    ∃ k, (reference wc grader engine sim home entry k).1.own.currentState = .newGrasp ∧
      d.world.sim.results entry.2.target.result =
        (reference wc grader engine sim home entry k).1.sim.results entry.2.target.result ∧
      trace entry.2 d.world.sim.log =
        trace entry.2 (reference wc grader engine sim home entry k).1.sim.log

section
variable {sim : GraspTaskSimulator κ R G V S} {home : S}

omit [DecidableEq κ] in
/-- It stays so when a thread has left at most one target otherwise than it was, and that one is
at some callback of a thread of its own. -/
theorem Along.pass (w : World ι R G V S) {engines : ι → E} {c c' : Call ι R G V S}
    (h : Along wc grader engine task sim home ⟨w.during c, engines⟩) {e : E}
    (thread : c'.thread = c.thread) (rig : c'.sim.rig = c.sim.rig)
    (limits : c'.sim.motorForceLimits = c.sim.motorForceLimits)
    (homeState : c'.own.homeState = c.own.homeState) (touched : Option (TargetPtr G V))
    (elsewhere : ∀ ptr, (∀ p ∈ targetPtrs task, ptr ≠ p.target.result) →
      c'.sim.results ptr = c.sim.results ptr)
    (same : ∀ p ∈ targetPtrs task, touched ≠ some p →
      c'.sim.results p.target.result = c.sim.results p.target.result ∧
        trace p c'.sim.log = trace p c.sim.log)
    (others : ∀ s, s ≠ c.thread → ∀ p, touched = some p → (w.threads s).target ≠ some p)
    (gone : ∀ p, touched ≠ some p → c.own.target = some p → c.own.currentState = .newGrasp)
    (begun : ∀ p, touched = some p → c'.own.target = some p ∧ trace p c'.sim.log ≠ [])
    (busy : c'.own.currentState ≠ .newGrasp → ∀ entry ∈ taskEntries task,
      c'.own.target = some entry.2 →
        ∃ k, Call.Abreast entry.2 (reference wc grader engine sim home entry k).1 c' ∧
          e = (reference wc grader engine sim home entry k).2)
    (left : c'.own.currentState = .newGrasp → ∀ entry ∈ taskEntries task,
      touched = some entry.2 →
        ∃ k, (reference wc grader engine sim home entry k).1.own.currentState = .newGrasp ∧
          c'.sim.results entry.2.target.result =
            (reference wc grader engine sim home entry k).1.sim.results entry.2.target.result ∧
          trace entry.2 c'.sim.log =
            trace entry.2 (reference wc grader engine sim home entry k).1.sim.log) :
    Along wc grader engine task sim home
      ⟨w.during c', Function.update engines c.thread e⟩ := by
  have hself : (w.during c').threads c.thread = c'.own := by
    rw [World.threads_during, thread, if_pos rfl]
  have hself' : (w.during c).threads c.thread = c.own := by
    rw [World.threads_during, if_pos rfl]
  have hother (s : ι) (hs : s ≠ c.thread) : (w.during c').threads s = w.threads s := by
    rw [World.threads_during, thread, if_neg hs]
  have hother' (s : ι) (hs : s ≠ c.thread) : (w.during c).threads s = w.threads s := by
    rw [World.threads_during, if_neg hs]
  constructor
  · exact rig.trans h.rig
  · exact limits.trans h.limits
  · intro t
    have hhome := h.homes t
    by_cases ht : t = c.thread
    · rw [ht] at hhome ⊢
      rw [hself, homeState]
      rwa [hself'] at hhome
    · rw [hother t ht]
      rwa [hother' t ht] at hhome
  · intro entry hentry hnone
    have huntouched : touched ≠ some entry.2 := fun heq => (begun _ heq).2 hnone
    obtain ⟨hresult, htrace⟩ := same _ (List.mem_map_of_mem hentry) huntouched
    exact hresult.trans (h.fresh entry hentry (htrace.symm.trans hnone))
  · intro t hbusy entry hentry htarget
    by_cases ht : t = c.thread
    · subst ht
      rw [hself] at hbusy htarget
      obtain ⟨k, habreast, hengine⟩ := busy hbusy entry hentry htarget
      refine ⟨k, habreast.frame rfl rfl rfl hself, ?_⟩
      exact (Function.update_self _ _ _).trans hengine
    · rw [hother t ht] at hbusy htarget
      have huntouched : touched ≠ some entry.2 := fun heq => others t ht _ heq htarget
      obtain ⟨hresult, htrace⟩ := same _ (List.mem_map_of_mem hentry) huntouched
      rw [← hother' t ht] at hbusy htarget
      obtain ⟨k, habreast, hengine⟩ := h.busy t hbusy entry hentry htarget
      refine ⟨k, habreast.frame rig hresult htrace ((hother t ht).trans (hother' t ht).symm), ?_⟩
      exact (Function.update_of_ne ht _ _).trans hengine
  · exact fun ptr hptr => (elsewhere ptr hptr).trans (h.elsewhere ptr hptr)
  · intro entry hentry hsome hidle
    by_cases htouched : touched = some entry.2
    · have hnew := hidle c.thread
      rw [hself] at hnew
      exact left (hnew (begun _ htouched).1) entry hentry htouched
    · obtain ⟨hresult, htrace⟩ := same _ (List.mem_map_of_mem hentry) htouched
      have hidle' (t : ι) (ht : ((w.during c).threads t).target = some entry.2) :
          ((w.during c).threads t).currentState = .newGrasp := by
        by_cases hthread : t = c.thread
        · rw [hthread, hself'] at ht ⊢
          exact gone _ htouched ht
        · have hnow := hidle t
          rw [hother t hthread] at hnow
          rw [hother' t hthread] at ht ⊢
          exact hnow ht
      have hsome' : trace entry.2 (w.during c).sim.log ≠ [] := fun hnone =>
        hsome (htrace.trans hnone)
      obtain ⟨k, hended, hresult', htrace'⟩ := h.left entry hentry hsome' hidle'
      exact ⟨k, hended, hresult.trans hresult', htrace.trans htrace'⟩

omit [DecidableEq κ] in
/-- A thread between two grasps that does nothing. -/
theorem Along.still (w : World ι R G V S) {engines : ι → E} {c c' : Call ι R G V S}
    (h : Along wc grader engine task sim home ⟨w.during c, engines⟩)
    (thread : c'.thread = c.thread) (rig : c'.sim.rig = c.sim.rig)
    (limits : c'.sim.motorForceLimits = c.sim.motorForceLimits)
    (homeState : c'.own.homeState = c.own.homeState) (results : c'.sim.results = c.sim.results)
    (log : c'.sim.log = c.sim.log) (idle : c.own.currentState = .newGrasp)
    (idle' : c'.own.currentState = .newGrasp) (e : E) :
    Along wc grader engine task sim home ⟨w.during c', Function.update engines c.thread e⟩ := by
  apply h.pass w thread rig limits homeState none
  · exact fun ptr _ => congrFun results ptr
  · exact fun p _ _ => ⟨congrFun results _, congrArg _ log⟩
  · exact fun s _ p hnone => by cases hnone
  · exact fun _ _ _ => idle
  · exact fun p hnone => by cases hnone
  · exact fun hbusy => absurd idle' hbusy
  · exact fun _ entry _ hnone => by cases hnone

omit [DecidableEq ι] [Field R] [LinearOrder R] [Group G] [AddCommGroup V] [Module R V]
  [DistribMulAction G V] in
/-- The thread that holds a target changes nothing else. -/
theorem Call.Pursues.same {c c' : Call ι R G V S} (h : c.Pursues c')
    (distinct : task.DistinctResults) {p : TargetPtr G V} (target : c.own.target = some p)
    (hp : p ∈ targetPtrs task) {q : TargetPtr G V} (hq : q ∈ targetPtrs task)
    (hne : some p ≠ some q) : c'.sim.results q.target.result = c.sim.results q.target.result ∧
      trace q c'.sim.log = trace q c.sim.log := by
  obtain ⟨es, hlog⟩ := h.log
  constructor
  · apply h.results
    intro p' hp'
    rw [target] at hp'
    obtain rfl := Option.some.inj hp'
    exact result_ne distinct hp hq fun heq => hne (congrArg some heq.symm)
  · rw [hlog, trace_append, target, trace_entries_of_ne c.thread hne, List.append_nil]

omit [DecidableEq κ] in
/-- Up to the loop of `NEW_GRASP` a callback is one of the target's own thread. -/
theorem Along.act {d : Driven ι R G V S E} (h : Along wc grader engine task sim home d)
    (distinct : task.DistinctResults) (leaves : LeavesLimits sim.motorForceLimits task)
    (hdealt : Dealt wc scene task d.world) {t : ι} {wallTime : R}
    (undisturbed : Undisturbed wc (d.input engine t wallTime) (d.world.call t)) :
    Along wc grader engine task sim home
      ⟨d.world.during ((d.world.call t).act wc grader (d.input engine t wallTime)),
        Function.update d.engines t (d.stepped engine t)⟩ := by
  set c := d.world.call t with hc
  have hduring : d.world.during c = d.world := World.during_call _ t
  have halong : Along wc grader engine task sim home ⟨d.world.during c, d.engines⟩ := by
    rwa [hduring]
  have hmoves : c.Moves wc grader (d.input engine t wallTime) ⟨False, True, False⟩
      (c.act wc grader (d.input engine t wallTime)) := Call.moves_act c (hdealt.keeps undisturbed)
  have hdealt' : Dealt wc scene task (d.world.during c) := by rwa [hduring]
  have hpursues : c.Pursues (c.act wc grader (d.input engine t wallTime)) := Call.pursues_act c
  by_cases idle : c.own.currentState = .newGrasp
  · rw [Call.act_of_idle idle undisturbed]
    refine halong.still d.world ?_ ?_ ?_ ?_ ?_ ?_ idle ?_ _
    · rfl
    · rfl
    · rfl
    · rfl
    · rfl
    · rfl
    · exact idle
  · obtain ⟨p, hp⟩ : ∃ p, c.own.target = some p :=
      Option.ne_none_iff_exists'.mp fun hnone => idle (hdealt.assigned.idle t hnone)
    have hloaded := (hdealt'.tracked.held d.world hp).1
    obtain ⟨entry, hentry, rfl⟩ := List.mem_map.mp hloaded
    obtain ⟨k, habreast, hengine⟩ := h.busy t idle entry hentry hp
    have hstepped : engine.step
        (reference wc grader engine sim home entry k).1.sim.motorForceLimits c.own.commands
        (reference wc grader engine sim home entry k).2 = d.stepped engine t := by
      rw [limits_reference leaves hentry, Driven.stepped, h.limits, hengine]
      rfl
    have hnext : Call.Alike entry.2 (reference wc grader engine sim home entry (k + 1)).1
          (c.act wc grader (d.input engine t wallTime)) ∧
        (reference wc grader engine sim home entry (k + 1)).2 = d.stepped engine t :=
      soloStep_alike habreast idle hstepped undisturbed.1
    have htarget := (hpursues.target).trans hp
    have hentries (entry' : SubTaskPtr R G V × TargetPtr G V) (hentry' : entry' ∈ taskEntries task)
        (heq : some entry.2 = some entry'.2) : entry' = entry :=
      List.inj_on_of_nodup_map (nodup_targetPtrs task) hentry' hentry (Option.some.inj heq).symm
    apply halong.pass d.world hpursues.thread (Call.rig_moves hmoves) hpursues.limits
      (Call.steady_act c).home (some entry.2)
    · intro ptr hptr
      apply hpursues.results ptr
      intro p' hp'
      exact hptr p' (hdealt'.tracked.held d.world hp').1
    · intro q hq hne
      exact hpursues.same distinct hp hloaded hq hne
    · rintro s hs q heq
      rw [← Option.some.inj heq]
      exact hdealt'.alone d.world hp hs
    · intro q hne hq
      exact absurd (hp.symm.trans hq) hne
    · intro q heq
      rw [← Option.some.inj heq]
      exact ⟨htarget, (hdealt'.moves d.world hmoves).begun d.world htarget⟩
    · intro hbusy entry' hentry' htarget'
      obtain rfl := hentries entry' hentry' (htarget.symm.trans htarget')
      exact ⟨k + 1, hnext.1.abreast, hnext.2.symm⟩
    · intro hidle entry' hentry' heq
      obtain rfl := hentries entry' hentry' heq
      exact ⟨k + 1, hnext.1.own.currentState.symm.trans hidle, hnext.1.result, hnext.1.happened⟩

omit [DecidableEq κ] [LinearOrder R] [Module R V] in
/-- The loop of `NEW_GRASP` does with a target what it does for a thread of its own. -/
theorem sameRound_alone (w : World ι R G V S) {c : Call ι R G V S} {state : S}
    (hrig : c.sim.rig = sim.rig) (hhome : c.own.homeState = home)
    (hdealt : Dealt wc scene task (w.during c)) (idle : c.own.currentState = .newGrasp)
    (setup : Call.SetsUpAlike wc c.sim.hand c.sim.mbase c.sim.objects home home state)
    {subtask : SubTaskPtr R G V} {p : TargetPtr G V}
    {rest : List (SubTaskPtr R G V × TargetPtr G V)}
    (hq : c.sim.taskQueue = (subtask, p) :: rest)
    (result : c.sim.results p.target.result = sim.results p.target.result)
    {input' : StepInput R S} (given : S) :
    Call.SameRound p
      (Call.nextGrasp wc input' ((sim.alone home (subtask, p)).sense given, home))
      (Call.nextGrasp wc input (c.sense given, state)) := by
  obtain ⟨hloaded, hfresh⟩ := hdealt.tracked.next w hq
  obtain ⟨howns, hcache⟩ := deals_next w hdealt.deals hq
  have hhand : c.sim.hand = sim.hand := congrArg (fun rig => rig.toScene.hand) hrig
  have hmbase : c.sim.mbase = sim.mbase := congrArg Rig.mbase hrig
  have hobjects : c.sim.objects = sim.objects := congrArg (fun rig => rig.toScene.objects) hrig
  have hcache' : (sim.alone home (subtask, p)).nextCache subtask =
      Call.cacheOf sim.hand subtask := by
    apply nextCache_eq _ howns
    intro known hknown
    cases hknown
  have hready : Call.Ready subtask p ((sim.alone home (subtask, p)).sense given)
      (c.sense given) := by
    constructor
    · exact hrig
    · exact result
    · exact hfresh
    · rfl
    · exact idle
    · rfl
    · exact hhome
    · exact hcache.trans (hhand ▸ hcache'.symm)
  rw [hhand, hmbase, hobjects] at setup
  exact hready.nextGrasp rfl hq setup

omit [DecidableEq ι] [DecidableEq G] [DecidableEq V] [LinearOrder R] [Module R V] in
theorem deal_nextGrasp (wc : WorkCell R G V S) (input : StepInput R S) {c : Call ι R G V S}
    (state : S) {subtask : SubTaskPtr R G V} {p : TargetPtr G V}
    {rest : List (SubTaskPtr R G V × TargetPtr G V)}
    (hq : c.sim.taskQueue = (subtask, p) :: rest) (idle : c.own.currentState = .newGrasp) :
    (∃ e, c.Deal subtask p e (Call.nextGrasp wc input (c, state)).1.1) ∧
      (Call.nextGrasp wc input (c, state)).1.1.own.homeState = c.own.homeState ∧
      ((Call.nextGrasp wc input (c, state)).2 = false →
        (Call.nextGrasp wc input (c, state)).1.1.own.currentState = .approach) := by
  have htaken := Call.taken_take hq
  rw [Call.nextGrasp_cons hq]
  split
  · exact ⟨⟨_, htaken.skip idle _⟩, rfl, fun hlast => by cases hlast⟩
  · simp only
    split
    · exact ⟨⟨_, (htaken.setUp wc input _).collide wc idle _⟩, rfl, fun hlast => by cases hlast⟩
    · exact ⟨⟨_, (htaken.setUp wc input _).beginApproach wc idle _⟩, rfl, fun _ => rfl⟩

omit [DecidableEq κ] in
/-- One round takes the target as far as the loop of a thread of its own does. -/
theorem Along.nextGrasp (w : World ι R G V S) {engines : ι → E} {c : Call ι R G V S} {state : S}
    (h : Along wc grader engine task sim home ⟨w.during c, engines⟩)
    (distinct : task.DistinctResults) (leaves : LeavesLimits sim.motorForceLimits task)
    (hdealt : Dealt wc scene task (w.during c)) (idle : c.own.currentState = .newGrasp)
    (setup : Call.SetsUpAlike wc c.sim.hand c.sim.mbase c.sim.objects home home state)
    {entry : SubTaskPtr R G V × TargetPtr G V}
    {rest : List (SubTaskPtr R G V × TargetPtr G V)} (hq : c.sim.taskQueue = entry :: rest)
    {e : E} (engines_eq : (Call.nextGrasp wc input (c, state)).2 = false →
      e = engine.reset (Call.nextGrasp wc input (c, state)).1.2) :
    Along wc grader engine task sim home
      ⟨w.during (Call.nextGrasp wc input (c, state)).1.1,
        Function.update engines c.thread e⟩ := by
  obtain ⟨subtask, p⟩ := entry
  set c' := (Call.nextGrasp wc input (c, state)).1.1 with hc'
  have hmove : c.Move wc grader input ⟨False, True, False⟩ c' :=
    Call.move_nextGrasp (c, state) idle
  obtain ⟨⟨what, hdeal⟩, hhome', -⟩ := deal_nextGrasp wc input state hq idle
  have hhome : c.own.homeState = home := by
    have hthread := h.homes c.thread
    rwa [World.threads_during, if_pos rfl] at hthread
  obtain ⟨hloaded, hfresh⟩ := hdealt.tracked.next w hq
  have hmem : (subtask, p) ∈ taskEntries task := by
    obtain ⟨gone, hgone, -⟩ := hdealt.deals.entries
    have hqueue : (w.during c).sim.taskQueue = (subtask, p) :: rest := hq
    rw [← hgone, hqueue]
    exact List.mem_append_right _ List.mem_cons_self
  have hresult := h.fresh _ hmem hfresh
  set start := sim.alone home (subtask, p) with hstart
  set ρ := Call.nextGrasp wc (engine.input 0 (engine.reset home)) (start, home) with hρ
  have hround (given : S) : Call.SameRound p ((ρ.1.1.sense given, ρ.1.2), ρ.2)
      ((c'.sense given, (Call.nextGrasp wc input (c, state)).1.2),
        (Call.nextGrasp wc input (c, state)).2) := by
    rw [hρ, hc', ← Call.nextGrasp_sense, ← Call.nextGrasp_sense]
    exact sameRound_alone w h.rig hhome hdealt idle setup hq hresult given
  have hagain : (Call.nextGrasp wc input (c, state)).2 = ρ.2 := (hround home).again
  have hentries (entry' : SubTaskPtr R G V × TargetPtr G V) (hentry' : entry' ∈ taskEntries task)
      (heq : some p = some entry'.2) : entry' = (subtask, p) :=
    List.inj_on_of_nodup_map (nodup_targetPtrs task) hentry' hmem (Option.some.inj heq).symm
  have hdealt' : Dealt wc scene task (w.during c') := hdealt.move w hmove
  have hthread : c'.own.target = some p := hdeal.target
  have hlimits : c.sim.motorForceLimits = sim.motorForceLimits := h.limits
  have hkept : c'.sim.motorForceLimits = sim.motorForceLimits :=
    limits_kept w hdealt.deals leaves hlimits hmove
  apply h.pass w hdeal.thread (Call.rig_move hmove) (hkept.trans hlimits.symm) hhome' (some p)
  · intro ptr hptr
    apply results_frame hmove
    intro p' hp'
    exact hptr p' (hdealt'.tracked.held w hp').1
  · intro q hloaded' hne
    constructor
    · apply results_frame hmove
      intro p' hp'
      obtain rfl := Option.some.inj (hthread.symm.trans hp')
      exact result_ne distinct hloaded hloaded' fun heq => hne (congrArg some heq.symm)
    · rw [hdeal.log, trace_append, trace_entries_of_ne c.thread hne, List.append_nil]
  · rintro s hs q heq
    rw [← Option.some.inj heq]
    exact hdealt'.alone w hthread (hdeal.thread ▸ hs)
  · exact fun _ _ _ => idle
  · intro q heq
    rw [← Option.some.inj heq]
    exact ⟨hthread, hdealt'.begun w hthread⟩
  · intro hbusy entry' hentry' htarget'
    obtain rfl := hentries entry' hentry' (hthread.symm.trans htarget')
    have hlast : (Call.nextGrasp wc input (c, state)).2 = false := by
      by_contra hnot
      exact hbusy (Call.nextGrasp_again (c, state) idle (Bool.eq_true_of_not_eq_false hnot)).1
    have hbegun (given : S) := (hround given).begun (hagain.symm.trans hlast)
    refine ⟨0, fun given => (hbegun given).1, ?_⟩
    rw [engines_eq hlast]
    exact congrArg engine.reset (hbegun home).2
  · intro hidle entry' hentry' heq
    obtain rfl := hentries entry' hentry' heq
    refine ⟨0, ?_, (hround home).result, (hround home).happened⟩
    cases hlast : ρ.2 with
    | true => exact (Call.nextGrasp_again (start, home) rfl hlast).1
    | false => exact ((hround home).begun hlast).1.own.currentState.symm.trans hidle

omit [DecidableEq ι] [DecidableEq G] [DecidableEq V] [Field R] [LinearOrder R] [Group G]
  [AddCommGroup V] [Module R V] [DistribMulAction G V] in
theorem setup_of_rig {c c' : Call ι R G V S} (hrig : c'.sim.rig = c.sim.rig) {state : S}
    (h : Call.SetsUpAlike wc c.sim.hand c.sim.mbase c.sim.objects home home state) :
    Call.SetsUpAlike wc c'.sim.hand c'.sim.mbase c'.sim.objects home home state := by
  have hhand : c'.sim.hand = c.sim.hand := congrArg (fun rig => rig.toScene.hand) hrig
  have hmbase : c'.sim.mbase = c.sim.mbase := congrArg Rig.mbase hrig
  have hobjects : c'.sim.objects = c.sim.objects := congrArg (fun rig => rig.toScene.objects) hrig
  rwa [hhand, hmbase, hobjects]

section
omit [DecidableEq κ]

/-- The loop of `NEW_GRASP` takes every target it meets as far as one of the target's own. -/
theorem Along.newGrasp (w : World ι R G V S) {engines : ι → E} {fuel : ℕ} {c c' : Call ι R G V S}
    {state : S} (h : Along wc grader engine task sim home ⟨w.during c, engines⟩)
    (distinct : task.DistinctResults) (leaves : LeavesLimits sim.motorForceLimits task)
    (overwrites : wc.Overwrites sim.hand) (hdealt : Dealt wc scene task (w.during c))
    (idle : c.own.currentState = .newGrasp)
    (setup : Call.SetsUpAlike wc c.sim.hand c.sim.mbase c.sim.objects home home state)
    (hc : Call.newGrasp wc input fuel (c, state) = some c') (e : E) :
    Along wc grader engine task sim home ⟨w.during c', Function.update engines c.thread
      ((Call.newGraspReset wc input fuel (c, state)).elim e engine.reset)⟩ := by
  induction fuel generalizing c state engines with
  | zero => cases hc
  | succ fuel ih =>
    have hhome : c.own.homeState = home := by
      have hthread := h.homes c.thread
      rwa [World.threads_during, if_pos rfl] at hthread
    have hhand : c.sim.hand = sim.hand := congrArg (fun rig => rig.toScene.hand) h.rig
    simp only [Call.newGrasp] at hc
    simp only [Call.newGraspReset]
    cases hq : c.sim.taskQueue with
    | nil =>
      rw [Call.nextGrasp, Call.getNextTarget_nil hq] at hc ⊢
      obtain rfl := Option.some.inj hc
      refine h.still w ?_ ?_ ?_ ?_ ?_ ?_ idle ?_ _
      · rfl
      · rfl
      · rfl
      · rfl
      · rfl
      · rfl
      · exact idle
    | cons entry rest =>
      obtain ⟨subtask, p⟩ := entry
      have hmove : c.Move wc grader input ⟨False, True, False⟩
          (Call.nextGrasp wc input (c, state)).1.1 := Call.move_nextGrasp (c, state) idle
      have hrig : (Call.nextGrasp wc input (c, state)).1.1.sim.rig = c.sim.rig :=
        Call.rig_move hmove
      obtain ⟨⟨what, hdeal⟩, hhome', happroach⟩ := deal_nextGrasp wc input state hq idle
      split at hc
      · rename_i hagain
        rw [if_pos hagain]
        have hnext := h.nextGrasp w (e := e) distinct leaves hdealt idle setup hq fun hlast =>
          Bool.noConfusion (hagain.symm.trans hlast)
        have hsetup : Call.SetsUpAlike wc c.sim.hand c.sim.mbase c.sim.objects home home
            (Call.nextGrasp wc input (c, state)).1.2 :=
          Call.nextGrasp_setsUpAlike (hhand ▸ overwrites) hhome setup
        have hloop := ih hnext (hdealt.move w hmove)
          (Call.nextGrasp_again (c, state) idle hagain).1 (setup_of_rig hrig hsetup) hc
        rwa [hdeal.thread, Function.update_idem] at hloop
      · rename_i hlast
        obtain rfl := Option.some.inj hc
        rw [if_neg hlast, if_pos (happroach (Bool.eq_false_of_not_eq_true hlast))]
        exact h.nextGrasp w distinct leaves hdealt idle setup hq fun _ => rfl

theorem Along.step {d d' : Driven ι R G V S E} (h : Along wc grader engine task sim home d)
    (distinct : task.DistinctResults) (leaves : LeavesLimits sim.motorForceLimits task)
    (overwrites : wc.Overwrites sim.hand) (request : sim.requestSimulationStop = false)
    (hdealt : Dealt wc scene task d.world)
    (step : Driven.Step wc grader engine (Undisturbed wc) d d') :
    Along wc grader engine task sim home d' ∧ Dealt wc scene task d'.world := by
  cases step with
  | @stepCB t wallTime fuel c running meets hc =>
    set input := d.input engine t wallTime
    set a := (d.world.call t).act wc grader input with ha
    have hrequest : ¬ (d.world.call t).sim.requestSimulationStop = true := by
      have hsame : d.world.sim.requestSimulationStop = sim.requestSimulationStop :=
        congrArg Rig.requestSimulationStop h.rig
      simp [World.call, hsame, request]
    have hcall : Dealt wc scene task (d.world.during (d.world.call t)) := by
      rwa [World.during_call]
    have hmoves : (d.world.call t).Moves wc grader input ⟨False, True, False⟩ c :=
      Call.moves_stepCB (Or.inr (hdealt.keeps meets)) hc
    have hact : Along wc grader engine task sim home
        ⟨d.world.during a, Function.update d.engines t (d.stepped engine t)⟩ :=
      h.act distinct leaves hdealt meets
    have hacted : Dealt wc scene task (d.world.during a) :=
      hcall.moves d.world (Call.moves_act _ (hdealt.keeps meets))
    have hthread : a.thread = t := (Call.pursues_act (d.world.call t)).thread
    refine ⟨?_, hcall.moves d.world hmoves⟩
    rw [Call.stepCB, if_neg hrequest] at hc
    rw [Call.stepReset, if_neg hrequest]
    simp only [← ha] at hc ⊢
    split at hc
    · rename_i hidle
      rw [if_pos hidle]
      have hhome : a.own.homeState = home := by
        have hself := hact.homes a.thread
        rwa [World.threads_during, if_pos rfl] at hself
      rw [hhome] at hc ⊢
      have hloop := hact.newGrasp d.world distinct leaves overwrites hacted hidle
        (fun _ _ => rfl) hc
        (d.stepped engine t)
      rwa [hthread, Function.update_idem] at hloop
    · rename_i hbusy
      rw [if_neg hbusy]
      obtain rfl := Option.some.inj hc
      exact hact

theorem Along.run {d d' : Driven ι R G V S E} (h : Along wc grader engine task sim home d)
    (distinct : task.DistinctResults) (leaves : LeavesLimits sim.motorForceLimits task)
    (overwrites : wc.Overwrites sim.hand) (request : sim.requestSimulationStop = false)
    (hdealt : Dealt wc scene task d.world)
    (run : Driven.Run wc grader engine (Undisturbed wc) d d') :
    Along wc grader engine task sim home d' ∧ Dealt wc scene task d'.world := by
  induction run with
  | refl => exact ⟨h, hdealt⟩
  | tail _ hstep ih => exact ih.1.step distinct leaves overwrites request ih.2 hstep

end

end

/-! ## Complete runs -/

/-- The simulator goes by the same settings and has the same results to begin with. -/
structure SameStart (sim : GraspTaskSimulator ι R G V S) (sim' : GraspTaskSimulator κ R G V S) :
    Prop where
  results : sim'.results = sim.results
  forceSimulateAll : sim'.forceSimulateAll = sim.forceSimulateAll
  simTimeLimit : sim'.simTimeLimit = sim.simTimeLimit
  wallTimeLimit : sim'.wallTimeLimit = sim.wallTimeLimit

omit [DecidableEq ι] [DecidableEq G] [DecidableEq V] [LinearOrder R] [Module R V]
  [DistribMulAction G V] in
/-- What `load` and `start` set up. -/
theorem launch_loaded (below : Transform3D G V) (initState : S) {w : World ι R G V S}
    (hne : task.targets ≠ []) (equipped : Equipped wc task) :
    ∃ hand mbase, wc.findDevice task.gripperID = some hand ∧ hand.movableFrame = some mbase ∧
      (w.launch wc task below initState).sim.rig =
        { hand := hand, objects := wc.rigidBodies, tcp := task.tcpID,
          forceSimulateAll := w.sim.forceSimulateAll, mbase := mbase, initState := initState,
          wallTimeLimit := w.sim.wallTimeLimit, simTimeLimit := w.sim.simTimeLimit,
          requestSimulationStop := false } ∧
      (w.launch wc task below initState).sim.motorForceLimits = hand.motorForceLimits ∧
      (w.launch wc task below initState).threads =
        (fun _ => World.newSimState (wc.setTransform mbase below initState)) ∧
      (w.launch wc task below initState).sim.counters = (fun _ => 0) := by
  obtain ⟨hand, hdevice, -, hmovable⟩ := equipped.hand
  obtain ⟨mbase, hframe⟩ := Option.ne_none_iff_exists'.mp hmovable
  obtain ⟨-, htotal⟩ := load_eq wc task w.sim
  have hpos : (w.sim.load wc task).1.totalNrOfExperiments ≠ 0 := by
    rw [htotal]
    exact fun heq => hne (List.length_eq_zero_iff.mp heq)
  refine ⟨hand, mbase, hdevice, hframe, ?_⟩
  unfold World.launch World.start World.startSimulation
  rw [if_neg hpos]
  unfold GraspTaskSimulator.load
  simp only [hdevice, hframe]
  exact ⟨rfl, trivial, trivial, trivial⟩

omit [DecidableEq ι] [DecidableEq κ] in
theorem along_launched {sim : GraspTaskSimulator κ R G V S} {home : S} {d : Driven ι R G V S E}
    (launched : Launched task d.world) (rig : d.world.sim.rig = sim.rig)
    (limits : d.world.sim.motorForceLimits = sim.motorForceLimits)
    (results : d.world.sim.results = sim.results)
    (threads : d.world.threads = fun _ => World.newSimState home) :
    Along wc grader engine task sim home d := by
  have hthread (t : ι) : d.world.threads t = World.newSimState home := congrFun threads t
  constructor
  · exact rig
  · exact limits
  · intro t
    rw [hthread]
    rfl
  · intro entry _ _
    rw [results]
  · intro t hbusy
    rw [hthread] at hbusy
    exact absurd rfl hbusy
  · intro ptr _
    rw [results]
  · intro entry _ hsome
    rw [launched.log] at hsome
    exact absurd rfl hsome

omit [DecidableEq ι] [LinearOrder R] [Module R V] in
theorem dealt_launched {w : World ι R G V S} (launched : Launched task w) (idle : Idle w) :
    Dealt wc w.sim.scene task w where
  tracked := Tracked.launched launched idle.target
  deals := launched.deals
  assigned := assigned_launched launched idle

omit [DecidableEq ι] [LinearOrder R] [Module R V] in
/-- When no thread runs any more all targets have been dealt. -/
theorem Dealt.all [Nonempty ι] {w : World ι R G V S} (h : Dealt wc scene task w)
    (stopped : ¬ w.isRunning) : w.pool.dealt = targetPtrs task := by
  rw [World.not_isRunning] at stopped
  obtain ⟨t⟩ := ‹Nonempty ι›
  have hqueue := h.deals.stopped t (stopped t)
  have hwaiting : w.pool.waiting = [] := by simp [World.pool, hqueue]
  have hjobs := h.tracked.jobs
  rwa [hwaiting, List.append_nil] at hjobs

omit [DecidableEq ι] [DecidableEq κ] in
/-- When no thread runs any more every target is as its own thread leaves it. -/
theorem Along.complete {sim : GraspTaskSimulator κ R G V S} {home : S} {d : Driven ι R G V S E}
    [Nonempty ι] (h : Along wc grader engine task sim home d)
    (hdealt : Dealt wc scene task d.world) (stopped : ¬ d.world.isRunning)
    {entry : SubTaskPtr R G V × TargetPtr G V} (hentry : entry ∈ taskEntries task) :
    ∃ k, (reference wc grader engine sim home entry k).1.own.currentState = .newGrasp ∧
      d.world.sim.results entry.2.target.result =
        (reference wc grader engine sim home entry k).1.sim.results entry.2.target.result ∧
      trace entry.2 d.world.sim.log =
        trace entry.2 (reference wc grader engine sim home entry k).1.sim.log := by
  have hmem : entry.2 ∈ d.world.pool.dealt := by
    rw [hdealt.all stopped]
    exact List.mem_map_of_mem hentry
  obtain ⟨st, hlife⟩ := hdealt.tracked.orderly.life hmem
  rw [World.not_isRunning] at stopped
  apply h.left entry hentry (life_ne_nil hlife)
  exact fun s _ => (hdealt.assigned.stopped s (stopped s)).1

/-- Grasps leave nothing behind that another one feels: what is set in a state or of the hand is
overwritten, and the force limits are the same for all. -/
structure Traceless (wc : WorkCell R G V S) (task : GraspTask R G V) : Prop where
  overwrites : ∀ hand, wc.findDevice task.gripperID = some hand → wc.Overwrites hand
  limits : ∀ hand, wc.findDevice task.gripperID = some hand →
    LeavesLimits hand.motorForceLimits task

omit [DecidableEq κ] in
/-- A run goes along with any simulator that was launched the same way. -/
theorem along_run (below : Transform3D G V) (initState : S) {d₀ d : Driven ι R G V S E}
    (hne : task.targets ≠ []) (distinct : task.DistinctResults) (equipped : Equipped wc task)
    (traceless : Traceless wc task) (sim : GraspTaskSimulator κ R G V S)
    (rig : (d₀.launch wc task below initState).world.sim.rig = sim.rig)
    (limits : (d₀.launch wc task below initState).world.sim.motorForceLimits =
      sim.motorForceLimits)
    (results : d₀.world.sim.results = sim.results)
    (run : Driven.Run wc grader engine (Undisturbed wc) (d₀.launch wc task below initState) d) :
    Along wc grader engine task sim (wc.setTransform sim.mbase below initState) d ∧
      Dealt wc (d₀.launch wc task below initState).world.sim.scene task d.world := by
  have hlaunched : Launched task (d₀.launch wc task below initState).world :=
    launched wc task below initState d₀.world
  have hframe := launch_frame wc task below initState d₀.world
  obtain ⟨hand, mbase, hdevice, -, hrig, hlimits, hthreads, -⟩ :=
    launch_loaded (w := d₀.world) below initState hne equipped
  have hrig' : sim.rig = _ := rig.symm.trans hrig
  have hhand : sim.hand = hand := congrArg (fun rig => rig.toScene.hand) hrig'
  have hmbase : sim.mbase = mbase := congrArg Rig.mbase hrig'
  have hrequest : sim.requestSimulationStop = false := congrArg Rig.requestSimulationStop hrig'
  have hleaves : LeavesLimits sim.motorForceLimits task := by
    rw [limits.symm.trans hlimits]
    exact traceless.limits hand hdevice
  have halong : Along wc grader engine task sim (wc.setTransform sim.mbase below initState)
      (d₀.launch wc task below initState) :=
    along_launched hlaunched rig limits (hframe.1.trans results) (hmbase ▸ hthreads)
  exact halong.run distinct hleaves (traceless.overwrites _ (hhand ▸ hdevice)) hrequest
    (dealt_launched hlaunched (idle_launch wc task below initState d₀.world (Or.inl hne))) run

/-- Every complete run of any number of threads leaves of each target what one thread that is
started for this target alone leaves of it. -/
theorem complete_run_alone [Nonempty ι] (wc : WorkCell R G V S) (grader : Grader R G V)
    (engine : Engine R G V S E) (task : GraspTask R G V) (below : Transform3D G V) (initState : S)
    (d₀ d : Driven ι R G V S E) (hne : task.targets ≠ []) (distinct : task.DistinctResults)
    (equipped : Equipped wc task) (traceless : Traceless wc task)
    (run : Driven.Run wc grader engine (Undisturbed wc) (d₀.launch wc task below initState) d)
    (stopped : ¬ d.world.isRunning) {entry : SubTaskPtr R G V × TargetPtr G V}
    (hentry : entry ∈ taskEntries task) :
    let sim := (d₀.launch wc task below initState).world.sim
    let home := wc.setTransform sim.mbase below initState
    ∃ k, (reference wc grader engine sim home entry k).1.own.currentState = .newGrasp ∧
      d.world.sim.results entry.2.target.result =
        (reference wc grader engine sim home entry k).1.sim.results entry.2.target.result ∧
      trace entry.2 d.world.sim.log =
        trace entry.2 (reference wc grader engine sim home entry k).1.sim.log := by
  have hframe := launch_frame wc task below initState d₀.world
  obtain ⟨halong, hdealt⟩ := along_run below initState hne distinct equipped traceless _ rfl rfl
    hframe.1.symm run
  exact halong.complete hdealt stopped hentry

theorem Sample.overwrites (hand : Device ℚ Bool)
    (h : Sample.cell.findDevice "gripper" = some hand) : Sample.cell.Overwrites hand := by
  obtain rfl : Sample.hand = hand := Option.some.inj h
  exact ⟨fun _ _ _ _ => rfl, fun _ _ _ _ _ _ => rfl, fun _ _ _ => rfl, fun _ _ _ _ => rfl⟩

theorem Sample.traceless (targets : ℕ) : Traceless Sample.cell (Sample.task targets) where
  overwrites := Sample.overwrites
  limits hand _ subtask hsubtask _ := by
    rw [List.mem_singleton.mp hsubtask]
    exact .inl rfl

/-- Two threads take turns until both have stopped. -/
theorem Sample.takeTurns : ∃ d : Driven Bool ℚ ℤˣ ℚ Bool ℚ,
    Driven.Run Sample.cell .basic Sample.clock (Undisturbed Sample.cell)
      ((Sample.driven Bool).launch Sample.cell (Sample.task 2) 1 false) d ∧
    ¬ d.world.isRunning := by
  have hsome : ((Driven.performAll Sample.cell .basic Sample.clock (Undisturbed Sample.cell) 3
      (List.replicate 19 [true, false]).flatten
      ((Sample.driven Bool).launch Sample.cell (Sample.task 2) 1 false)).map
      fun d => decide (∀ t, (d.world.threads t).stopped = true)) = some true := by decide +kernel
  obtain ⟨d, hd, hstopped⟩ := Option.map_eq_some_iff.mp hsome
  exact ⟨d, (Driven.takes_of_performAll hd).run,
    World.not_isRunning.mpr (of_decide_eq_true hstopped)⟩

theorem complete_run_alone_turns : ∃ d : Driven Bool ℚ ℤˣ ℚ Bool ℚ, ¬ d.world.isRunning ∧
    ∀ entry ∈ taskEntries (Sample.task 2), ∃ k,
      trace entry.2 d.world.sim.log = trace entry.2 (reference Sample.cell .basic Sample.clock
        ((Sample.driven Bool).launch Sample.cell (Sample.task 2) 1 false).world.sim false
        entry k).1.sim.log := by
  obtain ⟨d, run, stopped⟩ := Sample.takeTurns
  refine ⟨d, stopped, fun entry hentry => ?_⟩
  obtain ⟨k, -, -, htrace⟩ := complete_run_alone Sample.cell .basic Sample.clock (Sample.task 2) 1
    false (Sample.driven Bool) d (by decide) (by decide) (Sample.equipped 2) (Sample.traceless 2)
    run stopped hentry
  exact ⟨k, htrace⟩

/-- What two runs have left is the same. -/
structure SameEnd (task : GraspTask R G V) (w : World ι R G V S) (w' : World κ R G V S) :
    Prop where
  results : w'.sim.results = w.sim.results
  happened : ∀ p ∈ targetPtrs task, trace p w'.sim.log = trace p w.sim.log
  counters : w'.sim.counters = w.sim.counters
  stat : w'.sim.stat = w.sim.stat
  taken : w'.sim.nrOfExperiments = w.sim.nrOfExperiments

omit [DecidableEq ι] [LinearOrder R] [Module R V] in
/-- The counters of a run count what has happened to the targets one by one. -/
theorem Dealt.countP {w : World ι R G V S} (h : Dealt wc scene task w)
    (q : Happening R G V → Bool) : w.sim.log.countP (fun e => q e.what) =
      ((targetPtrs task).map fun p => (trace p w.sim.log).countP q).sum := by
  apply countP_eq_sum_trace q (nodup_targetPtrs task)
  intro e he
  obtain ⟨p, hp⟩ := Option.ne_none_iff_exists'.mp (h.assigned.logged e he)
  exact ⟨p, h.tracked.mem_of_dealt (h.tracked.orderly.logged e he p hp), hp⟩

omit [DecidableEq ι] [DecidableEq G] [DecidableEq V] [Field R] [LinearOrder R] [Group G]
  [AddCommGroup V] [Module R V] [DistribMulAction G V] in
theorem counted_launched {w : World ι R G V S} (log : w.sim.log = []) : Counted w w := by
  constructor
  · intro k
    rw [log, List.countP_nil, Nat.add_zero]
  · intro status
    rw [log, List.countP_nil, Nat.add_zero]

/-- Complete runs from the same start, with whatever numbers of threads and in whatever order
their time steps come, leave the same results and the same statistics. -/
theorem schedule_independent [Nonempty ι] [Nonempty κ] (wc : WorkCell R G V S)
    (grader : Grader R G V) (engine : Engine R G V S E) (task : GraspTask R G V)
    (below : Transform3D G V) (initState : S) (d₀ d : Driven ι R G V S E)
    (d₀' d' : Driven κ R G V S E) (hne : task.targets ≠ []) (distinct : task.DistinctResults)
    (equipped : Equipped wc task) (traceless : Traceless wc task)
    (start : SameStart d₀.world.sim d₀'.world.sim)
    (run : Driven.Run wc grader engine (Undisturbed wc) (d₀.launch wc task below initState) d)
    (run' : Driven.Run wc grader engine (Undisturbed wc) (d₀'.launch wc task below initState) d')
    (stopped : ¬ d.world.isRunning) (stopped' : ¬ d'.world.isRunning) :
    SameEnd task d.world d'.world := by
  set sim := (d₀.launch wc task below initState).world.sim with hsim
  have hframe := launch_frame wc task below initState d₀.world
  obtain ⟨hand, mbase, hdevice, hmovable, hrig, hlimits, -, hcounters⟩ :=
    launch_loaded (w := d₀.world) below initState hne equipped
  obtain ⟨hand', mbase', hdevice', hmovable', hrig', hlimits', -, hcounters'⟩ :=
    launch_loaded (w := d₀'.world) below initState hne equipped
  obtain rfl : hand' = hand := Option.some.inj (hdevice'.symm.trans hdevice)
  obtain rfl : mbase' = mbase := Option.some.inj (hmovable'.symm.trans hmovable)
  obtain ⟨halong, hdealt⟩ := along_run below initState hne distinct equipped traceless
    sim rfl rfl hframe.1.symm run
  have hsame : (d₀'.launch wc task below initState).world.sim.rig = sim.rig := by
    refine hrig'.trans (Eq.trans ?_ hrig.symm)
    rw [start.forceSimulateAll, start.simTimeLimit, start.wallTimeLimit]
  obtain ⟨halong', hdealt'⟩ := along_run below initState hne distinct equipped traceless
    sim hsame (hlimits'.trans hlimits.symm) (start.results.trans hframe.1.symm) run'
  have hall : ∀ entry ∈ taskEntries task,
      d'.world.sim.results entry.2.target.result = d.world.sim.results entry.2.target.result ∧
        trace entry.2 d'.world.sim.log = trace entry.2 d.world.sim.log := by
    intro entry hentry
    obtain ⟨k, hended, hresult, htrace⟩ := halong.complete hdealt stopped hentry
    obtain ⟨k', hended', hresult', htrace'⟩ := halong'.complete hdealt' stopped' hentry
    have hone : reference wc grader engine sim _ entry k' =
        reference wc grader engine sim _ entry k := solo_unique hended' hended
    rw [hresult', htrace', hone]
    exact ⟨hresult.symm, htrace.symm⟩
  have happened : ∀ p ∈ targetPtrs task, trace p d'.world.sim.log = trace p d.world.sim.log := by
    intro p hp
    obtain ⟨entry, hentry, rfl⟩ := List.mem_map.mp hp
    exact (hall entry hentry).2
  have hcount (q : Happening R G V → Bool) : d'.world.sim.log.countP (fun e => q e.what) =
      d.world.sim.log.countP (fun e => q e.what) := by
    rw [hdealt'.countP, hdealt.countP]
    congr 1
    apply List.map_congr_left
    intro p hp
    rw [happened p hp]
  have hlaunched := launched wc task below initState d₀.world
  have hlaunched' := launched wc task below initState d₀'.world
  have hcounted := counted_run run.world (counted_launched hlaunched.log)
  have hcounted' := counted_run run'.world (counted_launched hlaunched'.log)
  constructor
  · funext ptr
    by_cases hptr : ∃ p ∈ targetPtrs task, ptr = p.target.result
    · obtain ⟨p, hp, rfl⟩ := hptr
      obtain ⟨entry, hentry, rfl⟩ := List.mem_map.mp hp
      exact (hall entry hentry).1
    · have hnot (p : TargetPtr G V) (hp : p ∈ targetPtrs task) : ptr ≠ p.target.result :=
        fun heq => hptr ⟨p, hp, heq⟩
      exact (halong'.elsewhere ptr hnot).trans (halong.elsewhere ptr hnot).symm
  · exact happened
  · funext k
    rw [hcounted'.counters, hcounted.counters, hcount, Driven.launch, Driven.launch, hcounters,
      hcounters']
  · funext s
    rw [hcounted'.stat, hcounted.stat, hcount, Driven.launch, Driven.launch, hlaunched.stat hne,
      hlaunched'.stat hne]
  · rw [hdealt'.deals.counted, hdealt.deals.counted]
    exact congrArg List.length ((hdealt'.all stopped').trans (hdealt.all stopped).symm)

theorem schedule_independent_turns : ∃ (d : Driven Bool ℚ ℤˣ ℚ Bool ℚ)
    (d' : Driven Unit ℚ ℤˣ ℚ Bool ℚ), ¬ d.world.isRunning ∧ ¬ d'.world.isRunning ∧
    SameEnd (Sample.task 2) d.world d'.world := by
  obtain ⟨d, run, stopped⟩ := Sample.takeTurns
  have hsome : ((Driven.performAll Sample.cell .basic Sample.clock (Undisturbed Sample.cell) 3
      (List.replicate 37 ())
      ((Sample.driven Unit).launch Sample.cell (Sample.task 2) 1 false)).map
      fun d => (d.world.threads ()).stopped) = some true := by decide +kernel
  obtain ⟨d', hd', hstopped'⟩ := Option.map_eq_some_iff.mp hsome
  have stopped' : ¬ d'.world.isRunning := World.not_isRunning.mpr fun _ => hstopped'
  have hsame : SameStart (Sample.driven Bool).world.sim (Sample.driven Unit).world.sim :=
    ⟨rfl, rfl, rfl, rfl⟩
  exact ⟨d, d', stopped, stopped', schedule_independent Sample.cell .basic Sample.clock
    (Sample.task 2) 1 false (Sample.driven Bool) d (Sample.driven Unit) d' (by decide) (by decide)
    (Sample.equipped 2) (Sample.traceless 2) hsame run (Driven.takes_of_performAll hd').run
    stopped stopped'⟩

end Gripperz.Simulation
