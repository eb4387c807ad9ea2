import Mathlib.Algebra.Module.Rat
import Mathlib.Data.List.Enum
import Mathlib.Data.List.Nodup
import Gripperz.Simulation.Runs

/-! # How targets are dealt

The queue holds the subtasks and targets of the loaded task set in order. Over every run
the targets taken are its first ones, each taken once and each for its own subtask.
-/
namespace Gripperz.Simulation
open Math Grasps Library

variable {ι R G V S : Type}

/-! ## The loaded task set -/

section Loading

/-- The subtasks and targets of a task set, in order. -/
def taskEntries (task : GraspTask R G V) : List (SubTaskPtr R G V × TargetPtr G V) :=
  task.subTasks.zipIdx.flatMap fun subtask => subtask.1.targets.zipIdx.map fun target =>
    (⟨subtask.2, subtask.1⟩, ⟨(subtask.2, target.2), target.1⟩)

/-- The targets of a task set, in order. -/
def targetPtrs (task : GraspTask R G V) : List (TargetPtr G V) := (taskEntries task).map Prod.snd

theorem foldl_push {α β : Type} (f : α → β) (xs : List α) (acc : List β × ℕ) :
    xs.reverse.foldl (fun acc x => (f x :: acc.1, acc.2 + 1)) acc =
      (xs.map f ++ acc.1, acc.2 + xs.length) := by
  induction xs with
  | nil => rfl
  | cons x xs ih =>
    rw [List.reverse_cons, List.foldl_append, ih]
    simp [Nat.add_assoc]

theorem generateTaskList_eq (task : GraspTask R G V) :
    generateTaskList task = (taskEntries task, (taskEntries task).length) := by
  unfold generateTaskList taskEntries
  simp only [foldl_push]
  induction task.subTasks.zipIdx with
  | nil => rfl
  | cons subtask rest ih =>
    rw [List.reverse_cons, List.foldl_append, ih]
    simp [Nat.add_comm]

theorem map_target_targetPtrs (task : GraspTask R G V) :
    (targetPtrs task).map TargetPtr.target = task.targets := by
  have hfst : task.targets = (task.subTasks.zipIdx.map Prod.fst).flatMap GraspSubTask.targets := by
    simp [GraspTask.targets]
  rw [hfst, List.flatMap_map]
  simp [targetPtrs, taskEntries, List.map_flatMap, Function.comp_def]

theorem length_targetPtrs (task : GraspTask R G V) :
    (targetPtrs task).length = task.targets.length := by
  rw [← map_target_targetPtrs, List.length_map]

/-- The subtask a target belongs to. -/
structure Owns (task : GraspTask R G V) (subtask : SubTaskPtr R G V) (p : TargetPtr G V) :
    Prop where
  loaded : task.subTasks[subtask.address]? = some subtask.subTask
  address : p.address.1 = subtask.address
  target : subtask.subTask.targets[p.address.2]? = some p.target

theorem owns_of_mem {task : GraspTask R G V} {entry : SubTaskPtr R G V × TargetPtr G V}
    (h : entry ∈ taskEntries task) : Owns task entry.1 entry.2 := by
  simp only [taskEntries, List.mem_flatMap, List.mem_map, Prod.exists,
    List.mk_mem_zipIdx_iff_getElem?] at h
  obtain ⟨subtask, i, hi, target, j, hj, rfl⟩ := h
  exact ⟨hi, rfl, hj⟩

theorem nodup_zipIdx_map {α β : Type} (xs : List α) {f : α × ℕ → β}
    (hf : ∀ x y : α × ℕ, f x = f y → x.2 = y.2) : (xs.zipIdx.map f).Nodup := by
  have hsnd : (xs.zipIdx.map Prod.snd).Nodup := by
    rw [List.zipIdx_map_snd]
    exact List.nodup_range'
  rw [List.Nodup, List.pairwise_map] at hsnd ⊢
  exact hsnd.imp fun hne heq => hne (hf _ _ heq)

theorem nodup_targetPtrs (task : GraspTask R G V) : (targetPtrs task).Nodup := by
  have hindices : (task.subTasks.zipIdx.map Prod.snd).Nodup :=
    nodup_zipIdx_map task.subTasks fun _ _ h => h
  simp only [targetPtrs, taskEntries, List.map_flatMap, List.map_map]
  rw [List.nodup_flatMap]
  constructor
  · intro subtask _
    apply nodup_zipIdx_map
    intro x y h
    exact congrArg (fun p : TargetPtr G V => p.address.2) h
  · rw [List.Nodup, List.pairwise_map] at hindices
    apply hindices.imp
    intro subtask subtask' hne p hp hp'
    obtain ⟨x, _, hx⟩ := List.mem_map.mp hp
    obtain ⟨y, _, hy⟩ := List.mem_map.mp hp'
    exact hne (congrArg (fun p : TargetPtr G V => p.address.1) (hx.trans hy.symm))

end Loading

/-! ## Dealing -/

variable [DecidableEq ι] [Field R] [LinearOrder R] [Group G] [AddCommGroup V] [Module R V]
  [DistribMulAction G V]

/-- The object loaded with a task set and started; `load` may have raised its exception. -/
def World.launch (wc : WorkCell R G V S) (task : GraspTask R G V) (below : Transform3D G V)
    (initState : S) (w : World ι R G V S) : World ι R G V S :=
  World.start wc below initState { w with sim := (w.sim.load wc task).1 }

/-- A thread's cache is that of the subtask of the target. -/
structure CachedFor (task : GraspTask R G V) (p : TargetPtr G V) (cache : TaskCache R G V)
    (subtask : SubTaskPtr R G V) : Prop where
  owns : Owns task subtask p
  task : cache.task = some subtask
  taskRefFrame : cache.taskRefFrame = subtask.subTask.refFrame
  taskOffset : cache.taskOffset = subtask.subTask.offset
  approach : cache.approach = subtask.subTask.approach
  retract : cache.retract = subtask.subTask.retract

omit [Field R] [LinearOrder R] [Group G] [AddCommGroup V] [Module R V] [DistribMulAction G V] in
theorem cachedFor_cacheOf {task : GraspTask R G V} {p : TargetPtr G V}
    {subtask : SubTaskPtr R G V} (h : Owns task subtask p) (hand : Device R S) :
    CachedFor task p (Call.cacheOf hand subtask) subtask :=
  ⟨h, rfl, rfl, rfl, rfl, rfl⟩

/-- A thread's cache is that of the subtask it knows, and of the target in its hands. -/
structure KeepsCache (task : GraspTask R G V) (hand : Device R S) (own : SimState R G V S) :
    Prop where
  cached : ∀ subtask, own.task = some subtask →
    task.subTasks[subtask.address]? = some subtask.subTask ∧
      own.toTaskCache = Call.cacheOf hand subtask
  holds : ∀ p, own.target = some p → ∃ subtask, CachedFor task p own.toTaskCache subtask

/-- The targets taken so far are the first of the task set, each for its own subtask. Only
without targets may there be threads of an earlier run. -/
structure Deals (task : GraspTask R G V) (w : World ι R G V S) : Prop where
  entries : ∃ gone, gone ++ w.sim.taskQueue = taskEntries task ∧
    w.sim.log.filterMap takenTarget = gone.map Prod.snd
  counted : w.sim.nrOfExperiments = (w.sim.log.filterMap takenTarget).length
  total : w.sim.totalNrOfExperiments = task.targets.length
  stopped : ∀ t, (w.threads t).stopped = true → w.sim.taskQueue = []
  threads : task.targets ≠ [] → ∀ t, KeepsCache task w.sim.hand (w.threads t)
  taken : ∀ e ∈ w.sim.log, ∀ cache, e.what = .taken cache →
    ∃ p subtask, e.target = some p ∧ CachedFor task p cache subtask

omit [Field R] [LinearOrder R] [Group G] [AddCommGroup V] [Module R V] [DistribMulAction G V] in
theorem taskEntries_eq_nil {task : GraspTask R G V} (h : task.targets = []) :
    taskEntries task = [] := by
  have hlength := length_targetPtrs task
  rw [h, targetPtrs, List.length_map, List.length_nil] at hlength
  exact List.length_eq_zero_iff.mp hlength

section
variable {wc : WorkCell R G V S} {grader : Grader R G V} {input : StepInput R S}
  {promise : Promise} {task : GraspTask R G V}

omit [DecidableEq ι] [Field R] [LinearOrder R] [Group G] [AddCommGroup V] [Module R V]
  [DistribMulAction G V] in
theorem load_eq (wc : WorkCell R G V S) (task : GraspTask R G V)
    (sim : GraspTaskSimulator ι R G V S) :
    (sim.load wc task).1.taskQueue = taskEntries task ∧
      (sim.load wc task).1.totalNrOfExperiments = task.targets.length := by
  have hlength : (taskEntries task).length = task.targets.length := by
    rw [← length_targetPtrs, targetPtrs, List.length_map]
  unfold GraspTaskSimulator.load
  simp only [generateTaskList_eq, hlength]
  cases wc.findDevice task.gripperID with
  | none => exact ⟨rfl, rfl⟩
  | some dhand =>
    simp only
    cases dhand.movableFrame with
    | none => exact ⟨rfl, rfl⟩
    | some mbase => exact ⟨rfl, rfl⟩

/-- A run starts with the whole queue and nothing taken; with threads and statistics that
are fresh, unless there is no target. -/
structure Launched (task : GraspTask R G V) (w : World ι R G V S) : Prop where
  queue : w.sim.taskQueue = taskEntries task
  log : w.sim.log = []
  taken : w.sim.nrOfExperiments = 0
  total : w.sim.totalNrOfExperiments = task.targets.length
  threads : task.targets ≠ [] → ∃ state, w.threads = fun _ => World.newSimState state
  stat : task.targets ≠ [] → w.sim.stat = fun _ => 0

omit [DecidableEq ι] [LinearOrder R] [Module R V] [DistribMulAction G V] in
theorem launched (wc : WorkCell R G V S) (task : GraspTask R G V) (below : Transform3D G V)
    (initState : S) (w : World ι R G V S) : Launched task (w.launch wc task below initState) := by
  obtain ⟨hqueue, htotal⟩ := load_eq wc task w.sim
  by_cases h : task.targets = []
  · have hzero : task.targets.length = 0 := by simp [h]
    have hlaunch : w.launch wc task below initState =
        World.start wc below initState { w with sim := (w.sim.load wc task).1 } := rfl
    rw [hlaunch, World.start, World.startSimulation, if_pos (htotal.trans hzero)]
    exact ⟨hqueue, rfl, rfl, htotal, fun hne => absurd h hne, fun hne => absurd h hne⟩
  · have hpos : task.targets.length ≠ 0 := fun heq => h (List.length_eq_zero_iff.mp heq)
    have hlaunch : w.launch wc task below initState =
        World.start wc below initState { w with sim := (w.sim.load wc task).1 } := rfl
    rw [hlaunch, World.start, World.startSimulation, if_neg fun heq => hpos (htotal.symm.trans heq)]
    exact ⟨hqueue, rfl, rfl, htotal, fun _ => ⟨_, rfl⟩, fun _ => rfl⟩

omit [DecidableEq ι] [LinearOrder R] [Module R V] [DistribMulAction G V] in
theorem Launched.deals {w : World ι R G V S} (h : Launched task w) : Deals task w := by
  have hfresh (hne : task.targets ≠ []) (t : ι) :
      ∃ state, w.threads t = World.newSimState state := by
    obtain ⟨state, hstate⟩ := h.threads hne
    exact ⟨state, by rw [hstate]⟩
  constructor
  · exact ⟨[], by simp [h.queue], by simp [h.log]⟩
  · simp [h.log, h.taken]
  · exact h.total
  · intro t ht
    by_cases hne : task.targets = []
    · rw [h.queue, taskEntries_eq_nil hne]
    · obtain ⟨state, hstate⟩ := hfresh hne t
      simp [hstate, World.newSimState] at ht
  · intro hne t
    obtain ⟨state, hstate⟩ := hfresh hne t
    rw [hstate]
    constructor <;> simp [World.newSimState]
  · simp [h.log]

omit [LinearOrder R] [Module R V] in
theorem taken_not_mem {scene : Scene R S} {st st' : Stage S} {es : List (Happening R G V)}
    (h : GoesOn wc scene promise st es st') (cache : TaskCache R G V) : .taken cache ∉ es := by
  cases h <;> simp

omit [Field R] [LinearOrder R] [Module R V] in
theorem taken_not_snd {scene : Scene R S} {st : Stage S} {cache : TaskCache R G V}
    {e : Happening R G V} (h : Opens wc scene [.taken cache, e] st) (cache' : TaskCache R G V) :
    e ≠ .taken cache' := by
  generalize hes : [Happening.taken cache, e] = es at h
  cases h <;> simp_all [Setup.events]

omit [LinearOrder R] [Module R V] in
theorem deals_shift (w : World ι R G V S) {c c' : Call ι R G V S} {es : List (Happening R G V)}
    (h : Deals task (w.during c)) (hshift : c.Shift es c')
    (hgo : GoesOn wc c.sim.scene promise c.own.stage es c'.own.stage) :
    Deals task (w.during c') := by
  have hhand : (w.during c').sim.hand = (w.during c).sim.hand :=
    congrArg Scene.hand hshift.scene
  have htaken : (w.during c').sim.log.filterMap takenTarget =
      (w.during c).sim.log.filterMap takenTarget := by
    simp [World.during, hshift.log, World.untaken hgo]
  have hqueue : (w.during c').sim.taskQueue = (w.during c).sim.taskQueue := hshift.queue
  constructor
  · obtain ⟨gone, hgone, hlog⟩ := h.entries
    exact ⟨gone, hqueue ▸ hgone, htaken.trans hlog⟩
  · rw [htaken]
    exact hshift.taken.trans h.counted
  · exact hshift.total.trans h.total
  · rw [hqueue]
    intro t ht
    rw [World.threads_during, hshift.thread] at ht
    by_cases hself : t = c.thread
    · rw [if_pos hself] at ht
      rcases hshift.stopped ht with hold | hempty
      · exact h.stopped t (by simp [World.threads_during, hself, hold])
      · exact hempty.1
    · exact h.stopped t (by simpa [World.threads_during, hself] using ht)
  · intro hne
    rw [hhand]
    apply World.forall_threads w hshift.thread (h.threads hne)
    intro hkeeps
    have htask : c'.own.task = c.own.task := congrArg TaskCache.task hshift.cache
    constructor
    · rw [htask, hshift.cache]
      exact hkeeps.cached
    · rw [hshift.target, hshift.cache]
      exact hkeeps.holds
  · intro e he cache hcache
    have hlog : (w.during c').sim.log = (w.during c).sim.log ++ _ := hshift.log
    rw [hlog, List.mem_append] at he
    rcases he with he | he
    · exact h.taken e he cache hcache
    · obtain ⟨e', hmem, rfl⟩ := List.mem_map.mp he
      cases hcache
      exact absurd hmem (taken_not_mem hgo cache)

omit [DecidableEq ι] [Field R] [LinearOrder R] [Group G] [AddCommGroup V] [Module R V]
  [DistribMulAction G V] in
/-- The cache the thread comes to hold is that of the subtask. -/
theorem nextCache_eq {c : Call ι R G V S} {subtask : SubTaskPtr R G V} {p : TargetPtr G V}
    (hcached : ∀ known, c.own.task = some known →
      task.subTasks[known.address]? = some known.subTask ∧
        c.own.toTaskCache = Call.cacheOf c.sim.hand known)
    (howns : Owns task subtask p) : c.nextCache subtask = Call.cacheOf c.sim.hand subtask := by
  unfold Call.nextCache
  split
  · rename_i hsame
    obtain ⟨known, hknown, haddress⟩ := Option.map_eq_some_iff.mp hsame
    obtain ⟨hloaded, hcache⟩ := hcached known hknown
    rw [haddress, howns.loaded] at hloaded
    have heq : known = subtask := by
      cases known
      cases subtask
      simp_all
    rw [hcache, heq]
  · rfl

omit [Field R] [LinearOrder R] [Group G] [AddCommGroup V] [Module R V] [DistribMulAction G V] in
/-- The next target belongs to its subtask, and the cache comes to be that of the subtask. -/
theorem deals_next (w : World ι R G V S) {c : Call ι R G V S} {subtask : SubTaskPtr R G V}
    {p : TargetPtr G V} {rest : List (SubTaskPtr R G V × TargetPtr G V)}
    (h : Deals task (w.during c)) (hqueue : c.sim.taskQueue = (subtask, p) :: rest) :
    Owns task subtask p ∧ c.nextCache subtask = Call.cacheOf c.sim.hand subtask := by
  obtain ⟨gone, hgone, -⟩ := h.entries
  have hmem : (subtask, p) ∈ taskEntries task := by
    have hnext : (subtask, p) ∈ (w.during c).sim.taskQueue := by
      rw [World.during, hqueue]
      exact List.mem_cons_self
    rw [← hgone]
    exact List.mem_append_right gone hnext
  have hne : task.targets ≠ [] := by
    intro hempty
    rw [taskEntries_eq_nil hempty] at hmem
    cases hmem
  have hkeeps := h.threads hne c.thread
  rw [World.threads_during, if_pos rfl] at hkeeps
  exact ⟨owns_of_mem hmem, nextCache_eq hkeeps.cached (owns_of_mem hmem)⟩

omit [Field R] [LinearOrder R] [Module R V] in
theorem deals_deal (w : World ι R G V S) {c c' : Call ι R G V S} {subtask : SubTaskPtr R G V}
    {p : TargetPtr G V} {e : Happening R G V} (h : Deals task (w.during c))
    (hdeal : c.Deal subtask p e c')
    (hopens : Opens wc c.sim.scene [.taken (c.nextCache subtask), e] c'.own.stage) :
    Deals task (w.during c') := by
  have hhand : (w.during c').sim.hand = (w.during c).sim.hand :=
    congrArg Scene.hand hdeal.scene
  obtain ⟨gone, hgone, hlog⟩ := h.entries
  have hqueue : (w.during c).sim.taskQueue = (subtask, p) :: (w.during c').sim.taskQueue :=
    hdeal.queue
  obtain ⟨howns, hcache⟩ := deals_next w h hdeal.queue
  have htaken : (w.during c').sim.log.filterMap takenTarget =
      (gone ++ [(subtask, p)]).map Prod.snd := by
    simp [World.during, hdeal.log, World.taken_of_opens hopens, ← hlog]
  constructor
  · exact ⟨gone ++ [(subtask, p)], by simpa [hqueue] using hgone, htaken⟩
  · have hcount : (w.during c').sim.nrOfExperiments = (w.during c).sim.nrOfExperiments + 1 :=
      hdeal.taken
    rw [hcount, htaken, h.counted, hlog]
    simp
  · exact hdeal.total.trans h.total
  · intro t ht
    rw [World.threads_during, hdeal.thread] at ht
    have hold : ((w.during c).threads t).stopped = true := by
      by_cases hself : t = c.thread
      · rw [if_pos hself, hdeal.stopped] at ht
        simp [World.threads_during, hself, ht]
      · simpa [World.threads_during, hself] using ht
    have hempty := h.stopped t hold
    rw [hqueue] at hempty
    cases hempty
  · intro hne
    rw [hhand]
    apply World.forall_threads w hdeal.thread (h.threads hne)
    intro _
    have hown : c'.own.toTaskCache = Call.cacheOf c.sim.hand subtask := hdeal.cache.trans hcache
    have htask : c'.own.task = some subtask := congrArg TaskCache.task hown
    constructor
    · intro known hknown
      have hsame : subtask = known := Option.some.inj (htask.symm.trans hknown)
      exact hsame ▸ ⟨howns.loaded, hown⟩
    · intro p' hp'
      have hsame : p = p' := Option.some.inj (hdeal.target.symm.trans hp')
      exact ⟨subtask, hsame ▸ hown ▸ cachedFor_cacheOf howns c.sim.hand⟩
  · intro e' he' cache hcache'
    have hlog' : (w.during c').sim.log = (w.during c).sim.log ++ _ := hdeal.log
    rw [hlog', List.mem_append] at he'
    rcases he' with he' | he'
    · exact h.taken e' he' cache hcache'
    · simp only [entries, List.map_cons, List.map_nil, List.mem_cons, List.not_mem_nil,
        or_false] at he'
      rcases he' with rfl | rfl
      · cases hcache'
        exact ⟨p, subtask, rfl, hcache ▸ cachedFor_cacheOf howns c.sim.hand⟩
      · exact absurd hcache' (taken_not_snd hopens cache)

omit [Module R V] in
theorem deals_move (w : World ι R G V S) {c c' : Call ι R G V S} (h : Deals task (w.during c))
    (hmove : c.Move wc grader input promise c') : Deals task (w.during c') := by
  rcases Call.move_cases hmove with ⟨es, hshift, hgo, -⟩ | ⟨subtask, p, e, hdeal, hopens, -⟩
  · exact deals_shift w h hshift hgo
  · exact deals_deal w h hdeal hopens

theorem deals_run {cond : StepInput R S → Call ι R G V S → Prop} {w w' : World ι R G V S}
    (run : World.Run wc grader cond w w') (h : Deals task w) : Deals task w' := by
  apply World.Run.invariant ⟨False, False, False⟩ _ _ _ run h
  · intro w t input _ _
    exact ⟨False.elim, False.elim, False.elim⟩
  · intro w c c' input hdeals hmove
    exact deals_move w hdeals hmove
  · intro w b hdeals
    exact ⟨hdeals.entries, hdeals.counted, hdeals.total, hdeals.stopped, hdeals.threads,
      hdeals.taken⟩

theorem eq_of_filterMap_nodup {α β : Type} {f : α → Option β} {xs : List α}
    (h : (xs.filterMap f).Nodup) {x y : α} (hx : x ∈ xs) (hy : y ∈ xs) {b : β}
    (hxb : f x = some b) (hyb : f y = some b) : x = y := by
  induction xs with
  | nil => cases hx
  | cons z xs ih =>
    have hrest : (xs.filterMap f).Nodup := by
      cases hz : f z with
      | none => simpa [hz] using h
      | some c =>
        rw [List.filterMap_cons_some hz] at h
        exact (List.nodup_cons.mp h).2
    have hnew (u : α) (hu : u ∈ xs) (hub : f u = some b) : f z ≠ some b := by
      intro hz
      rw [List.filterMap_cons_some hz] at h
      exact (List.nodup_cons.mp h).1 (List.mem_filterMap.mpr ⟨u, hu, hub⟩)
    rcases List.mem_cons.mp hx with hxz | hx' <;> rcases List.mem_cons.mp hy with hyz | hy'
    · exact hxz.trans hyz.symm
    · exact absurd (hxz ▸ hxb) (hnew y hy' hyb)
    · exact absurd (hyz ▸ hyb) (hnew x hx' hxb)
    · exact ih hrest hx' hy'

end

/-- The target has been handed to a thread, and to none else. -/
def HandedOnce (p : TargetPtr G V) (w : World ι R G V S) : Prop :=
  ∃! e, e ∈ w.sim.log ∧ takenTarget e = some p

/-- What is true of the dealing at every moment of a run: every target waits or has been handed to
one thread, in order and once, for its own subtask; a thread stops when all are taken. -/
structure DealtInOrder (task : GraspTask R G V) (w : World ι R G V S) : Prop where
  order : w.sim.log.filterMap takenTarget ++ w.sim.taskQueue.map Prod.snd = targetPtrs task
  distinct : (targetPtrs task).Nodup
  handed : ∀ p ∈ targetPtrs task, p ∈ w.sim.taskQueue.map Prod.snd ∨ HandedOnce p w
  counted : w.sim.nrOfExperiments = (w.sim.log.filterMap takenTarget).length
  stopped : ∀ t, (w.threads t).stopped = true →
    (∀ p ∈ targetPtrs task, HandedOnce p w) ∧
      w.sim.nrOfExperiments = w.sim.totalNrOfExperiments ∧
      w.sim.totalNrOfExperiments = task.targets.length
  next : ∀ t subtask p rest, w.sim.taskQueue = (subtask, p) :: rest →
    (w.call t).getNextTarget.1 = some p ∧
      (w.call t).getNextTarget.2.sim.taskQueue = rest ∧
      CachedFor task p (w.call t).getNextTarget.2.own.toTaskCache subtask
  taken : ∀ e ∈ w.sim.log, ∀ cache, e.what = .taken cache →
    ∃ p subtask, e.target = some p ∧ CachedFor task p cache subtask
  holds : task.targets ≠ [] → ∀ t p, (w.threads t).target = some p →
    ∃ subtask, CachedFor task p (w.threads t).toTaskCache subtask

omit [DecidableEq ι] [Field R] [LinearOrder R] [Group G] [AddCommGroup V] [Module R V]
  [DistribMulAction G V] in
theorem handedOnce_of_mem {p : TargetPtr G V} {w : World ι R G V S}
    (once : (w.sim.log.filterMap takenTarget).Nodup)
    (h : p ∈ w.sim.log.filterMap takenTarget) : HandedOnce p w := by
  obtain ⟨e, he, hp⟩ := List.mem_filterMap.mp h
  exact ⟨e, ⟨he, hp⟩, fun e' he' => eq_of_filterMap_nodup once he'.1 he he'.2 hp⟩

omit [Field R] [LinearOrder R] [Group G] [AddCommGroup V] [Module R V] [DistribMulAction G V] in
theorem Deals.dealtInOrder {task : GraspTask R G V} {w : World ι R G V S} (h : Deals task w) :
    DealtInOrder task w := by
  obtain ⟨gone, hgone, htaken⟩ := h.entries
  have horder : w.sim.log.filterMap takenTarget ++ w.sim.taskQueue.map Prod.snd =
      targetPtrs task := by
    rw [htaken, ← List.map_append, hgone, targetPtrs]
  have honce : (w.sim.log.filterMap takenTarget).Nodup := by
    have hall := nodup_targetPtrs task
    rw [← horder] at hall
    exact hall.of_append_left
  have hhanded (p : TargetPtr G V) (hp : p ∈ targetPtrs task) :
      p ∈ w.sim.taskQueue.map Prod.snd ∨ HandedOnce p w := by
    rw [← horder, List.mem_append] at hp
    exact hp.symm.imp_right (handedOnce_of_mem honce)
  refine ⟨horder, nodup_targetPtrs task, hhanded, h.counted, ?_, ?_, h.taken, ?_⟩
  · intro t ht
    have hqueue := h.stopped t ht
    have hall : w.sim.log.filterMap takenTarget = targetPtrs task := by simpa [hqueue] using horder
    refine ⟨fun p hp => handedOnce_of_mem honce (hall ▸ hp), ?_, h.total⟩
    rw [h.counted, hall, length_targetPtrs, h.total]
  · intro t subtask p rest hq
    have hduring : Deals task (w.during (w.call t)) := by rwa [World.during_call]
    obtain ⟨howns, hcache⟩ := deals_next w hduring hq
    rw [Call.getNextTarget_cons hq]
    refine ⟨rfl, rfl, ?_⟩
    change CachedFor task p ((w.call t).nextCache subtask) subtask
    rw [hcache]
    exact cachedFor_cacheOf howns _
  · intro hne t p hp
    exact (h.threads hne t).holds p hp

/-! ## A small work cell -/

namespace Sample

/-- A hand without suction cup whose fingers are always still. -/
def hand : Device ℚ Bool where
  base := "base"
  isRigidDevice := true
  movableFrame := some "base"
  suctionCup := none
  getQ := fun _ => ⟨[]⟩
  setQ := fun _ state => state
  bounds := (⟨[]⟩, ⟨[]⟩)
  motorForceLimits := ⟨[]⟩
  isResting := fun _ => true
  hasFrame := fun _ _ => true

/-- A work cell on a line whose state says whether there is a collision. Its one object is
always in the hand. -/
def cell : WorkCell ℚ ℤˣ ℚ Bool where
  rigidBodies := ["part"]
  findDevice := fun _ => some hand
  hasFrame := fun _ => true
  worldTframe := fun _ _ => 1
  frameTframe := fun _ _ _ => 1
  parent := fun _ _ => "world"
  getTransform := fun _ _ => 1
  setTransform := fun _ _ state => state
  inCollision := fun state => state
  collidingFrames := fun _ => []
  getContacts := fun _ _ => [⟨0, 0, 0, 0⟩]
  getBodies := fun _ _ => [some "finger"]
  friction := fun _ _ => 0
  graspMeasures := fun _ _ _ => (1, 1, 1)
  norm2 := fun v => |v|

/-- As many targets as given, in one subtask. -/
def task (targets : ℕ) : GraspTask ℚ ℤˣ ℚ where
  gripperID := "gripper"
  tcpID := "tcp"
  subTasks := [⟨"world", 1, 1, 1, ⟨[]⟩, (List.range targets).map fun i => ⟨1, i⟩⟩]

def result : GraspResult ℚ ℤˣ ℚ :=
  ⟨.unInitialized, 0, ⟨[]⟩, ⟨[]⟩, 1, 1, 1, 1, ⟨[]⟩, ⟨[]⟩, [], []⟩

/-- A simulator before anything is loaded. -/
def world : World Bool ℚ ℤˣ ℚ Bool where
  sim :=
    { requestSimulationStop := true, autoSaveInterval := 1, stat := fun _ => 0,
      counters := fun _ => 0, nrOfExperiments := 0, lastSaveTaskIndex := 0,
      totalNrOfExperiments := 0, objects := [], dhand := none, hand := hand,
      motorForceLimits := ⟨[]⟩, mbase := "", tcp := "", initState := false, currentTask := none,
      currentTarget := none, gtask := task 0, taskQueue := [], wallTimeLimit := 60,
      simTimeLimit := 60, storeTimedStatePaths := false, forceSimulateAll := false,
      timedStatePaths := [], results := fun _ => result, log := [] }
  threads := fun _ => World.newSimState false

/-- A callback at a time, with or without a collision. -/
def callback (time : ℚ) (collision : Bool) : StepInput ℚ Bool := ⟨collision, time, time, false⟩

/-- Each of two threads takes one of two targets. -/
def takeBoth : List (World.Action Bool ℚ Bool) :=
  [.stepCB true (callback 0 false), .stepCB false (callback 0 false)]

/-- One target is approached, grasped and lifted; then both threads stop. -/
def liftOne : List (World.Action Bool ℚ Bool) :=
  ([0, 0, 1, 1, 1, 3, 3, 3, 3, 3, 3, 3, 3, 3].map fun time => .stepCB true (callback time false)) ++
    [.stepCB false (callback 3 false)]

end Sample

end Gripperz.Simulation
