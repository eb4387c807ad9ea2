import Gripperz.Simulation.Dealing

/-! # Results and statistics over a run

What the log says about a target is what its result holds, as long as no two targets
share a result; and the counters and the statistics count the events of the log.
-/
namespace Gripperz.Simulation
open Math Grasps Library

variable {ι R G V S : Type} [DecidableEq ι] [DecidableEq G] [DecidableEq V] [Field R]
  [LinearOrder R] [Group G] [AddCommGroup V] [Module R V] [DistribMulAction G V]

variable {wc : WorkCell R G V S} {grader : Grader R G V} {input : StepInput R S}
  {promise : Promise} {task : GraspTask R G V} {scene : Scene R S}

/-! ## The targets of a run -/

/-- The run is a run of the pool on the targets of the task set. -/
structure Tracked (wc : WorkCell R G V S) (scene : Scene R S) (promise : Promise)
    (task : GraspTask R G V) (w : World ι R G V S) : Prop where
  same : w.sim.scene = scene
  orderly : w.pool.Orderly (lifecycle wc scene promise)
  jobs : w.pool.dealt ++ w.pool.waiting = targetPtrs task

namespace Tracked

omit [DecidableEq ι] [LinearOrder R] [Module R V] in
theorem mem_of_dealt {w : World ι R G V S} (h : Tracked wc scene promise task w)
    {p : TargetPtr G V} (hp : p ∈ w.pool.dealt) : p ∈ targetPtrs task := by
  rw [← h.jobs]
  exact List.mem_append_left _ hp

omit [DecidableEq ι] [LinearOrder R] [Module R V] in
theorem launched {w : World ι R G V S} (h : Launched task w)
    (hheld : ∀ t, (w.threads t).target = none) : Tracked wc w.sim.scene promise task w := by
  have hwaiting : w.pool.waiting = targetPtrs task := congrArg (List.map Prod.snd) h.queue
  have hdealt : w.pool.dealt = [] := by simp [World.pool, h.log]
  constructor
  · rfl
  · apply Pool.Orderly.start
    · exact hwaiting ▸ nodup_targetPtrs task
    · exact hdealt
    · exact hheld
    · exact h.log
  · rw [hdealt, hwaiting, List.nil_append]

omit [Module R V] in
theorem move (w : World ι R G V S) {c c' : Call ι R G V S}
    (h : Tracked wc scene promise task (w.during c)) (hmove : c.Move wc grader input promise c') :
    Tracked wc scene promise task (w.during c') := by
  have hstep := World.pool_move w hmove
  have hscene : c.sim.scene = scene := h.same
  rw [hscene] at hstep
  constructor
  · rw [← hscene]
    rcases Call.move_cases hmove with ⟨_, hshift, _⟩ | ⟨_, _, _, hdeal, _⟩
    · exact hshift.scene
    · exact hdeal.scene
  · exact h.orderly.step hstep
  · exact hstep.jobs.trans h.jobs

omit [DecidableEq ι] [LinearOrder R] [Module R V] in
theorem request {w : World ι R G V S} (h : Tracked wc scene promise task w) (b : Bool) :
    Tracked wc scene promise task { w with sim := { w.sim with requestSimulationStop := b } } :=
  ⟨h.same, h.orderly, h.jobs⟩

section
omit [LinearOrder R] [Module R V]

theorem held (w : World ι R G V S) {c : Call ι R G V S}
    (h : Tracked wc scene promise task (w.during c)) {p : TargetPtr G V}
    (hp : c.own.target = some p) : p ∈ targetPtrs task ∧
      (lifecycle wc scene promise).Life c.own.stage (trace p c.sim.log) := by
  have hheld : (w.during c).pool.held c.thread = some p := by
    simpa [World.pool, World.during] using hp
  have hstage : (w.during c).pool.stage c.thread = c.own.stage := by
    simp [World.pool, World.during]
  obtain ⟨hdealt, hlife⟩ := h.orderly.holds c.thread p hheld
  rw [hstage] at hlife
  exact ⟨h.mem_of_dealt hdealt, hlife⟩

theorem approaching (w : World ι R G V S) {c : Call ι R G V S}
    (h : Tracked wc scene promise task (w.during c)) {p : TargetPtr G V}
    (hp : c.own.target = some p) (hst : c.own.currentState = .approach) :
    ∃ s : Setup wc, trace p c.sim.log = s.events scene := by
  have hlife := (h.held w hp).2
  rw [SimState.stage_of_approach hst] at hlife
  have hopen := open_of_life hlife (by simp)
  generalize trace p c.sim.log = es at hopen
  cases hopen with
  | approach s => exact ⟨s, rfl⟩

theorem grasping (w : World ι R G V S) {c : Call ι R G V S}
    (h : Tracked wc scene promise task (w.during c)) {p : TargetPtr G V}
    (hp : c.own.target = some p) (hst : c.own.currentState = .grasping) :
    ∃ s : Approach wc, trace p c.sim.log = s.events scene := by
  have hlife := (h.held w hp).2
  rw [SimState.stage_of_grasping hst] at hlife
  have hopen := open_of_life hlife (by simp)
  generalize trace p c.sim.log = es at hopen
  cases hopen with
  | grasping s => exact ⟨s, rfl⟩

theorem lifting (w : World ι R G V S) {c : Call ι R G V S}
    (h : Tracked wc scene promise task (w.during c)) {p : TargetPtr G V}
    (hp : c.own.target = some p) (hst : c.own.currentState = .lifting) :
    ∃ s : Grasp wc scene, trace p c.sim.log = s.events := by
  have hlife := (h.held w hp).2
  rw [SimState.stage_of_lifting hst] at hlife
  have hopen := open_of_life hlife (by simp)
  generalize trace p c.sim.log = es at hopen
  generalize c.own.postLiftObjState = closed at hopen
  cases hopen with
  | lifting s => exact ⟨s, rfl⟩

/-- The next target has not been touched yet. -/
theorem next (w : World ι R G V S) {c : Call ι R G V S}
    (h : Tracked wc scene promise task (w.during c)) {subtask : SubTaskPtr R G V}
    {p : TargetPtr G V} {rest : List (SubTaskPtr R G V × TargetPtr G V)}
    (hq : c.sim.taskQueue = (subtask, p) :: rest) :
    p ∈ targetPtrs task ∧ trace p c.sim.log = [] := by
  have hwaiting : p ∈ (w.during c).pool.waiting := by
    simp [World.pool, World.during, hq]
  constructor
  · rw [← h.jobs]
    exact List.mem_append_right _ hwaiting
  · exact h.orderly.waiting p hwaiting

end

end Tracked

/-! ## Results -/

/-- The result holds what an event says was written to it. -/
def Happening.ShownBy (r : GraspResult R G V) : Happening R G V → Prop
  | .setUp pose => r.objectTtcpTarget = pose
  | .approached pose => r.objectTtcpApproach = pose
  | .grasped quality contacts => r.qualityBeforeLifting = quality ∧ r.contactsGrasp = contacts
  | .lifted quality grasp lift =>
    r.qualityAfterLifting = quality ∧ r.objectTtcpGrasp = grasp ∧ r.objectTtcpLift = lift
  | _ => True

omit [DecidableEq G] [DecidableEq V] [Field R] [LinearOrder R] [Group G] [AddCommGroup V]
  [Module R V] [DistribMulAction G V] in
theorem shownBy_status {e : Happening R G V} {r : GraspResult R G V} {s : TestStatus} :
    e.ShownBy { r with testStatus := s } ↔ e.ShownBy r := by
  cases e <;> rfl

/-- The last status a target was left with. -/
def lastFinal (es : List (Happening R G V)) : Option TestStatus :=
  (es.filterMap Happening.final).getLast?

omit [DecidableEq G] [DecidableEq V] [Field R] [LinearOrder R] [Group G] [AddCommGroup V]
  [Module R V] [DistribMulAction G V] in
theorem lastFinal_append {es : List (Happening R G V)} {e : Happening R G V} {s : TestStatus}
    (h : e.final = some s) : lastFinal (es ++ [e]) = some s := by
  simp [lastFinal, List.filterMap_append, h]

/-- A result agrees with the events of its target. -/
structure Shows (es : List (Happening R G V)) (r : GraspResult R G V) : Prop where
  written : ∀ e ∈ es, e.ShownBy r
  status : ∀ s, lastFinal es = some s → r.testStatus = s

/-- Every result of the task set agrees with the log. -/
def Shown (task : GraspTask R G V) (w : World ι R G V S) : Prop :=
  ∀ p ∈ targetPtrs task, Shows (trace p w.sim.log) (w.sim.results p.target.result)

section
omit [DecidableEq G] [DecidableEq V] [Field R] [LinearOrder R] [Group G] [AddCommGroup V]
  [Module R V] [DistribMulAction G V]

theorem result_ne (distinct : task.DistinctResults) {p p' : TargetPtr G V}
    (hp : p ∈ targetPtrs task) (hp' : p' ∈ targetPtrs task) (hne : p' ≠ p) :
    p'.target.result ≠ p.target.result := by
  have hnodup : ((targetPtrs task).map fun p => p.target.result).Nodup := by
    rw [GraspTask.DistinctResults, ← map_target_targetPtrs, List.map_map] at distinct
    exact distinct
  exact fun heq => hne (List.inj_on_of_nodup_map hnodup hp' hp heq)

theorem Shows.of_same {es : List (Happening R G V)} {r r' : GraspResult R G V} (h : Shows es r)
    (status : r'.testStatus = r.testStatus) (written : ∀ e ∈ es, e.ShownBy r → e.ShownBy r') :
    Shows es r' where
  written e he := written e he (h.written e he)
  status s hs := status.trans (h.status s hs)

/-- An event is added and what it says is written. -/
theorem Shows.push {es : List (Happening R G V)} {r r' : GraspResult R G V} (h : Shows es r)
    {e : Happening R G V} (final : e.final = none) (status : r'.testStatus = r.testStatus)
    (written : ∀ e' ∈ es, e'.ShownBy r → e'.ShownBy r') (shown : e.ShownBy r') :
    Shows (es ++ [e]) r' where
  written e' he' := by
    rcases List.mem_append.mp he' with he' | he'
    · exact written e' he' (h.written e' he')
    · exact List.mem_singleton.mp he' ▸ shown
  status s hs := by
    apply status.trans (h.status s _)
    simpa [lastFinal, List.filterMap_append, final] using hs

/-- The target is left with the status of its result. -/
theorem Shows.finish {es : List (Happening R G V)} {r r' : GraspResult R G V} (h : Shows es r)
    (written : ∀ e ∈ es, e.ShownBy r → e.ShownBy r') (k : Counter) (status : TestStatus) :
    Shows (es ++ [.finished k status r'.testStatus]) r' where
  written e he := by
    rcases List.mem_append.mp he with he | he
    · exact written e he (h.written e he)
    · rw [List.mem_singleton.mp he]
      trivial
  status s hs := by
    rw [lastFinal_append rfl] at hs
    exact Option.some.inj hs

end

omit [Field R] [LinearOrder R] [Group G] [AddCommGroup V] [Module R V] [DistribMulAction G V] in
theorem shown_edit (w : World ι R G V S) {c c' : Call ι R G V S} (distinct : task.DistinctResults)
    (h : Shown task (w.during c)) {q : Option (TargetPtr G V)} {es : List (Happening R G V)}
    (loaded : ∀ p, q = some p → p ∈ targetPtrs task)
    (log : c'.sim.log = c.sim.log ++ entries c.thread q es)
    (frame : ∀ ptr, (∀ p, q = some p → ptr ≠ p.target.result) →
      c'.sim.results ptr = c.sim.results ptr)
    (shows : ∀ p, q = some p → Shows (trace p c.sim.log) (c.sim.results p.target.result) →
      Shows (trace p c.sim.log ++ es) (c'.sim.results p.target.result)) :
    Shown task (w.during c') := by
  intro p hp
  change Shows (trace p c'.sim.log) (c'.sim.results p.target.result)
  have hold : Shows (trace p c.sim.log) (c.sim.results p.target.result) := h p hp
  rw [log, trace_append]
  by_cases hq : q = some p
  · rw [hq, trace_entries_self]
    exact shows p hq hold
  · rw [trace_entries_of_ne c.thread hq, List.append_nil, frame]
    · exact hold
    · intro p' hp'
      have hne : p ≠ p' := fun heq => hq (heq ▸ hp')
      exact result_ne distinct (loaded p' hp') hp hne

namespace Call

section
omit [DecidableEq ι] [DecidableEq G] [DecidableEq V] [Field R] [LinearOrder R] [Group G]
  [AddCommGroup V] [Module R V] [DistribMulAction G V]

theorem edit_frame (e : GraspResult R G V → GraspResult R G V) (c : Call ι R G V S)
    (ptr : ResultPtr) (h : ∀ p, c.own.target = some p → ptr ≠ p.target.result) :
    (c.edit e).sim.results ptr = c.sim.results ptr := by
  unfold edit
  cases ht : c.own.target with
  | none => rfl
  | some p => exact Results.edit_of_ne _ _ (h p ht)

theorem ne_target {c : Call ι R G V S} {p : TargetPtr G V} (h : c.own.target = some p)
    {ptr : ResultPtr} (hptr : ptr ≠ p.target.result) :
    ∀ q, c.own.target = some q → ptr ≠ q.target.result := by
  intro q hq
  rw [h] at hq
  exact Option.some.inj hq ▸ hptr

theorem edit_target (e : GraspResult R G V → GraspResult R G V) {c : Call ι R G V S}
    {p : TargetPtr G V} (h : c.own.target = some p) :
    (c.edit e).sim.results p.target.result = e (c.sim.results p.target.result) := by
  simp [edit, h]

end

omit [DecidableEq ι] [DecidableEq G] [DecidableEq V] [Field R] [LinearOrder R] [Module R V] in
theorem results_reachApproach (c : Call ι R G V S) : (c.reachApproach wc input).sim.results =
    (c.edit fun r =>
      { r with objectTtcpApproach := objectPose wc c.sim.scene input.state }).sim.results := rfl

omit [DecidableEq ι] [DecidableEq G] [DecidableEq V] [LinearOrder R] [Group G] [AddCommGroup V]
  [Module R V] [DistribMulAction G V] in
theorem results_beginLift (c : Call ι R G V S) : (c.beginLift wc input).sim.results =
    (c.edit fun r => { r with
      qualityBeforeLifting := wc.calcGraspQuality c.sim.hand c.sim.objects input.state
      contactsGrasp := (wc.getObjectContacts c.sim.hand c.sim.objects input.state).contacts
      }).sim.results := rfl

omit [DecidableEq ι] [DecidableEq G] [DecidableEq V] [Field R] [LinearOrder R] [Module R V] in
theorem results_setUp (nstate : S) (c : Call ι R G V S) :
    (c.setUp wc input nstate).sim.results =
      (c.edit fun r => { r with objectTtcpTarget := c.setupPose wc nstate }).sim.results := rfl

omit [DecidableEq ι] [DecidableEq G] [DecidableEq V] [Field R] [LinearOrder R] [Group G]
  [AddCommGroup V] [Module R V] [DistribMulAction G V] in
theorem results_collide (nstate : S) (c : Call ι R G V S) : (c.collide wc nstate).sim.results =
    (c.edit fun r => { r with
      testStatus := c.initialCollision wc nstate
      gripperConfigurationGrasp := c.own.openQ }).sim.results := rfl

omit [DecidableEq ι] [DecidableEq G] [DecidableEq V] [LinearOrder R] [Module R V] in
theorem results_beginApproach (nstate : S) (c : Call ι R G V S) :
    (c.beginApproach wc nstate).sim.results = c.sim.results := rfl

end Call

omit [Module R V] in
theorem shown_finish (w : World ι R G V S) {c : Call ι R G V S} (distinct : task.DistinctResults)
    (htracked : Tracked wc scene promise task (w.during c)) (h : Shown task (w.during c))
    (k : Counter) (status : TestStatus) (e : GraspResult R G V → GraspResult R G V)
    (written : ∀ p, c.own.target = some p → ∀ e' ∈ trace p c.sim.log,
      ∀ r, e'.ShownBy r → e'.ShownBy (e r)) :
    Shown task (w.during (c.finish wc grader k status e)) := by
  rw [Call.finish_eq]
  apply shown_edit w distinct h (fun p hp => (htracked.held w hp).1) rfl
  · intro ptr hptr
    exact Call.edit_frame _ c ptr hptr
  · intro p hp hshows
    have hresult := Call.edit_target (c.finishEdit wc grader status e) hp
    have hfinal : c.finalStatus wc grader status e =
        (c.finishEdit wc grader status e (c.sim.results p.target.result)).testStatus := by
      simp [Call.finalStatus, Call.finishEdit, hp]
    rw [hresult, hfinal]
    apply hshows.finish
    intro e' he' hr
    have hwritten := written p hp e' he' _ hr
    cases e' <;> exact hwritten

omit [Field R] [LinearOrder R] [Group G] [AddCommGroup V] [Module R V] [DistribMulAction G V] in
theorem shown_quiet (w : World ι R G V S) {c c' : Call ι R G V S} (h : Shown task (w.during c))
    (hquiet : c.Quiet c') : Shown task (w.during c') := by
  obtain ⟨paths, hsim⟩ := hquiet.sim
  intro p hp
  have hlog : c'.sim.log = c.sim.log := by simp [hsim]
  have hresults : c'.sim.results = c.sim.results := by simp [hsim]
  change Shows (trace p c'.sim.log) (c'.sim.results p.target.result)
  rw [hlog, hresults]
  exact h p hp

section
omit [LinearOrder R] [Module R V]

theorem shown_configure (w : World ι R G V S) {c : Call ι R G V S}
    (distinct : task.DistinctResults) (htracked : Tracked wc scene promise task (w.during c))
    (h : Shown task (w.during c)) (q : Q R) :
    Shown task (w.during (c.edit fun r => { r with gripperConfigurationGrasp := q })) := by
  apply shown_edit w distinct h (fun p hp => (htracked.held w hp).1) (Call.shift_configure q c).log
  · intro ptr hptr
    exact Call.edit_frame _ c ptr hptr
  · intro p hp hshows
    rw [Call.edit_target _ hp, List.append_nil]
    refine hshows.of_same rfl fun e _ he => ?_
    cases e <;> exact he

theorem shown_approach (w : World ι R G V S) {c : Call ι R G V S}
    (distinct : task.DistinctResults) (htracked : Tracked wc scene promise task (w.during c))
    (h : Shown task (w.during c)) (happroach : c.own.currentState = .approach) :
    Shown task (w.during (c.reachApproach wc input)) := by
  apply shown_edit w distinct h (fun p hp => (htracked.held w hp).1) (Call.shift_approach c).log
  · intro ptr hptr
    rw [Call.results_reachApproach, Call.edit_frame _ c ptr hptr]
  · intro p hp hshows
    obtain ⟨s, hs⟩ := htracked.approaching w hp happroach
    rw [Call.results_reachApproach, Call.edit_target _ hp]
    refine hshows.push rfl rfl ?_ ?_
    · rw [hs]
      intro e he hr
      simp only [Setup.events, List.mem_cons, List.not_mem_nil, or_false] at he
      rcases he with rfl | rfl <;> exact hr
    · rfl

theorem shown_grasp (w : World ι R G V S) {c : Call ι R G V S}
    (distinct : task.DistinctResults) (htracked : Tracked wc scene promise task (w.during c))
    (h : Shown task (w.during c)) (hgrasping : c.own.currentState = .grasping) :
    Shown task (w.during (c.beginLift wc input)) := by
  apply shown_edit w distinct h (fun p hp => (htracked.held w hp).1) (Call.shift_grasp c).log
  · intro ptr hptr
    rw [Call.results_beginLift, Call.edit_frame _ c ptr hptr]
  · intro p hp hshows
    obtain ⟨s, hs⟩ := htracked.grasping w hp hgrasping
    rw [Call.results_beginLift, Call.edit_target _ hp]
    refine hshows.push rfl rfl ?_ ?_
    · rw [hs]
      intro e he hr
      simp only [Approach.events, Setup.events, List.cons_append, List.nil_append, List.mem_cons,
        List.not_mem_nil, or_false] at he
      rcases he with rfl | rfl | rfl <;> exact hr
    · exact ⟨rfl, rfl⟩

end

omit [Module R V] in
theorem shown_lift (w : World ι R G V S) {c : Call ι R G V S} (distinct : task.DistinctResults)
    (htracked : Tracked wc scene promise task (w.during c)) (h : Shown task (w.during c))
    (hlifting : c.own.currentState = .lifting) (object : String) (k : Counter)
    (status : TestStatus) (x : R) :
    Shown task (w.during (c.lift wc grader input object k status x)) := by
  rw [Call.lift_eq]
  apply shown_edit w distinct h (fun p hp => (htracked.held w hp).1) rfl
  · intro ptr hptr
    exact Call.edit_frame _ c ptr hptr
  · intro p hp hshows
    obtain ⟨s, hs⟩ := htracked.lifting w hp hlifting
    have hresult := Call.edit_target (c.liftEdit wc grader input object status x) hp
    have hfinal : c.liftStatus wc grader input object status =
        (c.liftEdit wc grader input object status x
          (c.sim.results p.target.result)).testStatus := by
      simp [Call.liftStatus, Call.liftEdit, hp]
    rw [hresult, hfinal]
    have hlifted : Shows (trace p c.sim.log ++
        [.lifted (wc.calcGraspQuality c.sim.hand c.sim.objects input.state)
          (wc.frameTframe c.sim.tcp object c.own.postLiftObjState)⁻¹
          (wc.frameTframe c.sim.tcp object input.state)⁻¹])
        { c.liftEdit wc grader input object status x (c.sim.results p.target.result) with
          testStatus := (c.sim.results p.target.result).testStatus } := by
      refine hshows.push rfl rfl ?_ ?_
      · rw [hs]
        intro e he hr
        simp only [Grasp.events, Approach.events, Setup.events, List.cons_append,
          List.nil_append, List.mem_cons, List.not_mem_nil, or_false] at he
        rcases he with rfl | rfl | rfl | rfl <;> exact hr
      · exact ⟨rfl, rfl, rfl⟩
    have hfinished : Shows (_ ++ [.finished k status _])
        (c.liftEdit wc grader input object status x (c.sim.results p.target.result)) :=
      hlifted.finish (fun e _ he => shownBy_status.mp he) k status
    simpa using hfinished

omit [Field R] [LinearOrder R] [Group G] [AddCommGroup V] [Module R V] [DistribMulAction G V] in
theorem shown_dealt (w : World ι R G V S) {c c' : Call ι R G V S} (distinct : task.DistinctResults)
    (h : Shown task (w.during c)) {p : TargetPtr G V} {es : List (Happening R G V)}
    (loaded : p ∈ targetPtrs task)
    (log : c'.sim.log = c.sim.log ++ entries c.thread (some p) es)
    (frame : ∀ ptr, ptr ≠ p.target.result → c'.sim.results ptr = c.sim.results ptr)
    (shows : Shows (trace p c.sim.log ++ es) (c'.sim.results p.target.result)) :
    Shown task (w.during c') := by
  apply shown_edit w distinct h _ log
  · intro ptr hptr
    exact frame ptr (hptr p rfl)
  · intro q hq _
    cases hq
    exact shows
  · intro q hq
    cases hq
    exact loaded

omit [Module R V] in
theorem shown_move (w : World ι R G V S) {c c' : Call ι R G V S} (distinct : task.DistinctResults)
    (htracked : Tracked wc scene promise task (w.during c)) (h : Shown task (w.during c))
    (hmove : c.Move wc grader input promise c') : Shown task (w.during c') := by
  cases hmove with
  | quiet hquiet => exact shown_quiet w h hquiet
  | configure hgrasping q => exact shown_configure w distinct htracked h q
  | abort habort once assigned =>
    apply shown_finish w distinct htracked h
    intro p _ e _ r he
    cases e <;> exact he
  | approach happroach => exact shown_approach w distinct htracked h happroach
  | miss hgrasping =>
    apply shown_finish w distinct htracked h
    intro p hp e he r hr
    obtain ⟨s, hs⟩ := htracked.grasping w hp hgrasping
    simp only [hs, Approach.events, Setup.events, List.cons_append, List.nil_append,
      List.mem_cons, List.not_mem_nil, or_false] at he
    rcases he with rfl | rfl | rfl <;> exact hr
  | grasp hgrasping closed touching => exact shown_grasp w distinct htracked h hgrasping
  | drop hlifting =>
    apply shown_finish w distinct htracked h
    intro p hp e he r hr
    obtain ⟨s, hs⟩ := htracked.lifting w hp hlifting
    simp only [hs, Grasp.events, Approach.events, Setup.events, List.cons_append,
      List.nil_append, List.mem_cons, List.not_mem_nil, or_false] at he
    rcases he with rfl | rfl | rfl | rfl <;> exact hr
  | lift hlifting object x hs touching graded =>
    exact shown_lift w distinct htracked h hlifting object _ _ x
  | stop hnew hq =>
    rw [Call.getNextTarget_nil hq]
    exact h
  | @skip hnew subtask p rest hq set =>
    obtain ⟨hloaded, hfresh⟩ := htracked.next w hq
    have hdeal := (Call.taken_take hq).skip hnew (c.sim.results p.target.result).testStatus
    apply shown_dealt w distinct h hloaded hdeal.log
    · intro ptr _
      rfl
    · rw [hfresh]
      exact ⟨by simp [Happening.ShownBy], fun s hs => Option.some.inj hs⟩
  | @collide hnew subtask p rest hq nstate unset =>
    obtain ⟨hloaded, hfresh⟩ := htracked.next w hq
    have hdeal := ((Call.taken_take hq).setUp wc input nstate).collide wc hnew nstate
    set c₁ := (c.take subtask p rest).setPoses wc p
    set c₂ := c₁.setUp wc input nstate
    have hp : c₂.own.target = some p := rfl
    have hp₁ : c₁.own.target = some p := rfl
    apply shown_dealt w distinct h hloaded hdeal.log
    · intro ptr hptr
      rw [Call.results_collide, Call.edit_frame _ c₂ ptr (Call.ne_target hp hptr),
        Call.results_setUp, Call.edit_frame _ c₁ ptr (Call.ne_target hp₁ hptr)]
      rfl
    · rw [hfresh, Call.results_collide, Call.edit_target _ hp]
      exact ⟨by simp [Happening.ShownBy], fun s hs => Option.some.inj hs⟩
  | @begin hnew subtask p rest hq nstate unset free =>
    obtain ⟨hloaded, hfresh⟩ := htracked.next w hq
    have hdeal := ((Call.taken_take hq).setUp wc input nstate).beginApproach wc hnew nstate
    set c₁ := (c.take subtask p rest).setPoses wc p
    have hp : c₁.own.target = some p := rfl
    apply shown_dealt w distinct h hloaded hdeal.log
    · intro ptr hptr
      rw [Call.results_beginApproach, Call.results_setUp,
        Call.edit_frame _ c₁ ptr (Call.ne_target hp hptr)]
      rfl
    · rw [hfresh, Call.results_beginApproach, Call.results_setUp, Call.edit_target _ hp]
      constructor
      · simp only [List.nil_append, List.mem_cons, List.not_mem_nil, or_false, forall_eq_or_imp,
          forall_eq]
        exact ⟨trivial, rfl⟩
      · intro s hs
        cases hs

omit [DecidableEq ι] [LinearOrder R] [Module R V] [DistribMulAction G V] in
theorem shown_launched {w : World ι R G V S} (h : Launched task w) : Shown task w := by
  intro p _
  rw [h.log]
  exact ⟨by simp, fun s hs => by cases hs⟩

variable {cond : StepInput R S → Call ι R G V S → Prop}

theorem tracked_run (promise : Promise) {w w' : World ι R G V S}
    (keeps : ∀ (w : World ι R G V S) t input, cond input (w.call t) →
      (w.call t).Keeps wc grader input promise)
    (run : World.Run wc grader cond w w') (h : Tracked wc scene promise task w) :
    Tracked wc scene promise task w' := by
  apply World.Run.invariant promise _ _ _ run h
  · intro w t input _ hcond
    exact keeps w t input hcond
  · intro w c c' input htracked hmove
    exact htracked.move w hmove
  · intro w b htracked
    exact htracked.request b

/-- Over every run the results agree with the log. -/
theorem shown_run (promise : Promise) {w w' : World ι R G V S}
    (keeps : ∀ (w : World ι R G V S) t input, cond input (w.call t) →
      (w.call t).Keeps wc grader input promise)
    (distinct : task.DistinctResults) (run : World.Run wc grader cond w w')
    (htracked : Tracked wc scene promise task w) (h : Shown task w) : Shown task w' := by
  have hboth : Tracked wc scene promise task w' ∧ Shown task w' := by
    apply World.Run.invariant promise _ _ _ run (And.intro htracked h)
    · intro w t input _ hcond
      exact keeps w t input hcond
    · intro w c c' input hP hmove
      exact ⟨hP.1.move w hmove, shown_move w distinct hP.1 hP.2 hmove⟩
    · intro w b hP
      exact ⟨hP.1.request b, hP.2⟩
  exact hboth.2

/-! ## Counters and statistics -/

/-- The event increments the counter. -/
def Happening.counts (k : Counter) : Happening R G V → Bool
  | .skipped _ => k = .skipped
  | .collided _ => k = .collision
  | .finished k' _ _ => k = k'
  | _ => false

/-- The event increments the entry of the statistics. -/
def Happening.tallies (s : TestStatus) : Happening R G V → Bool
  | .skipped status => status.inStatusArray && s = status
  | .collided status => s = status
  | .finished _ status _ => s = status
  | _ => false

/-- Counters and statistics have grown by the events of the log. -/
structure Counted (base w : World ι R G V S) : Prop where
  counters : ∀ k, w.sim.counters k =
    base.sim.counters k + w.sim.log.countP fun e => e.what.counts k
  stat : ∀ s, w.sim.stat s = base.sim.stat s + w.sim.log.countP fun e => e.what.tallies s

omit [DecidableEq G] [DecidableEq V] [Field R] [LinearOrder R] [Group G] [AddCommGroup V]
  [Module R V] [DistribMulAction G V] in
theorem counted_log {base : World ι R G V S} (w : World ι R G V S) {c c' : Call ι R G V S}
    (h : Counted base (w.during c)) {q : Option (TargetPtr G V)} {es : List (Happening R G V)}
    (log : c'.sim.log = c.sim.log ++ entries c.thread q es)
    (counters : ∀ k, c'.sim.counters k = c.sim.counters k + es.countP (Happening.counts k))
    (stat : ∀ s, c'.sim.stat s = c.sim.stat s + es.countP (Happening.tallies s)) :
    Counted base (w.during c') := by
  have hcount (f : Happening R G V → Bool) :
      c'.sim.log.countP (fun e => f e.what) =
        c.sim.log.countP (fun e => f e.what) + es.countP f := by
    rw [log, List.countP_append]
    congr 1
    simp [entries, List.countP_map, Function.comp_def]
  constructor
  · intro k
    have hold : c.sim.counters k = _ := h.counters k
    change c'.sim.counters k = base.sim.counters k + c'.sim.log.countP _
    rw [counters, hold, hcount, Nat.add_assoc]
    rfl
  · intro s
    have hold : c.sim.stat s = _ := h.stat s
    change c'.sim.stat s = base.sim.stat s + c'.sim.log.countP _
    rw [stat, hold, hcount, Nat.add_assoc]
    rfl

theorem update_succ {α : Type} [DecidableEq α] (f : α → ℕ) (a b : α) :
    Function.update f a (f a + 1) b = f b + if b = a then 1 else 0 := by
  by_cases h : b = a
  · simp [h]
  · simp [h]

omit [DecidableEq G] [DecidableEq V] [Group G] [AddCommGroup V] [Module R V] [DistribMulAction G V]
  in
theorem counted_finish {base : World ι R G V S} (w : World ι R G V S) {c : Call ι R G V S}
    (h : Counted base (w.during c)) (k : Counter) (status : TestStatus)
    (e : GraspResult R G V → GraspResult R G V) :
    Counted base (w.during (c.finish wc grader k status e)) := by
  rw [Call.finish_eq]
  apply counted_log w h rfl
  · intro k'
    simp [update_succ, List.countP_cons, Happening.counts]
  · intro s
    simp [update_succ, List.countP_cons, Happening.tallies]

omit [DecidableEq G] [DecidableEq V] [Module R V] in
theorem counted_move {base : World ι R G V S} (w : World ι R G V S) {c c' : Call ι R G V S}
    (h : Counted base (w.during c)) (hmove : c.Move wc grader input promise c') :
    Counted base (w.during c') := by
  cases hmove with
  | quiet hquiet =>
    obtain ⟨paths, hsim⟩ := hquiet.sim
    apply counted_log w h hquiet.shift.log <;> simp [hsim]
  | configure hgrasping q =>
    exact counted_log w h (Call.shift_configure q c).log (fun _ => rfl) fun _ => rfl
  | abort habort once assigned => exact counted_finish w h _ _ _
  | approach happroach =>
    exact counted_log w h (Call.shift_approach c).log (fun _ => rfl) fun _ => rfl
  | miss hgrasping => exact counted_finish w h _ _ _
  | grasp hgrasping closed touching =>
    exact counted_log w h (Call.shift_grasp c).log (fun _ => rfl) fun _ => rfl
  | drop hlifting => exact counted_finish w h _ _ _
  | lift hlifting object x hs touching graded =>
    rw [Call.lift_eq]
    apply counted_log w h rfl
    · intro k'
      simp [update_succ, List.countP_cons, Happening.counts]
    · intro s
      simp [update_succ, List.countP_cons, Happening.tallies]
  | stop hnew hq =>
    rw [Call.getNextTarget_nil hq]
    exact ⟨h.counters, h.stat⟩
  | @skip hnew subtask p rest hq set =>
    have hdeal := (Call.taken_take hq).skip hnew (c.sim.results p.target.result).testStatus
    apply counted_log w h hdeal.log
    · intro k
      change Function.update c.sim.counters .skipped (c.sim.counters .skipped + 1) k = _
      simp [update_succ, List.countP_cons, Happening.counts]
    · intro s
      set status := (c.sim.results p.target.result).testStatus
      change (if status.inStatusArray then Function.update c.sim.stat status _
        else c.sim.stat) s = _
      cases hin : status.inStatusArray
      · simp [Happening.tallies, hin]
      · change Function.update c.sim.stat status (c.sim.stat status + 1) s = _
        simp [update_succ, List.countP_cons, Happening.tallies, hin]
  | @collide hnew subtask p rest hq nstate unset =>
    have hdeal := ((Call.taken_take hq).setUp wc input nstate).collide wc hnew nstate
    set status := (((c.take subtask p rest).setPoses wc p).setUp wc input nstate).initialCollision
      wc nstate
    apply counted_log w h hdeal.log
    · intro k
      change Function.update c.sim.counters .collision (c.sim.counters .collision + 1) k = _
      simp [update_succ, List.countP_cons, Happening.counts]
    · intro s
      change Function.update c.sim.stat status (c.sim.stat status + 1) s = _
      simp [update_succ, List.countP_cons, Happening.tallies]
  | @begin hnew subtask p rest hq nstate unset free =>
    have hdeal := ((Call.taken_take hq).setUp wc input nstate).beginApproach wc hnew nstate
    exact counted_log w h hdeal.log (fun _ => rfl) fun _ => rfl

omit [DecidableEq G] [DecidableEq V] in
/-- Over every run the counters and statistics count the log. -/
theorem counted_run {base w w' : World ι R G V S} (run : World.Run wc grader cond w w')
    (h : Counted base w) : Counted base w' := by
  apply World.Run.invariant ⟨False, False, False⟩ _ _ _ run h
  · intro w t input _ _
    exact ⟨False.elim, False.elim, False.elim⟩
  · intro w c c' input hcounted hmove
    exact counted_move w hcounted hmove
  · intro w b hcounted
    exact ⟨hcounted.counters, hcounted.stat⟩

end Gripperz.Simulation
