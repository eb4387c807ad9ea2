import Gripperz.Simulation.Finalising

/-! # Lifted grasps

A grasp that is given the status of a lifted one has been set up without collision, has
reached its approach pose, has closed on an object and has been lifted with one, in this
run and for its own target. Its result holds what was measured on the way.
-/
namespace Gripperz.Simulation
open Math Grasps Library

variable {ι R G V S : Type} [DecidableEq ι] [DecidableEq G] [DecidableEq V] [Field R]
  [LinearOrder R] [Group G] [AddCommGroup V] [Module R V] [DistribMulAction G V]

variable {wc : WorkCell R G V S} {grader : Grader R G V} {input : StepInput R S}
  {promise : Promise} {task : GraspTask R G V}

omit [DecidableEq G] [DecidableEq V] [Field R] [LinearOrder R] [Group G] [AddCommGroup V]
  [Module R V] [DistribMulAction G V] in
/-- An object in the hand is in contact with it. -/
theorem contacts_of_object (wc : WorkCell R G V S) (hand : Device R S) (objects : List String)
    (state : S) (h : (wc.getObjectContacts hand objects state).object ≠ none) :
    (wc.getObjectContacts hand objects state).contacts ≠ [] := by
  have best (xs : List (GraspedObject R V)) (o : GraspedObject R V) (ho : 0 < o.contacts.length) :
      0 < (xs.foldl (fun best o => if best.contacts.length < o.contacts.length then o else best)
        o).contacts.length := by
    induction xs generalizing o with
    | nil => exact ho
    | cons x xs ih =>
      rw [List.foldl_cons]
      split
      · rename_i hlonger
        exact ih x (by omega)
      · exact ih o ho
  unfold WorkCell.getObjectContacts at h ⊢
  simp only at h ⊢
  split
  · rename_i hnone
    simp [hnone] at h
  · rename_i first rest hsome
    have hfirst : 0 < first.contacts.length := by
      have hmem := hsome ▸ List.mem_cons_self (l := rest)
      simpa using (List.mem_filter.mp hmem).2
    exact List.ne_nil_of_length_pos (best rest first hfirst)

/-! ## Grasp qualities -/

/-- The result of a lifted grasp holds all quality measures. -/
def Measured (r : GraspResult R G V) : Prop :=
  Regraded r.testStatus → r.qualityAfterLifting.size = WorkCell.nrOfQualityMeasures

omit [DecidableEq ι] [DecidableEq G] [DecidableEq V] [Field R] [LinearOrder R] [Group G]
  [AddCommGroup V] [Module R V] [DistribMulAction G V] in
theorem measured_edit {e : GraspResult R G V → GraspResult R G V}
    (he : ∀ r, Measured r → Measured (e r)) (c : Call ι R G V S) (ptr : ResultPtr)
    (h : Measured (c.sim.results ptr)) : Measured ((c.edit e).sim.results ptr) := by
  cases ht : c.own.target with
  | none =>
    rw [Call.edit_frame e c ptr (by simp [ht])]
    exact h
  | some p =>
    by_cases hptr : ptr = p.target.result
    · subst hptr
      rw [Call.edit_target e ht]
      exact he _ h
    · rw [Call.edit_frame e c ptr (Call.ne_target ht hptr)]
      exact h

omit [DecidableEq ι] [DecidableEq G] [DecidableEq V] [Field R] [LinearOrder R] [Group G]
  [AddCommGroup V] [Module R V] [DistribMulAction G V] in
theorem not_regraded_initialCollision (nstate : S) (c : Call ι R G V S) :
    ¬ Regraded (c.initialCollision wc nstate) := by
  rcases Call.initialCollision_cases nstate c with hs | hs <;> rw [hs] <;> intro hr <;> cases hr

/-- The results of the targets that were lifted in this run are measured. -/
def Lifts (w : World ι R G V S) : Prop :=
  ∀ e ∈ w.sim.log, ∀ p q g l, e.target = some p → e.what = .lifted q g l →
    Measured (w.sim.results p.target.result)

omit [DecidableEq ι] [DecidableEq G] [DecidableEq V] [Module R V] in
/-- Only a lift writes a lifted status, and it writes all measures. -/
theorem measured_move {c c' : Call ι R G V S} (hmove : c.Move wc grader input promise c')
    (ptr : ResultPtr) (h : Measured (c.sim.results ptr)) : Measured (c'.sim.results ptr) := by
  have hcut {k : Counter} {status : TestStatus} (hk : Cut k status)
      (e : GraspResult R G V → GraspResult R G V) :
      Measured ((c.finish wc grader k status e).sim.results ptr) := by
    rw [Call.finish_eq]
    apply measured_edit _ c ptr h
    intro r _ hregraded
    simp only [Call.finishEdit, Call.grade_of_cut hk] at hregraded
    exact absurd hregraded (not_lifted_of_cut hk)
  cases hmove with
  | quiet hquiet =>
    obtain ⟨paths, hsim⟩ := hquiet.sim
    rw [hsim]
    exact h
  | configure hgrasping q =>
    refine measured_edit (fun _ hr => ?_) c ptr h
    exact hr
  | abort habort once assigned => exact hcut (.aborted habort) _
  | approach happroach =>
    rw [Call.results_reachApproach]
    refine measured_edit (fun _ hr => ?_) c ptr h
    exact hr
  | miss hgrasping => exact hcut .missed _
  | grasp hgrasping closed touching =>
    rw [Call.results_beginLift]
    refine measured_edit (fun _ hr => ?_) c ptr h
    exact hr
  | drop hlifting => exact hcut .dropped _
  | lift hlifting object x hs touching graded =>
    rw [Call.lift_eq]
    exact measured_edit (fun _ _ _ => wc.size_calcGraspQuality _ _ _) c ptr h
  | stop hnew hq =>
    rw [Call.getNextTarget_nil hq]
    exact h
  | skip hnew hq set => exact h
  | collide hnew hq nstate unset =>
    rw [Call.results_collide]
    refine measured_edit (fun _ _ hr => ?_) _ ptr ?_
    · exact absurd hr (not_regraded_initialCollision nstate _)
    · rw [Call.results_setUp]
      refine measured_edit (fun _ hr => ?_) _ ptr h
      exact hr
  | begin hnew hq nstate unset free =>
    rw [Call.results_beginApproach, Call.results_setUp]
    refine measured_edit (fun _ hr => ?_) _ ptr h
    exact hr

omit [DecidableEq G] [DecidableEq V] [Module R V] in
theorem lifts_log (w : World ι R G V S) {c c' : Call ι R G V S} (h : Lifts (w.during c))
    (hmove : c.Move wc grader input promise c') {q : Option (TargetPtr G V)}
    {es : List (Happening R G V)} (log : c'.sim.log = c.sim.log ++ entries c.thread q es)
    (lifted : ∀ p, q = some p → (∃ quality grasp lift, .lifted quality grasp lift ∈ es) →
      Measured (c'.sim.results p.target.result)) : Lifts (w.during c') := by
  intro e he p quality grasp lift hp hwhat
  have hlog : (w.during c').sim.log = (w.during c).sim.log ++ _ := log
  rw [hlog, List.mem_append] at he
  rcases he with he | he
  · exact measured_move hmove _ (h e he p quality grasp lift hp hwhat)
  · obtain ⟨e', he', rfl⟩ := List.mem_map.mp he
    exact lifted p hp ⟨quality, grasp, lift, hwhat ▸ he'⟩

omit [DecidableEq G] [DecidableEq V] [Module R V] in
theorem lifts_move (w : World ι R G V S) {c c' : Call ι R G V S} (h : Lifts (w.during c))
    (hmove : c.Move wc grader input promise c') : Lifts (w.during c') := by
  have hcases := hmove
  cases hcases with
  | quiet hquiet => exact lifts_log w h hmove hquiet.shift.log (by simp)
  | configure hgrasping q => exact lifts_log w h hmove (Call.shift_configure q c).log (by simp)
  | abort habort once assigned =>
    exact lifts_log w h hmove (Call.shift_cut (.aborted habort) _ c).log (by simp)
  | approach happroach => exact lifts_log w h hmove (Call.shift_approach c).log (by simp)
  | miss hgrasping => exact lifts_log w h hmove (Call.shift_cut .missed _ c).log (by simp)
  | grasp hgrasping closed touching =>
    exact lifts_log w h hmove (Call.shift_grasp c).log (by simp)
  | drop hlifting => exact lifts_log w h hmove (Call.shift_cut .dropped _ c).log (by simp)
  | lift hlifting object x hs touching graded =>
    apply lifts_log w h hmove (Call.shift_lift object _ _ x c).log
    intro p hp _ _
    rw [Call.lift_eq, Call.edit_target _ hp]
    exact wc.size_calcGraspQuality _ _ _
  | stop hnew hq => exact lifts_log w h hmove (Call.shift_stop hnew hq).1.log (by simp)
  | skip hnew hq set =>
    exact lifts_log w h hmove ((Call.taken_take hq).skip hnew _).log (by simp)
  | collide hnew hq nstate unset =>
    have hdeal := ((Call.taken_take hq).setUp wc input nstate).collide wc hnew nstate
    exact lifts_log w h hmove hdeal.log (by simp)
  | begin hnew hq nstate unset free =>
    have hdeal := ((Call.taken_take hq).setUp wc input nstate).beginApproach wc hnew nstate
    exact lifts_log w h hmove hdeal.log (by simp)

/-! ## The stages of a lifted grasp -/

/-- The result of a target holds what was read at the stages of its own grasp. -/
structure HoldsStages {scene : Scene R S} (l : Lift wc scene) (r : GraspResult R G V) :
    Prop where
  target : r.objectTtcpTarget = objectPose wc scene l.nstate
  approach : r.objectTtcpApproach = objectPose wc scene l.reached
  before : r.qualityBeforeLifting = wc.calcGraspQuality scene.hand scene.objects l.closed
  contacts : r.contactsGrasp = (wc.getObjectContacts scene.hand scene.objects l.closed).contacts
  after : r.qualityAfterLifting = wc.calcGraspQuality scene.hand scene.objects l.raised
  grasp : r.objectTtcpGrasp = (wc.frameTframe scene.tcp l.object l.closed)⁻¹
  lift : r.objectTtcpLift = (wc.frameTframe scene.tcp l.object l.raised)⁻¹

omit [DecidableEq G] [DecidableEq V] [LinearOrder R] [Module R V] in
theorem holdsStages_of_shows {scene : Scene R S} {l : Lift wc scene}
    {es : List (Happening R G V)} {r : GraspResult R G V} (h : Shows (l.events ++ es) r) :
    HoldsStages l r := by
  have hwritten (e : Happening R G V) (he : e ∈ l.events) : e.ShownBy r :=
    h.written e (List.mem_append_left es he)
  simp only [Lift.events, Grasp.events, Approach.events, Setup.events, List.cons_append,
    List.nil_append, List.mem_cons, List.not_mem_nil, or_false, forall_eq_or_imp, forall_eq]
    at hwritten
  obtain ⟨-, htarget, happroach, hgrasp, hlift⟩ := hwritten
  exact ⟨htarget, happroach, hgrasp.1, hgrasp.2, hlift.1, hlift.2.1, hlift.2.2⟩

/-- In every run, a target that is finished with the status of a lifted grasp has gone
through all stages before anything else happened to it: a setup without collision, the end
of the approach, and grasping and lifting with an object in contact. Whenever its result
still has such a status, it holds three quality measures; and when no result is shared, the
result holds the poses, contacts and measures of these stages. -/
theorem lifted_grasp_stages (wc : WorkCell R G V S) (grader : Grader R G V)
    (task : GraspTask R G V) (below : Transform3D G V) (initState : S) (w₀ w : World ι R G V S)
    (fingers : (w₀.launch wc task below initState).sim.hand.suctionCup = none)
    (run : World.Run wc grader (fun _ _ => True) (w₀.launch wc task below initState) w)
    (p : TargetPtr G V) (hp : p ∈ targetPtrs task) (k : Counter) (status final : TestStatus)
    (finished : .finished k status final ∈ trace p w.sim.log)
    (lifted : Regraded status ∨ Regraded final) :
    ∃ l : Lift wc (w₀.launch wc task below initState).sim.scene,
      (∃ more, trace p w.sim.log = l.events ++ .finished k status final :: more) ∧
      wc.inCollision l.nstate = false ∧
      (wc.getObjectContacts w.sim.hand w.sim.objects l.closed).contacts ≠ [] ∧
      (wc.getObjectContacts w.sim.hand w.sim.objects l.raised).contacts ≠ [] ∧
      (wc.calcGraspQuality w.sim.hand w.sim.objects l.raised).size = 3 ∧
      (Regraded (w.sim.results p.target.result).testStatus →
        (w.sim.results p.target.result).qualityAfterLifting.size = 3) ∧
      (task.DistinctResults → HoldsStages l (w.sim.results p.target.result)) := by
  set start := w₀.launch wc task below initState
  have hlaunched : Launched task start := launched wc task below initState w₀
  have hne : task.targets ≠ [] := by
    intro hempty
    have hnone : targetPtrs task = [] := congrArg (List.map Prod.snd) (taskEntries_eq_nil hempty)
    rw [hnone] at hp
    cases hp
  obtain ⟨state, hthreads⟩ := hlaunched.threads hne
  have hheld (t : ι) : (start.threads t).target = none := by
    rw [hthreads]
    rfl
  have hkeeps (w : World ι R G V S) (t : ι) (input : StepInput R S) (_ : True) :
      (w.call t).Keeps wc grader input ⟨False, False, False⟩ :=
    ⟨False.elim, False.elim, False.elim⟩
  have hbegin : Tracked wc start.sim.scene ⟨False, False, False⟩ task start :=
    Tracked.launched hlaunched hheld
  have htracked := tracked_run _ hkeeps run hbegin
  have hlifts : Lifts w := by
    apply World.Run.invariant ⟨False, False, False⟩ _ _ _ run (by simp [Lifts, hlaunched.log])
    · exact fun w t input _ hcond => hkeeps w t input hcond
    · exact fun w c c' input hP hmove => lifts_move w hP hmove
    · exact fun w b hP => hP
  have hlife : ∃ st, (lifecycle wc start.sim.scene ⟨False, False, False⟩).Life st
      (trace p w.sim.log) := by
    rw [← htracked.jobs] at hp
    rcases List.mem_append.mp hp with hp | hp
    · exact htracked.orderly.life hp
    · have hempty : trace p w.sim.log = [] := htracked.orderly.waiting p hp
      rw [hempty] at finished
      cases finished
  obtain ⟨st, hst⟩ := hlife
  rcases life_cases hst with hopen | ⟨_, hended⟩
  · have hfinal := isFinal_of_open hopen _ finished
    cases hfinal
  · obtain ⟨l, more, hmore⟩ := stages_of_finished hended finished lifted
    have hhand : w.sim.hand = start.sim.hand := congrArg Scene.hand htracked.same
    have hobjects : w.sim.objects = start.sim.objects := congrArg Scene.objects htracked.same
    rw [hhand, hobjects]
    refine ⟨l, ⟨more, hmore⟩, l.free, contacts_of_object _ _ _ _ (l.touching fingers),
      contacts_of_object _ _ _ _ ?_, wc.size_calcGraspQuality _ _ _, ?_, fun distinct => ?_⟩
    · rw [show (wc.getObjectContacts start.sim.hand start.sim.objects l.raised).object = _ from
        l.holding fingers]
      exact Option.some_ne_none _
    · have hmem : Happening.lifted _ _ _ ∈ trace p w.sim.log :=
        hmore ▸ List.mem_append_left _ (List.mem_append_right _ (List.mem_singleton.mpr rfl))
      obtain ⟨e, he, hep, hwhat⟩ := mem_trace.mp hmem
      exact hlifts e he p _ _ _ hep hwhat
    · have hshown := shown_run _ hkeeps distinct run hbegin (shown_launched hlaunched)
      exact holdsStages_of_shows (hmore ▸ hshown p hp)

theorem lifted_grasp_stages_one : ∃ (w : World Bool ℚ ℤˣ ℚ Bool)
    (l : Lift Sample.cell (Sample.world.launch Sample.cell (Sample.task 1) 1 false).sim.scene),
    World.performAll Sample.cell .basic (fun _ _ => True) 3 Sample.liftOne
      (Sample.world.launch Sample.cell (Sample.task 1) 1 false) = some w ∧
    HoldsStages l (w.sim.results 0) := by
  have hrun : ((World.performAll Sample.cell .basic (fun _ _ => True) 3 Sample.liftOne
      (Sample.world.launch Sample.cell (Sample.task 1) 1 false)).map fun w =>
        decide (.finished .success .success .success ∈ trace ⟨(0, 0), ⟨1, 0⟩⟩ w.sim.log)) =
      some true := by decide +kernel
  obtain ⟨w, hw, hfinished⟩ := Option.map_eq_some_iff.mp hrun
  obtain ⟨l, -, -, -, -, -, -, hholds⟩ := lifted_grasp_stages _ _ _ _ _ _ w rfl
    (World.run_of_performAll hw) ⟨(0, 0), ⟨1, 0⟩⟩ (by decide +kernel) _ _ _
    (of_decide_eq_true hfinished) (Or.inl .success)
  exact ⟨w, l, hw, hholds (by decide)⟩

end Gripperz.Simulation
