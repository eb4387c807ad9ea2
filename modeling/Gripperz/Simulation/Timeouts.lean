import Gripperz.Simulation.Dealing

/-! # Timeouts

A grasp times out when it is past both configured limits, and also when it has been simulated for
more than five seconds. The configured limits decide over a run as long as no grasp is past the
five seconds that is not past them too.
-/
namespace Gripperz.Simulation
open Math Grasps Library

variable {ι R G V S : Type} [Field R] [LinearOrder R] [Group G] [AddCommGroup V] [Module R V]
  [DistribMulAction G V]

/-- The statuses an event gives its target. A target that is skipped keeps the one it has. -/
def Happening.given : Happening R G V → List TestStatus
  | .collided status => [status]
  | .finished _ status final => [status, final]
  | _ => []

/-- The target gets the status on the way from one object to the other. -/
def Gets (status : TestStatus) (p : TargetPtr G V) (sim sim' : GraspTaskSimulator ι R G V S) :
    Prop :=
  ∃ e ∈ sim'.log.drop sim.log.length, e.target = some p ∧ status ∈ e.what.given

namespace GraspTaskSimulator

def setWallTimeLimit (limit : R) (sim : GraspTaskSimulator ι R G V S) :
    GraspTaskSimulator ι R G V S := { sim with wallTimeLimit := limit }

def setSimTimeLimit (limit : R) (sim : GraspTaskSimulator ι R G V S) :
    GraspTaskSimulator ι R G V S := { sim with simTimeLimit := limit }

end GraspTaskSimulator

omit [Field R] [LinearOrder R] [Group G] [AddCommGroup V] [Module R V] [DistribMulAction G V] in
theorem gets_iff {status : TestStatus} {p : TargetPtr G V}
    {sim sim' : GraspTaskSimulator ι R G V S} {es : List (Event ι R G V)}
    (h : sim'.log = sim.log ++ es) :
    Gets status p sim sim' ↔ ∃ e ∈ es, e.target = some p ∧ status ∈ e.what.given := by
  rw [Gets, h, List.drop_left]

omit [Field R] [LinearOrder R] [Group G] [AddCommGroup V] [Module R V] [DistribMulAction G V] in
theorem not_gets_of_log {status : TestStatus} {sim sim' : GraspTaskSimulator ι R G V S}
    (h : sim'.log = sim.log) (p : TargetPtr G V) : ¬ Gets status p sim sim' := by
  simp [Gets, h]

namespace Call
variable {wc : WorkCell R G V S} {grader : Grader R G V} {input : StepInput R S}
  {promise : Promise}

/-! ## Every status is logged -/

/-- The log has grown, and tells of every status that has changed. -/
def Accounts (c c' : Call ι R G V S) : Prop :=
  ∃ es, c'.sim.log = c.sim.log ++ es ∧ ∀ ptr,
    (c'.sim.results ptr).testStatus = (c.sim.results ptr).testStatus ∨
      ∃ e ∈ es, ∃ p, e.target = some p ∧ p.target.result = ptr ∧
        (c'.sim.results ptr).testStatus ∈ e.what.given

section
omit [Field R] [LinearOrder R] [Group G] [AddCommGroup V] [Module R V] [DistribMulAction G V]

theorem Accounts.refl (c : Call ι R G V S) : c.Accounts c :=
  ⟨[], (List.append_nil _).symm, fun _ => Or.inl rfl⟩

theorem Accounts.trans {c₁ c₂ c₃ : Call ι R G V S} (h₁ : c₁.Accounts c₂) (h₂ : c₂.Accounts c₃) :
    c₁.Accounts c₃ := by
  obtain ⟨es₁, hlog₁, hstatus₁⟩ := h₁
  obtain ⟨es₂, hlog₂, hstatus₂⟩ := h₂
  refine ⟨es₁ ++ es₂, by rw [hlog₂, hlog₁, List.append_assoc], fun ptr => ?_⟩
  rcases hstatus₂ ptr with hsame | ⟨e, he, hgiven⟩
  · rw [hsame]
    rcases hstatus₁ ptr with hsame | ⟨e, he, hgiven⟩
    · exact Or.inl hsame
    · exact Or.inr ⟨e, List.mem_append_left _ he, hgiven⟩
  · exact Or.inr ⟨e, List.mem_append_right _ he, hgiven⟩

/-- A move that leaves every status as it is. -/
theorem accounts_of_status {c c' : Call ι R G V S} (es : List (Event ι R G V))
    (log : c'.sim.log = c.sim.log ++ es)
    (status : ∀ ptr, (c'.sim.results ptr).testStatus = (c.sim.results ptr).testStatus) :
    c.Accounts c' :=
  ⟨es, log, fun ptr => Or.inl (status ptr)⟩

theorem status_edit (e : GraspResult R G V → GraspResult R G V)
    (h : ∀ r, (e r).testStatus = r.testStatus) (c : Call ι R G V S) (ptr : ResultPtr) :
    ((c.edit e).sim.results ptr).testStatus = (c.sim.results ptr).testStatus := by
  unfold edit
  cases c.own.target with
  | none => rfl
  | some p =>
    by_cases hptr : ptr = p.target.result
    · subst hptr
      simp [Results.edit, h]
    · simp [Results.edit, hptr]

/-- A move that gives the target of the thread a status. -/
theorem accounts_edit {c c' : Call ι R G V S} (e : GraspResult R G V → GraspResult R G V)
    (es : List (Happening R G V)) (results : c'.sim.results = (c.edit e).sim.results)
    (log : c'.sim.log = c.sim.log ++ entries c.thread c.own.target es)
    (given : ∀ p, c.own.target = some p →
      ∃ what ∈ es, (e (c.sim.results p.target.result)).testStatus ∈ what.given) :
    c.Accounts c' := by
  refine ⟨_, log, fun ptr => ?_⟩
  rw [results]
  cases ht : c.own.target with
  | none => exact Or.inl (by simp [edit, ht])
  | some p =>
    by_cases hptr : ptr = p.target.result
    · subst hptr
      obtain ⟨what, hwhat, hgiven⟩ := given p ht
      refine Or.inr ⟨⟨c.thread, some p, what⟩, ?_, p, rfl, rfl, ?_⟩
      · simpa [entries] using hwhat
      · simpa [edit, ht, Results.edit] using hgiven
    · exact Or.inl (by simp [edit, ht, Results.edit, hptr])

end

omit [Group G] [AddCommGroup V] [Module R V] [DistribMulAction G V] in
theorem accounts_finish (k : Counter) (status : TestStatus)
    (e : GraspResult R G V → GraspResult R G V) (c : Call ι R G V S) :
    c.Accounts (c.finish wc grader k status e) := by
  rw [finish_eq]
  apply accounts_edit (c.finishEdit wc grader status e)
    [.finished k status (c.finalStatus wc grader status e)]
  · rfl
  · rfl
  · intro p hp
    refine ⟨_, List.mem_singleton_self _, ?_⟩
    simp [Happening.given, finishEdit, finalStatus, hp]

omit [LinearOrder R] [Module R V] in
theorem accounts_recordLift (object : String) (c : Call ι R G V S) :
    c.Accounts (c.recordLift wc input object) :=
  accounts_of_status _ rfl (c.status_edit
    (fun r => { r with
      qualityAfterLifting := wc.calcGraspQuality c.sim.hand c.sim.objects input.state
      contactsLift := (wc.getObjectContacts c.sim.hand c.sim.objects input.state).contacts
      objectTtcpGrasp := (wc.frameTframe c.sim.tcp object c.own.postLiftObjState)⁻¹
      objectTtcpLift := (wc.frameTframe c.sim.tcp object input.state)⁻¹ })
    fun _ => rfl)

omit [Field R] [LinearOrder R] [Group G] [AddCommGroup V] [Module R V] [DistribMulAction G V] in
theorem accounts_own (own : SimState R G V S) (c : Call ι R G V S) :
    c.Accounts { c with own := own } :=
  accounts_of_status [] (List.append_nil _).symm fun _ => rfl

omit [Module R V] in
theorem accounts_lift (object : String) (k : Counter) (status : TestStatus) (x : R)
    (c : Call ι R G V S) : c.Accounts (c.lift wc grader input object k status x) := by
  unfold lift
  apply (accounts_recordLift object c).trans
  apply (accounts_own _ _).trans
  exact accounts_finish k status _ _

omit [Field R] [LinearOrder R] [Group G] [AddCommGroup V] [Module R V] [DistribMulAction G V] in
theorem accounts_collide (nstate : S) (c : Call ι R G V S) :
    c.Accounts (c.collide wc nstate) := by
  refine accounts_edit
    (fun r => { r with
      testStatus := c.initialCollision wc nstate
      gripperConfigurationGrasp := c.own.openQ })
    [.collided (c.initialCollision wc nstate)] rfl rfl ?_
  intro p hp
  exact ⟨_, List.mem_singleton_self _, List.mem_singleton_self _⟩

omit [Field R] [LinearOrder R] [Module R V] in
theorem accounts_setUp (nstate : S) (c : Call ι R G V S) : c.Accounts (c.setUp wc input nstate) :=
  accounts_of_status [] (List.append_nil _).symm
    (c.status_edit (fun r => { r with objectTtcpTarget := c.setupPose wc nstate }) fun _ => rfl)

omit [Field R] [LinearOrder R] [Group G] [AddCommGroup V] [Module R V] [DistribMulAction G V] in
theorem accounts_take (task : SubTaskPtr R G V) (p : TargetPtr G V)
    (rest : List (SubTaskPtr R G V × TargetPtr G V)) (c : Call ι R G V S) :
    c.Accounts (c.take task p rest) :=
  accounts_of_status _ rfl fun _ => rfl

omit [Field R] [LinearOrder R] [Group G] [AddCommGroup V] [Module R V] [DistribMulAction G V] in
theorem accounts_skip (status : TestStatus) (c : Call ι R G V S) :
    c.Accounts (c.skip status) :=
  accounts_of_status _ rfl fun _ => rfl

omit [LinearOrder R] [Module R V] in
theorem accounts_beginApproach (nstate : S) (c : Call ι R G V S) :
    c.Accounts (c.beginApproach wc nstate) :=
  accounts_of_status _ rfl fun _ => rfl

omit [Field R] [LinearOrder R] [Module R V] in
/-- The thread takes a target and sets the hand up for it. -/
theorem accounts_prepare (task : SubTaskPtr R G V) (p : TargetPtr G V)
    (rest : List (SubTaskPtr R G V × TargetPtr G V)) (nstate : S) (c : Call ι R G V S) :
    c.Accounts (((c.take task p rest).setPoses wc p).setUp wc input nstate) := by
  apply (accounts_take task p rest c).trans
  apply (accounts_own _ _).trans
  exact accounts_setUp nstate _

omit [Module R V] in
theorem accounts_move {c c' : Call ι R G V S} (h : c.Move wc grader input promise c') :
    c.Accounts c' := by
  cases h with
  | quiet h =>
    obtain ⟨paths, hsim⟩ := h.sim
    exact accounts_of_status [] (by simp [hsim]) (by simp [hsim])
  | abort h once assigned => exact accounts_finish _ _ _ c
  | configure h q =>
    exact accounts_of_status [] (List.append_nil _).symm
      (c.status_edit (fun r => { r with gripperConfigurationGrasp := q }) fun _ => rfl)
  | approach h =>
    exact accounts_of_status _ rfl (c.status_edit
      (fun r => { r with objectTtcpApproach := objectPose wc c.sim.scene input.state })
      fun _ => rfl)
  | miss h => exact accounts_finish _ _ _ c
  | grasp h closed touching =>
    exact accounts_of_status _ rfl (c.status_edit
      (fun r => { r with
        qualityBeforeLifting := wc.calcGraspQuality c.sim.hand c.sim.objects input.state
        contactsGrasp := (wc.getObjectContacts c.sim.hand c.sim.objects input.state).contacts })
      fun _ => rfl)
  | drop h => exact accounts_finish _ _ _ c
  | lift h object x hs touching graded => exact accounts_lift object _ _ x c
  | stop h hq =>
    rw [getNextTarget_nil hq]
    exact accounts_of_status [] (List.append_nil _).symm fun _ => rfl
  | skip h hq set => exact (accounts_take _ _ _ c).trans (accounts_skip _ _)
  | collide h hq nstate unset =>
    exact (accounts_prepare _ _ _ nstate c).trans (accounts_collide _ _)
  | begin h hq nstate unset free =>
    exact (accounts_prepare _ _ _ nstate c).trans (accounts_beginApproach _ _)

omit [Module R V] in
theorem accounts_moves {c c' : Call ι R G V S} (h : c.Moves wc grader input promise c') :
    c.Accounts c' := by
  induction h with
  | refl => exact .refl c
  | tail _ hmove ih => exact ih.trans (accounts_move hmove)

/-- A result whose status has changed is that of a target that got the new one. -/
theorem gets_of_status {fuel : ℕ} {c c' : Call ι R G V S}
    (h : c.stepCB wc grader input fuel = some c') {ptr : ResultPtr}
    (hne : (c'.sim.results ptr).testStatus ≠ (c.sim.results ptr).testStatus) :
    ∃ p, p.target.result = ptr ∧ Gets (c'.sim.results ptr).testStatus p c.sim c'.sim := by
  have hmoves : c.Moves wc grader input ⟨False, False, False⟩ c' :=
    moves_stepCB (Or.inr ⟨False.elim, False.elim, False.elim⟩) h
  obtain ⟨es, hlog, hstatus⟩ := accounts_moves hmoves
  obtain ⟨e, he, p, htarget, hptr, hgiven⟩ := (hstatus ptr).resolve_left hne
  exact ⟨p, hptr, (gets_iff hlog).mpr ⟨e, he, htarget, hgiven⟩⟩

/-! ## Other than by the time limits, nothing times out -/

/-- The log has grown, and no target has got the status `TimeOut`. -/
def Untimed (c c' : Call ι R G V S) : Prop :=
  ∃ es, c'.sim.log = c.sim.log ++ es ∧
    ∀ e ∈ es, ∀ p, e.target = some p → .timeOut ∉ e.what.given

section
omit [Field R] [LinearOrder R] [Group G] [AddCommGroup V] [Module R V] [DistribMulAction G V]

theorem Untimed.not_gets {c c' : Call ι R G V S} (h : c.Untimed c') (p : TargetPtr G V) :
    ¬ Gets .timeOut p c.sim c'.sim := by
  obtain ⟨es, hlog, hes⟩ := h
  rw [gets_iff hlog]
  rintro ⟨e, he, htarget, hgiven⟩
  exact hes e he p htarget hgiven

theorem Untimed.of_log {c c' : Call ι R G V S} (h : c'.sim.log = c.sim.log) : c.Untimed c' :=
  ⟨[], by rw [h, List.append_nil], by simp⟩

theorem Untimed.of_entry {c c' : Call ι R G V S} {e : Event ι R G V}
    (log : c'.sim.log = c.sim.log ++ [e]) (given : .timeOut ∉ e.what.given) : c.Untimed c' := by
  refine ⟨[e], log, fun e' he' p _ => ?_⟩
  rwa [List.mem_singleton.mp he']

theorem Untimed.trans {c₁ c₂ c₃ : Call ι R G V S} (h₁ : c₁.Untimed c₂) (h₂ : c₂.Untimed c₃) :
    c₁.Untimed c₃ := by
  obtain ⟨es₁, hlog₁, hes₁⟩ := h₁
  obtain ⟨es₂, hlog₂, hes₂⟩ := h₂
  refine ⟨es₁ ++ es₂, by rw [hlog₂, hlog₁, List.append_assoc], fun e he => ?_⟩
  rcases List.mem_append.mp he with he | he
  · exact hes₁ e he
  · exact hes₂ e he

end

omit [Group G] [AddCommGroup V] [Module R V] [DistribMulAction G V] in
theorem grade_ne_timeOut {status : TestStatus} (h : status ≠ .timeOut) (initState state : S)
    (pose : Transform3D G V) : grade wc grader initState state status pose ≠ .timeOut := by
  have hbasic : basicGrade status ≠ .timeOut := by
    unfold basicGrade
    split
    · simp
    · exact h
  cases grader with
  | graspTask => exact h
  | basic => exact hbasic
  | interference limit objects metric =>
    simp only [grade]
    split
    · simp
    · exact hbasic
  | alignment expectedPose threshold metric =>
    simp only [grade]
    split
    · simp
    · exact hbasic

omit [Group G] [AddCommGroup V] [Module R V] [DistribMulAction G V] in
theorem untimed_finish (k : Counter) {status : TestStatus}
    (e : GraspResult R G V → GraspResult R G V) (c : Call ι R G V S)
    (h : status ≠ .timeOut ∨ c.own.target = none) : c.Untimed (c.finish wc grader k status e) := by
  rw [finish_eq]
  refine ⟨_, rfl, fun entry hentry p hp => ?_⟩
  obtain ⟨what, hwhat, rfl⟩ := List.mem_map.mp hentry
  rw [List.mem_singleton.mp hwhat]
  rcases h with h | h
  · simp only [Happening.given, List.mem_cons, List.not_mem_nil, or_false, not_or]
    refine ⟨h.symm, fun hfinal => ?_⟩
    have htarget : c.own.target = some p := hp
    rw [finalStatus, htarget] at hfinal
    exact grade_ne_timeOut h _ _ _ hfinal.symm
  · simp [h] at hp

omit [Module R V] in
theorem untimed_approach (c : Call ι R G V S) : c.Untimed (c.stepApproach wc input) := by
  unfold stepApproach
  split
  · exact .of_entry rfl (by simp [Happening.given])
  · exact .of_log rfl

omit [Field R] [LinearOrder R] [Group G] [AddCommGroup V] [Module R V] [DistribMulAction G V] in
theorem untimed_own (own : SimState R G V S) (c : Call ι R G V S) :
    c.Untimed { c with own := own } := .of_log rfl

omit [Field R] [LinearOrder R] [Group G] [AddCommGroup V] [Module R V] [DistribMulAction G V] in
theorem untimed_edit (e : GraspResult R G V → GraspResult R G V) (c : Call ι R G V S) :
    c.Untimed (c.edit e) := .of_log rfl

omit [Group G] [AddCommGroup V] [Module R V] [DistribMulAction G V] in
theorem untimed_closeGrasp (c : Call ι R G V S) : c.Untimed (c.closeGrasp wc grader input) := by
  unfold closeGrasp
  simp only
  split
  · apply (untimed_own _ c).trans
    apply (untimed_edit _ _).trans
    exact untimed_finish _ _ _ (Or.inl (by simp))
  · exact .of_entry rfl (by simp [Happening.given])

omit [Group G] [AddCommGroup V] [Module R V] [DistribMulAction G V] in
theorem untimed_grasping (c : Call ι R G V S) : c.Untimed (c.stepGrasping wc grader input) := by
  unfold stepGrasping
  split
  · split
    · unfold settle
      split
      · have hclose : c.Untimed ((c.countRest input).closeGrasp wc grader input) :=
          (untimed_own _ c).trans (untimed_closeGrasp _)
        exact hclose.trans (untimed_own _ _)
      · exact .of_log rfl
    · exact .of_log rfl
  · exact .of_log rfl

omit [Module R V] in
theorem untimed_lift (object : String) (k : Counter) {status : TestStatus} (h : status ≠ .timeOut)
    (x : R) (c : Call ι R G V S) : c.Untimed (c.lift wc grader input object k status x) := by
  have hrecord : c.Untimed (c.recordLift wc input object) :=
    .of_entry rfl (by simp [Happening.given])
  unfold lift
  apply hrecord.trans
  apply (untimed_own _ _).trans
  exact untimed_finish _ _ _ (Or.inl h)

theorem untimed_lifting (c : Call ι R G V S) : c.Untimed (c.stepLifting wc grader input) := by
  have hdrop (c : Call ι R G V S) : c.Untimed (c.drop wc grader input) :=
    untimed_finish _ _ c (Or.inl (by simp))
  have hjudge (c : Call ι R G V S) : c.Untimed (c.judgeLift wc grader input) := by
    unfold judgeLift
    simp only
    split
    · split
      · exact untimed_lift _ _ (by simp) _ c
      · exact hdrop c
    · exact hdrop c
    · split
      · exact untimed_lift _ _ (by simp) _ c
      · exact untimed_lift _ _ (by simp) _ c
  unfold stepLifting
  split
  · simp only
    split
    · exact (untimed_own _ c).trans (hjudge _)
    · exact .of_log rfl
  · exact .of_log rfl

omit [Field R] [LinearOrder R] [Group G] [AddCommGroup V] [Module R V] [DistribMulAction G V] in
theorem untimed_collide (nstate : S) (c : Call ι R G V S) : c.Untimed (c.collide wc nstate) := by
  have hstatus : c.initialCollision wc nstate = _ ∨ c.initialCollision wc nstate = _ :=
    initialCollision_cases nstate c
  refine .of_entry rfl ?_
  rcases hstatus with h | h <;> simp [Happening.given, h]

omit [LinearOrder R] [Module R V] in
theorem untimed_nextGrasp (round : Call ι R G V S × S) :
    round.1.Untimed (nextGrasp wc input round).1.1 := by
  cases hq : round.1.sim.taskQueue with
  | nil =>
    have hnext : round.1.getNextTarget = (none, round.1.getNextTarget.2) := by
      rw [getNextTarget_nil hq]
    rw [nextGrasp, hnext, getNextTarget_nil hq]
    exact .of_log rfl
  | cons entry rest =>
    have htake : round.1.Untimed (round.1.take entry.1 entry.2 rest) :=
      .of_entry rfl (by simp [Happening.given])
    rw [nextGrasp, getNextTarget_cons hq]
    simp only
    split
    · exact htake.trans (.of_entry rfl (by simp [Happening.given]))
    · have hsetUp : round.1.Untimed (((round.1.take entry.1 entry.2 rest).setPoses wc
          entry.2).setUp wc input (((round.1.take entry.1 entry.2 rest).setPoses wc
          entry.2).setupState wc round.2)) :=
        htake.trans (.of_log rfl)
      split
      · exact hsetUp.trans (untimed_collide _ _)
      · exact hsetUp.trans (.of_entry rfl (by simp [Happening.given]))

omit [LinearOrder R] [Module R V] in
theorem untimed_newGrasp (fuel : ℕ) (round : Call ι R G V S × S) {c : Call ι R G V S}
    (hc : newGrasp wc input fuel round = some c) : round.1.Untimed c := by
  induction fuel generalizing round with
  | zero => cases hc
  | succ fuel ih =>
    simp only [newGrasp] at hc
    split at hc
    · exact (untimed_nextGrasp round).trans (ih _ hc)
    · exact Option.some.inj hc ▸ untimed_nextGrasp round

/-! ## One callback -/

/-- The callback does not go past the five seconds with a grasp in progress that is not past the
configured limits. -/
def LimitsFirst (input : StepInput R S) (c : Call ι R G V S) : Prop :=
  5 < input.time → c.own.currentState ≠ .newGrasp → c.own.target ≠ none → c.overLimits input

instance (input : StepInput R S) (c : Call ι R G V S) : Decidable (c.LimitsFirst input) :=
  decidable_of_iff (¬ 5 < input.time ∨ c.own.currentState = .newGrasp ∨
    c.own.target.isNone = true ∨ c.overLimits input) (by
      rw [LimitsFirst, Option.isNone_iff_eq_none]
      tauto)

omit [Group G] [AddCommGroup V] [Module R V] [DistribMulAction G V] in
theorem untimed_checks {c : Call ι R G V S} (hfirst : c.LimitsFirst input)
    (hover : ¬ c.overLimits input) : c.Untimed (c.checks wc grader input) := by
  have hsim : c.Untimed (c.checkSimTime wc grader input) := by
    unfold checkSimTime
    split
    · rename_i htime
      apply untimed_finish _ _ c (Or.inr _)
      by_contra htarget
      exact hover (hfirst htime.1 htime.2 htarget)
    · exact .of_log rfl
  have herror (c : Call ι R G V S) : c.Untimed (c.checkError wc grader input) := by
    unfold checkError
    split
    · exact untimed_finish _ _ c (Or.inl (by simp))
    · exact .of_log rfl
  have hcollision (c : Call ι R G V S) : c.Untimed (c.checkCollision wc grader input) := by
    unfold checkCollision
    split
    · exact untimed_finish _ _ c (Or.inl (by simp))
    · exact .of_log rfl
  unfold checks
  simp only [checkTimeLimits_neg hover]
  exact hsim.trans ((herror _).trans (hcollision _))

/-- A callback within the configured limits times nothing out, where they come first. -/
theorem untimed_stepCB {fuel : ℕ} {c c' : Call ι R G V S}
    (h : c.stepCB wc grader input fuel = some c')
    (hfirst : c.sim.requestSimulationStop = true ∨ c.LimitsFirst input)
    (hover : ¬ c.overLimits input) : c.Untimed c' := by
  unfold stepCB at h
  split at h
  · exact Option.some.inj h ▸ .of_log rfl
  · rename_i hstop
    set c₁ : Call ι R G V S := { c with own := { c.own with state := input.state } }
    set c₂ := c₁.storePath input.time input.state
    have hstored : c.Untimed c₂ := .of_log rfl
    have hchecks : c₂.Untimed (c₂.checks wc grader input) :=
      untimed_checks (hfirst.resolve_left hstop) hover
    have hact : c.Untimed (c.act wc grader input) :=
      hstored.trans (hchecks.trans
        ((untimed_approach _).trans ((untimed_grasping _).trans (untimed_lifting _))))
    simp only at h
    split at h
    · exact hact.trans (untimed_newGrasp fuel (c.act wc grader input, _) h)
    · exact Option.some.inj h ▸ hact

/-- What follows the checks is accounted for. -/
theorem accounts_after {fuel : ℕ} {c d c' : Call ι R G V S}
    (hact : c.act wc grader input =
      ((d.stepApproach wc input).stepGrasping wc grader input).stepLifting wc grader input)
    (hstop : ¬ c.sim.requestSimulationStop = true)
    (h : c.stepCB wc grader input fuel = some c') : d.Accounts c' := by
  have hmoves : Moves wc grader input ⟨False, False, False⟩ d (c.act wc grader input) :=
    hact ▸ (moves_approach d).trans ((moves_grasping _).trans (moves_lifting _ False.elim))
  rw [stepCB, if_neg hstop] at h
  simp only at h
  split at h
  · rename_i hnew
    exact accounts_moves (hmoves.trans (moves_newGrasp fuel (c.act wc grader input, _) hnew h))
  · exact Option.some.inj h ▸ accounts_moves hmoves

/-- Past the five seconds a grasp in progress times out. -/
theorem gets_timeOut {fuel : ℕ} {c c' : Call ι R G V S} {p : TargetPtr G V}
    (h : c.stepCB wc grader input fuel = some c') (hstop : ¬ c.sim.requestSimulationStop = true)
    (htime : 5 < input.time) (hstate : c.own.currentState ≠ .newGrasp)
    (htarget : c.own.target = some p) (hover : ¬ c.overLimits input) :
    Gets .timeOut p c.sim c'.sim := by
  set c₁ : Call ι R G V S := { c with own := { c.own with state := input.state } }
  set c₂ := c₁.storePath input.time input.state
  set c₃ := c₂.abort wc grader input .timeout .timeOut with hc₃
  have hchecks : c₂.checks wc grader input = c₃.checkCollision wc grader input := by
    unfold checks
    simp only
    have hover₂ : ¬ c₂.overLimits input := hover
    have hstate₂ : c₂.own.currentState ≠ .newGrasp := hstate
    rw [checkTimeLimits_neg hover₂, checkSimTime_pos htime hstate₂, checkError_neg (.inr rfl)]
  have hcollision : c₃.Accounts (c₃.checkCollision wc grader input) := by
    unfold checkCollision
    split
    · exact accounts_finish _ _ _ c₃
    · exact .refl c₃
  have hact : c.act wc grader input = (((c₃.checkCollision wc grader input).stepApproach wc
      input).stepGrasping wc grader input).stepLifting wc grader input := by
    rw [← hchecks]
    rfl
  obtain ⟨es, hlog, -⟩ := hcollision.trans (accounts_after hact hstop h)
  have hlog₃ : c₃.sim.log = c.sim.log ++ [⟨c.thread, some p, .finished .timeout .timeOut
      (c₂.finalStatus wc grader .timeOut fun r =>
        { r with gripperConfigurationGrasp := c₂.sim.hand.getQ input.state })⟩] := by
    rw [hc₃, abort, finish_eq, ← htarget]
    rfl
  rw [hlog₃, List.append_assoc] at hlog
  rw [gets_iff hlog]
  exact ⟨_, List.mem_append_left _ (List.mem_singleton_self _), rfl, List.mem_cons_self⟩

/-- The configured limits on wall time and on simulated time. -/
def limits (c : Call ι R G V S) : R × R := (c.sim.wallTimeLimit, c.sim.simTimeLimit)

omit [Group G] [AddCommGroup V] [Module R V] [DistribMulAction G V] in
theorem limits_finish (k : Counter) (status : TestStatus)
    (e : GraspResult R G V → GraspResult R G V) (c : Call ι R G V S) :
    (c.finish wc grader k status e).limits = c.limits := rfl

omit [Field R] [LinearOrder R] [Module R V] in
theorem limits_prepare (task : SubTaskPtr R G V) (p : TargetPtr G V)
    (rest : List (SubTaskPtr R G V × TargetPtr G V)) (nstate : S) (c : Call ι R G V S) :
    (((c.take task p rest).setPoses wc p).setUp wc input nstate).limits = c.limits := rfl

omit [Field R] [LinearOrder R] [Group G] [AddCommGroup V] [Module R V] [DistribMulAction G V] in
theorem limits_collide (nstate : S) (c : Call ι R G V S) :
    (c.collide wc nstate).limits = c.limits := rfl

omit [LinearOrder R] [Module R V] in
theorem limits_beginApproach (nstate : S) (c : Call ι R G V S) :
    (c.beginApproach wc nstate).limits = c.limits := rfl

omit [Module R V] in
/-- A move leaves the limits as they are. -/
theorem limits_move {c c' : Call ι R G V S} (h : c.Move wc grader input promise c') :
    c'.limits = c.limits := by
  cases h with
  | quiet h =>
    obtain ⟨paths, hsim⟩ := h.sim
    simp [limits, hsim]
  | abort h once assigned => exact limits_finish _ _ _ c
  | configure h q => rfl
  | approach h => rfl
  | miss h => exact limits_finish _ _ _ c
  | grasp h closed touching => rfl
  | drop h => exact limits_finish _ _ _ c
  | lift h object x hs touching graded =>
    rw [lift_eq]
    rfl
  | stop h hq =>
    rw [getNextTarget_nil hq]
    rfl
  | skip h hq set => rfl
  | collide h hq nstate unset => rw [limits_collide, limits_prepare]
  | begin h hq nstate unset free => rw [limits_beginApproach, limits_prepare]

end Call

/-! ## Runs -/

namespace World
variable [DecidableEq ι] {wc : WorkCell R G V S} {grader : Grader R G V}

/-- Targets get the status `TimeOut` in this action only past both limits. -/
def Action.TimesOutByLimits (wallTimeLimit simTimeLimit : R) (w w' : World ι R G V S) :
    Action ι R S → Prop
  | .stepCB _ input => ∀ p, Gets .timeOut p w.sim w'.sim →
      wallTimeLimit < input.wallTime ∧ simTimeLimit < input.time
  | .pauseSimulation => ∀ p, ¬ Gets .timeOut p w.sim w'.sim
  | .resumeSimulation => ∀ p, ¬ Gets .timeOut p w.sim w'.sim

/-- A sequence of actions, in all of which targets time out by the limits. -/
abbrev RunByLimits (wc : WorkCell R G V S) (grader : Grader R G V)
    (wallTimeLimit simTimeLimit : R) : World ι R G V S → World ι R G V S → Prop :=
  Relation.ReflTransGen fun w w' =>
    ∃ a, Step wc grader w a w' ∧ a.TimesOutByLimits wallTimeLimit simTimeLimit w w'

def setLimits (wallTimeLimit simTimeLimit : R) (w : World ι R G V S) : World ι R G V S :=
  { w with sim := (w.sim.setWallTimeLimit wallTimeLimit).setSimTimeLimit simTimeLimit }

/-- No run changes the limits. -/
theorem limits_run {cond : StepInput R S → Call ι R G V S → Prop} {w w' : World ι R G V S}
    (run : Run wc grader cond w w') : w'.sim.wallTimeLimit = w.sim.wallTimeLimit ∧
      w'.sim.simTimeLimit = w.sim.simTimeLimit := by
  apply Run.invariant ⟨False, False, False⟩ _ _ _ run ⟨rfl, rfl⟩
  · intro w' t input _ _
    exact ⟨False.elim, False.elim, False.elim⟩
  · intro w' c c' input hlimits hmove
    have hmoved := Prod.mk.inj (Call.limits_move hmove)
    exact ⟨hmoved.1.trans hlimits.1, hmoved.2.trans hlimits.2⟩
  · intro w' b hlimits
    exact hlimits

/-- Exactly the callbacks in which the limits come first time out by the limits. -/
theorem timesOutByLimits_iff {w w' : World ι R G V S} {a : Action ι R S}
    (step : Step wc grader w a w') :
    a.TimesOutByLimits w.sim.wallTimeLimit w.sim.simTimeLimit w w' ↔
      a.Meets (fun input c => c.LimitsFirst input) w := by
  cases step with
  | @stepCB t input fuel c hc =>
    constructor
    · intro hlimits
      by_cases hstop : w.sim.requestSimulationStop = true
      · exact Or.inl hstop
      · right
        intro htime hstate htarget
        by_contra hover
        obtain ⟨p, hp⟩ := Option.ne_none_iff_exists'.mp htarget
        exact hover (hlimits p (Call.gets_timeOut hc hstop htime hstate hp hover))
    · intro hfirst p hgets
      by_contra hover
      exact (Call.untimed_stepCB hc hfirst hover).not_gets p hgets
  | pauseSimulation =>
    exact ⟨fun _ => trivial, fun _ => not_gets_of_log rfl⟩
  | resumeSimulation =>
    exact ⟨fun _ => trivial, fun _ => not_gets_of_log rfl⟩

/-- Where the limits come first in every callback of a run, every target times out by the limits
in all of it; and in any run this holds of a callback exactly when the limits come first there. -/
theorem timeOut_by_limits (wc : WorkCell R G V S) (grader : Grader R G V)
    (wallTimeLimit simTimeLimit : R) (w₀ : World ι R G V S) :
    (∀ w, Run wc grader (fun input c => c.LimitsFirst input)
        (w₀.setLimits wallTimeLimit simTimeLimit) w →
      RunByLimits wc grader wallTimeLimit simTimeLimit
        (w₀.setLimits wallTimeLimit simTimeLimit) w) ∧
    ∀ w, Run wc grader (fun _ _ => True) (w₀.setLimits wallTimeLimit simTimeLimit) w →
      ∀ a w', Step wc grader w a w' →
        (a.TimesOutByLimits wallTimeLimit simTimeLimit w w' ↔
          a.Meets (fun input c => c.LimitsFirst input) w) := by
  constructor
  · intro w run
    induction run with
    | refl => exact .refl
    | @tail w w' hrun hstep ih =>
      obtain ⟨a, hstep, hmeets⟩ := hstep
      have hlimits := (timesOutByLimits_iff hstep).mpr hmeets
      rw [(limits_run hrun).1, (limits_run hrun).2] at hlimits
      exact ih.tail ⟨a, hstep, hlimits⟩
  · intro w run a w' hstep
    have hiff := timesOutByLimits_iff hstep
    rw [(limits_run run).1, (limits_run run).2] at hiff
    exact hiff

end World

namespace Sample

/-- A grasp is begun and is found in progress after six seconds. -/
def sixSeconds : List (World.Action Bool ℚ Bool) :=
  [.stepCB true (callback 0 false), .stepCB true (callback 6 false)]

/-- One target is to be grasped within the limits. -/
def limited (limit : ℚ) : World Bool ℚ ℤˣ ℚ Bool :=
  (world.launch cell (task 1) 1 false).setLimits limit limit

end Sample

theorem timeOut_by_limits_two : ∃ w : World Bool ℚ ℤˣ ℚ Bool,
    World.performAll Sample.cell .basic (fun input c => c.LimitsFirst input) 3 Sample.sixSeconds
      (Sample.limited 2) = some w ∧
    World.RunByLimits Sample.cell .basic 2 2 (Sample.limited 2) w := by
  have hsome : (World.performAll Sample.cell .basic (fun input c => c.LimitsFirst input) 3
      Sample.sixSeconds (Sample.limited 2)).isSome := by decide +kernel
  obtain ⟨w, hw⟩ := Option.isSome_iff_exists.mp hsome
  exact ⟨w, hw, (World.timeOut_by_limits Sample.cell .basic 2 2
    (Sample.world.launch Sample.cell (Sample.task 1) 1 false)).1 w (World.run_of_performAll hw)⟩

/-- With limits of a minute a grasp times out after six seconds. -/
theorem not_timeOut_by_limits : ∃ w w' : World Bool ℚ ℤˣ ℚ Bool,
    World.Run Sample.cell .basic (fun _ _ => True) (Sample.limited 60) w ∧
    World.Step Sample.cell .basic w (.stepCB true (Sample.callback 6 false)) w' ∧
    ¬ World.Action.TimesOutByLimits 60 60 w w' (.stepCB true (Sample.callback 6 false)) := by
  have hlate : ((World.performAll Sample.cell .basic (fun _ _ => True) 3
      (Sample.sixSeconds.take 1) (Sample.limited 60)).bind fun w =>
        (World.perform Sample.cell .basic 3 (.stepCB true (Sample.callback 6 false)) w).map
          fun _ => (decide ((w.call true).LimitsFirst (Sample.callback 6 false)),
            w.sim.requestSimulationStop)) = some (false, false) := by decide +kernel
  obtain ⟨w, hw, hstep⟩ := Option.bind_eq_some_iff.mp hlate
  obtain ⟨w', hw', hfirst⟩ := Option.map_eq_some_iff.mp hstep
  obtain ⟨hlimits, hstop⟩ := Prod.mk.inj hfirst
  have hrun := World.run_of_performAll hw
  have hperformed := World.step_of_perform hw'
  refine ⟨w, w', hrun, hperformed, fun hby => ?_⟩
  have hiff := World.timesOutByLimits_iff hperformed
  rw [(World.limits_run hrun).1, (World.limits_run hrun).2] at hiff
  rcases hiff.mp hby with hstopped | hmeets
  · simp [hstop] at hstopped
  · exact of_decide_eq_false hlimits hmeets

end Gripperz.Simulation
