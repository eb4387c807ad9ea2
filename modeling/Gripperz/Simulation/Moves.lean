import Gripperz.Simulation.StepCB

/-! # What a callback can do

A callback is a sequence of moves: it leaves the grasp as it is, takes it one stage
further, ends it, or disposes of the next target. Every invariant of the simulator is
proved of the moves. Promises about the inputs restrict the moves they concern.
-/
namespace Gripperz.Simulation
open Math Grasps

variable {ι R G V S : Type} [Field R] [LinearOrder R] [Group G] [AddCommGroup V] [Module R V]
  [DistribMulAction G V]

/-- What may be promised of the inputs: that only a grasp in progress is ended, that
only an assigned target is, and that no lift is judged to be regraded. -/
structure Promise where
  once : Prop
  assigned : Prop
  graded : Prop

/-- The stage of a thread; while it lifts, with the state in which the grasp was closed. -/
inductive Stage (S : Type) where
  | newGrasp | approach | grasping
  | lifting (closed : S)

def SimState.stage (own : SimState R G V S) : Stage S :=
  match own.currentState with
  | .newGrasp => .newGrasp
  | .approach => .approach
  | .grasping => .grasping
  | .lifting => .lifting own.postLiftObjState

namespace SimState
variable {own : SimState R G V S}

omit [Field R] [LinearOrder R] [Group G] [AddCommGroup V] [Module R V] [DistribMulAction G V]

theorem stage_eq_newGrasp : own.stage = .newGrasp ↔ own.currentState = .newGrasp := by
  cases h : own.currentState <;> simp [stage, h]

theorem stage_of_approach (h : own.currentState = .approach) : own.stage = .approach := by
  simp [stage, h]

theorem stage_of_grasping (h : own.currentState = .grasping) : own.stage = .grasping := by
  simp [stage, h]

theorem stage_of_lifting (h : own.currentState = .lifting) :
    own.stage = .lifting own.postLiftObjState := by
  simp [stage, h]

end SimState

namespace Call

/-- Nothing but scratch values and paths has changed. -/
structure Quiet (c c' : Call ι R G V S) : Prop where
  thread : c'.thread = c.thread
  sim : ∃ paths, c'.sim = { c.sim with timedStatePaths := paths }
  stage : c'.own.stage = c.own.stage
  target : c'.own.target = c.own.target
  cache : c'.own.toTaskCache = c.own.toTaskCache
  stopped : c'.own.stopped = c.own.stopped

/-- The ends of a grasp that is cut short. -/
inductive Abortion : Counter → TestStatus → Prop where
  | timeout : Abortion .timeout .timeOut
  | simfailed : Abortion .simfailed .simulationFailure
  | collision : Abortion .collision .collisionDuringExecution

/-- The ends of a grasp that has been lifted. -/
inductive Lifted (suctionCup : Option (SuctionCup S)) : Counter → TestStatus → Prop where
  | success : Lifted suctionCup .success .success
  | slipped (h : suctionCup = none) : Lifted suctionCup .slipped .objectSlipped

inductive Move (wc : WorkCell R G V S) (grader : Grader R G V) (input : StepInput R S)
    (promise : Promise) : Call ι R G V S → Call ι R G V S → Prop where
  | quiet {c c'} (h : c.Quiet c') : Move wc grader input promise c c'
  | abort {c} {k : Counter} {status : TestStatus} (h : Abortion k status)
      (once : promise.once → c.own.currentState ≠ .newGrasp)
      (assigned : promise.assigned → c.own.target ≠ none) :
      Move wc grader input promise c (c.abort wc grader input k status)
  | configure {c} (h : c.own.currentState = .grasping) (q : Q R) :
      Move wc grader input promise c (c.edit fun r => { r with gripperConfigurationGrasp := q })
  | approach {c} (h : c.own.currentState = .approach) :
      Move wc grader input promise c (c.reachApproach wc input)
  | miss {c} (h : c.own.currentState = .grasping) :
      Move wc grader input promise c (c.finish wc grader .failed .objectMissed
        fun r => { r with qualityBeforeLifting := ⟨[]⟩ })
  | grasp {c} (h : c.own.currentState = .grasping) (closed : c.own.postLiftObjState = input.state)
      (touching : c.sim.hand.suctionCup = none →
        (wc.getObjectContacts c.sim.hand c.sim.objects input.state).object ≠ none) :
      Move wc grader input promise c (c.beginLift wc input)
  | drop {c} (h : c.own.currentState = .lifting) :
      Move wc grader input promise c (c.drop wc grader input)
  | lift {c} (h : c.own.currentState = .lifting) (object : String) (x : R)
      {k : Counter} {status : TestStatus} (hs : Lifted c.sim.hand.suctionCup k status)
      (touching : c.sim.hand.suctionCup = none →
        (wc.getObjectContacts c.sim.hand c.sim.objects input.state).object = some object)
      (graded : promise.graded → grade wc grader c.sim.initState c.own.state status
        (wc.frameTframe c.sim.tcp object input.state)⁻¹ = status) :
      Move wc grader input promise c (c.lift wc grader input object k status x)
  | stop {c} (h : c.own.currentState = .newGrasp) (hq : c.sim.taskQueue = []) :
      Move wc grader input promise c c.getNextTarget.2.stop
  | skip {c} (h : c.own.currentState = .newGrasp) {task : SubTaskPtr R G V}
      {target : TargetPtr G V} {rest : List (SubTaskPtr R G V × TargetPtr G V)}
      (hq : c.sim.taskQueue = (task, target) :: rest)
      (set : (c.sim.results target.target.result).testStatus ≠ .unInitialized) :
      Move wc grader input promise c
        ((c.take task target rest).skip (c.sim.results target.target.result).testStatus)
  | collide {c} (h : c.own.currentState = .newGrasp) {task : SubTaskPtr R G V}
      {target : TargetPtr G V} {rest : List (SubTaskPtr R G V × TargetPtr G V)}
      (hq : c.sim.taskQueue = (task, target) :: rest) (nstate : S)
      (unset : c.sim.forceSimulateAll = true ∨
        (c.sim.results target.target.result).testStatus = .unInitialized) :
      Move wc grader input promise c
        ((((c.take task target rest).setPoses wc target).setUp wc input nstate).collide wc nstate)
  | begin {c} (h : c.own.currentState = .newGrasp) {task : SubTaskPtr R G V}
      {target : TargetPtr G V} {rest : List (SubTaskPtr R G V × TargetPtr G V)}
      (hq : c.sim.taskQueue = (task, target) :: rest) (nstate : S)
      (unset : c.sim.forceSimulateAll = true ∨
        (c.sim.results target.target.result).testStatus = .unInitialized)
      (free : wc.inCollision nstate = false) :
      Move wc grader input promise c
        ((((c.take task target rest).setPoses wc target).setUp wc input nstate).beginApproach wc
          nstate)

/-- A sequence of moves. -/
abbrev Moves (wc : WorkCell R G V S) (grader : Grader R G V) (input : StepInput R S)
    (promise : Promise) : Call ι R G V S → Call ι R G V S → Prop :=
  Relation.ReflTransGen (Move wc grader input promise)

/-! ## The conditions behind the promises -/

/-- The object of a lift that is judged now and the status it gets, unless it is dropped. -/
def liftOutcome (wc : WorkCell R G V S) (input : StepInput R S) (c : Call ι R G V S) :
    Option (String × TestStatus) :=
  let gobj := wc.getObjectContacts c.sim.hand c.sim.objects input.state
  match c.sim.hand.suctionCup, gobj.object with
  | some scup, _ =>
    if scup.isClosed input.state then some (scup.contactBody input.state, .success) else none
  | none, none => none
  | none, some object =>
    if 1 / 2 < liftResult (c.slippage wc input object (gobj.bodies.headD "") gobj.contacts) then
      some (object, .success)
    else some (object, .objectSlipped)

/-- A grasp in progress is not ended twice by the checks, and no other is ended. -/
def EndsOnce (wc : WorkCell R G V S) (input : StepInput R S) (c : Call ι R G V S) : Prop :=
  (c.own.currentState = .newGrasp → ¬ c.overLimits input ∧ wc.inCollision input.state = false) ∧
    (wc.inCollision input.state = true →
      ¬ c.overLimits input ∧ ¬ 5 < input.time ∧ input.isInError = false)

instance (wc : WorkCell R G V S) (input : StepInput R S) (c : Call ι R G V S) :
    Decidable (c.EndsOnce wc input) := inferInstanceAs (Decidable (_ ∧ _))

/-- Before the first target the limits and the collision test end nothing. -/
def EndsAssigned (wc : WorkCell R G V S) (input : StepInput R S) (c : Call ι R G V S) : Prop :=
  c.own.target = none → ¬ c.overLimits input ∧ wc.inCollision input.state = false

/-- The lift is judged in this callback. -/
def JudgesLift (wc : WorkCell R G V S) (input : StepInput R S) (c : Call ι R G V S) : Prop :=
  c.own.currentState = .lifting ∧ ¬ c.overLimits input ∧ ¬ 5 < input.time ∧
    input.isInError = false ∧ wc.inCollision input.state = false ∧
    c.isLifted wc input = true ∧ 5 < c.own.restCount + 1

/-- A lift judged now gets a status the hook leaves alone. -/
def KeepsGrade (wc : WorkCell R G V S) (grader : Grader R G V) (input : StepInput R S)
    (c : Call ι R G V S) : Prop :=
  c.JudgesLift wc input → ∀ object status, c.liftOutcome wc input = some (object, status) →
    grade wc grader c.sim.initState input.state status
      (wc.frameTframe c.sim.tcp object input.state)⁻¹ = status

instance (wc : WorkCell R G V S) (input : StepInput R S) (c : Call ι R G V S) :
    Decidable (c.EndsAssigned wc input) :=
  inferInstanceAs (Decidable (_ → _ ∧ _))

instance (wc : WorkCell R G V S) (input : StepInput R S) (c : Call ι R G V S) :
    Decidable (c.JudgesLift wc input) := inferInstanceAs (Decidable (_ ∧ _))

instance (wc : WorkCell R G V S) (grader : Grader R G V) (input : StepInput R S)
    (c : Call ι R G V S) : Decidable (c.KeepsGrade wc grader input) :=
  match h : c.liftOutcome wc input with
  | none => .isTrue fun _ object status hsome => by simp [h] at hsome
  | some (object, status) =>
    decidable_of_iff (c.JudgesLift wc input → grade wc grader c.sim.initState input.state status
      (wc.frameTframe c.sim.tcp object input.state)⁻¹ = status) <| by
      simp only [KeepsGrade, h, Option.some.injEq, Prod.mk.injEq]
      constructor
      · rintro hkeep hjudge _ _ ⟨rfl, rfl⟩
        exact hkeep hjudge
      · exact fun hkeep hjudge => hkeep hjudge object status ⟨rfl, rfl⟩

/-- The promise holds of a callback, which does nothing when a stop is requested. -/
structure Keeps (wc : WorkCell R G V S) (grader : Grader R G V) (input : StepInput R S)
    (promise : Promise) (c : Call ι R G V S) : Prop where
  once : promise.once → c.EndsOnce wc input
  assigned : promise.assigned → c.EndsAssigned wc input ∧
    (c.own.target = none → c.own.currentState = .newGrasp)
  graded : promise.graded → c.KeepsGrade wc grader input

/-! ## Callbacks are sequences of moves -/

section Decomposition

variable {wc : WorkCell R G V S} {grader : Grader R G V} {input : StepInput R S}
  {promise : Promise}

omit [Field R] [LinearOrder R] [Group G] [AddCommGroup V] [Module R V] [DistribMulAction G V] in
theorem Quiet.own {c : Call ι R G V S} {own : SimState R G V S}
    (stage : own.stage = c.own.stage) (target : own.target = c.own.target)
    (cache : own.toTaskCache = c.own.toTaskCache) (stopped : own.stopped = c.own.stopped) :
    c.Quiet { c with own := own } where
  thread := rfl
  sim := ⟨c.sim.timedStatePaths, rfl⟩
  stage := stage
  target := target
  cache := cache
  stopped := stopped

omit [Field R] [LinearOrder R] [Group G] [AddCommGroup V] [Module R V] [DistribMulAction G V] in
theorem Quiet.storePath (c : Call ι R G V S) (time : R) (state : S) :
    c.Quiet (c.storePath time state) where
  thread := rfl
  sim := ⟨_, rfl⟩
  stage := rfl
  target := rfl
  cache := rfl
  stopped := rfl

section
omit [Module R V]

theorem moves_approach (c : Call ι R G V S) :
    Moves wc grader input promise c (c.stepApproach wc input) := by
  unfold stepApproach
  split
  · rename_i h
    exact .single (.approach h.1)
  · exact .refl

theorem moves_closeGrasp (c : Call ι R G V S) (h : c.own.currentState = .grasping) :
    Moves wc grader input promise c (c.closeGrasp wc grader input) := by
  set c₁ : Call ι R G V S :=
    { c with own := { c.own with graspTime := input.time, postLiftObjState := input.state } }
    with hc₁
  have hgrasping : c₁.own.currentState = .grasping := h
  have hstage : c₁.own.stage = c.own.stage := by simp [hc₁, SimState.stage, h]
  have h₁ : Moves wc grader input promise c c₁ := .single (.quiet (.own hstage rfl rfl rfl))
  have h₂ : Moves wc grader input promise c
      (c₁.edit fun r => { r with gripperConfigurationGrasp := c₁.sim.hand.getQ input.state }) :=
    h₁.tail (.configure hgrasping _)
  unfold closeGrasp
  simp only
  split
  · exact h₂.tail (.miss h)
  · rename_i hnot
    refine h₂.tail (.grasp h rfl fun hsuction hnone => hnot ⟨?_, ?_⟩)
    · exact Option.isNone_iff_eq_none.mpr hnone
    · exact Option.isNone_iff_eq_none.mpr hsuction

theorem moves_grasping (c : Call ι R G V S) :
    Moves wc grader input promise c (c.stepGrasping wc grader input) := by
  have hcount : Moves wc grader input promise c (c.countRest input) :=
    .single (.quiet (.own rfl rfl rfl rfl))
  unfold stepGrasping
  split
  · rename_i h
    split
    · refine Relation.ReflTransGen.tail ?_ (.quiet (.own rfl rfl rfl rfl))
      unfold settle
      split
      · exact hcount.trans (moves_closeGrasp _ h)
      · exact hcount
    · exact .single (.quiet (.own rfl rfl rfl rfl))
  · exact .refl

end

theorem moves_judgeLift (c : Call ι R G V S) (h : c.own.currentState = .lifting)
    (hgrade : promise.graded → ∀ object status, c.liftOutcome wc input = some (object, status) →
      grade wc grader c.sim.initState c.own.state status
        (wc.frameTframe c.sim.tcp object input.state)⁻¹ = status) :
    Moves wc grader input promise c (c.judgeLift wc grader input) := by
  unfold judgeLift
  unfold liftOutcome at hgrade
  simp only at hgrade ⊢
  cases hs : c.sim.hand.suctionCup with
  | some scup =>
    simp only [hs] at hgrade ⊢
    split
    · rename_i hclosed
      rw [if_pos hclosed] at hgrade
      refine .single (.lift h _ _ (hs ▸ .success) (fun hnone => ?_) fun hp => hgrade hp _ _ rfl)
      simp [hs] at hnone
    · exact .single (.drop h)
  | none =>
    cases ho : (wc.getObjectContacts c.sim.hand c.sim.objects input.state).object with
    | none => exact .single (.drop h)
    | some object =>
      simp only [hs, ho] at hgrade ⊢
      split
      · rename_i hlift
        rw [if_pos hlift] at hgrade
        exact .single (.lift h _ _ (hs ▸ .success) (fun _ => ho) fun hp => hgrade hp _ _ rfl)
      · rename_i hlift
        rw [if_neg hlift] at hgrade
        exact .single (.lift h _ _ (hs ▸ .slipped rfl) (fun _ => ho) fun hp => hgrade hp _ _ rfl)

theorem moves_lifting (c : Call ι R G V S)
    (hgrade : promise.graded → c.own.currentState = .lifting → c.isLifted wc input = true →
      5 < c.own.restCount + 1 → ∀ object status, c.liftOutcome wc input = some (object, status) →
      grade wc grader c.sim.initState c.own.state status
        (wc.frameTframe c.sim.tcp object input.state)⁻¹ = status) :
    Moves wc grader input promise c (c.stepLifting wc grader input) := by
  unfold stepLifting
  split
  · rename_i h
    have hcount : Moves wc grader input promise c
        { c with own := { c.own with restCount := c.own.restCount + 1 } } :=
      .single (.quiet (.own rfl rfl rfl rfl))
    simp only
    split
    · rename_i hrest
      exact hcount.trans (moves_judgeLift _ h.1 fun hp => hgrade hp h.1 h.2 hrest)
    · exact hcount
  · exact .refl

/-! ### The checks -/

section
omit [Group G] [AddCommGroup V] [Module R V] [DistribMulAction G V]

theorem checkTimeLimits_neg {c : Call ι R G V S} (h : ¬ c.overLimits input) :
    c.checkTimeLimits wc grader input = c := if_neg h

theorem checkSimTime_neg {c : Call ι R G V S}
    (h : ¬ 5 < input.time ∨ c.own.currentState = .newGrasp) :
    c.checkSimTime wc grader input = c := by
  apply if_neg
  rintro ⟨htime, hstate⟩
  exact h.elim (fun hnot => hnot htime) hstate

theorem checkError_neg {c : Call ι R G V S}
    (h : input.isInError = false ∨ c.own.currentState = .newGrasp) :
    c.checkError wc grader input = c := by
  apply if_neg
  rcases h with h | h <;> simp [h]

theorem checkCollision_neg {c : Call ι R G V S} (h : wc.inCollision input.state = false) :
    c.checkCollision wc grader input = c := by
  apply if_neg
  simp [h]

/-- A check that may end the grasp keeps the target. -/
theorem target_checkTimeLimits (c : Call ι R G V S) :
    (c.checkTimeLimits wc grader input).own.target = c.own.target := by
  unfold checkTimeLimits
  split <;> rfl

theorem target_checkSimTime (c : Call ι R G V S) :
    (c.checkSimTime wc grader input).own.target = c.own.target := by
  unfold checkSimTime
  split <;> rfl

theorem target_checkError (c : Call ι R G V S) :
    (c.checkError wc grader input).own.target = c.own.target := by
  unfold checkError
  split <;> rfl

theorem checkTimeLimits_pos {c : Call ι R G V S} (h : c.overLimits input) :
    c.checkTimeLimits wc grader input = c.abort wc grader input .timeout .timeOut := if_pos h

theorem checkSimTime_pos {c : Call ι R G V S} (h : 5 < input.time)
    (hs : c.own.currentState ≠ .newGrasp) :
    c.checkSimTime wc grader input = c.abort wc grader input .timeout .timeOut := if_pos ⟨h, hs⟩

theorem checkError_pos {c : Call ι R G V S} (h : input.isInError = true)
    (hs : c.own.currentState ≠ .newGrasp) :
    c.checkError wc grader input = c.abort wc grader input .simfailed .simulationFailure :=
  if_pos ⟨h, hs⟩

/-- Either no check ends the grasp, or the thread is left in `NEW_GRASP`. -/
theorem checks_cases (c : Call ι R G V S) :
    (c.checks wc grader input = c ∧ ¬ c.overLimits input ∧ wc.inCollision input.state = false ∧
      (c.own.currentState ≠ .newGrasp → ¬ 5 < input.time ∧ input.isInError = false)) ∨
    (c.checks wc grader input).own.currentState = .newGrasp := by
  unfold checks
  simp only
  cases hcol : wc.inCollision input.state with
  | true =>
    right
    rw [checkCollision, if_pos hcol]
    rfl
  | false =>
    rw [checkCollision_neg hcol]
    by_cases hover : c.overLimits input
    · right
      rw [checkTimeLimits_pos hover, checkSimTime_neg (.inr rfl), checkError_neg (.inr rfl)]
      rfl
    · rw [checkTimeLimits_neg hover]
      by_cases hnew : c.own.currentState = .newGrasp
      · left
        rw [checkSimTime_neg (.inr hnew), checkError_neg (.inr hnew)]
        exact ⟨rfl, hover, rfl, fun h => absurd hnew h⟩
      · by_cases htime : 5 < input.time
        · right
          rw [checkSimTime_pos htime hnew, checkError_neg (.inr rfl)]
          rfl
        · rw [checkSimTime_neg (.inl htime)]
          cases herr : input.isInError with
          | true =>
            right
            rw [checkError_pos herr hnew]
            rfl
          | false =>
            left
            rw [checkError_neg (.inl herr)]
            exact ⟨rfl, hover, rfl, fun _ => ⟨htime, rfl⟩⟩

end

omit [Module R V] in
theorem moves_checks (c : Call ι R G V S) (once : promise.once → c.EndsOnce wc input)
    (assigned : promise.assigned → c.EndsAssigned wc input ∧
      (c.own.target = none → c.own.currentState = .newGrasp)) :
    Moves wc grader input promise c (c.checks wc grader input) := by
  by_cases hwild : promise.assigned ∧ c.own.target = none
  · obtain ⟨hover, hcol⟩ := (assigned hwild.1).1 hwild.2
    have hnew := (assigned hwild.1).2 hwild.2
    simp only [checks, checkTimeLimits_neg hover, checkSimTime_neg (.inr hnew),
      checkError_neg (.inr hnew), checkCollision_neg hcol]
    exact .refl
  · have htarget (hp : promise.assigned) : c.own.target ≠ none := fun h => hwild ⟨hp, h⟩
    set c₁ := c.checkTimeLimits wc grader input with hc₁
    set c₂ := c₁.checkSimTime wc grader input with hc₂
    set c₃ := c₂.checkError wc grader input with hc₃
    have ht₁ : c₁.own.target = c.own.target := target_checkTimeLimits c
    have ht₂ : c₂.own.target = c.own.target := (target_checkSimTime c₁).trans ht₁
    have ht₃ : c₃.own.target = c.own.target := (target_checkError c₂).trans ht₂
    have h₁ : Moves wc grader input promise c c₁ := by
      by_cases hover : c.overLimits input
      · rw [hc₁, checkTimeLimits_pos hover]
        exact .single (.abort .timeout (fun hp hnew => ((once hp).1 hnew).1 hover) htarget)
      · rw [hc₁, checkTimeLimits_neg hover]
    have h₂ : Moves wc grader input promise c₁ c₂ := by
      by_cases htime : 5 < input.time ∧ c₁.own.currentState ≠ .newGrasp
      · rw [hc₂, checkSimTime_pos htime.1 htime.2]
        exact .single (.abort .timeout (fun _ => htime.2) fun hp => ht₁ ▸ htarget hp)
      · rw [hc₂, checkSimTime, if_neg htime]
    have h₃ : Moves wc grader input promise c₂ c₃ := by
      by_cases herr : input.isInError = true ∧ c₂.own.currentState ≠ .newGrasp
      · rw [hc₃, checkError_pos herr.1 herr.2]
        exact .single (.abort .simfailed (fun _ => herr.2) fun hp => ht₂ ▸ htarget hp)
      · rw [hc₃, checkError, if_neg herr]
    have h₄ : Moves wc grader input promise c₃ (c₃.checkCollision wc grader input) := by
      cases hcol : wc.inCollision input.state with
      | false =>
        rw [checkCollision_neg hcol]
      | true =>
        rw [checkCollision, if_pos hcol]
        refine .single (.abort .collision (fun hp hnew => ?_) fun hp => ht₃ ▸ htarget hp)
        obtain ⟨hfresh, hboth⟩ := once hp
        obtain ⟨hover, htime, herr⟩ := hboth hcol
        rw [hc₃, hc₂, hc₁, checkTimeLimits_neg hover, checkSimTime_neg (.inl htime),
          checkError_neg (.inl herr)] at hnew
        simp [hcol] at hfresh
        exact hfresh hnew
    exact h₁.trans (h₂.trans (h₃.trans h₄))

/-! ### The whole callback -/

omit [Module R V] in
theorem stepApproach_of_ne {c : Call ι R G V S} (h : c.own.currentState ≠ .approach) :
    c.stepApproach wc input = c := if_neg fun h' => h h'.1

omit [Group G] [AddCommGroup V] [Module R V] [DistribMulAction G V] in
theorem stepGrasping_of_ne {c : Call ι R G V S} (h : c.own.currentState ≠ .grasping) :
    c.stepGrasping wc grader input = c := if_neg h

omit [Group G] [AddCommGroup V] [Module R V] [DistribMulAction G V] in
/-- A thread that has just begun to lift has not rested yet. -/
theorem restCount_stepGrasping {c : Call ι R G V S} (h : c.own.currentState ≠ .lifting)
    (hlift : (c.stepGrasping wc grader input).own.currentState = .lifting) :
    (c.stepGrasping wc grader input).own.restCount = 0 := by
  by_cases hgrasp : c.own.currentState = .grasping
  · by_cases htime : c.own.approachedTime + 1 / 2 < input.time
    · rw [stepGrasping, if_pos hgrasp, if_pos htime] at hlift ⊢
      change ((c.countRest input).settle wc grader input).own.currentState = .lifting at hlift
      change ((c.countRest input).settle wc grader input).own.restCount = 0
      unfold settle at hlift ⊢
      split at hlift
      · rename_i hrest
        rw [if_pos hrest]
        simp only [closeGrasp] at hlift ⊢
        split at hlift
        · cases hlift
        · rename_i hcontact
          rw [if_neg hcontact]
          rfl
      · exact absurd hlift h
    · rw [stepGrasping, if_pos hgrasp, if_neg htime] at hlift
      exact absurd hlift h
  · rw [stepGrasping_of_ne hgrasp] at hlift
    exact absurd hlift h

omit [Module R V] in
theorem stepApproach_lifting {c : Call ι R G V S}
    (h : (c.stepApproach wc input).own.currentState = .lifting) :
    c.own.currentState = .lifting := by
  unfold stepApproach at h
  split at h
  · cases h
  · exact h

theorem moves_act (c : Call ι R G V S) (keeps : c.Keeps wc grader input promise) :
    Moves wc grader input promise c (c.act wc grader input) := by
  set c₁ : Call ι R G V S := { c with own := { c.own with state := input.state } }
  set c₂ := c₁.storePath input.time input.state with hc₂
  set d := c₂.checks wc grader input with hd
  have h₁ : Moves wc grader input promise c c₂ :=
    (Relation.ReflTransGen.single (.quiet (.own rfl rfl rfl rfl)) : Moves _ _ _ _ c c₁).tail
      (.quiet (.storePath c₁ _ _))
  have h₂ : Moves wc grader input promise c₂ d := moves_checks c₂ keeps.once keeps.assigned
  have h₃ := h₁.trans (h₂.trans ((moves_approach d).trans (moves_grasping _)))
  refine h₃.trans (moves_lifting _ fun hp hlifting hlifted hrest => ?_)
  obtain ⟨hsame, hover, hcol, hgo⟩ | hnew : _ ∨ d.own.currentState = .newGrasp := checks_cases c₂
  · rw [← hd] at hsame
    by_cases hl : c₂.own.currentState = .lifting
    · have happroach : c₂.stepApproach wc input = c₂ := stepApproach_of_ne (by simp [hl])
      have hgrasping : c₂.stepGrasping wc grader input = c₂ := stepGrasping_of_ne (by simp [hl])
      rw [hsame, happroach, hgrasping] at hlifted hrest ⊢
      obtain ⟨htime, herr⟩ := hgo (by simp [hl])
      exact keeps.graded hp ⟨hl, hover, htime, herr, hcol, hlifted, hrest⟩
    · have hne : (d.stepApproach wc input).own.currentState ≠ .lifting := fun h =>
        hl (hsame ▸ stepApproach_lifting h)
      rw [restCount_stepGrasping hne hlifting] at hrest
      omega
  · rw [stepApproach_of_ne (by simp [hnew]), stepGrasping_of_ne (by simp [hnew]), hnew] at hlifting
    cases hlifting

omit [Field R] [LinearOrder R] [Group G] [AddCommGroup V] [Module R V] [DistribMulAction G V] in
theorem getNextTarget_nil {c : Call ι R G V S} (hq : c.sim.taskQueue = []) :
    c.getNextTarget = (none, { c with sim := { c.sim with currentTask := none } }) := by
  simp [getNextTarget, hq]

omit [Field R] [LinearOrder R] [Group G] [AddCommGroup V] [Module R V] [DistribMulAction G V] in
theorem getNextTarget_cons {c : Call ι R G V S} {task : SubTaskPtr R G V}
    {target : TargetPtr G V} {rest : List (SubTaskPtr R G V × TargetPtr G V)}
    (hq : c.sim.taskQueue = (task, target) :: rest) :
    c.getNextTarget = (some target, c.take task target rest) := by
  simp [getNextTarget, hq]

omit [Module R V] in
theorem move_nextGrasp (round : Call ι R G V S × S) (h : round.1.own.currentState = .newGrasp) :
    Move wc grader input promise round.1 (nextGrasp wc input round).1.1 := by
  cases hq : round.1.sim.taskQueue with
  | nil =>
    have hnext : round.1.getNextTarget = (none, round.1.getNextTarget.2) := by
      rw [getNextTarget_nil hq]
    rw [nextGrasp, hnext]
    exact .stop h hq
  | cons entry rest =>
    rw [nextGrasp, getNextTarget_cons hq]
    simp only
    split
    · rename_i hset
      exact .skip h hq hset.2
    · rename_i hset
      have hunset : round.1.sim.forceSimulateAll = true ∨
          (round.1.sim.results entry.2.target.result).testStatus = .unInitialized := by
        by_contra hnot
        rw [not_or, Bool.not_eq_true] at hnot
        exact hset hnot
      split
      · exact .collide h hq _ hunset
      · rename_i hfree
        exact .begin h hq _ hunset (by simpa using hfree)

omit [LinearOrder R] [Module R V] in
/-- Another round is one with a shorter queue, still in `NEW_GRASP`. -/
theorem nextGrasp_again (round : Call ι R G V S × S) (h : round.1.own.currentState = .newGrasp)
    (again : (nextGrasp wc input round).2 = true) :
    (nextGrasp wc input round).1.1.own.currentState = .newGrasp ∧
      (nextGrasp wc input round).1.1.sim.taskQueue.length + 1 = round.1.sim.taskQueue.length := by
  cases hq : round.1.sim.taskQueue with
  | nil => simp [nextGrasp, getNextTarget, hq] at again
  | cons entry rest =>
    rw [nextGrasp, getNextTarget_cons hq] at again ⊢
    simp only at again ⊢
    split
    · exact ⟨h, rfl⟩
    · rename_i hset
      rw [if_neg hset] at again
      split
      · exact ⟨h, rfl⟩
      · rename_i hcol
        rw [if_neg hcol] at again
        cases again

omit [Module R V] in
theorem moves_newGrasp (fuel : ℕ) (round : Call ι R G V S × S)
    (h : round.1.own.currentState = .newGrasp) {c : Call ι R G V S}
    (hc : newGrasp wc input fuel round = some c) : Moves wc grader input promise round.1 c := by
  induction fuel generalizing round with
  | zero => cases hc
  | succ fuel ih =>
    have hmove : Move wc grader input promise round.1 _ := move_nextGrasp round h
    simp only [newGrasp] at hc
    split at hc
    · rename_i hagain
      exact (Relation.ReflTransGen.single hmove).trans
        (ih _ (nextGrasp_again round h hagain).1 hc)
    · exact Option.some.inj hc ▸ .single hmove

omit [LinearOrder R] [Module R V] in
/-- The loop ends: its rounds are bounded by the length of the queue. -/
theorem newGrasp_terminates (round : Call ι R G V S × S)
    (h : round.1.own.currentState = .newGrasp) :
    ∃ c, ∀ fuel, round.1.sim.taskQueue.length < fuel → newGrasp wc input fuel round = some c := by
  induction hn : round.1.sim.taskQueue.length using Nat.strong_induction_on generalizing round with
  | _ n ih =>
    cases hagain : (nextGrasp wc input round).2 with
    | false =>
      refine ⟨(nextGrasp wc input round).1.1, fun fuel hfuel => ?_⟩
      obtain ⟨fuel, rfl⟩ := Nat.exists_eq_succ_of_ne_zero (Nat.ne_zero_of_lt hfuel)
      simp [newGrasp, hagain]
    | true =>
      obtain ⟨hnew, hlen⟩ := nextGrasp_again round h hagain
      obtain ⟨c, hc⟩ := ih _ (by omega) _ hnew rfl
      refine ⟨c, fun fuel hfuel => ?_⟩
      obtain ⟨fuel, rfl⟩ := Nat.exists_eq_succ_of_ne_zero (Nat.ne_zero_of_lt hfuel)
      simpa [newGrasp, hagain] using hc fuel (by omega)

/-- A callback is a sequence of moves, within what its input promises. -/
theorem moves_stepCB {fuel : ℕ} {c c' : Call ι R G V S}
    (keeps : c.sim.requestSimulationStop = true ∨ c.Keeps wc grader input promise)
    (h : c.stepCB wc grader input fuel = some c') : Moves wc grader input promise c c' := by
  unfold stepCB at h
  split at h
  · exact Option.some.inj h ▸ .refl
  · rename_i hstop
    have hact := moves_act c (keeps.resolve_left hstop)
    simp only at h
    split at h
    · rename_i hnew
      exact hact.trans (moves_newGrasp fuel (c.act wc grader input, _) hnew h)
    · exact Option.some.inj h ▸ hact

/-! ### Only `NEW_GRASP` takes from the queue -/

section
omit [Group G] [AddCommGroup V] [Module R V] [DistribMulAction G V]

theorem taskQueue_checks (c : Call ι R G V S) :
    (c.checks wc grader input).sim.taskQueue = c.sim.taskQueue := by
  have h₁ (c : Call ι R G V S) :
      (c.checkTimeLimits wc grader input).sim.taskQueue = c.sim.taskQueue := by
    unfold checkTimeLimits
    split <;> rfl
  have h₂ (c : Call ι R G V S) :
      (c.checkSimTime wc grader input).sim.taskQueue = c.sim.taskQueue := by
    unfold checkSimTime
    split <;> rfl
  have h₃ (c : Call ι R G V S) :
      (c.checkError wc grader input).sim.taskQueue = c.sim.taskQueue := by
    unfold checkError
    split <;> rfl
  have h₄ (c : Call ι R G V S) :
      (c.checkCollision wc grader input).sim.taskQueue = c.sim.taskQueue := by
    unfold checkCollision
    split <;> rfl
  simp only [checks, h₁, h₂, h₃, h₄]

theorem taskQueue_stepGrasping (c : Call ι R G V S) :
    (c.stepGrasping wc grader input).sim.taskQueue = c.sim.taskQueue := by
  have hclose (c : Call ι R G V S) :
      (c.closeGrasp wc grader input).sim.taskQueue = c.sim.taskQueue := by
    unfold closeGrasp
    simp only
    split <;> rfl
  have hsettle (c : Call ι R G V S) :
      (c.settle wc grader input).sim.taskQueue = c.sim.taskQueue := by
    unfold settle
    split
    · exact hclose c
    · rfl
  unfold stepGrasping
  split
  · split
    · exact hsettle _
    · rfl
  · rfl

theorem taskQueue_finish (k : Counter) (status : TestStatus)
    (e : GraspResult R G V → GraspResult R G V) (c : Call ι R G V S) :
    (c.finish wc grader k status e).sim.taskQueue = c.sim.taskQueue := rfl

end

theorem taskQueue_stepLifting (c : Call ι R G V S) :
    (c.stepLifting wc grader input).sim.taskQueue = c.sim.taskQueue := by
  have hlift (object : String) (k : Counter) (status : TestStatus) (x : R)
      (c : Call ι R G V S) :
      (c.lift wc grader input object k status x).sim.taskQueue = c.sim.taskQueue :=
    taskQueue_finish k status _ _
  have hdrop (c : Call ι R G V S) :
      (c.drop wc grader input).sim.taskQueue = c.sim.taskQueue :=
    taskQueue_finish _ _ _ c
  have hjudge (c : Call ι R G V S) :
      (c.judgeLift wc grader input).sim.taskQueue = c.sim.taskQueue := by
    unfold judgeLift
    simp only
    split
    · split
      · exact hlift _ _ _ _ c
      · exact hdrop c
    · exact hdrop c
    · split
      · exact hlift _ _ _ _ c
      · exact hlift _ _ _ _ c
  unfold stepLifting
  split
  · simp only
    split
    · exact hjudge _
    · rfl
  · rfl

theorem taskQueue_act (c : Call ι R G V S) :
    (c.act wc grader input).sim.taskQueue = c.sim.taskQueue := by
  have happroach (c : Call ι R G V S) :
      (c.stepApproach wc input).sim.taskQueue = c.sim.taskQueue := by
    unfold stepApproach
    split <;> rfl
  rw [act, taskQueue_stepLifting, taskQueue_stepGrasping, happroach, taskQueue_checks]
  rfl

/-- Every callback ends. -/
theorem stepCB_terminates (c : Call ι R G V S) :
    ∃ c', ∀ fuel, c.sim.taskQueue.length < fuel → c.stepCB wc grader input fuel = some c' := by
  unfold stepCB
  split
  · exact ⟨c, fun _ _ => rfl⟩
  · simp only
    split
    · rename_i hnew
      have hqueue : (c.act wc grader input).sim.taskQueue = c.sim.taskQueue := taskQueue_act c
      rw [← hqueue]
      exact newGrasp_terminates (c.act wc grader input, _) hnew
    · exact ⟨_, fun _ _ => rfl⟩

end Decomposition
end Call
end Gripperz.Simulation
