import Gripperz.Simulation.Dealing

/-! # Uses of the pointers of a thread

A guarded callback gives up as soon as it uses `_task` or `_target` before a target has been
assigned to the thread. Where it does not give up it is the callback. It gives up only in the
checks before the first target, which do not look at the state of the thread.
-/
namespace Gripperz.Simulation
open Math Grasps Library

variable {ι R G V S : Type} [Field R] [LinearOrder R] [Group G] [AddCommGroup V] [Module R V]
  [DistribMulAction G V]

/-- Why a guarded callback is given up. -/
inductive Fault where
  | unassigned | unfinished | unknownFrame | noRigidDevice | noObject
  deriving DecidableEq, Repr

namespace Call

/-! ## Guarded stages -/

/-- `getNextTarget` has assigned a target to the thread, and its subtask. -/
def Assigned (c : Call ι R G V S) : Prop := c.own.task.isSome = true ∧ c.own.target.isSome = true

instance (c : Call ι R G V S) : Decidable c.Assigned := inferInstanceAs (Decidable (_ ∧ _))

/-- The pointers are used first thing. -/
def guarded {α : Type} (f : Call ι R G V S → α) (c : Call ι R G V S) : Except Fault α :=
  if c.Assigned then .ok (f c) else .error .unassigned

def guardedIf (P : Prop) [Decidable P] (f : Call ι R G V S → Call ι R G V S)
    (c : Call ι R G V S) : Except Fault (Call ι R G V S) :=
  if P then c.guarded f else .ok c

section Stages
variable (keys : Bool) (wc : WorkCell R G V S) (grader : Grader R G V) (input : StepInput R S)

/-- The path is found by the pointers; this is a use if that of a pointer as a key is one. -/
def storePathGuarded (c : Call ι R G V S) : Except Fault (Call ι R G V S) :=
  if keys = true ∧ c.sim.storeTimedStatePaths = true then
    c.guarded fun c => c.storePath input.time input.state
  else .ok (c.storePath input.time input.state)

def checkTimeLimitsGuarded (c : Call ι R G V S) : Except Fault (Call ι R G V S) :=
  c.guardedIf (c.overLimits input) fun c => c.abort wc grader input .timeout .timeOut

def checkSimTimeGuarded (c : Call ι R G V S) : Except Fault (Call ι R G V S) :=
  c.guardedIf (5 < input.time ∧ c.own.currentState ≠ .newGrasp) fun c =>
    c.abort wc grader input .timeout .timeOut

def checkErrorGuarded (c : Call ι R G V S) : Except Fault (Call ι R G V S) :=
  c.guardedIf (input.isInError = true ∧ c.own.currentState ≠ .newGrasp) fun c =>
    c.abort wc grader input .simfailed .simulationFailure

def checkCollisionGuarded (c : Call ι R G V S) : Except Fault (Call ι R G V S) :=
  c.guardedIf (wc.inCollision input.state = true) fun c =>
    c.abort wc grader input .collision .collisionDuringExecution

def checksGuarded (c : Call ι R G V S) : Except Fault (Call ι R G V S) := do
  let c ← c.checkTimeLimitsGuarded wc grader input
  let c ← c.checkSimTimeGuarded wc grader input
  let c ← c.checkErrorGuarded wc grader input
  c.checkCollisionGuarded wc grader input

def stepApproachGuarded (c : Call ι R G V S) : Except Fault (Call ι R G V S) :=
  c.guardedIf (c.own.currentState = .approach ∧
      wc.norm2 ((wc.worldTframe c.sim.mbase input.state).P - c.own.wTmbase_approachTarget.P) <
        2 / 1000) fun c => c.reachApproach wc input

def settleGuarded (c : Call ι R G V S) : Except Fault (Call ι R G V S) :=
  c.guardedIf ((c.isResting input = true ∧ 3 / 2 < input.time - c.own.restingTime) ∨
      8 < input.time) fun c => c.closeGrasp wc grader input

def stepGraspingGuarded (c : Call ι R G V S) : Except Fault (Call ι R G V S) :=
  if c.own.currentState = .grasping then
    if c.own.approachedTime + 1 / 2 < input.time then do
      let c ← (c.countRest input).settleGuarded wc grader input
      return c.noteRest input
    else .ok { c with own := { c.own with restingTime := input.time } }
  else .ok c

def stepLiftingGuarded (c : Call ι R G V S) : Except Fault (Call ι R G V S) :=
  if c.own.currentState = .lifting ∧ c.isLifted wc input = true then
    let c := { c with own := { c.own with restCount := c.own.restCount + 1 } }
    c.guardedIf (5 < c.own.restCount) fun c => c.judgeLift wc grader input
  else .ok c

/-- A target that has been taken is assigned; its status, its pose and the limits of its subtask
are read. -/
def nextGraspGuarded (round : Call ι R G V S × S) :
    Except Fault ((Call ι R G V S × S) × Bool) :=
  match round.1.getNextTarget with
  | (none, _) => .ok (nextGrasp wc input round)
  | (some _, c) => c.guarded fun _ => nextGrasp wc input round

def newGraspGuarded : ℕ → Call ι R G V S × S → Except Fault (Call ι R G V S)
  | 0, _ => .error .unfinished
  | fuel + 1, round => do
    let (round, again) ← nextGraspGuarded wc input round
    if again then newGraspGuarded fuel round else .ok round.1

def actGuarded (c : Call ι R G V S) : Except Fault (Call ι R G V S) := do
  let c ← { c with own := { c.own with state := input.state } }.storePathGuarded keys input
  let c ← c.checksGuarded wc grader input
  let c ← c.stepApproachGuarded wc input
  let c ← c.stepGraspingGuarded wc grader input
  c.stepLiftingGuarded wc grader input

def stepCBGuarded (fuel : ℕ) (c : Call ι R G V S) : Except Fault (Call ι R G V S) :=
  if c.sim.requestSimulationStop then .ok c
  else do
    let c ← c.actGuarded keys wc grader input
    if c.own.currentState = .newGrasp then newGraspGuarded wc input fuel (c, c.own.homeState)
    else .ok c

/-- What is used before the first target: the paths and the checks that do not look at the state of
the thread. -/
def UsesAssigned (c : Call ι R G V S) : Prop :=
  c.own.target = none → ¬ (keys = true ∧ c.sim.storeTimedStatePaths = true) ∧
    ¬ c.overLimits input ∧ wc.inCollision input.state = false

instance (c : Call ι R G V S) : Decidable (c.UsesAssigned keys wc input) :=
  decidable_of_iff (c.own.target.isNone = true → ¬ (keys = true ∧ c.sim.storeTimedStatePaths = true)
    ∧ ¬ c.overLimits input ∧ wc.inCollision input.state = false)
    (by rw [UsesAssigned, Option.isNone_iff_eq_none])

end Stages

/-! ## Assigned pointers -/

variable {keys : Bool} {wc : WorkCell R G V S} {grader : Grader R G V} {input : StepInput R S}
  {promise : Promise}

theorem ok_bind {α β : Type} (a : α) (f : α → Except Fault β) : (Except.ok a >>= f) = f a := rfl

section
omit [Field R] [LinearOrder R] [Group G] [AddCommGroup V] [Module R V] [DistribMulAction G V]

theorem guardedIf_of_assigned {c : Call ι R G V S} (h : c.Assigned) (P : Prop) [Decidable P]
    (f : Call ι R G V S → Call ι R G V S) : c.guardedIf P f = .ok (if P then f c else c) := by
  unfold guardedIf guarded
  rw [if_pos h]
  split <;> rfl

theorem guardedIf_neg {c : Call ι R G V S} {P : Prop} [Decidable P] (h : ¬ P)
    (f : Call ι R G V S → Call ι R G V S) : c.guardedIf P f = .ok c := if_neg h

theorem assigned_take (task : SubTaskPtr R G V) (p : TargetPtr G V)
    (rest : List (SubTaskPtr R G V × TargetPtr G V)) (c : Call ι R G V S) :
    (c.take task p rest).Assigned := by
  refine ⟨?_, rfl⟩
  change (c.nextCache task).task.isSome = true
  unfold nextCache
  split
  · rename_i hsame
    cases htask : c.own.task with
    | none => simp [htask] at hsame
    | some task => rfl
  · rfl

end

omit [Module R V] in
/-- A move leaves assigned pointers assigned. -/
theorem assigned_move {c c' : Call ι R G V S} (h : c.Move wc grader input promise c')
    (assigned : c.Assigned) : c'.Assigned := by
  rcases move_cases h with ⟨es, hshift, -⟩ | ⟨task, p, e, hdeal, -⟩
  · have htask : c'.own.task = c.own.task := congrArg TaskCache.task hshift.cache
    rwa [Assigned, htask, hshift.target]
  · have htask : c'.own.task = (c.nextCache task).task := congrArg TaskCache.task hdeal.cache
    rw [Assigned, htask, hdeal.target]
    exact assigned_take task p [] c

omit [Module R V] in
theorem assigned_moves {c c' : Call ι R G V S} (h : c.Moves wc grader input promise c')
    (assigned : c.Assigned) : c'.Assigned := by
  induction h with
  | refl => exact assigned
  | tail _ hmove ih => exact assigned_move hmove ih

omit [Group G] [AddCommGroup V] [Module R V] [DistribMulAction G V] in
theorem assigned_abort {c : Call ι R G V S} (h : c.Assigned) (k : Counter) (status : TestStatus) :
    (c.abort wc grader input k status).Assigned := h

omit [Field R] [LinearOrder R] [Group G] [AddCommGroup V] [Module R V] [DistribMulAction G V] in
theorem assigned_ite {c : Call ι R G V S} {P : Prop} [Decidable P]
    {f : Call ι R G V S → Call ι R G V S} (h : c.Assigned) (hf : (f c).Assigned) :
    (if P then f c else c).Assigned := by
  split
  · exact hf
  · exact h

omit [Group G] [AddCommGroup V] [Module R V] [DistribMulAction G V] in
theorem checksGuarded_of_assigned {c : Call ι R G V S} (h : c.Assigned) :
    c.checksGuarded wc grader input = .ok (c.checks wc grader input) := by
  set c₁ := c.checkTimeLimits wc grader input
  set c₂ := c₁.checkSimTime wc grader input
  set c₃ := c₂.checkError wc grader input
  have h₁ : c₁.Assigned := assigned_ite h (assigned_abort h _ _)
  have h₂ : c₂.Assigned := assigned_ite h₁ (assigned_abort h₁ _ _)
  have h₃ : c₃.Assigned := assigned_ite h₂ (assigned_abort h₂ _ _)
  have hlimits : c.checkTimeLimitsGuarded wc grader input = .ok c₁ := guardedIf_of_assigned h _ _
  have hsim : c₁.checkSimTimeGuarded wc grader input = .ok c₂ := guardedIf_of_assigned h₁ _ _
  have herror : c₂.checkErrorGuarded wc grader input = .ok c₃ := guardedIf_of_assigned h₂ _ _
  have hcollision : c₃.checkCollisionGuarded wc grader input =
      .ok (c₃.checkCollision wc grader input) := guardedIf_of_assigned h₃ _ _
  rw [checksGuarded, hlimits, ok_bind, hsim, ok_bind, herror, ok_bind]
  exact hcollision

omit [Group G] [AddCommGroup V] [Module R V] [DistribMulAction G V] in
theorem stepGraspingGuarded_of_assigned {c : Call ι R G V S} (h : c.Assigned) :
    c.stepGraspingGuarded wc grader input = .ok (c.stepGrasping wc grader input) := by
  have hsettle : (c.countRest input).settleGuarded wc grader input =
      .ok ((c.countRest input).settle wc grader input) :=
    guardedIf_of_assigned (c := c.countRest input) h _ _
  unfold stepGraspingGuarded stepGrasping
  split
  · split
    · rw [hsettle, ok_bind]
      rfl
    · rfl
  · rfl

theorem stepLiftingGuarded_of_assigned {c : Call ι R G V S} (h : c.Assigned) :
    c.stepLiftingGuarded wc grader input = .ok (c.stepLifting wc grader input) := by
  unfold stepLiftingGuarded stepLifting
  split
  · simp only
    rw [guardedIf_of_assigned]
    exact h
  · rfl

/-- What follows the checks, for a thread with a target. -/
theorem stagesGuarded_of_assigned {c : Call ι R G V S} (h : c.Assigned) :
    (do
      let c ← c.stepApproachGuarded wc input
      let c ← c.stepGraspingGuarded wc grader input
      c.stepLiftingGuarded wc grader input) =
      .ok (((c.stepApproach wc input).stepGrasping wc grader input).stepLifting wc grader
        input) := by
  set c₁ := c.stepApproach wc input
  have hmoves₁ : Moves wc grader input ⟨False, False, False⟩ c c₁ := moves_approach c
  have h₁ : c₁.Assigned := assigned_moves hmoves₁ h
  have hmoves₂ : Moves wc grader input ⟨False, False, False⟩ c₁
      (c₁.stepGrasping wc grader input) := moves_grasping c₁
  have happroach : c.stepApproachGuarded wc input = .ok c₁ := guardedIf_of_assigned h _ _
  rw [happroach, ok_bind, stepGraspingGuarded_of_assigned h₁, ok_bind]
  exact stepLiftingGuarded_of_assigned (assigned_moves hmoves₂ h₁)

omit [LinearOrder R] [Module R V] in
/-- A target taken from the queue is assigned before it is used. -/
theorem nextGraspGuarded_eq (round : Call ι R G V S × S) :
    nextGraspGuarded wc input round = .ok (nextGrasp wc input round) := by
  unfold nextGraspGuarded
  cases hq : round.1.sim.taskQueue with
  | nil => rw [getNextTarget_nil hq]
  | cons entry rest =>
    rw [getNextTarget_cons hq]
    exact if_pos (assigned_take entry.1 entry.2 rest round.1)

/-- The outcome of a loop that may be given up. -/
def finished : Option (Call ι R G V S) → Except Fault (Call ι R G V S)
  | none => .error .unfinished
  | some c => .ok c

omit [LinearOrder R] [Module R V] in
theorem newGraspGuarded_eq (fuel : ℕ) (round : Call ι R G V S × S) :
    newGraspGuarded wc input fuel round = finished (newGrasp wc input fuel round) := by
  induction fuel generalizing round with
  | zero => rfl
  | succ fuel ih =>
    rw [newGraspGuarded, nextGraspGuarded_eq, newGrasp]
    obtain ⟨round', again⟩ := nextGrasp wc input round
    cases again with
    | true => exact ih round'
    | false => rfl

theorem stepCBGuarded_of_act {c : Call ι R G V S} (fuel : ℕ)
    (hstop : ¬ c.sim.requestSimulationStop = true)
    (hact : c.actGuarded keys wc grader input = .ok (c.act wc grader input)) :
    c.stepCBGuarded keys wc grader input fuel =
      finished (c.stepCB wc grader input fuel) := by
  rw [stepCBGuarded, stepCB, if_neg hstop, if_neg hstop, hact, ok_bind]
  simp only
  split
  · exact newGraspGuarded_eq fuel _
  · rfl

theorem actGuarded_of_assigned {c : Call ι R G V S} (h : c.Assigned) :
    c.actGuarded keys wc grader input = .ok (c.act wc grader input) := by
  set c₁ : Call ι R G V S := { c with own := { c.own with state := input.state } } with hc₁
  set c₂ := c₁.storePath input.time input.state
  have h₁ : c₁.Assigned := h
  have h₂ : c₂.Assigned := h
  have hpath : c₁.storePathGuarded keys input = .ok c₂ := by
    unfold storePathGuarded guarded
    rw [if_pos h₁]
    split <;> rfl
  have hmoves : Moves wc grader input ⟨False, False, False⟩ c₂ (c₂.checks wc grader input) :=
    moves_checks c₂ False.elim False.elim
  rw [actGuarded, ← hc₁, hpath, ok_bind, checksGuarded_of_assigned h₂, ok_bind]
  exact stagesGuarded_of_assigned (assigned_moves hmoves h₂)

/-! ## Before the first target -/

/-- A thread whose pointers are not assigned has neither and is in `NEW_GRASP`. -/
structure Consistent (own : SimState R G V S) : Prop where
  idle : own.target = none → own.currentState = .newGrasp
  both : own.task.isSome = own.target.isSome

omit [Field R] [LinearOrder R] [Group G] [AddCommGroup V] [Module R V] [DistribMulAction G V] in
theorem Consistent.assigned_iff {c : Call ι R G V S} (h : Consistent c.own) :
    c.Assigned ↔ c.own.target ≠ none := by
  rw [Assigned, h.both, and_self, Option.isSome_iff_ne_none]

omit [Group G] [AddCommGroup V] [Module R V] [DistribMulAction G V] in
/-- In `NEW_GRASP` the checks pass within the limits and without collision. -/
theorem checks_of_idle {c : Call ι R G V S} (idle : c.own.currentState = .newGrasp)
    (hover : ¬ c.overLimits input) (hfree : wc.inCollision input.state = false) :
    c.checks wc grader input = c := by
  simp only [checks, checkTimeLimits_neg hover, checkSimTime_neg (.inr idle),
    checkError_neg (.inr idle), checkCollision_neg hfree]

omit [Group G] [AddCommGroup V] [Module R V] [DistribMulAction G V] in
theorem checksGuarded_of_idle {c : Call ι R G V S} (idle : c.own.currentState = .newGrasp)
    (hnot : ¬ c.Assigned) : c.checksGuarded wc grader input =
      if ¬ c.overLimits input ∧ wc.inCollision input.state = false then
        .ok (c.checks wc grader input)
      else .error .unassigned := by
  have hsim : c.checkSimTimeGuarded wc grader input = .ok c :=
    guardedIf_neg (fun hcond => hcond.2 idle) _
  have herror : c.checkErrorGuarded wc grader input = .ok c :=
    guardedIf_neg (fun hcond => hcond.2 idle) _
  unfold checksGuarded
  by_cases hover : c.overLimits input
  · have hlimits : c.checkTimeLimitsGuarded wc grader input = .error .unassigned := by
      rw [checkTimeLimitsGuarded, guardedIf, if_pos hover, guarded, if_neg hnot]
    rw [hlimits, if_neg fun hcond => hcond.1 hover]
    rfl
  · have hlimits : c.checkTimeLimitsGuarded wc grader input = .ok c := guardedIf_neg hover _
    rw [hlimits, ok_bind, hsim, ok_bind, herror, ok_bind]
    cases hcol : wc.inCollision input.state with
    | true =>
      rw [if_neg (by simp), checkCollisionGuarded, guardedIf, if_pos hcol, guarded, if_neg hnot]
    | false =>
      rw [if_pos ⟨hover, rfl⟩, checks_of_idle idle hover hcol]
      exact guardedIf_neg (by simp [hcol]) _

/-- In `NEW_GRASP` nothing happens between the checks and the next target. -/
theorem stages_of_idle {c : Call ι R G V S} (idle : c.own.currentState = .newGrasp) :
    ((c.stepApproach wc input).stepGrasping wc grader input).stepLifting wc grader input = c := by
  rw [stepApproach_of_ne (by simp [idle]), stepGrasping_of_ne (by simp [idle])]
  exact if_neg fun hcond => by simp [idle] at hcond

theorem stagesGuarded_of_idle {c : Call ι R G V S} (idle : c.own.currentState = .newGrasp) :
    (do
      let c ← c.stepApproachGuarded wc input
      let c ← c.stepGraspingGuarded wc grader input
      c.stepLiftingGuarded wc grader input) = .ok c := by
  have happroach : c.stepApproachGuarded wc input = .ok c :=
    guardedIf_neg (fun hcond => by simp [idle] at hcond) _
  have hgrasping : c.stepGraspingGuarded wc grader input = .ok c := if_neg (by simp [idle])
  rw [happroach, ok_bind, hgrasping, ok_bind]
  exact if_neg fun hcond => by simp [idle] at hcond

theorem actGuarded_of_none {c : Call ι R G V S} (h : Consistent c.own)
    (hnone : c.own.target = none) : c.actGuarded keys wc grader input =
      if ¬ (keys = true ∧ c.sim.storeTimedStatePaths = true) ∧ ¬ c.overLimits input ∧
          wc.inCollision input.state = false then .ok (c.act wc grader input)
      else .error .unassigned := by
  set c₁ : Call ι R G V S := { c with own := { c.own with state := input.state } } with hc₁
  set c₂ := c₁.storePath input.time input.state
  have hidle : c₂.own.currentState = .newGrasp := h.idle hnone
  have hnot : ¬ c.Assigned := fun hassigned => h.assigned_iff.mp hassigned hnone
  have hnot₁ : ¬ c₁.Assigned := hnot
  have hnot₂ : ¬ c₂.Assigned := hnot
  unfold actGuarded
  by_cases hstore : keys = true ∧ c.sim.storeTimedStatePaths = true
  · have hpath : c₁.storePathGuarded keys input = .error .unassigned := by
      rw [storePathGuarded, if_pos hstore, guarded, if_neg hnot₁]
    rw [← hc₁, hpath, if_neg fun hcond => hcond.1 hstore]
    rfl
  · have hpath : c₁.storePathGuarded keys input = .ok c₂ := by
      rw [storePathGuarded, if_neg hstore]
    rw [← hc₁, hpath, ok_bind, checksGuarded_of_idle hidle hnot₂]
    by_cases hfree : ¬ c₂.overLimits input ∧ wc.inCollision input.state = false
    · have hcond : ¬ (keys = true ∧ c.sim.storeTimedStatePaths = true) ∧ ¬ c.overLimits input ∧
          wc.inCollision input.state = false := ⟨hstore, hfree⟩
      have hact : c.act wc grader input = (((c₂.checks wc grader input).stepApproach wc
          input).stepGrasping wc grader input).stepLifting wc grader input := rfl
      rw [if_pos hfree, if_pos hcond, hact, checks_of_idle hidle hfree.1 hfree.2,
        stages_of_idle hidle]
      exact stagesGuarded_of_idle hidle
    · rw [if_neg hfree, if_neg fun hcond => hfree hcond.2]
      rfl

omit [Module R V] in
/-- A move keeps the pointers of a thread consistent. -/
theorem consistent_move {c c' : Call ι R G V S} (h : c.Move wc grader input promise c')
    (consistent : Consistent c.own) : Consistent c'.own := by
  rcases move_cases h with ⟨es, hshift, hgo, -⟩ | ⟨task, p, e, hdeal, -⟩
  · have htask : c'.own.task = c.own.task := congrArg TaskCache.task hshift.cache
    constructor
    · intro hnone
      have hidle := SimState.stage_eq_newGrasp.mpr (consistent.idle (hshift.target ▸ hnone))
      rw [hidle] at hgo
      rw [← SimState.stage_eq_newGrasp]
      generalize c'.own.stage = stage at hgo
      cases hgo with
      | still => rfl
      | abort => rfl
    · rw [htask, hshift.target]
      exact consistent.both
  · have htask : c'.own.task = (c.nextCache task).task := congrArg TaskCache.task hdeal.cache
    constructor
    · intro hnone
      rw [hdeal.target] at hnone
      cases hnone
    · rw [htask, hdeal.target]
      exact (assigned_take task p [] c).1

/-- Up to the loop of `NEW_GRASP` a callback is given up where something is used before the first
target. -/
theorem actGuarded_eq {c : Call ι R G V S} (h : Consistent c.own) :
    c.actGuarded keys wc grader input =
      if c.UsesAssigned keys wc input then .ok (c.act wc grader input)
      else .error .unassigned := by
  by_cases hnone : c.own.target = none
  · rw [actGuarded_of_none h hnone]
    by_cases huses : c.UsesAssigned keys wc input
    · rw [if_pos huses, if_pos (huses hnone)]
    · rw [if_neg huses, if_neg fun hcond => huses fun _ => hcond]
  · have huses : c.UsesAssigned keys wc input := fun hnone' => absurd hnone' hnone
    rw [if_pos huses]
    exact actGuarded_of_assigned (h.assigned_iff.mpr hnone)

/-- A guarded callback is the callback, and is given up exactly where something is used before the
first target. -/
theorem stepCBGuarded_eq {c : Call ι R G V S} (h : Consistent c.own) (fuel : ℕ) :
    c.stepCBGuarded keys wc grader input fuel =
      if c.sim.requestSimulationStop = true ∨ c.UsesAssigned keys wc input then
        finished (c.stepCB wc grader input fuel)
      else .error .unassigned := by
  by_cases hstop : c.sim.requestSimulationStop = true
  · rw [if_pos (.inl hstop), stepCBGuarded, stepCB, if_pos hstop, if_pos hstop]
    rfl
  · have hact : c.actGuarded keys wc grader input = _ := actGuarded_eq h
    by_cases huses : c.UsesAssigned keys wc input
    · rw [if_pos (.inr huses)]
      rw [if_pos huses] at hact
      exact stepCBGuarded_of_act fuel hstop hact
    · rw [if_neg (not_or.mpr ⟨hstop, huses⟩), stepCBGuarded, if_neg hstop, hact, if_neg huses]
      rfl

omit [Field R] [LinearOrder R] [Group G] [AddCommGroup V] [Module R V] [DistribMulAction G V] in
theorem finished_ne_unassigned (c : Option (Call ι R G V S)) : finished c ≠ .error .unassigned := by
  cases c <;> simp [finished]

theorem stepCBGuarded_ne_iff {c : Call ι R G V S} (h : Consistent c.own) (fuel : ℕ) :
    c.stepCBGuarded keys wc grader input fuel ≠ .error .unassigned ↔
      c.sim.requestSimulationStop = true ∨ c.UsesAssigned keys wc input := by
  rw [stepCBGuarded_eq h]
  split
  · rename_i hcond
    exact ⟨fun _ => hcond, fun _ => finished_ne_unassigned _⟩
  · rename_i hcond
    exact ⟨fun hne => absurd rfl hne, fun hcond' => absurd hcond' hcond⟩

end Call

/-! ## Runs -/

namespace World
variable [DecidableEq ι]

/-- The states of the object and its threads, with the setters, loading and starting at any time
and `next` in between. -/
inductive Reachable (wc : WorkCell R G V S) (next : World ι R G V S → World ι R G V S → Prop) :
    World ι R G V S → Prop where
  | constructed {w : World ι R G V S} (h : ∀ t, ∃ state, w.threads t = newSimState state) :
      Reachable wc next w
  | configure {w : World ι R G V S} (wallTimeLimit simTimeLimit : R)
      (storeTimedStatePaths forceSimulateAll : Bool) (h : Reachable wc next w) :
      Reachable wc next { w with sim := { w.sim with
        wallTimeLimit := wallTimeLimit, simTimeLimit := simTimeLimit,
        storeTimedStatePaths := storeTimedStatePaths, forceSimulateAll := forceSimulateAll } }
  | load {w : World ι R G V S} (graspTasks : GraspTask R G V) (h : Reachable wc next w) :
      Reachable wc next { w with sim := (w.sim.load wc graspTasks).1 }
  | start {w : World ι R G V S} (below : Transform3D G V) (initState : S)
      (h : Reachable wc next w) : Reachable wc next (w.start wc below initState)
  | next {w w' : World ι R G V S} (h : Reachable wc next w) (step : next w w') :
      Reachable wc next w'

omit [LinearOrder R] [Module R V] [DistribMulAction G V] [DecidableEq ι] in
theorem Reachable.run {wc : WorkCell R G V S}
    {next : World ι R G V S → World ι R G V S → Prop} {w w' : World ι R G V S}
    (h : Reachable wc next w) (run : Relation.ReflTransGen next w w') : Reachable wc next w' := by
  induction run with
  | refl => exact h
  | tail _ hstep ih => exact .next ih hstep

/-- One atomic action, its callback guarded. -/
inductive GuardedStep (keys : Bool) (wc : WorkCell R G V S) (grader : Grader R G V) :
    World ι R G V S → Action ι R S → World ι R G V S → Prop where
  | stepCB {w : World ι R G V S} {t : ι} {input : StepInput R S} {fuel : ℕ} {c : Call ι R G V S}
      (h : (w.call t).stepCBGuarded keys wc grader input fuel = .ok c) :
      GuardedStep keys wc grader w (.stepCB t input) (w.during c)
  | pauseSimulation {w : World ι R G V S} :
      GuardedStep keys wc grader w .pauseSimulation w.pauseSimulation
  | resumeSimulation {w : World ι R G V S} :
      GuardedStep keys wc grader w .resumeSimulation w.resumeSimulation

variable {keys : Bool} {wc : WorkCell R G V S} {grader : Grader R G V}

/-- Every thread has consistent pointers. -/
def ConsistentThreads (w : World ι R G V S) : Prop := ∀ t, Call.Consistent (w.threads t)

omit [LinearOrder R] [Module R V] [DistribMulAction G V] in
theorem consistent_newSimState (state : S) :
    Call.Consistent (newSimState state : SimState R G V S) := ⟨fun _ => rfl, rfl⟩

theorem consistent_step {w w' : World ι R G V S} {a : Action ι R S}
    (step : Step wc grader w a w') (h : w.ConsistentThreads) : w'.ConsistentThreads := by
  have hrun : Run wc grader (fun _ _ => True) w w' := by
    refine .single ⟨a, step, ?_⟩
    cases a with
    | stepCB t input => exact Or.inr trivial
    | pauseSimulation => trivial
    | resumeSimulation => trivial
  apply Run.invariant ⟨False, False, False⟩ _ _ _ hrun h
  · intro w t input _ _
    exact ⟨False.elim, False.elim, False.elim⟩
  · intro w c c' input hthreads hmove
    have hthread : c'.thread = c.thread := by
      rcases Call.move_cases hmove with ⟨es, hshift, -⟩ | ⟨task, p, e, hdeal, -⟩
      · exact hshift.thread
      · exact hdeal.thread
    exact forall_threads w hthread hthreads (Call.consistent_move hmove)
  · intro w b hthreads
    exact hthreads

theorem consistent_reachable {next : World ι R G V S → World ι R G V S → Prop}
    (steps : ∀ {w w'}, next w w' → ∃ a, Step wc grader w a w') {w : World ι R G V S}
    (h : Reachable wc next w) : w.ConsistentThreads := by
  induction h with
  | constructed h =>
    intro t
    obtain ⟨state, hstate⟩ := h t
    rw [hstate]
    exact consistent_newSimState state
  | configure wallTimeLimit simTimeLimit storeTimedStatePaths forceSimulateAll h ih => exact ih
  | load graspTasks h ih => exact ih
  | start below initState h ih =>
    unfold start startSimulation
    simp only
    split
    · exact ih
    · intro t
      exact consistent_newSimState _
  | next h step ih =>
    obtain ⟨a, hstep⟩ := steps step
    exact consistent_step hstep ih

/-- A callback that uses nothing before the first target is a guarded one. -/
theorem guarded_of_step {w w' : World ι R G V S} {a : Action ι R S}
    (step : Step wc grader w a w') (consistent : w.ConsistentThreads)
    (meets : a.Meets (fun input c => c.UsesAssigned keys wc input) w) :
    GuardedStep keys wc grader w a w' := by
  cases step with
  | @stepCB t input fuel c hc =>
    have huses : (w.call t).sim.requestSimulationStop = true ∨
        (w.call t).UsesAssigned keys wc input := meets
    have hguarded : (w.call t).stepCBGuarded keys wc grader input fuel = .ok c := by
      rw [Call.stepCBGuarded_eq (c := w.call t) (consistent t), if_pos huses, hc]
      rfl
    exact .stepCB hguarded
  | pauseSimulation => exact .pauseSimulation
  | resumeSimulation => exact .resumeSimulation

/-- Where every callback of a run uses the pointers of its thread only once a target has been
assigned, none is given up: the run is one of guarded callbacks. And in every reachable state a
guarded callback is given up exactly when the thread has no target, and paths are stored, the
limits are passed or there is a collision. -/
theorem no_unassigned_access (keys : Bool) (wc : WorkCell R G V S) (grader : Grader R G V) :
    (∀ w : World ι R G V S,
      Reachable wc (fun w w' => ∃ a, Step wc grader w a w' ∧
        a.Meets (fun input c => c.UsesAssigned keys wc input) w) w →
      Reachable wc (fun w w' => ∃ a, GuardedStep keys wc grader w a w') w) ∧
    ∀ w : World ι R G V S, Reachable wc (fun w w' => ∃ a, Step wc grader w a w') w →
      ∀ t input fuel, (w.call t).stepCBGuarded keys wc grader input fuel ≠ .error .unassigned ↔
        w.sim.requestSimulationStop = true ∨ (w.call t).UsesAssigned keys wc input := by
  constructor
  · intro w h
    induction h with
    | constructed h => exact .constructed h
    | configure wallTimeLimit simTimeLimit storeTimedStatePaths forceSimulateAll h ih =>
      exact .configure _ _ _ _ ih
    | load graspTasks h ih => exact .load graspTasks ih
    | start below initState h ih => exact .start below initState ih
    | next h step ih =>
      obtain ⟨a, hstep, hmeets⟩ := step
      have hconsistent := consistent_reachable (fun ⟨a, hstep, _⟩ => ⟨a, hstep⟩) h
      exact .next ih ⟨a, guarded_of_step hstep hconsistent hmeets⟩
  · intro w h t input fuel
    exact Call.stepCBGuarded_ne_iff (c := w.call t) (consistent_reachable id h t) fuel

end World

namespace Sample

/-- Two targets are loaded and the simulation is started. -/
def started : World Bool ℚ ℤˣ ℚ Bool :=
  { world with sim := (world.sim.load cell (task 2)).1 }.start cell 1 false

theorem reachable_started {next : World Bool ℚ ℤˣ ℚ Bool → World Bool ℚ ℤˣ ℚ Bool → Prop} :
    World.Reachable cell next started :=
  .start 1 false (.load (task 2) (.constructed fun _ => ⟨false, rfl⟩))

end Sample

theorem no_unassigned_access_first : ∃ w : World Bool ℚ ℤˣ ℚ Bool,
    World.performAll Sample.cell .basic (fun input c => c.UsesAssigned true Sample.cell input) 3
      [.stepCB true (Sample.callback 0 false)] Sample.started = some w ∧
    World.Reachable Sample.cell
      (fun w w' => ∃ a, World.GuardedStep true Sample.cell .basic w a w') w := by
  have hsome : (World.performAll Sample.cell .basic
      (fun input c => c.UsesAssigned true Sample.cell input) 3
      [.stepCB true (Sample.callback 0 false)] Sample.started).isSome := by decide +kernel
  obtain ⟨w, hw⟩ := Option.isSome_iff_exists.mp hsome
  exact ⟨w, hw, (World.no_unassigned_access true Sample.cell .basic).1 w
    (Sample.reachable_started.run (World.run_of_performAll hw))⟩

/-- In collision at the first callback, the result of a target is written that there is not. -/
theorem unassigned_access : ∃ w : World Bool ℚ ℤˣ ℚ Bool,
    World.Reachable Sample.cell (fun w w' => ∃ a, World.Step Sample.cell .basic w a w') w ∧
    (w.call true).stepCBGuarded false Sample.cell .basic (Sample.callback 0 true) 3 =
      .error .unassigned :=
  ⟨Sample.started, Sample.reachable_started, rfl⟩

end Gripperz.Simulation
