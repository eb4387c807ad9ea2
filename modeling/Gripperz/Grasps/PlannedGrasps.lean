import Gripperz.Grasps.BasicParallelGripperGraspPlanner

/-! # What the planner plans

Every round takes the next sample, and unless the planner gives up, makes it a target. What is
true of all rounds together is read off the log.
-/
namespace Gripperz.Grasps.BasicParallelGripperGraspPlanner
open Math Context Simulation Library

variable {R G V S : Type} [Field R] [Group G] [AddCommGroup V] [Module R V]
  [DistribMulAction G V] (wc : WorkCell R G V S) (spatial : Spatial R G V)
  (planner : BasicParallelGripperGraspPlanner R G V S)

/-! ## Samples -/

/-- The samples in the order in which they are tried: the stored ones from the back, then those
that are drawn. -/
def source (k : ℕ) : SurfaceSample R G V :=
  planner.ssamples.reverse.getD k (planner.sample (k - planner.ssamples.length))

/-- What is left of the stored samples after some have been tried, and how many were drawn. -/
structure Draws (k : ℕ) (ssamples : List (SurfaceSample R G V)) (drawn : ℕ) : Prop where
  ssamples : ssamples = planner.ssamples.take (planner.ssamples.length - k)
  drawn : drawn = k - planner.ssamples.length

omit [Field R] [Group G] [AddCommGroup V] [Module R V] [DistribMulAction G V] in
theorem nextSample_eq {k : ℕ} {p : Planning R G V S} (h : planner.Draws k p.ssamples p.drawn) :
    ∃ ssamples drawn, planner.nextSample p =
      (planner.source k, { p with ssamples := ssamples, drawn := drawn }) ∧
        planner.Draws (k + 1) ssamples drawn := by
  have hlength : p.ssamples.length = planner.ssamples.length - k := by
    rw [h.ssamples, List.length_take]
    omega
  unfold nextSample source
  cases hlast : p.ssamples.getLast? with
  | none =>
    have hempty : p.ssamples = [] := List.getLast?_eq_none_iff.mp hlast
    have hall : planner.ssamples.length ≤ k := by
      rw [hempty, List.length_nil] at hlength
      omega
    refine ⟨p.ssamples, p.drawn + 1, ?_, ?_, ?_⟩
    · have hnone : planner.ssamples.reverse[k]? = none := by
        rw [List.getElem?_eq_none_iff, List.length_reverse]
        exact hall
      rw [List.getD_eq_getElem?_getD, hnone, h.drawn]
      rfl
    · rw [h.ssamples]
      congr 1
      omega
    · have hdrawn := h.drawn
      omega
  | some ssample =>
    have hpos : 0 < p.ssamples.length := by
      apply List.length_pos_of_ne_nil
      rintro hempty
      simp [hempty] at hlast
    have hk : k < planner.ssamples.length := by omega
    refine ⟨p.ssamples.dropLast, p.drawn, ?_, ?_, ?_⟩
    · have hsample : planner.ssamples.reverse[k]? = some ssample := by
        rw [List.getLast?_eq_getElem?, hlength, h.ssamples, List.getElem?_take] at hlast
        rw [List.getElem?_reverse hk]
        rw [if_pos (by omega)] at hlast
        rw [← hlast]
        congr 1
        omega
      rw [List.getD_eq_getElem?_getD, hsample]
      rfl
    · rw [List.dropLast_eq_take, hlength, h.ssamples, List.take_take]
      congr 1
      omega
    · have hdrawn := h.drawn
      omega

/-! ## Rounds -/

/-- A trial tests the state in which the open gripper has been moved to the sample. -/
def Tested (t : Trial R G V S) : Prop :=
  t.collided = planner.inCollision t.state ∧ ∃ state, t.state = moveFrameW wc
    (planner.wTobj wc * t.sample.transform) planner.td.gripperTCP planner.td.gripperMovable state

/-- The subtask and the result a trial leads to, by the number of its target. -/
def subTaskOf (t : Trial R G V S × ℕ) : GraspSubTask R G V :=
  if t.1.collided then skippedSubTask t.1.sample.transform t.2
  else planner.freeSubTask wc spatial t.1.sample.transform t.2

def resultOf (t : Trial R G V S) : GraspResult R G V :=
  if t.collided then { (newGraspResult : GraspResult R G V) with
    testStatus := .skip, objectTtcpTarget := t.sample.transform,
    gripperConfigurationGrasp := ⟨[planner.td.gripperDevice.bounds.2.get 0]⟩ }
  else { (newGraspResult : GraspResult R G V) with objectTtcpTarget := t.sample.transform }

/-- The variables once the next sample has been tried. -/
def tried (p : Planning R G V S) (ssamples : List (SurfaceSample R G V)) (drawn : ℕ)
    (t : Trial R G V S) : Planning R G V S :=
  { p with ssamples := ssamples, drawn := drawn, state := t.state, log := p.log ++ [t] }

/-- The trial becomes a target. -/
def made (p : Planning R G V S) (t : Trial R G V S) : Planning R G V S :=
  { p with
    results := p.results ++ [planner.resultOf t]
    grasps := { p.grasps with
      subTasks := p.grasps.subTasks ++ [planner.subTaskOf wc spatial (t, p.results.length)] } }

/-- The variables when the trials are those of a log, of which some have become targets. -/
structure Accounts (kept : List (Trial R G V S)) (p : Planning R G V S) : Prop
    extends planner.Draws p.log.length p.ssamples p.drawn where
  grasps : p.grasps = { planner.setup wc spatial with
    subTasks := (planner.setup wc spatial).subTasks ++
      kept.zipIdx.map (planner.subTaskOf wc spatial) }
  results : p.results = kept.map planner.resultOf
  order : p.log.map Trial.sample = (List.range p.log.length).map planner.source
  tested : ∀ t ∈ p.log, planner.Tested wc t
  successes : p.successes = kept.countP fun t => !t.collided
  failures : ∃ before fails, p.log = before ++ fails ∧ fails.length = p.failures_in_row ∧
    ∀ t ∈ fails, t.collided = true

section
variable {wc spatial planner}
variable {kept : List (Trial R G V S)} {p : Planning R G V S} {t : Trial R G V S}

theorem Accounts.order_concat (h : planner.Accounts wc spatial kept p)
    (sample : t.sample = planner.source p.log.length) :
    (p.log ++ [t]).map Trial.sample = (List.range (p.log ++ [t]).length).map planner.source := by
  rw [List.map_append, h.order, List.length_append, List.length_singleton, List.range_succ]
  simp [sample]

theorem Accounts.tested_concat (h : planner.Accounts wc spatial kept p)
    (tested : planner.Tested wc t) : ∀ t' ∈ p.log ++ [t], planner.Tested wc t' :=
  List.forall_mem_append.mpr ⟨h.tested, List.forall_mem_singleton.mpr tested⟩

/-- One more collision. -/
theorem Accounts.failures_concat (h : planner.Accounts wc spatial kept p)
    (hcol : t.collided = true) :
    ∃ before fails, p.log ++ [t] = before ++ fails ∧ fails.length = p.failures_in_row + 1 ∧
      ∀ t' ∈ fails, t'.collided = true := by
  obtain ⟨before, fails, hlog, hlength, hall⟩ := h.failures
  refine ⟨before, fails ++ [t], by rw [hlog, List.append_assoc], by simp [hlength], ?_⟩
  exact List.forall_mem_append.mpr ⟨hall, List.forall_mem_singleton.mpr hcol⟩

end

/-- A round that makes its trial a target. -/
theorem Accounts.keep {p : Planning R G V S} (h : planner.Accounts wc spatial p.log p)
    {ssamples : List (SurfaceSample R G V)} {drawn : ℕ}
    (draws : planner.Draws (p.log.length + 1) ssamples drawn) {t : Trial R G V S}
    (sample : t.sample = planner.source p.log.length) (tested : planner.Tested wc t)
    {failures successes : ℕ}
    (hfailures : failures = if t.collided then p.failures_in_row + 1 else 0)
    (hsuccesses : successes = if t.collided then p.successes else p.successes + 1) :
    planner.Accounts wc spatial (p.log ++ [t])
      { planner.made wc spatial (tried p ssamples drawn t) t with
        failures_in_row := failures, successes := successes } := by
  have hcount : p.results.length = p.log.length := by rw [h.results, List.length_map]
  dsimp only [made, tried]
  constructor
  · simpa using draws
  · simp [h.grasps, hcount, List.zipIdx_append]
  · simp [h.results]
  · exact h.order_concat sample
  · exact h.tested_concat tested
  · cases hcol : t.collided <;> simp [hsuccesses, hcol, h.successes]
  · cases hcol : t.collided with
    | false =>
      refine ⟨p.log ++ [t], [], by simp, ?_, by simp⟩
      simp [hfailures, hcol]
    | true =>
      rw [hfailures, if_pos hcol]
      exact h.failures_concat hcol

/-- A round that gives up leaves its trial out. -/
theorem Accounts.giveUp {p : Planning R G V S} (h : planner.Accounts wc spatial p.log p)
    {ssamples : List (SurfaceSample R G V)} {drawn : ℕ}
    (draws : planner.Draws (p.log.length + 1) ssamples drawn) {t : Trial R G V S}
    (sample : t.sample = planner.source p.log.length) (tested : planner.Tested wc t)
    (hcol : t.collided = true) :
    planner.Accounts wc spatial p.log
      { tried p ssamples drawn t with failures_in_row := p.failures_in_row + 1 } := by
  dsimp only [tried]
  constructor
  · simpa using draws
  · exact h.grasps
  · exact h.results
  · exact h.order_concat sample
  · exact h.tested_concat tested
  · exact h.successes
  · exact h.failures_concat hcol

/-- A round tries the next sample. It makes it a target or gives up. -/
theorem round_cases {p : Planning R G V S}
    (h : planner.Draws p.log.length p.ssamples p.drawn) :
    ∃ ssamples drawn t, planner.Draws (p.log.length + 1) ssamples drawn ∧
      t.sample = planner.source p.log.length ∧ planner.Tested wc t ∧
      (t.collided = false ∧ planner.round wc spatial p =
          ({ planner.made wc spatial (tried p ssamples drawn t) t with
            failures_in_row := 0, successes := p.successes + 1 }, false) ∨
        t.collided = true ∧ p.failures_in_row + 1 ≤ 10000 ∧ planner.round wc spatial p =
          ({ planner.made wc spatial (tried p ssamples drawn t) t with
            failures_in_row := p.failures_in_row + 1 }, false) ∨
        t.collided = true ∧ 10000 < p.failures_in_row + 1 ∧ planner.round wc spatial p =
          ({ tried p ssamples drawn t with failures_in_row := p.failures_in_row + 1 }, true)) := by
  obtain ⟨ssamples, drawn, hnext, draws⟩ := planner.nextSample_eq h
  set sample := planner.source p.log.length
  set state := moveFrameW wc (planner.wTobj wc * sample.transform) planner.td.gripperTCP
    planner.td.gripperMovable
    (planner.td.gripperDevice.setQ ⟨[planner.td.gripperDevice.bounds.2.get 0]⟩ p.state) with hstate
  refine ⟨ssamples, drawn, ⟨sample, state, planner.inCollision state⟩, draws, rfl,
    ⟨rfl, _, rfl⟩, ?_⟩
  cases hcol : planner.inCollision state with
  | false =>
    refine Or.inl ⟨rfl, ?_⟩
    simp [round, hnext, ← hstate, hcol, made, tried, addSubTask, resultOf, subTaskOf]
  | true =>
    right
    by_cases hmany : 10000 < p.failures_in_row + 1
    · refine Or.inr ⟨rfl, hmany, ?_⟩
      simp [round, hnext, ← hstate, hcol, hmany, tried]
    · refine Or.inl ⟨rfl, not_lt.mp hmany, ?_⟩
      simp [round, hnext, ← hstate, hcol, hmany, made, tried, addSubTask, resultOf, subTaskOf]

/-! ## Runs -/

/-- The result objects of the planned targets. -/
def heap (p : Planning R G V S) : Results R G V := fun ptr => p.results.getD ptr newGraspResult

/-- The status of a tried sample. -/
def verdict (t : Trial R G V S) : TestStatus := if t.collided then .skip else .unInitialized

omit [DistribMulAction G V] in
theorem targets_subTaskOf (t : Trial R G V S × ℕ) :
    (planner.subTaskOf wc spatial t).targets = [⟨t.1.sample.transform, t.2⟩] := by
  unfold subTaskOf
  split <;> rfl

omit [Module R V] [DistribMulAction G V] in
theorem testStatus_resultOf (t : Trial R G V S) :
    (planner.resultOf t).testStatus = verdict t := by
  unfold resultOf verdict
  split <;> rfl

theorem Accounts.targets {kept : List (Trial R G V S)} {p : Planning R G V S}
    (h : planner.Accounts wc spatial kept p) :
    p.grasps.targets = kept.zipIdx.map fun t => ⟨t.1.sample.transform, t.2⟩ := by
  rw [GraspTask.targets, h.grasps, List.flatMap_append, List.flatMap_map]
  simp only [targets_subTaskOf, List.map_eq_flatMap]
  rfl

theorem Accounts.statuses {kept : List (Trial R G V S)} {p : Planning R G V S}
    (h : planner.Accounts wc spatial kept p) :
    p.grasps.targets.map (fun target => (target.pose, (heap p target.result).testStatus)) =
      kept.map fun t => (t.sample.transform, verdict t) := by
  rw [h.targets, List.map_map]
  apply List.ext_getElem
  · simp
  · intro i hi hi'
    have hlt : i < kept.length := by simpa using hi'
    simp [heap, h.results, hlt, testStatus_resultOf]

/-- What the planner has done when it stops. The samples of the log are all that were drawn. -/
structure Accounted (n : ℕ) (p : Planning R G V S) : Prop
    extends planner.Draws p.log.length p.ssamples p.drawn where
  order : p.log.map Trial.sample = (List.range p.log.length).map planner.source
  tested : ∀ t ∈ p.log, planner.Tested wc t
  ends : ∃ kept,
    p.grasps.targets.map (fun target => (target.pose, (heap p target.result).testStatus)) =
      kept.map (fun t => (t.sample.transform, verdict t)) ∧
    (p.log = kept ∧ (p.grasps.targets.countP fun target =>
        (heap p target.result).testStatus = .unInitialized) = n ∨
      ∃ before fails last, p.log = kept ++ [last] ∧ p.log = before ++ fails ∧
        fails.length = 10001 ∧ ∀ t ∈ fails, t.collided = true)

theorem Accounts.count {kept : List (Trial R G V S)} {p : Planning R G V S}
    (h : planner.Accounts wc spatial kept p) :
    (p.grasps.targets.countP fun target =>
      (heap p target.result).testStatus = .unInitialized) = p.successes := by
  have hpairs := congrArg (List.countP fun pair => pair.2 = TestStatus.unInitialized) h.statuses
  rw [List.countP_map, List.countP_map] at hpairs
  rw [h.successes]
  refine Eq.trans hpairs (List.countP_congr ?_)
  intro t _
  cases hcol : t.collided <;> simp [verdict, hcol]

theorem accounts_start : planner.Accounts wc spatial [] (planner.start wc spatial) := by
  constructor
  · constructor <;> simp [start]
  · simp [start]
  · rfl
  · rfl
  · simp [start]
  · rfl
  · exact ⟨[], [], rfl, rfl, by simp⟩

/-- What a round does to the accounts. -/
theorem accounts_round {p : Planning R G V S} (h : planner.Accounts wc spatial p.log p) :
    ∃ q, (planner.round wc spatial p = (q, false) ∧ planner.Accounts wc spatial q.log q ∧
        (q.successes = p.successes + 1 ∧ q.failures_in_row = 0 ∨ q.successes = p.successes ∧
          q.failures_in_row = p.failures_in_row + 1 ∧ q.failures_in_row ≤ 10000)) ∨
      (planner.round wc spatial p = (q, true) ∧ planner.Accounts wc spatial p.log q ∧
        (∃ last, q.log = p.log ++ [last]) ∧ q.failures_in_row = p.failures_in_row + 1 ∧
        10000 < q.failures_in_row) := by
  obtain ⟨ssamples, drawn, t, draws, sample, tested, hround⟩ :=
    planner.round_cases wc spatial h.toDraws
  rcases hround with ⟨hcol, hround⟩ | ⟨hcol, hfew, hround⟩ | ⟨hcol, hmany, hround⟩
  · refine ⟨_, Or.inl ⟨hround, ?_, Or.inl ⟨rfl, rfl⟩⟩⟩
    exact h.keep wc spatial planner draws sample tested (by simp [hcol]) (by simp [hcol])
  · refine ⟨_, Or.inl ⟨hround, ?_, Or.inr ⟨rfl, rfl, hfew⟩⟩⟩
    exact h.keep wc spatial planner draws sample tested (by simp [hcol])
      (by simp [hcol, made, tried])
  · refine ⟨_, Or.inr ⟨hround, ?_, ⟨t, rfl⟩, rfl, hmany⟩⟩
    exact h.giveUp wc spatial planner draws sample tested hcol

/-- The targets of a finished plan are those of the first trials of its log. -/
theorem accounts_planGrasps {n fuel : ℕ} {p : Planning R G V S}
    (h : planner.planGrasps wc spatial n fuel = some p) :
    ∃ kept, planner.Accounts wc spatial kept p ∧ kept <+: p.log := by
  apply whileLoop_post (fun p => planner.Accounts wc spatial p.log p)
    (fun p => ∃ kept, planner.Accounts wc spatial kept p ∧ kept <+: p.log) _ _ _
    (planner.accounts_start wc spatial) h
  · intro p hp _
    exact ⟨p.log, hp, List.prefix_rfl⟩
  · intro p hp _ hbreak
    obtain ⟨q, ⟨hround, -⟩ | ⟨hround, hq, ⟨last, hlog⟩, -⟩⟩ := planner.accounts_round wc spatial hp
    · simp [hround] at hbreak
    · rw [hround]
      exact ⟨p.log, hq, ⟨[last], hlog.symm⟩⟩
  · intro p hp _ hgo
    obtain ⟨q, ⟨hround, hq, -⟩ | ⟨hround, -⟩⟩ := planner.accounts_round wc spatial hp
    · rw [hround]
      exact hq
    · simp [hround] at hgo

/-- The loop goes on. -/
structure Going (n : ℕ) (p : Planning R G V S) : Prop where
  accounts : planner.Accounts wc spatial p.log p
  few : p.successes ≤ n
  fails : p.failures_in_row ≤ 10000

/-- Every round gets one of the two counters closer to its limit. -/
def left (n : ℕ) (p : Planning R G V S) : ℕ :=
  (n - p.successes) * 10001 + (10000 - p.failures_in_row)

theorem accounted_done {n : ℕ} {p : Planning R G V S} (h : planner.Going wc spatial n p)
    (hdone : decide (p.successes < n) = false) : planner.Accounted wc n p := by
  have hall : p.successes = n := by
    have hge := of_decide_eq_false hdone
    have hle := h.few
    omega
  refine ⟨h.accounts.toDraws, h.accounts.order, h.accounts.tested, p.log, h.accounts.statuses,
    Or.inl ⟨rfl, ?_⟩⟩
  rw [h.accounts.count, hall]

theorem accounted_broken {n : ℕ} {p : Planning R G V S} (h : planner.Going wc spatial n p)
    (hbreak : (planner.round wc spatial p).2 = true) :
    planner.Accounted wc n (planner.round wc spatial p).1 := by
  have hfew := h.fails
  obtain ⟨q, ⟨hround, -⟩ | ⟨hround, hq, ⟨last, hlog⟩, hfails, hmany⟩⟩ :=
    planner.accounts_round wc spatial h.accounts
  · simp [hround] at hbreak
  · rw [hround]
    obtain ⟨before, fails, hsplit, hlength, hall⟩ := hq.failures
    have hlimit : fails.length = 10001 := by omega
    exact ⟨hq.toDraws, hq.order, hq.tested, p.log, hq.statuses,
      Or.inr ⟨before, fails, last, hlog, hsplit, hlimit, hall⟩⟩

theorem going_round {n : ℕ} {p : Planning R G V S} (h : planner.Going wc spatial n p)
    (hagain : decide (p.successes < n) = true)
    (hgo : (planner.round wc spatial p).2 = false) :
    planner.Going wc spatial n (planner.round wc spatial p).1 ∧
      left n (planner.round wc spatial p).1 < left n p := by
  have hlt := of_decide_eq_true hagain
  have hfew := h.fails
  obtain ⟨q, ⟨hround, hq, hcounts⟩ | ⟨hround, -⟩⟩ := planner.accounts_round wc spatial h.accounts
  · simp only [hround]
    constructor
    · constructor
      · exact hq
      · rcases hcounts with ⟨hs, -⟩ | ⟨hs, -⟩ <;> omega
      · rcases hcounts with ⟨-, hf⟩ | ⟨-, -, hf⟩ <;> omega
    · unfold left
      rcases hcounts with ⟨hs, hf⟩ | ⟨hs, hf, hmost⟩ <;> omega
  · simp [hround] at hgo

/-- The planner stops for every number of grasps, every list of stored samples, every stream of
new ones and every collision detector, and accounts for each sample. -/
theorem every_sample_accounted (n : ℕ) : ∃ p, planner.Accounted wc n p ∧
    ∀ fuel, n * 10001 + 10000 < fuel → planner.planGrasps wc spatial n fuel = some p := by
  have hstart : planner.Going wc spatial n (planner.start wc spatial) :=
    ⟨planner.accounts_start wc spatial, Nat.zero_le _, Nat.zero_le _⟩
  obtain ⟨p, hp, hloop⟩ := whileLoop_spec (planner.Going wc spatial n) (planner.Accounted wc n)
    (left n) (fun _ => planner.accounted_done wc spatial)
    (fun _ h _ hbreak => planner.accounted_broken wc spatial h hbreak)
    (fun _ => planner.going_round wc spatial) (planner.start wc spatial) hstart
  exact ⟨p, hp, hloop⟩

end Gripperz.Grasps.BasicParallelGripperGraspPlanner
