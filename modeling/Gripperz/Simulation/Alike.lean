import Gripperz.Simulation.Driven

/-! # Grasps that go alike

What a callback does to a grasp depends on what it is given, on the rig and on what the thread
knows of this grasp, but neither on the thread nor on what it or the others did before. Two
threads, in two runs of any number of threads, that know the same of a target go on alike.
-/
namespace Gripperz.Simulation
open Math Grasps Library

variable {ι κ R G V S : Type} [DecidableEq ι] [DecidableEq κ] [DecidableEq G] [DecidableEq V]
  [Field R] [LinearOrder R] [Group G] [AddCommGroup V] [Module R V] [DistribMulAction G V]

/-- Two threads know the same of the grasp of a target. What is left of an earlier grasp and not
read any more may differ. -/
structure SameGrasp (p : TargetPtr G V) (own own' : SimState R G V S) : Prop where
  target : own.target = some p
  target' : own'.target = some p
  cache : own'.toTaskCache = own.toTaskCache
  currentState : own'.currentState = own.currentState
  state : own'.state = own.state
  homeState : own'.homeState = own.homeState
  approachTarget : own'.wTmbase_approachTarget = own.wTmbase_approachTarget
  retractTarget : own'.wTmbase_retractTarget = own.wTmbase_retractTarget
  restingTime : own.currentState ≠ .newGrasp → own'.restingTime = own.restingTime
  approachedTime : own.currentState = .grasping → own'.approachedTime = own.approachedTime
  restCount : own.currentState = .grasping ∨ own.currentState = .lifting →
    own'.restCount = own.restCount
  closed : own.currentState = .lifting → own'.postLiftObjState = own.postLiftObjState

omit [DecidableEq G] [DecidableEq V] [Field R] [LinearOrder R] [Group G] [AddCommGroup V]
  [Module R V] [DistribMulAction G V] in
theorem SameGrasp.commands {p : TargetPtr G V} {own own' : SimState R G V S}
    (h : SameGrasp p own own') : own'.commands = own.commands := by
  have hopen : own'.openQ = own.openQ := congrArg TaskCache.openQ h.cache
  have hclose : own'.closeQ = own.closeQ := congrArg TaskCache.closeQ h.cache
  simp only [SimState.commands, h.currentState, h.approachTarget, h.retractTarget, hopen, hclose]

namespace Call

/-- Two callbacks know the same of a target: its grasp, its result and what the log says of it. -/
structure Alike (p : TargetPtr G V) (c : Call ι R G V S) (c' : Call κ R G V S) : Prop where
  rig : c'.sim.rig = c.sim.rig
  result : c'.sim.results p.target.result = c.sim.results p.target.result
  happened : trace p c'.sim.log = trace p c.sim.log
  own : SameGrasp p c.own c'.own

namespace Alike
variable {wc : WorkCell R G V S} {grader : Grader R G V} {input : StepInput R S}
  {p : TargetPtr G V} {c : Call ι R G V S} {c' : Call κ R G V S}

section
omit [DecidableEq ι] [DecidableEq κ] [Field R] [LinearOrder R] [Group G] [AddCommGroup V]
  [Module R V] [DistribMulAction G V]

theorem hand (h : Alike p c c') : c'.sim.hand = c.sim.hand :=
  congrArg (fun rig => rig.toScene.hand) h.rig

theorem objects (h : Alike p c c') : c'.sim.objects = c.sim.objects :=
  congrArg (fun rig => rig.toScene.objects) h.rig

theorem tcp (h : Alike p c c') : c'.sim.tcp = c.sim.tcp :=
  congrArg (fun rig => rig.toScene.tcp) h.rig

theorem mbase (h : Alike p c c') : c'.sim.mbase = c.sim.mbase := congrArg Rig.mbase h.rig

theorem initState (h : Alike p c c') : c'.sim.initState = c.sim.initState :=
  congrArg Rig.initState h.rig

end

/-! ## Single actions -/

section
omit [DecidableEq ι] [DecidableEq κ] [Field R] [LinearOrder R] [Group G] [AddCommGroup V]
  [Module R V] [DistribMulAction G V]

theorem edit (h : Alike p c c') (e : GraspResult R G V → GraspResult R G V) :
    Alike p (c.edit e) (c'.edit e) where
  rig := h.rig
  result := by rw [edit_target e h.own.target, edit_target e h.own.target', h.result]
  happened := h.happened
  own := h.own

theorem log (h : Alike p c c') (es : List (Happening R G V)) :
    trace p (c'.sim.log ++ entries c'.thread c'.own.target es) =
      trace p (c.sim.log ++ entries c.thread c.own.target es) := by
  rw [h.own.target, h.own.target', trace_append, trace_append, trace_entries_self,
    trace_entries_self, h.happened]

theorem record (h : Alike p c c') (what : Happening R G V) :
    Alike p (c.record what) (c'.record what) where
  rig := h.rig
  result := h.result
  happened := h.log [what]
  own := h.own

theorem withOwn (h : Alike p c c') {own own' : SimState R G V S} (hown : SameGrasp p own own') :
    Alike p { c with own := own } { c' with own := own' } :=
  ⟨h.rig, h.result, h.happened, hown⟩

theorem storePath (h : Alike p c c') (time : R) (state : S) :
    Alike p (c.storePath time state) (c'.storePath time state) :=
  ⟨h.rig, h.result, h.happened, h.own⟩

end

omit [DecidableEq ι] [DecidableEq κ] [DecidableEq G] [DecidableEq V] [Field R] [LinearOrder R]
  [Group G] [AddCommGroup V] [Module R V] [DistribMulAction G V] in
/-- A grasp that has ended. -/
theorem idle (h : SameGrasp p c.own c'.own) :
    SameGrasp p { c.own with currentState := .newGrasp }
      { c'.own with currentState := .newGrasp } where
  target := h.target
  target' := h.target'
  cache := h.cache
  currentState := rfl
  state := h.state
  homeState := h.homeState
  approachTarget := h.approachTarget
  retractTarget := h.retractTarget
  restingTime hnew := absurd rfl hnew
  approachedTime hgrasping := by cases hgrasping
  restCount hbusy := by rcases hbusy with hbusy | hbusy <;> cases hbusy
  closed hlifting := by cases hlifting

omit [DecidableEq ι] [DecidableEq κ] [Group G] [AddCommGroup V] [Module R V] [DistribMulAction G V]
  in
theorem finish (h : Alike p c c') (k : Counter) (status : TestStatus)
    (e : GraspResult R G V → GraspResult R G V) :
    Alike p (c.finish wc grader k status e) (c'.finish wc grader k status e) := by
  have hedit : c'.finishEdit wc grader status e = c.finishEdit wc grader status e := by
    funext r
    simp only [finishEdit, h.initState, h.own.state]
  have hfinal : c'.finalStatus wc grader status e = c.finalStatus wc grader status e := by
    simp only [finalStatus, h.own.target, h.own.target', h.initState, h.own.state, h.result]
  rw [finish_eq, finish_eq, hedit, hfinal]
  exact ⟨h.rig, (h.edit _).result, h.log _, idle h.own⟩

omit [DecidableEq ι] [DecidableEq κ] [Group G] [AddCommGroup V] [Module R V] [DistribMulAction G V]
  in
theorem abort (h : Alike p c c') (k : Counter) (status : TestStatus) :
    Alike p (c.abort wc grader input k status) (c'.abort wc grader input k status) := by
  rw [Call.abort, Call.abort, h.hand]
  exact h.finish k status _

/-! ## The checks -/

omit [DecidableEq ι] [DecidableEq κ] [Group G] [AddCommGroup V] [Module R V] [DistribMulAction G V]
  in
theorem checks (h : Alike p c c') {wallTime : R} (hlimits : ¬ c.overLimits input)
    (hlimits' : ¬ c'.overLimits { input with wallTime := wallTime }) :
    Alike p (c.checks wc grader input)
      (c'.checks wc grader { input with wallTime := wallTime }) := by
  have htime {c : Call ι R G V S} {c' : Call κ R G V S} (h : Alike p c c') :
      Alike p (c.checkSimTime wc grader input)
        (c'.checkSimTime wc grader { input with wallTime := wallTime }) := by
    unfold checkSimTime
    simp only [h.own.currentState]
    split
    · exact h.abort _ _
    · exact h
  have herror {c : Call ι R G V S} {c' : Call κ R G V S} (h : Alike p c c') :
      Alike p (c.checkError wc grader input)
        (c'.checkError wc grader { input with wallTime := wallTime }) := by
    unfold checkError
    simp only [h.own.currentState]
    split
    · exact h.abort _ _
    · exact h
  have hcollision {c : Call ι R G V S} {c' : Call κ R G V S} (h : Alike p c c') :
      Alike p (c.checkCollision wc grader input)
        (c'.checkCollision wc grader { input with wallTime := wallTime }) := by
    unfold checkCollision
    split
    · exact h.abort _ _
    · exact h
  unfold Call.checks
  rw [checkTimeLimits_neg hlimits, checkTimeLimits_neg hlimits']
  exact hcollision (herror (htime h))

/-! ## The states of a grasp -/

omit [DecidableEq ι] [DecidableEq κ] [Field R] [LinearOrder R] [Module R V] in
theorem reachApproach (h : Alike p c c') :
    Alike p (c.reachApproach wc input) (c'.reachApproach wc input) := by
  unfold Call.reachApproach
  simp only [h.tcp, h.objects]
  apply Alike.record
  apply Alike.edit
  apply h.withOwn
  exact { h.own with
    currentState := rfl
    restingTime := fun _ => rfl
    approachedTime := fun _ => rfl
    restCount := fun _ => rfl
    closed := fun hlifting => by cases hlifting }

omit [DecidableEq ι] [DecidableEq κ] [Module R V] in
theorem stepApproach (h : Alike p c c') :
    Alike p (c.stepApproach wc input) (c'.stepApproach wc input) := by
  unfold Call.stepApproach
  simp only [h.own.currentState, h.own.approachTarget, h.mbase]
  split
  · exact h.reachApproach
  · exact h

omit [DecidableEq ι] [DecidableEq κ] [LinearOrder R] [Group G] [AddCommGroup V] [Module R V]
  [DistribMulAction G V] in
theorem beginLift (h : Alike p c c')
    (hclosed : c'.own.postLiftObjState = c.own.postLiftObjState)
    (hbusy : c.own.currentState = .grasping) :
    Alike p (c.beginLift wc input) (c'.beginLift wc input) := by
  unfold Call.beginLift
  simp only [h.hand, h.objects]
  apply Alike.record
  apply Alike.edit
  apply h.withOwn
  exact { h.own with
    currentState := rfl
    restingTime := fun _ => h.own.restingTime (by simp [hbusy])
    approachedTime := fun hgrasping => by cases hgrasping
    restCount := fun _ => rfl
    closed := fun _ => hclosed }

omit [DecidableEq ι] [DecidableEq κ] [Group G] [AddCommGroup V] [Module R V] [DistribMulAction G V]
  in
theorem closeGrasp (h : Alike p c c') (hbusy : c.own.currentState = .grasping) :
    Alike p (c.closeGrasp wc grader input) (c'.closeGrasp wc grader input) := by
  have hclosed : Alike p
      { c with own := { c.own with graspTime := input.time, postLiftObjState := input.state } }
      { c' with own := { c'.own with graspTime := input.time,
                                     postLiftObjState := input.state } } :=
    h.withOwn { h.own with closed := fun _ => rfl }
  have hconfigured := hclosed.edit fun r =>
    { r with gripperConfigurationGrasp := c.sim.hand.getQ input.state }
  unfold Call.closeGrasp
  simp only [h.hand]
  set c₁ := (({ c with own := _ } : Call ι R G V S).edit _) with hc₁
  set c₁' := (({ c' with own := _ } : Call κ R G V S).edit _) with hc₁'
  rw [hconfigured.hand, hconfigured.objects]
  split
  · exact hconfigured.finish _ _ _
  · exact hconfigured.beginLift rfl hbusy

omit [DecidableEq ι] [DecidableEq κ] [Field R] [LinearOrder R] [Group G] [AddCommGroup V]
  [Module R V] [DistribMulAction G V] in
theorem countRest (h : Alike p c c') (hbusy : c.own.currentState = .grasping) :
    Alike p (c.countRest input) (c'.countRest input) := by
  unfold Call.countRest
  simp only [h.hand, h.own.restCount (Or.inl hbusy)]
  exact h.withOwn { h.own with restCount := fun _ => rfl }

omit [DecidableEq ι] [DecidableEq κ] [Group G] [AddCommGroup V] [Module R V] [DistribMulAction G V]
  in
theorem settle (h : Alike p c c') (hbusy : c.own.currentState = .grasping) :
    Alike p (c.settle wc grader input) (c'.settle wc grader input) := by
  have hresting : c'.isResting input = c.isResting input := by
    simp only [isResting, h.hand, h.own.restCount (Or.inl hbusy)]
  unfold Call.settle
  rw [hresting, h.own.restingTime (by simp [hbusy])]
  split
  · exact h.closeGrasp hbusy
  · exact h

omit [DecidableEq ι] [DecidableEq κ] [Field R] [LinearOrder R] [Group G] [AddCommGroup V]
  [Module R V] [DistribMulAction G V] in
theorem noteRest (h : Alike p c c') (hne : c.own.currentState ≠ .approach) :
    Alike p (c.noteRest input) (c'.noteRest input) := by
  apply h.withOwn
  refine { h.own with restingTime := fun hbusy => ?_ }
  have hstate : c.own.currentState = .grasping ∨ c.own.currentState = .lifting := by
    cases hs : c.own.currentState <;> simp_all
  simp only [h.own.restCount hstate, h.own.restingTime hbusy]

omit [DecidableEq ι] [DecidableEq G] [DecidableEq V] [Group G] [AddCommGroup V] [Module R V]
  [DistribMulAction G V] in
theorem settle_ne_approach {c : Call ι R G V S} (hbusy : c.own.currentState = .grasping) :
    ((c.countRest input).settle wc grader input).own.currentState ≠ .approach := by
  have hcount : (c.countRest input).own.currentState = .grasping := hbusy
  unfold Call.settle
  split
  · unfold Call.closeGrasp
    simp only
    split
    · rw [finish_eq]
      simp
    · simp [Call.beginLift, Call.edit, Call.record]
  · simp [hcount]

omit [DecidableEq ι] [DecidableEq κ] [Group G] [AddCommGroup V] [Module R V] [DistribMulAction G V]
  in
theorem stepGrasping (h : Alike p c c') :
    Alike p (c.stepGrasping wc grader input) (c'.stepGrasping wc grader input) := by
  unfold Call.stepGrasping
  simp only [h.own.currentState]
  split
  · rename_i hbusy
    rw [h.own.approachedTime hbusy]
    split
    · exact ((h.countRest hbusy).settle hbusy).noteRest (settle_ne_approach hbusy)
    · exact h.withOwn { h.own with
        currentState := rfl
        restingTime := fun _ => rfl
        approachedTime := fun _ => rfl }
  · exact h

omit [DecidableEq ι] [DecidableEq κ] [LinearOrder R] [Module R V] in
theorem recordLift (h : Alike p c c') (hbusy : c.own.currentState = .lifting) (object : String) :
    Alike p (c.recordLift wc input object) (c'.recordLift wc input object) := by
  unfold Call.recordLift
  simp only [h.hand, h.objects, h.tcp, h.own.closed hbusy]
  exact (h.edit _).record _

omit [DecidableEq ι] [DecidableEq κ] [Module R V] in
theorem lift (h : Alike p c c') (hbusy : c.own.currentState = .lifting) (object : String)
    (k : Counter) (status : TestStatus) (liftresult : R) :
    Alike p (c.lift wc grader input object k status liftresult)
      (c'.lift wc grader input object k status liftresult) := by
  have hrecord : Alike p (c.recordLift wc input object) (c'.recordLift wc input object) :=
    h.recordLift hbusy object
  have hrest : SameGrasp p { (c.recordLift wc input object).own with restCount := 0 }
      { (c'.recordLift wc input object).own with restCount := 0 } :=
    { hrecord.own with restCount := fun _ => rfl }
  unfold Call.lift
  simp only [hrecord.hand]
  exact (hrecord.withOwn hrest).finish k status _

omit [DecidableEq ι] [DecidableEq κ] [Group G] [AddCommGroup V] [Module R V] [DistribMulAction G V]
  in
theorem drop (h : Alike p c c') :
    Alike p (c.drop wc grader input) (c'.drop wc grader input) := by
  unfold Call.drop
  simp only [h.hand]
  exact h.finish _ _ _

omit [DecidableEq ι] [DecidableEq κ] in
theorem judgeLift (h : Alike p c c') (hbusy : c.own.currentState = .lifting) :
    Alike p (c.judgeLift wc grader input) (c'.judgeLift wc grader input) := by
  have hslippage (object gripperBody : String) (contacts : List (Contact3D R V)) :
      c'.slippage wc input object gripperBody contacts =
        c.slippage wc input object gripperBody contacts := by
    simp only [slippage, h.own.closed hbusy]
  unfold Call.judgeLift
  simp only [h.hand, h.objects, hslippage]
  split
  · split
    · exact h.lift hbusy _ _ _ _
    · exact h.drop
  · exact h.drop
  · split
    · exact h.lift hbusy _ _ _ _
    · exact h.lift hbusy _ _ _ _

omit [DecidableEq ι] [DecidableEq κ] in
theorem stepLifting (h : Alike p c c') :
    Alike p (c.stepLifting wc grader input) (c'.stepLifting wc grader input) := by
  have hlifted : c'.isLifted wc input = c.isLifted wc input := by
    simp only [isLifted, h.hand, h.own.retractTarget]
  unfold Call.stepLifting
  rw [hlifted, h.own.currentState]
  split
  · rename_i hbusy
    have hcount : Alike p { c with own := { c.own with restCount := c.own.restCount + 1 } }
        { c' with own := { c'.own with restCount := c'.own.restCount + 1 } } :=
      h.withOwn { h.own with
        restCount := fun _ => congrArg (· + 1) (h.own.restCount (Or.inr hbusy.1)) }
    have hrest : c'.own.restCount = c.own.restCount := h.own.restCount (Or.inr hbusy.1)
    simp only [hrest] at hcount ⊢
    split
    · exact hcount.judgeLift hbusy.1
    · exact hcount
  · exact h

end Alike

/-! ## A callback -/

/-- The thread is given a state. -/
def sense (state : S) (c : Call ι R G V S) : Call ι R G V S :=
  { c with own := { c.own with state := state } }

/-- The next callbacks will know the same of the target. -/
def Abreast (p : TargetPtr G V) (c : Call ι R G V S) (c' : Call κ R G V S) : Prop :=
  ∀ state, Alike p (c.sense state) (c'.sense state)

variable {wc : WorkCell R G V S} {grader : Grader R G V} {input : StepInput R S}
  {p : TargetPtr G V} {c : Call ι R G V S} {c' : Call κ R G V S}

omit [DecidableEq ι] [DecidableEq κ] [Field R] [LinearOrder R] [Group G] [AddCommGroup V]
  [Module R V] [DistribMulAction G V] in
theorem Alike.abreast (h : Alike p c c') : Abreast p c c' :=
  fun _ => ⟨h.rig, h.result, h.happened, { h.own with state := rfl }⟩

omit [DecidableEq ι] [DecidableEq κ] in
/-- The same state, time and error flag take both grasps the same way, whatever the wall clocks
say within the limits. -/
theorem Abreast.act (h : Abreast p c c') {wallTime : R} (hlimits : ¬ c.overLimits input)
    (hlimits' : ¬ c'.overLimits { input with wallTime := wallTime }) :
    Alike p (c.act wc grader input) (c'.act wc grader { input with wallTime := wallTime }) := by
  have hstored := (h input.state).storePath input.time input.state
  have hchecks : Alike p
      (((c.sense input.state).storePath input.time input.state).checks wc grader input)
      (((c'.sense input.state).storePath input.time input.state).checks wc grader
        { input with wallTime := wallTime }) := hstored.checks hlimits hlimits'
  exact hchecks.stepApproach.stepGrasping.stepLifting

end Call
end Gripperz.Simulation
