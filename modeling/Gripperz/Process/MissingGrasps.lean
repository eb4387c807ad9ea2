import Gripperz.Library.Failures
import Gripperz.Process.StandardGripperEvaluationProcessManager
import Gripperz.Simulation.Loading

/-! # Evaluations without grasps

A grasp source may return a null pointer or raise an exception. The manager turns the exception
into a warning and a null pointer, and every null pointer is followed by a filter or by the
simulator. The registration of a gripper, planning, filters, the physics and the evaluator are
parameters that may raise exceptions.
-/
namespace Gripperz.Process.MissingGrasps
open Grasps Simulation Models Library

variable {Gr ι R G V S : Type}

/-! ## The manager -/

/-- What one evaluation after the other works on: `_grasps` of the planner, the results, the
simulator and the warnings. -/
structure Session (ι R G V S : Type) where
  grasps : Option (GraspTask R G V)
  results : Results R G V
  sim : GraspTaskSimulator ι R G V S
  warnings : List String

/-- A filter, and whether it passes a null pointer on. Only `KDGraspFilter` does; the others
follow it. -/
structure Filter (R G V : Type) where
  filter : GraspTask R G V → Results R G V → Except String (GraspTask R G V × Results R G V)
  passesNull : Bool

/-- `GraspPlanner` and `GraspDatabase`, which keep what they have made unless it is a null
pointer, and `FilteredGraspSource`. -/
inductive Source (Gr R G V : Type) where
  | caching (plan : Gr → Results R G V → Except String (Option (GraspTask R G V) × Results R G V))
  | filtered (graspSource : Source Gr R G V) (filterChain : List (Filter R G V))

structure Manager (Gr ι R G V S : Type) where
  registration : Gr → Except String Unit
  workCell : Gr → WorkCell R G V S
  graspSource : Source Gr R G V
  /-- What the physics makes of the loaded targets, once the simulators could be started. -/
  physics : Gr → GraspTaskSimulator ι R G V S → Except String (Outcome R G V)
  evaluator : Gr → GraspTask R G V → Results R G V →
    Except String (GripperQuality R × Results R G V)

/-- `filter` of a pointer. -/
def Filter.apply (f : Filter R G V) :
    Option (GraspTask R G V) → Action (Session ι R G V S) (Option (GraspTask R G V))
  | none => if f.passesNull then pure none else Action.crash
  | some grasps => do
    let s ← get
    let filtered ← .ofExcept (f.filter grasps s.results)
    modify fun s => { s with results := filtered.2 }
    return some filtered.1

def filterChain (filters : List (Filter R G V)) (grasps : Option (GraspTask R G V)) :
    Action (Session ι R G V S) (Option (GraspTask R G V)) :=
  filters.foldlM (fun filtered f => f.apply filtered) grasps

def Source.getGrasps (gripper : Gr) :
    Source Gr R G V → Action (Session ι R G V S) (Option (GraspTask R G V))
  | caching plan => do
    let s ← get
    match s.grasps with
    | some grasps => return some grasps
    | none =>
      let planned ← .ofExcept (plan gripper s.results)
      modify fun s => { s with grasps := planned.1, results := planned.2 }
      return planned.1
  | filtered graspSource filters => do
    let grasps ← graspSource.getGrasps gripper
    filterChain filters grasps

namespace Manager

def registerGripper (manager : Manager Gr ι R G V S) (gripper : Gr) :
    Action (Session ι R G V S) Unit :=
  .ofExcept (manager.registration gripper)

/-- The exception becomes a warning, and the pointer stays null. -/
def generateGrasps (manager : Manager Gr ι R G V S) (gripper : Gr) :
    Action (Session ι R G V S) (Option (GraspTask R G V)) :=
  (manager.graspSource.getGrasps gripper).handle fun e => do
    modify fun s =>
      { s with warnings := s.warnings ++ ["Exception during grasp generation! " ++ e] }
    return none

def loadTasks (manager : Manager Gr ι R G V S) (gripper : Gr) (tasks : Option (GraspTask R G V)) :
    Action (Session ι R G V S) Unit := do
  let s ← get
  match s.sim.loadPtr (manager.workCell gripper) tasks with
  | .returned sim => modify fun s => { s with sim := sim }
  | .gaveUp sim => modify fun s => { s with sim := sim }
  | .raised sim message =>
    modify fun s => { s with sim := sim }
    Action.raise message
  | .crashed => Action.crash

/-- The simulators are started, and run until none of them is running. -/
def start (manager : Manager Gr ι R G V S) (gripper : Gr) : Action (Session ι R G V S) Unit := do
  let s ← get
  let outcome ← .ofExcept (manager.physics gripper s.sim)
  modify fun s => { s with results := simulate outcome s.sim.gtask s.results }

/-- `simulateGrasps`; `_simulator->getTasks()` is the task set that was loaded. -/
def simulateGrasps (manager : Manager Gr ι R G V S) (gripper : Gr)
    (grasps : Option (GraspTask R G V)) : Action (Session ι R G V S) (GraspTask R G V) := do
  Action.rethrow "Exception during grasp simulation! " do
    manager.loadTasks gripper grasps
    manager.start gripper
  let s ← get
  return s.sim.gtask

def doEvaluation (manager : Manager Gr ι R G V S) (gripper : Gr) (grasps : GraspTask R G V) :
    Action (Session ι R G V S) (GripperQuality R) :=
  Action.rethrow "Exception during gripper evaluation! " do
    let s ← get
    let evaluated ← .ofExcept (manager.evaluator gripper grasps s.results)
    modify fun s => { s with results := evaluated.2 }
    return evaluated.1

def evaluateGripper (manager : Manager Gr ι R G V S) (gripper : Gr) :
    Action (Session ι R G V S) (GripperQuality R) := do
  manager.registerGripper gripper
  let grasps ← manager.generateGrasps gripper
  let simulatedGrasps ← manager.simulateGrasps gripper grasps
  manager.doEvaluation gripper simulatedGrasps

/-- The evaluation returns a quality computed from the task set that was loaded, or raises an
exception, and follows no null pointer. -/
def EvaluatesGrasps (manager : Manager Gr ι R G V S) (gripper : Gr) (s : Session ι R G V S) :
    Prop :=
  (manager.evaluateGripper gripper).Ends
    (fun quality s' => ∃ results,
      manager.evaluator gripper s'.sim.gtask results = .ok (quality, s'.results))
    (fun failure _ => failure ≠ .crashed) s

end Manager

/-- The source returns a grasp set. -/
def Source.Supplies (graspSource : Source Gr R G V) (gripper : Gr) (s : Session ι R G V S) :
    Prop :=
  (graspSource.getGrasps gripper).Ends (fun grasps _ => grasps ≠ none) (fun _ _ => False) s

/-! ## The sources that supply a set -/

/-- The filters on a set, one after the other. -/
def filterSet (filters : List (Filter R G V)) (got : GraspTask R G V × Results R G V) :
    Except String (GraspTask R G V × Results R G V) :=
  filters.foldlM (fun got f => f.filter got.1 got.2) got

/-- What the source has to give when no filter minds a null pointer: the set it keeps or makes,
filtered. -/
def Source.supply (gripper : Gr) (s : Session ι R G V S) :
    Source Gr R G V → Except String (Option (GraspTask R G V × Results R G V))
  | caching plan =>
    match s.grasps with
    | some grasps => .ok (some (grasps, s.results))
    | none => (plan gripper s.results).map fun planned => planned.1.map (·, planned.2)
  | filtered graspSource filters =>
    match graspSource.supply gripper s with
    | .ok (some got) => (filterSet filters got).map some
    | .ok none => .ok none
    | .error message => .error message

/-- A chain that is given a null pointer does not return a set. -/
theorem filterChain_none (filters : List (Filter R G V)) (s : Session ι R G V S) :
    (filterChain filters none).Ends (fun grasps _ => grasps = none) (fun _ _ => True) s := by
  induction filters with
  | nil => rfl
  | cons f filters ih =>
    rw [filterChain, List.foldlM_cons, Action.ends_bind, Filter.apply]
    split
    · exact ih
    · trivial

/-- A chain that is given a set returns one, or raises an exception. -/
theorem filterChain_some (filters : List (Filter R G V)) (grasps : GraspTask R G V)
    (s : Session ι R G V S) :
    (filterChain filters (some grasps)).Ends
      (fun grasps' s' => ∃ got, filterSet filters (grasps, s.results) = .ok got ∧
        grasps' = some got.1 ∧ s' = { s with results := got.2 })
      (fun failure _ => ∃ message, failure = .raised message ∧
        filterSet filters (grasps, s.results) = .error message) s := by
  induction filters generalizing grasps s with
  | nil => exact ⟨(grasps, s.results), rfl, rfl, rfl⟩
  | cons f filters ih =>
    rw [filterChain, List.foldlM_cons, Action.ends_bind]
    simp only [Filter.apply, Action.ends_bind, Action.ends_get, Action.ends_ofExcept,
      Action.ends_modify, Action.ends_pure, filterSet, List.foldlM_cons]
    cases hfilter : f.filter grasps s.results with
    | ok filtered => exact ih filtered.1 { s with results := filtered.2 }
    | error message => exact ⟨message, rfl, rfl⟩

/-- A source returns what it has to give. It fails only when this is no set. -/
theorem getGrasps_ends (gripper : Gr) (graspSource : Source Gr R G V) (s : Session ι R G V S) :
    (graspSource.getGrasps gripper).Ends
      (fun grasps s' => graspSource.supply gripper s = .ok (grasps.map (·, s'.results)))
      (fun _ _ => ∀ got, graspSource.supply gripper s ≠ .ok (some got)) s := by
  induction graspSource with
  | caching plan =>
    rw [Source.getGrasps, Action.ends_bind, Action.ends_get, Source.supply]
    cases s.grasps with
    | some grasps => rfl
    | none =>
      rw [Action.ends_bind, Action.ends_ofExcept]
      cases plan gripper s.results with
      | ok planned => rfl
      | error message => exact fun got h => nomatch h
  | filtered graspSource filters ih =>
    rw [Source.getGrasps, Action.ends_bind]
    apply ih.imp
    · intro grasps s' hsupply
      rw [Source.supply, hsupply]
      cases grasps with
      | none =>
        apply (filterChain_none filters s').imp
        · rintro _ _ rfl
          rfl
        · exact fun _ _ _ got h => nomatch h
      | some grasps =>
        apply (filterChain_some filters grasps s').imp
        · rintro _ _ ⟨got, hgot, rfl, rfl⟩
          change (filterSet filters (grasps, s'.results)).map some = _
          rw [hgot]
          rfl
        · rintro _ _ ⟨message, _, hmessage⟩ got h
          change (filterSet filters (grasps, s'.results)).map some = _ at h
          rw [hmessage] at h
          cases h
    · intro _ _ hfails got h
      rw [Source.supply] at h
      split at h
      · rename_i hsupply
        exact hfails _ hsupply
      · cases h
      · cases h

/-- A set is returned exactly when there is one at the bottom and no filter raises an exception. -/
theorem supplies_iff (graspSource : Source Gr R G V) (gripper : Gr) (s : Session ι R G V S) :
    graspSource.Supplies gripper s ↔ ∃ got, graspSource.supply gripper s = .ok (some got) := by
  constructor
  · intro h
    obtain ⟨grasps, s', hgot, hset⟩ := h.exists_of
    have hsupply := getGrasps_ends gripper graspSource s
    rw [Action.Ends, hgot] at hsupply
    obtain ⟨set, rfl⟩ := Option.ne_none_iff_exists'.mp hset
    exact ⟨(set, s'.results), hsupply⟩
  · rintro ⟨got, hgot⟩
    apply (getGrasps_ends gripper graspSource s).imp
    · rintro grasps s' hsupply rfl
      rw [hgot] at hsupply
      cases hsupply
    · exact fun _ _ hfails => hfails got hgot

/-! ## Stage by stage -/

namespace Manager
variable {manager : Manager Gr ι R G V S} {gripper : Gr} {s : Session ι R G V S}

/-- A task set is loaded, or an exception is raised. -/
theorem loadTasks_some (grasps : GraspTask R G V) :
    (manager.loadTasks gripper (some grasps)).Ends (fun _ _ => True)
      (fun failure _ => failure ≠ .crashed) s := by
  by_cases h : GraspTaskSimulator.Suitable (manager.workCell gripper) grasps
  · simp [loadTasks, GraspTaskSimulator.loadPtr_of_suitable h]
  · obtain ⟨message, hraised⟩ := GraspTaskSimulator.loadPtr_of_not_suitable h s.sim
    simp [loadTasks, hraised]

theorem start_ends :
    (manager.start gripper).Ends (fun _ _ => True) (fun failure _ => failure ≠ .crashed) s := by
  simp only [start, Action.ends_bind, Action.ends_get, Action.ends_ofExcept, Action.ends_modify]
  split <;> simp

theorem doEvaluation_ends :
    (manager.doEvaluation gripper s.sim.gtask).Ends
      (fun quality s' => ∃ results,
        manager.evaluator gripper s'.sim.gtask results = .ok (quality, s'.results))
      (fun failure _ => failure ≠ .crashed) s := by
  simp only [doEvaluation, Action.ends_rethrow, Action.ends_bind, Action.ends_get,
    Action.ends_ofExcept, Action.ends_modify, Action.ends_pure]
  cases h : manager.evaluator gripper s.sim.gtask s.results with
  | ok evaluated => exact ⟨s.results, h⟩
  | error message => simp

/-- What follows the generation of grasps goes well unless they are missing. -/
theorem simulateGrasps_doEvaluation_iff (grasps : Option (GraspTask R G V)) :
    (manager.simulateGrasps gripper grasps >>= manager.doEvaluation gripper).Ends
      (fun quality s' => ∃ results,
        manager.evaluator gripper s'.sim.gtask results = .ok (quality, s'.results))
      (fun failure _ => failure ≠ .crashed) s ↔ grasps ≠ none := by
  simp only [simulateGrasps, Action.ends_bind, Action.ends_rethrow, Action.ends_get,
    Action.ends_pure]
  cases grasps with
  | none =>
    simp [loadTasks, GraspTaskSimulator.loadPtr]
  | some grasps =>
    simp only [ne_eq, reduceCtorEq, not_false_eq_true, iff_true]
    apply (loadTasks_some grasps).imp
    · intro _ loaded _
      apply start_ends.imp
      · exact fun _ simulated _ => doEvaluation_ends
      · exact fun failure _ hfailure => mt Failure.prefixed_eq_crashed.mp hfailure
    · exact fun failure _ hfailure => mt Failure.prefixed_eq_crashed.mp hfailure

/-- An evaluation is one of grasps exactly when the gripper cannot be registered or the source
returns a grasp set. -/
theorem evaluatesGrasps_iff_supplies (manager : Manager Gr ι R G V S) (gripper : Gr)
    (s : Session ι R G V S) :
    manager.EvaluatesGrasps gripper s ↔
      (∃ message, manager.registration gripper = .error message) ∨
        manager.graspSource.Supplies gripper s := by
  unfold EvaluatesGrasps evaluateGripper registerGripper
  rw [Action.ends_bind, Action.ends_ofExcept]
  cases manager.registration gripper with
  | error message => simp
  | ok _ =>
    simp only [reduceCtorEq, exists_false, false_or]
    rw [Action.ends_bind, generateGrasps, Action.ends_handle]
    apply Action.ends_congr
    · exact fun grasps s' => simulateGrasps_doEvaluation_iff grasps
    · intro failure s'
      cases failure with
      | raised message =>
        -- The exception is swallowed, and the simulator is given the null pointer.
        simp only [Action.ends_bind, Action.ends_modify, Action.ends_pure, iff_false]
        rw [← Action.ends_bind, simulateGrasps_doEvaluation_iff]
        simp
      | crashed => simp

/-- An evaluation is one of grasps exactly when the gripper cannot be registered, or its planner
has or makes a grasp set and no filter raises an exception. -/
theorem evaluatesGrasps_iff (manager : Manager Gr ι R G V S) (gripper : Gr)
    (s : Session ι R G V S) :
    manager.EvaluatesGrasps gripper s ↔
      (∃ message, manager.registration gripper = .error message) ∨
        ∃ got, manager.graspSource.supply gripper s = .ok (some got) := by
  rw [evaluatesGrasps_iff_supplies, supplies_iff]

end Manager

/-! ## Without null pointers -/

section Standard
variable (manager : StandardGripperEvaluationProcessManager Gr R G V) (message : String)

def Filter.ofGraspFilter (f : GraspFilter R G V) : Filter R G V :=
  ⟨fun grasps results => .ok (f grasps results), false⟩

def Source.ofGraspSource : GraspSource Gr R G V → Source Gr R G V
  | .caching plan => .caching fun gripper _ =>
    match plan gripper with
    | some owned => .ok (some owned.grasps, owned.results)
    | none => .error message
  | .filtered graspSource filters =>
    .filtered (ofGraspSource graspSource) (filters.map Filter.ofGraspFilter)

/-- A manager whose registrations, physics and evaluator raise no exceptions. -/
def Manager.ofStandard (wc : WorkCell R G V S) : Manager Gr ι R G V S where
  registration _ := .ok ()
  workCell _ := wc
  graspSource := .ofGraspSource message manager.graspSource
  physics gripper _ := .ok (manager.simulator gripper)
  evaluator gripper grasps results := .ok (manager.evaluator gripper grasps results)

/-- The session holds what the source keeps. -/
def Session.Keeps (s : Session ι R G V S) : Option (Cache R G V) → Prop
  | none => s.grasps = none
  | some cache => s.grasps = some cache.grasps ∧ s.results = cache.results

theorem filterSet_ofGraspFilter (filters : List (GraspFilter R G V))
    (got : GraspTask R G V × Results R G V) :
    filterSet (filters.map Filter.ofGraspFilter) got =
      .ok (GraspFilterChain.filter filters got.1 got.2) := by
  induction filters generalizing got with
  | nil => rfl
  | cons f filters ih => exact ih (f got.1 got.2)

theorem getGrasps_ofGraspSource (gripper : Gr) (graspSource : GraspSource Gr R G V)
    (s : Session ι R G V S) (cache : Option (Cache R G V)) (keeps : s.Keeps cache) :
    ((Source.ofGraspSource message graspSource).getGrasps gripper).Ends
      (fun grasps s' => s'.sim = s.sim ∧ ∃ got, graspSource.getGrasps gripper cache = some got ∧
        grasps = some got.1 ∧ s'.Keeps (some got.2))
      (fun failure _ => failure = .raised message ∧ graspSource.getGrasps gripper cache = none)
      s := by
  induction graspSource with
  | caching plan =>
    rw [Source.ofGraspSource, Source.getGrasps, Action.ends_bind, Action.ends_get]
    cases cache with
    | some cache =>
      rw [keeps.1]
      exact ⟨rfl, _, rfl, rfl, keeps⟩
    | none =>
      rw [show s.grasps = none from keeps, Action.ends_bind, Action.ends_ofExcept,
        GraspSource.getGrasps]
      cases plan gripper with
      | some owned => exact ⟨rfl, _, rfl, rfl, rfl, rfl⟩
      | none => exact ⟨rfl, rfl⟩
  | filtered graspSource filters ih =>
    rw [Source.ofGraspSource, Source.getGrasps, Action.ends_bind, GraspSource.getGrasps]
    apply ih.imp
    · rintro _ s' ⟨hsim, got, hgot, rfl, hgrasps, hresults⟩
      apply (filterChain_some _ got.1 s').imp
      · rintro _ _ ⟨filtered, hfiltered, rfl, rfl⟩
        rw [filterSet_ofGraspFilter, Except.ok.injEq] at hfiltered
        subst hfiltered
        rw [hgot, hresults]
        exact ⟨hsim, _, rfl, rfl, hgrasps, rfl⟩
      · rintro _ _ ⟨_, _, hraised⟩
        rw [filterSet_ofGraspFilter] at hraised
        cases hraised
    · rintro _ _ ⟨hfailure, hnone⟩
      exact ⟨hfailure, by rw [hnone]; rfl⟩

/-- The evaluation without pointers is the one with pointers when the gripper of the grasp set is
found, and gives nothing where a null pointer is followed. -/
theorem evaluateGripper_ofStandard (gripper : Gr) (wc : WorkCell R G V S)
    (s : Session ι R G V S) (cache : Option (Cache R G V)) (keeps : s.Keeps cache)
    (suitable : ∀ got, manager.graspSource.getGrasps gripper cache = some got →
      GraspTaskSimulator.Suitable wc got.1) :
    ((Manager.ofStandard manager message wc).evaluateGripper gripper).Ends
      (fun quality s' => ∃ evaluation, manager.evaluateGripper gripper cache = some evaluation ∧
        evaluation.1.quality = quality ∧ s'.Keeps (some evaluation.2))
      (fun failure _ => failure = .crashed ∧ manager.evaluateGripper gripper cache = none) s := by
  rw [Manager.evaluateGripper, Action.ends_bind, Manager.registerGripper, Action.ends_ofExcept]
  change Action.Ends _ _ (_ >>= _) s
  rw [Action.ends_bind, Manager.generateGrasps, Action.ends_handle]
  apply (getGrasps_ofGraspSource message gripper manager.graspSource s cache keeps).imp
  · rintro _ s' ⟨-, got, hgot, rfl, hgrasps, hresults⟩
    have hload := GraspTaskSimulator.loadPtr_of_suitable (suitable got hgot) s'.sim
    have hgtask : (s'.sim.load wc got.1).1.gtask = got.1 :=
      (GraspTaskSimulator.holds_load got.1 s'.sim).gtask
    simp only [Manager.simulateGrasps, Manager.loadTasks, Manager.start, Manager.doEvaluation,
      Manager.ofStandard, Action.ends_bind, Action.ends_rethrow, Action.ends_get,
      Action.ends_ofExcept, Action.ends_modify, Action.ends_pure, hload, hgtask, hresults]
    exact ⟨_, by rw [StandardGripperEvaluationProcessManager.evaluateGripper, hgot]; rfl, rfl,
      hgrasps, rfl⟩
  · rintro _ _ ⟨rfl, hnone⟩
    simp only [Action.ends_bind, Action.ends_modify, Action.ends_pure]
    simp [Manager.simulateGrasps, Manager.loadTasks, GraspTaskSimulator.loadPtr,
      StandardGripperEvaluationProcessManager.evaluateGripper, hnone]

end Standard

/-! ## A planner that makes nothing -/

namespace Sample
open Simulation.Sample (cell world task result)

/-- Everything succeeds but the planner. -/
def manager (graspSource : Source Unit ℚ ℤˣ ℚ) : Manager Unit Bool ℚ ℤˣ ℚ Bool where
  registration _ := .ok ()
  workCell _ := cell
  graspSource := graspSource
  physics _ _ := .ok ⟨fun _ => .success, fun _ r => r, fun _ => rfl⟩
  evaluator _ _ results := .ok (.makeGripperQuality, results)

def session : Session Bool ℚ ℤˣ ℚ Bool := ⟨none, fun _ => result, world.sim, []⟩

/-- `ParallelGripperGraspPlanner::planGrasps`. -/
def parallelGripperGraspPlanner : Source Unit ℚ ℤˣ ℚ :=
  .caching fun _ results => .ok (none, results)

/-- A database whose file cannot be loaded. -/
def database : Source Unit ℚ ℤˣ ℚ := .caching fun _ _ => .error "file not found"

def clearStatusFilter : Filter ℚ ℤˣ ℚ := .ofGraspFilter ClearStatusFilter.filter

end Sample

open MissingGrasps.Sample in
/-- A null pointer is followed when a planner returns it, with and without a filter that follows it
before the simulator does, and when a database raises an exception. -/
theorem not_evaluatesGrasps :
    ¬ (manager parallelGripperGraspPlanner).EvaluatesGrasps () session ∧
    ¬ (manager (.filtered parallelGripperGraspPlanner [clearStatusFilter])).EvaluatesGrasps ()
      session ∧
    ¬ (manager database).EvaluatesGrasps () session :=
  ⟨fun h => h rfl, fun h => h rfl, fun h => h rfl⟩

end Gripperz.Process.MissingGrasps
