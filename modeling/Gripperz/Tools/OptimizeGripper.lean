import Gripperz.Evaluation.IndexGripperQualityExtractor
import Gripperz.Math.CombineObjectives
import Gripperz.Optimization.StatefulFunctions
import Gripperz.Tools.LoadedGripper

/-! # The tool that optimizes a gripper

The tool searches the parameters of a gripper for the best combined quality. Each gripper that is
evaluated gets a line in the log and a file of its own, and the best one is saved in the end.
-/
namespace Gripperz.Tools
open Library Parametrizations Math Models Loaders Evaluation Optimization

variable {σ R : Type} [Field R] [LinearOrder R]

namespace OptimizeGripper

/-- What the options of the command line come to. There are limits for each parameter. -/
structure Configuration (R : Type) where
  resultFilename : String
  indexCalculators : List String
  weights : List R
  method : String
  parameters : List String
  limitsLow : List R
  limitsHigh : List R
  length_low : limitsLow.length = parameters.length
  length_high : limitsHigh.length = parameters.length

/-- The lines of `log_file`, the files grippers are saved to, the `unsigned` count of the steps and
the rest of the world. -/
structure Records (σ : Type) where
  log : List String
  files : String → Option (String × PTree String String)
  step : UInt32
  world : σ

/-- An exception ends the tool. -/
abbrev Tool (σ α : Type) := StateT (Records σ) (Except String) α

def inWorld {α : Type} (x : StateT σ (Except String) α) : Tool σ α := fun s =>
  (x.run s.world).map fun result => (result.1, { s with world := result.2 })

def orThrow {α : Type} (message : String) : Option α → Tool σ α
  | none => throw message
  | some a => return a

variable (number : NumberText R) (stream : NumberFormat R) (powers : Powers R)
  (conf : Configuration R)
  (evaluateGripper : LoadedGripper R → StateT σ (Except String) (GripperQualityImpl R))

def translator : ParametrizationTranslator := .vectorParametrizationTranslator conf.parameters

/-- `PrototypeGripperBuilder::vectorToGripper`; the copy has a parametrization of its own. -/
def vectorToGripper (prototype : LoadedGripper R) (params : List R) : Option (LoadedGripper R) :=
  ((translator conf).applyVectorToParametrization prototype.parametrization params).map fun p =>
    prototype.copy p

def gripperToVector (gripper : LoadedGripper R) : Option (List R) :=
  (translator conf).parametrizationToVector gripper.parametrization

/-- `IndexGripperQualityExtractor::extract` of the quality of a gripper. -/
def extract (gripper : LoadedGripper R) : Option (List R) :=
  IndexGripperQualityExtractor.extract conf.indexCalculators gripper.data.quality.toGripperQuality

/-- The first line of the log. -/
def header : String :=
  "step, " ++ String.join (conf.parameters.map fun name => name ++ ", ") ++
    String.join (conf.indexCalculators.map fun name => name ++ ", ") ++ "Q"

/-- The line for a step. -/
def logLine (step : UInt32) (x r : List R) (q : R) : String :=
  toString step ++ ", " ++ String.join (x.map fun value => stream.text value ++ ", ") ++
    String.join (r.map fun value => stream.text value ++ ", ") ++ stream.text q

def stepFilename (step : UInt32) : String := "step_" ++ toString step ++ ".grp.xml"

/-- `MasterGripperLoader::save`; a generator that is missing cannot be written. -/
def save (filename : String) (gripper : LoadedGripper R) : Tool σ Unit := do
  let written ← orThrow "Gripper cannot be written"
    (MasterGripperLoader.write number (.parametrized gripper))
  modify fun s => { s with files := Function.update s.files filename (some written.1) }

/-- `callback`. -/
def callback (method : CombineObjectives R) (gripper : LoadedGripper R) : Tool σ Unit := do
  let x ← orThrow "map::at" (gripperToVector conf gripper)
  let r ← orThrow "map::at" (extract conf gripper)
  let q ← method.combine powers r
  modify fun s => { s with step := s.step + 1 }
  modify fun s => { s with log := s.log ++ [logLine stream s.step x r q] }
  save number (stepFilename (← get).step) gripper

/-- `GripperObjectiveFunction::evaluate` with this callback, in the `CombinedFunction` of it. -/
def evaluate (method : CombineObjectives R) (prototype : LoadedGripper R) :
    ObjectiveFunction (Records σ) R := fun x => do
  let built ← orThrow "Exception during gripper generation! " (vectorToGripper conf prototype x)
  let quality ← inWorld (evaluateGripper built)
  let gripper := built.setQuality quality
  let results ← orThrow "Exception during gripper evaluation! " (extract conf gripper)
  callback number stream powers conf method gripper
  method.combine powers results

/-- `make_optimization_manager`. -/
def optimizationManager {norm2 : Q R → R} (optimizer : Optimizer norm2 R) :
    OptimizationManager norm2 :=
  ⟨optimizer, conf.limitsLow.zip conf.limitsHigh, true⟩

/-- `OptimizationManager::optimize`, whose log the tool does not read. -/
def optimize {norm2 : Q R → R} (optimizer : Optimizer norm2 R) (method : CombineObjectives R)
    (prototype : LoadedGripper R) (guess : List R) (fuel : ℕ) : Tool σ (Option (List R)) := fun s =>
  (((optimizationManager conf optimizer).optimize
      (evaluate number stream powers conf evaluateGripper method prototype) guess "maximize"
      fuel).run ⟨s, []⟩).map fun result => (result.1, result.2.user)

/-- `main` with a gripper that has been loaded; `none` if the optimization is given up. -/
def main {norm2 : Q R → R} (optimizer : Optimizer norm2 R) (gripper : LoadedGripper R) (fuel : ℕ) :
    Tool σ (Option (LoadedGripper R)) := do
  modify fun s => { s with log := [header conf] }
  let method ← (CombineObjectivesFactory.make conf.method conf.weights : Except String _)
  let guess ← orThrow "map::at" (gripperToVector conf gripper)
  match ← optimize number stream powers conf evaluateGripper optimizer method gripper guess
      fuel with
  | none => return none
  | some result =>
    let built ← orThrow "Gripper cannot be built" (vectorToGripper conf gripper result)
    let quality ← inWorld (evaluateGripper built)
    let best := built.setQuality quality
    save number conf.resultFilename best
    return some best

/-! ## What is recorded -/

/-- A line of the log: the point, the objectives, what they combine to and the gripper. -/
structure Row (R : Type) where
  x : List R
  r : List R
  q : R
  gripper : LoadedGripper R

/-- The gripper was built from the point within the limits; its evaluation led from one state of
the world to another. -/
structure Evaluated (method : CombineObjectives R) (prototype : LoadedGripper R) (row : Row R)
    (world world' : σ) : Prop where
  inRange : InRanges (conf.limitsLow.zip conf.limitsHigh) row.x
  found : ∃ p quality,
    prototype.parametrization.setParameters (conf.parameters.zip row.x) = some p ∧
    (evaluateGripper (prototype.copy p)).run world = .ok (quality, world') ∧
    row.gripper = (prototype.copy p).setQuality quality
  extracted : extract conf row.gripper = some row.r
  combined : method.combine powers row.r = .ok row.q

/-- The evaluations that led from one state of the world to another, a row for each. -/
inductive Evaluations (method : CombineObjectives R) (prototype : LoadedGripper R) (world : σ) :
    List (Row R) → σ → Prop
  | none : Evaluations method prototype world [] world
  | next {rows : List (Row R)} {row : Row R} {world' world'' : σ}
      (before : Evaluations method prototype world rows world')
      (evaluated : Evaluated powers conf evaluateGripper method prototype row world' world'') :
      Evaluations method prototype world (rows ++ [row]) world''

/-- The number of a step. -/
def stepNumber (k : ℕ) : UInt32 := .ofNat (k + 1)

/-- The log has, after the header, a line for each of the evaluations that were made, in order and
with consecutive steps. Each step has a file with its gripper, unless a later step of the same
number has replaced it. The other files are as they were. -/
structure Logged (method : CombineObjectives R) (prototype : LoadedGripper R)
    (files : String → Option (String × PTree String String)) (world : σ) (rows : List (Row R))
    (s : Records σ) : Prop where
  evaluated : Evaluations powers conf evaluateGripper method prototype world rows s.world
  log : s.log = header conf ::
    rows.mapIdx fun k row => logLine stream (stepNumber k) row.x row.r row.q
  step : s.step = .ofNat rows.length
  saved : ∀ k row, rows[k]? = some row → rows.length ≤ k + 2 ^ 32 → ∃ trunk object,
    s.files (stepFilename (stepNumber k)) = some trunk ∧
    MasterGripperLoader.read number trunk.2 = some object ∧
    SameGripper (.parametrized row.gripper) object
  others : ∀ name, (∀ k < rows.length, name ≠ stepFilename (stepNumber k)) →
    s.files name = files name

variable {number stream powers conf evaluateGripper} {method : CombineObjectives R}
  {prototype : LoadedGripper R}

theorem run_orThrow {α : Type} {message : String} {option : Option α} {s s' : Records σ} {a : α} :
    (orThrow message option : Tool σ α).run s = .ok (a, s') ↔ option = some a ∧ s' = s := by
  cases option with
  | none => exact iff_of_false nofun fun h => nomatch h.1
  | some b =>
    constructor
    · intro h
      obtain ⟨rfl, rfl⟩ := Prod.mk.inj (Except.ok.inj h)
      exact ⟨rfl, rfl⟩
    · rintro ⟨h, rfl⟩
      rw [Option.some.inj h]
      rfl

theorem run_inWorld {α : Type} {x : StateT σ (Except String) α} {s s' : Records σ} {a : α} :
    (inWorld x).run s = .ok (a, s') ↔
      ∃ world, x.run s.world = .ok (a, world) ∧ s' = { s with world := world } := by
  change (x.run s.world).map _ = _ ↔ _
  cases hx : x.run s.world with
  | error message => exact iff_of_false nofun fun h => nomatch h.choose_spec.1
  | ok result =>
    constructor
    · intro h
      obtain ⟨rfl, rfl⟩ := Prod.mk.inj (Except.ok.inj h)
      exact ⟨result.2, rfl, rfl⟩
    · rintro ⟨world, h, rfl⟩
      rw [Except.ok.inj h]
      rfl

omit [Field R] [LinearOrder R] in
theorem vectorToGripper_eq {x : List R} {built : LoadedGripper R}
    (h : vectorToGripper conf prototype x = some built) :
    x.length = conf.parameters.length ∧ ∃ p,
      prototype.parametrization.setParameters (conf.parameters.zip x) = some p ∧
      built = prototype.copy p := by
  obtain ⟨p, hp, rfl⟩ := Option.map_eq_some_iff.mp h
  change (if x.length = conf.parameters.length then _ else none) = some p at hp
  split at hp
  · rename_i hlength
    exact ⟨hlength, p, hp, rfl⟩
  · cases hp

theorem run_modify {f : Records σ → Records σ} {s s' : Records σ} {u : PUnit} :
    (modify f : Tool σ PUnit).run s = .ok (u, s') ↔ s' = f s := by
  constructor
  · intro h
    exact (Prod.mk.inj (Except.ok.inj h)).2.symm
  · rintro rfl
    rfl

omit [Field R] [LinearOrder R] in
theorem run_save {filename : String} {gripper : LoadedGripper R} {s s' : Records σ} {u : Unit} :
    (save number filename gripper).run s = .ok (u, s') ↔
      ∃ written, MasterGripperLoader.write number (.parametrized gripper) = some written ∧
        s' = { s with files := Function.update s.files filename (some written.1) } := by
  simp only [save, run_bind_eq_ok, run_orThrow, run_modify]
  constructor
  · rintro ⟨written, s₁, ⟨hwrite, rfl⟩, rfl⟩
    exact ⟨written, hwrite, rfl⟩
  · rintro ⟨written, hwrite, rfl⟩
    exact ⟨written, s, ⟨hwrite, rfl⟩, rfl⟩

/-- The records with one more step. -/
def Records.withStep (s : Records σ) (stream : NumberFormat R) (x r : List R) (q : R)
    (trunk : String × PTree String String) : Records σ where
  log := s.log ++ [logLine stream (s.step + 1) x r q]
  files := Function.update s.files (stepFilename (s.step + 1)) (some trunk)
  step := s.step + 1
  world := s.world

omit [LinearOrder R] in
theorem run_callback {gripper : LoadedGripper R} {s s' : Records σ} {u : Unit} :
    (callback number stream powers conf method gripper).run s = .ok (u, s') ↔
      ∃ x r q written, gripperToVector conf gripper = some x ∧ extract conf gripper = some r ∧
        method.combine powers r = .ok q ∧
        MasterGripperLoader.write number (.parametrized gripper) = some written ∧
        s' = s.withStep stream x r q written.1 := by
  simp only [callback, run_bind_eq_ok, run_orThrow, run_liftM_eq_ok, run_modify]
  constructor
  · rintro ⟨x, _, ⟨hx, rfl⟩, r, _, ⟨hr, rfl⟩, q, _, ⟨hq, rfl⟩, _, _, rfl, _, _, rfl, s₁, _, hget,
      hsave⟩
    obtain ⟨written, hwrite, rfl⟩ := run_save.mp hsave
    obtain ⟨rfl, rfl⟩ := Prod.mk.inj (Except.ok.inj hget)
    exact ⟨x, r, q, written, hx, hr, hq, hwrite, rfl⟩
  · rintro ⟨x, r, q, written, hx, hr, hq, hwrite, rfl⟩
    exact ⟨x, _, ⟨hx, rfl⟩, r, _, ⟨hr, rfl⟩, q, _, ⟨hq, rfl⟩, (), _, rfl, (), _, rfl, _, _, rfl,
      run_save.mpr ⟨written, hwrite, rfl⟩⟩

omit [LinearOrder R] in
theorem run_evaluate {x : List R} {v : R} {s s' : Records σ} :
    (evaluate number stream powers conf evaluateGripper method prototype x).run s = .ok (v, s') ↔
      ∃ built quality world r x' written, vectorToGripper conf prototype x = some built ∧
        (evaluateGripper built).run s.world = .ok (quality, world) ∧
        extract conf (built.setQuality quality) = some r ∧
        gripperToVector conf (built.setQuality quality) = some x' ∧
        method.combine powers r = .ok v ∧
        MasterGripperLoader.write number (.parametrized (built.setQuality quality)) =
          some written ∧
        s' = Records.withStep { s with world := world } stream x' r v written.1 := by
  simp only [evaluate, run_bind_eq_ok, run_orThrow, run_inWorld, run_callback, run_liftM_eq_ok]
  constructor
  · rintro ⟨built, _, ⟨hbuilt, rfl⟩, quality, _, ⟨world, hquality, rfl⟩, r, _, ⟨hr, rfl⟩, _, _,
      ⟨x', r', q, written, hx', hr', hq, hwrite, rfl⟩, hv, rfl⟩
    obtain rfl : r = r' := Option.some.inj (hr.symm.trans hr')
    obtain rfl : v = q := Except.ok.inj (hv.symm.trans hq)
    exact ⟨built, quality, world, r, x', written, hbuilt, hquality, hr, hx', hv, hwrite, rfl⟩
  · rintro ⟨built, quality, world, r, x', written, hbuilt, hquality, hr, hx', hv, hwrite, rfl⟩
    exact ⟨built, _, ⟨hbuilt, rfl⟩, quality, _, ⟨world, hquality, rfl⟩, r, _, ⟨hr, rfl⟩, (), _,
      ⟨x', r, v, written, hx', hr, hv, hwrite, rfl⟩, hv, rfl⟩

omit [Field R] [LinearOrder R] in
/-- The vector of a gripper is the one it was built from. -/
theorem gripperToVector_of_built (hnodup : conf.parameters.Nodup) {x x' : List R}
    {built : LoadedGripper R} {quality : GripperQualityImpl R}
    (hbuilt : vectorToGripper conf prototype x = some built)
    (hx' : gripperToVector conf (built.setQuality quality) = some x') : x' = x := by
  obtain ⟨hlength, p, hset, rfl⟩ := vectorToGripper_eq hbuilt
  have hread := Parametrization.mapM_getParameter_setParameters hnodup hlength hset
  have hvector : gripperToVector conf ((prototype.copy p).setQuality quality) = some x := by
    rw [gripperToVector, ParametrizedGripper.parametrization_setQuality,
      ParametrizedGripper.parametrization_copy]
    exact hread
  exact Option.some.inj (hx'.symm.trans hvector)

variable {files : String → Option (String × PTree String String)} {world : σ}
  {rows : List (Row R)} {s s' : Records σ}

theorem stepNumber_succ (k : ℕ) : UInt32.ofNat k + 1 = stepNumber k := by
  rw [stepNumber, UInt32.ofNat_add]
  rfl

/-- Steps have different files until the counter has wrapped around. -/
theorem stepFilename_ne {k n : ℕ} (hlt : k < n) (hle : n < k + 2 ^ 32) :
    stepFilename (stepNumber k) ≠ stepFilename (stepNumber n) := by
  intro hsame
  have hnumber : (stepNumber k).toNat = (stepNumber n).toNat :=
    append_toString_injective hsame
  simp only [stepNumber, UInt32.toNat_ofNat'] at hnumber
  omega

/-- An evaluation adds a line and a file. -/
theorem Logged.evaluate (hnodup : conf.parameters.Nodup)
    (hwritable : LoadedGripper.Writable prototype)
    (h : Logged number stream powers conf evaluateGripper method prototype files world rows s)
    {x : List R} {v : R} (hrange : InRanges (conf.limitsLow.zip conf.limitsHigh) x)
    (hrun : (evaluate number stream powers conf evaluateGripper method prototype x).run s =
      .ok (v, s')) :
    ∃ row, row.x = x ∧ row.q = v ∧
      Logged number stream powers conf evaluateGripper method prototype files world
        (rows ++ [row]) s' := by
  obtain ⟨built, quality, world', r, x', written, hbuilt, hquality, hr, hx', hv, hwrite, rfl⟩ :=
    run_evaluate.mp hrun
  obtain rfl := gripperToVector_of_built hnodup hbuilt hx'
  obtain ⟨hlength, p, hset, rfl⟩ := vectorToGripper_eq hbuilt
  obtain ⟨trunk, object, hwrite', hread, hsame⟩ :=
    ((hwritable.copy p).setQuality quality).write number
  obtain rfl : (trunk, _) = written := Option.some.inj (hwrite'.symm.trans hwrite)
  refine ⟨⟨x', r, v, (prototype.copy p).setQuality quality⟩, rfl, rfl, ?_, ?_, ?_, ?_, ?_⟩
  · exact h.evaluated.next ⟨hrange, ⟨p, quality, hset, hquality, rfl⟩, hr, hv⟩
  · simp only [Records.withStep, h.log, h.step, stepNumber_succ, List.mapIdx_append,
      List.mapIdx_cons, List.mapIdx_nil, List.cons_append, Nat.zero_add]
  · simp only [Records.withStep, h.step, stepNumber_succ, List.length_append, List.length_singleton]
    rfl
  · intro k row hk hkept
    rw [List.length_append, List.length_singleton] at hkept
    by_cases hlast : k = rows.length
    · subst hlast
      rw [List.getElem?_concat_length] at hk
      obtain rfl := Option.some.inj hk
      refine ⟨trunk, object, ?_, hread, hsame⟩
      simp only [Records.withStep, h.step, stepNumber_succ, Function.update_self]
    · have hlt : k < rows.length := by
        have hle := (List.getElem?_eq_some_iff.mp hk).1
        rw [List.length_append, List.length_singleton] at hle
        omega
      rw [List.getElem?_append_left hlt] at hk
      have hne := stepFilename_ne hlt (by omega)
      simp only [Records.withStep, h.step, stepNumber_succ, Function.update_of_ne hne]
      exact h.saved k row hk (by omega)
  · intro name hname
    have hne : name ≠ stepFilename (stepNumber rows.length) :=
      hname rows.length (by rw [List.length_append, List.length_singleton]; omega)
    simp only [Records.withStep, h.step, stepNumber_succ, Function.update_of_ne hne]
    exact h.others name fun k hk => hname k (by rw [List.length_append]; omega)

theorem logged_nil {s : Records σ} (hlog : s.log = [header conf]) (hstep : s.step = 0) :
    Logged number stream powers conf evaluateGripper method prototype s.files s.world [] s where
  evaluated := .none
  log := hlog
  step := hstep
  saved := nofun
  others := fun _ _ => rfl

variable {norm2 : Q R → R} {optimizer : Optimizer norm2 R} {guess : List R} {fuel : ℕ}

/-- The log of the tool is that of the optimization manager. -/
theorem optimize_logged (hnodup : conf.parameters.Nodup)
    (hwritable : LoadedGripper.Writable prototype) (hlog : s.log = [header conf])
    (hstep : s.step = 0) {r : Option (List R)} {session : Session (Records σ) R}
    (hrun : ((optimizationManager conf optimizer).optimize
      (evaluate number stream powers conf evaluateGripper method prototype) guess "maximize"
      fuel).run ⟨s, []⟩ = .ok (r, session)) :
    ∃ rows, Logged number stream powers conf evaluateGripper method prototype s.files s.world rows
        session.user ∧
      session.log = rows.map fun row => (row.x, row.q) := by
  refine OptimizationManager.optimize_preserves (optimizationManager conf optimizer)
    (fun session => ∃ rows, Logged number stream powers conf evaluateGripper method prototype
      s.files s.world rows session.user ∧ session.log = rows.map fun row => (row.x, row.q)) ?_ ?_
    hrun
  · rintro x session session' hcalls ⟨rows, hlogged, hrows⟩ ⟨answer, user, hevaluate, rfl⟩
    obtain ⟨row, rfl, rfl, hlogged'⟩ := hlogged.evaluate hnodup hwritable (hcalls rfl) hevaluate
    exact ⟨rows ++ [row], hlogged', by rw [hrows, List.map_append, List.map_singleton]⟩
  · exact ⟨[], logged_nil hlog hstep, rfl⟩

theorem run_optimize {s s' : Records σ} {result : Option (List R)} :
    (optimize number stream powers conf evaluateGripper optimizer method prototype guess fuel).run s
        = .ok (result, s') ↔
      ∃ session, ((optimizationManager conf optimizer).optimize
          (evaluate number stream powers conf evaluateGripper method prototype) guess "maximize"
          fuel).run ⟨s, []⟩ = .ok (result, session) ∧ s' = session.user := by
  change Except.map _ (StateT.run _ _) = _ ↔ _
  cases StateT.run ((optimizationManager conf optimizer).optimize
      (evaluate number stream powers conf evaluateGripper method prototype) guess "maximize"
      fuel) ⟨s, []⟩ with
  | error message => exact iff_of_false nofun fun h => nomatch h.choose_spec.1
  | ok pair =>
    constructor
    · intro h
      obtain ⟨rfl, rfl⟩ := Prod.mk.inj (Except.ok.inj h)
      exact ⟨pair.2, rfl, rfl⟩
    · rintro ⟨session, h, rfl⟩
      rw [Except.ok.inj h]
      rfl

/-- What is left to do when the optimization has found a point. -/
theorem run_main {gripper : LoadedGripper R} {result : Option (LoadedGripper R)} :
    (main number stream powers conf evaluateGripper optimizer gripper fuel).run s =
        .ok (result, s') ↔
      ∃ method guess found s₁, CombineObjectivesFactory.make conf.method conf.weights = .ok method ∧
        gripperToVector conf gripper = some guess ∧
        (optimize number stream powers conf evaluateGripper optimizer method gripper guess fuel).run
          { s with log := [header conf] } = .ok (found, s₁) ∧
        match found with
        | none => result = none ∧ s' = s₁
        | some x => ∃ built quality world written, vectorToGripper conf gripper x = some built ∧
            (evaluateGripper built).run s₁.world = .ok (quality, world) ∧
            MasterGripperLoader.write number (.parametrized (built.setQuality quality)) =
              some written ∧
            result = some (built.setQuality quality) ∧
            s' = { s₁ with
              files := Function.update s₁.files conf.resultFilename (some written.1)
              world := world } := by
  simp only [main, run_bind_eq_ok, run_modify, run_liftM_eq_ok, run_orThrow]
  constructor
  · rintro ⟨_, _, rfl, method, _, ⟨hmethod, rfl⟩, guess, _, ⟨hguess, rfl⟩, found, s₁, hoptimize,
      hrest⟩
    refine ⟨method, guess, found, s₁, hmethod, hguess, hoptimize, ?_⟩
    cases found with
    | none =>
      obtain ⟨rfl, rfl⟩ := Prod.mk.inj (Except.ok.inj hrest)
      exact ⟨rfl, rfl⟩
    | some x =>
      simp only [run_bind_eq_ok, run_orThrow, run_inWorld, run_save] at hrest
      obtain ⟨built, _, ⟨hbuilt, rfl⟩, quality, _, ⟨world, hquality, rfl⟩, _, _,
        ⟨written, hwrite, rfl⟩, hreturn⟩ := hrest
      obtain ⟨rfl, rfl⟩ := Prod.mk.inj (Except.ok.inj hreturn)
      exact ⟨built, quality, world, written, hbuilt, hquality, hwrite, rfl, rfl⟩
  · rintro ⟨method, guess, found, s₁, hmethod, hguess, hoptimize, hrest⟩
    refine ⟨(), _, rfl, method, _, ⟨hmethod, rfl⟩, guess, _, ⟨hguess, rfl⟩, found, s₁, hoptimize,
      ?_⟩
    cases found with
    | none =>
      obtain ⟨rfl, rfl⟩ := hrest
      rfl
    | some x =>
      obtain ⟨built, quality, world, written, hbuilt, hquality, hwrite, rfl, rfl⟩ := hrest
      simp only [run_bind_eq_ok, run_orThrow, run_inWorld, run_save]
      exact ⟨built, _, ⟨hbuilt, rfl⟩, quality, _, ⟨world, hquality, rfl⟩, (), _,
        ⟨written, hwrite, rfl⟩, rfl⟩

/-- The result is saved after the records of the optimization, if there is one. -/
def Finished (number : NumberText R) (conf : Configuration R) (s : Records σ) :
    Option (LoadedGripper R) → Records σ → Prop
  | none, s' => s' = s
  | some best, s' => ∃ trunk object world, MasterGripperLoader.read number trunk.2 = some object ∧
      SameGripper (.parametrized best) object ∧
      s' = { s with
        files := Function.update s.files conf.resultFilename (some trunk), world := world }

namespace Sample

/-- One index and one parameter. -/
def configuration : Configuration ℚ where
  resultFilename := "gripper.grp.xml"
  indexCalculators := ["success"]
  weights := [1]
  method := "sum"
  parameters := ["stroke"]
  limitsLow := [0]
  limitsHigh := [3]
  length_low := rfl
  length_high := rfl

def gripper : LoadedGripper ℚ := .basicParametrizedGripper
  { name := "gripper", deviceId := "", dynamicDeviceId := "", TCPFrameId := "", movableFrameId := ""
    graspControllerId := "", leftFingerId := "", rightFingerId := "", quality := .make
    parametrization := .ofNames ["tcpoffset", "stroke", "jawdist", "force"] }

def numberText : NumberText ℚ := .ofEncodable ℚ

def numberPowers : Powers ℚ := ⟨fun x _ => x, id⟩

/-- Every gripper succeeds. -/
def quality (_ : LoadedGripper ℚ) : GripperQualityImpl ℚ :=
  GripperQualityImpl.make.setIndex "success" 1

/-- The evaluations are counted. -/
def manager (gripper : LoadedGripper ℚ) : StateT ℕ (Except String) (GripperQualityImpl ℚ) := do
  modify (· + 1)
  return quality gripper

def descent : Optimizer (fun q : Q ℚ => |q.get 0|) ℚ := .coordinateDescent default

def records : Records ℕ := ⟨[], fun _ => none, 0, 0⟩

theorem writable_gripper : LoadedGripper.Writable gripper := fun hgeometry =>
  Bool.noConfusion hgeometry

end Sample

/-- Each evaluation of a gripper finds the same quality, with all indices that are extracted. -/
structure Repeatable (conf : Configuration R)
    (evaluateGripper : LoadedGripper R → StateT σ (Except String) (GripperQualityImpl R))
    (quality : LoadedGripper R → GripperQualityImpl R) : Prop where
  same : ∀ gripper world, ∃ world',
    (evaluateGripper gripper).run world = .ok (quality gripper, world')
  indices : ∀ gripper, ∀ name ∈ conf.indexCalculators,
    ((quality gripper).getIndex name).isSome = true

/-- What the objectives of the gripper at a point combine to. -/
def qualityAt (powers : Powers R) (conf : Configuration R)
    (quality : LoadedGripper R → GripperQualityImpl R) (method : CombineObjectives R)
    (prototype : LoadedGripper R) (x : List R) : R :=
  ((vectorToGripper conf prototype x).bind fun built =>
    (extract conf (built.setQuality (quality built))).bind fun r =>
      (method.combine powers r).toOption).getD 0

variable {quality : LoadedGripper R → GripperQualityImpl R}

omit [Field R] [LinearOrder R] in
theorem exists_vectorToGripper (hguess : gripperToVector conf prototype = some guess)
    {x : List R} (hx : x.length = conf.parameters.length) :
    ∃ p, prototype.parametrization.setParameters (conf.parameters.zip x) = some p ∧
      vectorToGripper conf prototype x = some (prototype.copy p) := by
  have hnames (name : String) (hname : name ∈ conf.parameters) :
      prototype.parametrization.hasParameter name = true := by
    have hread : (conf.parameters.mapM prototype.parametrization.getParameter).isSome = true :=
      Option.isSome_of_eq_some hguess
    exact isSome_mapM.mp hread name hname
  have hset : (prototype.parametrization.setParameters (conf.parameters.zip x)).isSome = true := by
    rw [Parametrization.setParameters_isSome, List.map_fst_zip hx.ge]
    exact hnames
  obtain ⟨p, hp⟩ := Option.isSome_iff_exists.mp hset
  refine ⟨p, hp, ?_⟩
  have happly : (translator conf).applyVectorToParametrization prototype.parametrization x =
      some p := (if_pos hx).trans hp
  rw [vectorToGripper, happly]
  rfl

omit [LinearOrder R] in
theorem exists_run_evaluate (number : NumberText R) (stream : NumberFormat R) (powers : Powers R)
    (hrepeat : Repeatable conf evaluateGripper quality)
    (hweights : method.weights.length = conf.indexCalculators.length)
    (hnodup : conf.parameters.Nodup) (hwritable : LoadedGripper.Writable prototype)
    (hguess : gripperToVector conf prototype = some guess) {x : List R}
    (hx : x.length = conf.parameters.length) (s : Records σ) :
    ∃ s', (evaluate number stream powers conf evaluateGripper method prototype x).run s =
      .ok (qualityAt powers conf quality method prototype x, s') := by
  obtain ⟨p, hset, hbuilt⟩ := exists_vectorToGripper hguess hx
  obtain ⟨world, hquality⟩ := hrepeat.same (prototype.copy p) s.world
  obtain ⟨r, hr⟩ : ∃ r, extract conf ((prototype.copy p).setQuality (quality (prototype.copy p))) =
      some r := by
    rw [← Option.isSome_iff_exists, extract, ParametrizedGripper.quality_setQuality,
      IndexGripperQualityExtractor.extract_isSome]
    exact hrepeat.indices _
  have hlength : r.length = method.weights.length :=
    (IndexGripperQualityExtractor.length_extract hr).trans hweights.symm
  obtain ⟨v, hv⟩ : ∃ v, method.combine powers r = .ok v := by
    rw [CombineObjectives.combine, if_neg (not_not.mpr hlength)]
    cases method.method <;> exact ⟨_, rfl⟩
  obtain ⟨trunk, object, hwrite, -⟩ :=
    ((hwritable.copy p).setQuality (quality (prototype.copy p))).write number
  have hvector : gripperToVector conf
      ((prototype.copy p).setQuality (quality (prototype.copy p))) = some x := by
    rw [gripperToVector, ParametrizedGripper.parametrization_setQuality,
      ParametrizedGripper.parametrization_copy]
    exact Parametrization.mapM_getParameter_setParameters hnodup hx hset
  have hvalue : qualityAt powers conf quality method prototype x = v := by
    rw [qualityAt, hbuilt, Option.bind_some, hr, Option.bind_some, hv]
    rfl
  rw [hvalue]
  exact ⟨_, run_evaluate.mpr ⟨_, _, world, r, x, _, hbuilt, hquality, hr, hvector, hv, hwrite, rfl⟩⟩

/-- The records after an evaluation. -/
def recordsAfter (f : ObjectiveFunction (Records σ) R) (x : List R) (s : Records σ) : Records σ :=
  match (f x).run s with
  | .ok (_, s') => s'
  | .error _ => s

omit [LinearOrder R] in
theorem answers_evaluate (hrepeat : Repeatable conf evaluateGripper quality)
    (hweights : method.weights.length = conf.indexCalculators.length)
    (hnodup : conf.parameters.Nodup) (hwritable : LoadedGripper.Writable prototype)
    (hguess : gripperToVector conf prototype = some guess) {x : List R}
    (hx : x.length = conf.parameters.length) :
    Answers (evaluate number stream powers conf evaluateGripper method prototype) x
      (qualityAt powers conf quality method prototype x)
      (recordsAfter (evaluate number stream powers conf evaluateGripper method prototype) x) := by
  intro s
  obtain ⟨s', hrun⟩ := exists_run_evaluate number stream powers hrepeat hweights hnodup hwritable
    hguess hx s
  rw [recordsAfter, hrun]

/-- The gripper of a line is determined by its point. -/
theorem Evaluated.gripper_eq (hrepeat : Repeatable conf evaluateGripper quality) {row : Row R}
    {world world' : σ}
    (h : Evaluated powers conf evaluateGripper method prototype row world world')
    {built : LoadedGripper R} (hbuilt : vectorToGripper conf prototype row.x = some built) :
    row.gripper = built.setQuality (quality built) := by
  obtain ⟨-, p, hset, rfl⟩ := vectorToGripper_eq hbuilt
  obtain ⟨p', q, hset', hq, hgripper⟩ := h.found
  obtain rfl : p = p' := Option.some.inj (hset.symm.trans hset')
  obtain ⟨world'', hsame⟩ := hrepeat.same (prototype.copy p) world
  obtain ⟨rfl, -⟩ := Prod.mk.inj (Except.ok.inj (hsame.symm.trans hq))
  exact hgripper

theorem Evaluations.forall_mem {world world' : σ} {rows : List (Row R)}
    (h : Evaluations powers conf evaluateGripper method prototype world rows world') :
    ∀ row ∈ rows, ∃ before after,
      Evaluated powers conf evaluateGripper method prototype row before after := by
  induction h with
  | none => exact nofun
  | next _ hevaluated ih =>
    exact List.forall_mem_append.mpr ⟨ih, List.forall_mem_singleton.mpr ⟨_, _, hevaluated⟩⟩

/-- What the tool makes of the end of an optimization. -/
theorem exists_run_main (hrepeat : Repeatable conf evaluateGripper quality)
    (hmethod : CombineObjectivesFactory.make conf.method conf.weights = .ok method)
    (hwritable : LoadedGripper.Writable prototype)
    (hguess : gripperToVector conf prototype = some guess) {r : Option (List R)}
    {session : Session (Records σ) R}
    (hrun : ((optimizationManager conf optimizer).optimize
      (evaluate number stream powers conf evaluateGripper method prototype) guess "maximize"
      fuel).run ⟨{ s with log := [header conf] }, []⟩ = .ok (r, session))
    (hr : ∀ x, r = some x → x.length = conf.parameters.length) :
    ∃ result s', (main number stream powers conf evaluateGripper optimizer prototype fuel).run s =
        .ok (result, s') ∧ Finished number conf session.user result s' ∧
      result = r.bind fun x => (vectorToGripper conf prototype x).map fun built =>
        built.setQuality (quality built) := by
  have hoptimize := run_optimize.mpr ⟨session, hrun, rfl⟩
  cases r with
  | none =>
    exact ⟨none, session.user, run_main.mpr
      ⟨method, guess, none, session.user, hmethod, hguess, hoptimize, rfl, rfl⟩, rfl, rfl⟩
  | some x =>
    obtain ⟨p, -, hbuilt⟩ := exists_vectorToGripper hguess (hr x rfl)
    obtain ⟨trunk, object, hwrite, hread, hsame⟩ :=
      ((hwritable.copy p).setQuality (quality (prototype.copy p))).write number
    obtain ⟨world, hquality⟩ := hrepeat.same (prototype.copy p) session.user.world
    refine ⟨_, _, run_main.mpr ⟨method, guess, some x, session.user, hmethod, hguess, hoptimize,
      prototype.copy p, quality (prototype.copy p), world, (trunk, _), hbuilt, hquality, hwrite,
      rfl, rfl⟩, ⟨trunk, object, world, hread, hsame, rfl⟩, ?_⟩
    rw [Option.bind_some, hbuilt]
    rfl

end OptimizeGripper
end Gripperz.Tools
