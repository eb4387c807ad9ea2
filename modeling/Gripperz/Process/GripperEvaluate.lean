import Gripperz.Evaluation.IndexGripperQualityExtractor
import Gripperz.Math.CombineObjectives
import Gripperz.Process.RobustGripperEvaluationProcessManager

/-! # The program in the subprocess

The program builds a gripper from the values on its command line, has it evaluated and saves it
with an overall quality. Through the command line, the files and the repeated runs, the quality
the manager returns is the one the program has found for the parameters.
-/
namespace Gripperz.Process
open Library Math Models Util XMLHelpers Loaders GripperXMLLoader
open Evaluation.IndexGripperQualityExtractor

variable {R σ : Type} [Field R]

namespace GripperEvaluate

/-- The indices that are extracted. -/
def extracted : List String :=
  ["success", "robustness", "alignment", "coverage", "wrench", "stress", "volume"]

/-- What the options of the command line come to. -/
structure Configuration (R : Type) where
  parameters : List ℤ
  values : String
  indices : List String
  weights : List R
  method : String
  name : String

/-- `while (sstr >> v)`. -/
def readValues (stream : NumberFormat R) : List (List Char) → List R
  | [] => []
  | word :: rest =>
    match stream.read (String.ofList word) with
    | none => []
    | some v => v :: readValues stream rest

/-- `parse_cli`. -/
def parseCli (stream : NumberFormat R) (conf : Configuration R) : Except String (List R) :=
  let values := readValues stream (words conf.values.toList)
  if conf.parameters.length ≠ values.length then .error "Parameters and values size mismatch!"
  else .ok values

/-- The builder of `make_objective_function`. -/
def makeBuilder (conf : Configuration R) : Except String (MapGripperBuilder (GripperQuality R) R) :=
  (conf.parameters.mapM ParameterName.ofId).map fun parameters => ⟨newOldGripper, parameters⟩

/-- `main` from the parsed options to the tree it saves; the manager plans, simulates and evaluates,
and may raise an exception. An exception ends the program, and its text is lost. -/
def main (number : NumberText R) (stream : NumberFormat R) (powers : Powers R)
    (evaluateGripper : FileOldGripper R → σ → Except String (GripperQuality R) × σ)
    (conf : Configuration R) (state : σ) : Except LoadError (PTree String String) := do
  let values ← (parseCli stream conf).mapError .thrown
  let builder ← (makeBuilder conf).mapError .thrown
  let method ← (CombineObjectivesFactory.make conf.method conf.weights).mapError .thrown
  let gripper ← (builder.vectorToGripper values).mapError .thrown
  let quality ← (evaluateGripper gripper state).1.mapError .thrown
  let results ← required .outOfRange (extract conf.indices quality)
  let objective ← (CombineObjectives.combine powers results method).mapError .thrown
  let quality := quality.setIndex "quality" objective
  save number { gripper with quality := quality, name := conf.name }

/-- The options in the command of the manager, the others at their defaults. -/
def configuration (parameterString tmpName : String) : Configuration R where
  parameters := [0, 1, 2, 3, 4, 5, 6, 7, 8, 9, 10, 11]
  values := parameterString
  indices := extracted
  weights := [1, 1, 1, 1, 1, 1, 1]
  method := "product"
  name := tmpName

/-- The command names all parameters. -/
theorem makeBuilder_configuration (parameterString tmpName : String) :
    makeBuilder (configuration parameterString tmpName : Configuration R) =
      .ok ⟨newOldGripper, ParameterName.all⟩ := rfl

/-! ## Values on a command line -/

/-- All values are read exactly when each word is read as a value. -/
theorem readValues_eq_iff {stream : NumberFormat R} {vec values : List R} :
    readValues stream (vec.map fun x => (stream.text x).toList) = values ∧
        vec.length = values.length ↔
      vec.mapM (fun x => stream.read (stream.text x)) = some values := by
  induction vec generalizing values with
  | nil =>
    constructor
    · rintro ⟨rfl, -⟩
      rfl
    · intro h
      rw [← Option.some.inj h]
      exact ⟨rfl, rfl⟩
  | cons x vec ih =>
    rw [List.map_cons, readValues, String.ofList_toList, List.mapM_cons]
    cases hread : stream.read (stream.text x) with
    | none =>
      constructor
      · rintro ⟨rfl, hlength⟩
        cases hlength
      · intro h
        cases h
    | some v =>
      cases values with
      | nil => simp [Option.bind_eq_some_iff]
      | cons value values =>
        simp [Option.bind_eq_some_iff, ← @ih values, and_assoc, and_left_comm]

/-- The gripper that the program builds for another: a new one with its parameters as they come
through the text. -/
def rebuilt (stream : NumberFormat R) (gripper : FileOldGripper R) : Option (FileOldGripper R) :=
  let vector := ParameterName.all.map (MapGripperBuilder.fetchParameter gripper)
  (vector.mapM fun x => stream.read (stream.text x)).map fun values =>
    MapGripperBuilder.applyParameters newOldGripper (ParameterName.all.zip values)

/-- Where the text keeps the parameters, only the data that is no parameter is another. -/
theorem rebuilt_of_kept {stream : NumberFormat R} {gripper : FileOldGripper R}
    (kept : ∀ name, stream.read (stream.text (MapGripperBuilder.fetchParameter gripper name)) =
      some (MapGripperBuilder.fetchParameter gripper name)) :
    rebuilt stream gripper = some { gripper with
      toGripperData := (newOldGripper : FileOldGripper R).toGripperData
      basex := newOldGripper.basex, basey := newOldGripper.basey
      basez := newOldGripper.basez } := by
  have hvalues (names : List ParameterName) :
      (names.map (MapGripperBuilder.fetchParameter gripper)).mapM
        (fun x => stream.read (stream.text x)) =
      some (names.map (MapGripperBuilder.fetchParameter gripper)) := by
    induction names with
    | nil => rfl
    | cons name names ih =>
      rw [List.map_cons, List.mapM_cons, kept name, ih]
      rfl
  simp only [rebuilt, hvalues, Option.map_some]
  rfl

/-- What the program reads and builds from the parameters of a gripper. -/
theorem vectorToGripper_parseCli {stream : NumberFormat R} {gripper built : FileOldGripper R}
    {name : String} :
    (∃ values, parseCli stream (configuration
        (RobustGripperEvaluationProcessManager.parameterString stream gripper) name) = .ok values ∧
      (⟨newOldGripper, ParameterName.all⟩ : MapGripperBuilder (GripperQuality R) R).vectorToGripper
        values = .ok built) ↔ rebuilt stream gripper = some built := by
  set vector := ParameterName.all.map (MapGripperBuilder.fetchParameter gripper) with hvector
  have hwords : words (RobustGripperEvaluationProcessManager.parameterString stream gripper).toList
      = vector.map fun x => (stream.text x).toList := Types.words_toString stream rfl (by decide)
  have hall : ParameterName.all.length = vector.length := by rw [hvector, List.length_map]
  have hpassed : ([0, 1, 2, 3, 4, 5, 6, 7, 8, 9, 10, 11] : List ℤ).length = vector.length := hall
  simp only [rebuilt, ← hvector, Option.map_eq_some_iff, ← readValues_eq_iff, parseCli,
    configuration, hwords, MapGripperBuilder.vectorToGripper, hall, hpassed]
  constructor
  · rintro ⟨values, hvalues, hbuilt⟩
    split at hvalues
    · cases hvalues
    · rename_i hlength
      obtain rfl := Except.ok.inj hvalues
      rw [if_neg (not_not.mpr (not_not.mp hlength).symm)] at hbuilt
      exact ⟨_, ⟨rfl, not_not.mp hlength⟩, Except.ok.inj hbuilt⟩
  · rintro ⟨values, ⟨rfl, hlength⟩, rfl⟩
    exact ⟨_, if_neg (not_not.mpr hlength), if_neg (not_not.mpr hlength.symm)⟩

/-! ## What the program saves -/

theorem thrown_eq_ok {α : Type} {x : Except String α} {a : α} :
    x.mapError LoadError.thrown = .ok a ↔ x = .ok a := by
  cases x with
  | error message => simp [Except.mapError]
  | ok a => simp [Except.mapError]

theorem map_eq_ok {α β : Type} {f : α → β} {x : Except LoadError α} {b : β} :
    x.map f = .ok b ↔ ∃ a, x = .ok a ∧ f a = b := by
  cases x with
  | error error => simp [Except.map]
  | ok a => simp [Except.map]

/-- The product of the objectives. -/
def product : CombineObjectives R := ⟨.product, [1, 1, 1, 1, 1, 1, 1]⟩

variable {number : NumberText R} {stream : NumberFormat R} {powers : Powers R}
  {evaluateGripper : FileOldGripper R → σ → Except String (GripperQuality R) × σ}
  {gripper : FileOldGripper R} {name : String} {state : σ}

theorem main_eq_ok {tree : PTree String String} :
    main number stream powers evaluateGripper (configuration
        (RobustGripperEvaluationProcessManager.parameterString stream gripper) name) state =
          .ok tree ↔
      ∃ built quality results objective, rebuilt stream gripper = some built ∧
        (evaluateGripper built state).1 = .ok quality ∧ extract extracted quality = some results ∧
        CombineObjectives.combine powers results product = .ok objective ∧
        save number { built with quality := quality.setIndex "quality" objective, name := name } =
          .ok tree := by
  have hmethod (method : CombineObjectives R) :
      CombineObjectivesFactory.make "product" [1, 1, 1, 1, 1, 1, 1] = .ok method ↔
        product = method := ⟨Except.ok.inj, congrArg Except.ok⟩
  have hparse (built : FileOldGripper R) :=
    @vectorToGripper_parseCli R _ stream gripper built name
  simp only [main, bind_eq_ok, thrown_eq_ok, required_eq_ok, ← hparse, makeBuilder_configuration]
  constructor
  · rintro ⟨values, hvalues, builder, ⟨⟩, method, hmake, built, hbuilt, quality, hquality, results,
      hresults, objective, hobjective, hsave⟩
    obtain rfl := (hmethod method).mp hmake
    exact ⟨built, quality, results, objective, ⟨values, hvalues, hbuilt⟩, hquality, hresults,
      hobjective, hsave⟩
  · rintro ⟨built, quality, results, objective, ⟨values, hvalues, hbuilt⟩, hquality, hresults,
      hobjective, hsave⟩
    exact ⟨values, hvalues, _, rfl, product, (hmethod product).mpr rfl, built, hbuilt, quality,
      hquality, results, hresults, objective, hobjective, hsave⟩

/-- The program saves a gripper exactly when it can build one, and an evaluation of that finds
all indices. -/
theorem main_saves_iff :
    (∃ tree, main number stream powers evaluateGripper (configuration
        (RobustGripperEvaluationProcessManager.parameterString stream gripper) name) state =
          .ok tree) ↔
      ∃ built quality, rebuilt stream gripper = some built ∧
        (evaluateGripper built state).1 = .ok quality ∧
        ∀ key ∈ extracted, (quality.getIndex key).isSome = true := by
  constructor
  · rintro ⟨tree, h⟩
    obtain ⟨built, quality, results, -, hbuilt, hquality, hresults, -⟩ := main_eq_ok.mp h
    exact ⟨built, quality, hbuilt, hquality, extract_isSome.mp (Option.isSome_of_eq_some hresults)⟩
  · rintro ⟨built, quality, hbuilt, hquality, hall⟩
    obtain ⟨results, hresults⟩ := Option.isSome_iff_exists.mp (extract_isSome.mpr hall)
    have hlength : results.length = (product : CombineObjectives R).weights.length :=
      length_extract hresults
    let objective := CombineObjectives.combineProduct powers [1, 1, 1, 1, 1, 1, 1] results
    let saved : FileOldGripper R :=
      { built with quality := quality.setIndex "quality" objective, name := name }
    have hsaved : ∃ tree, save number saved = .ok tree := by
      rw [save_iff]
      intro key hkey
      by_cases heq : key = "quality"
      · rw [heq, GripperQuality.getIndex_setIndex_self]
        rfl
      · rw [GripperQuality.getIndex_setIndex_of_ne _ _ heq]
        apply hall
        simpa [savedKeys, extracted, heq] using hkey
    obtain ⟨tree, hsave⟩ := hsaved
    exact ⟨tree, main_eq_ok.mpr ⟨built, quality, results, objective, hbuilt, hquality, hresults,
      if_neg (not_not.mpr hlength), hsave⟩⟩

/-- The quality has the indices that an evaluation of the gripper has found, and the product of
these as the overall quality. -/
def FoundFor (powers : Powers R)
    (evaluateGripper : FileOldGripper R → σ → Except String (GripperQuality R) × σ)
    (gripper : FileOldGripper R) (q : GripperQuality R) : Prop :=
  ∃ state quality results objective, (evaluateGripper gripper state).1 = .ok quality ∧
    (∀ key ∈ extracted, q.getIndex key = quality.getIndex key) ∧
    extract extracted quality = some results ∧
    CombineObjectives.combine powers results product = .ok objective ∧
    q.getIndex "quality" = some objective

/-- What the program saves for the parameters of a gripper is loaded with what it has found. -/
theorem load_main {tree : PTree String String}
    (h : main number stream powers evaluateGripper (configuration
      (RobustGripperEvaluationProcessManager.parameterString stream gripper) name) state =
        .ok tree) :
    ∃ built loaded, rebuilt stream gripper = some built ∧
      GripperXMLLoader.load number tree = .ok loaded ∧
      FoundFor powers evaluateGripper built loaded.quality := by
  obtain ⟨built, quality, results, objective, hbuilt, hquality, hresults, hobjective, hsave⟩ :=
    main_eq_ok.mp h
  obtain ⟨tree', loaded, hsave', hload, -, hindex⟩ := load_save ((save_iff _).mp ⟨tree, hsave⟩)
  obtain rfl : tree = tree' := Except.ok.inj (hsave.symm.trans hsave')
  refine ⟨built, loaded, hbuilt, hload, state, quality, results, objective, hquality, ?_,
    hresults, hobjective, ?_⟩
  · intro key hkey
    have hsaved : key ∈ savedKeys := by
      simp only [extracted, List.mem_cons, List.not_mem_nil, or_false] at hkey
      rcases hkey with rfl | rfl | rfl | rfl | rfl | rfl | rfl <;> decide
    have hne : key ≠ "quality" := by
      rintro rfl
      revert hkey
      decide
    rw [hindex key hsaved]
    exact GripperQuality.getIndex_setIndex_of_ne quality objective hne
  · rw [hindex "quality" (by decide)]
    exact GripperQuality.getIndex_setIndex_self quality "quality" objective

variable {τ : Type} (manager : RobustGripperEvaluationProcessManager)

/-- A command leaves the results as they were, or a file that cannot be parsed, or what a run of
the program has saved for the parameters of the gripper. -/
def RunsGripperEvaluate (number : NumberText R) (stream : NumberFormat R) (powers : Powers R)
    (evaluateGripper : FileOldGripper R → σ → Except String (GripperQuality R) × σ)
    (gripper : FileOldGripper R) (run : Disk τ → ℤ × Disk τ) : Prop :=
  ∀ disk, (run disk).2.files manager.filename = disk.files manager.filename ∨
    (∃ message, (run disk).2.files manager.filename = some (.error message)) ∨
    ∃ state tree, main number stream powers evaluateGripper (configuration
        (RobustGripperEvaluationProcessManager.parameterString stream gripper) manager.tmpName)
          state = .ok tree ∧
      (run disk).2.files manager.filename = some (.ok tree)

/-- A gripper is loaded from the results only if the program has saved them. -/
theorem load_of_runsGripperEvaluate {run : Disk τ → ℤ × Disk τ}
    (hruns : RunsGripperEvaluate manager number stream powers evaluateGripper gripper run)
    {disk : Disk τ} (hnone : disk.files manager.filename = none) {loaded : FileOldGripper R}
    (hload : (run disk).2.load number manager.filename = .ok loaded) :
    ∃ built, rebuilt stream gripper = some built ∧
      FoundFor powers evaluateGripper built loaded.quality := by
  unfold Disk.load at hload
  rcases hruns disk with hsame | ⟨message, herror⟩ | ⟨state, tree, hmain, htree⟩
  · rw [hsame, hnone] at hload
    cases hload
  · rw [herror] at hload
    cases hload
  · obtain ⟨built, loaded', hbuilt, hload', hfound⟩ := load_main hmain
    simp only [htree, hload'] at hload
    exact ⟨built, hbuilt, Except.ok.inj hload ▸ hfound⟩

/-- A call returns only what a run of the program has found in it, for the gripper made of the
parameters that are passed, whatever files are there before and however often the program fails.
It does return if the last run of the program has saved a gripper. -/
theorem evaluateGripper_isolated {system : String → Disk τ → ℤ × Disk τ}
    (hruns : RunsGripperEvaluate manager number stream powers evaluateGripper gripper
      (system (manager.command
        (RobustGripperEvaluationProcessManager.parameterString stream gripper))))
    (disk : Disk τ) :
    let run := attempts (system (manager.command
      (RobustGripperEvaluationProcessManager.parameterString stream gripper)))
        (disk.remove manager.filename)
    (∀ q disk', manager.evaluateGripper number stream system (some gripper) disk = (.ok q, disk') →
      ∃ built, rebuilt stream gripper = some built ∧ FoundFor powers evaluateGripper built q) ∧
    ∀ k ≤ manager.ntries,
      (∀ j < k, (run j).1 ≠ interruptReturnCode ∧ (run j).2.files manager.filename = none) →
      (run k).1 ≠ interruptReturnCode → (∃ state tree, main number stream powers evaluateGripper
        (configuration (RobustGripperEvaluationProcessManager.parameterString stream gripper)
          manager.tmpName) state = .ok tree ∧
        (run k).2.files manager.filename = some (.ok tree)) →
      ∃ q, manager.evaluateGripper number stream system (some gripper) disk =
        (.ok q, (run k).2) := by
  intro run
  constructor
  · intro q disk' hcall
    obtain ⟨before, hnone, hretry⟩ := retry_invariant (system (manager.command
      (RobustGripperEvaluationProcessManager.parameterString stream gripper))) manager.done
      (fun disk => disk.files manager.filename = none) (n := manager.ntries)
      (Disk.files_remove manager.filename disk)
      (fun _ _ hdone => (manager.done_eq_false.mp hdone).1)
    simp only [RobustGripperEvaluationProcessManager.evaluateGripper,
      RobustGripperEvaluationProcessManager.clear_eq, hretry] at hcall
    split at hcall
    · cases hcall
    · obtain ⟨loaded, hload, hquality⟩ := map_eq_ok.mp (congrArg Prod.fst hcall)
      rw [← hquality]
      exact load_of_runsGripperEvaluate manager hruns hnone hload
  · intro k hle hbefore hcode hsaved
    obtain ⟨state, tree, hmain, hfile⟩ := hsaved
    obtain ⟨-, k', hle', hdisk, hconcluded, hbefore', hlast⟩ :=
      manager.evaluateGripper_spec number stream system gripper disk
    have hsame : k' = k := by
      rcases lt_trichotomy k' k with hlt | heq | hgt
      · -- the call would have gone on
        have hend := hlast (hbefore k' hlt).1 (hbefore k' hlt).2
        exact absurd hle (not_le.mpr (hend ▸ hlt))
      · exact heq
      · -- the call would have ended before
        have hnone := (hbefore' k hgt).2
        rw [hfile] at hnone
        cases hnone
    subst hsame
    obtain ⟨-, loaded, -, hload, -⟩ := load_main hmain
    have hloaded : (run k').2.load number manager.filename = .ok loaded := by
      simp only [Disk.load, hfile, hload]
    generalize manager.evaluateGripper number stream system (some gripper) disk = result
      at hdisk hconcluded ⊢
    obtain ⟨value, disk'⟩ := result
    obtain rfl : disk' = (run k').2 := hdisk
    cases hconcluded with
    | interrupted hinterrupted => exact absurd hinterrupted hcode
    | loaded =>
      refine ⟨loaded.quality, Prod.ext ?_ rfl⟩
      exact map_eq_ok.mpr ⟨loaded, hloaded, rfl⟩
    | missing _ hnone =>
      rw [hfile] at hnone
      cases hnone

/-- A command that runs the program on some values. -/
def runGripperEvaluate (number : NumberText R) (stream : NumberFormat R) (powers : Powers R)
    (evaluateGripper : FileOldGripper R → σ → Except String (GripperQuality R) × σ)
    (values : String) (disk : Disk σ) : ℤ × Disk σ :=
  match main number stream powers evaluateGripper (configuration values manager.tmpName)
      disk.rest with
  | .error _ => (1, disk)
  | .ok tree => (0, disk.setFile manager.filename (some (.ok tree)))

theorem runGripperEvaluate_of_saved {disk : Disk σ} {tree : PTree String String}
    (h : main number stream powers evaluateGripper (configuration
      (RobustGripperEvaluationProcessManager.parameterString stream gripper) manager.tmpName)
        disk.rest = .ok tree) :
    runGripperEvaluate manager number stream powers evaluateGripper
        (RobustGripperEvaluationProcessManager.parameterString stream gripper) disk =
      (0, disk.setFile manager.filename (some (.ok tree))) := by
  rw [runGripperEvaluate, h]

theorem runs_runGripperEvaluate :
    RunsGripperEvaluate manager number stream powers evaluateGripper gripper
      (runGripperEvaluate manager number stream powers evaluateGripper
        (RobustGripperEvaluationProcessManager.parameterString stream gripper)) := by
  intro disk
  cases hmain : main number stream powers evaluateGripper (configuration
      (RobustGripperEvaluationProcessManager.parameterString stream gripper) manager.tmpName)
        disk.rest with
  | error error =>
    left
    rw [runGripperEvaluate, hmain]
  | ok tree =>
    right; right
    refine ⟨disk.rest, tree, hmain, ?_⟩
    rw [runGripperEvaluate_of_saved manager hmain]
    exact Function.update_self _ _ _

theorem evaluateGripper_isolated_once :
    let manager : RobustGripperEvaluationProcessManager :=
      ⟨"Scene.dwc.xml", "task.td.xml", "samples.xml", 1, 0, "temporary", "gripper_evaluate"⟩
    let number := NumberText.ofEncodable ℚ
    let stream := number.toNumberFormat
    let powers : Powers ℚ := ⟨fun x _ => x, id⟩
    let quality : GripperQuality ℚ := ⟨fun _ => some 1⟩
    let evaluateGripper (_ : FileOldGripper ℚ) (_ : Unit) : Except String _ × Unit :=
      (.ok quality, ())
    let system (_ : String) := runGripperEvaluate manager number stream powers evaluateGripper
      (RobustGripperEvaluationProcessManager.parameterString stream newOldGripper)
    ∃ q disk', manager.evaluateGripper number stream system (some newOldGripper)
        ⟨fun _ => none, ()⟩ = (.ok q, disk') ∧
      ∃ built, rebuilt stream newOldGripper = some built ∧
        FoundFor powers evaluateGripper built q := by
  intro manager number stream powers quality evaluateGripper system
  have hruns : RunsGripperEvaluate manager number stream powers evaluateGripper newOldGripper
      (system (manager.command
        (RobustGripperEvaluationProcessManager.parameterString stream newOldGripper))) :=
    runs_runGripperEvaluate manager
  obtain ⟨hfound, hreturns⟩ := evaluateGripper_isolated manager hruns ⟨fun _ => none, ()⟩
  obtain ⟨tree, hmain⟩ : ∃ tree, main number stream powers evaluateGripper (configuration
      (RobustGripperEvaluationProcessManager.parameterString stream newOldGripper)
        manager.tmpName) () = .ok tree :=
    main_saves_iff.mpr ⟨_, quality, rebuilt_of_kept fun name => number.read_text _, rfl,
      fun _ _ => rfl⟩
  have hrun (disk : Disk Unit) :
      system (manager.command
        (RobustGripperEvaluationProcessManager.parameterString stream newOldGripper)) disk =
        (0, disk.setFile manager.filename (some (.ok tree))) :=
    runGripperEvaluate_of_saved manager hmain
  obtain ⟨q, hcall⟩ := hreturns 0 (Nat.zero_le _) (fun j hj => absurd hj (Nat.not_lt_zero j))
    (by rw [attempts, hrun]; exact two_ne_zero.symm)
    ⟨(), tree, hmain, by rw [attempts, hrun, Disk.setFile]; simp⟩
  exact ⟨q, _, hcall, hfound q _ hcall⟩

end GripperEvaluate
end Gripperz.Process
