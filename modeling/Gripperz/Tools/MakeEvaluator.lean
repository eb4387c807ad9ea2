import Gripperz.Evaluation.BoundedIndices

/-! # The evaluators of the tools

The tools make an evaluator from the names of indices, have a gripper evaluated by it, and combine
the indices of these names.
-/
namespace Gripperz.Tools
open Library Math Grasps Models Evaluation

/-- The options that calculators are made with. The tools differ in the calculator of the
alignment. -/
structure CalculatorOptions (R : Type) where
  covPosFilteringRadius : R
  covAngleFilteringRadius : R
  alignment : QualityIndexCalculator R
  stressLimit : R
  volumeLimit : R

variable {R G V : Type} [Field R] [LinearOrder R]

/-- The calculator of `evaluate_gripper` and `optimize_gripper`. -/
def EvaluateGripper.alignment (deg2Rad aliPositionFilteringRadius aliAngleFilteringRadius : R) :
    QualityIndexCalculator R :=
  .varianceAlignment aliPositionFilteringRadius (aliAngleFilteringRadius * deg2Rad)

/-- The calculator of `generate_grippers`, which leaves the angle at its default. -/
def GenerateGrippers.alignment (aliFilteringRadius : R) : QualityIndexCalculator R :=
  .alignment aliFilteringRadius (1 / 1000)

/-- The calculator for a name. -/
def makeCalculator (config : CalculatorOptions R) (idx : String) :
    Option (QualityIndexCalculator R) :=
  if idx = "success" then some .success
  else if idx = "coverage" then
    some (.coverage config.covPosFilteringRadius config.covAngleFilteringRadius)
  else if idx = "alignment" then some config.alignment
  else if idx = "stress" then some (.stress config.stressLimit)
  else if idx = "volume" then some (.volume config.volumeLimit)
  else if idx = "wrench" then some .wrench
  else if idx = "significance" then some .significance
  else none

/-- `make_evaluator`; a name without a calculator is passed over. -/
def makeEvaluator (config : CalculatorOptions R) (indexCalculators : List String) :
    GripperEvaluator R :=
  indexCalculators.foldl (fun evaluator idx =>
    match makeCalculator config idx with
    | none => evaluator
    | some calculator => evaluator.addQualityIndexCalculator idx calculator) ⟨[]⟩

/-- `evaluate_gripper` of grasps that have been simulated. -/
def evaluateSimulated [FloorRing R] [Group G] [AddCommGroup V] [DistribMulAction G V]
    (rw : RobWork R G V) (powers : Powers R) (config : CalculatorOptions R)
    (indexCalculators : List String) (method : CombineObjectives R) (gripper : Gripper R)
    (grasps : GraspTask R G V) (results : Results R G V) : Except String (GripperQuality R) :=
  let quality := ((makeEvaluator config indexCalculators).evaluate rw gripper grasps results).1
  match IndexGripperQualityExtractor.extract indexCalculators quality with
  | none => .error "map::at"
  | some objectives => (method.combine powers objectives).map fun q => quality.setIndex "Q" q

/-! ## The calculators of an evaluator -/

variable {config : CalculatorOptions R} {indexCalculators : List String}

def knownIndices : List String :=
  ["success", "coverage", "alignment", "stress", "volume", "wrench", "significance"]

section
omit [Field R] [LinearOrder R]

theorem makeCalculator_isSome {idx : String} :
    (makeCalculator config idx).isSome = true ↔ idx ∈ knownIndices := by
  simp only [makeCalculator, knownIndices, List.mem_cons, List.not_mem_nil, or_false]
  split_ifs <;> simp_all

theorem calculators_makeEvaluator :
    (makeEvaluator config indexCalculators).calculators = indexCalculators.filterMap fun idx =>
      (makeCalculator config idx).map fun calculator => (idx, calculator) := by
  rw [makeEvaluator]
  induction indexCalculators using List.reverseRecOn with
  | nil => rfl
  | append_singleton names idx ih =>
    rw [List.foldl_append, List.filterMap_append, ← ih, List.foldl_cons, List.foldl_nil]
    cases hcalculator : makeCalculator config idx with
    | none => simp [hcalculator]
    | some calculator => simp [hcalculator, GripperEvaluator.addQualityIndexCalculator]

theorem mem_calculators_makeEvaluator {keyCalculator : String × QualityIndexCalculator R} :
    keyCalculator ∈ (makeEvaluator config indexCalculators).calculators ↔
      keyCalculator.1 ∈ indexCalculators ∧
        makeCalculator config keyCalculator.1 = some keyCalculator.2 := by
  obtain ⟨key, calculator⟩ := keyCalculator
  rw [calculators_makeEvaluator, List.mem_filterMap]
  constructor
  · rintro ⟨idx, hidx, hcalculator⟩
    obtain ⟨found, hfound, heq⟩ := Option.map_eq_some_iff.mp hcalculator
    obtain ⟨rfl, rfl⟩ := Prod.mk.inj heq
    exact ⟨hidx, hfound⟩
  · rintro ⟨hidx, hcalculator⟩
    exact ⟨key, hidx, by rw [hcalculator]; rfl⟩

/-- The names of the evaluator are those with a calculator. -/
theorem mem_getIndexKeys_makeEvaluator {idx : String} :
    idx ∈ (makeEvaluator config indexCalculators).getIndexKeys ↔
      idx ∈ indexCalculators ∧ idx ∈ knownIndices := by
  have hknown : (makeCalculator config idx).isSome = true ↔ idx ∈ knownIndices :=
    makeCalculator_isSome
  rw [GripperEvaluator.getIndexKeys, List.mem_map, ← hknown, Option.isSome_iff_exists]
  constructor
  · rintro ⟨keyCalculator, hmem, rfl⟩
    obtain ⟨hidx, hcalculator⟩ := mem_calculators_makeEvaluator.mp hmem
    exact ⟨hidx, _, hcalculator⟩
  · rintro ⟨hidx, calculator, hcalculator⟩
    exact ⟨(idx, calculator), mem_calculators_makeEvaluator.mpr ⟨hidx, hcalculator⟩, rfl⟩

end

/-! ## The quality of a gripper -/

/-- Positive limits, fingers with a volume, and grasps by which the named indices can be judged. -/
structure CalculatorOptions.Bounded (config : CalculatorOptions R) (indexCalculators : List String)
    (gripper : Gripper R) (grasps : GraspTask R G V) (results : Results R G V) : Prop where
  alignment : config.alignment.Bounded gripper grasps results
  stressLimit : 0 < config.stressLimit
  volumeLimit : 0 < config.volumeLimit
  leftFinger : 0 ≤ gripper.leftFinger.volume
  rightFinger : 0 ≤ gripper.rightFinger.volume
  wrench : "wrench" ∈ indexCalculators → ∀ target ∈ liftedTargets grasps results,
    (results target.result).qualityAfterLifting.get 1 ∈ Set.Icc (0 : R) 1
  significance : "significance" ∈ indexCalculators →
    ∃ target ∈ grasps.targets, (results target.result).testStatus ≠ .skip

theorem CalculatorOptions.Bounded.calculator {gripper : Gripper R} {grasps : GraspTask R G V}
    {results : Results R G V} (h : config.Bounded indexCalculators gripper grasps results)
    {keyCalculator : String × QualityIndexCalculator R}
    (hmem : keyCalculator ∈ (makeEvaluator config indexCalculators).calculators) :
    keyCalculator.2.Bounded gripper grasps results := by
  obtain ⟨key, calculator⟩ := keyCalculator
  obtain ⟨hidx, hcalculator⟩ := mem_calculators_makeEvaluator.mp hmem
  simp only [makeCalculator] at hidx hcalculator
  split_ifs at hcalculator with hsuccess hcoverage halignment hstress hvolume hwrench hsignificance
  all_goals obtain rfl := Option.some.inj hcalculator
  · trivial
  · trivial
  · exact h.alignment
  · exact h.stressLimit
  · exact ⟨h.volumeLimit, h.leftFinger, h.rightFinger⟩
  · exact h.wrench (hwrench ▸ hidx)
  · exact h.significance (hsignificance ▸ hidx)

theorem EvaluateGripper.bounded_alignment [IsStrictOrderedRing R] {gripper : Gripper R}
    {grasps : GraspTask R G V} {results : Results R G V}
    {deg2Rad aliPositionFilteringRadius aliAngleFilteringRadius : R} (hdegree : 0 < deg2Rad)
    (hposition : 0 < aliPositionFilteringRadius) (hangle : 0 < aliAngleFilteringRadius) :
    (alignment deg2Rad aliPositionFilteringRadius aliAngleFilteringRadius).Bounded gripper grasps
      results :=
  ⟨hposition, mul_pos hangle hdegree⟩

theorem GenerateGrippers.bounded_alignment {gripper : Gripper R} {grasps : GraspTask R G V}
    {results : Results R G V} (aliFilteringRadius : R) :
    (alignment aliFilteringRadius).Bounded gripper grasps results := trivial

omit [LinearOrder R] in
theorem length_of_combine {powers : Powers R} {method : CombineObjectives R} {objectives : List R}
    {q : R} (h : method.combine powers objectives = .ok q) :
    objectives.length = method.weights.length := by
  by_contra hne
  rw [CombineObjectives.combine, if_pos hne] at h
  cases h

variable [FloorRing R] [Group G] [AddCommGroup V] [DistribMulAction G V]

/-- An evaluation returns the indices and what they combine to, under a name of its own. -/
theorem evaluateSimulated_eq_ok {rw : RobWork R G V} {powers : Powers R}
    {method : CombineObjectives R} {gripper : Gripper R} {grasps : GraspTask R G V}
    {results : Results R G V} {quality : GripperQuality R} :
    evaluateSimulated rw powers config indexCalculators method gripper grasps results =
        .ok quality ↔
      ∃ objectives q, IndexGripperQualityExtractor.extract indexCalculators
          ((makeEvaluator config indexCalculators).evaluate rw gripper grasps results).1 =
            some objectives ∧
        method.combine powers objectives = .ok q ∧
        quality = ((makeEvaluator config indexCalculators).evaluate rw gripper grasps
          results).1.setIndex "Q" q := by
  simp only [evaluateSimulated]
  cases IndexGripperQualityExtractor.extract indexCalculators
      ((makeEvaluator config indexCalculators).evaluate rw gripper grasps results).1 with
  | none => simp
  | some objectives =>
    cases hcombine : method.combine powers objectives with
    | error message => simp [hcombine, Except.map]
    | ok q => simp [hcombine, Except.map, eq_comm]

/-- An evaluation succeeds exactly when each named index has a calculator and a weight. Its indices
are then between zero and one, whatever the calculators mark in between, and so is the quality they
combine to: it is one only if all indices with a weight are, and if it is not their sum, it is
zero as soon as one of these is. -/
theorem evaluateSimulated_overall {G V : Type} [Group G] [AddCommGroup V] [DistribMulAction G V]
    {rw : RobWork ℝ G V} (hspatial : LawfulSpatial rw.spatial) {config : CalculatorOptions ℝ}
    {indexCalculators : List String} {gripper : Gripper ℝ} {grasps : GraspTask ℝ G V}
    {results : Results ℝ G V} (hbounded : config.Bounded indexCalculators gripper grasps results)
    {method : CombineObjectives ℝ} (hweights : ∀ w ∈ method.weights, 0 ≤ w)
    (hsum : 0 < method.weights.sum) :
    let evaluated := evaluateSimulated rw Powers.real config indexCalculators method gripper grasps
      results
    ((∃ quality, evaluated = .ok quality) ↔
      (∀ name ∈ indexCalculators, name ∈ knownIndices) ∧
        indexCalculators.length = method.weights.length) ∧
    ∀ quality, evaluated = .ok quality → ∃ objectives q,
      IndexGripperQualityExtractor.extract indexCalculators quality = some objectives ∧
      (∀ objective ∈ objectives, objective ∈ Set.Icc (0 : ℝ) 1) ∧
      quality.getIndex "Q" = some q ∧
      ((method.method = .log → ∀ objective ∈ objectives, objective ≠ 0) →
        Overall method objectives q) := by
  intro evaluated
  set found := ((makeEvaluator config indexCalculators).evaluate rw gripper grasps results).1
  have hextract : (IndexGripperQualityExtractor.extract indexCalculators found).isSome = true ↔
      ∀ name ∈ indexCalculators, name ∈ knownIndices := by
    rw [GripperEvaluator.extract_evaluate_isSome]
    refine forall₂_congr fun name hname => ?_
    rw [mem_getIndexKeys_makeEvaluator]
    exact and_iff_right hname
  constructor
  · constructor
    · rintro ⟨quality, hquality⟩
      obtain ⟨objectives, q, hobjectives, hcombine, -⟩ := evaluateSimulated_eq_ok.mp hquality
      refine ⟨hextract.mp (Option.isSome_of_eq_some hobjectives), ?_⟩
      rw [← IndexGripperQualityExtractor.length_extract hobjectives]
      exact length_of_combine hcombine
    · rintro ⟨hknown, hlength⟩
      obtain ⟨objectives, hobjectives⟩ := Option.isSome_iff_exists.mp (hextract.mpr hknown)
      have hsize := (IndexGripperQualityExtractor.length_extract hobjectives).trans hlength
      exact ⟨_, evaluateSimulated_eq_ok.mpr
        ⟨objectives, _, hobjectives, CombineObjectives.combine_eq objectives hsize, rfl⟩⟩
  · intro quality hquality
    obtain ⟨objectives, q, hobjectives, hcombine, rfl⟩ := evaluateSimulated_eq_ok.mp hquality
    have hmem := GripperEvaluator.extract_evaluate_mem hspatial
      (fun _ hcalculator => hbounded.calculator hcalculator) hobjectives
    have hnot : "Q" ∉ indexCalculators := by
      intro hname
      have hknown := hextract.mp (Option.isSome_of_eq_some hobjectives) "Q" hname
      simp [knownIndices] at hknown
    refine ⟨objectives, q, ?_, hmem, GripperQuality.getIndex_setIndex_self _ _ _, ?_⟩
    · rw [IndexGripperQualityExtractor.extract_setIndex hnot]
      exact hobjectives
    · intro hlog
      obtain ⟨q', hcombine', hoverall⟩ :=
        exists_overall (length_of_combine hcombine) hweights hsum hmem hlog
      obtain rfl : q = q' := Except.ok.inj (hcombine.symm.trans hcombine')
      exact hoverall

/-! ## The default options -/

namespace Sample
open Gripperz.Geometry

noncomputable def robWork : RobWork ℝ ℤˣ ℝ where
  spatial :=
    { sin := Real.sin, sqrt := Real.sqrt, coord := fun v i => if i = 0 then v else 0
      x := 1, y := 0, z := 0, axis := fun _ => 1, angle := fun _ => 0, rpy := fun _ _ => 0
      variance := fun _ => 0 }
  tree := .exhaustive ℝ ℕ
  sort := StdSort.stable fun p : Point ℝ => OrderDual.toDual p.neighbours.length

theorem lawful_robWork : LawfulSpatial robWork.spatial where
  sqrt_nonneg _ _ := Real.sqrt_nonneg _
  sqrt_pos _ := Real.sqrt_pos.mpr
  variance_nonneg _ := le_rfl

/-- The limits of `evaluate_gripper`, with some number for a degree. -/
noncomputable def options : CalculatorOptions ℝ where
  covPosFilteringRadius := 1 / 1000
  covAngleFilteringRadius := 15
  alignment := EvaluateGripper.alignment 1 (1 / 10000) (1 / 1000)
  stressLimit := 25
  volumeLimit := 200

def indices : List String := ["success", "alignment", "coverage", "wrench", "stress", "volume"]

noncomputable def fingers : Gripper ℝ := ⟨⟨1, 1, fun _ => 1⟩, ⟨1, 1, fun _ => 1⟩, ⟨[1]⟩⟩

noncomputable def grasp : GraspTask ℝ ℤˣ ℝ :=
  ⟨"gripper", "tcp", [⟨"world", 1, 1, 1, ⟨[]⟩, [⟨⟨1, 0⟩, 0⟩]⟩]⟩

noncomputable def lifted : Results ℝ ℤˣ ℝ := fun _ =>
  ⟨.success, 1, ⟨[]⟩, ⟨[]⟩, 1, 1, 1, 1, ⟨[]⟩, ⟨[1, 1, 1]⟩, [], []⟩

end Sample

theorem evaluateSimulated_overall_default :
    let evaluated := evaluateSimulated Sample.robWork Powers.real Sample.options Sample.indices
      ⟨.product, [1, 1, 1, 1, 1, 1]⟩ Sample.fingers Sample.grasp Sample.lifted
    ((∃ quality, evaluated = .ok quality) ↔
      (∀ name ∈ Sample.indices, name ∈ knownIndices) ∧ Sample.indices.length = 6) ∧
    ∀ quality, evaluated = .ok quality → ∃ objectives q,
      IndexGripperQualityExtractor.extract Sample.indices quality = some objectives ∧
      (∀ objective ∈ objectives, objective ∈ Set.Icc (0 : ℝ) 1) ∧
      quality.getIndex "Q" = some q ∧
      ((CombiningMethod.product = .log → ∀ objective ∈ objectives, objective ≠ 0) →
        Overall ⟨.product, [1, 1, 1, 1, 1, 1]⟩ objectives q) := by
  have hbounded : Sample.options.Bounded Sample.indices Sample.fingers Sample.grasp
      Sample.lifted := by
    have hnot : "significance" ∉ Sample.indices := by decide
    refine ⟨?_, ?_, ?_, zero_le_one, zero_le_one, fun _ _ _ => ⟨zero_le_one, le_rfl⟩,
      fun hname => absurd hname hnot⟩
    · exact EvaluateGripper.bounded_alignment one_pos (by norm_num) (by norm_num)
    · norm_num [Sample.options]
    · norm_num [Sample.options]
  exact evaluateSimulated_overall Sample.lawful_robWork hbounded
    (by simp) (by norm_num)

end Gripperz.Tools
