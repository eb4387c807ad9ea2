import Mathlib.Data.Rat.Encodable
import Gripperz.Evaluation.CoverageRatio
import Gripperz.Loaders.GripperXMLLoader

/-! # Saving evaluated grippers

The evaluator sets seven of the eight indices the writer asks for: nothing sets the overall
quality of a gripper.
-/
namespace Gripperz.Evaluation.OldGripperEvaluator
open Math Library Grasps Models Util Loaders GripperXMLLoader

variable {R G V : Type} [Field R] [LinearOrder R] [Group G] [AddCommGroup V]
  [DistribMulAction G V] (rw : RobWork R G V)
  (evaluator : OldGripperEvaluator (FileOldGripper R) R) (gripper : FileOldGripper R)
  (grasps : GraspTask R G V) (results : Results R G V)

/-- The gripper with the quality it has been given by an evaluation. -/
def evaluated : FileOldGripper R :=
  { gripper with quality := (evaluator.evaluate rw gripper grasps results).1 }

theorem getIndex_quality :
    (evaluated rw evaluator gripper grasps results).quality.getIndex "quality" = none := by
  simp [evaluated, evaluate, GripperQuality.getIndex, GripperQuality.setIndex,
    GripperQuality.makeGripperQuality]

theorem isSome_getIndex {key : String} (h : key ∈ savedKeys) (hne : key ≠ "quality") :
    ((evaluated rw evaluator gripper grasps results).quality.getIndex key).isSome = true := by
  simp only [savedKeys, List.mem_cons, List.not_mem_nil, or_false] at h
  rcases h with rfl | rfl | rfl | rfl | rfl | rfl | rfl | rfl
  all_goals first
    | exact absurd rfl hne
    | simp [evaluated, evaluate, GripperQuality.getIndex, GripperQuality.setIndex]

theorem save_evaluated (number : NumberText R) :
    save number (evaluated rw evaluator gripper grasps results) = .error .outOfRange :=
  save_of_missing (fun _ h hne => isSome_getIndex rw evaluator gripper grasps results h hne)
    (getIndex_quality rw evaluator gripper grasps results)

/-- The gripper as it is evaluated, with an overall quality. -/
def rated (value : R) : FileOldGripper R :=
  { gripper with quality :=
      (evaluated rw evaluator gripper grasps results).quality.setIndex "quality" value }

/-- An evaluated gripper is never saved; with an overall quality it is saved and loaded. -/
theorem not_saved (number : NumberText R) :
    (¬ ∃ tree, save number (evaluated rw evaluator gripper grasps results) = .ok tree) ∧
    ∀ value, ∃ tree loaded,
      save number (rated rw evaluator gripper grasps results value) = .ok tree ∧
        load number tree = .ok loaded ∧ { loaded with quality := gripper.quality } = gripper ∧
        ∀ key ∈ savedKeys, loaded.quality.getIndex key =
          (rated rw evaluator gripper grasps results value).quality.getIndex key := by
  constructor
  · rintro ⟨tree, h⟩
    rw [save_evaluated] at h
    cases h
  · intro value
    have hall (key : String) (h : key ∈ savedKeys) :
        ((rated rw evaluator gripper grasps results value).quality.getIndex key).isSome = true := by
      by_cases hkey : key = "quality"
      · simp [rated, hkey]
      · rw [rated, GripperQuality.getIndex_setIndex_of_ne _ _ hkey]
        exact isSome_getIndex rw evaluator gripper grasps results h hkey
    obtain ⟨tree, loaded, hsave, hload, hsame, hindex⟩ := load_save hall
    refine ⟨tree, loaded, hsave, hload, ?_, hindex⟩
    exact congrArg (fun g : FileOldGripper R => { g with quality := gripper.quality }) hsame

/-- The default gripper, evaluated on two grasps. -/
theorem not_saved_default : ¬ ∃ tree, save (.ofEncodable ℚ)
    (evaluated GripperEvaluator.Sample.robWork ⟨⟨[1, 0, 0]⟩, 1, 1, 1, fun _ => 0, fun _ => 0⟩
      newOldGripper (GripperEvaluator.Sample.grasps 1) GripperEvaluator.Sample.success) =
    .ok tree := by
  rintro ⟨tree, h⟩
  rw [save_evaluated] at h
  cases h

end Gripperz.Evaluation.OldGripperEvaluator
