import Gripperz.Loaders.GripperFiles
import Gripperz.Models.ModifiedGripper

/-! # The grippers of the tools

The tools load a parametrized gripper, and save it with other parameters and another quality.
-/
namespace Gripperz.Tools
open Library Parametrizations Models Loaders

variable {R : Type}

/-- Files with different numbers in their names are different files. -/
theorem append_toString_injective {before after : String} {k k' : ℕ}
    (h : before ++ toString k ++ after = before ++ toString k' ++ after) : k = k' := by
  rw [String.append_left_inj, String.append_right_inj] at h
  have hread := congrArg (NumberText.ofEncodable ℕ).read h
  exact Option.some.inj (((NumberText.ofEncodable ℕ).read_text k).symm.trans
    (hread.trans ((NumberText.ofEncodable ℕ).read_text k')))

/-- A parametrized gripper with all that it refers to. -/
abbrev LoadedGripper (R : Type) :=
  ParametrizedGripper (GripperQualityImpl R) (Parametrization R) (ParametrizedMeshGenerator R)

namespace LoadedGripper

/-- A gripper with a geometry has a generator that can be written. -/
def Writable (gripper : LoadedGripper R) : Prop :=
  gripper.cls.isA .parametrizedGeometryGripper = true →
    ∃ generator, (GripperObject.parametrized gripper).meshGenerator = some generator ∧
      generator.cls ≠ .other

variable {gripper : LoadedGripper R}

/-- It is saved as it is. -/
theorem Writable.write (h : Writable gripper) (number : NumberText R) :
    ∃ trunk object,
      MasterGripperLoader.write number (.parametrized gripper) =
        some (trunk, .parametrized gripper) ∧
      MasterGripperLoader.read number trunk.2 = some object ∧
      SameGripper (.parametrized gripper) object := by
  have htrips : RoundTrips number (.parametrized gripper) := by
    rw [roundTrips_iff number (.parametrized gripper) h]
    cases gripper <;> exact GripperClass.noConfusion
  exact htrips

theorem Writable.setParametrization (h : Writable gripper) (p : Parametrization R) :
    Writable (gripper.setParametrization p) := by
  simpa [Writable] using h

theorem Writable.setQuality (h : Writable gripper) (quality : GripperQualityImpl R) :
    Writable (gripper.setQuality quality) := by
  simpa [Writable] using h

/-- The class of a copy has a generator only if that of the gripper has. -/
theorem Writable.copy (h : Writable gripper) (p : Parametrization R) :
    Writable (gripper.copy p) := by
  cases gripper with
  | parametrizedGripper data => exact h
  | basicParametrizedGripper data => exact fun hgeometry => Bool.noConfusion hgeometry
  | parametrizedGeometryGripper data => exact h
  | standardGripper data => exact h

end LoadedGripper
end Gripperz.Tools
