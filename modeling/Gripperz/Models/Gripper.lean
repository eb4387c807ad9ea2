import Gripperz.Geometry.EulerBeam
import Gripperz.Math.Q

/-! # Grippers and their quality

What quality indices read of a gripper, and the map the indices are kept in.
-/
namespace Gripperz.Models
open Math Gripperz.Geometry

/-- A gripper registered with a work cell. -/
structure Gripper (R : Type) where
  leftFinger : TriMesh R
  rightFinger : TriMesh R
  motorForceLimits : Q R

/-- `GripperQualityImpl`: index values by their keys. -/
structure GripperQuality (R : Type) where
  indices : String → Option R

namespace GripperQuality
variable {R : Type}

/-- `GripperQualityFactory::makeGripperQuality`. -/
def makeGripperQuality : GripperQuality R := ⟨fun _ => none⟩

/-- A key without a value raises an exception. -/
def getIndex (quality : GripperQuality R) (key : String) : Option R := quality.indices key

def setIndex (key : String) (value : R) (quality : GripperQuality R) : GripperQuality R :=
  ⟨Function.update quality.indices key (some value)⟩

@[simp] theorem getIndex_setIndex_self (quality : GripperQuality R) (key : String) (value : R) :
    (quality.setIndex key value).getIndex key = some value := by
  simp [setIndex, getIndex]

theorem getIndex_setIndex_of_ne (quality : GripperQuality R) {key key' : String} (value : R)
    (h : key' ≠ key) : (quality.setIndex key value).getIndex key' = quality.getIndex key' := by
  simp [setIndex, getIndex, h]

end GripperQuality
end Gripperz.Models
