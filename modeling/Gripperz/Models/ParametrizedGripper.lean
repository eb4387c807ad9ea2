import Gripperz.Library.Heap
import Gripperz.Parametrizations.Parametrization

/-! # The classes of grippers

An object has the data its class declares and inherits. `Q`, `P` and `M` stand for what it
refers to: a quality, a parametrization and a mesh generator.
-/
namespace Gripperz.Models
open Library Parametrizations

/-- The members of `Gripper`. -/
structure GripperData (Q : Type) where
  name : String
  deviceId : String
  dynamicDeviceId : String
  TCPFrameId : String
  movableFrameId : String
  graspControllerId : String
  leftFingerId : String
  rightFingerId : String
  quality : Q
  deriving DecidableEq, Repr

/-- The members of `ParametrizedGripper` and of `BasicParametrizedGripper`. -/
structure ParametrizedGripperData (Q P : Type) extends GripperData Q where
  parametrization : P
  deriving DecidableEq, Repr

/-- The members of `ParametrizedGeometryGripper` and of `StandardGripper`. The generator is a
null pointer until it is set. -/
structure ParametrizedGeometryGripperData (Q P M : Type) extends ParametrizedGripperData Q P where
  meshGenerator : Option M
  deriving DecidableEq, Repr

/-- An object of a class derived from `ParametrizedGripper`. -/
inductive ParametrizedGripper (Q P M : Type) where
  | parametrizedGripper (data : ParametrizedGripperData Q P)
  | basicParametrizedGripper (data : ParametrizedGripperData Q P)
  | parametrizedGeometryGripper (data : ParametrizedGeometryGripperData Q P M)
  | standardGripper (data : ParametrizedGeometryGripperData Q P M)
  deriving DecidableEq, Repr

inductive GripperClass where
  | gripper | parametrizedGripper | basicParametrizedGripper | parametrizedGeometryGripper
  | standardGripper
  deriving DecidableEq, Repr

namespace ParametrizedGripper
variable {Q P M R : Type}

def cls : ParametrizedGripper Q P M → GripperClass
  | parametrizedGripper _ => .parametrizedGripper
  | basicParametrizedGripper _ => .basicParametrizedGripper
  | parametrizedGeometryGripper _ => .parametrizedGeometryGripper
  | standardGripper _ => .standardGripper

/-- The object as a `ParametrizedGripper`. -/
def data : ParametrizedGripper Q P M → ParametrizedGripperData Q P
  | parametrizedGripper data => data
  | basicParametrizedGripper data => data
  | parametrizedGeometryGripper data => data.toParametrizedGripperData
  | standardGripper data => data.toParametrizedGripperData

def parametrization (gripper : ParametrizedGripper Q P M) : P := gripper.data.parametrization

/-- A copy of an object, with the parametrization at `p`. `BasicParametrizedGripper` has no
`clone` of its own: that of `ParametrizedGripper` copies it. -/
def copy (p : P) : ParametrizedGripper Q P M → ParametrizedGripper Q P M
  | parametrizedGripper data => parametrizedGripper { data with parametrization := p }
  | basicParametrizedGripper data => parametrizedGripper { data with parametrization := p }
  | parametrizedGeometryGripper data =>
    parametrizedGeometryGripper { data with parametrization := p }
  | standardGripper data => standardGripper { data with parametrization := p }

/-- `clone`. The parametrization is copied; the quality and the generator are shared. -/
def clone (gripper : ParametrizedGripper Q Ptr M) (heap : Heap (Parametrization R)) :
    Option (ParametrizedGripper Q Ptr M × Heap (Parametrization R)) :=
  (heap.get gripper.parametrization).map fun p =>
    (gripper.copy (heap.alloc p).1, (heap.alloc p).2)

@[simp] theorem parametrization_copy (gripper : ParametrizedGripper Q P M) (p : P) :
    (gripper.copy p).parametrization = p := by
  cases gripper <;> rfl

/-- A copy is of the same class unless the class has no `clone`. -/
theorem cls_copy_iff (gripper : ParametrizedGripper Q P M) (p : P) :
    (gripper.copy p).cls = gripper.cls ↔ gripper.cls ≠ .basicParametrizedGripper := by
  cases gripper <;> simp [copy, cls]

/-- `getParameter` of a gripper. -/
def getParameter (gripper : ParametrizedGripper Q Ptr M) (heap : Heap (Parametrization R))
    (name : String) : Option R :=
  (heap.get gripper.parametrization).bind fun p => p.getParameter name

end ParametrizedGripper

/-- An object of class `Gripper` or of a class derived from it. -/
inductive GripperObject (Q P M : Type) where
  | gripper (data : GripperData Q)
  | parametrized (object : ParametrizedGripper Q P M)
  deriving DecidableEq, Repr

/-- The class is the other one or derived from it. -/
def GripperClass.isA : GripperClass → GripperClass → Bool
  | _, .gripper => true
  | .gripper, _ => false
  | _, .parametrizedGripper => true
  | .basicParametrizedGripper, .basicParametrizedGripper => true
  | .parametrizedGeometryGripper, .parametrizedGeometryGripper => true
  | .standardGripper, .parametrizedGeometryGripper => true
  | .standardGripper, .standardGripper => true
  | _, _ => false

namespace GripperObject
variable {Q P M : Type}

def cls : GripperObject Q P M → GripperClass
  | gripper _ => .gripper
  | parametrized object => object.cls

/-- The object as a `Gripper`. -/
def data : GripperObject Q P M → GripperData Q
  | gripper data => data
  | parametrized object => object.data.toGripperData

/-- The parametrization of an object that has one. -/
def parametrization : GripperObject Q P M → Option P
  | gripper _ => none
  | parametrized object => some object.parametrization

/-- The generator of an object that has one. -/
def meshGenerator : GripperObject Q P M → Option M
  | parametrized (.parametrizedGeometryGripper data) => data.meshGenerator
  | parametrized (.standardGripper data) => data.meshGenerator
  | _ => none

end GripperObject
end Gripperz.Models
