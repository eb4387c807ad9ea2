import Gripperz.Loaders.MeshGeneratorLoader
import Gripperz.Models.GripperQualityImpl
import Gripperz.Models.ParametrizedGripper

/-! # Grippers in trees

There is a loader for each class of grippers. It reads and writes what its class adds to the
class it is derived from, and has the other loader do the rest.
-/
namespace Gripperz.Loaders
open Library Parametrizations Models

variable {R : Type}

/-- The data of a gripper with all that it refers to. -/
abbrev FileGripperData (R : Type) := GripperData (GripperQualityImpl R)

abbrev FileParametrizedData (R : Type) :=
  ParametrizedGripperData (GripperQualityImpl R) (Parametrization R)

abbrev FileGeometryData (R : Type) := ParametrizedGeometryGripperData (GripperQualityImpl R)
  (Parametrization R) (ParametrizedMeshGenerator R)

abbrev FileGripper (R : Type) := GripperObject (GripperQualityImpl R) (Parametrization R)
  (ParametrizedMeshGenerator R)

namespace GripperQualityLoader
variable (number : NumberText R)

def read (tree : PTree String String) : Option (GripperQualityImpl R) :=
  readNamedValues number "index" (fun quality index => quality.setIndex index.1 index.2) .make tree

def write (quality : GripperQualityImpl R) : String × PTree String String :=
  ("quality", writeNamedValues number "index" quality.getIndices)

theorem read_write (quality : GripperQualityImpl R) :
    read number (write number quality).2 = some quality := by
  rw [read, write, readNamedValues_writeNamedValues, quality.foldl_getIndices]

end GripperQualityLoader

namespace BaseGripperLoader
variable (number : NumberText R)

/-- `readData`: the ids, for a gripper with a name and a quality. -/
def readData (tree : PTree String String) (name : String) (quality : GripperQualityImpl R) :
    Option (FileGripperData R) := do
  let deviceId ← tree.get ["deviceId"]
  let dynamicDeviceId ← tree.get ["dynamicDeviceId"]
  let tcpFrameId ← tree.get ["tcpFrameId"]
  let movableFrameId ← tree.get ["movableFrameId"]
  let graspControllerId ← tree.get ["graspControllerId"]
  let leftFingerId ← tree.get ["leftFingerId"]
  let rightFingerId ← tree.get ["rightFingerId"]
  some
    { name := name, deviceId := deviceId, dynamicDeviceId := dynamicDeviceId,
      TCPFrameId := tcpFrameId, movableFrameId := movableFrameId,
      graspControllerId := graspControllerId, leftFingerId := leftFingerId,
      rightFingerId := rightFingerId, quality := quality }

def read (tree : PTree String String) : Option (FileGripperData R) := do
  let name ← tree.get ["<xmlattr>", "name"]
  let data ← tree.getChild ["data"]
  let gripper : FileGripperData R ← readData data name .make
  match tree.getChild ["quality"] with
  | some q_node =>
    let quality ← GripperQualityLoader.read number q_node
    some { gripper with quality := quality }
  | none => some { gripper with quality := .make }

def write (gripper : FileGripperData R) : String × PTree String String :=
  let tree := PTree.empty.put ["<xmlattr>", "name"] gripper.name
  let tree := tree.put ["data", "deviceId"] gripper.deviceId
  let tree := tree.put ["data", "dynamicDeviceId"] gripper.dynamicDeviceId
  let tree := tree.put ["data", "tcpFrameId"] gripper.TCPFrameId
  let tree := tree.put ["data", "movableFrameId"] gripper.movableFrameId
  let tree := tree.put ["data", "graspControllerId"] gripper.graspControllerId
  let tree := tree.put ["data", "leftFingerId"] gripper.leftFingerId
  let tree := tree.put ["data", "rightFingerId"] gripper.rightFingerId
  ("gripper", tree.addChild [] "quality" (GripperQualityLoader.write number gripper.quality).2)

end BaseGripperLoader

namespace ParametrizedGripperLoader
variable (number : NumberText R)

def read (tree : PTree String String) : Option (FileParametrizedData R) := do
  let basic_gripper ← BaseGripperLoader.read number tree
  let node ← tree.getChild ["parametrization"]
  let param ← ParametrizationLoader.read number node
  some { basic_gripper with parametrization := param }

def write (gripper : FileParametrizedData R) : Option (String × PTree String String) := do
  let trunk := BaseGripperLoader.write number gripper.toGripperData
  let tree := trunk.2.put ["<xmlattr>", "class"] "ParametrizedGripper"
  let param_node ← ParametrizationLoader.write number gripper.parametrization
  some (trunk.1, tree.addChild [] "parametrization" param_node.2)

end ParametrizedGripperLoader

namespace BasicParametrizedGripperLoader
variable (number : NumberText R)

def read (tree : PTree String String) : Option (FileParametrizedData R) :=
  ParametrizedGripperLoader.read number tree

def write (gripper : FileParametrizedData R) : Option (String × PTree String String) :=
  (ParametrizedGripperLoader.write number gripper).map fun trunk =>
    (trunk.1, trunk.2.put ["<xmlattr>", "class"] "BasicParametrizedGripper")

end BasicParametrizedGripperLoader

namespace ParametrizedGeometryGripperLoader
variable (number : NumberText R)

def read (tree : PTree String String) : Option (FileGeometryData R) := do
  let base_gripper ← ParametrizedGripperLoader.read number tree
  let node ← tree.getChild ["meshGenerator"]
  let generator ← ParametrizedMeshGeneratorLoader.read number node
  some { base_gripper with meshGenerator := some generator }

/-- What is written, and the gripper afterwards: its generator is written with an empty
parametrization, and then gets its own one back. -/
def write (gripper : FileGeometryData R) :
    Option ((String × PTree String String) × FileGeometryData R) := do
  let trunk ← ParametrizedGripperLoader.write number gripper.toParametrizedGripperData
  let tree := trunk.2.put ["<xmlattr>", "class"] "ParametrizedGeometryGripper"
  let generator ← gripper.meshGenerator
  let gen_param := generator.parametrization
  let generator := generator.setParametrization .empty
  let gen_node ← ParametrizedMeshGeneratorLoader.write number generator
  let tree := tree.addChild [] "meshGenerator" gen_node.2
  let generator := generator.setParametrization gen_param
  some ((trunk.1, tree), { gripper with meshGenerator := some generator })

end ParametrizedGeometryGripperLoader

namespace StandardGripperLoader
variable (number : NumberText R)

def read (tree : PTree String String) : Option (FileGeometryData R) :=
  ParametrizedGeometryGripperLoader.read number tree

def write (gripper : FileGeometryData R) :
    Option ((String × PTree String String) × FileGeometryData R) :=
  (ParametrizedGeometryGripperLoader.write number gripper).map fun written =>
    ((written.1.1, written.1.2.put ["<xmlattr>", "class"] "StandardGripper"), written.2)

end StandardGripperLoader

namespace GripperLoaderFactory

/-- `getLoader(cls)`: the class whose loader it is. -/
def getLoader (cls : String) : GripperClass :=
  if cls = "ParametrizedGripper" then .parametrizedGripper
  else if cls = "BasicParametrizedGripper" then .basicParametrizedGripper
  else if cls = "ParametrizedGeometryGripper" then .parametrizedGeometryGripper
  else if cls = "StandardGripper" then .standardGripper
  else .gripper

/-- `getLoader(grp)`: classes are tried in turn, by a cast of the object. -/
def getLoaderOf (cls : GripperClass) : GripperClass :=
  if cls.isA .standardGripper then getLoader "StandardGripper"
  else if cls.isA .parametrizedGeometryGripper then getLoader "ParametrizedGeometryGripper"
  else if cls.isA .basicParametrizedGripper then getLoader "BasicParametrizedGripper"
  else if cls.isA .parametrizedGripper then getLoader "ParametrizedGripper"
  else getLoader ""

/-- An object is written by the loader of its own class. -/
theorem getLoaderOf_eq (cls : GripperClass) : getLoaderOf cls = cls := by
  cases cls <;> decide

end GripperLoaderFactory

namespace MasterGripperLoader
variable (number : NumberText R)

def read (tree : PTree String String) : Option (FileGripper R) :=
  (tree.get ["<xmlattr>", "class"]).bind fun cls =>
    match GripperLoaderFactory.getLoader cls with
    | .gripper => (BaseGripperLoader.read number tree).map .gripper
    | .parametrizedGripper =>
      (ParametrizedGripperLoader.read number tree).map fun data =>
        .parametrized (.parametrizedGripper data)
    | .basicParametrizedGripper =>
      (BasicParametrizedGripperLoader.read number tree).map fun data =>
        .parametrized (.basicParametrizedGripper data)
    | .parametrizedGeometryGripper =>
      (ParametrizedGeometryGripperLoader.read number tree).map fun data =>
        .parametrized (.parametrizedGeometryGripper data)
    | .standardGripper =>
      (StandardGripperLoader.read number tree).map fun data => .parametrized (.standardGripper data)

/-- What is written, and the gripper afterwards. -/
def write (object : FileGripper R) :
    Option ((String × PTree String String) × FileGripper R) :=
  match GripperLoaderFactory.getLoaderOf object.cls, object with
  | .gripper, .gripper data => some (BaseGripperLoader.write number data, .gripper data)
  | .parametrizedGripper, .parametrized (.parametrizedGripper data) =>
    (ParametrizedGripperLoader.write number data).map fun trunk =>
      (trunk, .parametrized (.parametrizedGripper data))
  | .basicParametrizedGripper, .parametrized (.basicParametrizedGripper data) =>
    (BasicParametrizedGripperLoader.write number data).map fun trunk =>
      (trunk, .parametrized (.basicParametrizedGripper data))
  | .parametrizedGeometryGripper, .parametrized (.parametrizedGeometryGripper data) =>
    (ParametrizedGeometryGripperLoader.write number data).map fun written =>
      (written.1, .parametrized (.parametrizedGeometryGripper written.2))
  | .standardGripper, .parametrized (.standardGripper data) =>
    (StandardGripperLoader.write number data).map fun written =>
      (written.1, .parametrized (.standardGripper written.2))
  | _, _ => none

end MasterGripperLoader
end Gripperz.Loaders
