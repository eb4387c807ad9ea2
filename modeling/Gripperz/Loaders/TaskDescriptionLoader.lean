import Gripperz.Context.TaskDescription
import Gripperz.Util.XMLHelpers

/-! # Task descriptions in trees

Names are read without the blanks around them, and looked up in the work cell. Angles of the
distances are in degrees in a tree and in radians in a task description.
-/
namespace Gripperz.Loaders
open Library Math Context Util

/-- What a work cell has under each name. -/
structure DynamicWorkCell (R S : Type) where
  findObject : String → Option Object
  findTreeDevice : String → Option (TreeDevice R S)
  hasRigidDevice : String → Bool
  hasMovableFrame : String → Bool
  name_of_findObject : ∀ {name object}, findObject name = some object → object.name = name
  name_of_findTreeDevice : ∀ {name device}, findTreeDevice name = some device → device.name = name

/-- A work cell with these objects, devices and frames. -/
def DynamicWorkCell.ofLists {R S : Type} (objects : List Object) (devices : List (TreeDevice R S))
    (rigidDevices movableFrames : List String) : DynamicWorkCell R S where
  findObject name := objects.find? fun object => object.name = name
  findTreeDevice name := devices.find? fun device => device.name = name
  hasRigidDevice name := rigidDevices.contains name
  hasMovableFrame name := movableFrames.contains name
  name_of_findObject h := by simpa using List.find?_some h
  name_of_findTreeDevice h := by simpa using List.find?_some h

/-- The conversions between units and between forms of a rotation, each with the other way. -/
structure Conversions (R G V : Type) [Field R] extends Spatial R G V where
  deg2Rad : R
  rad2Deg : R
  vector3D : R → R → R → V
  toRotation3D : R → R → R → G
  rad2Deg_mul_deg2Rad : rad2Deg * deg2Rad = 1
  vector3D_coord : ∀ v, vector3D (coord v 0) (coord v 1) (coord v 2) = v
  toRotation3D_rpy : ∀ g, toRotation3D (rpy g 0) (rpy g 1) (rpy g 2) = g

namespace TaskDescriptionLoader
variable {R G V S : Type} [Field R]

/-- The constructor. Members it leaves alone are as in the memory it is given. -/
def create (memory : TaskDescription R G V S) : TaskDescription R G V S :=
  { memory with interferenceLimit := 0, wrenchLimit := 0, stressLimit := 10,
                interferenceObjects := [], prefilteringDistance := ⟨[]⟩, coverageDistance := ⟨[]⟩,
                teachDistance := ⟨[]⟩, gripperID := "", controllerID := "", hints := [] }

section
variable (dwc : DynamicWorkCell R S)

def readTarget (tree : PTree String String) (task : TaskDescription R G V S) :
    Except LoadError (TaskDescription R G V S) := do
  let targetName := trim tree.data
  let targetObject ← required (.thrown "Cannot find target object!") (dwc.findObject targetName)
  pure { task with targetObject := targetObject, targetFrame := targetObject.base }

def readGripper (tree : PTree String String) (task : TaskDescription R G V S) :
    Except LoadError (TaskDescription R G V S) := do
  let nameNode ← getChild "Name" tree
  let gripperName := trim nameNode.data
  let gripperDevice ← required (.thrown "Gripper device not found!")
    (dwc.findTreeDevice gripperName)
  let dynamicDevice ← required (.thrown "Gripper dynamic device not found!")
    (if dwc.hasRigidDevice gripperName then some gripperName else none)
  let tcpNode ← getChild "TCP" tree
  let tcpName := trim tcpNode.data
  let tcpFrame ← required (.thrown "Gripper TCP frame not found!")
    (if dwc.hasMovableFrame tcpName then some tcpName else none)
  let movNode ← getChild "Movable" tree
  let movableName := trim movNode.data
  let movableFrame ← required (.thrown "Gripper movable frame not found!")
    (if dwc.hasMovableFrame movableName then some movableName else none)
  let ctrlrNode ← getChild "Controller" tree
  let ctrlrName := trim ctrlrNode.data
  pure { task with gripperID := gripperName, gripperDevice := gripperDevice,
                   gripperDynamicDevice := dynamicDevice, gripperTCP := tcpFrame,
                   gripperMovable := movableFrame, controllerID := ctrlrName }

def addInterferenceObject (obj : Object) (task : TaskDescription R G V S) :
    TaskDescription R G V S :=
  { task with interferenceObjects := task.interferenceObjects ++ [obj] }

/-- One child of `InterferenceObjects`. -/
def readInterferenceObject (p : String × PTree String String) (task : TaskDescription R G V S) :
    Except LoadError (TaskDescription R G V S) :=
  if p.1 = "Object" then do
    let objName := trim p.2.data
    let obj ← required (.thrown "Interference object not found!") (dwc.findObject objName)
    pure (addInterferenceObject obj task)
  else pure task

def readInterferenceObjects (tree : PTree String String) (task : TaskDescription R G V S) :
    Except LoadError (TaskDescription R G V S) :=
  tree.children.foldlM (fun task p => readInterferenceObject dwc p task) task

end

section
variable (number : NumberText R) (conversions : Conversions R G V)

def readLimits (tree : PTree String String) (task : TaskDescription R G V S) :
    Except LoadError (TaskDescription R G V S) := do
  let intChild ← getChild "Interference" tree
  let intLimit ← XMLHelpers.readDouble number intChild
  let wrenchChild ← getChild "Wrench" tree
  let wrenchLimit ← XMLHelpers.readDouble number wrenchChild
  let stressLimit ← match tree.getChild ["Stress"] with
    | some stressNode => XMLHelpers.readDouble number stressNode
    | none => pure 0
  let volumeLimit ← match tree.getChild ["Volume"] with
    | some volumeNode => XMLHelpers.readDouble number volumeNode
    | none => pure (2 / 100)
  pure { task with interferenceLimit := intLimit, wrenchLimit := wrenchLimit,
                   stressLimit := stressLimit, volumeLimit := volumeLimit }

/-- A vector of which two coordinates are angles. -/
def readDistance (i j : ℕ) (tree : PTree String String) : Except LoadError (Q R) := do
  let dist ← XMLHelpers.readQ number tree
  let dist ← multiply i conversions.deg2Rad dist
  multiply j conversions.deg2Rad dist

def addHint (hint : Transform3D G V) (task : TaskDescription R G V S) : TaskDescription R G V S :=
  { task with hints := task.hints ++ [hint] }

def readGrasp (tree : PTree String String) (task : TaskDescription R G V S) :
    Except LoadError (TaskDescription R G V S) := do
  let posNode ← getChild "Pos" tree
  let posq ← XMLHelpers.readQ number posNode
  let rpyNode ← getChild "RPY" tree
  let rpyq ← XMLHelpers.readQ number rpyNode
  let pos := conversions.vector3D (← coordinate posq 0) (← coordinate posq 1) (← coordinate posq 2)
  let rotation := conversions.toRotation3D (← coordinate rpyq 0) (← coordinate rpyq 1)
    (← coordinate rpyq 2)
  pure (addHint ⟨rotation, pos⟩ task)

def readHints (tree : PTree String String) (task : TaskDescription R G V S) :
    Except LoadError (TaskDescription R G V S) :=
  tree.children.foldlM
    (fun task p => if p.1 = "Grasp" then readGrasp number conversions p.2 task else pure task) task

def readAlignment (tree : PTree String String) (task : TaskDescription R G V S) :
    Except LoadError (TaskDescription R G V S) := do
  let node ← getChild "FilteringDistance" tree
  let filteringDistance ← XMLHelpers.readDouble number node
  pure { task with alignmentFilteringDistance := filteringDistance }

/-- A node that may be missing. -/
def readOptional {α : Type} (node : Option (PTree String String))
    (read : PTree String String → α → Except LoadError α) (task : α) : Except LoadError α :=
  match node with
  | some node => read node task
  | none => pure task

variable (dwc : DynamicWorkCell R S) (memory : TaskDescription R G V S)

def readTaskDescription (tree : PTree String String) :
    Except LoadError (TaskDescription R G V S) := do
  let task := create memory
  let task ← readTarget dwc (← getChild "Target" tree) task
  let task ← readGripper dwc (← getChild "Gripper" tree) task
  let task ← readInterferenceObjects dwc (← getChild "InterferenceObjects" tree) task
  let task ← readLimits number (← getChild "Limits" tree) task
  let node1 ← getChild "PrefilteringDistance" tree
  let prefDist ← readDistance number conversions 1 2 node1
  let task := { task with prefilteringDistance := prefDist }
  let node2 ← getChild "CoverageDistance" tree
  let covDist ← readDistance number conversions 1 2 node2
  let task := { task with coverageDistance := covDist }
  let node3 ← getChild "TeachDistance" tree
  let teachDist ← readDistance number conversions 3 4 node3
  let task := { task with teachDistance := teachDist }
  let node4 := tree.getChild ["HintGrasps"]
  let task ← readOptional node4 (readHints number conversions) task
  let node6 := tree.getChild ["Alignment"]
  readOptional node6 (readAlignment number) task

/-- The errors of property trees are thrown again as those of the library. -/
def rethrow : LoadError → LoadError
  | .noSuchNode path => .thrown ("No such node (" ++ path ++ ")")
  | error => error

def load (tree : PTree String String) : Except LoadError (TaskDescription R G V S) :=
  ((getChild "TaskDescription" tree).bind
    (readTaskDescription number conversions dwc memory)).mapError rethrow

end

section
variable (number : NumberText R) (conversions : Conversions R G V)

/-- The node of a hint. -/
def graspNode (hint : Transform3D G V) : PTree String String :=
  let position := Q.mk [conversions.coord hint.P 0, conversions.coord hint.P 1,
    conversions.coord hint.P 2]
  let node := PTree.empty.put ["Pos"] (XMLHelpers.QToString number position)
  let rpy := Q.mk [conversions.rpy hint.R 0, conversions.rpy hint.R 1, conversions.rpy hint.R 2]
  node.put ["RPY"] (XMLHelpers.QToString number rpy)

/-- A vector with two angles in degrees. -/
def toDegrees (i j : ℕ) (dist : Q R) : Except LoadError (Q R) :=
  (multiply i conversions.rad2Deg dist).bind (multiply j conversions.rad2Deg)

def save (td : TaskDescription R G V S) : Except LoadError (PTree String String) := do
  let tree := PTree.empty.put ["TaskDescription", "Target"] td.targetObject.name
  let tree := tree.put ["TaskDescription", "Gripper", "Name"] td.gripperDevice.name
  let tree := tree.put ["TaskDescription", "Gripper", "TCP"] td.gripperTCP
  let tree := tree.put ["TaskDescription", "Gripper", "Movable"] td.gripperMovable
  let tree := tree.put ["TaskDescription", "Gripper", "Controller"] td.controllerID
  let tree := td.interferenceObjects.foldl
    (fun tree obj => tree.addChild ["TaskDescription", "InterferenceObjects"] "Object"
      (PTree.empty.putValue obj.name)) tree
  let tree := tree.put ["TaskDescription", "Limits", "Interference"]
    (number.text td.interferenceLimit)
  let tree := tree.put ["TaskDescription", "Limits", "Wrench"] (number.text td.wrenchLimit)
  let tree := tree.put ["TaskDescription", "Limits", "Stress"] (number.text td.stressLimit)
  let tree := tree.put ["TaskDescription", "Limits", "Volume"] (number.text td.volumeLimit)
  let teachDist ← toDegrees conversions 3 4 td.teachDistance
  let tree := tree.put ["TaskDescription", "TeachDistance"] (XMLHelpers.QToString number teachDist)
  let preDist ← toDegrees conversions 1 2 td.prefilteringDistance
  let tree := tree.put ["TaskDescription", "PrefilteringDistance"]
    (XMLHelpers.QToString number preDist)
  let covDist ← toDegrees conversions 1 2 td.coverageDistance
  let tree := tree.put ["TaskDescription", "CoverageDistance"]
    (XMLHelpers.QToString number covDist)
  let tree := td.hints.foldl
    (fun tree hint => tree.addChild ["TaskDescription", "HintGrasps"] "Grasp"
      (graspNode number conversions hint)) tree
  let node0 := PTree.empty.put ["FilteringDistance"] (number.text td.alignmentFilteringDistance)
  pure (tree.addChild ["TaskDescription"] "Alignment" node0)

end
end TaskDescriptionLoader
end Gripperz.Loaders
