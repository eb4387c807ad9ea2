import Gripperz.Loaders.TaskDescriptionLoader
import Gripperz.Models.Gripper
import Gripperz.Models.OldGripper

/-! # Grippers of the old class in trees

The writer asks the quality for eight indices, and the reader sets them again.
-/
namespace Gripperz.Loaders
open Library Models Util XMLHelpers

variable {R : Type}

/-- A gripper with its quality. -/
abbrev FileOldGripper (R : Type) := OldGripper (GripperQuality R) R

namespace GripperXMLLoader

/-- `new OldGripper`, with the name it has by default. -/
def newOldGripper [Field R] : FileOldGripper R where
  name := "gripper"
  deviceId := ""
  dynamicDeviceId := ""
  TCPFrameId := ""
  movableFrameId := ""
  graspControllerId := ""
  leftFingerId := ""
  rightFingerId := ""
  quality := .makeGripperQuality
  length := 1 / 10
  width := 25 / 1000
  depth := 2 / 100
  chfdepth := 0
  chfangle := 0
  cutdepth := 0
  cutangle := 0
  cuttilt := 0
  tcpoffset := 25 / 1000
  jawdist := 0
  stroke := 5 / 100
  force := 25
  basex := 15 / 100
  basey := 1 / 10
  basez := 5 / 100

/-- `get_child(key).get_value<string>()`. -/
def readString (key : String) (tree : PTree String String) : Except LoadError String :=
  (getChild key tree).map PTree.data

def readData (tree : PTree String String) (gripper : FileOldGripper R) :
    Except LoadError (FileOldGripper R) := do
  let deviceId ← readString "deviceId" tree
  let dynamicDeviceId ← readString "dynamicDeviceId" tree
  let tcpFrameId ← readString "tcpFrameId" tree
  let movableFrameId ← readString "movableFrameId" tree
  let graspControllerId ← readString "graspControllerId" tree
  let leftFingerId ← readString "leftFingerId" tree
  let rightFingerId ← readString "rightFingerId" tree
  pure { gripper with
    deviceId := deviceId, dynamicDeviceId := dynamicDeviceId, TCPFrameId := tcpFrameId
    movableFrameId := movableFrameId, graspControllerId := graspControllerId
    leftFingerId := leftFingerId, rightFingerId := rightFingerId }

variable (number : NumberText R)

def readParameters (tree : PTree String String) (gripper : FileOldGripper R) :
    Except LoadError (FileOldGripper R) := do
  let length ← readDouble number (← getChild "length" tree)
  let width ← readDouble number (← getChild "width" tree)
  let depth ← readDouble number (← getChild "depth" tree)
  let chfdepth ← readDouble number (← getChild "chfdepth" tree)
  let chfangle ← readDouble number (← getChild "chfangle" tree)
  let cutdepth ← readDouble number (← getChild "cutdepth" tree)
  let cutangle ← readDouble number (← getChild "cutangle" tree)
  let cuttilt ← readDouble number (← getChild "cuttilt" tree)
  let tcpoffset ← readDouble number (← getChild "tcpoffset" tree)
  let jawdist ← readDouble number (← getChild "jawdist" tree)
  let stroke ← readDouble number (← getChild "stroke" tree)
  let force ← readDouble number (← getChild "force" tree)
  let basex ← readDouble number (← getChild "basex" tree)
  let basey ← readDouble number (← getChild "basey" tree)
  let basez ← readDouble number (← getChild "basez" tree)
  pure { gripper with
    length := length, width := width, depth := depth, chfdepth := chfdepth, chfangle := chfangle
    cutdepth := cutdepth, cutangle := cutangle, cuttilt := cuttilt, tcpoffset := tcpoffset
    jawdist := jawdist, stroke := stroke, force := force, basex := basex, basey := basey
    basez := basez }

def readResult (tree : PTree String String) (gripper : FileOldGripper R) :
    Except LoadError (FileOldGripper R) := do
  let quality := GripperQuality.makeGripperQuality
  let quality := quality.setIndex "success" (← readDouble number (← getChild "success" tree))
  let quality := quality.setIndex "robustness" (← readDouble number (← getChild "robustness" tree))
  let quality := quality.setIndex "alignment" (← readDouble number (← getChild "alignment" tree))
  let quality := quality.setIndex "coverage" (← readDouble number (← getChild "coverage" tree))
  let quality := quality.setIndex "wrench" (← readDouble number (← getChild "wrench" tree))
  let quality := quality.setIndex "stress" (← readDouble number (← getChild "stress" tree))
  let quality := quality.setIndex "volume" (← readDouble number (← getChild "volume" tree))
  let quality := quality.setIndex "quality" (← readDouble number (← getChild "objective" tree))
  pure { gripper with quality := quality }

def readGripper [Field R] (tree : PTree String String) : Except LoadError (FileOldGripper R) := do
  let gripper := newOldGripper
  let gripper ← readData (← getChild "data" tree) gripper
  let gripper ← readParameters number (← getChild "parameters" tree) gripper
  readResult number (← getChild "quality" tree) gripper

def load [Field R] (tree : PTree String String) : Except LoadError (FileOldGripper R) :=
  Except.mapError TaskDescriptionLoader.rethrow do
    let gripper ← readGripper number (← getChild "gripper" tree)
    let name ← (getChild "gripper" tree).bind fun tree =>
      required (.noSuchNode "<xmlattr>.name") (tree.get ["<xmlattr>", "name"])
    pure { gripper with name := name }

/-- `getIndex`; the map throws without the key. -/
def getIndex (key : String) (quality : GripperQuality R) : Except LoadError R :=
  required .outOfRange (quality.getIndex key)

/-- The ids. -/
def saveData (gripper : FileOldGripper R) (tree : PTree String String) : PTree String String :=
  let tree := tree.put ["gripper", "data", "deviceId"] gripper.deviceId
  let tree := tree.put ["gripper", "data", "dynamicDeviceId"] gripper.dynamicDeviceId
  let tree := tree.put ["gripper", "data", "tcpFrameId"] gripper.TCPFrameId
  let tree := tree.put ["gripper", "data", "movableFrameId"] gripper.movableFrameId
  let tree := tree.put ["gripper", "data", "graspControllerId"] gripper.graspControllerId
  let tree := tree.put ["gripper", "data", "leftFingerId"] gripper.leftFingerId
  tree.put ["gripper", "data", "rightFingerId"] gripper.rightFingerId

/-- The parameters. -/
def saveParameters (gripper : FileOldGripper R) (tree : PTree String String) :
    PTree String String :=
  let tree := tree.put ["gripper", "parameters", "length"] (number.text gripper.length)
  let tree := tree.put ["gripper", "parameters", "width"] (number.text gripper.width)
  let tree := tree.put ["gripper", "parameters", "depth"] (number.text gripper.depth)
  let tree := tree.put ["gripper", "parameters", "chfdepth"] (number.text gripper.chfdepth)
  let tree := tree.put ["gripper", "parameters", "chfangle"] (number.text gripper.chfangle)
  let tree := tree.put ["gripper", "parameters", "cutdepth"] (number.text gripper.cutdepth)
  let tree := tree.put ["gripper", "parameters", "cutangle"] (number.text gripper.cutangle)
  let tree := tree.put ["gripper", "parameters", "cuttilt"] (number.text gripper.cuttilt)
  let tree := tree.put ["gripper", "parameters", "tcpoffset"] (number.text gripper.tcpoffset)
  let tree := tree.put ["gripper", "parameters", "jawdist"] (number.text gripper.jawdist)
  let tree := tree.put ["gripper", "parameters", "stroke"] (number.text gripper.stroke)
  let tree := tree.put ["gripper", "parameters", "force"] (number.text gripper.force)
  let tree := tree.put ["gripper", "parameters", "basex"] (number.text gripper.basex)
  let tree := tree.put ["gripper", "parameters", "basey"] (number.text gripper.basey)
  tree.put ["gripper", "parameters", "basez"] (number.text gripper.basez)

/-- The qualities. -/
def saveQualities (quality : GripperQuality R) (tree : PTree String String) :
    Except LoadError (PTree String String) := do
  let success ← getIndex "success" quality
  let tree := tree.put ["gripper", "quality", "success"] (number.text success)
  let robustness ← getIndex "robustness" quality
  let tree := tree.put ["gripper", "quality", "robustness"] (number.text robustness)
  let alignment ← getIndex "alignment" quality
  let tree := tree.put ["gripper", "quality", "alignment"] (number.text alignment)
  let coverage ← getIndex "coverage" quality
  let tree := tree.put ["gripper", "quality", "coverage"] (number.text coverage)
  let wrench ← getIndex "wrench" quality
  let tree := tree.put ["gripper", "quality", "wrench"] (number.text wrench)
  let stress ← getIndex "stress" quality
  let tree := tree.put ["gripper", "quality", "stress"] (number.text stress)
  let volume ← getIndex "volume" quality
  let tree := tree.put ["gripper", "quality", "volume"] (number.text volume)
  let objective ← getIndex "quality" quality
  pure (tree.put ["gripper", "quality", "objective"] (number.text objective))

/-- The tree of a file. -/
def save (gripper : FileOldGripper R) : Except LoadError (PTree String String) :=
  let tree := PTree.empty.put ["gripper", "<xmlattr>", "name"] gripper.name
  let tree := saveData gripper tree
  let tree := saveParameters number gripper tree
  saveQualities number gripper.quality tree

/-! ## Reading what was saved -/

/-- The keys a gripper is saved with. -/
def savedKeys : List String :=
  ["success", "robustness", "alignment", "coverage", "wrench", "stress", "volume", "quality"]

def dataNode (gripper : FileOldGripper R) : PTree String String :=
  .node "" [("deviceId", .leaf gripper.deviceId),
    ("dynamicDeviceId", .leaf gripper.dynamicDeviceId), ("tcpFrameId", .leaf gripper.TCPFrameId),
    ("movableFrameId", .leaf gripper.movableFrameId),
    ("graspControllerId", .leaf gripper.graspControllerId),
    ("leftFingerId", .leaf gripper.leftFingerId), ("rightFingerId", .leaf gripper.rightFingerId)]

/-- A node with numbers under keys. -/
def numberNode (values : List (String × R)) : PTree String String :=
  .node "" (values.map fun value => (value.1, .leaf (number.text value.2)))

def parameterValues (gripper : FileOldGripper R) : List (String × R) :=
  [("length", gripper.length), ("width", gripper.width), ("depth", gripper.depth),
    ("chfdepth", gripper.chfdepth), ("chfangle", gripper.chfangle),
    ("cutdepth", gripper.cutdepth), ("cutangle", gripper.cutangle), ("cuttilt", gripper.cuttilt),
    ("tcpoffset", gripper.tcpoffset), ("jawdist", gripper.jawdist), ("stroke", gripper.stroke),
    ("force", gripper.force), ("basex", gripper.basex), ("basey", gripper.basey),
    ("basez", gripper.basez)]

/-- The indices under the keys they are saved with. -/
def qualityValues (index : String → R) : List (String × R) :=
  [("success", index "success"), ("robustness", index "robustness"),
    ("alignment", index "alignment"), ("coverage", index "coverage"), ("wrench", index "wrench"),
    ("stress", index "stress"), ("volume", index "volume"), ("objective", index "quality")]

def gripperNode (gripper : FileOldGripper R) (index : String → R) : PTree String String :=
  .node "" [("<xmlattr>", .node "" [("name", .leaf gripper.name)]), ("data", dataNode gripper),
    ("parameters", numberNode number (parameterValues gripper)),
    ("quality", numberNode number (qualityValues index))]

def savedTree (gripper : FileOldGripper R) (index : String → R) : PTree String String :=
  .node "" [("gripper", gripperNode number gripper index)]

variable {number}

theorem save_eq {gripper : FileOldGripper R} {index : String → R}
    (h : ∀ key ∈ savedKeys, gripper.quality.getIndex key = some (index key)) :
    save number gripper = .ok (savedTree number gripper index) := by
  have hindex (key : String) (hkey : key ∈ savedKeys) :
      getIndex key gripper.quality = .ok (index key) := by
    rw [getIndex, h key hkey, required_some]
  simp only [savedKeys, List.forall_mem_cons] at hindex
  obtain ⟨h1, h2, h3, h4, h5, h6, h7, h8, -⟩ := hindex
  rw [save, saveQualities]
  simp only [h1, h2, h3, h4, h5, h6, h7, h8, ok_bind, saveData, saveParameters, PTree.empty,
    PTree.put_node, PTree.put_nil, PTree.go_nil, PTree.go_cons, String.reduceEq, if_true, if_false]
  rfl

theorem readDouble_leaf (x : R) : readDouble number (.leaf (number.text x)) = .ok x :=
  readDouble_text number rfl

/-- A number under a key of its own is found there. -/
theorem getChild_numberNode {values : List (String × R)} (h : (values.map Prod.fst).Nodup) :
    ∀ value ∈ values, getChild value.1 (numberNode number values) =
      .ok (.leaf (number.text value.2)) := by
  intro value hvalue
  apply getChild_of_some
  rw [PTree.getChild_singleton, PTree.find, numberNode, PTree.children_node]
  induction values with
  | nil => cases hvalue
  | cons first values ih =>
    obtain ⟨hfirst, hrest⟩ := List.nodup_cons.mp h
    rw [List.map_cons, List.find?_cons]
    rcases List.mem_cons.mp hvalue with rfl | hmem
    · simp
    · have hne : first.1 ≠ value.1 := fun heq => hfirst (heq ▸ List.mem_map_of_mem hmem)
      simpa [hne] using ih hrest hmem

theorem readData_dataNode (gripper made : FileOldGripper R) :
    readData (dataNode gripper) made = .ok { made with
      deviceId := gripper.deviceId, dynamicDeviceId := gripper.dynamicDeviceId
      TCPFrameId := gripper.TCPFrameId, movableFrameId := gripper.movableFrameId
      graspControllerId := gripper.graspControllerId, leftFingerId := gripper.leftFingerId
      rightFingerId := gripper.rightFingerId } := rfl

theorem readParameters_saved (gripper made : FileOldGripper R) :
    readParameters number (numberNode number (parameterValues gripper)) made =
      .ok { gripper with toGripperData := made.toGripperData } := by
  have hnodup : ((parameterValues gripper).map Prod.fst).Nodup := by simp [parameterValues]
  have hvalues (value : String × R) (hvalue : value ∈ parameterValues gripper) :
      getChild value.1 (numberNode number (parameterValues gripper)) =
        .ok (.leaf (number.text value.2)) := getChild_numberNode hnodup value hvalue
  generalize numberNode number (parameterValues gripper) = node at hvalues
  simp only [parameterValues, List.forall_mem_cons] at hvalues
  obtain ⟨h1, h2, h3, h4, h5, h6, h7, h8, h9, h10, h11, h12, h13, h14, h15, -⟩ := hvalues
  simp only [readParameters, h1, h2, h3, h4, h5, h6, h7, h8, h9, h10, h11, h12, h13, h14, h15,
    ok_bind, readDouble_leaf]
  rfl

/-- The indices under the keys a gripper is saved with. -/
def readQuality (index : String → R) : GripperQuality R :=
  savedKeys.foldl (fun quality key => quality.setIndex key (index key)) .makeGripperQuality

theorem readResult_saved (index : String → R) (made : FileOldGripper R) :
    readResult number (numberNode number (qualityValues index)) made =
      .ok { made with quality := readQuality index } := by
  have hnodup : ((qualityValues index).map Prod.fst).Nodup := by simp [qualityValues]
  have hvalues (value : String × R) (hvalue : value ∈ qualityValues index) :
      getChild value.1 (numberNode number (qualityValues index)) =
        .ok (.leaf (number.text value.2)) := getChild_numberNode hnodup value hvalue
  generalize numberNode number (qualityValues index) = node at hvalues
  simp only [qualityValues, List.forall_mem_cons] at hvalues
  obtain ⟨h1, h2, h3, h4, h5, h6, h7, h8, -⟩ := hvalues
  simp only [readResult, h1, h2, h3, h4, h5, h6, h7, h8, ok_bind, readDouble_leaf]
  rfl

theorem getIndex_readQuality (index : String → R) {key : String} (h : key ∈ savedKeys) :
    (readQuality index).getIndex key = some (index key) := by
  simp only [savedKeys, List.mem_cons, List.not_mem_nil, or_false] at h
  rcases h with rfl | rfl | rfl | rfl | rfl | rfl | rfl | rfl <;> rfl

/-- Name, ids and parameters are read as they were saved, and so are the saved indices. -/
theorem load_savedTree [Field R] (gripper : FileOldGripper R) (index : String → R) :
    load number (savedTree number gripper index) =
      .ok { gripper with quality := readQuality index } := by
  have hgripper : getChild "gripper" (savedTree number gripper index) =
      .ok (gripperNode number gripper index) := rfl
  have hdata : getChild "data" (gripperNode number gripper index) = .ok (dataNode gripper) := rfl
  have hparameters : getChild "parameters" (gripperNode number gripper index) =
      .ok (numberNode number (parameterValues gripper)) := rfl
  have hquality : getChild "quality" (gripperNode number gripper index) =
      .ok (numberNode number (qualityValues index)) := rfl
  simp only [load, readGripper, hgripper, hdata, hparameters, hquality, ok_bind,
    readData_dataNode, readParameters_saved, readResult_saved]
  rfl

/-- Without the overall quality a gripper is not saved. -/
theorem save_of_missing {gripper : FileOldGripper R}
    (h : ∀ key ∈ savedKeys, key ≠ "quality" → (gripper.quality.getIndex key).isSome = true)
    (hmissing : gripper.quality.getIndex "quality" = none) :
    save number gripper = .error .outOfRange := by
  have hindex (key : String) (hkey : key ∈ savedKeys) (hne : key ≠ "quality") :
      ∃ value, getIndex key gripper.quality = .ok value := by
    obtain ⟨value, hvalue⟩ := Option.isSome_iff_exists.mp (h key hkey hne)
    exact ⟨value, required_eq_ok.mpr hvalue⟩
  have hlast : getIndex "quality" gripper.quality = .error .outOfRange := by
    rw [getIndex, hmissing, required_none]
  obtain ⟨_, h1⟩ := hindex "success" (by decide) (by decide)
  obtain ⟨_, h2⟩ := hindex "robustness" (by decide) (by decide)
  obtain ⟨_, h3⟩ := hindex "alignment" (by decide) (by decide)
  obtain ⟨_, h4⟩ := hindex "coverage" (by decide) (by decide)
  obtain ⟨_, h5⟩ := hindex "wrench" (by decide) (by decide)
  obtain ⟨_, h6⟩ := hindex "stress" (by decide) (by decide)
  obtain ⟨_, h7⟩ := hindex "volume" (by decide) (by decide)
  simp only [save, saveQualities, h1, h2, h3, h4, h5, h6, h7, hlast, ok_bind]
  rfl

/-- With all indices it is, and it is loaded as it was. -/
theorem load_save [Field R] {gripper : FileOldGripper R}
    (h : ∀ key ∈ savedKeys, (gripper.quality.getIndex key).isSome = true) :
    ∃ tree loaded, save number gripper = .ok tree ∧ load number tree = .ok loaded ∧
      { loaded with quality := gripper.quality } = gripper ∧
      ∀ key ∈ savedKeys, loaded.quality.getIndex key = gripper.quality.getIndex key := by
  obtain ⟨value, -⟩ := Option.isSome_iff_exists.mp (h "quality" (by decide))
  let index (key : String) : R := (gripper.quality.getIndex key).getD value
  have hindex (key : String) (hkey : key ∈ savedKeys) :
      gripper.quality.getIndex key = some (index key) := by
    obtain ⟨found, hfound⟩ := Option.isSome_iff_exists.mp (h key hkey)
    simp [index, hfound]
  refine ⟨_, _, save_eq hindex, load_savedTree gripper index, rfl, ?_⟩
  intro key hkey
  rw [hindex key hkey]
  exact getIndex_readQuality index hkey

/-- A gripper can be saved exactly when its quality has all eight indices. -/
theorem save_iff [Field R] (gripper : FileOldGripper R) : (∃ tree, save number gripper = .ok tree) ↔
    ∀ key ∈ savedKeys, (gripper.quality.getIndex key).isSome = true := by
  constructor
  · rintro ⟨tree, h⟩
    have hkey {key : String} {value : R} (h : getIndex key gripper.quality = .ok value) :
        (gripper.quality.getIndex key).isSome = true := by
      rw [required_eq_ok.mp h, Option.isSome_some]
    simp only [save, saveQualities, bind_eq_ok] at h
    obtain ⟨_, h1, _, h2, _, h3, _, h4, _, h5, _, h6, _, h7, _, h8, -⟩ := h
    simp only [savedKeys, List.forall_mem_cons]
    exact ⟨hkey h1, hkey h2, hkey h3, hkey h4, hkey h5, hkey h6, hkey h7, hkey h8, nofun⟩
  · intro h
    obtain ⟨tree, -, hsave, -⟩ := @load_save R number _ gripper h
    exact ⟨tree, hsave⟩

end GripperXMLLoader
end Gripperz.Loaders
