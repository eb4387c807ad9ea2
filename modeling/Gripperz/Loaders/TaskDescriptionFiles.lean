import Mathlib.Algebra.Field.Rat
import Mathlib.Data.List.Forall2
import Mathlib.Data.Rat.Encodable
import Gripperz.Loaders.TaskDescriptionLoader

/-! # Task description files

What is saved has a known child under each key. Reading it looks up the names that have been
written, without the blanks around them, and gives back all the rest.
-/
namespace Gripperz.Loaders
namespace TaskDescriptionLoader
open Library Math Context Util

variable {R G V S : Type} [Field R] {number : NumberText R} {conversions : Conversions R G V}
variable {dwc : DynamicWorkCell R S} {td : TaskDescription R G V S}

/-! ## What is saved -/

def gripperNode (name tcp movable controller : String) : PTree String String :=
  .node "" [("Name", .leaf name), ("TCP", .leaf tcp), ("Movable", .leaf movable),
    ("Controller", .leaf controller)]

/-- The children of a task description that is saved with these vectors. -/
structure Written (number : NumberText R) (conversions : Conversions R G V)
    (td : TaskDescription R G V S) (teachDist preDist covDist : Q R)
    (tree : PTree String String) : Prop where
  target : tree.getChild ["Target"] = some (.leaf td.targetObject.name)
  gripper : tree.getChild ["Gripper"] =
    some (gripperNode td.gripperDevice.name td.gripperTCP td.gripperMovable td.controllerID)
  interference : tree.getChild ["InterferenceObjects"] =
    PTree.group "Object" (fun obj : Object => .leaf obj.name) td.interferenceObjects
  limits : tree.getChild ["Limits"] = some (.node ""
    [("Interference", .leaf (number.text td.interferenceLimit)),
      ("Wrench", .leaf (number.text td.wrenchLimit)),
      ("Stress", .leaf (number.text td.stressLimit)),
      ("Volume", .leaf (number.text td.volumeLimit))])
  teach : tree.getChild ["TeachDistance"] = some (.leaf (XMLHelpers.QToString number teachDist))
  prefiltering : tree.getChild ["PrefilteringDistance"] =
    some (.leaf (XMLHelpers.QToString number preDist))
  coverage : tree.getChild ["CoverageDistance"] =
    some (.leaf (XMLHelpers.QToString number covDist))
  hints : tree.getChild ["HintGrasps"] =
    PTree.group "Grasp" (graspNode number conversions) td.hints
  alignment : tree.getChild ["Alignment"] = some (.node ""
    [("FilteringDistance", .leaf (number.text td.alignmentFilteringDistance))])

theorem save_eq {teachDist preDist covDist : Q R}
    (hteach : toDegrees conversions 3 4 td.teachDistance = .ok teachDist)
    (hpre : toDegrees conversions 1 2 td.prefilteringDistance = .ok preDist)
    (hcov : toDegrees conversions 1 2 td.coverageDistance = .ok covDist) :
    ∃ tree node, save number conversions td = .ok tree ∧
      tree.getChild ["TaskDescription"] = some node ∧
      Written number conversions td teachDist preDist covDist node := by
  have hsave := save.eq_def number conversions td
  rw [hteach, hpre, hcov] at hsave
  apply Exists.intro
  apply Exists.intro
  constructor
  · exact hsave
  constructor
  · rw [PTree.getChild_singleton]
    apply PTree.find_addChild_under
    apply PTree.find_foldl_under
    repeat apply PTree.find_put_under
    apply PTree.find_foldl_under
    iterate 4 apply PTree.find_put_under
    rfl
  · constructor
    all_goals rw [PTree.getChild_singleton]
    case interference =>
      rw [PTree.find_addChild_of_ne (by decide), PTree.find_foldl_of_ne (by decide)]
      repeat rw [PTree.find_put_of_ne (by decide)]
      apply PTree.find_foldl_addChild
      rfl
    case hints =>
      rw [PTree.find_addChild_of_ne (by decide)]
      apply PTree.find_foldl_addChild
      repeat rw [PTree.find_put_of_ne (by decide)]
      rw [PTree.find_foldl_of_ne (by decide)]
      rfl
    case alignment =>
      apply PTree.find_addChild_self
      rw [PTree.find_foldl_of_ne (by decide)]
      repeat rw [PTree.find_put_of_ne (by decide)]
      rw [PTree.find_foldl_of_ne (by decide)]
      rfl
    all_goals
      rw [PTree.find_addChild_of_ne (by decide), PTree.find_foldl_of_ne (by decide)]
      simp [PTree.find_put_of_ne, PTree.find_put_self, PTree.find_foldl_of_ne]
      rfl

/-! ## Reading what was saved -/

section
variable {task task' : TaskDescription R G V S} {name : String}

omit [Field R] in
theorem readTarget_eq_ok : readTarget dwc (.leaf name) task = .ok task' ↔
    ∃ object, dwc.findObject (trim name) = some object ∧
      task' = { task with targetObject := object, targetFrame := object.base } := by
  rw [readTarget, bind_eq_ok]
  simp only [required_eq_ok, pure, Except.pure, Except.ok.injEq, eq_comm (b := task')]
  rfl

omit [Field R] in
theorem readGripper_eq_ok {tcp movable controller : String} :
    readGripper dwc (gripperNode name tcp movable controller) task = .ok task' ↔
    ∃ device, dwc.findTreeDevice (trim name) = some device ∧
      dwc.hasRigidDevice (trim name) = true ∧ dwc.hasMovableFrame (trim tcp) = true ∧
      dwc.hasMovableFrame (trim movable) = true ∧
      task' = { task with gripperID := trim name, gripperDevice := device,
                          gripperDynamicDevice := trim name, gripperTCP := trim tcp,
                          gripperMovable := trim movable, controllerID := trim controller } := by
  have hname : getChild "Name" (gripperNode name tcp movable controller) = .ok (.leaf name) := rfl
  have htcp : getChild "TCP" (gripperNode name tcp movable controller) = .ok (.leaf tcp) := rfl
  have hmovable : getChild "Movable" (gripperNode name tcp movable controller) =
      .ok (.leaf movable) := rfl
  have hcontroller : getChild "Controller" (gripperNode name tcp movable controller) =
      .ok (.leaf controller) := rfl
  simp only [readGripper, hname, htcp, hmovable, hcontroller, bind_eq_ok, required_eq_ok,
    Option.ite_none_right_eq_some, pure, Except.pure, Except.ok.injEq, Option.some.injEq]
  constructor
  · rintro ⟨_, rfl, device, hdevice, _, ⟨hrigid, rfl⟩, _, rfl, _, ⟨hframe, rfl⟩, _, rfl, _,
      ⟨hframe', rfl⟩, _, rfl, rfl⟩
    exact ⟨device, hdevice, hrigid, hframe, hframe', rfl⟩
  · rintro ⟨device, hdevice, hrigid, hframe, hframe', rfl⟩
    exact ⟨_, rfl, device, hdevice, _, ⟨hrigid, rfl⟩, _, rfl, _, ⟨hframe, rfl⟩, _, rfl, _,
      ⟨hframe', rfl⟩, _, rfl, rfl⟩

omit [Field R] in
theorem readInterferenceObject_eq_ok {obj : Object} :
    readInterferenceObject dwc ("Object", .leaf obj.name) task = .ok task' ↔
    ∃ obj', dwc.findObject (trim obj.name) = some obj' ∧
      task' = addInterferenceObject obj' task := by
  rw [readInterferenceObject, if_pos rfl, bind_eq_ok]
  simp only [required_eq_ok, pure, Except.pure, Except.ok.injEq, eq_comm (b := task'),
    PTree.data_leaf]

omit [Field R] in
/-- The objects with the names, one after the other. -/
theorem readInterferenceObjects_eq_ok {list : List Object} :
    readInterferenceObjects dwc
      (.node default (list.map fun obj => ("Object", .leaf obj.name))) task = .ok task' ↔
    ∃ found, List.Forall₂ (fun obj obj' => dwc.findObject (trim obj.name) = some obj') list found ∧
      task' = { task with interferenceObjects := task.interferenceObjects ++ found } := by
  simp only [readInterferenceObjects, PTree.children_node]
  induction list generalizing task with
  | nil => simp [pure, Except.pure, eq_comm (b := task')]
  | cons obj list ih =>
    rw [List.map_cons, List.foldlM_cons, bind_eq_ok]
    simp only [readInterferenceObject_eq_ok, ih, List.forall₂_cons_left_iff]
    constructor
    · rintro ⟨_, ⟨obj', hobj, rfl⟩, found, hfound, rfl⟩
      refine ⟨obj' :: found, ⟨obj', found, hobj, hfound, rfl⟩, ?_⟩
      simp [addInterferenceObject]
    · rintro ⟨_, ⟨obj', found, hobj, hfound, rfl⟩, rfl⟩
      refine ⟨_, ⟨obj', hobj, rfl⟩, found, hfound, ?_⟩
      simp [addInterferenceObject]

theorem readLimits_eq {interference wrench stress volume : R} :
    readLimits number (.node "" [("Interference", .leaf (number.text interference)),
      ("Wrench", .leaf (number.text wrench)), ("Stress", .leaf (number.text stress)),
      ("Volume", .leaf (number.text volume))]) task =
    .ok { task with interferenceLimit := interference, wrenchLimit := wrench,
                    stressLimit := stress, volumeLimit := volume } := by
  have hread (x : R) : XMLHelpers.readDouble number (.leaf (number.text x)) = .ok x :=
    XMLHelpers.readDouble_text number rfl
  have hreading : readLimits number (.node ""
      [("Interference", .leaf (number.text interference)), ("Wrench", .leaf (number.text wrench)),
        ("Stress", .leaf (number.text stress)), ("Volume", .leaf (number.text volume))]) task =
      (do
        let intLimit ← XMLHelpers.readDouble number (.leaf (number.text interference))
        let wrenchLimit ← XMLHelpers.readDouble number (.leaf (number.text wrench))
        let stressLimit ← XMLHelpers.readDouble number (.leaf (number.text stress))
        let volumeLimit ← XMLHelpers.readDouble number (.leaf (number.text volume))
        pure { task with interferenceLimit := intLimit, wrenchLimit := wrenchLimit,
                         stressLimit := stressLimit, volumeLimit := volumeLimit }) := rfl
  rw [hreading, hread, hread, hread, hread]
  rfl

theorem readDistance_eq {i j : ℕ} {dist degrees : Q R} (hij : i ≠ j) (hi : i < dist.size)
    (hj : j < dist.size) (h : toDegrees conversions i j dist = .ok degrees) :
    readDistance number conversions i j (.leaf (XMLHelpers.QToString number degrees)) =
      .ok dist := by
  obtain ⟨scaled, hscaled, hback⟩ := multiply_inverse hij hi hj conversions.rad2Deg_mul_deg2Rad
  obtain rfl : degrees = scaled := Except.ok.inj (h.symm.trans hscaled)
  rw [readDistance, XMLHelpers.readQ_QToString number rfl]
  exact hback

theorem readGrasp_graspNode (hint : Transform3D G V) :
    readGrasp number conversions (graspNode number conversions hint) task =
      .ok (addHint hint task) := by
  have hread (q : Q R) : XMLHelpers.readQ number (.leaf (XMLHelpers.QToString number q)) = .ok q :=
    XMLHelpers.readQ_QToString number rfl
  have hpos : getChild "Pos" (graspNode number conversions hint) = .ok (.leaf _) := rfl
  have hrpy : getChild "RPY" (graspNode number conversions hint) = .ok (.leaf _) := rfl
  rw [readGrasp, hpos, hrpy]
  simp only [hread, bind, Except.bind, coordinate]
  change Except.ok (addHint ⟨conversions.toRotation3D _ _ _, conversions.vector3D _ _ _⟩ task) = _
  rw [conversions.vector3D_coord, conversions.toRotation3D_rpy]

theorem readHints_eq (list : List (Transform3D G V)) :
    readHints number conversions
      (.node default (list.map fun hint => ("Grasp", graspNode number conversions hint))) task =
    .ok { task with hints := task.hints ++ list } := by
  simp only [readHints, PTree.children_node]
  induction list generalizing task with
  | nil => simp [pure, Except.pure]
  | cons hint list ih =>
    rw [List.map_cons, List.foldlM_cons, if_pos rfl, readGrasp_graspNode]
    refine ih.trans ?_
    simp [addHint]

/-- The node of the hints is missing when there are none. -/
theorem readOptional_hints (list : List (Transform3D G V)) :
    readOptional (PTree.group "Grasp" (graspNode number conversions) list)
      (readHints number conversions) task =
    .ok { task with hints := task.hints ++ list } := by
  rw [PTree.group]
  split
  case isTrue h =>
    rw [h, List.append_nil]
    rfl
  case isFalse => exact readHints_eq list

omit [Field R] in
theorem readAlignment_eq {distance : R} :
    readAlignment number (.node "" [("FilteringDistance", .leaf (number.text distance))]) task =
      .ok { task with alignmentFilteringDistance := distance } := by
  have hnode : getChild "FilteringDistance"
      (.node "" [("FilteringDistance", .leaf (number.text distance))]) =
        .ok (.leaf (number.text distance)) := rfl
  rw [readAlignment, hnode]
  simp only [bind, Except.bind, XMLHelpers.readDouble_text number (PTree.data_leaf _)]
  rfl

end

/-! ## The whole file -/

/-- A task description of the work cell: what it refers to is there, and its distances have the
coordinates that are angles. -/
structure InWorkCell (dwc : DynamicWorkCell R S) (td : TaskDescription R G V S) : Prop where
  target : dwc.findObject td.targetObject.name = some td.targetObject
  interference : ∀ obj ∈ td.interferenceObjects, dwc.findObject obj.name = some obj
  device : dwc.findTreeDevice td.gripperDevice.name = some td.gripperDevice
  dynamicDevice : dwc.hasRigidDevice td.gripperDevice.name = true
  tcp : dwc.hasMovableFrame td.gripperTCP = true
  movable : dwc.hasMovableFrame td.gripperMovable = true
  teach : 5 ≤ td.teachDistance.size
  prefiltering : 3 ≤ td.prefilteringDistance.size
  coverage : 3 ≤ td.coverageDistance.size

/-- Nothing of a task description that a file keeps has changed. -/
structure Reproduces (td td' : TaskDescription R G V S) : Prop where
  targetObject : td'.targetObject = td.targetObject
  gripperID : td'.gripperID = td.gripperID
  gripperDevice : td'.gripperDevice = td.gripperDevice
  gripperTCP : td'.gripperTCP = td.gripperTCP
  gripperMovable : td'.gripperMovable = td.gripperMovable
  controllerID : td'.controllerID = td.controllerID
  interferenceObjects : td'.interferenceObjects = td.interferenceObjects
  interferenceLimit : td'.interferenceLimit = td.interferenceLimit
  wrenchLimit : td'.wrenchLimit = td.wrenchLimit
  stressLimit : td'.stressLimit = td.stressLimit
  volumeLimit : td'.volumeLimit = td.volumeLimit
  teachDistance : td'.teachDistance = td.teachDistance
  prefilteringDistance : td'.prefilteringDistance = td.prefilteringDistance
  coverageDistance : td'.coverageDistance = td.coverageDistance
  hints : td'.hints = td.hints
  alignmentFilteringDistance : td'.alignmentFilteringDistance = td.alignmentFilteringDistance

/-- What is saved can be loaded, and is what it was. -/
def RoundTrips (number : NumberText R) (conversions : Conversions R G V)
    (dwc : DynamicWorkCell R S) (memory td : TaskDescription R G V S) : Prop :=
  ∃ tree td', save number conversions td = .ok tree ∧
    load number conversions dwc memory tree = .ok td' ∧ Reproduces td td'

/-- There is an interference object, no name has blanks around it, and the gripper goes by the
name of its device. -/
structure Readable (td : TaskDescription R G V S) : Prop where
  interference : td.interferenceObjects ≠ []
  target : trim td.targetObject.name = td.targetObject.name
  objects : ∀ obj ∈ td.interferenceObjects, trim obj.name = obj.name
  device : trim td.gripperDevice.name = td.gripperDevice.name
  tcp : trim td.gripperTCP = td.gripperTCP
  movable : trim td.gripperMovable = td.gripperMovable
  controller : trim td.controllerID = td.controllerID
  gripperID : td.gripperID = td.gripperDevice.name

/-- What is read: the names of a file are looked up without their blanks. -/
structure ReadBack (dwc : DynamicWorkCell R S) (td td' : TaskDescription R G V S) : Prop where
  target : dwc.findObject (trim td.targetObject.name) = some td'.targetObject
  device : dwc.findTreeDevice (trim td.gripperDevice.name) = some td'.gripperDevice
  dynamicDevice : dwc.hasRigidDevice (trim td.gripperDevice.name) = true
  tcp : dwc.hasMovableFrame (trim td.gripperTCP) = true
  movable : dwc.hasMovableFrame (trim td.gripperMovable) = true
  objects : List.Forall₂ (fun obj obj' => dwc.findObject (trim obj.name) = some obj')
    td.interferenceObjects td'.interferenceObjects
  rest : td' = { td with targetObject := td'.targetObject, targetFrame := td'.targetObject.base,
                         gripperID := trim td.gripperDevice.name,
                         gripperDevice := td'.gripperDevice,
                         gripperDynamicDevice := trim td.gripperDevice.name,
                         gripperTCP := trim td.gripperTCP,
                         gripperMovable := trim td.gripperMovable,
                         controllerID := trim td.controllerID,
                         interferenceObjects := td'.interferenceObjects }

variable {memory td' : TaskDescription R G V S}

/-- The distances are converted and converted back. -/
theorem exists_toDegrees (number : NumberText R) (conversions : Conversions R G V) {i j : ℕ}
    {dist : Q R} (hij : i < j) (hj : j < dist.size) :
    ∃ degrees, toDegrees conversions i j dist = .ok degrees ∧
      readDistance number conversions i j (.leaf (XMLHelpers.QToString number degrees)) =
        .ok dist := by
  have hi : i < dist.size := by omega
  obtain ⟨degrees, hdegrees, -⟩ :=
    multiply_inverse (by omega) hi hj conversions.rad2Deg_mul_deg2Rad
  exact ⟨degrees, hdegrees, readDistance_eq (by omega) hi hj hdegrees⟩

theorem readTaskDescription_eq_ok {teachDist preDist covDist : Q R} {node : PTree String String}
    (h : Written number conversions td teachDist preDist covDist node)
    (hteach : readDistance number conversions 3 4
      (.leaf (XMLHelpers.QToString number teachDist)) = .ok td.teachDistance)
    (hpre : readDistance number conversions 1 2
      (.leaf (XMLHelpers.QToString number preDist)) = .ok td.prefilteringDistance)
    (hcov : readDistance number conversions 1 2
      (.leaf (XMLHelpers.QToString number covDist)) = .ok td.coverageDistance) :
    readTaskDescription number conversions dwc memory node = .ok td' ↔
      td.interferenceObjects ≠ [] ∧ ReadBack dwc td td' := by
  by_cases hempty : td.interferenceObjects = []
  · have hnone := h.interference
    rw [hempty, PTree.group, if_pos rfl] at hnone
    have hinterference : getChild "InterferenceObjects" node =
        .error (.noSuchNode "InterferenceObjects") := by
      rw [getChild, hnone, required_none]
    simp only [readTaskDescription, hinterference, bind_eq_ok, hempty]
    simp
  · have hsome := h.interference
    rw [PTree.group, if_neg hempty] at hsome
    simp only [readTaskDescription, getChild_of_some h.target,
      getChild_of_some h.gripper, getChild_of_some hsome,
      getChild_of_some h.limits, getChild_of_some h.prefiltering, getChild_of_some h.coverage,
      getChild_of_some h.teach, h.hints, h.alignment, hteach, hpre, hcov, readLimits_eq,
      readOptional_hints, ok_bind]
    simp only [readOptional, readAlignment_eq, bind_eq_ok, readTarget_eq_ok, readGripper_eq_ok,
      readInterferenceObjects_eq_ok, Except.ok.injEq]
    constructor
    · rintro ⟨_, ⟨object, hobject, rfl⟩, _, ⟨device, hdevice, hrigid, htcp, hmovable, rfl⟩, _,
        ⟨found, hfound, rfl⟩, rfl⟩
      exact ⟨hempty, hobject, hdevice, hrigid, htcp, hmovable, hfound, rfl⟩
    · rintro ⟨-, hback⟩
      exact ⟨_, ⟨_, hback.target, rfl⟩, _, ⟨_, hback.device, hback.dynamicDevice, hback.tcp,
        hback.movable, rfl⟩, _, ⟨_, hback.objects, rfl⟩, hback.rest.symm⟩

theorem load_save (memory td' : TaskDescription R G V S) (hcell : InWorkCell dwc td) :
    ∃ tree, save number conversions td = .ok tree ∧
      (load number conversions dwc memory tree = .ok td' ↔
        td.interferenceObjects ≠ [] ∧ ReadBack dwc td td') := by
  obtain ⟨teachDist, hteach, hread_teach⟩ :=
    exists_toDegrees number conversions (show 3 < 4 by decide) hcell.teach
  obtain ⟨preDist, hpre, hread_pre⟩ :=
    exists_toDegrees number conversions (show 1 < 2 by decide) hcell.prefiltering
  obtain ⟨covDist, hcov, hread_cov⟩ :=
    exists_toDegrees number conversions (show 1 < 2 by decide) hcell.coverage
  obtain ⟨tree, node, hsave, hnode, hwritten⟩ := save_eq hteach hpre hcov
  refine ⟨tree, hsave, ?_⟩
  rw [load, getChild_of_some hnode, mapError_eq_ok]
  exact readTaskDescription_eq_ok hwritten hread_teach hread_pre hread_cov

theorem readBack_of_load (hcell : InWorkCell dwc td) {tree : PTree String String}
    (hsave : save number conversions td = .ok tree)
    (hload : load number conversions dwc memory tree = .ok td') :
    td.interferenceObjects ≠ [] ∧ ReadBack dwc td td' := by
  obtain ⟨tree', hsave', hloaded⟩ := load_save memory td' hcell
  obtain rfl : tree = tree' := Except.ok.inj (hsave.symm.trans hsave')
  exact hloaded.mp hload

omit [Field R] in
theorem readable_of_readBack (hne : td.interferenceObjects ≠ []) (hback : ReadBack dwc td td')
    (hsame : Reproduces td td') : Readable td := by
  have hdevice : trim td.gripperDevice.name = td.gripperDevice.name := by
    have hname := dwc.name_of_findTreeDevice hback.device
    rw [hsame.gripperDevice] at hname
    exact hname.symm
  constructor
  case interference => exact hne
  case target =>
    have hname := dwc.name_of_findObject hback.target
    rw [hsame.targetObject] at hname
    exact hname.symm
  case objects =>
    have hfound := hback.objects
    rw [hsame.interferenceObjects, List.forall₂_same] at hfound
    intro obj hobj
    exact (dwc.name_of_findObject (hfound obj hobj)).symm
  case device => exact hdevice
  case tcp => exact (congrArg TaskDescription.gripperTCP hback.rest).symm.trans hsame.gripperTCP
  case movable =>
    exact (congrArg TaskDescription.gripperMovable hback.rest).symm.trans hsame.gripperMovable
  case controller =>
    exact (congrArg TaskDescription.controllerID hback.rest).symm.trans hsame.controllerID
  case gripperID =>
    have hid : td'.gripperID = trim td.gripperDevice.name :=
      congrArg TaskDescription.gripperID hback.rest
    rw [← hsame.gripperID, hid, hdevice]

omit [Field R] in
theorem exists_readBack (hcell : InWorkCell dwc td) (h : Readable td) :
    ∃ td', ReadBack dwc td td' ∧ Reproduces td td' := by
  refine ⟨{ td with targetFrame := td.targetObject.base,
                    gripperDynamicDevice := td.gripperDevice.name }, ?_, ?_⟩
  · constructor
    case target => rw [h.target, hcell.target]
    case device => rw [h.device, hcell.device]
    case dynamicDevice => rw [h.device, hcell.dynamicDevice]
    case tcp => rw [h.tcp, hcell.tcp]
    case movable => rw [h.movable, hcell.movable]
    case objects =>
      apply List.forall₂_same.mpr
      intro obj hobj
      rw [h.objects obj hobj, hcell.interference obj hobj]
    case rest => rw [h.device, h.tcp, h.movable, h.controller, ← h.gripperID]
  · constructor <;> rfl

/-- A file gives the task description back exactly when it is readable. -/
theorem roundTrips_iff_readable (memory : TaskDescription R G V S) (hcell : InWorkCell dwc td) :
    RoundTrips number conversions dwc memory td ↔ Readable td := by
  constructor
  · rintro ⟨tree, td', hsave, hload, hsame⟩
    obtain ⟨hne, hback⟩ := readBack_of_load hcell hsave hload
    exact readable_of_readBack hne hback hsame
  · intro h
    obtain ⟨td', hback, hsame⟩ := exists_readBack hcell h
    obtain ⟨tree, hsave, hloaded⟩ := load_save memory td' hcell
    exact ⟨tree, td', hsave, hloaded.mpr ⟨h.interference, hback⟩, hsame⟩

/-! ## A task without interference objects -/

namespace Sample

def deg2Rad : ℚ := mkRat 3141592653589793 180000000000000000

/-- Rotations that are their angles. -/
def degrees : Conversions ℚ (ℚ × ℚ × ℚ) (ℚ × ℚ × ℚ) where
  sin := id
  sqrt := id
  coord v i := if i = 0 then v.1 else if i = 1 then v.2.1 else v.2.2
  x := (1, 0, 0)
  y := (0, 1, 0)
  z := (0, 0, 1)
  axis g := g
  angle g := g.1
  rpy g i := if i = 0 then g.1 else if i = 1 then g.2.1 else g.2.2
  variance _ := 0
  deg2Rad := deg2Rad
  rad2Deg := deg2Rad⁻¹
  vector3D x y z := (x, y, z)
  toRotation3D roll pitch yaw := (roll, pitch, yaw)
  rad2Deg_mul_deg2Rad := inv_mul_cancel₀ (by decide)
  vector3D_coord _ := rfl
  toRotation3D_rpy _ := rfl

def rotor : Object := ⟨"rotor", "rotor.base"⟩

def table : Object := ⟨"table", "table.base"⟩

def gripperDevice : TreeDevice ℚ Unit := ⟨"gripper", (⟨[0]⟩, ⟨[1]⟩), fun _ s => s⟩

def workCell : DynamicWorkCell ℚ Unit :=
  .ofLists [rotor, table] [gripperDevice] ["gripper"] ["gripper.TCP", "gripper.Base"]

/-- The rotor is to be grasped near these objects. -/
def task (interferenceObjects : List Object) :
    TaskDescription ℚ (ℚ × ℚ × ℚ) (ℚ × ℚ × ℚ) Unit where
  interferenceLimit := 1
  wrenchLimit := 1
  stressLimit := 1
  volumeLimit := 1
  interferenceObjects := interferenceObjects
  prefilteringDistance := ⟨[1, 1, 1]⟩
  coverageDistance := ⟨[1, 1, 1]⟩
  teachDistance := ⟨[1, 1, 1, 1, 1]⟩
  targetObject := rotor
  targetFrame := "rotor.base"
  gripperID := "gripper"
  gripperDevice := gripperDevice
  gripperTCP := "gripper.TCP"
  gripperMovable := "gripper.Base"
  controllerID := "GraspController"
  gripperDynamicDevice := "gripper"
  hints := [⟨(0, 1, 0), (1, 0, 0)⟩]
  alignmentFilteringDistance := 1

theorem inWorkCell {interferenceObjects : List Object}
    (h : ∀ obj ∈ interferenceObjects, workCell.findObject obj.name = some obj) :
    InWorkCell workCell (task interferenceObjects) where
  target := rfl
  interference := h
  device := rfl
  dynamicDevice := rfl
  tcp := rfl
  movable := rfl
  teach := le_refl 5
  prefiltering := le_refl 3
  coverage := le_refl 3

end Sample

/-- No node is written for the interference objects, and none can be read. -/
theorem not_roundTrips_alone :
    InWorkCell Sample.workCell (Sample.task []) ∧
      ¬ RoundTrips (.ofEncodable ℚ) Sample.degrees Sample.workCell (Sample.task [])
        (Sample.task []) := by
  have hcell : InWorkCell Sample.workCell (Sample.task []) :=
    Sample.inWorkCell fun obj hobj => absurd hobj List.not_mem_nil
  refine ⟨hcell, ?_⟩
  rintro ⟨tree, td', hsave, hload, -⟩
  exact (readBack_of_load hcell hsave hload).1 rfl

theorem roundTrips_iff_readable_rotor :
    RoundTrips (.ofEncodable ℚ) Sample.degrees Sample.workCell (Sample.task [])
      (Sample.task [Sample.table]) :=
  (roundTrips_iff_readable (Sample.task []) (Sample.inWorkCell (by decide))).mpr
    (by constructor <;> decide)

end TaskDescriptionLoader
end Gripperz.Loaders
