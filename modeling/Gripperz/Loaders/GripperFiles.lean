import Gripperz.Loaders.GripperLoader

/-! # Gripper files

The loaders write trees of one shape. It grows from the shape of the base class, by a class
attribute that is rewritten on the way and by children that are appended.
-/
namespace Gripperz.Loaders
open Library Parametrizations Models

variable {R : Type} (number : NumberText R)

/-! ## The shape of a tree -/

/-- The `data` of a gripper. -/
def dataTree (gripper : FileGripperData R) : PTree String String :=
  .node "" [("deviceId", .leaf gripper.deviceId),
    ("dynamicDeviceId", .leaf gripper.dynamicDeviceId), ("tcpFrameId", .leaf gripper.TCPFrameId),
    ("movableFrameId", .leaf gripper.movableFrameId),
    ("graspControllerId", .leaf gripper.graspControllerId),
    ("leftFingerId", .leaf gripper.leftFingerId), ("rightFingerId", .leaf gripper.rightFingerId)]

/-- The tree of a gripper with more attributes than its name, and more children. -/
def gripperTree (gripper : FileGripperData R) (attributes : List (String × PTree String String))
    (rest : List (String × PTree String String)) : PTree String String :=
  .node "" (("<xmlattr>", .node "" (("name", .leaf gripper.name) :: attributes)) ::
    ("data", dataTree gripper) ::
    ("quality", (GripperQualityLoader.write number gripper.quality).2) :: rest)

section
variable (gripper : FileGripperData R) (attributes rest : List (String × PTree String String))

theorem write_base : BaseGripperLoader.write number gripper =
    ("gripper", gripperTree number gripper [] []) := rfl

/-- A first class attribute. -/
theorem put_class (cls : String) :
    (gripperTree number gripper [] rest).put ["<xmlattr>", "class"] cls =
      gripperTree number gripper [("class", .leaf cls)] rest := rfl

/-- Another class attribute. -/
theorem put_class_again (cls cls' : String) :
    (gripperTree number gripper [("class", .leaf cls)] rest).put ["<xmlattr>", "class"] cls' =
      gripperTree number gripper [("class", .leaf cls')] rest := rfl

theorem addChild_gripperTree (key : String) (child : PTree String String) :
    (gripperTree number gripper attributes rest).addChild [] key child =
      gripperTree number gripper attributes (rest ++ [(key, child)]) := rfl

/-- What the base class reads. -/
theorem read_gripperTree :
    BaseGripperLoader.read number (gripperTree number gripper attributes rest) = some gripper := by
  have hname : (gripperTree number gripper attributes rest).get ["<xmlattr>", "name"] =
      some gripper.name := rfl
  have hdata : (gripperTree number gripper attributes rest).getChild ["data"] =
      some (dataTree gripper) := rfl
  have hquality : (gripperTree number gripper attributes rest).getChild ["quality"] =
      some (GripperQualityLoader.write number gripper.quality).2 := rfl
  have hread : BaseGripperLoader.readData (dataTree gripper) gripper.name .make =
      some { gripper with quality := (.make : GripperQualityImpl R) } := rfl
  simp only [BaseGripperLoader.read, hname, hdata, hquality, hread, GripperQualityLoader.read_write,
    Option.bind_eq_bind, Option.bind_some]

/-- A plain gripper is written without a class. -/
theorem get_class_base : (gripperTree number gripper [] rest).get ["<xmlattr>", "class"] = none :=
  rfl

end

/-! ## Each class -/

theorem write_parametrized (gripper : FileParametrizedData R) :
    ∃ node, ParametrizedGripperLoader.write number gripper = some ("gripper", gripperTree number
        gripper.toGripperData [("class", .leaf "ParametrizedGripper")]
        [("parametrization", node)]) ∧
      ParametrizationLoader.read number node = some gripper.parametrization := by
  obtain ⟨node, hwrite, hread⟩ := ParametrizationLoader.read_write number gripper.parametrization
  refine ⟨node, ?_, hread⟩
  simp only [ParametrizedGripperLoader.write, hwrite, write_base, put_class, addChild_gripperTree,
    Option.bind_eq_bind, Option.bind_some, List.nil_append]

theorem read_parametrized {gripper : FileParametrizedData R} {node : PTree String String}
    (hnode : ParametrizationLoader.read number node = some gripper.parametrization)
    (attributes rest : List (String × PTree String String)) :
    ParametrizedGripperLoader.read number (gripperTree number gripper.toGripperData attributes
      (("parametrization", node) :: rest)) = some gripper := by
  have hchild : (gripperTree number gripper.toGripperData attributes
      (("parametrization", node) :: rest)).getChild ["parametrization"] = some node := rfl
  simp only [ParametrizedGripperLoader.read, read_gripperTree, hchild, hnode, Option.bind_eq_bind,
    Option.bind_some]

/-- The generator is written without its parametrization, which it keeps. -/
theorem write_geometry {gripper : FileGeometryData R} {generator : ParametrizedMeshGenerator R}
    (hset : gripper.meshGenerator = some generator) (hcls : generator.cls ≠ .other) :
    ∃ node gen_node cls, ParametrizedGeometryGripperLoader.write number gripper =
        some (("gripper", gripperTree number gripper.toGripperData
          [("class", .leaf "ParametrizedGeometryGripper")]
          [("parametrization", node), ("meshGenerator", gen_node)]), gripper) ∧
      ParametrizationLoader.read number node = some gripper.parametrization ∧
      ParametrizedMeshGeneratorLoader.read number gen_node = some ⟨cls, .empty⟩ ∧
      cls.kind = generator.cls.kind := by
  obtain ⟨node, hwrite, hread⟩ := write_parametrized number gripper.toParametrizedGripperData
  have hempty : (generator.setParametrization .empty).cls ≠ .other := hcls
  obtain ⟨gen_node, cls, hgen, hgen_read, hkind⟩ :=
    ParametrizedMeshGeneratorLoader.read_write number hempty
  refine ⟨node, gen_node, cls, ?_, hread, hgen_read, hkind⟩
  have hback : { gripper with meshGenerator := some ((generator.setParametrization
      .empty).setParametrization generator.parametrization) } = gripper := by
    cases gripper
    obtain rfl := hset
    rfl
  simp only [ParametrizedGeometryGripperLoader.write, hwrite, hset, hgen, put_class_again,
    addChild_gripperTree, hback, Option.bind_eq_bind, Option.bind_some, List.cons_append,
    List.nil_append]

theorem read_geometry {gripper : FileGeometryData R} {node gen_node : PTree String String}
    {generator : ParametrizedMeshGenerator R}
    (hnode : ParametrizationLoader.read number node = some gripper.parametrization)
    (hgen : ParametrizedMeshGeneratorLoader.read number gen_node = some generator)
    (attributes : List (String × PTree String String)) :
    ParametrizedGeometryGripperLoader.read number (gripperTree number gripper.toGripperData
      attributes [("parametrization", node), ("meshGenerator", gen_node)]) =
        some { gripper with meshGenerator := some generator } := by
  have hchild : (gripperTree number gripper.toGripperData attributes
      [("parametrization", node), ("meshGenerator", gen_node)]).getChild ["meshGenerator"] =
        some gen_node := rfl
  have hread := read_parametrized number hnode attributes [("meshGenerator", gen_node)]
  simp only [ParametrizedGeometryGripperLoader.read, hread, hchild, hgen, Option.bind_eq_bind,
    Option.bind_some]

/-! ## Round trips -/

/-- Class, name, ids, quality indices and parameters agree, and so do the class and the script of
the generators. -/
structure SameGripper (object object' : FileGripper R) : Prop where
  cls : object'.cls = object.cls
  data : object'.data = object.data
  parametrization : object'.parametrization = object.parametrization
  generator : (object'.meshGenerator.map fun generator => generator.cls.kind) =
    object.meshGenerator.map fun generator => generator.cls.kind

/-- A gripper is written, is left as it was, and what is read is the same gripper. -/
def RoundTrips (object : FileGripper R) : Prop :=
  ∃ trunk object', MasterGripperLoader.write number object = some (trunk, object) ∧
    MasterGripperLoader.read number trunk.2 = some object' ∧ SameGripper object object'

section
variable {number}

theorem roundTrips_parametrized (data : FileParametrizedData R) :
    RoundTrips number (.parametrized (.parametrizedGripper data)) := by
  obtain ⟨node, hwrite, hnode⟩ := write_parametrized number data
  have hread := read_parametrized number hnode [("class", .leaf "ParametrizedGripper")] []
  exact ⟨_, _, congrArg (Option.map _) hwrite, congrArg (Option.map _) hread, rfl, rfl, rfl, rfl⟩

theorem roundTrips_basic (data : FileParametrizedData R) :
    RoundTrips number (.parametrized (.basicParametrizedGripper data)) := by
  obtain ⟨node, hwrite, hnode⟩ := write_parametrized number data
  have hread := read_parametrized number hnode [("class", .leaf "BasicParametrizedGripper")] []
  have hclass : BasicParametrizedGripperLoader.write number data = some ("gripper", gripperTree
      number data.toGripperData [("class", .leaf "BasicParametrizedGripper")]
      [("parametrization", node)]) := by
    rw [BasicParametrizedGripperLoader.write, hwrite, Option.map_some, put_class_again]
  exact ⟨_, _, congrArg (Option.map _) hclass, congrArg (Option.map _) hread, rfl, rfl, rfl, rfl⟩

variable {data : FileGeometryData R} {generator : ParametrizedMeshGenerator R}

theorem roundTrips_geometry (hset : data.meshGenerator = some generator)
    (hcls : generator.cls ≠ .other) :
    RoundTrips number (.parametrized (.parametrizedGeometryGripper data)) := by
  obtain ⟨node, gen_node, cls, hwrite, hnode, hgen, hkind⟩ := write_geometry number hset hcls
  have hread := read_geometry number hnode hgen [("class", .leaf "ParametrizedGeometryGripper")]
  refine ⟨_, _, congrArg (Option.map _) hwrite, congrArg (Option.map _) hread, rfl, rfl, rfl, ?_⟩
  change some cls.kind = data.meshGenerator.map _
  rw [hset, hkind]
  rfl

theorem roundTrips_standard (hset : data.meshGenerator = some generator)
    (hcls : generator.cls ≠ .other) :
    RoundTrips number (.parametrized (.standardGripper data)) := by
  obtain ⟨node, gen_node, cls, hwrite, hnode, hgen, hkind⟩ := write_geometry number hset hcls
  have hread := read_geometry number hnode hgen [("class", .leaf "StandardGripper")]
  have hclass : StandardGripperLoader.write number data = some (("gripper", gripperTree number
      data.toGripperData [("class", .leaf "StandardGripper")]
      [("parametrization", node), ("meshGenerator", gen_node)]), data) := by
    rw [StandardGripperLoader.write, hwrite, Option.map_some, put_class_again]
  refine ⟨_, _, congrArg (Option.map _) hclass, congrArg (Option.map _) hread, rfl, rfl, rfl, ?_⟩
  change some cls.kind = data.meshGenerator.map _
  rw [hset, hkind]
  rfl

/-- What is written of a plain gripper cannot be read. -/
theorem not_roundTrips_gripper (data : FileGripperData R) :
    ¬ RoundTrips number (.gripper data) := by
  rintro ⟨trunk, object', hwrite, hread, -⟩
  have htrunk : trunk = BaseGripperLoader.write number data :=
    (Prod.mk.inj (Option.some.inj hwrite)).1.symm
  rw [htrunk, write_base, MasterGripperLoader.read, get_class_base] at hread
  cases hread

end

/-- A gripper survives its file exactly when it is not a plain `Gripper`. -/
theorem roundTrips_iff (object : FileGripper R)
    (hgenerator : object.cls.isA .parametrizedGeometryGripper = true →
      ∃ generator, object.meshGenerator = some generator ∧ generator.cls ≠ .other) :
    RoundTrips number object ↔ object.cls ≠ .gripper := by
  cases object with
  | gripper data =>
    constructor
    · intro h
      exact absurd h (not_roundTrips_gripper data)
    · intro h
      exact absurd rfl h
  | parametrized object =>
    have hclass : (GripperObject.parametrized object : FileGripper R).cls ≠ .gripper := by
      cases object <;> exact GripperClass.noConfusion
    refine iff_of_true ?_ hclass
    cases object with
    | parametrizedGripper data => exact roundTrips_parametrized data
    | basicParametrizedGripper data => exact roundTrips_basic data
    | parametrizedGeometryGripper data =>
      obtain ⟨generator, hset, hcls⟩ := hgenerator rfl
      exact roundTrips_geometry hset hcls
    | standardGripper data =>
      obtain ⟨generator, hset, hcls⟩ := hgenerator rfl
      exact roundTrips_standard hset hcls

/-! ## Two grippers -/

namespace Sample

def gripper : FileGripperData ℕ where
  name := "gripper"
  deviceId := "gripper"
  dynamicDeviceId := "gripper"
  TCPFrameId := "gripper.TCP"
  movableFrameId := "gripper.Base"
  graspControllerId := "GraspController"
  leftFingerId := "gripper.LeftFinger"
  rightFingerId := "gripper.RightFinger"
  quality := GripperQualityImpl.make.setIndex "success" 1

/-- A gripper with a generator whose own parametrization differs from the gripper's. -/
def standardGripper : FileGripper ℕ := .parametrized (.standardGripper
  { gripper with
    parametrization := .ofList [("length", 100), ("width", 25)]
    meshGenerator := some
      ⟨.openSCADGenerator "finger.scad" ".mesh" "openscad", .ofList [("width", 10)]⟩ })

end Sample

/-- A plain gripper is written, but not read. -/
theorem not_roundTrips_plain :
    (MasterGripperLoader.write (.ofEncodable ℕ) (.gripper Sample.gripper)).isSome = true ∧
      ¬ RoundTrips (.ofEncodable ℕ) (.gripper Sample.gripper) :=
  ⟨rfl, not_roundTrips_gripper Sample.gripper⟩

theorem roundTrips_iff_standard : RoundTrips (.ofEncodable ℕ) Sample.standardGripper :=
  (roundTrips_iff (.ofEncodable ℕ) Sample.standardGripper fun _ =>
    ⟨_, rfl, MeshGeneratorClass.noConfusion⟩).mpr GripperClass.noConfusion

end Gripperz.Loaders
