import Gripperz.Loaders.ParametrizationLoader

/-! # Mesh generators in trees

A generator is kept with its class, its own data and its parametrization.
-/
namespace Gripperz.Loaders
open Library Parametrizations

/-- The members of the classes of mesh generators; `other` is any class without a place in a
tree. -/
inductive MeshGeneratorClass where
  | oldFingerGenerator
  | openSCADGenerator (scriptFilename temporaryFilename command : String)
  | other
  deriving DecidableEq, Repr

/-- The class by name, and the script of an `OpenSCADGenerator`. -/
def MeshGeneratorClass.kind : MeshGeneratorClass → String × Option String
  | oldFingerGenerator => ("OldFingerGenerator", none)
  | openSCADGenerator scriptFilename _ _ => ("OpenSCADGenerator", some scriptFilename)
  | other => ("", none)

structure ParametrizedMeshGenerator (R : Type) where
  cls : MeshGeneratorClass
  parametrization : Parametrization R

variable {R : Type}

namespace ParametrizedMeshGenerator

def setParametrization (parametrization : Parametrization R)
    (generator : ParametrizedMeshGenerator R) : ParametrizedMeshGenerator R :=
  { generator with parametrization := parametrization }

end ParametrizedMeshGenerator

namespace ParametrizedMeshGeneratorLoader
variable (number : NumberText R)

def readClass (tree : PTree String String) : Option MeshGeneratorClass :=
  (tree.get ["<xmlattr>", "class"]).bind fun cls =>
    if cls = "OldFingerGenerator" then some .oldFingerGenerator
    else if cls = "OpenSCADGenerator" then
      (tree.get ["template"]).map fun script => .openSCADGenerator script ".mesh" "openscad"
    else none

def read (tree : PTree String String) : Option (ParametrizedMeshGenerator R) :=
  (readClass tree).bind fun cls =>
    match tree.getChild ["parametrization"] with
    | some node => (ParametrizationLoader.read number node).map fun param => ⟨cls, param⟩
    | none => some ⟨cls, .empty⟩

def writeClass : MeshGeneratorClass → Option (PTree String String)
  | .oldFingerGenerator => some (PTree.empty.put ["<xmlattr>", "class"] "OldFingerGenerator")
  | .openSCADGenerator scriptFilename _ _ =>
    some ((PTree.empty.put ["<xmlattr>", "class"] "OpenSCADGenerator").put ["template"]
      scriptFilename)
  | .other => none

def write (generator : ParametrizedMeshGenerator R) : Option (String × PTree String String) :=
  (writeClass generator.cls).bind fun tree =>
    (ParametrizationLoader.write number generator.parametrization).map fun node =>
      ("meshGenerator", tree.addChild [] "parametrization" node.2)

/-- A written class is read, with the defaults of the constructor for what is not written. -/
theorem readClass_writeClass {cls : MeshGeneratorClass} (h : cls ≠ .other) :
    ∃ tree cls', writeClass cls = some tree ∧ tree.find "parametrization" = none ∧
      (∀ node, readClass (tree.addChild [] "parametrization" node) = some cls') ∧
      cls'.kind = cls.kind := by
  cases cls with
  | oldFingerGenerator => exact ⟨_, .oldFingerGenerator, rfl, rfl, fun _ => rfl, rfl⟩
  | openSCADGenerator scriptFilename _ _ =>
    exact ⟨_, .openSCADGenerator scriptFilename ".mesh" "openscad", rfl, rfl, fun _ => rfl, rfl⟩
  | other => exact absurd rfl h

/-- A generator is written and is read with the same class, script and parametrization. -/
theorem read_write {generator : ParametrizedMeshGenerator R} (h : generator.cls ≠ .other) :
    ∃ tree cls, write number generator = some ("meshGenerator", tree) ∧
      read number tree = some ⟨cls, generator.parametrization⟩ ∧ cls.kind = generator.cls.kind := by
  obtain ⟨tree, cls, hwrite, hnone, hread, hkind⟩ := readClass_writeClass h
  obtain ⟨node, hparam, hnode⟩ := ParametrizationLoader.read_write number
    generator.parametrization
  refine ⟨tree.addChild [] "parametrization" node, cls, ?_, ?_, hkind⟩
  · simp [write, hwrite, hparam]
  · have hchild : (tree.addChild [] "parametrization" node).getChild ["parametrization"] =
        some node := by
      rw [PTree.getChild, PTree.find_addChild_self hnone]
      rfl
    simp [read, hread, hchild, hnode]

end ParametrizedMeshGeneratorLoader
end Gripperz.Loaders
