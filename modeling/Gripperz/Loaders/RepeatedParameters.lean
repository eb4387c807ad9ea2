import Gripperz.Loaders.MeshGeneratorLoader

/-! # Mesh generators in trees with repeated parameters

A generator is read as it was written. A tree may name a parameter more than once: what is
read keeps the first value.
-/
namespace Gripperz.Loaders
open Library Parametrizations

variable {R : Type} (number : NumberText R)

namespace ParametrizationLoader

/-- The parameters a tree names, if all of them can be read. -/
def namedParameters (tree : PTree String String) : Option (List (String × R)) :=
  namedValues number "parameter" tree

theorem read_eq (tree : PTree String String) :
    read number tree = (namedParameters number tree).map Parametrization.ofList :=
  readNamedValues_eq number "parameter" _ _ tree

end ParametrizationLoader

namespace ParametrizedMeshGeneratorLoader

theorem read_of_parametrization {tree node : PTree String String} {cls : MeshGeneratorClass}
    {parameters : List (String × R)} (hcls : readClass tree = some cls)
    (hnode : tree.getChild ["parametrization"] = some node)
    (hparameters : ParametrizationLoader.namedParameters number node = some parameters) :
    read number tree = some ⟨cls, .ofList parameters⟩ := by
  rw [read, hcls, Option.bind_some, hnode]
  simp only [ParametrizationLoader.read_eq, hparameters, Option.map_some]

/-- Generators are read as they were written, and of parameters with one name the first is
kept. -/
theorem generator_roundTrips :
    (∀ generator : ParametrizedMeshGenerator R, generator.cls ≠ .other →
      ∃ tree generator', write number generator = some ("meshGenerator", tree) ∧
        read number tree = some generator' ∧ generator'.cls.kind = generator.cls.kind ∧
        generator'.parametrization.parameterNameList =
          generator.parametrization.parameterNameList ∧
        ∀ name, generator'.parametrization.getParameter name =
          generator.parametrization.getParameter name) ∧
    ∀ (tree node : PTree String String) (cls : MeshGeneratorClass)
      (parameters : List (String × R)), readClass tree = some cls →
      tree.getChild ["parametrization"] = some node →
      ParametrizationLoader.namedParameters number node = some parameters →
      ∃ generator, read number tree = some generator ∧ generator.cls = cls ∧
        generator.parametrization.parameterNameList = (parameters.map Prod.fst).eraseDups ∧
        ∀ name, generator.parametrization.getParameter name =
          (parameters.find? fun parameter => parameter.1 = name).map Prod.snd := by
  constructor
  · intro generator h
    obtain ⟨tree, cls, hwrite, hread, hkind⟩ := read_write number h
    exact ⟨tree, _, hwrite, hread, hkind, rfl, fun _ => rfl⟩
  · intro tree node cls parameters hcls hnode hparameters
    exact ⟨_, read_of_parametrization number hcls hnode hparameters, rfl,
      Parametrization.parameterNameList_ofList parameters,
      Parametrization.getParameter_ofList parameters⟩

/-! ## Two trees -/

def scriptedGenerator : ParametrizedMeshGenerator ℕ :=
  ⟨.openSCADGenerator "finger.scad" ".mesh" "openscad", .ofList [("width", 25), ("length", 100)]⟩

/-- A tree with two widths. -/
def repeatedTree : PTree String String :=
  (PTree.empty.put ["<xmlattr>", "class"] "OldFingerGenerator").addChild [] "parametrization"
    (writeNamedValues (NumberText.ofEncodable ℕ) "parameter"
      [("width", 25), ("length", 100), ("width", 30)])

theorem generator_roundTrips_repeated :
    (∃ tree generator', write (.ofEncodable ℕ) scriptedGenerator = some ("meshGenerator", tree) ∧
      read (.ofEncodable ℕ) tree = some generator' ∧
      generator'.cls.kind = scriptedGenerator.cls.kind) ∧
    ∃ generator, read (.ofEncodable ℕ) repeatedTree = some generator ∧
      generator.parametrization.parameterNameList = ["width", "length"] ∧
      generator.parametrization.getParameter "width" = some 25 := by
  have hboth := generator_roundTrips (NumberText.ofEncodable ℕ)
  obtain ⟨tree, generator, hwrite, hread, hkind, -⟩ := hboth.1 scriptedGenerator nofun
  obtain ⟨repeated, hrepeated, -, hnames, hvalues⟩ := hboth.2 repeatedTree _ .oldFingerGenerator
    [("width", 25), ("length", 100), ("width", 30)] rfl rfl
    (namedValues_writeNamedValues (NumberText.ofEncodable ℕ) "parameter" _)
  exact ⟨⟨tree, generator, hwrite, hread, hkind⟩, repeated, hrepeated,
    hnames.trans (by decide), (hvalues "width").trans (by decide)⟩

end ParametrizedMeshGeneratorLoader
end Gripperz.Loaders
