import Mathlib.Algebra.Field.Basic
import Gripperz.Library.Failures
import Gripperz.Loaders.MeshGeneratorLoader

/-! # Making meshes

The generators make a mesh from their parametrization, by a jaw primitive or by a command that is
run in a shell. What is outside is a parameter: the shell and its files, and the making of jaws.
-/
namespace Gripperz.Geometry
open Library Parametrizations Loaders

variable {W R Mesh : Type}

/-- What the generators call. A parametrization without a parameter raises an exception as the
map does. -/
structure Outside (W R Mesh : Type) where
  ranI : Action W ℕ
  number : R → String
  fileExists : String → Action W Bool
  remove : String → Action W Unit
  system : String → Action W ℤ
  loadSTL : String → Action W Mesh
  deg2Rad : R
  jaw : List R → Action W Mesh
  /-- `createMesh` of a class that is not listed. -/
  other : Parametrization R → Action W Mesh

/-- `map::at`. -/
def getParameter {σ : Type} (p : Parametrization R) (name : String) : Action σ R :=
  match p.getParameter name with
  | some value => pure value
  | none => Action.raise "map::at"

theorem ends_getParameter {σ : Type} {post : R → σ → Prop} {fails : Failure → σ → Prop} {s : σ}
    (p : Parametrization R) (name : String) :
    (getParameter p name).Ends post fails s ↔
      (∀ value, p.getParameter name = some value → post value s) ∧
        (p.getParameter name = none → fails (.raised "map::at") s) := by
  unfold getParameter
  cases p.getParameter name <;> simp

variable (outside : Outside W R Mesh)

namespace OpenSCADGenerator

/-- The command with the values of all parameters. -/
def makeCommand (command scriptFilename tmp : String) (list : List (String × R)) : String :=
  list.foldl
    (fun sstr p => sstr ++ "-D '" ++ p.1 ++ "=" ++ outside.number p.2 ++ ";' ")
    (command ++ " -o " ++ tmp ++ " " ++ scriptFilename ++ " ")

def removeIfThere (tmp : String) : Action W Unit := do
  let there ← outside.fileExists tmp
  if there then outside.remove tmp else pure ()

def createMesh (scriptFilename temporaryFilename command : String) (p : Parametrization R) :
    Action W Mesh := do
  let stamp ← outside.ranI
  let tmp := temporaryFilename ++ toString stamp ++ ".stl"
  match p.getParameterList with
  | none => Action.raise "map::at"
  | some list =>
    removeIfThere outside tmp
    let return_code ← outside.system (makeCommand outside command scriptFilename tmp list)
    if return_code ≠ 0 then Action.raise "Geometry generation failed!"
    else do
      let mesh ← outside.loadSTL tmp
      removeIfThere outside tmp
      return mesh

/-- No mesh is made by a command that always fails. -/
theorem createMesh_of_system (scriptFilename temporaryFilename command : String)
    (p : Parametrization R)
    (failing : ∀ command w, (outside.system command).Ends (fun return_code _ => return_code ≠ 0)
      (fun _ _ => True) w) (w : W) :
    (createMesh outside scriptFilename temporaryFilename command p).Ends (fun _ _ => False)
      (fun _ _ => True) w := by
  rw [createMesh, Action.ends_bind]
  apply Action.ends_of_forall
  · intro stamp w'
    cases p.getParameterList with
    | none => trivial
    | some list =>
      rw [Action.ends_bind]
      apply Action.ends_of_forall
      · intro _ w''
        rw [Action.ends_bind]
        apply (failing _ w'').imp
        · intro return_code w hcode
          rw [if_pos hcode]
          trivial
        · exact fun _ _ h => h
      · exact fun _ _ => trivial
  · exact fun _ _ => trivial

end OpenSCADGenerator

namespace OldFingerGenerator
variable [Field R]

/-- The parameters that are read. -/
def names : List String :=
  ["length", "width", "depth", "chfdepth", "chfangle", "cutpos", "cutdepth", "cutangle", "cuttilt"]

def createMesh (p : Parametrization R) : Action W Mesh := do
  let length ← getParameter p "length"
  let width ← getParameter p "width"
  let depth ← getParameter p "depth"
  let chfdepth ← getParameter p "chfdepth"
  let chfangle ← getParameter p "chfangle"
  let cutpos ← getParameter p "cutpos"
  let cutdepth ← getParameter p "cutdepth"
  let cutangle ← getParameter p "cutangle"
  let cuttilt ← getParameter p "cuttilt"
  outside.jaw [0, length, width, depth, chfdepth, chfangle * outside.deg2Rad, length - cutpos,
    cutdepth, cutangle * outside.deg2Rad, 0, cuttilt * outside.deg2Rad]

/-- Without one of the parameters an exception is raised. -/
theorem createMesh_of_missing {p : Parametrization R} {name : String} (hname : name ∈ names)
    (hmissing : p.getParameter name = none) (w : W) :
    (createMesh outside p).Ends (fun _ _ => False)
      (fun failure w' => failure = .raised "map::at" ∧ w' = w) w := by
  simp only [createMesh, Action.ends_bind, ends_getParameter]
  simp only [and_self, implies_true, and_true]
  intro length hlength width hwidth depth hdepth chfdepth hchfdepth chfangle hchfangle
    cutpos hcutpos cutdepth hcutdepth cutangle hcutangle cuttilt hcuttilt
  -- All parameters have been read, the missing one among them.
  simp only [names, List.mem_cons, List.not_mem_nil, or_false] at hname
  rcases hname with rfl | rfl | rfl | rfl | rfl | rfl | rfl | rfl | rfl <;> simp_all

end OldFingerGenerator

/-- `createMesh` of a generator. -/
def createMesh [Field R] (generator : ParametrizedMeshGenerator R) : Action W Mesh :=
  match generator.cls with
  | .oldFingerGenerator => OldFingerGenerator.createMesh outside generator.parametrization
  | .openSCADGenerator scriptFilename temporaryFilename command =>
    OpenSCADGenerator.createMesh outside scriptFilename temporaryFilename command
      generator.parametrization
  | .other => outside.other generator.parametrization

end Gripperz.Geometry
