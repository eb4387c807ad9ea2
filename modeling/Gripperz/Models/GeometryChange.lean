import Mathlib.Algebra.Field.Rat
import Gripperz.Geometry.CreateMesh
import Gripperz.Library.Numerals
import Gripperz.Models.WorkCell

/-! # Changing the geometry of a gripper

A registered gripper modifies the work cell: it removes the objects of its fingers, makes new
meshes and adds new objects, and sets its device. Models for drawing are left out.
-/
namespace Gripperz.Models
open Library Parametrizations Loaders Gripperz.Geometry

variable {Q W R C Mesh : Type} {cells : WorkCells C Mesh}

/-! ## Modifications -/

section Modifications
variable [Field R] (outside : Outside W R Mesh) (reg : Registered)

/-- A gripper whose parametrization and generator are objects of its own. -/
abbrev GeometryGripperData (Q R : Type) :=
  ParametrizedGeometryGripperData Q (Parametrization R) (ParametrizedMeshGenerator R)

namespace ParametrizedGeometryGripper

/-- The meshes of both fingers, with the parametrization of the gripper. -/
def createMeshes (gripper : GeometryGripperData Q R) : Action W (Mesh × Mesh) :=
  match gripper.meshGenerator with
  | none => Action.crash
  | some meshGenerator => do
    let generator := meshGenerator.setParametrization gripper.parametrization
    let left_mesh ← createMesh outside generator
    let right_mesh ← createMesh outside generator
    return (left_mesh, right_mesh)

/-- The finger objects, on the bases of the old ones. -/
def addFingers (meshes : Mesh × Mesh) : Action (Cell cells W R) Unit := do
  let left ← Cell.getBase reg.leftFingerObject
  let right ← Cell.getBase reg.rightFingerObject
  Cell.addFinger reg.leftFingerBody ⟨left, [⟨meshes.1, "leftFingerGeo", false⟩]⟩
  Cell.addFinger reg.rightFingerBody ⟨right, [⟨meshes.2, "rightFingerGeo", true⟩]⟩

def applyModifications (gripper : GeometryGripperData Q R) : Action (Cell cells W R) Unit := do
  Cell.removeObject reg.leftFingerObject
  Cell.removeObject reg.rightFingerObject
  let meshes ← Cell.inWorld (createMeshes outside gripper)
  addFingers reg meshes

end ParametrizedGeometryGripper

/-- The bounds, the configuration and the force limits, of which both classes with a device make
the same. -/
def setDevice (p : Parametrization R) : Action (Cell cells W R) Unit := do
  let jawdist ← getParameter p "jawdist"
  let stroke ← getParameter p "stroke"
  Cell.follow reg.device (Cell.setBounds (jawdist / 2) (jawdist / 2 + stroke / 2))
  let force ← getParameter p "force"
  Cell.follow reg.dynamicDevice (Cell.setMotorForceLimits force)

/-- `StandardGripper`: what follows the change of the geometry. -/
def StandardGripper.setParameters (p : Parametrization R) : Action (Cell cells W R) Unit := do
  let length ← getParameter p "length"
  let tcpoffset ← getParameter p "tcpoffset"
  Cell.follow reg.TCPFrame (Cell.setTransform (length - tcpoffset))
  setDevice reg p

def StandardGripper.applyModifications (gripper : GeometryGripperData Q R) :
    Action (Cell cells W R) Unit := do
  ParametrizedGeometryGripper.applyModifications outside reg gripper
  setParameters reg gripper.parametrization

def BasicParametrizedGripper.applyModifications (p : Parametrization R) :
    Action (Cell cells W R) Unit := do
  let tcpoffset ← getParameter p "tcpoffset"
  Cell.follow reg.TCPFrame (Cell.setTransform tcpoffset)
  setDevice reg p

/-- `applyModifications` of any parametrized gripper. -/
def applyModifications :
    ParametrizedGripper Q (Parametrization R) (ParametrizedMeshGenerator R) →
      Action (Cell cells W R) Unit
  | .parametrizedGripper _ => pure ()
  | .basicParametrizedGripper gripper =>
    BasicParametrizedGripper.applyModifications reg gripper.parametrization
  | .parametrizedGeometryGripper gripper =>
    ParametrizedGeometryGripper.applyModifications outside reg gripper
  | .standardGripper gripper => StandardGripper.applyModifications outside reg gripper

/-- If the modifications raise an exception, the objects are as they were. -/
def KeepsObjects
    (gripper : ParametrizedGripper Q (Parametrization R) (ParametrizedMeshGenerator R))
    (s : Cell cells W R) : Prop :=
  (applyModifications outside reg gripper).Ends (fun _ _ => True)
    (fun failure s' => failure ≠ .crashed → SameObjects s s') s

/-! ## When it raises an exception -/

/-- Making the meshes raises an exception. -/
def MeshesRaise (gripper : GeometryGripperData Q R) (s : Cell cells W R) : Prop :=
  (ParametrizedGeometryGripper.createMeshes outside gripper).Ends (fun _ _ => False)
    (fun failure _ => failure ≠ .crashed) s.world

/-- Both meshes are made. -/
def MeshesMade (gripper : GeometryGripperData Q R) (s : Cell cells W R) : Prop :=
  (ParametrizedGeometryGripper.createMeshes outside gripper).Ends (fun _ _ => True)
    (fun _ _ => False) s.world

namespace Registered

/-- There are objects and bodies of both fingers. -/
structure HasFingers (s : Cell cells W R) : Prop where
  leftObject : (reg.leftFingerObject.bind s.workCell.heap.get).isSome
  rightObject : (reg.rightFingerObject.bind s.workCell.heap.get).isSome
  leftBody : reg.leftFingerBody.isSome
  rightBody : reg.rightFingerBody.isSome

/-- A parameter that sets the device is missing, and no null pointer is followed before it. -/
def LacksDevice (p : Parametrization R) : Prop :=
  p.getParameter "jawdist" = none ∨ p.getParameter "stroke" = none ∨
    reg.device.isSome ∧ p.getParameter "force" = none

/-- A parameter of a `StandardGripper` is missing, and no null pointer is followed before it. -/
def Lacks (p : Parametrization R) : Prop :=
  p.getParameter "length" = none ∨ p.getParameter "tcpoffset" = none ∨
    reg.TCPFrame.isSome ∧ reg.LacksDevice p

end Registered

/-- No mesh generation raises an exception while a finger object is in the work cell, and no
parameter is missing once the objects have been replaced. -/
def Harmless (s : Cell cells W R) :
    ParametrizedGripper Q (Parametrization R) (ParametrizedMeshGenerator R) → Prop
  | .parametrizedGripper _ => True
  | .basicParametrizedGripper _ => True
  | .parametrizedGeometryGripper gripper => MeshesRaise outside gripper s → reg.OutOfCell s
  | .standardGripper gripper =>
    (MeshesRaise outside gripper s → reg.OutOfCell s) ∧
      (MeshesMade outside gripper s → reg.HasFingers s → ¬ reg.Lacks gripper.parametrization)

end Modifications

section Replacing
variable {reg : Registered} {s : Cell cells W R}

/-! ## Replacing the objects -/

/-- The fingers are added when there are fingers, and a null pointer is followed when not. -/
theorem addFingers_ends (meshes : Mesh × Mesh) :
    (ParametrizedGeometryGripper.addFingers reg meshes).Ends
      (fun _ s' => reg.HasFingers s ∧ s.workCell.heap.objects.length ∈ s'.workCell.objects)
      (fun failure _ => failure = .crashed ∧ ¬ reg.HasFingers s) s := by
  rw [ParametrizedGeometryGripper.addFingers, Action.ends_bind, ends_getBase]
  cases hleft : reg.leftFingerObject.bind s.workCell.heap.get with
  | none => exact ⟨rfl, fun h => nomatch hleft ▸ h.leftObject⟩
  | some left =>
    simp only
    rw [Action.ends_bind, ends_getBase]
    cases hright : reg.rightFingerObject.bind s.workCell.heap.get with
    | none => exact ⟨rfl, fun h => nomatch hright ▸ h.rightObject⟩
    | some right =>
      simp only
      rw [Action.ends_bind]
      apply (addFinger_ends _ _).imp
      · rintro _ s' ⟨hleftBody, hnew, -⟩
        apply (addFinger_ends _ _).imp
        · rintro _ s'' ⟨hrightBody, -, hold⟩
          exact ⟨⟨by rw [hleft]; rfl, by rw [hright]; rfl, hleftBody, hrightBody⟩, hold _ hnew⟩
        · rintro _ _ ⟨rfl, hnone⟩
          exact ⟨rfl, fun h => nomatch hnone ▸ h.rightBody⟩
      · rintro _ _ ⟨rfl, hnone⟩
        exact ⟨rfl, fun h => nomatch hnone ▸ h.leftBody⟩

theorem hasFingers_stripped_iff (world : W) :
    reg.HasFingers (s.stripped reg world) ↔ reg.HasFingers s :=
  ⟨fun h => ⟨h.leftObject, h.rightObject, h.leftBody, h.rightBody⟩,
    fun h => ⟨h.leftObject, h.rightObject, h.leftBody, h.rightBody⟩⟩

theorem addFingers_stripped (meshes : Mesh × Mesh) (world : W) :
    (ParametrizedGeometryGripper.addFingers reg meshes).Ends
      (fun _ s' => reg.HasFingers s ∧ s.workCell.heap.objects.length ∈ s'.workCell.objects)
      (fun failure _ => failure = .crashed ∧ ¬ reg.HasFingers s) (s.stripped reg world) := by
  rw [← hasFingers_stripped_iff world]
  exact addFingers_ends meshes

end Replacing

section Raising
variable [Field R] {outside : Outside W R Mesh} {reg : Registered} {s : Cell cells W R}

/-! ## Setting parameters -/

/-- Setting the device leaves the objects alone, and raises an exception for the parameters that it
lacks. -/
theorem setDevice_ends (p : Parametrization R) :
    (setDevice reg p).Ends
      (fun _ s' => s'.workCell = s.workCell ∧ s'.bodies = s.bodies ∧ ¬ reg.LacksDevice p)
      (fun failure s' => s'.workCell = s.workCell ∧ s'.bodies = s.bodies ∧
        (failure ≠ .crashed ↔ reg.LacksDevice p)) s := by
  simp only [setDevice, Action.ends_bind, ends_getParameter, ends_follow, Registered.LacksDevice]
  cases p.getParameter "jawdist" with
  | none => simp
  | some jawdist =>
    cases p.getParameter "stroke" with
    | none => simp
    | some stroke =>
      cases hdevice : reg.device with
      | none => simp
      | some device =>
        cases p.getParameter "force" with
        | none => simp [Cell.setBounds]
        | some force =>
          cases reg.dynamicDevice <;> simp [Cell.setBounds, Cell.setMotorForceLimits]

theorem setParameters_ends (p : Parametrization R) :
    (StandardGripper.setParameters reg p).Ends
      (fun _ s' => s'.workCell = s.workCell ∧ s'.bodies = s.bodies ∧ ¬ reg.Lacks p)
      (fun failure s' => s'.workCell = s.workCell ∧ s'.bodies = s.bodies ∧
        (failure ≠ .crashed ↔ reg.Lacks p)) s := by
  simp only [StandardGripper.setParameters, Action.ends_bind, ends_getParameter, ends_follow,
    Registered.Lacks]
  cases p.getParameter "length" with
  | none => simp
  | some length =>
    cases p.getParameter "tcpoffset" with
    | none => simp
    | some tcpoffset =>
      cases hframe : reg.TCPFrame with
      | none => simp
      | some frame =>
        have hset : (setDevice reg p).Ends
            (fun _ s' => s'.workCell = s.workCell ∧ s'.bodies = s.bodies ∧ ¬ reg.LacksDevice p)
            (fun failure s' => s'.workCell = s.workCell ∧ s'.bodies = s.bodies ∧
              (failure ≠ .crashed ↔ reg.LacksDevice p))
            (Cell.setTransform (length - tcpoffset) frame s) := setDevice_ends p
        simpa using hset

theorem basic_ends (p : Parametrization R) :
    (BasicParametrizedGripper.applyModifications reg p).Ends (fun _ _ => True)
      (fun _ s' => SameObjects s s') s := by
  simp only [BasicParametrizedGripper.applyModifications, Action.ends_bind, ends_getParameter,
    ends_follow]
  have hsame : SameObjects s s := ⟨fun _ => Iff.rfl, rfl⟩
  refine ⟨fun tcpoffset _ => ⟨fun frame _ => ?_, fun _ => hsame⟩, fun _ => hsame⟩
  apply (setDevice_ends p).imp
  · exact fun _ _ _ => trivial
  · rintro _ s' ⟨hcell, hbodies, -⟩
    exact ⟨fun ptr => by rw [hcell]; rfl, hbodies⟩

/-! ## Every gripper -/

theorem ends_applyModifications {post : Unit → Cell cells W R → Prop}
    {fails : Failure → Cell cells W R → Prop} (gripper : GeometryGripperData Q R) :
    (ParametrizedGeometryGripper.applyModifications outside reg gripper).Ends post fails s ↔
      (ParametrizedGeometryGripper.createMeshes outside gripper).Ends
        (fun meshes world => (ParametrizedGeometryGripper.addFingers reg meshes).Ends post fails
          (s.stripped reg world))
        (fun failure world => fails failure (s.stripped reg world)) s.world := by
  simp only [ParametrizedGeometryGripper.applyModifications, Cell.removeObject, Cell.inWorld,
    Action.ends_bind, Action.ends_modify, Action.ends_within]
  rfl

theorem keepsObjects_geometry_iff (gripper : GeometryGripperData Q R) :
    KeepsObjects outside reg (.parametrizedGeometryGripper gripper) s ↔
      (MeshesRaise outside gripper s → reg.OutOfCell s) := by
  change (ParametrizedGeometryGripper.applyModifications outside reg gripper).Ends _ _ s ↔ _
  rw [ends_applyModifications, MeshesRaise]
  cases hmeshes : ParametrizedGeometryGripper.createMeshes outside gripper s.world with
  | error failure world =>
    rw [Action.ends_of_error hmeshes, Action.ends_of_error hmeshes, sameObjects_stripped_iff]
  | ok meshes world =>
    rw [Action.ends_of_ok hmeshes, Action.ends_of_ok hmeshes]
    refine iff_of_true ?_ False.elim
    apply (addFingers_stripped meshes world).imp
    · exact fun _ _ _ => trivial
    · rintro _ _ ⟨rfl, -⟩ hraised
      exact absurd rfl hraised

/-- A `StandardGripper` that has replaced the objects has the parameters it reads, or raises an
exception with new objects in the cell. -/
theorem setParameters_keeps_iff {s' : Cell cells W R} (p : Parametrization R)
    (h : s.workCell.heap.objects.length ∈ s'.workCell.objects) :
    (StandardGripper.setParameters reg p).Ends (fun _ _ => True)
      (fun failure s'' => failure ≠ .crashed → SameObjects s s'') s' ↔ ¬ reg.Lacks p := by
  have hset : (StandardGripper.setParameters reg p).Ends _ _ s' := setParameters_ends p
  constructor
  · intro hkeeps hlacks
    apply (hkeeps.and hset).elim
    · exact fun _ _ hreturned => hreturned.2.2.2 hlacks
    · rintro failure s'' ⟨hsame, hcell, -, hraised⟩
      exact not_sameObjects (hcell.symm ▸ h) (hsame (hraised.mpr hlacks))
  · intro hlacks
    apply hset.imp
    · exact fun _ _ _ => trivial
    · exact fun _ _ hfails hraised => absurd (hfails.2.2.mp hraised) hlacks

theorem keepsObjects_standard_iff (gripper : GeometryGripperData Q R) :
    KeepsObjects outside reg (.standardGripper gripper) s ↔
      (MeshesRaise outside gripper s → reg.OutOfCell s) ∧
        (MeshesMade outside gripper s → reg.HasFingers s →
          ¬ reg.Lacks gripper.parametrization) := by
  change (StandardGripper.applyModifications outside reg gripper).Ends _ _ s ↔ _
  rw [StandardGripper.applyModifications, Action.ends_bind, ends_applyModifications, MeshesRaise,
    MeshesMade]
  cases hmeshes : ParametrizedGeometryGripper.createMeshes outside gripper s.world with
  | error failure world =>
    simp only [Action.ends_of_error hmeshes, sameObjects_stripped_iff, false_implies, and_true]
  | ok meshes world =>
    simp only [Action.ends_of_ok hmeshes, false_implies, true_and, true_implies]
    constructor
    · intro hkeeps hfingers
      apply (hkeeps.and (addFingers_stripped meshes world)).elim
      · exact fun _ s' h => (setParameters_keeps_iff _ h.2.2).mp h.1
      · exact fun _ _ h => absurd hfingers h.2.2
    · intro hlacks
      apply (addFingers_stripped meshes world).imp
      · rintro _ s' ⟨hfingers, hnew⟩
        exact (setParameters_keeps_iff _ hnew).mpr (hlacks hfingers)
      · rintro _ _ ⟨rfl, -⟩ hraised
        exact absurd rfl hraised

/-- A gripper keeps the objects when its modifications raise an exception exactly when the making
of its meshes raises none while its finger objects are in the work cell and, for a
`StandardGripper`, no parameter is missing once the objects have been replaced. -/
theorem keepsObjects_iff (outside : Outside W R Mesh) (reg : Registered)
    (gripper : ParametrizedGripper Q (Parametrization R) (ParametrizedMeshGenerator R))
    (s : Cell cells W R) : KeepsObjects outside reg gripper s ↔ Harmless outside reg s gripper := by
  cases gripper with
  | parametrizedGripper gripper => exact iff_of_true trivial trivial
  | basicParametrizedGripper gripper =>
    refine iff_of_true ?_ trivial
    exact (basic_ends gripper.parametrization).imp (fun _ _ _ => trivial)
      fun _ _ hsame _ => hsame
  | parametrizedGeometryGripper gripper => exact keepsObjects_geometry_iff gripper
  | standardGripper gripper => exact keepsObjects_standard_iff gripper

end Raising

/-! ## Registering again -/

section Again
variable {s : Cell cells W R}

/-- Registered again, it never modifies the work cell to the end: a null pointer is followed even
when the meshes can be made. -/
theorem not_applied_again [Field R] (outside : Outside W R Mesh)
    (gripper : GeometryGripperData Q R) (world : W) (distinct : s.workCell.Distinct)
    {left right : Ptr}
    (hleft : (s.registerWithContext gripper.toGripperData).leftFingerObject = some left)
    (hright : (s.registerWithContext gripper.toGripperData).rightFingerObject = some right) :
    let s' := s.stripped (s.registerWithContext gripper.toGripperData) world
    (ParametrizedGeometryGripper.applyModifications outside
      (s'.registerWithContext gripper.toGripperData) gripper).Ends (fun _ _ => False)
      (fun _ _ => True) s' := by
  intro s'
  have hnone := ((outOfCell_registered_iff gripper.toGripperData).mp
    (registerWithContext_removed gripper.toGripperData world distinct hleft hright)).1
  rw [ends_applyModifications]
  apply Action.ends_of_forall
  · intro meshes world'
    apply (addFingers_stripped meshes world').imp
    · rintro _ _ ⟨hfingers, -⟩
      have hleft := hfingers.leftObject
      rw [hnone] at hleft
      cases hleft
    · exact fun _ _ _ => trivial
  · exact fun _ _ => trivial

end Again

/-! ## A gripper whose meshes cannot be made -/

namespace Sample

/-- A shell whose commands return a code. -/
def shell (return_code : ℤ) : Outside Unit ℚ Unit where
  ranI := pure 0
  number _ := "0"
  fileExists _ := pure false
  remove _ := pure ()
  system _ := pure return_code
  loadSTL _ := pure ()
  deg2Rad := 1 / 57
  jaw _ := pure ()
  other _ := pure ()

/-- A work cell with two fingers. -/
def fingers : Cell (.ofLists : WorkCells (List Ptr) Unit) Unit ℚ where
  workCell :=
    { heap := ⟨[⟨"LeftFinger", []⟩, ⟨"RightFinger", []⟩]⟩
      cell := [0, 1]
      made := (by decide : ∀ ptr ∈ [0, 1], ptr < 2) }
  bodies name :=
    if name = "LeftFinger" then some 0 else if name = "RightFinger" then some 1 else none
  frames _ := some 0
  devices _ := some ((0, 1), 0)
  motorForceLimits _ := some (50, 50)
  world := ()

/-- A gripper without parameters. -/
def geometryGripper : GeometryGripperData Unit ℚ where
  name := "gripper"
  deviceId := "gripper"
  dynamicDeviceId := "gripper"
  TCPFrameId := "TCPgripper"
  movableFrameId := "gripper.Base"
  graspControllerId := "graspController"
  leftFingerId := "LeftFinger"
  rightFingerId := "RightFinger"
  quality := ()
  parametrization := .empty
  meshGenerator := some ⟨.openSCADGenerator "finger.scad" ".mesh" "openscad", .empty⟩

def registered : Registered := fingers.registerWithContext geometryGripper.toGripperData

end Sample

open Sample in
/-- When the command fails, both fingers are gone; when it does not, a `StandardGripper` without a
length has replaced them. -/
theorem not_keepsObjects :
    ¬ KeepsObjects (shell 1) registered (.parametrizedGeometryGripper geometryGripper) fingers ∧
    ¬ KeepsObjects (shell 0) registered (.standardGripper geometryGripper) fingers := by
  rw [keepsObjects_geometry_iff, keepsObjects_standard_iff]
  constructor
  · intro h
    have hraise : MeshesRaise (shell 1) geometryGripper fingers := fun hcrash => nomatch hcrash
    exact (h hraise 0 List.mem_cons_self).1 rfl
  · rintro ⟨-, h⟩
    exact h trivial ⟨rfl, rfl, rfl, rfl⟩ (Or.inl rfl)

end Gripperz.Models
