import Mathlib.Data.Set.Basic
import Gripperz.Library.Failures
import Gripperz.Models.ParametrizedGripper

/-! # Work cells and registered grippers

A work cell holds the objects, and a dynamic work cell the bodies, that a gripper finds by its
identifiers when it is registered. Where the objects of its fingers are removed, it does not find
them again.
-/
namespace Gripperz.Models
open Library

variable {Q W R C Mesh : Type}

/-! ## Work cells -/

/-- `Geometry`; the right finger is mirrored by its transform. -/
structure FingerGeometry (Mesh : Type) where
  mesh : Mesh
  name : String
  mirrored : Bool

/-- An object goes by the name of its base frame. -/
structure RigidObject (Mesh : Type) where
  base : String
  geometry : List (FingerGeometry Mesh)

/-- Work cells, by the objects in them. An object is in a work cell once at most. -/
structure WorkCells (C Mesh : Type) where
  getObjects : C → Set Ptr
  removeObject : C → Option Ptr → C
  add : C → Ptr → C
  findObject : Heap (RigidObject Mesh) → C → String → Option Ptr
  mem_removeObject : ∀ {wc object ptr}, ptr ∈ getObjects (removeObject wc object) ↔
    ptr ∈ getObjects wc ∧ object ≠ some ptr
  removeObject_of_forall : ∀ {wc object}, (∀ ptr ∈ getObjects wc, object ≠ some ptr) →
    removeObject wc object = wc
  mem_add : ∀ {wc object ptr}, ptr ∈ getObjects (add wc object) ↔
    ptr ∈ getObjects wc ∨ ptr = object
  mem_of_findObject : ∀ {heap wc name ptr}, findObject heap wc name = some ptr →
    ptr ∈ getObjects wc ∧ (heap.get ptr).map RigidObject.base = some name

/-- A work cell that keeps its objects in a list. -/
def WorkCells.ofLists : WorkCells (List Ptr) Mesh where
  getObjects wc := {ptr | ptr ∈ wc}
  removeObject wc object := wc.filter fun ptr => object ≠ some ptr
  add wc object := wc ++ [object]
  findObject heap wc name := wc.find? fun ptr => (heap.get ptr).map RigidObject.base = some name
  mem_removeObject := by simp
  removeObject_of_forall h := List.filter_eq_self.mpr fun ptr hptr => decide_eq_true (h ptr hptr)
  mem_add := by simp
  mem_of_findObject h := ⟨List.mem_of_find?_eq_some h, by simpa using List.find?_some h⟩

variable {cells : WorkCells C Mesh}

/-- The objects that were ever made, and a work cell with some of them. -/
structure WorkCell (cells : WorkCells C Mesh) where
  heap : Heap (RigidObject Mesh)
  cell : C
  made : ∀ ptr ∈ cells.getObjects cell, ptr < heap.objects.length

namespace WorkCell

def objects (wc : WorkCell cells) : Set Ptr := cells.getObjects wc.cell

def findObject (wc : WorkCell cells) (name : String) : Option Ptr :=
  cells.findObject wc.heap wc.cell name

def removeObject (wc : WorkCell cells) (object : Option Ptr) : WorkCell cells where
  heap := wc.heap
  cell := cells.removeObject wc.cell object
  made := fun ptr hptr => wc.made ptr (cells.mem_removeObject.mp hptr).1

/-- A new object is made and added. -/
def add (wc : WorkCell cells) (object : RigidObject Mesh) : Ptr × WorkCell cells :=
  ((wc.heap.alloc object).1,
    { heap := (wc.heap.alloc object).2
      cell := cells.add wc.cell (wc.heap.alloc object).1
      made := by
        intro ptr hptr
        have hlength : (wc.heap.alloc object).2.objects.length = wc.heap.objects.length + 1 :=
          List.length_append
        rw [hlength]
        rcases cells.mem_add.mp hptr with hold | hnew
        · exact Nat.lt_succ_of_lt (wc.made ptr hold)
        · rw [hnew]
          exact Nat.lt_succ_self _ })

end WorkCell

/-- The work cell, the bodies, frames and devices by name, and what is outside. Of a frame the
offset along the z axis is kept, of a device its bounds and configuration. -/
structure Cell (cells : WorkCells C Mesh) (W R : Type) where
  workCell : WorkCell cells
  bodies : String → Option Ptr
  frames : String → Option R
  devices : String → Option ((R × R) × R)
  motorForceLimits : String → Option (R × R)
  world : W

/-- What `registerWithContext` finds. -/
structure Registered where
  device : Option String
  dynamicDevice : Option String
  TCPFrame : Option String
  movableFrame : Option String
  leftFingerObject : Option Ptr
  rightFingerObject : Option Ptr
  leftFingerBody : Option String
  rightFingerBody : Option String

namespace Cell

/-- `registerWithContext`. -/
def registerWithContext (s : Cell cells W R) (gripper : GripperData Q) : Registered where
  device := (s.devices gripper.deviceId).map fun _ => gripper.deviceId
  dynamicDevice := (s.motorForceLimits gripper.dynamicDeviceId).map fun _ => gripper.dynamicDeviceId
  TCPFrame := (s.frames gripper.TCPFrameId).map fun _ => gripper.TCPFrameId
  movableFrame := (s.frames gripper.movableFrameId).map fun _ => gripper.movableFrameId
  leftFingerObject := s.workCell.findObject gripper.leftFingerId
  rightFingerObject := s.workCell.findObject gripper.rightFingerId
  leftFingerBody := (s.bodies gripper.leftFingerId).map fun _ => gripper.leftFingerId
  rightFingerBody := (s.bodies gripper.rightFingerId).map fun _ => gripper.rightFingerId

def removeObject (object : Option Ptr) : Action (Cell cells W R) Unit :=
  modify fun s => { s with workCell := s.workCell.removeObject object }

def inWorld {α : Type} (x : Action W α) : Action (Cell cells W R) α :=
  x.within world fun s world => { s with world := world }

/-- `object->getBase()`. -/
def getBase (object : Option Ptr) : Action (Cell cells W R) String := do
  let s ← get
  match object.bind s.workCell.heap.get with
  | some object => return object.base
  | none => Action.crash

/-- `wc->add(object)` and `body->setObject(object)` for a new object. -/
def addFinger (body : Option String) (object : RigidObject Mesh) :
    Action (Cell cells W R) Unit := do
  let s ← get
  modify fun s => { s with workCell := (s.workCell.add object).2 }
  match body with
  | some body => modify fun s' =>
      { s' with bodies := Function.update s'.bodies body (some (s.workCell.add object).1) }
  | none => Action.crash

/-- What is done to a frame or a device, when there is one. -/
def follow (name : Option String) (change : String → Cell cells W R → Cell cells W R) :
    Action (Cell cells W R) Unit :=
  match name with
  | some name => modify (change name)
  | none => Action.crash

def setTransform (z : R) (frame : String) (s : Cell cells W R) : Cell cells W R :=
  { s with frames := Function.update s.frames frame (some z) }

/-- `setBounds` and `setQ`. -/
def setBounds (low high : R) (device : String) (s : Cell cells W R) : Cell cells W R :=
  { s with devices := Function.update s.devices device (some ((low, high), low)) }

def setMotorForceLimits (force : R) (device : String) (s : Cell cells W R) : Cell cells W R :=
  { s with
    motorForceLimits := Function.update s.motorForceLimits device (some (force, force)) }

end Cell

/-- The set of objects in the work cell and the objects of the bodies are the same. -/
structure SameObjects (s s' : Cell cells W R) : Prop where
  objects : ∀ ptr, ptr ∈ s'.workCell.objects ↔ ptr ∈ s.workCell.objects
  bodies : s'.bodies = s.bodies

namespace Registered

/-- The finger objects are not in the work cell. -/
def OutOfCell (reg : Registered) (s : Cell cells W R) : Prop :=
  ∀ ptr ∈ s.workCell.objects, reg.leftFingerObject ≠ some ptr ∧ reg.rightFingerObject ≠ some ptr

end Registered

section
variable {reg : Registered} {s : Cell cells W R}

/-! ## What the calls do -/

theorem ends_getBase {post : String → Cell cells W R → Prop}
    {fails : Failure → Cell cells W R → Prop} (object : Option Ptr) :
    (Cell.getBase object).Ends post fails s ↔
      match object.bind s.workCell.heap.get with
      | some object => post object.base s
      | none => fails .crashed s := by
  rw [Cell.getBase, Action.ends_bind, Action.ends_get]
  cases object.bind s.workCell.heap.get <;> rfl

/-- A new object is in the work cell afterwards, and nothing leaves it. -/
theorem addFinger_ends (body : Option String) (object : RigidObject Mesh) :
    (Cell.addFinger body object).Ends
      (fun _ s' => body.isSome ∧ s.workCell.heap.objects.length ∈ s'.workCell.objects ∧
        ∀ ptr ∈ s.workCell.objects, ptr ∈ s'.workCell.objects)
      (fun failure _ => failure = .crashed ∧ body = none) s := by
  rw [Cell.addFinger, Action.ends_bind, Action.ends_get, Action.ends_bind, Action.ends_modify]
  cases body with
  | none => exact ⟨rfl, rfl⟩
  | some body =>
    refine ⟨rfl, ?_, ?_⟩
    · exact cells.mem_add.mpr (Or.inr rfl)
    · exact fun ptr hptr => cells.mem_add.mpr (Or.inl hptr)

theorem ends_follow {post : Unit → Cell cells W R → Prop} {fails : Failure → Cell cells W R → Prop}
    (name : Option String) (change : String → Cell cells W R → Cell cells W R) :
    (Cell.follow name change).Ends post fails s ↔
      (∀ frame, name = some frame → post () (change frame s)) ∧
        (name = none → fails .crashed s) := by
  cases name <;> simp [Cell.follow]

/-! ## Without the fingers -/

/-- The cell without the finger objects. -/
def Cell.stripped (s : Cell cells W R) (reg : Registered) (world : W) : Cell cells W R :=
  { s with
    workCell := (s.workCell.removeObject reg.leftFingerObject).removeObject reg.rightFingerObject
    world := world }

/-- Without the finger objects the cell is as before exactly when they were not in it. -/
theorem sameObjects_stripped_iff (world : W) :
    SameObjects s (s.stripped reg world) ↔ reg.OutOfCell s := by
  have hmem (ptr : Ptr) : ptr ∈ (s.stripped reg world).workCell.objects ↔
      ptr ∈ s.workCell.objects ∧ reg.leftFingerObject ≠ some ptr ∧
        reg.rightFingerObject ≠ some ptr := by
    simp only [Cell.stripped, WorkCell.removeObject, WorkCell.objects, cells.mem_removeObject]
    tauto
  constructor
  · intro h ptr hptr
    exact ((hmem ptr).mp ((h.objects ptr).mpr hptr)).2
  · intro h
    refine ⟨fun ptr => ?_, rfl⟩
    rw [hmem ptr]
    exact ⟨fun hptr => hptr.1, fun hptr => ⟨hptr, h ptr hptr⟩⟩

/-- A cell with a new object is not as before. -/
theorem not_sameObjects {s' : Cell cells W R}
    (h : s.workCell.heap.objects.length ∈ s'.workCell.objects) : ¬ SameObjects s s' := by
  intro hsame
  exact absurd (s.workCell.made _ ((hsame.objects _).mp h)) (Nat.lt_irrefl _)

/-! ## Registering again -/

/-- A gripper that has just been registered has no finger object in the cell exactly when it found
none. -/
theorem outOfCell_registered_iff (gripper : GripperData Q) :
    (s.registerWithContext gripper).OutOfCell s ↔
      (s.registerWithContext gripper).leftFingerObject = none ∧
        (s.registerWithContext gripper).rightFingerObject = none := by
  constructor
  · intro h
    constructor
    · by_contra hfound
      obtain ⟨ptr, hptr⟩ := Option.ne_none_iff_exists'.mp hfound
      exact (h ptr (cells.mem_of_findObject hptr).1).1 hptr
    · by_contra hfound
      obtain ⟨ptr, hptr⟩ := Option.ne_none_iff_exists'.mp hfound
      exact (h ptr (cells.mem_of_findObject hptr).1).2 hptr
  · rintro ⟨hleft, hright⟩ ptr _
    rw [hleft, hright]
    simp

/-- Where no finger object was removed, every gripper finds what it found before. -/
theorem registerWithContext_stripped (h : reg.OutOfCell s) (world : W) (gripper : GripperData Q) :
    (s.stripped reg world).registerWithContext gripper = s.registerWithContext gripper := by
  have hleft : cells.removeObject s.workCell.cell reg.leftFingerObject = s.workCell.cell :=
    cells.removeObject_of_forall fun ptr hptr => (h ptr hptr).1
  have hright : cells.removeObject s.workCell.cell reg.rightFingerObject = s.workCell.cell :=
    cells.removeObject_of_forall fun ptr hptr => (h ptr hptr).2
  simp only [Cell.registerWithContext, WorkCell.findObject, Cell.stripped, WorkCell.removeObject,
    hleft, hright]

/-- Every object has a name of its own. -/
def WorkCell.Distinct (wc : WorkCell cells) : Prop :=
  ∀ ptr ∈ wc.objects, ∀ ptr' ∈ wc.objects,
    (wc.heap.get ptr).map RigidObject.base = (wc.heap.get ptr').map RigidObject.base → ptr = ptr'

/-- The object of a name is not found after it has been removed. -/
theorem findObject_of_removed {wc : WorkCell cells} (distinct : wc.Distinct) {name : String}
    {ptr : Ptr} (found : wc.findObject name = some ptr) (wc' : WorkCell cells)
    (heap : wc'.heap = wc.heap)
    (removed : ∀ ptr' ∈ wc'.objects, ptr' ∈ wc.objects ∧ ptr' ≠ ptr) :
    wc'.findObject name = none := by
  obtain ⟨hmem, hname⟩ := cells.mem_of_findObject found
  cases hfound : wc'.findObject name with
  | none => rfl
  | some ptr' =>
    obtain ⟨hmem', hname'⟩ := cells.mem_of_findObject hfound
    rw [heap] at hname'
    obtain ⟨hold, hne⟩ := removed ptr' hmem'
    exact absurd (distinct ptr' hold ptr hmem (hname'.trans hname.symm)) hne

/-- After its finger objects were found and removed, and every object had a name of its own, the
same gripper finds none. -/
theorem registerWithContext_removed (gripper : GripperData Q) (world : W)
    (distinct : s.workCell.Distinct) {left right : Ptr}
    (hleft : (s.registerWithContext gripper).leftFingerObject = some left)
    (hright : (s.registerWithContext gripper).rightFingerObject = some right) :
    ((s.stripped (s.registerWithContext gripper) world).registerWithContext gripper).OutOfCell
      (s.stripped (s.registerWithContext gripper) world) := by
  have hmem {ptr : Ptr}
      (hptr : ptr ∈ (s.stripped (s.registerWithContext gripper) world).workCell.objects) :
      ptr ∈ s.workCell.objects ∧ ptr ≠ left ∧ ptr ≠ right := by
    obtain ⟨hptr, hne⟩ := cells.mem_removeObject.mp hptr
    obtain ⟨hptr, hne'⟩ := cells.mem_removeObject.mp hptr
    refine ⟨hptr, ?_, ?_⟩
    · rintro rfl
      exact hne' hleft
    · rintro rfl
      exact hne hright
  rw [outOfCell_registered_iff]
  constructor
  · exact findObject_of_removed distinct hleft
      (s.stripped (s.registerWithContext gripper) world).workCell rfl
      fun ptr hptr => ⟨(hmem hptr).1, (hmem hptr).2.1⟩
  · exact findObject_of_removed distinct hright
      (s.stripped (s.registerWithContext gripper) world).workCell rfl
      fun ptr hptr => ⟨(hmem hptr).1, (hmem hptr).2.2⟩

end

end Gripperz.Models
