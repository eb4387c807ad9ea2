import Mathlib.Algebra.Module.Defs
import Mathlib.Algebra.Order.Field.Basic
import Gripperz.Grasps.Types

/-! # The work cell

What the simulator reads of the dynamic work cell: kinematics, collisions, the hand and
the contact sensors, each as a function of the kinematic state `S`. Frames and bodies
are named by their frames; the grasp measures and the collision test are parameters.
-/
namespace Gripperz.Simulation
open Math Grasps

structure SuctionCup (S : Type) where
  isClosed : S → Bool
  contactBody : S → String

/-- The hand: a dynamic device and its kinematic model. -/
structure Device (R S : Type) where
  base : String
  /-- It can be cast to `RigidDevice`; a suction cup cannot. -/
  isRigidDevice : Bool
  /-- The movable frame of a kinematic or a rigid base. -/
  movableFrame : Option String
  suctionCup : Option (SuctionCup S)
  getQ : S → Q R
  setQ : Q R → S → S
  bounds : Q R × Q R
  /-- The limits when the hand is loaded. -/
  motorForceLimits : Q R
  isResting : S → Bool
  /-- The frame is one of the tree below the base, or the base. -/
  hasFrame : String → S → Bool

structure WorkCell (R G V S : Type) where
  rigidBodies : List String
  findDevice : String → Option (Device R S)
  /-- `findFrame` finds a frame of this name. -/
  hasFrame : String → Bool
  worldTframe : String → S → Transform3D G V
  frameTframe : String → String → S → Transform3D G V
  parent : String → S → String
  getTransform : String → S → Transform3D G V
  setTransform : String → Transform3D G V → S → S
  inCollision : S → Bool
  collidingFrames : S → List (String × String)
  getContacts : String → S → List (Contact3D R V)
  getBodies : String → S → List (Option String)
  friction : String → String → R
  /-- The smallest and the average wrench and the distance measure of a grasp. -/
  graspMeasures : S → String → List (Contact3D R V) → R × R × R
  norm2 : V → R

structure GraspedObject (R V : Type) where
  object : Option String
  contacts : List (Contact3D R V)
  bodies : List String

namespace WorkCell
variable {R G V S : Type}

/-- `getObjectContacts` of one object: its contacts with bodies of the hand, and these
bodies. -/
def objectContacts (wc : WorkCell R G V S) (hand : Device R S) (state : S) (object : String) :
    List (Contact3D R V) × List String :=
  ((wc.getBodies object state).zip (wc.getContacts object state)).foldl
    (fun res reading => match reading.1 with
      | none => res
      | some body =>
        if hand.hasFrame body state then
          (res.1 ++ [{ reading.2 with mu := wc.friction object body }],
            if body ∈ res.2 then res.2 else res.2 ++ [body])
        else res)
    ([], [])

/-- `getObjectContacts` of all objects: the first of those with the most contacts. -/
def getObjectContacts (wc : WorkCell R G V S) (hand : Device R S) (objects : List String)
    (state : S) : GraspedObject R V :=
  let result := (objects.map fun object =>
    let found := wc.objectContacts hand state object
    (⟨some object, found.1, found.2⟩ : GraspedObject R V)).filter fun o => 0 < o.contacts.length
  match result with
  | [] => ⟨none, [], []⟩
  | first :: rest =>
    rest.foldl (fun best o => if best.contacts.length < o.contacts.length then o else best) first

/-- `NR_OF_QUALITY_MEASURES`. -/
def nrOfQualityMeasures : ℕ := 3

def calcGraspQuality [Zero R] (wc : WorkCell R G V S) (hand : Device R S) (objects : List String)
    (state : S) : Q R :=
  let gobj := wc.getObjectContacts hand objects state
  match gobj.object with
  | none => .fill nrOfQualityMeasures 0
  | some object =>
    if gobj.contacts.length = 0 then .fill nrOfQualityMeasures 0
    else
      let measures := wc.graspMeasures state object gobj.contacts
      ⟨[measures.1, measures.2.1, measures.2.2]⟩

theorem size_calcGraspQuality [Zero R] (wc : WorkCell R G V S) (hand : Device R S)
    (objects : List String) (state : S) :
    (wc.calcGraspQuality hand objects state).size = nrOfQualityMeasures := by
  simp only [calcGraspQuality]
  cases (wc.getObjectContacts hand objects state).object with
  | none => exact Q.size_fill _ _
  | some object =>
    simp only
    split
    · exact Q.size_fill _ _
    · rfl

end WorkCell
end Gripperz.Simulation
