import Gripperz.Math.Q
import Gripperz.Math.Transform3D

/-! # Task descriptions

What is to be grasped, with which gripper and how it is judged. Frames stand for themselves by
their names; devices act on the kinematic states `S`.
-/
namespace Gripperz.Context
open Math

structure Object where
  name : String
  base : String
  deriving DecidableEq, Repr

structure TreeDevice (R S : Type) where
  name : String
  bounds : Q R × Q R
  setQ : Q R → S → S

structure TaskDescription (R G V S : Type) where
  interferenceLimit : R
  wrenchLimit : R
  stressLimit : R
  volumeLimit : R
  interferenceObjects : List Object
  prefilteringDistance : Q R
  coverageDistance : Q R
  teachDistance : Q R
  targetObject : Object
  targetFrame : String
  gripperID : String
  gripperDevice : TreeDevice R S
  gripperTCP : String
  gripperMovable : String
  controllerID : String
  gripperDynamicDevice : String
  hints : List (Transform3D G V)
  alignmentFilteringDistance : R

end Gripperz.Context
