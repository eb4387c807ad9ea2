import Mathlib.Algebra.Order.AbsoluteValue.Basic
import Mathlib.Algebra.Order.Field.Basic
import Mathlib.Algebra.Order.Floor.Ring
import Mathlib.Tactic.FieldSimp
import Mathlib.Tactic.Linarith
import Mathlib.Tactic.Ring
import Gripperz.Library.Numerals
import Gripperz.Models.ParametrizedGripper

/-! # Grippers of the old class

Their fingers are boxes with a chamfered tip and a wedge cut out at the tool centre point.
-/
namespace Gripperz.Models

structure OldGripper (Q R : Type) extends GripperData Q where
  length : R
  width : R
  depth : R
  chfdepth : R
  chfangle : R
  cutdepth : R
  cutangle : R
  cuttilt : R
  tcpoffset : R
  jawdist : R
  stroke : R
  force : R
  basex : R
  basey : R
  basez : R
  deriving DecidableEq, Repr

/-- The tangent, and the constant angles are converted with. -/
structure Tangent (R : Type) where
  deg2Rad : R
  tan : R → R

namespace OldGripper
variable {Q R : Type} [Field R] [LinearOrder R] (tangent : Tangent R) (gripper : OldGripper Q R)

/-- `tan(Deg2Rad * _chfangle)`. -/
def chamfer : R := tangent.tan (tangent.deg2Rad * gripper.chfangle)

/-- `tan(Deg2Rad * _cutangle / 2.0)`. -/
def wedge : R := tangent.tan (tangent.deg2Rad * gripper.cutangle / 2)

/-- The width at a position, considering the chamfer. -/
def chamferedWidth (x : R) : R :=
  let lwidth := gripper.width
  let d := gripper.length - gripper.chfdepth * gripper.width * gripper.chamfer tangent
  if d < x then gripper.width - (x - d) * 1 / gripper.chamfer tangent else lwidth

def isSane : Bool :=
  if gripper.length = 0 ∨ gripper.width = 0 ∨ gripper.depth = 0 then false
  else if gripper.length ≤ gripper.tcpoffset then false
  else if gripper.width ≤ gripper.cutdepth then false
  else
    let x := gripper.length - gripper.tcpoffset
    let lwidth := gripper.chamferedWidth tangent x
    if lwidth ≤ gripper.cutdepth then false else true

/-- The width of the finger at a distance from the base, chamfer and cut taken off. -/
def getCrossHeight (x : R) : R :=
  if gripper.length < x then 0
  else
    let lwidth := gripper.chamferedWidth tangent x
    let cutpos := gripper.length - gripper.tcpoffset
    let cutdist := |x - cutpos|
    let lwidth := if cutdist < gripper.cutdepth * gripper.wedge tangent then
        lwidth - (gripper.cutdepth -
          cutdist * tangent.tan (157 / 100 - tangent.deg2Rad * gripper.cutangle / 2))
      else lwidth
    if lwidth < 0 then 0 else lwidth

/-- The section modulus a stress is divided by. -/
def divisor (x : R) : R :=
  let h := 100 * gripper.getCrossHeight tangent x
  let b := 100 * gripper.depth
  b * h * h

/-- The stress at a position. What is divided by zero is infinite, or not a number. -/
def sigma (x : R) : R :=
  let M := (gripper.length - x) * gripper.force
  if gripper.divisor tangent x = 0 then if 6 * M = 0 then 0 else 1000000
  else 6 * M / gripper.divisor tangent x

/-- The positions the loop visits: multiples of a thousandth up to the length. -/
def stressPositions [FloorRing R] : List R :=
  (List.range (⌈gripper.length / (1 / 1000)⌉ - 1).toNat).map fun k => (k + 1 : ℕ) * (1 / 1000)

def getMaxStress [FloorRing R] : R :=
  gripper.stressPositions.foldl (fun sigmaMax x =>
    let sigma := gripper.sigma tangent x
    if sigmaMax < sigma then sigma else sigmaMax) 0

end OldGripper
end Gripperz.Models
