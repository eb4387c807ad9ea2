import Mathlib.Algebra.Order.Field.Basic

/-! # Beams

A beam along the x axis with forces and moments on it. The section of the beam comes from
its mesh: `calculateHOverI` is a parameter.
-/
namespace Gripperz.Geometry

/-- What is read of the mesh of a finger. -/
structure TriMesh (R : Type) where
  /-- `getPosition()[0] + getHalfLengths()[0]` of its bounding box. -/
  length : R
  /-- `GeometryUtil::estimateVolume`. -/
  volume : R
  /-- `EulerBeam::calculateHOverI`. -/
  calculateHOverI : R → R

/-- `Beam::Force` and `Beam::Moment`. -/
structure Load (R : Type) where
  magnitude : R
  position : R
  deriving DecidableEq, Repr

structure EulerBeam (R : Type) where
  beamMesh : TriMesh R
  forces : List (Load R)
  moments : List (Load R)

namespace EulerBeam
variable {R : Type}

/-- `BeamFactory::makeBeam`. -/
def makeBeam (mesh : TriMesh R) : EulerBeam R := ⟨mesh, [], []⟩

def addMoment (magnitude position : R) (beam : EulerBeam R) : EulerBeam R :=
  { beam with moments := beam.moments ++ [⟨magnitude, position⟩] }

def addForce (magnitude position : R) (beam : EulerBeam R) : EulerBeam R :=
  { beam with forces := beam.forces ++ [⟨magnitude, position⟩] }

variable [Field R] [LinearOrder R]

/-- The loads at positions up to `x`, forces with their levers. -/
def moment (beam : EulerBeam R) (x : R) : R :=
  let M := beam.moments.foldl
    (fun M moment => if moment.position ≤ x then M + moment.magnitude else M) 0
  beam.forces.foldl (fun M force =>
    if force.position ≤ x then
      let lever := x - force.position
      M + force.magnitude * lever
    else M) M

def stress (beam : EulerBeam R) (x : R) : R :=
  let hOverI := beam.beamMesh.calculateHOverI x
  |beam.moment x| * hOverI

end EulerBeam
end Gripperz.Geometry
