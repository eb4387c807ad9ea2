import Mathlib.Algebra.Order.Floor.Ring
import Mathlib.Algebra.Order.Floor.Semiring
import Gripperz.Evaluation.Alignment
import Gripperz.Models.Gripper

/-! # Quality index calculators

Every calculator reads the gripper and the grasps. The coverage calculator also rewrites
results: it thins the grasps out with a filter that marks the results it is given.
-/
namespace Gripperz.Evaluation
open Math Library Grasps Gripperz.Geometry Models

/-- What is used of RobWork and of the standard library. -/
structure RobWork (R G V : Type) [Field R] [LinearOrder R] where
  spatial : Spatial R G V
  tree : KDTreeQ R ℕ
  sort : StdSort (pointSort (V := V))

variable {R G V : Type} [Field R] [LinearOrder R]

/-! ## Indices of grasps -/

/-- Successes among the targets that have been simulated and are valid. -/
def successRatio (grasps : GraspTask R G V) (results : Results R G V) : R :=
  let nAllTargets := GraspStatistics.countGraspTargets grasps
  let successes := GraspStatistics.countGraspsWithStatus grasps results .success
  let filtered := GraspStatistics.countGraspsWithStatus grasps results .filtered
  let failures := GraspStatistics.countGraspsWithStatus grasps results .simulationFailure
  let samples := GraspStatistics.countGraspsWithStatus grasps results .skip
  let validTasks : R := (nAllTargets - filtered - failures - samples : ℤ)
  if validTasks = 0 then 0 else 1 * successes / validTasks

/-- The grasps are thinned out by the box, first those that are lifted and then all. -/
def coverageRatio (rw : RobWork R G V) (diff : Q R) (grasps : GraspTask R G V)
    (results : Results R G V) : R × Results R G V :=
  let targets := GraspStatusFilter.filter [.success, .interference] grasps results
  let coverageTargets := KDGraspFilter.filter rw.spatial rw.tree diff targets.1 targets.2
  let coverageSamples := KDGraspFilter.filter rw.spatial rw.tree diff grasps coverageTargets.2
  let okTargets := GraspStatistics.countGraspTargets coverageTargets.1
  let allTargets := GraspStatistics.countGraspTargets coverageSamples.1
  if allTargets = 0 then (0, coverageSamples.2)
  else (1 * okTargets / (allTargets * 1), coverageSamples.2)

/-- The average of a quality measure over the lifted grasps. -/
def averageWrench (measure : ℕ) (grasps : GraspTask R G V) (results : Results R G V) : R :=
  let wrenches := (liftedTargets grasps results).map fun target =>
    (results target.result).qualityAfterLifting.get measure
  let successes := wrenches.length
  if successes = 0 then 0 else wrenches.sum / successes

namespace SuccessIndexCalculator

def calculate (grasps : GraspTask R G V) (results : Results R G V) : R :=
  successRatio grasps results

end SuccessIndexCalculator

namespace SignificanceIndexCalculator

def calculate (grasps : GraspTask R G V) (results : Results R G V) : R :=
  let all_tasks := GraspStatistics.countGraspTargets grasps -
    GraspStatistics.countGraspsWithStatus grasps results .skip
  let successes := GraspStatistics.countGraspsWithStatus grasps results .success
  let interferences := GraspStatistics.countGraspsWithStatus grasps results .interference
  let valid_tasks : R := (successes + interferences : ℤ)
  1 * valid_tasks / all_tasks

end SignificanceIndexCalculator

namespace CoverageIndexCalculator

def filteringBox (spatial : Spatial R G V) (positionFilteringRadius angleFilteringRadius : R) :
    Q R :=
  let r := 2 * spatial.sin (1 / 4 * angleFilteringRadius)
  ⟨[positionFilteringRadius, positionFilteringRadius, positionFilteringRadius, r, r, r,
    angleFilteringRadius]⟩

def calculate (rw : RobWork R G V) (positionFilteringRadius angleFilteringRadius : R)
    (grasps : GraspTask R G V) (results : Results R G V) : R × Results R G V :=
  coverageRatio rw (filteringBox rw.spatial positionFilteringRadius angleFilteringRadius) grasps
    results

end CoverageIndexCalculator

namespace WrenchIndexCalculator

def calculate (grasps : GraspTask R G V) (results : Results R G V) : R :=
  averageWrench 1 grasps results

end WrenchIndexCalculator

section
variable [Group G] [AddCommGroup V] [DistribMulAction G V]

namespace AlignmentIndexCalculator

def getAxisAlignment (rw : RobWork R G V) (axis : V) (transforms : List (Transform3D G V))
    (radius : R) : R :=
  alignmentOf (filterPoints rw.spatial rw.tree rw.sort radius) (getVersors axis transforms)

def getPositionAlignment (rw : RobWork R G V) (transforms : List (Transform3D G V)) (radius : R) :
    R :=
  alignmentOf (filterPoints rw.spatial rw.tree rw.sort radius) (transforms.map Transform3D.P)

def calculate (rw : RobWork R G V) (positionFilteringRadius angleFilteringRadius : R)
    (grasps : GraspTask R G V) (results : Results R G V) : R :=
  let ts_after := posesAfter grasps results
  let p_alignment := getPositionAlignment rw ts_after positionFilteringRadius
  let x_alignment := getAxisAlignment rw rw.spatial.x ts_after angleFilteringRadius
  let y_alignment := getAxisAlignment rw rw.spatial.y ts_after angleFilteringRadius
  let z_alignment := getAxisAlignment rw rw.spatial.z ts_after angleFilteringRadius
  (p_alignment + x_alignment + y_alignment + z_alignment) / 4

end AlignmentIndexCalculator

namespace VarianceAlignmentCalculator

/-- The alignment of a mean deviation against the deviation of uniform noise. -/
def deviationAlignment (spatial : Spatial R G V) (dev uncertainty : R) : R :=
  let dev_expected := 2 * uncertainty / spatial.sqrt 12
  let alignment := 1 - dev / dev_expected
  if alignment < 0 then 0 else alignment

def calculate (rw : RobWork R G V) (positionUncertainty angleUncertainty : R)
    (grasps : GraspTask R G V) (results : Results R G V) : R :=
  let poses := posesAfter grasps results
  if poses.length = 0 then 0
  else
    let stddev (f : Transform3D G V → R) := rw.spatial.sqrt (rw.spatial.variance (poses.map f))
    let position (i : ℕ) := stddev fun pose => rw.spatial.coord pose.P i
    let rotation (i : ℕ) := stddev fun pose => rw.spatial.rpy pose.R i
    let pos_dev := (position 0 + position 1 + position 2) / 3
    let angle_dev := (rotation 0 + rotation 1 + rotation 2) / 3
    let pos_alignment := deviationAlignment rw.spatial pos_dev positionUncertainty
    let angle_alignment := deviationAlignment rw.spatial angle_dev angleUncertainty
    (pos_alignment + angle_alignment) / 2

end VarianceAlignmentCalculator
end

/-! ## Indices of the gripper -/

namespace StressIndexCalculator

/-- The beam of a finger that holds with a force at its end. -/
def loaded (force : R) (mesh : TriMesh R) : EulerBeam R :=
  (((EulerBeam.makeBeam mesh).addMoment (-force * mesh.length) 0).addForce force 0).addForce
    (-force) mesh.length

/-- `Resolution`. -/
def resolution : R := 1 / 1000

/-- The positions the loop visits when it counts exactly: multiples of the resolution up to the
length. -/
def positions [FloorRing R] (length : R) : List R :=
  (List.range (⌊length / resolution⌋ + 1).toNat).map fun k => k * resolution

/-- The largest stress of a finger or of what was looked at before. -/
def maxStress [FloorRing R] (force : R) (max_stress : R) (mesh : TriMesh R) : R :=
  (positions mesh.length).foldl (fun max_stress x =>
    let stress := (loaded force mesh).stress x
    if max_stress < stress then stress else max_stress) max_stress

def calculate [FloorRing R] (stressLimit : R) (gripper : Gripper R) : R :=
  let force := gripper.motorForceLimits.get 0
  let max_stress := maxStress force (maxStress force 0 gripper.leftFinger) gripper.rightFinger
  let stress_index := 1 - max_stress / 1000000 / stressLimit
  if stress_index < 0 then 0 else stress_index

end StressIndexCalculator

namespace VolumeIndexCalculator

def calculate (volumeLimit : R) (gripper : Gripper R) : R :=
  let finger_volume := 1000000 * gripper.leftFinger.volume + 1000000 * gripper.rightFinger.volume
  let volumeIndex := 1 - finger_volume / volumeLimit
  if volumeIndex < 0 then 0 else volumeIndex

end VolumeIndexCalculator

/-! ## All calculators -/

inductive QualityIndexCalculator (R : Type) where
  | success
  | robustness
  | significance
  | coverage (positionFilteringRadius angleFilteringRadius : R)
  | wrench
  | alignment (positionFilteringRadius angleFilteringRadius : R)
  | varianceAlignment (positionUncertainty angleUncertainty : R)
  | stress (stressLimit : R)
  | volume (volumeLimit : R)

namespace QualityIndexCalculator
variable [FloorRing R] [Group G] [AddCommGroup V] [DistribMulAction G V]

/-- The value, and the results afterwards. -/
def calculate (rw : RobWork R G V) (gripper : Gripper R) (grasps : GraspTask R G V)
    (results : Results R G V) : QualityIndexCalculator R → R × Results R G V
  | success => (SuccessIndexCalculator.calculate grasps results, results)
  | robustness => (0, results)
  | significance => (SignificanceIndexCalculator.calculate grasps results, results)
  | coverage positionFilteringRadius angleFilteringRadius =>
    CoverageIndexCalculator.calculate rw positionFilteringRadius angleFilteringRadius grasps results
  | wrench => (WrenchIndexCalculator.calculate grasps results, results)
  | alignment positionFilteringRadius angleFilteringRadius =>
    (AlignmentIndexCalculator.calculate rw positionFilteringRadius angleFilteringRadius grasps
      results, results)
  | varianceAlignment positionUncertainty angleUncertainty =>
    (VarianceAlignmentCalculator.calculate rw positionUncertainty angleUncertainty grasps results,
      results)
  | stress stressLimit => (StressIndexCalculator.calculate stressLimit gripper, results)
  | volume volumeLimit => (VolumeIndexCalculator.calculate volumeLimit gripper, results)

end QualityIndexCalculator
end Gripperz.Evaluation
