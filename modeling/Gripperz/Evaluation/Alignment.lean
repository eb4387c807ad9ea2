import Gripperz.Grasps.Filters
import Gripperz.Library.StdSort

/-! # Alignment of lifted grasps

How much the poses of the lifted objects agree: `ClusteringAlignment` and the points of
`AlignmentIndexCalculator`, which thin out the images of the axes.
-/
namespace Gripperz.Evaluation
open Math Library Grasps

variable {R G V : Type}

/-! ## Lifted grasps -/

/-- Grasps with either success or interference. -/
def isLifted (status : TestStatus) : Bool := status = .success || status = .interference

def liftedTargets (grasps : GraspTask R G V) (results : Results R G V) : List (GraspTarget G V) :=
  grasps.targets.filter fun target => isLifted (results target.result).testStatus

theorem mem_liftedTargets {grasps : GraspTask R G V} {results : Results R G V}
    {target : GraspTarget G V} : target ∈ liftedTargets grasps results ↔
      target ∈ grasps.targets ∧ isLifted (results target.result).testStatus = true := by
  simp [liftedTargets]

section
variable [Group G] [AddCommGroup V] [DistribMulAction G V]

/-- The poses of the objects after the lift. -/
def posesAfter (grasps : GraspTask R G V) (results : Results R G V) : List (Transform3D G V) :=
  (liftedTargets grasps results).map fun target => (results target.result).objectTtcpLift⁻¹

/-- `getVersors`. -/
def getVersors (axis : V) (transforms : List (Transform3D G V)) : List V :=
  transforms.map fun t => t.R • axis

end

variable [Field R] [LinearOrder R]

def pointKey (spatial : Spatial R G V) (p : V) : Q R :=
  ⟨[spatial.coord p 0, spatial.coord p 1, spatial.coord p 2]⟩

/-- The nodes of a list of points, each with the index of its point. -/
def pointNodes (spatial : Spatial R G V) (points : List V) : List (KDNode R ℕ) :=
  points.zipIdx.map fun p => ⟨pointKey spatial p.1, p.2⟩

/-- The nodes near a node: those in the box around it, but for those at the same place. -/
def neighbourNodes (tree : KDTreeQ R ℕ) (radius : R) (nodes : List (KDNode R ℕ))
    (node : KDNode R ℕ) : List ℕ :=
  let diff : Q R := ⟨[radius, radius, radius]⟩
  ((tree.nnSearchRect nodes (node.key - diff) (node.key + diff)).filter fun n =>
    n.key ≠ node.key).map KDNode.value

/-- The share of points that have been filtered out. -/
def alignmentOf (filter : List V → List V) (points : List V) : R :=
  if points.length = 0 then 0 else 1 - 1 * (filter points).length / points.length

/-! ## Clustering -/

namespace ClusteringAlignment

/-- One round of the loop over the nodes; the flags are those of the points. -/
def thinOut (tree : KDTreeQ R ℕ) (radius : R) (nodes : List (KDNode R ℕ)) (filtered : ℕ → Bool)
    (node : KDNode R ℕ) : ℕ → Bool :=
  if filtered node.value ≠ true then
    (neighbourNodes tree radius nodes node).foldl
      (fun filtered n => Function.update filtered n true) filtered
  else filtered

/-- `filterPoints1`: the points that remain. -/
def filterPoints1 (spatial : Spatial R G V) (tree : KDTreeQ R ℕ) (radius : R) (points : List V) :
    List V :=
  let nodes := pointNodes spatial points
  let filtered := nodes.foldl (thinOut tree radius nodes) fun _ => false
  (points.zipIdx.filter fun p => filtered p.2 = false).map Prod.fst

variable [Group G] [AddCommGroup V] [DistribMulAction G V]

/-- `getAxisAlignment1`. -/
def getAxisAlignment1 (spatial : Spatial R G V) (tree : KDTreeQ R ℕ) (axis : V)
    (transforms : List (Transform3D G V)) (radius : R) : R :=
  alignmentOf (filterPoints1 spatial tree radius) (getVersors axis transforms)

/-- The radius is not adjusted to the number of targets. -/
def adjustRadius (radius _ntargets : R) : R := radius

def calculateAlignment (spatial : Spatial R G V) (tree : KDTreeQ R ℕ) (filteringRadius : R)
    (tasks : GraspTask R G V) (results : Results R G V) : R :=
  let ts_after := posesAfter tasks results
  let filtering_radius := adjustRadius filteringRadius ts_after.length
  let x_alignment := getAxisAlignment1 spatial tree spatial.x ts_after filtering_radius
  let y_alignment := getAxisAlignment1 spatial tree spatial.y ts_after filtering_radius
  let z_alignment := getAxisAlignment1 spatial tree spatial.z ts_after filtering_radius
  (x_alignment + y_alignment + z_alignment) / 3

end ClusteringAlignment

/-! ## Points in the order of their neighbours -/

/-- A node with its point and neighbours. -/
structure Point (V : Type) where
  index : ℕ
  point : V
  neighbours : List ℕ
  deriving DecidableEq, Repr

/-- Points with more neighbours come first. -/
def pointSort (n1 n2 : Point V) : Prop := n2.neighbours.length < n1.neighbours.length

/-- `std::remove_if` without an erase: what is kept moves to the front, and what stands
behind it stays as it was. -/
def removeIf {α : Type} (p : α → Bool) (l : List α) : List α :=
  let kept := l.filter fun a => !p a
  kept ++ l.drop kept.length

/-- The neighbours and the flags of the points, by index. -/
structure PointState where
  neighbours : ℕ → List ℕ
  filtered : ℕ → Bool

namespace AlignmentIndexCalculator

/-- One round of the loop over the nodes: all neighbours are marked, and forget the node. -/
def filterNeighbours (state : PointState) (node : Point V) : PointState :=
  (state.neighbours node.index).foldl (fun state p =>
    { neighbours := Function.update state.neighbours p
        (removeIf (fun q => q = node.index) (state.neighbours p))
      filtered := Function.update state.filtered p true }) state

/-- `filterPoints`: the points that remain. -/
def filterPoints (spatial : Spatial R G V) (tree : KDTreeQ R ℕ)
    (sort : StdSort (pointSort (V := V))) (radius : R) (points : List V) : List V :=
  let tree_nodes := pointNodes spatial points
  let found : List (Point V) := points.zipIdx.map fun p =>
    ⟨p.2, p.1, neighbourNodes tree radius tree_nodes ⟨pointKey spatial p.1, p.2⟩⟩
  let nodes := sort.sort found
  let state := nodes.foldl filterNeighbours
    ⟨fun i => (found[i]?.map Point.neighbours).getD [], fun _ => false⟩
  (nodes.filter fun n => state.filtered n.index = false).map Point.point

end AlignmentIndexCalculator
end Gripperz.Evaluation
