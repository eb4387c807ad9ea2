import Mathlib.Algebra.Order.Field.Basic
import Gripperz.Evaluation.Representatives

/-! # Alignment of grasps that agree

The alignment is the share of images that the thinning removes. Images at the same place are
never near each other, so grasps that end in one pose keep all their images.
-/
namespace Gripperz.Evaluation
open Math Library Grasps

variable {R G V : Type} [Field R] [LinearOrder R] [IsStrictOrderedRing R]

/-! ## Filters that thin out -/

/-- A filter of points that drops a point exactly when two of them are near each other. -/
structure Thinner (N : Nearness V) (filter : List V → List V) : Prop where
  length_le : ∀ points, (filter points).length ≤ points.length
  length_eq_iff : ∀ points, (filter points).length = points.length ↔ N.Apart points

namespace Thinner
variable {N : Nearness V} {filter : List V → List V} (thinner : Thinner N filter)
include thinner

theorem alignmentOf_nonneg (points : List V) : 0 ≤ (alignmentOf filter points : R) := by
  rw [alignmentOf]
  split
  · exact le_refl 0
  · rename_i hne
    have hpos : (0 : R) < points.length := by exact_mod_cast Nat.pos_of_ne_zero hne
    have hle : ((filter points).length : R) ≤ points.length := by
      exact_mod_cast thinner.length_le points
    rw [one_mul, sub_nonneg, div_le_one hpos]
    exact hle

theorem alignmentOf_eq_zero_iff (points : List V) :
    (alignmentOf filter points : R) = 0 ↔ N.Apart points := by
  rw [← thinner.length_eq_iff, alignmentOf]
  split
  · rename_i hnone
    have hle := thinner.length_le points
    rw [hnone] at hle ⊢
    simpa using hle
  · rename_i hne
    have hcast : (points.length : R) ≠ 0 := by exact_mod_cast hne
    rw [one_mul, sub_eq_zero, eq_comm, div_eq_one_iff_eq hcast]
    exact Nat.cast_inj

/-- Points at one place are all kept. -/
theorem length_replicate (n : ℕ) (p : V) : (filter (List.replicate n p)).length = n := by
  rw [(thinner.length_eq_iff _).mpr (Nearness.apart_replicate n p), List.length_replicate]

end Thinner

theorem ClusteringAlignment.thinner (spatial : Spatial R G V) (tree : KDTreeQ R ℕ) (radius : R) :
    Thinner (pointNearness spatial radius) (filterPoints1 spatial tree radius) := by
  constructor
  · intro points
    obtain ⟨keep, hfilter, _⟩ := thins_filterPoints1 spatial tree radius points
    rw [hfilter]
    exact List.length_filter_le keep points
  · intro points
    obtain ⟨keep, hfilter, hthins⟩ := thins_filterPoints1 spatial tree radius points
    rw [hfilter, List.length_filter_eq_length_iff]
    exact hthins.all_kept_iff

theorem AlignmentIndexCalculator.thinner (spatial : Spatial R G V) (tree : KDTreeQ R ℕ)
    (sort : StdSort (pointSort (V := V))) (radius : R) :
    Thinner (pointNearness spatial radius) (filterPoints spatial tree sort radius) := by
  have hlength (points : List V) :
      (visits spatial tree sort radius points).length = points.length := by
    rw [perm_visits.length_eq, foundPoints, List.length_map, List.length_zipIdx]
  constructor
  · intro points
    rw [filterPoints_eq, List.length_map, ← hlength points]
    exact List.length_filter_le _ _
  · intro points
    rw [filterPoints_eq, List.length_map]
    conv_lhs => rw [← hlength points]
    rw [List.length_filter_eq_length_iff]
    have hpoint (p : V) (hp : p ∈ points) :
        ∃ n ∈ visits spatial tree sort radius points, n.point = p := exists_visit hp
    constructor
    · intro hall p hp q hq
      obtain ⟨n, hn, rfl⟩ := hpoint p hp
      obtain ⟨m, hm, rfl⟩ := hpoint q hq
      exact not_near_of_head hn hm (of_decide_eq_true (hall n hn)) (of_decide_eq_true (hall m hm))
    · intro hfar n hn
      apply decide_eq_true
      intro q hq hmem
      have hn' := perm_visits.mem_iff.mp hn
      have hq' := perm_visits.mem_iff.mp hq
      have hnear := (near_of_mem_neighbours hn' hq').mp hmem
      exact absurd hnear (hfar _ (point_mem hn') _ (point_mem hq'))

/-! ## Grasps that end in one pose -/

/-- The images of the axes. -/
def axes (spatial : Spatial R G V) : List V := [spatial.x, spatial.y, spatial.z]

variable [Group G] [AddCommGroup V] [DistribMulAction G V]

theorem ClusteringAlignment.calculateAlignment_nonneg (spatial : Spatial R G V)
    (tree : KDTreeQ R ℕ) (radius : R) (grasps : GraspTask R G V) (results : Results R G V) :
    0 ≤ calculateAlignment spatial tree radius grasps results ∧
      (calculateAlignment spatial tree radius grasps results = 0 ↔ ∀ axis ∈ axes spatial,
        (pointNearness spatial radius).Apart (getVersors axis (posesAfter grasps results))) := by
  have hthinner := thinner spatial tree radius
  have hnonneg (axis : V) : 0 ≤
      getAxisAlignment1 spatial tree axis (posesAfter grasps results) radius :=
    hthinner.alignmentOf_nonneg _
  have hzero (axis : V) :
      getAxisAlignment1 spatial tree axis (posesAfter grasps results) radius = 0 ↔
        (pointNearness spatial radius).Apart (getVersors axis (posesAfter grasps results)) :=
    hthinner.alignmentOf_eq_zero_iff _
  have hx := hnonneg spatial.x
  have hy := hnonneg spatial.y
  have hz := hnonneg spatial.z
  simp only [axes, List.forall_mem_cons, List.not_mem_nil, false_implies, implies_true, and_true,
    ← hzero]
  change 0 ≤ (_ + _ + _) / 3 ∧ ((_ + _ + _) / 3 = 0 ↔ _)
  simp only [adjustRadius]
  constructor
  · positivity
  · rw [div_eq_zero_iff, or_iff_left three_ne_zero]
    constructor
    · intro hsum
      refine ⟨?_, ?_, ?_⟩ <;> linarith
    · rintro ⟨h₁, h₂, h₃⟩
      rw [h₁, h₂, h₃, add_zero, add_zero]

theorem AlignmentIndexCalculator.calculate_nonneg (rw : RobWork R G V)
    (positionRadius angleRadius : R) (grasps : GraspTask R G V) (results : Results R G V) :
    0 ≤ calculate rw positionRadius angleRadius grasps results ∧
      (calculate rw positionRadius angleRadius grasps results = 0 ↔
        (pointNearness rw.spatial positionRadius).Apart
          ((posesAfter grasps results).map Transform3D.P) ∧
        ∀ axis ∈ axes rw.spatial, (pointNearness rw.spatial angleRadius).Apart
          (getVersors axis (posesAfter grasps results))) := by
  have hpositions := thinner rw.spatial rw.tree rw.sort positionRadius
  have hangles := thinner rw.spatial rw.tree rw.sort angleRadius
  have hnonneg (axis : V) : 0 ≤ getAxisAlignment rw axis (posesAfter grasps results) angleRadius :=
    hangles.alignmentOf_nonneg _
  have hzero (axis : V) : getAxisAlignment rw axis (posesAfter grasps results) angleRadius = 0 ↔
      (pointNearness rw.spatial angleRadius).Apart
        (getVersors axis (posesAfter grasps results)) :=
    hangles.alignmentOf_eq_zero_iff _
  have hp : 0 ≤ getPositionAlignment rw (posesAfter grasps results) positionRadius :=
    hpositions.alignmentOf_nonneg _
  have hpzero : getPositionAlignment rw (posesAfter grasps results) positionRadius = 0 ↔
      (pointNearness rw.spatial positionRadius).Apart
        ((posesAfter grasps results).map Transform3D.P) :=
    hpositions.alignmentOf_eq_zero_iff _
  have hx := hnonneg rw.spatial.x
  have hy := hnonneg rw.spatial.y
  have hz := hnonneg rw.spatial.z
  simp only [axes, List.forall_mem_cons, List.not_mem_nil, false_implies, implies_true, and_true,
    ← hzero, ← hpzero]
  change 0 ≤ (_ + _ + _ + _) / 4 ∧ ((_ + _ + _ + _) / 4 = 0 ↔ _)
  constructor
  · positivity
  · rw [div_eq_zero_iff, or_iff_left four_ne_zero]
    constructor
    · intro hsum
      refine ⟨?_, ?_, ?_, ?_⟩ <;> linarith
    · rintro ⟨h₁, h₂, h₃, h₄⟩
      rw [h₁, h₂, h₃, h₄, add_zero, add_zero, add_zero]

/-! ## A further grasp that ends in a pose of the others -/

/-- An image is near one that comes first among those before it. -/
def Crowded (spatial : Spatial R G V) (radius : R) (before : List V) (p : V) : Prop :=
  ∃ q ∈ (pointNearness spatial radius).firsts [] before, (pointNearness spatial radius).near q p

omit [Group G] [AddCommGroup V] [DistribMulAction G V] in
/-- A copy adds a point exactly when it is not crowded out. -/
theorem ClusteringAlignment.length_filterPoints1_copy (spatial : Spatial R G V)
    (tree : KDTreeQ R ℕ) (radius : R) (before after : List V) (p : V) :
    (Crowded spatial radius before p →
      (filterPoints1 spatial tree radius (before ++ p :: after)).length ≤
        (filterPoints1 spatial tree radius (before ++ after)).length) ∧
    (p ∈ before → ¬ Crowded spatial radius before p →
      (filterPoints1 spatial tree radius (before ++ p :: after)).length =
        (filterPoints1 spatial tree radius (before ++ after)).length + 1) := by
  simp only [filterPoints1_eq_firsts]
  exact ⟨fun h => (congrArg List.length (Nearness.firsts_insert_of_near h)).le,
    Nearness.length_firsts_insert⟩

/-- A grasp set of successes that end in given poses, and their results. -/
def graspsEnding (poses : List (Transform3D G V)) : GraspTask R G V where
  gripperID := "gripper"
  tcpID := "tcp"
  subTasks := [⟨"world", 1, 1, 1, ⟨[]⟩, (List.range poses.length).map fun i => ⟨1, i⟩⟩]

def resultsEnding (poses : List (Transform3D G V)) : Results R G V := fun ptr =>
  ⟨.success, 0, ⟨[]⟩, ⟨[]⟩, 1, 1, 1, (poses.getD ptr 1)⁻¹, ⟨[]⟩, ⟨[]⟩, [], []⟩

omit [LinearOrder R] [IsStrictOrderedRing R] in
theorem posesAfter_ending (poses : List (Transform3D G V)) :
    posesAfter (graspsEnding poses : GraspTask R G V) (resultsEnding poses) = poses := by
  have htargets : liftedTargets (graspsEnding poses : GraspTask R G V) (resultsEnding poses) =
      (List.range poses.length).map fun i => ⟨1, i⟩ := by
    simp [liftedTargets, graspsEnding, GraspTask.targets, resultsEnding, isLifted]
  rw [posesAfter, htargets]
  apply List.ext_getElem
  · simp
  · intro i h₁ h₂
    simp [resultsEnding, List.getD_eq_getElem?_getD, h₂]

/-- Grasps that end in one pose are aligned no worse than others exactly when no two images of
the others are near each other. -/
theorem same_pose_iff (rw : RobWork R G V) (filteringRadius positionRadius angleRadius : R)
    {same others : GraspTask R G V} {sameResults othersResults : Results R G V} {n : ℕ}
    {pose : Transform3D G V} (hsame : posesAfter same sameResults = List.replicate n pose) :
    (ClusteringAlignment.calculateAlignment rw.spatial rw.tree filteringRadius others
        othersResults ≤
      ClusteringAlignment.calculateAlignment rw.spatial rw.tree filteringRadius same sameResults ↔
        ∀ axis ∈ axes rw.spatial, (pointNearness rw.spatial filteringRadius).Apart
          (getVersors axis (posesAfter others othersResults))) ∧
    (AlignmentIndexCalculator.calculate rw positionRadius angleRadius others othersResults ≤
      AlignmentIndexCalculator.calculate rw positionRadius angleRadius same sameResults ↔
        (pointNearness rw.spatial positionRadius).Apart
          ((posesAfter others othersResults).map Transform3D.P) ∧
        ∀ axis ∈ axes rw.spatial, (pointNearness rw.spatial angleRadius).Apart
          (getVersors axis (posesAfter others othersResults))) := by
  have hsamePosition (N : Nearness V) :
      N.Apart ((posesAfter same sameResults).map Transform3D.P) := by
    rw [hsame, List.map_replicate]
    exact Nearness.apart_replicate n pose.P
  have hsameAxis (N : Nearness V) (axis : V) :
      N.Apart (getVersors axis (posesAfter same sameResults)) := by
    rw [hsame, getVersors, List.map_replicate]
    exact Nearness.apart_replicate n (pose.R • axis)
  constructor
  · have hzero := (ClusteringAlignment.calculateAlignment_nonneg rw.spatial rw.tree
      filteringRadius same sameResults).2.mpr fun axis _ => hsameAxis _ axis
    obtain ⟨hnonneg, hiff⟩ := ClusteringAlignment.calculateAlignment_nonneg rw.spatial rw.tree
      filteringRadius others othersResults
    rw [hzero, ← hiff]
    exact ⟨fun h => le_antisymm h hnonneg, le_of_eq⟩
  · have hzero := (AlignmentIndexCalculator.calculate_nonneg rw positionRadius angleRadius same
      sameResults).2.mpr ⟨hsamePosition _, fun axis _ => hsameAxis _ axis⟩
    obtain ⟨hnonneg, hiff⟩ := AlignmentIndexCalculator.calculate_nonneg rw positionRadius
      angleRadius others othersResults
    rw [hzero, ← hiff]
    exact ⟨fun h => le_antisymm h hnonneg, le_of_eq⟩

/-- The image of a further grasp and all others have none near them, or pass. -/
def AllPassing (spatial : Spatial R G V) (radius : R) (points : List V) (p : V) : Prop :=
  AlignmentIndexCalculator.Passing spatial radius points p ∧ ∀ q ∈ points,
    AlignmentIndexCalculator.around spatial radius points q = [] ∨
      AlignmentIndexCalculator.Passing spatial radius points q

/-- Two poses that turn the axes to places near each other. -/
def nearPoses : List (Transform3D ℤˣ ℚ) := [1, ⟨-1, 0⟩]

end Gripperz.Evaluation
