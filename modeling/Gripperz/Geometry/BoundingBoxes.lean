import Gripperz.Geometry.BeamSection
import Gripperz.Library.Extremes

/-! # Bounding boxes of meshes

The six bounds of a mesh start at the origin and are moved by its vertices. They are the bounds of
the vertices together with the origin.
-/
namespace Gripperz.Geometry
open Library

inductive Axis where
  | x
  | y
  | z
  deriving DecidableEq, Repr

/-- The coordinate of a point on an axis. -/
def Axis.of {R : Type} : Axis → R × R × R → R
  | x, p => p.1
  | y, p => p.2.1
  | z, p => p.2.2

namespace AABB
variable {R : Type} [Field R]

/-- Where the face of a box before its middle is. -/
def lower (box : AABB R) (axis : Axis) : R := axis.of box.position - axis.of box.halfLengths

/-- Where the face of a box after its middle is. -/
def upper (box : AABB R) (axis : Axis) : R := axis.of box.position + axis.of box.halfLengths

variable [LinearOrder R]

def Contains (box : AABB R) (p : R × R × R) : Prop :=
  ∀ axis : Axis, box.lower axis ≤ axis.of p ∧ axis.of p ≤ box.upper axis

/-- The box has all points in it, is within every other box that has, and has a point on each of
its faces. -/
structure Tight (points : List (R × R × R)) (box : AABB R) : Prop where
  contains : ∀ p ∈ points, box.Contains p
  smallest : ∀ other : AABB R, (∀ p ∈ points, other.Contains p) →
    ∀ axis, other.lower axis ≤ box.lower axis ∧ box.upper axis ≤ other.upper axis
  touches : ∀ axis : Axis,
    (∃ p ∈ points, axis.of p = box.lower axis) ∧ ∃ p ∈ points, axis.of p = box.upper axis

/-- The coordinates of points on an axis. -/
def coordinates (points : List (R × R × R)) (axis : Axis) : Set R :=
  {c | ∃ p ∈ points, axis.of p = c}

variable {points : List (R × R × R)} {box : AABB R}

theorem tight_iff : box.Tight points ↔ ∀ axis : Axis,
    IsLeast (coordinates points axis) (box.lower axis) ∧
      IsGreatest (coordinates points axis) (box.upper axis) := by
  constructor
  · intro h axis
    refine ⟨⟨(h.touches axis).1, ?_⟩, (h.touches axis).2, ?_⟩
    · rintro _ ⟨p, hp, rfl⟩
      exact (h.contains p hp axis).1
    · rintro _ ⟨p, hp, rfl⟩
      exact (h.contains p hp axis).2
  · intro h
    refine ⟨fun p hp axis => ⟨(h axis).1.2 ⟨p, hp, rfl⟩, (h axis).2.2 ⟨p, hp, rfl⟩⟩, ?_,
      fun axis => ⟨(h axis).1.1, (h axis).2.1⟩⟩
    intro other hother axis
    obtain ⟨p, hp, hlower⟩ := (h axis).1.1
    obtain ⟨q, hq, hupper⟩ := (h axis).2.1
    rw [← hlower, ← hupper]
    exact ⟨(hother p hp axis).1, (hother q hq axis).2⟩

end AABB

/-! ## Meshes -/

structure Triangle (R : Type) where
  v0 : R × R × R
  v1 : R × R × R
  v2 : R × R × R

/-- `TriMesh`: its triangles. -/
abbrev Mesh (R : Type) := List (Triangle R)

def Triangle.vertices {R : Type} (tri : Triangle R) : List (R × R × R) := [tri.v0, tri.v1, tri.v2]

namespace Mesh
variable {R : Type}

def vertices (mesh : Mesh R) : List (R × R × R) := mesh.flatMap Triangle.vertices

/-- The bounds so far. -/
structure Bounds (R : Type) where
  x0 : R
  x1 : R
  y0 : R
  y1 : R
  z0 : R
  z1 : R

variable [Field R] [LinearOrder R]

/-- The tests for one vertex. -/
def Bounds.update (b : Bounds R) (vj : R × R × R) : Bounds R where
  x0 := if vj.1 < b.x0 then vj.1 else b.x0
  x1 := if b.x1 < vj.1 then vj.1 else b.x1
  y0 := if vj.2.1 < b.y0 then vj.2.1 else b.y0
  y1 := if b.y1 < vj.2.1 then vj.2.1 else b.y1
  z0 := if vj.2.2 < b.z0 then vj.2.2 else b.z0
  z1 := if b.z1 < vj.2.2 then vj.2.2 else b.z1

/-- `GeometryUtils::makeAABB`. -/
def makeAABB (mesh : Mesh R) : AABB R :=
  let b := mesh.foldl (fun b tri => tri.vertices.foldl Bounds.update b)
    { x0 := 0, x1 := 0, y0 := 0, y1 := 0, z0 := 0, z1 := 0 }
  let halfLengths := ((b.x1 - b.x0) / 2, (b.y1 - b.y0) / 2, (b.z1 - b.z0) / 2)
  { position := (b.x0 + halfLengths.1, b.y0 + halfLengths.2.1, b.z0 + halfLengths.2.2)
    halfLengths := halfLengths }

omit [Field R] in
theorem foldl_update (points : List (R × R × R)) (b : Bounds R) :
    points.foldl Bounds.update b =
      { x0 := ((points.map fun v => v.1).foldl GeometryUtils.extend (b.x0, b.x1)).1
        x1 := ((points.map fun v => v.1).foldl GeometryUtils.extend (b.x0, b.x1)).2
        y0 := ((points.map fun v => v.2.1).foldl GeometryUtils.extend (b.y0, b.y1)).1
        y1 := ((points.map fun v => v.2.1).foldl GeometryUtils.extend (b.y0, b.y1)).2
        z0 := ((points.map fun v => v.2.2).foldl GeometryUtils.extend (b.z0, b.z1)).1
        z1 := ((points.map fun v => v.2.2).foldl GeometryUtils.extend (b.z0, b.z1)).2 } := by
  induction points generalizing b with
  | nil => rfl
  | cons v points ih =>
    rw [List.foldl_cons, ih]
    rfl

/-- The box of a mesh is that of its vertices. -/
theorem makeAABB_eq (mesh : Mesh R) : mesh.makeAABB = GeometryUtils.makeAABB mesh.vertices := by
  have hloop (b : Bounds R) : mesh.foldl (fun b tri => tri.vertices.foldl Bounds.update b) b =
      mesh.vertices.foldl Bounds.update b := (List.foldl_flatMap ..).symm
  rw [makeAABB, hloop, foldl_update]
  rfl

end Mesh

/-! ## The box and the origin -/

namespace GeometryUtils
variable {R : Type} [Field R] [LinearOrder R]

omit [Field R] in
theorem foldl_extend (values : List R) (start : R × R) :
    values.foldl extend start = (values.foldl min start.1, values.foldl max start.2) := by
  induction values generalizing start with
  | nil => rfl
  | cons v values ih =>
    have hmin : (extend start v).1 = min start.1 v := by
      simp only [extend, min_def]
      grind
    have hmax : (extend start v).2 = max start.2 v := by
      simp only [extend, max_def]
      grind
    rw [List.foldl_cons, ih, hmin, hmax]
    rfl

variable (points : List (R × R × R)) (axis : Axis)

theorem lower_makeAABB : (makeAABB points).lower axis = (bounds (points.map axis.of)).1 := by
  cases axis <;> exact add_sub_cancel_right _ _

variable [IsStrictOrderedRing R]

theorem upper_makeAABB : (makeAABB points).upper axis = (bounds (points.map axis.of)).2 := by
  have hends (b : R × R) : b.1 + half b + half b = b.2 := by
    rw [half, add_assoc, add_halves, add_sub_cancel]
  cases axis <;> exact hends _

omit [IsStrictOrderedRing R] in
theorem isLeast_lower : IsLeast (insert 0 (AABB.coordinates points axis))
    ((makeAABB points).lower axis) := by
  rw [lower_makeAABB, bounds, foldl_extend]
  simpa [AABB.coordinates] using isLeast_foldl_min (points.map axis.of) 0

theorem isGreatest_upper : IsGreatest (insert 0 (AABB.coordinates points axis))
    ((makeAABB points).upper axis) := by
  rw [upper_makeAABB, bounds, foldl_extend]
  simpa [AABB.coordinates] using isGreatest_foldl_max (points.map axis.of) 0

/-- The box is tight around points that lie on both sides of the origin, or in its planes. -/
theorem tight_makeAABB_iff : (makeAABB points).Tight points ↔ ∀ axis : Axis,
    (∃ p ∈ points, axis.of p ≤ 0) ∧ ∃ p ∈ points, 0 ≤ axis.of p := by
  rw [AABB.tight_iff]
  apply forall_congr'
  intro axis
  rw [isLeast_iff_of_insert (isLeast_lower points axis),
    isGreatest_iff_of_insert (isGreatest_upper points axis)]
  simp [AABB.coordinates]

variable {points axis}

/-- The half-length of a box reaches from the least to the greatest coordinate, of which the first
is taken as 0 when it is after the origin and the second when it is before. -/
theorem halfLengths_makeAABB {a b : R} (ha : IsLeast (AABB.coordinates points axis) a)
    (hb : IsGreatest (AABB.coordinates points axis) b) :
    axis.of (makeAABB points).halfLengths = (max 0 b - min 0 a) / 2 := by
  have hlower := (isLeast_lower points axis).unique (ha.insert 0)
  have hupper := (isGreatest_upper points axis).unique (hb.insert 0)
  rw [← hlower, ← hupper, AABB.upper, AABB.lower, add_sub_sub_cancel, add_self_div_two]

end GeometryUtils

namespace Mesh
variable {R : Type} [Field R] [LinearOrder R] [IsStrictOrderedRing R]

/-- The box of a mesh is tight exactly if, on every axis, the mesh has a vertex that is not after
the origin and one that is not before it. -/
theorem tight_iff_around_origin (mesh : Mesh R) : mesh.makeAABB.Tight mesh.vertices ↔
    ∀ axis : Axis, (∃ v ∈ mesh.vertices, axis.of v ≤ 0) ∧ ∃ v ∈ mesh.vertices, 0 ≤ axis.of v := by
  rw [makeAABB_eq, GeometryUtils.tight_makeAABB_iff]

/-- A triangle on both sides of the origin. -/
def across : Mesh ℚ := [{ v0 := (-1, -1, 0), v1 := (1, 1, -1), v2 := (0, 1, 1) }]

theorem tight_iff_around_origin_across : across.makeAABB.Tight across.vertices := by
  apply (tight_iff_around_origin across).mpr
  intro axis
  cases axis <;> decide

/-- A triangle that lies after the origin on every axis. -/
def beside : Mesh ℚ := [{ v0 := (1, 1, 1), v1 := (2, 1, 1), v2 := (1, 2, 3) }]

theorem not_tight_beside : ¬ beside.makeAABB.Tight beside.vertices := by
  rw [makeAABB_eq, GeometryUtils.tight_makeAABB_iff]
  intro h
  obtain ⟨v, hv, hle⟩ := (h .x).1
  revert v
  decide

end Mesh
end Gripperz.Geometry
