import Mathlib.Algebra.Order.Field.Rat
import Mathlib.Data.Prod.Basic
import Gripperz.Geometry.EulerBeam
import Gripperz.Library.Numerals

/-! # Sections of beams

The section of a beam comes from a thin slice of its mesh. The solids, their volumes and
their inertia are those of RobWork.
-/
namespace Gripperz.Geometry

/-- Meshes and their boolean operations. -/
structure CSG (S R : Type) where
  /-- The corners of the triangles of a mesh. -/
  corners : S → List (R × R × R)
  /-- `CSGModelFactory::makeBox`. -/
  makeBox : R → R → R → S
  translate : R → R → R → S → S
  intersect : S → S → S
  /-- `GeometryUtil::estimateVolume`. -/
  estimateVolume : S → R
  /-- `GeometryUtil::estimateCOG`. -/
  estimateCOG : S → R × R × R
  /-- `GeometryUtil::estimateInertia` of a mass, about the point the solid is moved from. -/
  estimateInertia : R → S → R × R × R → ℕ → ℕ → R

/-! ## Bounding boxes -/

structure AABB (R : Type) where
  position : R × R × R
  halfLengths : R × R × R

namespace GeometryUtils
variable {R : Type} [Field R] [LinearOrder R]

/-- The least and the greatest coordinate so far. -/
def extend (bounds : R × R) (v : R) : R × R :=
  (if v < bounds.1 then v else bounds.1, if bounds.2 < v then v else bounds.2)

/-- The bounds of a coordinate start at the origin. -/
def bounds (values : List R) : R × R := values.foldl extend (0, 0)

def half (bounds : R × R) : R := (bounds.2 - bounds.1) / 2

def makeAABB (corners : List (R × R × R)) : AABB R :=
  let x := bounds (corners.map fun v => v.1)
  let y := bounds (corners.map fun v => v.2.1)
  let z := bounds (corners.map fun v => v.2.2)
  { position := (x.1 + half x, y.1 + half y, z.1 + half z)
    halfLengths := (half x, half y, half z) }

omit [Field R] in
theorem foldl_extend_snd {values : List R} {start : R × R} {L : R} (hstart : start.2 ≤ L)
    (hle : ∀ v ∈ values, v ≤ L) (hreach : start.2 = L ∨ L ∈ values) :
    (values.foldl extend start).2 = L := by
  induction values generalizing start with
  | nil =>
    cases hreach with
    | inl h => exact h
    | inr h => cases h
  | cons v values ih =>
    have hv : v ≤ L := hle v List.mem_cons_self
    have hnext : (extend start v).2 = max start.2 v := by
      simp only [extend, max_def]
      split_ifs with h1 h2 h2
      · rfl
      · exact absurd h1.le h2
      · exact le_antisymm h2 (not_lt.mp h1)
      · rfl
    rw [List.foldl_cons]
    apply ih
    · rw [hnext]
      exact max_le hstart hv
    · exact fun w hw => hle w (List.mem_cons_of_mem v hw)
    · rw [hnext]
      cases hreach with
      | inl h => exact Or.inl (by rw [h, max_eq_left hv])
      | inr h =>
        cases List.mem_cons.mp h with
        | inl hlast => exact Or.inl (by rw [← hlast, max_eq_right hstart])
        | inr hrest => exact Or.inr hrest

variable [IsStrictOrderedRing R]

/-- Where the box of a mesh ends: at the greatest coordinate, which is not negative. -/
theorem makeAABB_end {corners : List (R × R × R)} {L : R} (h0 : 0 ≤ L)
    (hle : ∀ c ∈ corners, c.1 ≤ L) (hreach : ∃ c ∈ corners, c.1 = L) :
    (makeAABB corners).position.1 + (makeAABB corners).halfLengths.1 = L := by
  have hend : (bounds (corners.map fun v => v.1)).2 = L := by
    apply foldl_extend_snd h0
    · simpa using fun a b c h => hle (a, b, c) h
    · obtain ⟨c, hc, hlast⟩ := hreach
      exact Or.inr (List.mem_map.mpr ⟨c, hc, hlast⟩)
  simp only [makeAABB, half]
  rw [add_assoc, add_halves, add_sub_cancel, hend]

end GeometryUtils

/-! ## Slices -/

namespace EulerBeam
variable {R : Type} [Field R]

/-- `sliceDepth`. -/
def sliceDepth : R := 1 / 1000

/-- `sliceSize`. -/
def sliceSize : R := 1000

variable [LinearOrder R]

/-- The ends of the beam are adjusted for by what of the slice lies beyond them. -/
def adjustForEnds (sliceDepth left_overlap right_overlap area : R) : R :=
  let area := if 0 < left_overlap then area * (sliceDepth / left_overlap) else area
  if 0 < right_overlap then area * (sliceDepth / right_overlap) else area

end EulerBeam

namespace CSG
open EulerBeam GeometryUtils
variable {S R : Type} [Field R] [LinearOrder R] (csg : CSG S R)

/-- `beam_length`, and the length of a finger. -/
def length (mesh : S) : R :=
  let aabb := makeAABB (csg.corners mesh)
  aabb.position.1 + aabb.halfLengths.1

/-- The part of a mesh within a slice. -/
def slice (sliceDepth : R) (mesh : S) (x : R) : S :=
  csg.intersect mesh (csg.translate x 0 0 (csg.makeBox sliceDepth sliceSize sliceSize))

/-- `area` as it is used, after the ends of the beam. -/
def adjustedArea (sliceDepth left_overlap right_overlap : R) (mesh : S) (x : R) : R :=
  adjustForEnds sliceDepth left_overlap right_overlap
    (csg.estimateVolume (csg.slice sliceDepth mesh x) / sliceDepth)

/-- All numbers are exact. -/
def calculateHOverI (mesh : S) (x : R) : R :=
  let slice := csg.slice sliceDepth mesh x
  let h := (makeAABB (csg.corners slice)).halfLengths.2.2
  let area := csg.estimateVolume slice / sliceDepth
  if area = 0 then 0
  else
    let slice_x0 := x - sliceDepth / 2
    let slice_x1 := x + sliceDepth / 2
    let left_overlap := -slice_x0
    let right_overlap := slice_x1 - csg.length mesh
    let area := csg.adjustedArea sliceDepth left_overlap right_overlap mesh x
    let cog := csg.estimateCOG slice
    let I := csg.estimateInertia area slice (-cog.1, -cog.2.1, -cog.2.2)
    let Iyy := I 1 1
    h / Iyy

/-- A mesh as beams and calculators see it. -/
def triMesh (mesh : S) : TriMesh R where
  length := csg.length mesh
  volume := csg.estimateVolume mesh
  calculateHOverI := csg.calculateHOverI mesh

end CSG
end Gripperz.Geometry
