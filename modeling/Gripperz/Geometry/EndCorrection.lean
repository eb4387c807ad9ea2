import Mathlib.Tactic.FieldSimp
import Gripperz.Geometry.BeamSection
import Gripperz.Library.FloatNumbers
import Gripperz.Library.Prism

/-! # The ends of a beam

A slice at an end of a prismatic beam is thinner than the others. The correction scales its
area by the part beyond the end in place of the part within.
-/
namespace Gripperz.Geometry
open MeasureTheory Set Library EulerBeam

/-! ## The correction -/

namespace EulerBeam

/-- `sliceDepth` as a double. -/
def depth : ℚ := binary64.round (1 / 1000)

/-- `left_overlap`. Halving a double is exact. -/
def leftOverlap (x : ℚ) : ℚ := -binary64.round (x - depth / 2)

/-- `right_overlap`. -/
def rightOverlap (beam_length x : ℚ) : ℚ :=
  binary64.round (binary64.round (x + depth / 2) - beam_length)

theorem depth_pos : 0 < depth := by decide +kernel

@[simp] theorem round_depth : binary64.round depth = depth := FloatFormat.round_round _

theorem leftOverlap_zero : leftOverlap 0 = depth / 2 := by decide +kernel

theorem leftOverlap_nonpos {x : ℚ} (h : depth ≤ x) : leftOverlap x ≤ 0 := by
  apply neg_nonpos_of_nonneg
  apply FloatFormat.round_nonneg
  linarith [depth_pos]

/-- A slice that ends within the beam is not taken to end beyond it. -/
theorem rightOverlap_nonpos {L : binary64.Value} {x : ℚ} (h : x + depth / 2 ≤ L.value) :
    rightOverlap L.value x ≤ 0 := by
  have hend : binary64.round (x + depth / 2) ≤ binary64.round L.value := FloatFormat.round_mono h
  rw [L.round_value] at hend
  exact FloatFormat.round_nonpos (sub_nonpos.mpr hend)

/-- A sample at which the correction leaves a section of the right size: the first one, one whose
slice ends within the beam, or one at the tip where the part of the slice beyond is taken to be
as long as the part within. -/
def Clear (beam_length x : ℚ) : Prop :=
  x = 0 ∨ x + depth / 2 ≤ beam_length ∨
    rightOverlap beam_length x = depth / 2 + (beam_length - x)

instance (beam_length x : ℚ) : Decidable (Clear beam_length x) :=
  inferInstanceAs (Decidable (_ ∨ _ ∨ _))

/-- The length of the part of a slice within a beam. -/
def inside (beam_length x : ℚ) : ℚ := min beam_length (x + depth / 2) - max 0 (x - depth / 2)

/-- The corrected area of a slice against the section. -/
def endRatio (beam_length x : ℚ) : ℚ :=
  adjustForEnds depth (leftOverlap x) (rightOverlap beam_length x) (inside beam_length x / depth)

theorem endRatio_zero {L : binary64.Value} (hL : depth ≤ L.value) : endRatio L.value 0 = 1 := by
  have hd := depth_pos
  have hright := rightOverlap_nonpos (L := L) (x := 0) (by linarith)
  have hinside : inside L.value 0 = depth / 2 := by
    rw [inside, min_eq_right (by linarith), max_eq_left (by linarith)]
    ring
  rw [endRatio, adjustForEnds, if_neg hright.not_gt, leftOverlap_zero, if_pos (half_pos hd),
    hinside]
  field_simp

theorem endRatio_eq_one_iff {L : binary64.Value} {x : ℚ} (h0 : depth ≤ x) (hx : x ≤ L.value) :
    endRatio L.value x = 1 ↔ Clear L.value x := by
  have hd := depth_pos
  have hne : x ≠ 0 := (hd.trans_le h0).ne'
  have hfront : max 0 (x - depth / 2) = x - depth / 2 := max_eq_right (by linarith)
  rw [endRatio, adjustForEnds, if_neg (leftOverlap_nonpos h0).not_gt, Clear, or_iff_right hne]
  rcases le_or_gt (x + depth / 2) L.value with hwithin | hbeyond
  · have hinside : inside L.value x = depth := by
      rw [inside, hfront, min_eq_right hwithin]
      ring
    rw [if_neg (rightOverlap_nonpos hwithin).not_gt, hinside, div_self hd.ne']
    exact iff_of_true rfl (Or.inl hwithin)
  · have hinside : inside L.value x = depth / 2 + (L.value - x) := by
      rw [inside, hfront, min_eq_left hbeyond.le]
      ring
    have hpos : 0 < depth / 2 + (L.value - x) := by linarith
    rw [or_iff_right hbeyond.not_ge, hinside]
    split_ifs with hright
    · rw [div_mul_div_cancel₀ hd.ne', div_eq_one_iff_eq hright.ne', eq_comm]
    · rw [div_eq_one_iff_eq hd.ne']
      refine iff_of_false ?_ ?_
      · intro hsame
        linarith
      · intro hsame
        exact hright (hsame ▸ hpos)

end EulerBeam

/-! ## Exact solids -/

/-- Solids are sets of points, cut and measured exactly. The corners of a mesh are points of
it, and it reaches no further along the beam than they do. -/
structure CSG.Exact {S : Type} (csg : CSG S ℝ) (solid : S → Set (ℝ × ℝ × ℝ)) : Prop where
  corner : ∀ mesh, ∀ c ∈ csg.corners mesh, c ∈ solid mesh
  reach : ∀ mesh, ∀ p ∈ solid mesh, ∃ c ∈ csg.corners mesh, p.1 ≤ c.1
  makeBox : ∀ x y z, solid (csg.makeBox x y z) =
    prism (-(x / 2)) (x / 2) (Icc (-(y / 2)) (y / 2) ×ˢ Icc (-(z / 2)) (z / 2))
  translate : ∀ x y z mesh, solid (csg.translate x y z mesh) =
    {p | (p.1 - x, p.2.1 - y, p.2.2 - z) ∈ solid mesh}
  intersect : ∀ mesh probe, solid (csg.intersect mesh probe) = solid mesh ∩ solid probe
  estimateVolume : ∀ mesh, csg.estimateVolume mesh = volume.real (solid mesh)

/-- What the probe sees of a section. -/
def probeWindow : Set (ℝ × ℝ) :=
  Icc (-(sliceSize / 2)) (sliceSize / 2) ×ˢ Icc (-(sliceSize / 2)) (sliceSize / 2)

namespace CSG.Exact
variable {S : Type} {csg : CSG S ℝ} {solid : S → Set (ℝ × ℝ × ℝ)} (exact : csg.Exact solid)
include exact

theorem solid_slice (d : ℝ) (mesh : S) (x : ℝ) : solid (csg.slice d mesh x) =
    solid mesh ∩ prism (x - d / 2) (x + d / 2) probeWindow := by
  rw [slice, exact.intersect, exact.translate, exact.makeBox]
  congr 1
  ext p
  simp only [prism, probeWindow, mem_ofPred_eq, mem_prod, mem_Icc, sub_zero]
  have hlow : -(d / 2) ≤ p.1 - x ↔ x - d / 2 ≤ p.1 := by
    constructor <;> intro h <;> linarith
  have hhigh : p.1 - x ≤ d / 2 ↔ p.1 ≤ x + d / 2 := by
    constructor <;> intro h <;> linarith
  rw [hlow, hhigh]

variable {mesh : S} {L : ℝ} {profile : Set (ℝ × ℝ)} (hsolid : solid mesh = prism 0 L profile)
include hsolid

theorem length_eq (h0 : 0 ≤ L) (hprofile : profile.Nonempty) : csg.length mesh = L := by
  obtain ⟨q, hq⟩ := hprofile
  have hwithin (c : ℝ × ℝ × ℝ) (hc : c ∈ csg.corners mesh) : c.1 ≤ L := by
    have hmem := exact.corner mesh c hc
    rw [hsolid] at hmem
    exact hmem.1.2
  have hend : (L, q) ∈ solid mesh := by
    rw [hsolid]
    exact ⟨⟨h0, le_refl L⟩, hq⟩
  obtain ⟨c, hc, hle⟩ := exact.reach mesh (L, q) hend
  exact GeometryUtils.makeAABB_end h0 hwithin ⟨c, hc, le_antisymm (hwithin c hc) hle⟩

end CSG.Exact

/-- `area` as it is used: the positions of the slice are doubles, its volume is exact. -/
def CSG.areaUsed {S R : Type} [Field R] [LinearOrder R] (csg : CSG S R) (beam_length x : ℚ)
    (mesh : S) : R :=
  csg.adjustedArea (depth : R) (leftOverlap x : R) (rightOverlap beam_length x : R) mesh x

/-- What the section of a prismatic beam is taken to be. -/
theorem CSG.Exact.areaUsed_eq {S : Type} {csg : CSG S ℝ} {solid : S → Set (ℝ × ℝ × ℝ)}
    (exact : csg.Exact solid) {mesh : S} {L x : ℚ} {profile : Set (ℝ × ℝ)}
    (hsolid : solid mesh = prism 0 L profile) (h0 : 0 ≤ x) (hx : x ≤ L) :
    csg.areaUsed L x mesh = endRatio L x * volume.real (profile ∩ probeWindow) := by
  have hd := depth_pos
  have hshared : sharedLength 0 (L : ℝ) (x - (depth : ℝ) / 2) (x + (depth : ℝ) / 2) =
      (inside L x : ℝ) := by
    have hle : max 0 (x - depth / 2) ≤ min L (x + depth / 2) :=
      max_le (le_min (h0.trans hx) (by linarith)) (le_min (by linarith) (by linarith))
    rw [sharedLength_of_le (by exact_mod_cast hle), inside]
    push_cast
    rfl
  have hleft : (0 : ℝ) < (leftOverlap x : ℝ) ↔ 0 < leftOverlap x := by exact_mod_cast Iff.rfl
  have hright : (0 : ℝ) < (rightOverlap L x : ℝ) ↔ 0 < rightOverlap L x := by
    exact_mod_cast Iff.rfl
  rw [areaUsed, adjustedArea, exact.estimateVolume, exact.solid_slice, hsolid, volume_prism_inter,
    hshared, endRatio, adjustForEnds, adjustForEnds]
  simp only [hleft, hright]
  split_ifs <;> push_cast <;> ring

/-! ## Boxes -/

/-- An axis-aligned box between two corners. -/
structure Box (R : Type) where
  lo : R × R × R
  hi : R × R × R
  deriving DecidableEq, Repr

namespace Box
section
variable {R : Type} [Field R] [LinearOrder R]

def corners (box : Box R) : List (R × R × R) :=
  if box.lo.1 ≤ box.hi.1 ∧ box.lo.2.1 ≤ box.hi.2.1 ∧ box.lo.2.2 ≤ box.hi.2.2 then
    [(box.lo.1, box.lo.2.1, box.lo.2.2), (box.lo.1, box.lo.2.1, box.hi.2.2),
      (box.lo.1, box.hi.2.1, box.lo.2.2), (box.lo.1, box.hi.2.1, box.hi.2.2),
      (box.hi.1, box.lo.2.1, box.lo.2.2), (box.hi.1, box.lo.2.1, box.hi.2.2),
      (box.hi.1, box.hi.2.1, box.lo.2.2), (box.hi.1, box.hi.2.1, box.hi.2.2)]
  else []

def side (lo hi : R) : R := max (hi - lo) 0

/-- Boxes among themselves. -/
def csg : CSG (Box R) R where
  corners := corners
  makeBox x y z := ⟨(-(x / 2), -(y / 2), -(z / 2)), (x / 2, y / 2, z / 2)⟩
  translate x y z box :=
    ⟨(box.lo.1 + x, box.lo.2.1 + y, box.lo.2.2 + z), (box.hi.1 + x, box.hi.2.1 + y, box.hi.2.2 + z)⟩
  intersect box probe :=
    ⟨(max box.lo.1 probe.lo.1, max box.lo.2.1 probe.lo.2.1, max box.lo.2.2 probe.lo.2.2),
      (min box.hi.1 probe.hi.1, min box.hi.2.1 probe.hi.2.1, min box.hi.2.2 probe.hi.2.2)⟩
  estimateVolume box := side box.lo.1 box.hi.1 *
    (side box.lo.2.1 box.hi.2.1 * side box.lo.2.2 box.hi.2.2)
  estimateCOG box := ((box.lo.1 + box.hi.1) / 2, (box.lo.2.1 + box.hi.2.1) / 2,
    (box.lo.2.2 + box.hi.2.2) / 2)
  estimateInertia mass box _ i j :=
    let x := side box.lo.1 box.hi.1 ^ 2
    let y := side box.lo.2.1 box.hi.2.1 ^ 2
    let z := side box.lo.2.2 box.hi.2.2 ^ 2
    let others := if i = 0 then y + z else if i = 1 then x + z else x + y
    if i = j then mass * others / 12 else 0

end

def solid (box : Box ℝ) : Set (ℝ × ℝ × ℝ) :=
  prism box.lo.1 box.hi.1 (Icc box.lo.2.1 box.hi.2.1 ×ˢ Icc box.lo.2.2 box.hi.2.2)

theorem mem_solid {box : Box ℝ} {p : ℝ × ℝ × ℝ} : p ∈ box.solid ↔
    (box.lo.1 ≤ p.1 ∧ p.1 ≤ box.hi.1) ∧ (box.lo.2.1 ≤ p.2.1 ∧ p.2.1 ≤ box.hi.2.1) ∧
      box.lo.2.2 ≤ p.2.2 ∧ p.2.2 ≤ box.hi.2.2 := Iff.rfl

theorem exact : CSG.Exact csg solid where
  corner box c hc := by
    simp only [csg, corners] at hc
    split_ifs at hc with h
    · have hx := h.1
      have hy := h.2.1
      have hz := h.2.2
      simp only [List.mem_cons, List.not_mem_nil, or_false] at hc
      rcases hc with rfl | rfl | rfl | rfl | rfl | rfl | rfl | rfl <;> simp [mem_solid, hx, hy, hz]
    · cases hc
  reach box p hp := by
    have hx := hp.1.1.trans hp.1.2
    have hy := hp.2.1.1.trans hp.2.1.2
    have hz := hp.2.2.1.trans hp.2.2.2
    apply Exists.intro (box.hi.1, box.hi.2.1, box.hi.2.2)
    simp only [csg, corners]
    rw [if_pos ⟨hx, hy, hz⟩]
    exact ⟨by simp, hp.1.2⟩
  makeBox x y z := rfl
  translate x y z box := by
    ext p
    simp only [csg, mem_solid, mem_ofPred_eq, le_sub_iff_add_le, sub_le_iff_le_add]
  intersect box probe := by
    ext p
    simp only [csg, mem_solid, mem_inter_iff, max_le_iff, le_min_iff]
    tauto
  estimateVolume box := by
    rw [solid, volume_prism, Measure.volume_eq_prod, measureReal_prod_prod, Real.volume_real_Icc,
      Real.volume_real_Icc]
    rfl

end Box
end Gripperz.Geometry
