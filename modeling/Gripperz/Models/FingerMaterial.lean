import Mathlib.Algebra.Order.Field.Rat
import Mathlib.Algebra.Order.Floor.Semiring
import Mathlib.Data.Rat.Floor
import Gripperz.Models.OldGripper

/-! # Where a finger has material

A sane finger is wider at the tool centre point than the wedge cut out there. Towards the base
it only gets wider; towards the tip the chamfer may take more than the wedge gives back.
-/
namespace Gripperz.Models.OldGripper

variable {Q R : Type} [Field R] [LinearOrder R]

/-- The dimensions of a finger, with the tangents of its angles. -/
structure Proportions (tangent : Tangent R) (gripper : OldGripper Q R) : Prop where
  length_pos : 0 < gripper.length
  width_pos : 0 < gripper.width
  depth_pos : 0 < gripper.depth
  chfdepth_nonneg : 0 ≤ gripper.chfdepth
  chfdepth_lt_one : gripper.chfdepth < 1
  cutdepth_nonneg : 0 ≤ gripper.cutdepth
  tcpoffset_nonneg : 0 ≤ gripper.tcpoffset
  chamfer_pos : 0 < gripper.chamfer tangent
  wedge_pos : 0 < gripper.wedge tangent
  /-- The code writes the complement of the angle with 1.57 for a right angle. -/
  complement : tangent.tan (157 / 100 - tangent.deg2Rad * gripper.cutangle / 2) =
    1 / gripper.wedge tangent

/-- The width that is left at the tip. -/
def tipWidth (gripper : OldGripper Q R) : R := gripper.width * (1 - gripper.chfdepth)

/-- The width along the wedge, below zero where it cuts through. -/
def cutWidth (tangent : Tangent R) (gripper : OldGripper Q R) (x : R) : R :=
  gripper.chamferedWidth tangent x - gripper.cutdepth +
    |x - (gripper.length - gripper.tcpoffset)| / gripper.wedge tangent

namespace Proportions
variable [IsStrictOrderedRing R] {tangent : Tangent R} {gripper : OldGripper Q R}
  (proportions : Proportions tangent gripper)
include proportions

theorem tipWidth_pos : 0 < gripper.tipWidth :=
  mul_pos proportions.width_pos (sub_pos.mpr proportions.chfdepth_lt_one)

/-! ## The chamfer -/

/-- The chamfer is a line through the tip, where it is below the full width. -/
theorem chamferedWidth_eq (x : R) : gripper.chamferedWidth tangent x =
    min gripper.width (gripper.tipWidth + (gripper.length - x) / gripper.chamfer tangent) := by
  have hpos := proportions.chamfer_pos
  have hne := hpos.ne'
  have hline : gripper.tipWidth + (gripper.length - x) / gripper.chamfer tangent =
      gripper.width - (x - (gripper.length -
        gripper.chfdepth * gripper.width * gripper.chamfer tangent)) * 1 /
          gripper.chamfer tangent := by
    rw [tipWidth]
    field_simp
    ring
  rw [hline, chamferedWidth]
  split_ifs with h
  · apply (min_eq_right _).symm
    rw [mul_one]
    exact sub_le_self _ (div_nonneg (sub_nonneg.mpr h.le) hpos.le)
  · apply (min_eq_left _).symm
    rw [mul_one]
    exact le_sub_self_iff _ |>.mpr (div_nonpos_of_nonpos_of_nonneg
      (sub_nonpos.mpr (not_lt.mp h)) hpos.le)

theorem chamferedWidth_tip : gripper.chamferedWidth tangent gripper.length = gripper.tipWidth := by
  rw [proportions.chamferedWidth_eq, sub_self, zero_div, add_zero]
  apply min_eq_right
  rw [tipWidth]
  exact mul_le_of_le_one_right proportions.width_pos.le
    (sub_le_self _ proportions.chfdepth_nonneg)

theorem chamferedWidth_antitone {x y : R} (h : x ≤ y) :
    gripper.chamferedWidth tangent y ≤ gripper.chamferedWidth tangent x := by
  rw [proportions.chamferedWidth_eq, proportions.chamferedWidth_eq]
  apply min_le_min_left
  apply add_le_add_right
  exact div_le_div_of_nonneg_right (sub_le_sub_left h _) proportions.chamfer_pos.le

theorem chamferedWidth_pos {x : R} (h : x ≤ gripper.length) :
    0 < gripper.chamferedWidth tangent x := by
  have htip := proportions.chamferedWidth_antitone h
  rw [proportions.chamferedWidth_tip] at htip
  exact proportions.tipWidth_pos.trans_le htip

theorem chamferedWidth_le (x : R) : gripper.chamferedWidth tangent x ≤
    gripper.tipWidth + (gripper.length - x) / gripper.chamfer tangent := by
  rw [proportions.chamferedWidth_eq]
  exact min_le_right _ _

/-- Between two positions the width is at least that on the line between them. -/
theorem chamferedWidth_concave {x y z : R} (hxy : x ≤ y) (hyz : y ≤ z) :
    (z - y) * gripper.chamferedWidth tangent x + (y - x) * gripper.chamferedWidth tangent z ≤
      (z - x) * gripper.chamferedWidth tangent y := by
  have hne := proportions.chamfer_pos.ne'
  have hleft : 0 ≤ z - y := sub_nonneg.mpr hyz
  have hright : 0 ≤ y - x := sub_nonneg.mpr hxy
  have hx := proportions.chamferedWidth_eq x
  have hz := proportions.chamferedWidth_eq z
  rw [proportions.chamferedWidth_eq y]
  rcases min_choice gripper.width
    (gripper.tipWidth + (gripper.length - y) / gripper.chamfer tangent) with h | h
  · have hfirst := mul_le_mul_of_nonneg_left (hx.trans_le (min_le_left _ _)) hleft
    have hlast := mul_le_mul_of_nonneg_left (hz.trans_le (min_le_left _ _)) hright
    have hline : (z - x) * gripper.width =
        (z - y) * gripper.width + (y - x) * gripper.width := by ring
    rw [h, hline]
    exact add_le_add hfirst hlast
  · have hfirst := mul_le_mul_of_nonneg_left (hx.trans_le (min_le_right _ _)) hleft
    have hlast := mul_le_mul_of_nonneg_left (hz.trans_le (min_le_right _ _)) hright
    rw [h]
    have hline : (z - x) * (gripper.tipWidth + (gripper.length - y) / gripper.chamfer tangent) =
        (z - y) * (gripper.tipWidth + (gripper.length - x) / gripper.chamfer tangent) +
          (y - x) * (gripper.tipWidth + (gripper.length - z) / gripper.chamfer tangent) := by
      field_simp
      ring
    rw [hline]
    exact add_le_add hfirst hlast

/-! ## The wedge -/

theorem getCrossHeight_pos_iff {x : R} (h : x ≤ gripper.length) :
    0 < gripper.getCrossHeight tangent x ↔
      (|x - (gripper.length - gripper.tcpoffset)| < gripper.cutdepth * gripper.wedge tangent →
        0 < gripper.cutWidth tangent x) := by
  have hclip (w : R) : 0 < (if w < 0 then 0 else w) ↔ 0 < w := by
    split_ifs with hneg
    · exact iff_of_false (lt_irrefl 0) hneg.not_gt
    · exact Iff.rfl
  simp only [getCrossHeight, if_neg h.not_gt, hclip]
  split_ifs with hcut
  · rw [forall_prop_of_true hcut, cutWidth, proportions.complement, mul_one_div,
      sub_sub_eq_add_sub, sub_add_eq_add_sub]
  · exact iff_of_true (proportions.chamferedWidth_pos h) fun hnot => absurd hnot hcut

theorem cutWidth_tip : gripper.cutWidth tangent gripper.length =
    gripper.tipWidth - gripper.cutdepth + gripper.tcpoffset / gripper.wedge tangent := by
  rw [cutWidth, proportions.chamferedWidth_tip, sub_sub_cancel,
    abs_of_nonneg proportions.tcpoffset_nonneg]

omit proportions in
theorem cutWidth_tcp : gripper.cutWidth tangent (gripper.length - gripper.tcpoffset) =
    gripper.chamferedWidth tangent (gripper.length - gripper.tcpoffset) - gripper.cutdepth := by
  rw [cutWidth, sub_self, abs_zero, zero_div, add_zero]

omit [IsStrictOrderedRing R] proportions in
theorem sane_cut (sane : gripper.isSane tangent = true) : gripper.tcpoffset < gripper.length ∧
    gripper.cutdepth <
      gripper.chamferedWidth tangent (gripper.length - gripper.tcpoffset) := by
  simp only [isSane] at sane
  split_ifs at sane with h1 h2 h3 h4
  exact ⟨not_le.mp h2, not_le.mp h4⟩

/-- Towards the base there is more material than at the tool centre point. -/
theorem cutWidth_pos_base (sane : gripper.isSane tangent = true) {x : R}
    (h : x ≤ gripper.length - gripper.tcpoffset) : 0 < gripper.cutWidth tangent x := by
  have hwide := (sane_cut sane).2.trans_le (proportions.chamferedWidth_antitone h)
  exact add_pos_of_pos_of_nonneg (sub_pos.mpr hwide)
    (div_nonneg (abs_nonneg _) proportions.wedge_pos.le)

/-- Towards the tip there is material as long as there is some at the tip. -/
theorem cutWidth_pos_tip (sane : gripper.isSane tangent = true)
    (htip : 0 ≤ gripper.cutWidth tangent gripper.length) {x : R}
    (h : gripper.length - gripper.tcpoffset ≤ x) (hx : x < gripper.length) :
    0 < gripper.cutWidth tangent x := by
  have hspan : 0 < gripper.length - (gripper.length - gripper.tcpoffset) :=
    sub_pos.mpr (h.trans_lt hx)
  have hstart : 0 < gripper.cutWidth tangent (gripper.length - gripper.tcpoffset) := by
    rw [cutWidth_tcp]
    exact sub_pos.mpr (sane_cut sane).2
  have hconcave := proportions.chamferedWidth_concave h hx.le
  have hline : (gripper.length - x) * gripper.cutWidth tangent
        (gripper.length - gripper.tcpoffset) + (x - (gripper.length - gripper.tcpoffset)) *
          gripper.cutWidth tangent gripper.length ≤
      (gripper.length - (gripper.length - gripper.tcpoffset)) * gripper.cutWidth tangent x := by
    have hne := proportions.wedge_pos.ne'
    have hsplit : (gripper.length - (gripper.length - gripper.tcpoffset)) *
          gripper.cutWidth tangent x =
        (gripper.length - (gripper.length - gripper.tcpoffset)) *
          gripper.chamferedWidth tangent x - gripper.tcpoffset * gripper.cutdepth +
            (x - (gripper.length - gripper.tcpoffset)) *
              (gripper.tcpoffset / gripper.wedge tangent) := by
      rw [cutWidth, abs_of_nonneg (sub_nonneg.mpr h)]
      ring
    rw [hsplit, cutWidth_tcp, proportions.cutWidth_tip, ← proportions.chamferedWidth_tip]
    linarith
  have hpositive := add_pos_of_pos_of_nonneg (mul_pos (sub_pos.mpr hx) hstart)
    (mul_nonneg (sub_nonneg.mpr h) htip)
  exact (mul_pos_iff_of_pos_left hspan).mp (hpositive.trans_le hline)

/-- A wedge that goes through the tip goes through the finger before it. -/
theorem exists_cut (sane : gripper.isSane tangent = true)
    (htip : gripper.cutWidth tangent gripper.length < 0) :
    ∃ x, 0 ≤ x ∧ x < gripper.length ∧ ¬ 0 < gripper.getCrossHeight tangent x := by
  have hchamfer := proportions.chamfer_pos
  have hwedge := proportions.wedge_pos
  have hoffset : 0 < gripper.tcpoffset := by
    apply proportions.tcpoffset_nonneg.lt_of_ne
    intro hzero
    have hstart := proportions.cutWidth_pos_base sane (le_refl _)
    rw [← hzero, sub_zero] at hstart
    exact htip.not_gt hstart
  let x := max (gripper.length - gripper.tcpoffset)
    (gripper.length + gripper.cutWidth tangent gripper.length * gripper.chamfer tangent)
  have hfrom : gripper.length - gripper.tcpoffset ≤ x := le_max_left _ _
  have hx : x < gripper.length := max_lt (sub_lt_self _ hoffset)
    (add_lt_of_neg_right _ (mul_neg_of_neg_of_pos htip hchamfer))
  have hlost : (gripper.length - x) / gripper.chamfer tangent ≤
      -gripper.cutWidth tangent gripper.length := by
    rw [div_le_iff₀ hchamfer]
    have hright := le_max_right (gripper.length - gripper.tcpoffset)
      (gripper.length + gripper.cutWidth tangent gripper.length * gripper.chamfer tangent)
    linarith
  have hgained : |x - (gripper.length - gripper.tcpoffset)| / gripper.wedge tangent ≤
      gripper.tcpoffset / gripper.wedge tangent := by
    rw [abs_of_nonneg (sub_nonneg.mpr hfrom)]
    exact div_le_div_of_nonneg_right (by linarith) hwedge.le
  have htipWidth := proportions.cutWidth_tip
  have hcut : gripper.tcpoffset / gripper.wedge tangent < gripper.cutdepth := by
    have hpositive := proportions.tipWidth_pos
    linarith
  refine ⟨x, (sub_nonneg.mpr (sane_cut sane).1.le).trans hfrom, hx, ?_⟩
  rw [proportions.getCrossHeight_pos_iff hx.le]
  intro hmaterial
  have hthin := hmaterial ((div_lt_iff₀ hwedge).mp (hgained.trans_lt hcut))
  have hwidth := proportions.chamferedWidth_le x
  rw [cutWidth] at hthin
  linarith

/-- A sane finger has material all along exactly when the wedge leaves some at the tip. -/
theorem crossHeight_pos_iff (sane : gripper.isSane tangent = true) :
    (∀ x, 0 ≤ x → x < gripper.length → 0 < gripper.getCrossHeight tangent x) ↔
      gripper.cutdepth ≤ gripper.width * (1 - gripper.chfdepth) +
        gripper.tcpoffset / gripper.wedge tangent := by
  have hcondition : gripper.cutdepth ≤ gripper.width * (1 - gripper.chfdepth) +
      gripper.tcpoffset / gripper.wedge tangent ↔
        0 ≤ gripper.cutWidth tangent gripper.length := by
    rw [proportions.cutWidth_tip, tipWidth, sub_add_eq_add_sub, sub_nonneg]
  rw [hcondition]
  constructor
  · intro h
    by_contra hnot
    obtain ⟨x, h0, hx, hcut⟩ := proportions.exists_cut sane (not_le.mp hnot)
    exact hcut (h x h0 hx)
  · intro htip x h0 hx
    rw [proportions.getCrossHeight_pos_iff hx.le]
    intro hcut
    rcases le_total x (gripper.length - gripper.tcpoffset) with hbase | hend
    · exact proportions.cutWidth_pos_base sane hbase
    · exact proportions.cutWidth_pos_tip sane htip hend hx

theorem divisor_ne_zero {x : R} (h : 0 < gripper.getCrossHeight tangent x) :
    gripper.divisor tangent x ≠ 0 := by
  have hundred : (0 : R) < 100 := Nat.cast_pos.mpr (by decide)
  have hheight := mul_pos hundred h
  exact (mul_pos (mul_pos (mul_pos hundred proportions.depth_pos) hheight) hheight).ne'

omit proportions in
theorem stressPositions_within [FloorRing R] {x : R} (h : x ∈ gripper.stressPositions) :
    0 ≤ x ∧ x < gripper.length := by
  have hpos : (0 : R) < 1 / 1000 := one_div_pos.mpr (Nat.cast_pos.mpr (by decide))
  simp only [stressPositions, List.mem_map, List.mem_range] at h
  obtain ⟨k, hk, rfl⟩ := h
  apply And.intro (mul_nonneg (Nat.cast_nonneg _) hpos.le)
  rw [← lt_div_iff₀ hpos, ← Int.cast_natCast, ← Int.lt_ceil]
  omega

/-- Then the largest stress is that of the quotients: nothing is divided by zero. -/
theorem material_iff [FloorRing R] (sane : gripper.isSane tangent = true) :
    ((∀ x, 0 ≤ x → x < gripper.length → 0 < gripper.getCrossHeight tangent x) ↔
      gripper.cutdepth ≤ gripper.width * (1 - gripper.chfdepth) +
        gripper.tcpoffset / gripper.wedge tangent) ∧
    (gripper.cutdepth ≤ gripper.width * (1 - gripper.chfdepth) +
        gripper.tcpoffset / gripper.wedge tangent →
      ∀ x ∈ gripper.stressPositions, gripper.divisor tangent x ≠ 0) := by
  apply And.intro (proportions.crossHeight_pos_iff sane)
  intro h x hx
  have hwithin := stressPositions_within hx
  exact proportions.divisor_ne_zero
    ((proportions.crossHeight_pos_iff sane).mpr h x hwithin.1 hwithin.2)

end Proportions

/-! ## A chamfered finger -/

/-- The tangents of a chamfer of 45 degrees and of half a wedge of 127. -/
def roundTangent : Tangent ℚ where
  deg2Rad := 157 / 9000
  tan angle := if angle = 157 / 200 then 1 else if angle = 157 * 127 / 18000 then 2
    else if angle = 157 * 53 / 18000 then 1 / 2 else 0

/-- A finger of 100 millimetres with a chamfer of nine tenths of its width. -/
def chamferedFinger (cutdepth : ℚ) : OldGripper Unit ℚ where
  name := "gripper"
  deviceId := "gripper"
  dynamicDeviceId := "gripper"
  TCPFrameId := "gripper.TCP"
  movableFrameId := "gripper.Movable"
  graspControllerId := "GraspController"
  leftFingerId := "gripper.LeftFinger"
  rightFingerId := "gripper.RightFinger"
  quality := ()
  length := 1 / 10
  width := 1 / 50
  depth := 1 / 50
  chfdepth := 9 / 10
  chfangle := 45
  cutdepth := cutdepth
  cutangle := 127
  cuttilt := 0
  tcpoffset := 1 / 200
  jawdist := 0
  stroke := 1 / 20
  force := 25
  basex := 3 / 20
  basey := 1 / 10
  basez := 1 / 20

theorem proportions_chamferedFinger {cutdepth : ℚ} (h : 0 ≤ cutdepth) :
    Proportions roundTangent (chamferedFinger cutdepth) where
  length_pos := show (0 : ℚ) < 1 / 10 by decide +kernel
  width_pos := show (0 : ℚ) < 1 / 50 by decide +kernel
  depth_pos := show (0 : ℚ) < 1 / 50 by decide +kernel
  chfdepth_nonneg := show (0 : ℚ) ≤ 9 / 10 by decide +kernel
  chfdepth_lt_one := show (9 / 10 : ℚ) < 1 by decide +kernel
  cutdepth_nonneg := h
  tcpoffset_nonneg := show (0 : ℚ) ≤ 1 / 200 by decide +kernel
  chamfer_pos := show 0 < roundTangent.tan (roundTangent.deg2Rad * 45) by decide +kernel
  wedge_pos := show 0 < roundTangent.tan (roundTangent.deg2Rad * 127 / 2) by decide +kernel
  complement := show roundTangent.tan (157 / 100 - roundTangent.deg2Rad * 127 / 2) =
    1 / roundTangent.tan (roundTangent.deg2Rad * 127 / 2) by decide +kernel

/-- A wedge of six millimetres cuts through a sane finger a millimetre before its tip. -/
theorem not_material : Proportions roundTangent (chamferedFinger (6 / 1000)) ∧
    (chamferedFinger (6 / 1000)).isSane roundTangent = true ∧
    ¬ ∀ x, 0 ≤ x → x < (chamferedFinger (6 / 1000)).length →
      0 < (chamferedFinger (6 / 1000)).getCrossHeight roundTangent x := by
  refine ⟨proportions_chamferedFinger (by decide +kernel), by decide +kernel, ?_⟩
  intro h
  exact absurd (h (99 / 1000) (by decide +kernel) (by decide +kernel)) (by decide +kernel)

theorem material_iff_four : 0 < (chamferedFinger (4 / 1000)).getCrossHeight roundTangent
    (99 / 1000) := by
  have hproportions : Proportions roundTangent (chamferedFinger (4 / 1000)) :=
    proportions_chamferedFinger (by decide +kernel)
  have hmaterial := (hproportions.material_iff (by decide +kernel)).1.mpr (by decide +kernel)
  exact hmaterial (99 / 1000) (by decide +kernel) (by decide +kernel)

end Gripperz.Models.OldGripper
