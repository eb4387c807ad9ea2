import Mathlib.Algebra.Order.Field.Basic
import Mathlib.Data.List.Forall2

/-! # Parameter ranges

A range is a pair of bounds. A `ParameterMapping` carries each coordinate from its
normalized range to the user's range and back; a box constraint tests each
coordinate against its range. Both reject a vector of another size.
-/
namespace Gripperz.Math

variable {R : Type} [Field R]

abbrev Range (R : Type) := R × R

abbrev RangeList (R : Type) := List (Range R)

/-- `Transform`: a range and the range it is carried to. -/
abbrev Transform (R : Type) := Range R × Range R

def mapParameter (p : R) (before after : Range R) : R :=
  let p0 := (p - before.1) / (before.2 - before.1)
  after.1 + p0 * (after.2 - after.1)

theorem mapParameter_mapParameter (p : R) {before after : Range R} (hb : before.1 ≠ before.2)
    (ha : after.1 ≠ after.2) : mapParameter (mapParameter p before after) after before = p := by
  have hb' : before.2 - before.1 ≠ 0 := sub_ne_zero.mpr hb.symm
  have ha' : after.2 - after.1 ≠ 0 := sub_ne_zero.mpr ha.symm
  simp only [mapParameter]
  rw [add_sub_cancel_left, mul_div_cancel_right₀ _ ha', div_mul_cancel₀ _ hb', add_sub_cancel]

structure ParameterMapping (R : Type) where
  transforms : List (Transform R)

namespace ParameterMapping

/-- A vector of the size of the map, each coordinate carried by `carry`. -/
def apply (carry : R → Transform R → R) (m : ParameterMapping R) (params : List R) :
    Except String (List R) :=
  if params.length ≠ m.transforms.length then throw "Map and parameters size mismatch!"
  else pure (List.zipWith carry params m.transforms)

def map (m : ParameterMapping R) : List R → Except String (List R) :=
  m.apply fun p t => mapParameter p t.1 t.2

def unmap (m : ParameterMapping R) : List R → Except String (List R) :=
  m.apply fun p t => mapParameter p t.2 t.1

omit [Field R] in
theorem apply_of_length (carry : R → Transform R → R) {m : ParameterMapping R} {params : List R}
    (h : params.length = m.transforms.length) :
    m.apply carry params = .ok (List.zipWith carry params m.transforms) := by
  simp [apply, h]
  rfl

/-- No range is degenerate. -/
def Proper (m : ParameterMapping R) : Prop := ∀ t ∈ m.transforms, t.1.1 ≠ t.1.2 ∧ t.2.1 ≠ t.2.2

/-- What is unmapped is mapped back to what it was. -/
theorem map_unmap {m : ParameterMapping R} (hm : m.Proper) {params : List R}
    (h : params.length = m.transforms.length) :
    ∃ normalized, m.unmap params = .ok normalized ∧ normalized.length = params.length ∧
      m.map normalized = .ok params := by
  have hlen : (List.zipWith (fun p t => mapParameter p t.2 t.1) params m.transforms).length =
      m.transforms.length := by simp [h]
  refine ⟨_, apply_of_length _ h, hlen.trans h.symm, ?_⟩
  rw [map, apply_of_length _ hlen]
  congr 1
  apply List.ext_getElem
  · simp [h]
  · intro i h₁ h₂
    obtain ⟨hb, ha⟩ := hm m.transforms[i] (List.getElem_mem _)
    simpa using mapParameter_mapParameter params[i] ha hb

end ParameterMapping

section Box
variable {R : Type} [LinearOrder R]

/-- `BoxConstraint::isMetBy`. -/
def BoxConstraint.isMetBy (ranges : RangeList R) (params : List R) : Except String Bool :=
  if params.length ≠ ranges.length then throw "Parameters and ranges size mismatch!"
  else pure ((List.zip params ranges).all fun p => !decide (p.1 < p.2.1 ∨ p.2.2 < p.1))

/-- Every coordinate lies within its range. -/
def InRanges (ranges : RangeList R) (params : List R) : Prop :=
  List.Forall₂ (fun p r => r.1 ≤ p ∧ p ≤ r.2) params ranges

instance (ranges : RangeList R) (params : List R) : Decidable (InRanges ranges params) :=
  inferInstanceAs (Decidable (List.Forall₂ _ _ _))

theorem InRanges.getElem {ranges : RangeList R} {params : List R} (h : InRanges ranges params)
    (i : ℕ) (hp : i < params.length) (hr : i < ranges.length) :
    ranges[i].1 ≤ params[i] ∧ params[i] ≤ ranges[i].2 := by
  simpa using List.Forall₂.get h hp hr

theorem BoxConstraint.isMetBy_of_length {ranges : RangeList R} {params : List R}
    (h : params.length = ranges.length) :
    BoxConstraint.isMetBy ranges params = .ok (decide (InRanges ranges params)) := by
  have key : ((List.zip params ranges).all fun p => !decide (p.1 < p.2.1 ∨ p.2.2 < p.1)) =
      decide (InRanges ranges params) := by
    rw [Bool.eq_iff_iff, List.all_eq_true, decide_eq_true_iff, InRanges, List.forall₂_iff_zip]
    simp [h]
  simp [isMetBy, h, ← key]
  rfl

end Box
end Gripperz.Math
