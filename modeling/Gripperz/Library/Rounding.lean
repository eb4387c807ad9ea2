import Mathlib.Algebra.Order.Floor.Ring
import Mathlib.Algebra.Order.Round
import Mathlib.Data.Int.Log
import Mathlib.Tactic.Linarith
import Mathlib.Tactic.Ring
import Gripperz.Library.Numerals

/-! # Rounding to digits

Rounding to the nearest number of a grid, ties to even. The grid has the multiples of a power
of the base; the power may be fixed, or follow the size of the number, which leaves it with so
many digits.
-/
namespace Gripperz.Library
variable {K : Type*} [Field K] [LinearOrder K] [FloorRing K]

/-- The nearest whole number, and the even one of two that are as near. -/
def roundEven (x : K) : ℤ :=
  if Int.fract x < 1 / 2 then ⌊x⌋
  else if 1 / 2 < Int.fract x then ⌊x⌋ + 1
  else if Even ⌊x⌋ then ⌊x⌋ else ⌊x⌋ + 1

/-- The nearest multiple of `b ^ e`. -/
def roundAt (b : ℕ) (e : ℤ) (x : K) : K := roundEven (x / (b : K) ^ e) * (b : K) ^ e

/-- The nearest number with `p` digits, the first of them that of `x`. -/
def roundTo (b p : ℕ) (x : K) : K := roundAt b (Int.log b |x| + 1 - p) x

/-- A number with `p` significant digits at most. -/
def HasDigits (b p : ℕ) (x : K) : Prop := ∃ m e : ℤ, |m| < (b : ℤ) ^ p ∧ x = m * (b : K) ^ e

variable [IsStrictOrderedRing K]

/-! ## Whole numbers -/

theorem abs_sub_roundEven_le (x : K) : |x - roundEven x| ≤ 1 / 2 := by
  have hsplit := Int.floor_add_fract x
  have hnonneg := Int.fract_nonneg x
  have hlt := Int.fract_lt_one x
  unfold roundEven
  rw [abs_le]
  split_ifs with hlow hhigh
  · constructor <;> linarith
  · push_cast
    constructor <;> linarith
  · constructor <;> linarith
  · push_cast
    constructor <;> linarith

/-- No whole number is nearer. -/
theorem abs_sub_roundEven_le_abs_sub (x : K) (n : ℤ) : |x - roundEven x| ≤ |x - n| := by
  rcases eq_or_ne (roundEven x) n with rfl | hne
  · exact le_rfl
  have hapart : (1 : K) ≤ |(roundEven x : K) - n| := by
    exact_mod_cast Int.one_le_abs (sub_ne_zero.mpr hne)
  have htri := abs_sub_le (roundEven x : K) x n
  have hround := abs_sub_roundEven_le x
  rw [abs_sub_comm (roundEven x : K) x] at htri
  linarith

theorem roundEven_eq_of_near {x : K} {n : ℤ} (h : |x - n| < 1 / 2) : roundEven x = n := by
  have hround := abs_le.mp (abs_sub_roundEven_le x)
  have hnear := abs_lt.mp h
  have hlow : (roundEven x : K) < n + 1 := by linarith
  have hhigh : (n : K) < roundEven x + 1 := by linarith
  norm_cast at hlow hhigh
  omega

theorem abs_roundEven_le {x : K} {n : ℤ} (h : |x| ≤ n) : |roundEven x| ≤ n := by
  have hround := abs_le.mp (abs_sub_roundEven_le x)
  have hx := abs_le.mp h
  have hlow : -(n : K) < roundEven x + 1 := by linarith
  have hhigh : (roundEven x : K) < n + 1 := by linarith
  norm_cast at hlow hhigh
  rw [abs_le]
  omega

omit [FloorRing K] in
/-- A number near to another is not much smaller. -/
theorem mul_abs_le_of_near {x y c : K} (h : |x - y| ≤ c * |x|) : (1 - c) * |x| ≤ |y| := by
  have htri := abs_sub_abs_le_abs_sub x y
  linarith

/-! ## Grids -/

section
variable {b : ℕ} (hb : 1 < b) {e : ℤ} {x : K}
include hb

theorem zpow_base_pos (e : ℤ) : (0 : K) < (b : K) ^ e := by
  apply zpow_pos
  exact_mod_cast hb.trans' one_pos

omit [IsStrictOrderedRing K] in
theorem zpow_add_natCast (e : ℤ) (p : ℕ) : (b : K) ^ (p + e) = (b : K) ^ p * (b : K) ^ e := by
  have hne : (b : K) ≠ 0 := by exact_mod_cast (hb.trans' one_pos).ne'
  rw [zpow_add₀ hne, zpow_natCast]

omit [IsStrictOrderedRing K] in
/-- A coarser power is a multiple of a finer one. -/
theorem zpow_eq_mul {e e' : ℤ} (h : e ≤ e') :
    (b : K) ^ e' = (((b : ℤ) ^ (e' - e).toNat : ℤ) : K) * (b : K) ^ e := by
  have hsum : e' = ((e' - e).toNat : ℕ) + e := by omega
  conv_lhs => rw [hsum, zpow_add_natCast hb]
  push_cast
  rfl

theorem zpow_base_le {e e' : ℤ} (h : e ≤ e') : (b : K) ^ e ≤ (b : K) ^ e' :=
  zpow_le_zpow_right₀ (by exact_mod_cast hb.le) h

theorem le_of_zpow_lt {e e' : ℤ} (h : (b : K) ^ e < (b : K) ^ (e' + 1)) : e ≤ e' := by
  by_contra hlt
  exact absurd h (not_lt.mpr (zpow_base_le hb (by omega)))

theorem abs_sub_roundAt_le (e : ℤ) (x : K) : |x - roundAt b e x| ≤ (b : K) ^ e / 2 := by
  have hu : (0 : K) < (b : K) ^ e := zpow_base_pos hb e
  have hscale : x - roundAt b e x =
      (x / (b : K) ^ e - roundEven (x / (b : K) ^ e)) * (b : K) ^ e := by
    rw [roundAt, sub_mul, div_mul_cancel₀ _ hu.ne']
  rw [hscale, abs_mul, abs_of_pos hu]
  calc
    _ ≤ 1 / 2 * (b : K) ^ e := mul_le_mul_of_nonneg_right (abs_sub_roundEven_le _) hu.le
    _ = (b : K) ^ e / 2 := by ring

theorem abs_sub_roundAt_le_abs_sub (e n : ℤ) (x : K) :
    |x - roundAt b e x| ≤ |x - n * (b : K) ^ e| := by
  have hu : (0 : K) < (b : K) ^ e := zpow_base_pos hb e
  have hscale (m : ℤ) : |x - m * (b : K) ^ e| = |x / (b : K) ^ e - m| * (b : K) ^ e := by
    rw [← abs_of_pos hu, ← abs_mul, abs_of_pos hu, sub_mul, div_mul_cancel₀ _ hu.ne']
  rw [roundAt, hscale, hscale]
  exact mul_le_mul_of_nonneg_right (abs_sub_roundEven_le_abs_sub _ n) hu.le

theorem roundAt_eq_of_near {n : ℤ} (h : |x - n * (b : K) ^ e| < (b : K) ^ e / 2) :
    roundAt b e x = n * (b : K) ^ e := by
  have hu : (0 : K) < (b : K) ^ e := zpow_base_pos hb e
  have hscale : x - n * (b : K) ^ e = (x / (b : K) ^ e - n) * (b : K) ^ e := by
    rw [sub_mul, div_mul_cancel₀ _ hu.ne']
  rw [hscale, abs_mul, abs_of_pos hu] at h
  rw [roundAt, roundEven_eq_of_near]
  by_contra hfar
  have hmul := mul_le_mul_of_nonneg_right (not_lt.mp hfar) hu.le
  linarith

@[simp] theorem roundAt_mul (n e : ℤ) : roundAt b e (n * (b : K) ^ e) = n * (b : K) ^ e := by
  apply roundAt_eq_of_near hb
  rw [sub_self, abs_zero]
  exact half_pos (zpow_base_pos hb e)

/-- A number is not rounded past a number of the grid. -/
theorem abs_roundAt_le {n : ℤ} (h : |x| ≤ n * (b : K) ^ e) :
    |roundAt b e x| ≤ n * (b : K) ^ e := by
  have hu : (0 : K) < (b : K) ^ e := zpow_base_pos hb e
  have hround : |roundEven (x / (b : K) ^ e)| ≤ n := by
    apply abs_roundEven_le
    rwa [abs_div, abs_of_pos hu, div_le_iff₀ hu]
  rw [roundAt, abs_mul, abs_of_pos hu]
  apply mul_le_mul_of_nonneg_right _ hu.le
  exact_mod_cast hround

end

/-! ## Significant digits -/

section
variable {b : ℕ} (hb : 1 < b) {p : ℕ} {d x : K}
include hb

omit [LinearOrder K] [FloorRing K] [IsStrictOrderedRing K] in
theorem hasDigits_zero : HasDigits b p (0 : K) :=
  ⟨0, 0, by rw [abs_zero]; exact_mod_cast pow_pos (hb.trans' one_pos) p, by simp⟩

omit [LinearOrder K] [FloorRing K] [IsStrictOrderedRing K] in
theorem HasDigits.mono {q : ℕ} (h : HasDigits b p d) (hpq : p ≤ q) : HasDigits b q d := by
  obtain ⟨m, e, hm, rfl⟩ := h
  refine ⟨m, e, hm.trans_le ?_, rfl⟩
  exact_mod_cast Nat.pow_le_pow_right (hb.trans' one_pos) hpq

/-- A large number has no digits after the last of its `p`. -/
theorem HasDigits.exists_eq_mul (h : HasDigits b p d) {t : ℤ} (ht : (b : K) ^ t ≤ |d|) :
    ∃ n : ℤ, d = n * (b : K) ^ (t + 1 - p) := by
  obtain ⟨m, e, hm, rfl⟩ := h
  have hu : (0 : K) < (b : K) ^ e := zpow_base_pos hb e
  have hm' : (|m| : K) < (b : K) ^ p := by exact_mod_cast hm
  have hlt : (b : K) ^ t < (b : K) ^ ((p + e - 1) + 1) := by
    calc
      (b : K) ^ t ≤ |(m : K)| * (b : K) ^ e := by rwa [abs_mul, abs_of_pos hu] at ht
      _ < (b : K) ^ p * (b : K) ^ e := mul_lt_mul_of_pos_right hm' hu
      _ = (b : K) ^ ((p + e - 1) + 1) := by rw [sub_add_cancel, zpow_add_natCast hb]
  have hle := le_of_zpow_lt hb hlt
  refine ⟨m * (b : ℤ) ^ (e - (t + 1 - p)).toNat, ?_⟩
  rw [zpow_eq_mul hb (show t + 1 - (p : ℤ) ≤ e by omega)]
  push_cast
  ring

/-- A number below a power of the base is below it by a last digit at least. -/
theorem HasDigits.abs_le (h : HasDigits b p d) {t : ℤ} (ht : |d| < (b : K) ^ t) :
    |d| ≤ (b : K) ^ t - (b : K) ^ (t - p) := by
  obtain ⟨m, e, hm, rfl⟩ := h
  have hu : (0 : K) < (b : K) ^ e := zpow_base_pos hb e
  have hv : (0 : K) < (b : K) ^ (t - p) := zpow_base_pos hb _
  have htop : (b : K) ^ t = (b : K) ^ p * (b : K) ^ (t - p) := by
    rw [← zpow_add_natCast hb, add_sub_cancel]
  rw [abs_mul, abs_of_pos hu] at ht ⊢
  rw [htop] at ht ⊢
  rcases le_total e (t - p) with he | he
  · have hm' : (|m| : K) + 1 ≤ (b : K) ^ p := by exact_mod_cast hm
    have hfine := zpow_base_le (K := K) hb he
    have hone : (1 : K) ≤ (b : K) ^ p := (le_add_of_nonneg_left (abs_nonneg _)).trans hm'
    calc
      |(m : K)| * (b : K) ^ e ≤ ((b : K) ^ p - 1) * (b : K) ^ (t - p) := by
        apply mul_le_mul (by linarith) hfine hu.le (by linarith)
      _ = (b : K) ^ p * (b : K) ^ (t - p) - (b : K) ^ (t - p) := by ring
  · rw [zpow_eq_mul hb he] at ht ⊢
    rw [← mul_assoc] at ht ⊢
    have hm' := lt_of_mul_lt_mul_right ht hv.le
    have hint : (|m| : K) * (((b : ℤ) ^ (e - (t - p)).toNat : ℤ) : K) + 1 ≤ (b : K) ^ p := by
      exact_mod_cast hm'
    calc
      _ = ((|m| : K) * (((b : ℤ) ^ (e - (t - p)).toNat : ℤ) : K) + 1) * (b : K) ^ (t - p) -
          (b : K) ^ (t - p) := by ring
      _ ≤ (b : K) ^ p * (b : K) ^ (t - p) - (b : K) ^ (t - p) :=
        sub_le_sub_right (mul_le_mul_of_nonneg_right hint hv.le) _

/-- Rounding leaves at most the digits down to the grid. -/
theorem hasDigits_roundAt (hp : 0 < p) {e : ℤ} (h : |x| ≤ (b : K) ^ (p + e)) :
    HasDigits b p (roundAt b e x) := by
  have hu : (0 : K) < (b : K) ^ e := zpow_base_pos hb e
  have hround : |roundEven (x / (b : K) ^ e)| ≤ (b : ℤ) ^ p := by
    apply abs_roundEven_le
    rw [abs_div, abs_of_pos hu, div_le_iff₀ hu]
    rw [zpow_add_natCast hb] at h
    exact_mod_cast h
  have hone : |(1 : ℤ)| < (b : ℤ) ^ p := by
    rw [abs_one]
    exact_mod_cast Nat.one_lt_pow hp.ne' hb
  rcases hround.lt_or_eq with hlt | heq
  · exact ⟨_, e, hlt, rfl⟩
  · -- The digits carried into one more.
    rcases (abs_eq (by positivity)).mp heq with hn | hn
    · refine ⟨1, p + e, hone, ?_⟩
      rw [roundAt, hn, zpow_add_natCast hb]
      push_cast
      ring
    · refine ⟨-1, p + e, by rwa [abs_neg], ?_⟩
      rw [roundAt, hn, zpow_add_natCast hb]
      push_cast
      ring

end

/-! ## Rounding to so many digits -/

section
variable {b : ℕ} (hb : 1 < b) {p : ℕ} {d x : K}
include hb

omit hb in
@[simp] theorem roundTo_zero : roundTo b p (0 : K) = 0 := by
  have hround : roundEven (0 : K) = 0 := by
    apply roundEven_eq_of_near
    norm_num
  rw [roundTo, roundAt, zero_div, hround, Int.cast_zero, zero_mul]

theorem hasDigits_roundTo (hp : 0 < p) : HasDigits b p (roundTo b p x) := by
  apply hasDigits_roundAt hb hp
  rw [add_sub_cancel]
  exact (Int.lt_zpow_succ_log_self hb |x|).le

theorem abs_sub_roundTo_le (hx : x ≠ 0) :
    |x - roundTo b p x| ≤ (b : K) ^ (1 - p : ℤ) / 2 * |x| := by
  have hpos := abs_pos.mpr hx
  have hne : (b : K) ≠ 0 := by exact_mod_cast (hb.trans' one_pos).ne'
  calc
    _ ≤ (b : K) ^ (Int.log b |x| + 1 - p) / 2 := abs_sub_roundAt_le hb _ _
    _ = (b : K) ^ (1 - p : ℤ) / 2 * (b : K) ^ Int.log b |x| := by
      rw [show Int.log b |x| + 1 - (p : ℤ) = 1 - p + Int.log b |x| by ring, zpow_add₀ hne]
      ring
    _ ≤ (b : K) ^ (1 - p : ℤ) / 2 * |x| :=
      mul_le_mul_of_nonneg_left (Int.zpow_log_le_self hb hpos)
        (half_pos (zpow_base_pos hb _)).le

theorem roundTo_ne_zero (hp : 0 < p) (hx : x ≠ 0) : roundTo b p x ≠ 0 := by
  intro hzero
  have hnear := abs_sub_roundTo_le (p := p) hb hx
  have hpower : (b : K) ^ (1 - p : ℤ) ≤ 1 :=
    zpow_le_one_of_nonpos₀ (by exact_mod_cast hb.le) (by omega)
  have hhalf := mul_le_mul_of_nonneg_right hpower (abs_nonneg x)
  have hpos := abs_pos.mpr hx
  rw [hzero, sub_zero] at hnear
  linarith

end

/-! ## Numbers that come back

A number `d` with `p` digits, and a number `x` nearer to it than half of a last digit. -/

omit [FloorRing K] in
theorem error_le_half {b p : ℕ} (hb : 1 < b) {error : K} (hnonneg : 0 ≤ error)
    (herror : 2 * error * (b : K) ^ p < 1) : error ≤ 1 / 2 := by
  have hone : (1 : K) ≤ (b : K) ^ p := one_le_pow₀ (by exact_mod_cast hb.le)
  have hmul := mul_le_mul_of_nonneg_left hone hnonneg
  linarith

section
variable {b : ℕ} (hb : 1 < b) {p : ℕ} {d x error : K} (h : HasDigits b p d)
  (hnear : |x - d| ≤ error * |d|) (hnonneg : 0 ≤ error) (herror : 2 * error * (b : K) ^ p < 1)
include hb hnear hnonneg herror

theorem near_of_le {t : ℤ} (ht : |d| ≤ (b : K) ^ t) : |x - d| < (b : K) ^ (t - p) / 2 := by
  have hlast := zpow_base_pos (K := K) hb (t - p)
  have hgrid : (b : K) ^ t = (b : K) ^ p * (b : K) ^ (t - p) := by
    rw [← zpow_add_natCast hb, add_sub_cancel]
  calc
    |x - d| ≤ error * (b : K) ^ t := hnear.trans (mul_le_mul_of_nonneg_left ht hnonneg)
    _ = 2 * error * (b : K) ^ p * ((b : K) ^ (t - p) / 2) := by rw [hgrid]; ring
    _ < 1 * ((b : K) ^ (t - p) / 2) := mul_lt_mul_of_pos_right herror (half_pos hlast)
    _ = (b : K) ^ (t - p) / 2 := one_mul _

include h

/-- The number near `d` does not reach a power of the base that `d` does not reach. -/
theorem HasDigits.zpow_le_of_near {t : ℤ} (ht : (b : K) ^ t ≤ |x|) : (b : K) ^ t ≤ |d| := by
  by_contra hlow
  have hgap := h.abs_le hb (not_le.mp hlow)
  have hclose := near_of_le hb hnear hnonneg herror (not_le.mp hlow).le
  have htri := abs_sub_abs_le_abs_sub x d
  linarith [zpow_base_pos (K := K) hb (t - p)]

/-- The two are nearer than half of the last digit that the size of `x` allows. -/
theorem HasDigits.near_of_lt (hp : 0 < p) {t : ℤ} (ht : |x| < (b : K) ^ t) :
    |x - d| < (b : K) ^ (t - p) / 2 := by
  rcases le_or_gt |d| ((b : K) ^ t) with hd | hd
  · exact near_of_le hb hnear hnonneg herror hd
  have hlast := zpow_base_pos (K := K) hb (t + 1 - p)
  have htri := abs_sub_abs_le_abs_sub d x
  rw [abs_sub_comm] at htri
  have hnext : |d| ≤ (b : K) ^ (t + 1) := by
    have hbase : (2 : K) ≤ b := by exact_mod_cast hb
    have hhalf := mul_le_mul_of_nonneg_right (error_le_half hb hnonneg herror) (abs_nonneg d)
    calc
      |d| ≤ 2 * (b : K) ^ t := by linarith
      _ ≤ b * (b : K) ^ t := mul_le_mul_of_nonneg_right hbase (zpow_base_pos hb t).le
      _ = (b : K) ^ (t + 1) := by rw [zpow_add_one₀ (by linarith), mul_comm]
  have hclose := near_of_le hb hnear hnonneg herror hnext
  -- Past the power, `d` is a whole digit further away.
  obtain ⟨n, hn⟩ := h.exists_eq_mul hb hd.le
  have hfar : (b : K) ^ t + (b : K) ^ (t + 1 - p) ≤ |d| := by
    have hgrid := zpow_eq_mul (K := K) hb (show t + 1 - (p : ℤ) ≤ t by omega)
    rw [hn, abs_mul, abs_of_pos hlast, hgrid] at hd ⊢
    have hint := lt_of_mul_lt_mul_right hd hlast.le
    rw [← add_one_mul]
    apply mul_le_mul_of_nonneg_right _ hlast.le
    exact_mod_cast hint
  linarith

theorem roundTo_eq_of_near (hp : 0 < p) : roundTo b p x = d := by
  rcases eq_or_ne x 0 with rfl | hx
  · have hhalf := mul_le_mul_of_nonneg_right (error_le_half hb hnonneg herror) (abs_nonneg d)
    rw [zero_sub, abs_neg] at hnear
    have hd : d = 0 := abs_nonpos_iff.mp (by linarith)
    rw [hd, roundTo_zero]
  have hlevel := Int.zpow_log_le_self hb (abs_pos.mpr hx)
  obtain ⟨n, hn⟩ := h.exists_eq_mul hb (h.zpow_le_of_near hb hnear hnonneg herror hlevel)
  have hclose := h.near_of_lt hb hnear hnonneg herror hp (Int.lt_zpow_succ_log_self hb |x|)
  rw [roundTo, roundAt_eq_of_near hb (hn ▸ hclose), hn]

end
end Gripperz.Library
