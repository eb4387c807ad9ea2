import Mathlib.Algebra.Order.Field.Power
import Mathlib.Data.Rat.Floor
import Gripperz.Library.Rounding

/-! # Floating-point formats

A format has binary numbers of so many digits. The last digit of a number stands at an exponent
of the format or above it, and there is a largest number.
-/
namespace Gripperz.Library

structure FloatFormat where
  precision : ℕ
  minExponent : ℤ
  maxExponent : ℤ
  precision_pos : 0 < precision
  minExponent_le : minExponent ≤ maxExponent

/-- The format of `double`. -/
def binary64 : FloatFormat where
  precision := 53
  minExponent := -1074
  maxExponent := 971
  precision_pos := by decide
  minExponent_le := by decide

namespace FloatFormat
variable (format : FloatFormat)

/-- Where the last digit of a number stands. -/
def exponent (y : ℚ) : ℤ := max (Int.log 2 |y| + 1 - format.precision) format.minExponent

/-- The nearest number of the format, if there were no largest. -/
def round (y : ℚ) : ℚ := roundAt 2 (format.exponent y) y

def largest : ℚ := ((2 : ℤ) ^ format.precision - 1 : ℤ) * (2 : ℚ) ^ format.maxExponent

/-- The numbers from which on the error of a rounding is small beside the number. -/
def FarFromZero (y : ℚ) : Prop := (2 : ℚ) ^ (format.minExponent + format.precision - 2) ≤ |y|

/-- The numbers of the format. -/
structure Value where
  value : ℚ
  round_value : format.round value = value
  abs_value_le : |value| ≤ format.largest

variable {format} {x y : ℚ}

theorem Value.ext {x y : format.Value} (h : x.value = y.value) : x = y := by
  cases x
  cases y
  simpa using h

theorem log_add_one_le (y : ℚ) : Int.log 2 |y| + 1 ≤ format.precision + format.exponent y := by
  have hle := le_max_left (Int.log 2 |y| + 1 - format.precision) format.minExponent
  rw [exponent]
  omega

/-! ## Rounding twice -/

@[simp] theorem round_zero : format.round 0 = 0 := by
  have hnear : |(0 : ℚ) - (0 : ℤ) * ((2 : ℕ) : ℚ) ^ format.exponent 0| <
      ((2 : ℕ) : ℚ) ^ format.exponent 0 / 2 := by
    rw [Int.cast_zero, zero_mul, sub_self, abs_zero]
    exact half_pos (zpow_base_pos one_lt_two _)
  rw [round, roundAt_eq_of_near one_lt_two hnear, Int.cast_zero, zero_mul]

theorem hasDigits_round (y : ℚ) : HasDigits 2 format.precision (format.round y) := by
  apply hasDigits_roundAt one_lt_two format.precision_pos
  calc
    |y| ≤ ((2 : ℕ) : ℚ) ^ (Int.log 2 |y| + 1) := (Int.lt_zpow_succ_log_self one_lt_two _).le
    _ ≤ _ := zpow_base_le one_lt_two (log_add_one_le y)

theorem exists_round_eq_mul (y : ℚ) :
    ∃ n : ℤ, format.round y = n * ((2 : ℕ) : ℚ) ^ format.minExponent := by
  have hexponent : format.minExponent ≤ format.exponent y := le_max_right _ _
  have hcoarse := zpow_eq_mul (K := ℚ) one_lt_two hexponent
  refine ⟨roundEven (y / ((2 : ℕ) : ℚ) ^ format.exponent y) *
    (((2 : ℕ) : ℤ) ^ (format.exponent y - format.minExponent).toNat), ?_⟩
  rw [Int.cast_mul, mul_assoc, ← hcoarse]
  rfl

/-- A large number with few digits is on the grid of every number that is not larger. -/
theorem exists_eq_mul_exponent (h : HasDigits 2 format.precision x)
    (hmul : ∃ n : ℤ, x = n * ((2 : ℕ) : ℚ) ^ format.minExponent)
    (hy : ((2 : ℕ) : ℚ) ^ Int.log 2 |y| ≤ |x|) :
    ∃ n : ℤ, x = n * ((2 : ℕ) : ℚ) ^ format.exponent y := by
  rcases max_choice (Int.log 2 |y| + 1 - format.precision : ℤ) format.minExponent with
    hmax | hmax
  · rw [exponent, hmax]
    exact h.exists_eq_mul one_lt_two hy
  · rw [exponent, hmax]
    exact hmul

theorem round_of_hasDigits (h : HasDigits 2 format.precision x)
    (hmul : ∃ n : ℤ, x = n * ((2 : ℕ) : ℚ) ^ format.minExponent) : format.round x = x := by
  rcases eq_or_ne x 0 with rfl | hx
  · exact round_zero
  have hlevel := Int.zpow_log_le_self (b := 2) one_lt_two (abs_pos.mpr hx)
  obtain ⟨n, hn⟩ := exists_eq_mul_exponent h hmul hlevel
  have hround := roundAt_mul (K := ℚ) one_lt_two n (format.exponent x)
  rwa [← hn] at hround

@[simp] theorem round_round (y : ℚ) : format.round (format.round y) = format.round y :=
  round_of_hasDigits (hasDigits_round y) (exists_round_eq_mul y)

/-! ## Numbers in range -/

theorem abs_round_le (h : |y| ≤ format.largest) : |format.round y| ≤ format.largest := by
  rcases eq_or_ne y 0 with rfl | hy
  · rwa [round_zero]
  have hlevel := Int.zpow_log_le_self (b := 2) one_lt_two (abs_pos.mpr hy)
  have hbelow : format.largest < ((2 : ℕ) : ℚ) ^ (format.precision + format.maxExponent) := by
    have hu : (0 : ℚ) < (2 : ℚ) ^ format.maxExponent := by positivity
    rw [zpow_add_natCast one_lt_two, largest]
    push_cast
    exact mul_lt_mul_of_pos_right (sub_one_lt _) hu
  have hlog : Int.log 2 |y| ≤ format.precision + format.maxExponent - 1 := by
    apply le_of_zpow_lt (K := ℚ) one_lt_two
    rw [sub_add_cancel]
    exact (hlevel.trans h).trans_lt hbelow
  have hexponent : format.exponent y ≤ format.maxExponent := by
    rw [exponent, max_le_iff]
    exact ⟨by omega, format.minExponent_le⟩
  have hgrid : format.largest = (((2 : ℤ) ^ format.precision - 1) *
      ((2 : ℕ) : ℤ) ^ (format.maxExponent - format.exponent y).toNat : ℤ) *
        ((2 : ℕ) : ℚ) ^ format.exponent y := by
    rw [largest, show (2 : ℚ) = ((2 : ℕ) : ℚ) from rfl, zpow_eq_mul (K := ℚ) one_lt_two hexponent]
    push_cast
    ring
  rw [hgrid] at h ⊢
  exact abs_roundAt_le one_lt_two h

/-- The number a text stands for, if it is not too large. -/
def ofRat? (y : ℚ) : Option format.Value :=
  if h : |format.round y| ≤ format.largest then some ⟨format.round y, round_round y, h⟩ else none

theorem ofRat?_of_round {x : format.Value} (h : format.round y = x.value) :
    ofRat? y = some x := by
  have hle : |format.round y| ≤ format.largest := h ▸ x.abs_value_le
  rw [ofRat?, dif_pos hle]
  exact congrArg some (Value.ext h)

theorem round_eq_of_ofRat? {x : format.Value} (h : ofRat? y = some x) :
    format.round y = x.value := by
  unfold ofRat? at h
  split at h
  · cases h
    rfl
  · cases h

/-! ## Decimal digits kept -/

theorem abs_sub_round_le (h : format.FarFromZero y) :
    |format.round y - y| ≤ (2 : ℚ) ^ (1 - format.precision : ℤ) * |y| := by
  have htwo : (2 : ℚ) ≠ 0 := two_ne_zero
  have hpos : 0 < |y| := lt_of_lt_of_le (by positivity) h
  have herror := abs_sub_roundAt_le (K := ℚ) one_lt_two (format.exponent y) y
  rw [abs_sub_comm]
  refine herror.trans ?_
  rcases max_choice (Int.log 2 |y| + 1 - format.precision : ℤ) format.minExponent with
    hmax | hmax
  · rw [exponent, hmax]
    have hlevel := Int.zpow_log_le_self (b := 2) one_lt_two hpos
    have hsplit : (2 : ℚ) ^ (Int.log 2 |y| + 1 - (format.precision : ℤ)) =
        (2 : ℚ) ^ (1 - format.precision : ℤ) * (2 : ℚ) ^ Int.log 2 |y| := by
      rw [← zpow_add₀ htwo]
      congr 1
      ring
    push_cast at hlevel ⊢
    rw [hsplit]
    have hu : (0 : ℚ) ≤ (2 : ℚ) ^ (1 - format.precision : ℤ) := by positivity
    have hscaled := mul_le_mul_of_nonneg_left hlevel hu
    have hnonneg := mul_nonneg hu hpos.le
    linarith
  · rw [exponent, hmax]
    have hsplit : (2 : ℚ) ^ format.minExponent / 2 = (2 : ℚ) ^ (1 - format.precision : ℤ) *
        (2 : ℚ) ^ (format.minExponent + format.precision - 2) := by
      rw [← zpow_add₀ htwo, div_eq_mul_inv, ← zpow_neg_one, ← zpow_add₀ htwo]
      congr 1
      ring
    push_cast
    rw [hsplit]
    exact mul_le_mul_of_nonneg_left h (by positivity)

/-- Few enough digits come back from the nearest number of the format. -/
theorem roundTo_round {b p : ℕ} (hb : 1 < b) (hp : 0 < p)
    (hprecision : 2 * (2 : ℚ) ^ (1 - format.precision : ℤ) * (b : ℚ) ^ p < 1)
    (h : HasDigits b p y) (hy : y = 0 ∨ format.FarFromZero y) :
    roundTo b p (format.round y) = y := by
  rcases hy with rfl | hy
  · rw [round_zero, roundTo_zero]
  · exact roundTo_eq_of_near hb h (abs_sub_round_le hy) (by positivity) hprecision hp

/-! ## Numbers kept by many digits -/

theorem Value.hasDigits (x : format.Value) : HasDigits 2 format.precision x.value :=
  x.round_value ▸ hasDigits_round x.value

theorem Value.exists_eq_mul (x : format.Value) :
    ∃ n : ℤ, x.value = n * ((2 : ℕ) : ℚ) ^ format.minExponent :=
  x.round_value ▸ exists_round_eq_mul x.value

/-- A number of the format that is small beside the last digit is zero. -/
theorem Value.eq_zero_of_lt {x : format.Value} {t : ℤ} (hx : |x.value| < ((2 : ℕ) : ℚ) ^ t)
    (ht : t ≤ format.minExponent) : x.value = 0 := by
  obtain ⟨n, hn⟩ := x.exists_eq_mul
  have hu : (0 : ℚ) < ((2 : ℕ) : ℚ) ^ format.minExponent := zpow_base_pos one_lt_two _
  have hlt : |(n : ℚ)| < 1 := by
    rw [hn, abs_mul, abs_of_pos hu] at hx
    exact lt_of_mul_lt_mul_right ((hx.trans_le (zpow_base_le one_lt_two ht)).trans_eq
      (one_mul _).symm) hu.le
  have hzero : n = 0 := Int.abs_lt_one_iff.mp (by exact_mod_cast hlt)
  rw [hn, hzero, Int.cast_zero, zero_mul]

/-- No number of the format is nearer. -/
theorem abs_sub_round_le_abs_sub (x : format.Value) (y : ℚ) :
    |y - format.round y| ≤ |y - x.value| := by
  rcases eq_or_ne y 0 with rfl | hy
  · rw [round_zero, sub_zero, abs_zero]
    exact abs_nonneg _
  have hprecision := format.precision_pos
  rcases le_or_gt (((2 : ℕ) : ℚ) ^ Int.log 2 |y|) |x.value| with hlevel | hbelow
  · obtain ⟨n, hn⟩ := exists_eq_mul_exponent x.hasDigits x.exists_eq_mul hlevel
    rw [hn]
    exact abs_sub_roundAt_le_abs_sub one_lt_two _ n y
  rcases le_or_gt (format.exponent y) (Int.log 2 |y|) with hexponent | hcoarse
  · -- The power of two below `y` is between the two.
    have hle := Int.zpow_log_le_self (b := 2) one_lt_two (abs_pos.mpr hy)
    have hpower := zpow_eq_mul (K := ℚ) one_lt_two hexponent
    set n := ((2 : ℕ) : ℤ) ^ (Int.log 2 |y| - format.exponent y).toNat
    have hnear : |y - format.round y| ≤ |y| - ((2 : ℕ) : ℚ) ^ Int.log 2 |y| := by
      rcases lt_or_gt_of_ne hy with hneg | hpos
      · have hround := abs_sub_roundAt_le_abs_sub one_lt_two (format.exponent y) (-n) y
        rw [Int.cast_neg, neg_mul, ← hpower, sub_neg_eq_add] at hround
        rw [abs_of_neg hneg] at hle hround ⊢
        refine hround.trans (le_of_eq ?_)
        rw [abs_of_nonpos (by linarith), neg_add']
      · have hround := abs_sub_roundAt_le_abs_sub one_lt_two (format.exponent y) n y
        rw [← hpower] at hround
        rw [abs_of_pos hpos] at hle hround ⊢
        exact hround.trans (abs_of_nonneg (sub_nonneg.mpr hle)).le
    have htri := abs_sub_abs_le_abs_sub y x.value
    linarith
  · have hmin : Int.log 2 |y| ≤ format.minExponent := by
      rw [exponent] at hcoarse
      omega
    have hround := abs_sub_roundAt_le_abs_sub one_lt_two (format.exponent y) 0 y
    rw [Int.cast_zero, zero_mul] at hround
    rwa [Value.eq_zero_of_lt hbelow hmin]

/-- A number of the format is nearest to every number near enough to it. -/
theorem round_eq_of_near {error : ℚ} {x : format.Value} (hnear : |y - x.value| ≤ error * |x.value|)
    (hnonneg : 0 ≤ error) (herror : 2 * error * ((2 : ℕ) : ℚ) ^ format.precision < 1) (hy : y ≠ 0) :
    format.round y = x.value := by
  have hlast : |y - x.value| < ((2 : ℕ) : ℚ) ^ format.exponent y / 2 := by
    have hbelow : |y| < ((2 : ℕ) : ℚ) ^ (format.exponent y + format.precision) := by
      refine (Int.lt_zpow_succ_log_self one_lt_two _).trans_le (zpow_base_le one_lt_two ?_)
      rw [add_comm (format.exponent y)]
      exact log_add_one_le y
    have hclose :=
      x.hasDigits.near_of_lt one_lt_two hnear hnonneg herror format.precision_pos hbelow
    rwa [add_sub_cancel_right] at hclose
  have hlevel := x.hasDigits.zpow_le_of_near one_lt_two hnear hnonneg herror
    (Int.zpow_log_le_self one_lt_two (abs_pos.mpr hy))
  obtain ⟨n, hn⟩ := exists_eq_mul_exponent x.hasDigits x.exists_eq_mul hlevel
  rw [round, roundAt_eq_of_near one_lt_two (hn ▸ hlast), hn]

/-- Enough digits of a number of the format are nearest to it again. -/
theorem round_roundTo {b p : ℕ} (hb : 1 < b) (hp : 0 < p)
    (hdigits : (b : ℚ) ^ (1 - p : ℤ) * 2 ^ format.precision < 1) (x : format.Value) :
    format.round (roundTo b p x.value) = x.value := by
  rcases eq_or_ne x.value 0 with hx | hx
  · rw [hx, roundTo_zero, round_zero]
  have hnear := abs_sub_roundTo_le (p := p) hb hx
  rw [abs_sub_comm] at hnear
  apply round_eq_of_near hnear (half_pos (zpow_base_pos hb _)).le
  · rw [mul_div_cancel₀ _ two_ne_zero]
    exact_mod_cast hdigits
  · exact roundTo_ne_zero hb hp hx

end FloatFormat
end Gripperz.Library
