import Gripperz.Util.StreamedNumbers

/-! # Six digits of a double

What a double becomes when it is written to a stream and read again. It moves by at most a
hundred-thousandth of itself, and the next time it is written as the same text.
-/
namespace Gripperz.Util
open Library

/-- Six digits of the largest double are `1.79769e308`. -/
theorem largest_bounds : 179769 * (10 : ℚ) ^ (303 : ℕ) ≤ binary64.largest ∧
    binary64.largest < (179769 + 1 / 2) * (10 : ℚ) ^ (303 : ℕ) := by
  have htwo : (2 : ℚ) ^ (971 : ℤ) = ((2 : ℚ) ^ 242) ^ 4 * 2 ^ 3 := by
    rw [← pow_mul, ← pow_add, ← zpow_natCast]
    rfl
  have hten : (10 : ℚ) ^ 303 = ((10 : ℚ) ^ 101) ^ 3 := by rw [← pow_mul]
  rw [FloatFormat.largest, show binary64.maxExponent = 971 from rfl, htwo, hten]
  norm_num [binary64]

theorem zpow_log_add_one (y : ℚ) : (10 : ℚ) ^ (Int.log 10 y + 1) =
    ((10 ^ 6 : ℤ) : ℚ) * ((10 : ℕ) : ℚ) ^ (Int.log 10 y + 1 - (6 : ℕ)) := by
  have hpower := zpow_add_natCast (K := ℚ) (b := 10) (by decide) (Int.log 10 y + 1 - (6 : ℕ)) 6
  rw [add_sub_cancel] at hpower
  exact_mod_cast hpower

theorem log_le (x : Double) : Int.log 10 |x.value| ≤ 308 := by
  by_contra hlog
  have hne : x.value ≠ 0 := by
    intro hzero
    rw [hzero, abs_zero, Int.log_zero_right] at hlog
    omega
  have hpast : ((10 : ℕ) : ℚ) ^ ((6 + 303 : ℕ) : ℤ) ≤ binary64.largest := by
    have hlevel := Int.zpow_log_le_self (b := 10) (by decide) (abs_pos.mpr hne)
    exact (zpow_le_zpow_right₀ (by norm_num) (by omega)).trans (hlevel.trans x.abs_value_le)
  rw [zpow_natCast, pow_add] at hpast
  have hlt := lt_of_mul_lt_mul_right (hpast.trans_lt largest_bounds.2) (by positivity)
  norm_num at hlt

/-- The doubles with as many digits as the largest. -/
theorem abs_roundAt_le_largest (x : Double) :
    |roundAt 10 (308 + 1 - (6 : ℕ)) x.value| ≤ binary64.largest := by
  have hpower : ((10 : ℕ) : ℚ) ^ ((308 : ℤ) + 1 - (6 : ℕ)) = (10 : ℚ) ^ (303 : ℕ) := by
    rw [show (308 : ℤ) + 1 - (6 : ℕ) = (303 : ℕ) by norm_num, zpow_natCast]
    norm_num
  have hpos : (0 : ℚ) < (10 : ℚ) ^ 303 := by positivity
  rw [roundAt, hpower, abs_mul, abs_of_pos hpos]
  refine le_trans (mul_le_mul_of_nonneg_right ?_ hpos.le) largest_bounds.1
  have hscaled : |x.value / (10 : ℚ) ^ 303| < 179769 + 1 / 2 := by
    rw [abs_div, abs_of_pos hpos, div_lt_iff₀ hpos]
    exact x.abs_value_le.trans_lt largest_bounds.2
  generalize x.value / (10 : ℚ) ^ 303 = scaled at hscaled ⊢
  have hround := abs_sub_roundEven_le scaled
  have htri := abs_sub_abs_le_abs_sub (roundEven scaled : ℚ) scaled
  rw [abs_sub_comm] at htri
  have hlt : |(roundEven scaled : ℚ)| < (179769 + 1 : ℤ) := by
    push_cast
    linarith
  have hle : |roundEven scaled| < 179769 + 1 := by exact_mod_cast hlt
  exact_mod_cast Int.lt_add_one_iff.mp hle

/-- Six digits of a double are not past the largest double. -/
theorem abs_roundTo_le_largest (x : Double) : |roundTo 10 6 x.value| ≤ binary64.largest := by
  have hbelow := Int.lt_zpow_succ_log_self (b := 10) (by decide) |x.value|
  rw [roundTo]
  rcases (log_le x).lt_or_eq with hlog | hlog
  · have hpower := zpow_log_add_one |x.value|
    calc
      _ ≤ _ := abs_roundAt_le (by decide) (hpower ▸ hbelow.le)
      _ = (10 : ℚ) ^ (Int.log 10 |x.value| + 1) := hpower.symm
      _ ≤ (10 : ℚ) ^ ((5 + 303 : ℕ) : ℤ) := zpow_le_zpow_right₀ (by norm_num) (by omega)
      _ = 100000 * (10 : ℚ) ^ 303 := by rw [zpow_natCast, pow_add]; norm_num
      _ ≤ 179769 * (10 : ℚ) ^ 303 := mul_le_mul_of_nonneg_right (by norm_num) (by positivity)
      _ ≤ _ := largest_bounds.1
  · rw [hlog]
    exact abs_roundAt_le_largest x

/-- The double nearest to six digits of a double. -/
def sixDigits (x : Double) : Double :=
  ⟨binary64.round (roundTo 10 6 x.value), FloatFormat.round_round _,
    FloatFormat.abs_round_le (abs_roundTo_le_largest x)⟩

/-- What a reader has of a double that was written to a stream. -/
theorem read_streamed_six {lexicalCast : String → Option Double} (h : ReadsNearest lexicalCast)
    (x : Double) : lexicalCast (streamed 6 x) = some (sixDigits x) := by
  rw [read_streamed h (by decide)]
  exact FloatFormat.ofRat?_of_round rfl

theorem abs_sub_sixDigits_le (x : Double) :
    |x.value - (sixDigits x).value| ≤ 1 / 100000 * |x.value| := by
  rcases eq_or_ne x.value 0 with hx | hx
  · have hzero : (sixDigits x).value = 0 := by
      change binary64.round (roundTo 10 6 x.value) = 0
      rw [hx, roundTo_zero, FloatFormat.round_zero]
    rw [hx, hzero, sub_zero, abs_zero, mul_zero]
  -- The double that is read is no further from the digits than the double that was written.
  have hnearest := FloatFormat.abs_sub_round_le_abs_sub x (roundTo 10 6 x.value)
  have hdigits := abs_sub_roundTo_le (p := 6) (b := 10) (by decide) hx
  have htri := abs_sub_le x.value (roundTo 10 6 x.value) (sixDigits x).value
  rw [abs_sub_comm (roundTo 10 6 x.value) x.value] at hnearest
  have herror : ((10 : ℕ) : ℚ) ^ (1 - (6 : ℕ) : ℤ) / 2 = 1 / 200000 := by norm_num
  rw [herror] at hdigits
  change |roundTo 10 6 x.value - (sixDigits x).value| ≤ _ at hnearest
  linarith

/-- Zero, or no smaller than the smallest normal double. -/
def Normal (x : Double) : Prop := x.value = 0 ∨ (2 : ℚ) ^ (-1022 : ℤ) ≤ |x.value|

theorem normal_toDouble {d : Decimal} (hd : 1 ≤ |d.value|) : Normal d.toDouble := by
  right
  have hne : d.value ≠ 0 := abs_pos.mp (one_pos.trans_le hd)
  have hnear : |d.value - d.toDouble.value| ≤ 1 / 2 * |d.value| := by
    rw [abs_sub_comm]
    refine (FloatFormat.abs_sub_round_le (d.far.resolve_left hne)).trans ?_
    exact mul_le_mul_of_nonneg_right (by norm_num [binary64]) (abs_nonneg _)
  have hhalf := mul_abs_le_of_near hnear
  calc
    (2 : ℚ) ^ (-1022 : ℤ) ≤ (2 : ℚ) ^ (-1 : ℤ) := zpow_le_zpow_right₀ one_le_two (by decide)
    _ = (1 - 1 / 2) * 1 := by norm_num
    _ ≤ (1 - 1 / 2) * |d.value| := mul_le_mul_of_nonneg_left hd (by norm_num)
    _ ≤ |d.toDouble.value| := hhalf

/-- The six digits are still those of the double that is read. -/
theorem roundTo_sixDigits {x : Double} (hx : Normal x) :
    roundTo 10 6 (sixDigits x).value = roundTo 10 6 x.value := by
  have hsix : HasDigits 10 6 (roundTo 10 6 x.value) := hasDigits_roundTo (by decide) (by decide)
  apply FloatFormat.roundTo_round (by decide) (by decide) (by norm_num [binary64]) hsix
  rcases hx with hx | hx
  · exact .inl (by rw [hx, roundTo_zero])
  · right
    have hne : x.value ≠ 0 := abs_pos.mp (lt_of_lt_of_le (by positivity) hx)
    have hdigits : |x.value - roundTo 10 6 x.value| ≤ 1 / 2 * |x.value| := by
      refine (abs_sub_roundTo_le (by decide) hne).trans ?_
      exact mul_le_mul_of_nonneg_right (by norm_num) (abs_nonneg _)
    have hhalf := mul_abs_le_of_near hdigits
    have hpower : (2 : ℚ) ^ (-1023 : ℤ) = 1 / 2 * (2 : ℚ) ^ (-1022 : ℤ) := by
      rw [show (-1023 : ℤ) = -1 + -1022 by norm_num, zpow_add₀ (by norm_num)]
      norm_num
    rw [farFromZero_iff, hpower]
    linarith

/-- Two doubles are written as one text if and only if they have the same six digits. -/
theorem streamed_eq_streamed_iff {x y : Double} :
    streamed 6 x = streamed 6 y ↔ roundTo 10 6 x.value = roundTo 10 6 y.value := by
  constructor
  · intro htext
    have hread := congrArg (fun text => readDecimal text.toList) htext
    simpa [streamed, Numeral.readDecimal_text, Numeral.value_general] using hread
  · intro hdigits
    rw [streamed, streamed, Numeral.general, Numeral.general, hdigits]

theorem streamed_sixDigits {x : Double} (hx : Normal x) :
    streamed 6 (sixDigits x) = streamed 6 x :=
  streamed_eq_streamed_iff.mpr (roundTo_sixDigits hx)

end Gripperz.Util
