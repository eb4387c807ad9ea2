import Mathlib.Algebra.Order.Archimedean.Basic
import Mathlib.Data.Finite.Sum
import Mathlib.Data.Fintype.Option
import Mathlib.Data.Int.Interval
import Mathlib.Order.WithBot
import Gripperz.Library.FloatFormat

/-! # Floating-point numbers

The numbers of a format with the two infinities and the one that is no number. Sums, differences
and quotients are the nearest numbers of the format, and infinite past the largest.
-/
namespace Gripperz.Library.FloatFormat

/-! ## Rounding is monotone -/

section
variable {format : FloatFormat} {y z : ℚ}

/-- The format with a largest number past a bound. -/
theorem exists_wider (format : FloatFormat) (bound : ℚ) : ∃ wider : FloatFormat,
    (∀ y, wider.round y = format.round y) ∧ bound ≤ wider.largest := by
  obtain ⟨n, hn⟩ := pow_unbounded_of_one_lt bound (one_lt_two : (1 : ℚ) < 2)
  set top := max format.minExponent n
  refine ⟨{ format with maxExponent := top, minExponent_le := le_max_left _ _ }, fun y => rfl, ?_⟩
  have hdigits : (1 : ℚ) ≤ ((2 : ℤ) ^ format.precision - 1 : ℤ) := by
    have htwo : (2 : ℤ) ^ 1 ≤ 2 ^ format.precision :=
      pow_le_pow_right₀ (by decide) format.precision_pos
    exact_mod_cast (by omega : (1 : ℤ) ≤ 2 ^ format.precision - 1)
  have hpower : (2 : ℚ) ^ n ≤ (2 : ℚ) ^ top := by
    rw [← zpow_natCast]
    exact zpow_le_zpow_right₀ one_le_two (le_max_right _ _)
  calc
    bound ≤ 1 * (2 : ℚ) ^ top := by linarith
    _ ≤ _ := mul_le_mul_of_nonneg_right hdigits (by positivity)

theorem round_mono (h : y ≤ z) : format.round y ≤ format.round z := by
  rcases h.eq_or_lt with rfl | hlt
  · exact le_rfl
  by_contra hless
  have hless := not_le.mp hless
  obtain ⟨wider, hround, hlargest⟩ :=
    exists_wider format (max |format.round y| |format.round z|)
  let low : wider.Value := ⟨format.round y, by rw [hround, round_round],
    (le_max_left _ _).trans hlargest⟩
  let high : wider.Value := ⟨format.round z, by rw [hround, round_round],
    (le_max_right _ _).trans hlargest⟩
  have hlow := abs_sub_round_le_abs_sub high y
  have hhigh := abs_sub_round_le_abs_sub low z
  rw [hround] at hlow hhigh
  change |y - format.round y| ≤ |y - format.round z| at hlow
  change |z - format.round z| ≤ |z - format.round y| at hhigh
  -- each number is on its own side of the middle, which has the two the other way around
  have hbelow : format.round y + format.round z ≤ 2 * y := by
    by_contra hmiddle
    have hproduct := mul_pos (sub_pos.mpr hless) (sub_pos.mpr (not_le.mp hmiddle))
    have hsquares := sq_le_sq.mpr hlow
    linarith
  have habove : 2 * z ≤ format.round y + format.round z := by
    by_contra hmiddle
    have hproduct := mul_pos (sub_pos.mpr hless) (sub_pos.mpr (not_le.mp hmiddle))
    have hsquares := sq_le_sq.mpr hhigh
    linarith
  linarith

theorem round_nonneg (h : 0 ≤ y) : 0 ≤ format.round y := by
  have hzero : format.round 0 ≤ format.round y := round_mono h
  rwa [round_zero] at hzero

theorem round_nonpos (h : y ≤ 0) : format.round y ≤ 0 := by
  have hzero : format.round y ≤ format.round 0 := round_mono h
  rwa [round_zero] at hzero

end

/-! ## Finitely many -/

variable {format : FloatFormat}

instance : DecidableEq format.Value := fun x y =>
  decidable_of_iff (x.value = y.value) ⟨Value.ext, fun h => congrArg Value.value h⟩

instance : Finite format.Value := by
  choose digits hdigits using fun x : format.Value => x.exists_eq_mul
  have hunit : (0 : ℚ) < ((2 : ℕ) : ℚ) ^ format.minExponent := zpow_base_pos one_lt_two _
  obtain ⟨bound, hbound⟩ := exists_nat_gt (format.largest / ((2 : ℕ) : ℚ) ^ format.minExponent)
  have hrange (x : format.Value) : digits x ∈ Set.Icc (-(bound : ℤ)) bound := by
    have hle := x.abs_value_le
    rw [hdigits x, abs_mul, abs_of_pos hunit, ← le_div_iff₀ hunit] at hle
    have hdigit : |digits x| ≤ bound := by exact_mod_cast (hle.trans hbound.le)
    exact abs_le.mp hdigit
  refine Finite.of_injective (fun x => (⟨digits x, hrange x⟩ : Set.Icc (-(bound : ℤ)) bound)) ?_
  intro x y h
  apply Value.ext
  rw [hdigits x, hdigits y, show digits x = digits y from congrArg Subtype.val h]

/-! ## Numbers with infinities -/

/-- Zeros have no sign. -/
inductive Number (format : FloatFormat) where
  | nan
  | infinite (negative : Bool)
  | finite (x : format.Value)
  deriving DecidableEq

namespace Number

/-- The nearest number, infinite past the largest. -/
def ofRat (y : ℚ) : format.Number :=
  match ofRat? y with
  | none => .infinite (y < 0)
  | some x => .finite x

instance : Zero format.Number := ⟨ofRat 0⟩
instance : IntCast format.Number := ⟨fun n => ofRat n⟩
instance : OfScientific format.Number := ⟨fun m s e => ofRat (OfScientific.ofScientific m s e)⟩

instance : Add format.Number where
  add
    | .nan, _ | _, .nan => .nan
    | .infinite a, .infinite b => if a = b then .infinite a else .nan
    | .infinite a, .finite _ => .infinite a
    | .finite _, .infinite b => .infinite b
    | .finite x, .finite y => ofRat (x.value + y.value)

instance : Sub format.Number where
  sub
    | .nan, _ | _, .nan => .nan
    | .infinite a, .infinite b => if a = b then .nan else .infinite a
    | .infinite a, .finite _ => .infinite a
    | .finite _, .infinite b => .infinite !b
    | .finite x, .finite y => ofRat (x.value - y.value)

/-- Nothing is divided by a zero, which would have to have a sign. -/
instance : Div format.Number where
  div
    | .nan, _ | _, .nan | .infinite _, .infinite _ => .nan
    | .finite _, .infinite _ => 0
    | .infinite a, .finite y =>
      if y.value = 0 then .nan else .infinite (a.xor (y.value < 0))
    | .finite x, .finite y => if y.value = 0 then .nan else ofRat (x.value / y.value)

/-- Where a number stands among the infinities; what is no number stands nowhere. -/
def extended : format.Number → WithBot (WithTop ℚ)
  | .nan => ⊥
  | .infinite true => ⊥
  | .infinite false => ⊤
  | .finite x => ((x.value : WithTop ℚ) : WithBot (WithTop ℚ))

instance : LE format.Number :=
  ⟨fun x y => x ≠ .nan ∧ y ≠ .nan ∧ x.extended ≤ y.extended⟩

instance : DecidableLE format.Number := fun x y =>
  inferInstanceAs (Decidable (x ≠ .nan ∧ y ≠ .nan ∧ x.extended ≤ y.extended))

instance : Finite format.Number := by
  refine Finite.of_injective (β := Option (Bool ⊕ format.Value)) (fun
    | .nan => none
    | .infinite a => some (.inl a)
    | .finite x => some (.inr x)) ?_
  intro x y h
  cases x <;> cases y <;> simp_all

/-! ## Order -/

variable {x y z d : format.Number}

theorem le_trans (h : x ≤ y) (h' : y ≤ z) : x ≤ z :=
  ⟨h.1, h'.2.1, h.2.2.trans h'.2.2⟩

theorem le_of_not_le (hx : x ≠ .nan) (hy : y ≠ .nan) (h : ¬ x ≤ y) : y ≤ x := by
  refine ⟨hy, hx, (le_total _ _).resolve_left fun hle => h ⟨hx, hy, hle⟩⟩

@[simp] theorem finite_le_finite {x y : format.Value} :
    (finite x : format.Number) ≤ finite y ↔ x.value ≤ y.value := by
  change (_ ∧ _ ∧ _) ↔ _
  simp [extended]

theorem finite_le_infinite (x : format.Value) : (finite x : format.Number) ≤ infinite false :=
  ⟨by simp, by simp, by simp [extended]⟩

theorem infinite_le {x : format.Number} (h : x ≠ .nan) : infinite true ≤ x :=
  ⟨by simp, h, bot_le⟩

theorem le_infinite {x : format.Number} (h : x ≠ .nan) : x ≤ infinite false := by
  refine ⟨h, by simp, ?_⟩
  cases x with
  | nan => exact absurd rfl h
  | infinite a => cases a <;> simp [extended]
  | finite x => simp [extended]

theorem eq_infinite_of_le (h : infinite false ≤ x) : x = infinite false := by
  have hle := h.2.2
  cases x with
  | nan => exact absurd h.2.1 (by simp)
  | infinite a => cases a <;> simp_all [extended]
  | finite x => simp [extended] at hle

@[simp] theorem not_nan_le : ¬ (nan : format.Number) ≤ x := fun h => h.1 rfl

@[simp] theorem not_le_nan : ¬ x ≤ (nan : format.Number) := fun h => h.2.1 rfl

theorem ofRat_ne_nan (y : ℚ) : (ofRat y : format.Number) ≠ .nan := by
  rw [ofRat]
  cases (ofRat? y : Option format.Value) <;> simp

theorem ofRat_mono {y z : ℚ} (h : y ≤ z) : (ofRat y : format.Number) ≤ ofRat z := by
  have hround : format.round y ≤ format.round z := round_mono h
  have hfinite (y : ℚ) (hy : |format.round y| ≤ format.largest) :
      (ofRat y : format.Number) = finite ⟨format.round y, round_round y, hy⟩ := by
    rw [ofRat, ofRat?, dif_pos hy]
  have hinfinite (y : ℚ) (hy : ¬ |format.round y| ≤ format.largest) :
      (ofRat y : format.Number) = infinite (y < 0) := by
    rw [ofRat, ofRat?, dif_neg hy]
  by_cases hy : |format.round y| ≤ format.largest
  · by_cases hz : |format.round z| ≤ format.largest
    · rw [hfinite y hy, hfinite z hz, finite_le_finite]
      exact hround
    · have hsign : ¬ z < 0 := by
        intro hneg
        have hnonpos : format.round z ≤ 0 := round_nonpos hneg.le
        rw [abs_of_nonpos (hround.trans hnonpos)] at hy
        rw [abs_of_nonpos hnonpos] at hz
        linarith
      rw [hinfinite z hz, decide_eq_false hsign]
      exact le_infinite (ofRat_ne_nan y)
  · by_cases hneg : y < 0
    · rw [hinfinite y hy, decide_eq_true hneg]
      exact infinite_le (ofRat_ne_nan z)
    · have hnonneg : 0 ≤ format.round y := round_nonneg (not_lt.mp hneg)
      have hz : ¬ |format.round z| ≤ format.largest := by
        rw [abs_of_nonneg hnonneg] at hy
        rw [abs_of_nonneg (hnonneg.trans hround)]
        linarith
      have hsign : ¬ z < 0 := fun hz => hneg (h.trans_lt hz)
      rw [hinfinite z hz, decide_eq_false hsign]
      exact le_infinite (ofRat_ne_nan y)

/-! ## Sums -/

@[simp] theorem nan_add (x : format.Number) : nan + x = nan := by cases x <;> rfl

@[simp] theorem add_nan (x : format.Number) : x + nan = nan := by cases x <;> rfl

@[simp] theorem infinite_add_infinite (a b : Bool) : (infinite a : format.Number) + infinite b =
    if a = b then infinite a else nan := rfl

@[simp] theorem infinite_add_finite (a : Bool) (x : format.Value) :
    infinite a + finite x = infinite a := rfl

@[simp] theorem finite_add_infinite (x : format.Value) (a : Bool) :
    finite x + infinite a = infinite a := rfl

theorem finite_add_finite (x y : format.Value) :
    (finite x + finite y : format.Number) = ofRat (x.value + y.value) := rfl

/-- Sums are monotone, but for the two infinities, whose sum is no number. -/
theorem add_le_add_right (h : x ≤ y) (hx : x + d ≠ .nan) (hy : y + d ≠ .nan) : x + d ≤ y + d := by
  cases d with
  | nan => simp at hx
  | infinite b =>
    have hsum (x : format.Number) (hx : x + infinite b ≠ .nan) : x + infinite b = infinite b := by
      cases x with
      | nan => simp at hx
      | infinite a => by_cases h : a = b <;> simp_all
      | finite x => rfl
    rw [hsum x hx, hsum y hy]
    exact ⟨by simp, by simp, le_rfl⟩
  | finite d =>
    cases x with
    | nan => simp at hx
    | infinite a =>
      cases a with
      | true => exact infinite_le hy
      | false =>
        rw [eq_infinite_of_le h]
        exact ⟨hx, hx, le_rfl⟩
    | finite x =>
      cases y with
      | nan => simp at hy
      | infinite b =>
        cases b with
        | true => exact absurd h.2.2 (by simp [extended])
        | false => exact le_infinite hx
      | finite y =>
        rw [finite_add_finite, finite_add_finite]
        exact ofRat_mono (by linarith [finite_le_finite.mp h])

/-- Only from the least number on a sum may be no number that is one further up. -/
theorem add_ne_nan_of_le (h : x ≤ y) (hx : x ≠ infinite true) (hy : y + d ≠ .nan) :
    x + d ≠ .nan := by
  cases d with
  | nan => simp at hy
  | infinite b =>
    cases x with
    | nan => simp at h
    | infinite a =>
      cases a with
      | true => exact absurd rfl hx
      | false => rwa [← eq_infinite_of_le h]
    | finite x => simp
  | finite d =>
    cases x with
    | nan => simp at h
    | infinite a => simp
    | finite x => exact ofRat_ne_nan _

theorem add_add_ne_nan (h : x + d ≠ .nan) : x + d + d ≠ .nan := by
  cases d with
  | nan => simp at h
  | infinite b =>
    cases x with
    | nan => simp at h
    | infinite a =>
      by_cases hab : a = b
      · simp [hab]
      · simp [hab] at h
    | finite x => simp
  | finite d =>
    cases hsum : x + finite d with
    | nan => exact absurd hsum h
    | infinite a => simp
    | finite s => exact ofRat_ne_nan _

/-- A sum that does not grow past a number does not grow past it with the next step. -/
theorem stuck_step (hstuck : y + d ≤ y) (h : x ≤ y ∧ x + d ≠ .nan) :
    x + d ≤ y ∧ x + d + d ≠ .nan :=
  ⟨le_trans (add_le_add_right h.1 h.2 hstuck.1) hstuck, add_add_ne_nan h.2⟩

/-- Strictly less. -/
def Less (x y : format.Number) : Prop := x ≤ y ∧ ¬ y ≤ x

instance : IsTrans format.Number Less :=
  ⟨fun _ _ _ h h' => ⟨le_trans h.1 h'.1, fun hback => h.2 (le_trans h'.1 hback)⟩⟩

instance : Std.Irrefl (Less : format.Number → format.Number → Prop) := ⟨fun _ h => h.2 h.1⟩

/-- A step is not lost that is more than half a digit of a place, when the sum has no digits past
those of the place. -/
theorem not_add_le {x d : format.Value} {e : ℤ} (he : format.minExponent ≤ e)
    (hsum : |x.value + d.value| < 2 ^ (e + format.precision)) (hd : 2 ^ e < 2 * d.value) :
    ¬ (finite x + finite d : format.Number) ≤ finite x := by
  have herror : |x.value + d.value - format.round (x.value + d.value)| ≤ 2 ^ e / 2 := by
    rcases eq_or_ne (x.value + d.value) 0 with hzero | hne
    · rw [hzero, round_zero, sub_zero, abs_zero]
      positivity
    · have hlog : Int.log 2 |x.value + d.value| < e + format.precision :=
        (Int.lt_zpow_iff_log_lt one_lt_two (abs_pos.mpr hne)).mp (by exact_mod_cast hsum)
      have hexponent : format.exponent (x.value + d.value) ≤ e := max_le (by omega) he
      refine (abs_sub_roundAt_le (K := ℚ) one_lt_two _ _).trans ?_
      have hpower := zpow_base_le (K := ℚ) one_lt_two hexponent
      push_cast at hpower ⊢
      linarith
  have hup : x.value < format.round (x.value + d.value) := by
    linarith [(abs_le.mp herror).2]
  have hpos : 0 < d.value := by
    have hunit : (0 : ℚ) < 2 ^ e := by positivity
    linarith
  rw [finite_add_finite, ofRat]
  cases hsum : (ofRat? (x.value + d.value) : Option format.Value) with
  | none =>
    have hsign : ¬ x.value + d.value < 0 := by
      intro hneg
      have hrange : |format.round (x.value + d.value)| ≤ format.largest := by
        have hlow := (abs_le.mp x.abs_value_le).1
        rw [abs_of_nonpos (round_nonpos hneg.le)]
        linarith
      rw [ofRat?, dif_pos hrange] at hsum
      cases hsum
    simp only [hsign, decide_false]
    intro hle
    cases eq_infinite_of_le hle
  | some y =>
    rw [finite_le_finite, ← round_eq_of_ofRat? hsum]
    exact not_le.mpr hup

end Number
end Gripperz.Library.FloatFormat
