import Mathlib.Algebra.Order.Field.Power
import Mathlib.Data.List.DropRight
import Mathlib.Data.Rat.Floor
import Gripperz.Library.NumberText
import Gripperz.Library.Rounding

/-! # Decimal numerals

A numeral has a sign, digits before and after a point, and an exponent or none. Streams write
numbers as numerals with so many significant digits, and read numerals back.
-/
namespace Gripperz.Library

structure Digits where
  chars : List Char
  isDigit : ∀ c ∈ chars, c.isDigit = true

namespace Digits

def value (digits : Digits) : ℕ := Nat.ofDigitChars 10 digits.chars 0

def ofNat (n : ℕ) : Digits :=
  ⟨Nat.toDigits 10 n, fun _ hc => Nat.isDigit_of_mem_toDigits (by decide) (by decide) hc⟩

def zeros (n : ℕ) : Digits := ⟨List.replicate n '0', by simp +contextual [List.mem_replicate]⟩

def append (first second : Digits) : Digits where
  chars := first.chars ++ second.chars
  isDigit c hc := (List.mem_append.mp hc).elim (first.isDigit c) (second.isDigit c)

/-- A whole number, with zeros before it up to a width. -/
def padded (width n : ℕ) : Digits := (zeros (width - (ofNat n).chars.length)).append (ofNat n)

def take (n : ℕ) (digits : Digits) : Digits :=
  ⟨digits.chars.take n, fun c hc => digits.isDigit c (List.mem_of_mem_take hc)⟩

def drop (n : ℕ) (digits : Digits) : Digits :=
  ⟨digits.chars.drop n, fun c hc => digits.isDigit c (List.mem_of_mem_drop hc)⟩

/-- Without the zeros at the end. -/
def stripZeros (digits : Digits) : Digits :=
  ⟨digits.chars.rdropWhile (· = '0'),
    fun c hc => digits.isDigit c ((List.rdropWhile_prefix _ _).subset hc)⟩

@[simp] theorem chars_append (first second : Digits) :
    (first.append second).chars = first.chars ++ second.chars := rfl

@[simp] theorem length_zeros (n : ℕ) : (zeros n).chars.length = n := List.length_replicate

@[simp] theorem value_zeros (n : ℕ) : (zeros n).value = 0 := by
  rw [value, zeros, Nat.ofDigitChars_replicate_zero, mul_zero]

@[simp] theorem value_ofNat (n : ℕ) : (ofNat n).value = n := Nat.ofDigitChars_ten_toDigits

theorem value_append (first second : Digits) :
    (first.append second).value = first.value * 10 ^ second.chars.length + second.value := by
  rw [value, chars_append, Nat.ofDigitChars_append, Nat.ofDigitChars_eq_ofDigitChars_zero, value,
    value, mul_comm]

@[simp] theorem value_padded (width n : ℕ) : (padded width n).value = n := by
  rw [padded, value_append, value_zeros, zero_mul, zero_add, value_ofNat]

theorem length_padded {width n : ℕ} (hwidth : 0 < width) (h : n < 10 ^ width) :
    (padded width n).chars.length = width := by
  have hle : (ofNat n).chars.length ≤ width :=
    (Nat.length_toDigits_le_iff (by decide) hwidth).mpr h
  rw [padded, chars_append, List.length_append, length_zeros]
  omega

theorem append_ne_nil (first : Digits) {second : Digits} (h : second.chars ≠ []) :
    (first.append second).chars ≠ [] := List.append_ne_nil_of_right_ne_nil _ h

theorem padded_ne_nil (width n : ℕ) : (padded width n).chars ≠ [] :=
  append_ne_nil _ Nat.toDigits_ne_nil

theorem take_append_drop (n : ℕ) (digits : Digits) :
    (digits.take n).append (digits.drop n) = digits := by
  cases digits with
  | mk chars isDigit =>
    simp only [take, drop, append, mk.injEq]
    exact List.take_append_drop n chars

/-- The zeros that are stripped can be put back. -/
theorem stripZeros_append (digits : Digits) :
    ∃ n, digits = digits.stripZeros.append (zeros n) := by
  have hzeros : digits.chars.rtakeWhile (· = '0') =
      List.replicate (digits.chars.rtakeWhile (· = '0')).length '0' := by
    apply List.eq_replicate_of_mem
    intro c hc
    simpa using List.mem_rtakeWhile_imp hc
  refine ⟨(digits.chars.rtakeWhile (· = '0')).length, ?_⟩
  cases digits with
  | mk chars isDigit =>
    simp only [stripZeros, zeros, append, mk.injEq]
    rw [← hzeros]
    exact List.rdropWhile_append_rtakeWhile.symm

end Digits

/-- A numeral, as a stream writes it. -/
structure Numeral where
  negative : Bool
  whole : Digits
  fraction : Digits
  exponent : Option ℤ
  whole_ne : whole.chars ≠ []

def signed (negative : Bool) (x : ℚ) : ℚ := if negative then -x else x

namespace Numeral

def value (numeral : Numeral) : ℚ :=
  signed numeral.negative ((numeral.whole.append numeral.fraction).value *
    10 ^ (numeral.exponent.getD 0 - numeral.fraction.chars.length))

/-- The point, if there are digits after it. -/
def fractionText (numeral : Numeral) : List Char :=
  if numeral.fraction.chars = [] then [] else '.' :: numeral.fraction.chars

/-- A sign and two digits at least. -/
def exponentText : Option ℤ → List Char
  | none => []
  | some e => 'e' :: (if e < 0 then '-' else '+') :: (Digits.padded 2 e.natAbs).chars

def text (numeral : Numeral) : List Char :=
  (if numeral.negative then ['-'] else []) ++ numeral.whole.chars ++ numeral.fractionText ++
    exponentText numeral.exponent

/-- Digits with the point after `k + 1` of them. -/
def ofDigits (negative : Bool) (digits : Digits) (k : ℕ) (exponent : Option ℤ)
    (h : digits.chars ≠ []) : Numeral where
  negative := negative
  whole := digits.take (k + 1)
  fraction := (digits.drop (k + 1)).stripZeros
  exponent := exponent
  whole_ne := by simpa [Digits.take] using h

/-- The numeral of a number with `p` digits: without an exponent unless the number is small or
larger than its digits. -/
def layout (p : ℕ) (y : ℚ) : Numeral :=
  let exponent := Int.log 10 |y|
  let digits := Digits.padded p ⌊|y| * 10 ^ (p - 1 - exponent)⌋.toNat
  if -4 ≤ exponent ∧ exponent < p then
    ofDigits (decide (y < 0)) ((Digits.zeros (-exponent).toNat).append digits) exponent.toNat none
      (Digits.append_ne_nil _ (Digits.padded_ne_nil _ _))
  else ofDigits (decide (y < 0)) digits 0 (some exponent) (Digits.padded_ne_nil _ _)

/-- `%.pg`: the conversion a stream of precision `p` uses. -/
def general (p : ℕ) (x : ℚ) : Numeral := layout p (roundTo 10 p x)

theorem value_ofDigits {negative : Bool} {digits : Digits} {k : ℕ} {exponent : Option ℤ}
    (h : digits.chars ≠ []) (hk : k < digits.chars.length) :
    (ofDigits negative digits k exponent h).value =
      signed negative (digits.value *
        10 ^ (exponent.getD 0 + k + 1 - digits.chars.length : ℤ)) := by
  obtain ⟨n, hn⟩ := (digits.drop (k + 1)).stripZeros_append
  have hlength : digits.chars.length - (k + 1) =
      (digits.drop (k + 1)).stripZeros.chars.length + n := by
    have hdrop := congrArg (fun list => list.chars.length) hn
    rw [Digits.chars_append, List.length_append, Digits.length_zeros] at hdrop
    rw [← hdrop]
    exact (List.length_drop).symm
  have hvalue : digits.value =
      ((digits.take (k + 1)).append (digits.drop (k + 1)).stripZeros).value * 10 ^ n := by
    conv_lhs => rw [← Digits.take_append_drop (k + 1) digits, hn]
    simp only [Digits.value_append, Digits.chars_append, List.length_append, Digits.length_zeros,
      Digits.value_zeros]
    ring
  simp only [value, ofDigits]
  congr 1
  rw [hvalue]
  push_cast
  rw [mul_assoc, ← zpow_natCast, ← zpow_add₀ (by norm_num)]
  congr 2
  omega

theorem signed_abs (y : ℚ) : signed (decide (y < 0)) |y| = y := by
  rcases lt_or_ge y 0 with hy | hy
  · simp [signed, hy, abs_of_neg hy]
  · simp [signed, hy.not_gt, abs_of_nonneg hy]

theorem digits_of_hasDigits {p : ℕ} {y : ℚ} (h : HasDigits 10 p y) :
    (⌊|y| * 10 ^ (p - 1 - Int.log 10 |y|)⌋.toNat : ℚ) * 10 ^ (Int.log 10 |y| + 1 - p) = |y| ∧
      ⌊|y| * 10 ^ (p - 1 - Int.log 10 |y|)⌋.toNat < 10 ^ p := by
  rcases eq_or_ne y 0 with rfl | hy
  · simp
  have hpos := abs_pos.mpr hy
  obtain ⟨n, hn⟩ := h.exists_eq_mul (by decide) (Int.zpow_log_le_self (by decide) hpos)
  push_cast at hn
  have hu : (0 : ℚ) < 10 ^ (Int.log 10 |y| + 1 - p) := by positivity
  have habs : |y| = (n.natAbs : ℚ) * 10 ^ (Int.log 10 |y| + 1 - p) := by
    conv_lhs => rw [hn, abs_mul, abs_of_pos hu, ← Int.cast_abs, Int.abs_eq_natAbs]
    rfl
  have hscaled : |y| * 10 ^ (p - 1 - Int.log 10 |y|) = (n.natAbs : ℚ) := by
    rw [show (p : ℤ) - 1 - Int.log 10 |y| = -(Int.log 10 |y| + 1 - p) by ring, zpow_neg]
    conv_lhs => enter [1]; rw [habs]
    exact mul_inv_cancel_right₀ hu.ne' _
  rw [hscaled, Int.floor_natCast, Int.toNat_natCast]
  refine ⟨habs.symm, ?_⟩
  have hlt := Int.lt_zpow_succ_log_self (b := 10) (by decide) |y|
  have hpower : ((10 : ℕ) : ℚ) ^ (Int.log 10 |y| + 1) =
      10 ^ p * 10 ^ (Int.log 10 |y| + 1 - p) := by
    rw [← zpow_natCast, ← zpow_add₀ (by norm_num), add_sub_cancel]
    rfl
  rw [hpower] at hlt
  conv_lhs at hlt => rw [habs]
  exact_mod_cast lt_of_mul_lt_mul_right hlt hu.le

/-- A number with `p` digits is the value of its numeral. -/
theorem value_layout {p : ℕ} (hp : 0 < p) {y : ℚ} (h : HasDigits 10 p y) :
    (layout p y).value = y := by
  obtain ⟨habs, hlt⟩ := digits_of_hasDigits h
  have hlength := Digits.length_padded hp hlt
  unfold layout
  simp only
  split_ifs with hfixed
  · have hall : ((Digits.zeros (-Int.log 10 |y|).toNat).append
        (Digits.padded p ⌊|y| * 10 ^ (p - 1 - Int.log 10 |y|)⌋.toNat)).chars.length =
          (-Int.log 10 |y|).toNat + p := by
      rw [Digits.chars_append, List.length_append, Digits.length_zeros, hlength]
    have hpoint : (Int.log 10 |y|).toNat < (-Int.log 10 |y|).toNat + p := by omega
    rw [value_ofDigits _ (hall ▸ hpoint), hall, Digits.value_append, Digits.value_zeros, zero_mul,
      zero_add, Digits.value_padded]
    conv_rhs => rw [← signed_abs y, ← habs]
    congr 3
    simp only [Option.getD_none]
    omega
  · rw [value_ofDigits _ (by omega), hlength, Digits.value_padded]
    conv_rhs => rw [← signed_abs y, ← habs]
    congr 3
    simp only [Option.getD_some]
    omega

theorem value_general {p : ℕ} (hp : 0 < p) (x : ℚ) : (general p x).value = roundTo 10 p x :=
  value_layout hp (hasDigits_roundTo (by decide) hp)

theorem solid_exponentText (exponent : Option ℤ) :
    ∀ c ∈ exponentText exponent, isSpace c = false := by
  cases exponent with
  | none => simp [exponentText]
  | some e =>
    intro c hc
    rw [exponentText, List.mem_cons, List.mem_cons] at hc
    rcases hc with rfl | rfl | hc
    · decide
    · split_ifs <;> decide
    · exact NumberText.not_isSpace_of_isDigit ((Digits.padded 2 e.natAbs).isDigit c hc)

theorem isWord_text (numeral : Numeral) : IsWord numeral.text := by
  constructor
  · simp [text, numeral.whole_ne]
  · intro c hc
    simp only [text, List.mem_append] at hc
    rcases hc with ((hc | hc) | hc) | hc
    · split_ifs at hc
      · rw [List.mem_singleton.mp hc]
        decide
      · exact absurd hc List.not_mem_nil
    · exact NumberText.not_isSpace_of_isDigit (numeral.whole.isDigit c hc)
    · unfold fractionText at hc
      split_ifs at hc
      · exact absurd hc List.not_mem_nil
      · rcases List.mem_cons.mp hc with rfl | hc
        · decide
        · exact NumberText.not_isSpace_of_isDigit (numeral.fraction.isDigit c hc)
    · exact solid_exponentText _ c hc

end Numeral

/-! ## Reading -/

def scanSign : List Char → Bool × List Char
  | '-' :: rest => (true, rest)
  | '+' :: rest => (false, rest)
  | rest => (false, rest)

def scanDigits (text : List Char) : List Char × List Char :=
  (text.takeWhile Char.isDigit, text.dropWhile Char.isDigit)

def scanFraction : List Char → List Char × List Char
  | '.' :: rest => scanDigits rest
  | rest => ([], rest)

/-- The exponent at the end of a text. -/
def readExponent : List Char → Option ℤ
  | [] => some 0
  | c :: rest =>
    let (negative, rest) := scanSign rest
    let (digits, rest) := scanDigits rest
    if (c = 'e' ∨ c = 'E') ∧ digits ≠ [] ∧ rest = [] then
      let e : ℤ := Nat.ofDigitChars 10 digits 0
      some (if negative then -e else e)
    else none

/-- The value of a text that is a decimal numeral from end to end. -/
def readDecimal (text : List Char) : Option ℚ :=
  let (negative, rest) := scanSign text
  let (whole, rest) := scanDigits rest
  let (fraction, rest) := scanFraction rest
  if whole = [] ∧ fraction = [] then none
  else (readExponent rest).map fun e =>
    signed negative (Nat.ofDigitChars 10 (whole ++ fraction) 0 * 10 ^ (e - fraction.length : ℤ))

theorem scanSign_of_isDigit {c : Char} (h : c.isDigit = true) (rest : List Char) :
    scanSign (c :: rest) = (false, c :: rest) := by
  unfold scanSign
  split
  · rename_i heq
    cases heq
    cases h
  · rename_i heq
    cases heq
    cases h
  · rfl

theorem scanDigits_append (digits : Digits) {rest : List Char}
    (h : ∀ c ∈ rest.head?, c.isDigit = false) :
    scanDigits (digits.chars ++ rest) = (digits.chars, rest) := by
  have hstop : rest.takeWhile Char.isDigit = [] ∧ rest.dropWhile Char.isDigit = rest := by
    cases rest with
    | nil => simp
    | cons c rest => simp [h c rfl]
  rw [scanDigits, List.takeWhile_append_of_pos digits.isDigit,
    List.dropWhile_append_of_pos digits.isDigit, hstop.1, hstop.2, List.append_nil]

namespace Numeral

theorem readExponent_exponentText (exponent : Option ℤ) :
    readExponent (exponentText exponent) = some (exponent.getD 0) := by
  cases exponent with
  | none => rfl
  | some e =>
    have hend : ∀ c ∈ ([] : List Char).head?, c.isDigit = false := by simp
    have hdigits := scanDigits_append (Digits.padded 2 e.natAbs) hend
    have hvalue : Nat.ofDigitChars 10 (Digits.padded 2 e.natAbs).chars 0 = e.natAbs :=
      Digits.value_padded 2 e.natAbs
    rw [List.append_nil] at hdigits
    rcases lt_or_ge e 0 with he | he
    · have habs : -(e.natAbs : ℤ) = e := by omega
      simp only [exponentText, he, if_true, readExponent, scanSign, hdigits, hvalue, habs]
      simp [Digits.padded_ne_nil]
    · have habs : (e.natAbs : ℤ) = e := by omega
      simp only [exponentText, he.not_gt, if_false, readExponent, scanSign, hdigits, hvalue, habs]
      simp [Digits.padded_ne_nil]

theorem scanSign_text (numeral : Numeral) :
    scanSign numeral.text = (numeral.negative,
      numeral.whole.chars ++ (numeral.fractionText ++ exponentText numeral.exponent)) := by
  obtain ⟨c, rest, hwhole⟩ := List.exists_cons_of_ne_nil numeral.whole_ne
  have hc : c.isDigit = true :=
    numeral.whole.isDigit c (by rw [hwhole]; exact List.mem_cons_self)
  cases hnegative : numeral.negative with
  | false =>
    rw [text, hnegative, hwhole]
    simpa using scanSign_of_isDigit hc _
  | true =>
    rw [text, hnegative]
    simp [scanSign]

theorem not_isDigit_head_exponentText (exponent : Option ℤ) :
    ∀ c ∈ (exponentText exponent).head?, c.isDigit = false := by
  cases exponent with
  | none => simp [exponentText]
  | some e =>
    simp only [exponentText, List.head?_cons, Option.mem_some_iff]
    rintro c rfl
    decide

theorem not_isDigit_head (numeral : Numeral) :
    ∀ c ∈ (numeral.fractionText ++ exponentText numeral.exponent).head?, c.isDigit = false := by
  unfold fractionText
  split_ifs
  · exact not_isDigit_head_exponentText _
  · simp only [List.cons_append, List.head?_cons, Option.mem_some_iff]
    rintro c rfl
    decide

theorem scanFraction_text (numeral : Numeral) :
    scanFraction (numeral.fractionText ++ exponentText numeral.exponent) =
      (numeral.fraction.chars, exponentText numeral.exponent) := by
  unfold fractionText
  split_ifs with hfraction
  · rw [hfraction, List.nil_append]
    cases numeral.exponent with
    | none => rfl
    | some e => rfl
  · exact scanDigits_append _ (not_isDigit_head_exponentText _)

/-- Nothing is lost from a numeral. -/
theorem readDecimal_text (numeral : Numeral) : readDecimal numeral.text = some numeral.value := by
  simp only [readDecimal, scanSign_text, scanDigits_append _ numeral.not_isDigit_head,
    scanFraction_text, readExponent_exponentText, numeral.whole_ne, false_and, if_false,
    Option.map_some]
  rfl

end Numeral
end Gripperz.Library
