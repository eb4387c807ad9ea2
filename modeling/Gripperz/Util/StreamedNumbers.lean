import Gripperz.Library.DecimalText
import Gripperz.Library.FloatFormat
import Gripperz.Math.Types
import Gripperz.Util.XMLHelpers

/-! # Numbers through a stream

A stream writes a double with six significant digits, and what is read back is the double
nearest to the digits. A decimal number that a double holds to fifteen digits is written in full
only if it has no more than six. With seventeen digits every double comes back.
-/
namespace Gripperz.Util
open Library Math

/-- The finite values of `double`. -/
abbrev Double := binary64.Value

/-- `stream << x`. -/
def streamed (precision : ℕ) (x : Double) : String :=
  String.ofList (Numeral.general precision x.value).text

/-- What is relied on of a cast of texts to `double`: a numeral is read as the double nearest
to it, and not at all if it is past the largest. -/
def ReadsNearest (lexicalCast : String → Option Double) : Prop :=
  ∀ numeral : Numeral, lexicalCast (String.ofList numeral.text) = FloatFormat.ofRat? numeral.value

/-- `boost::lexical_cast<double>`, on decimal numerals. -/
def lexicalCast (text : String) : Option Double :=
  (readDecimal text.toList).bind FloatFormat.ofRat?

/-- A stream has precision six from its construction. -/
def stream (precision : ℕ) (lexicalCast : String → Option Double) : NumberFormat Double where
  text := streamed precision
  read := lexicalCast
  isWord x := by
    rw [streamed, String.toList_ofList]
    exact Numeral.isWord_text _

/-- A decimal number that a double holds: fifteen significant digits at most, and zero or between
the smallest normal double and the largest. -/
structure Decimal where
  value : ℚ
  hasDigits : HasDigits 10 15 value
  normal : value = 0 ∨ (2 : ℚ) ^ (-1022 : ℤ) ≤ |value|
  abs_value_le : |value| ≤ binary64.largest

/-- The double nearest to a decimal number. -/
def Decimal.toDouble (d : Decimal) : Double :=
  ⟨binary64.round d.value, FloatFormat.round_round d.value, FloatFormat.abs_round_le d.abs_value_le⟩

theorem readsNearest_lexicalCast : ReadsNearest lexicalCast := by
  intro numeral
  rw [lexicalCast, String.toList_ofList, Numeral.readDecimal_text, Option.bind_some]

/-! ## What a double holds -/

theorem farFromZero_iff (y : ℚ) : binary64.FarFromZero y ↔ (2 : ℚ) ^ (-1023 : ℤ) ≤ |y| := Iff.rfl

namespace Decimal

theorem far (d : Decimal) : d.value = 0 ∨ binary64.FarFromZero d.value := by
  apply d.normal.imp_right
  intro hnormal
  rw [farFromZero_iff]
  exact (zpow_le_zpow_right₀ (by norm_num) (by norm_num)).trans hnormal

/-- Fifteen digits of the double are the decimal number. -/
theorem roundTo_toDouble (d : Decimal) : roundTo 10 15 d.toDouble.value = d.value :=
  FloatFormat.roundTo_round (by decide) (by decide) (by norm_num [binary64]) d.hasDigits d.far

theorem toDouble_injective : Function.Injective toDouble := by
  intro d d' h
  have hvalue : d.value = d'.value := by rw [← roundTo_toDouble d, h, roundTo_toDouble]
  cases d
  cases d'
  simpa using hvalue

/-- Six digits of the double are far enough from zero to be held as well. -/
theorem far_roundTo {d : Decimal} (hd : d.value ≠ 0) :
    binary64.FarFromZero (roundTo 10 6 d.toDouble.value) := by
  have hpos := abs_pos.mpr hd
  have hhold : |d.value - d.toDouble.value| ≤ 1 / 4 * |d.value| := by
    rw [abs_sub_comm]
    refine (FloatFormat.abs_sub_round_le (d.far.resolve_left hd)).trans ?_
    exact mul_le_mul_of_nonneg_right (by norm_num [binary64]) hpos.le
  have hdouble := mul_abs_le_of_near hhold
  have hne : d.toDouble.value ≠ 0 := abs_pos.mp (by linarith)
  have hprint : |d.toDouble.value - roundTo 10 6 d.toDouble.value| ≤
      1 / 4 * |d.toDouble.value| := by
    refine (abs_sub_roundTo_le (by decide) hne).trans ?_
    exact mul_le_mul_of_nonneg_right (by norm_num) (abs_nonneg _)
  have hdigits := mul_abs_le_of_near hprint
  have hhalf : (2 : ℚ) ^ (-1023 : ℤ) = 1 / 2 * (2 : ℚ) ^ (-1022 : ℤ) := by
    rw [show (-1023 : ℤ) = -1 + -1022 by norm_num, zpow_add₀ (by norm_num)]
    norm_num
  rw [farFromZero_iff, hhalf]
  linarith [d.normal.resolve_left hd]

end Decimal

/-! ## What a stream keeps -/

section
variable {lexicalCast : String → Option Double} (h : ReadsNearest lexicalCast)
include h

theorem read_streamed {precision : ℕ} (hprecision : 0 < precision) (x : Double) :
    lexicalCast (streamed precision x) =
      FloatFormat.ofRat? (roundTo 10 precision x.value) := by
  rw [streamed, h, Numeral.value_general hprecision]

/-- The double of a decimal number comes back if six digits are all it has. -/
theorem read_streamed_iff (d : Decimal) :
    lexicalCast (streamed 6 d.toDouble) = some d.toDouble ↔ HasDigits 10 6 d.value := by
  rw [read_streamed h (by decide)]
  constructor
  · intro hread
    rcases eq_or_ne d.value 0 with hd | hd
    · rw [hd]
      exact hasDigits_zero (by decide)
    have hsix : HasDigits 10 6 (roundTo 10 6 d.toDouble.value) :=
      hasDigits_roundTo (by decide) (by decide)
    have hback : roundTo 10 15 (binary64.round (roundTo 10 6 d.toDouble.value)) =
        roundTo 10 6 d.toDouble.value :=
      FloatFormat.roundTo_round (by decide) (by decide) (by norm_num [binary64])
        (hsix.mono (by decide) (by decide)) (.inr (Decimal.far_roundTo hd))
    rw [FloatFormat.round_eq_of_ofRat? hread, Decimal.roundTo_toDouble] at hback
    rwa [hback]
  · intro hsix
    have hprint : roundTo 10 6 d.toDouble.value = d.value :=
      FloatFormat.roundTo_round (by decide) (by decide) (by norm_num [binary64]) hsix d.far
    exact FloatFormat.ofRat?_of_round (congrArg binary64.round hprint)

/-- Seventeen digits are enough for every double. -/
def precise : NumberText Double where
  toNumberFormat := stream 17 lexicalCast
  read_text x := by
    change lexicalCast (streamed 17 x) = some x
    rw [read_streamed h (by decide)]
    apply FloatFormat.ofRat?_of_round
    exact FloatFormat.round_roundTo (by decide) (by decide) (by norm_num [binary64]) x

end

namespace XMLHelpers

/-- A vector of decimal numbers of any length comes back through text if and only if none of
them has more than six significant digits. -/
theorem decimals_survive_iff {lexicalCast : String → Option Double} (h : ReadsNearest lexicalCast)
    (q : List Decimal) (children : List (String × PTree String String)) :
    readQ (stream 6 lexicalCast)
        (.node (QToString (stream 6 lexicalCast) ⟨q.map Decimal.toDouble⟩) children) =
      .ok ⟨q.map Decimal.toDouble⟩ ↔ ∀ d ∈ q, HasDigits 10 6 d.value := by
  rw [readQ_QToString_iff _ (PTree.data_node _ _), List.forall_mem_map]
  exact forall₂_congr fun d _ => read_streamed_iff h d

theorem doubles_survive {lexicalCast : String → Option Double} (h : ReadsNearest lexicalCast)
    (q : Q Double) (children : List (String × PTree String String)) :
    readQ (stream 17 lexicalCast) (.node (QToString (stream 17 lexicalCast) q) children) = .ok q :=
  readQ_QToString (precise h) (PTree.data_node _ _)

/-- The parameters handed to a subprocess are the words that are saved. -/
theorem words_toString_eq {R : Type} (number : NumberFormat R) (q : Q R) :
    words (Types.toString number q.coords " ").toList = words (QToString number q).toList := by
  rw [Types.words_toString number rfl (by decide), words_QToString]

end XMLHelpers

/-! ## Numbers of everyday size -/

theorem normal_of_one_le {y : ℚ} (h : 1 ≤ |y|) : (2 : ℚ) ^ (-1022 : ℤ) ≤ |y| :=
  (zpow_le_one_of_nonpos₀ one_le_two (by decide)).trans h

theorem le_largest_of_le {y : ℚ} (h : |y| ≤ 2 ^ 52) : |y| ≤ binary64.largest := by
  have hpower : (1 : ℚ) ≤ 2 ^ (971 : ℤ) := one_le_zpow₀ one_le_two (by decide)
  have hdigits : (2 : ℚ) ^ 52 ≤ ((2 ^ 53 - 1 : ℤ) : ℚ) := by norm_num
  calc
    |y| ≤ ((2 ^ 53 - 1 : ℤ) : ℚ) * 1 := by rw [mul_one]; exact h.trans hdigits
    _ ≤ ((2 ^ 53 - 1 : ℤ) : ℚ) * 2 ^ (971 : ℤ) :=
      mul_le_mul_of_nonneg_left hpower (by norm_num)
    _ = binary64.largest := rfl

/-- Six digits. -/
def short : Decimal where
  value := -123456 / 1000
  hasDigits := ⟨-123456, -3, by norm_num, by norm_num⟩
  normal := .inr (normal_of_one_le (by norm_num))
  abs_value_le := le_largest_of_le (by norm_num)

/-- A whole number. -/
def whole : Decimal where
  value := 250
  hasDigits := ⟨250, 0, by norm_num, by norm_num⟩
  normal := .inr (normal_of_one_le (by norm_num))
  abs_value_le := le_largest_of_le (by norm_num)

/-- Seven digits. -/
def long : Decimal where
  value := 1234567 / 1000000
  hasDigits := ⟨1234567, -6, by norm_num, by norm_num⟩
  normal := .inr (normal_of_one_le (by norm_num))
  abs_value_le := le_largest_of_le (by norm_num)

example : streamed 6 long.toDouble = "1.23457" := by decide +kernel

theorem hasDigits_short : HasDigits 10 6 short.value :=
  ⟨-123456, -3, by norm_num, by norm_num [short]⟩

theorem hasDigits_whole : HasDigits 10 6 whole.value :=
  ⟨250, 0, by norm_num, by norm_num [whole]⟩

theorem not_hasDigits_long : ¬ HasDigits 10 6 long.value := by
  intro h
  have hfirst : ((10 : ℕ) : ℚ) ^ (0 : ℤ) ≤ |long.value| := by norm_num [long]
  obtain ⟨n, hn⟩ := h.exists_eq_mul (by decide) hfirst
  have hwhole : (1234567 : ℚ) = 10 * n := by
    have hscaled : long.value * 10 ^ 6 = 10 * n := by
      rw [hn]
      norm_num
      ring
    rw [← hscaled]
    norm_num [long]
  have hint : (1234567 : ℤ) = 10 * n := by exact_mod_cast hwhole
  omega

namespace XMLHelpers

/-- A vector of three coordinates. -/
theorem decimals_survive_iff_short :
    readQ (stream 6 lexicalCast)
        (.node (QToString (stream 6 lexicalCast) ⟨[short, whole, short].map Decimal.toDouble⟩) []) =
      .ok ⟨[short, whole, short].map Decimal.toDouble⟩ := by
  apply (decimals_survive_iff readsNearest_lexicalCast [short, whole, short] []).mpr
  simp only [List.forall_mem_cons, List.not_mem_nil, false_implies, implies_true, and_true]
  exact ⟨hasDigits_short, hasDigits_whole, hasDigits_short⟩

theorem decimal_not_kept_long :
    readQ (stream 6 lexicalCast)
        (.node (QToString (stream 6 lexicalCast) ⟨[long.toDouble]⟩) []) ≠
      .ok ⟨[long.toDouble]⟩ := by
  rw [Ne, readQ_QToString_iff _ (PTree.data_node _ _), List.forall_mem_singleton]
  intro hread
  exact not_hasDigits_long ((read_streamed_iff readsNearest_lexicalCast long).mp hread)

end XMLHelpers
end Gripperz.Util
