import Mathlib.Data.Nat.Init

/-! # Numerals of any field

That a number has a numeral is found by evaluation. The instance names the number and nothing of
the place where its numeral stands, so a definition with a numeral is the same term in every file.
-/
namespace Gripperz.Library

/-- A condition that evaluates to `true`. -/
class Evaluates {b : Bool} : Prop where
  eq_true : b = true

instance evaluates : @Evaluates true := ⟨rfl⟩

instance atLeastTwo_of_ble {n : ℕ} [h : @Evaluates (Nat.ble 2 n)] : n.AtLeastTwo :=
  ⟨Nat.le_of_ble_eq_true h.eq_true⟩

end Gripperz.Library
