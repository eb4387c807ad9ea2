import Mathlib.Algebra.BigOperators.Group.List.Basic
import Mathlib.Algebra.Module.Pi
import Gripperz.Math.Q

/-! # The first coordinates

A configuration vector read on its first coordinates is a vector of a space. There the operations
are those of the space, and sums taken one after the other are sums.
-/
namespace Gripperz.Math.Q
variable {R : Type} [Field R] {α : Type}

theorem size_foldl_add (l : List α) (point : α → Q R) (start : Q R) :
    (l.foldl (fun sum a => sum + point a) start).size = start.size := by
  induction l generalizing start with
  | nil => rfl
  | cons a l ih => rw [List.foldl_cons, ih, size_add]

theorem get_foldl_add (l : List α) (point : α → Q R) (start : Q R) {i : ℕ}
    (hi : i < start.size) :
    (l.foldl (fun sum a => sum + point a) start).get i =
      start.get i + (l.map fun a => (point a).get i).sum := by
  induction l generalizing start with
  | nil => simp
  | cons a l ih =>
    rw [List.foldl_cons, ih _ (by simpa using hi), get_add _ _ hi]
    simp [add_assoc]

/-- The vector on its first `dim` coordinates. -/
def vec (dim : ℕ) (q : Q R) : Fin dim → R := fun i => q.get i

variable {dim : ℕ}

@[simp] theorem vec_smul (c : R) (q : Q R) : (c * q).vec dim = c • q.vec dim := by
  ext i
  exact get_smul c q i

theorem vec_div (q : Q R) (c : R) : (q / c).vec dim = c⁻¹ • q.vec dim := by
  ext i
  change (q / c).get i = c⁻¹ * q.get i
  rw [get_div, div_eq_inv_mul]

theorem vec_add {a : Q R} (h : dim ≤ a.size) (b : Q R) :
    (a + b).vec dim = a.vec dim + b.vec dim := by
  ext i
  exact get_add a b (i.2.trans_le h)

theorem vec_sub {a : Q R} (h : dim ≤ a.size) (b : Q R) :
    (a - b).vec dim = a.vec dim - b.vec dim := by
  ext i
  exact get_sub a b (i.2.trans_le h)

/-- Vectors added to zero one after the other make their sum. -/
theorem vec_foldl_add (l : List α) (point : α → Q R) {n : ℕ} (h : dim ≤ n) :
    (l.foldl (fun sum a => sum + point a) (fill n 0)).vec dim =
      (l.map fun a => (point a).vec dim).sum := by
  have hfold (start : Q R) (hstart : dim ≤ start.size) :
      (l.foldl (fun sum a => sum + point a) start).vec dim =
        start.vec dim + (l.map fun a => (point a).vec dim).sum := by
    induction l generalizing start with
    | nil => simp
    | cons a l ih =>
      rw [List.foldl_cons, ih _ (by simpa using hstart), vec_add hstart]
      simp [add_assoc]
  have hzero : (fill n (0 : R)).vec dim = 0 := by
    ext i
    exact get_fill 0 (i.2.trans_le h)
  rw [hfold _ (by simpa using h), hzero, zero_add]

end Gripperz.Math.Q
