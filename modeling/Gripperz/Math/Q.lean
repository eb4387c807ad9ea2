import Mathlib.Algebra.Order.Field.Basic
import Mathlib.Data.List.Basic
import Gripperz.Library.Numerals

/-! # Configuration vectors

`Q R` stands for `rw::math::Q`: a vector of run-time length. Sums and differences
have the length of the left operand; a coordinate read past the end of a vector
is `0` and a coordinate written past it is lost, so that an operation on vectors
of different lengths has a value on the coordinates both of them hold.
-/
namespace Gripperz.Math

structure Q (R : Type) where
  coords : List R
  deriving DecidableEq, Repr

namespace Q
variable {R : Type} [Field R]

def size (q : Q R) : ℕ := q.coords.length

/-- `q(i)`. -/
def get (q : Q R) (i : ℕ) : R := q.coords.getD i 0

/-- `q(i) = x`. -/
def set (q : Q R) (i : ℕ) (x : R) : Q R := ⟨q.coords.set i x⟩

/-- `Q(n, x)`: the vector of `n` coordinates `x`. -/
def fill (n : ℕ) (x : R) : Q R := ⟨List.replicate n x⟩

instance : Add (Q R) := ⟨fun a b => ⟨(List.range a.size).map fun i => a.get i + b.get i⟩⟩
instance : Sub (Q R) := ⟨fun a b => ⟨(List.range a.size).map fun i => a.get i - b.get i⟩⟩
instance : HMul R (Q R) (Q R) := ⟨fun s q => ⟨q.coords.map (s * ·)⟩⟩
instance : HDiv (Q R) R (Q R) := ⟨fun q s => ⟨q.coords.map (· / s)⟩⟩

/-- `Math::fromStdVector`. -/
def fromStdVector (v : List R) : Q R := ⟨v⟩

/-- `Math::toStdVector(q, dim)`: the first `dim` coordinates. -/
def toStdVector (q : Q R) (dim : ℕ) : List R := (List.range dim).map q.get

@[simp] theorem get_add (a b : Q R) {i : ℕ} (hi : i < a.size) :
    (a + b).get i = a.get i + b.get i := by
  change ((List.range a.size).map fun i => a.get i + b.get i).getD i 0 = _
  simp [List.getD_eq_getElem?_getD, hi]

@[simp] theorem get_sub (a b : Q R) {i : ℕ} (hi : i < a.size) :
    (a - b).get i = a.get i - b.get i := by
  change ((List.range a.size).map fun i => a.get i - b.get i).getD i 0 = _
  simp [List.getD_eq_getElem?_getD, hi]

@[simp] theorem get_smul (s : R) (q : Q R) (i : ℕ) : (s * q).get i = s * q.get i := by
  change (q.coords.map (s * ·)).getD i 0 = s * q.coords.getD i 0
  rcases lt_or_ge i q.coords.length with h | h
  · simp [List.getD_eq_getElem?_getD, h]
  · simp [List.getD_eq_getElem?_getD, h]

@[simp] theorem get_div (q : Q R) (s : R) (i : ℕ) : (q / s).get i = q.get i / s := by
  change (q.coords.map (· / s)).getD i 0 = q.coords.getD i 0 / s
  rcases lt_or_ge i q.coords.length with h | h
  · simp [List.getD_eq_getElem?_getD, h]
  · simp [List.getD_eq_getElem?_getD, h]

@[simp] theorem size_add (a b : Q R) : (a + b).size = a.size := by
  change ((List.range a.size).map _).length = _
  simp

@[simp] theorem size_sub (a b : Q R) : (a - b).size = a.size := by
  change ((List.range a.size).map _).length = _
  simp

@[simp] theorem size_smul (s : R) (q : Q R) : (s * q).size = q.size := by
  change (q.coords.map _).length = _
  simp [size]

@[simp] theorem size_div (q : Q R) (s : R) : (q / s).size = q.size := by
  change (q.coords.map _).length = _
  simp [size]

omit [Field R] in
@[simp] theorem size_fill (n : ℕ) (x : R) : (fill n x).size = n := by
  simp [fill, size]

theorem get_fill {n i : ℕ} (x : R) (hi : i < n) : (fill n x).get i = x := by
  simp [fill, get, List.getD_eq_getElem?_getD, hi]

omit [Field R] in
@[simp] theorem size_set (q : Q R) (i : ℕ) (x : R) : (q.set i x).size = q.size := by
  simp [set, size]

theorem get_set_self (q : Q R) {i : ℕ} (x : R) (hi : i < q.size) : (q.set i x).get i = x := by
  simp only [size] at hi
  simp [set, get, List.getD_eq_getElem?_getD, hi]

theorem get_set_ne (q : Q R) {i j : ℕ} (x : R) (h : i ≠ j) : (q.set i x).get j = q.get j := by
  simp [set, get, List.getD_eq_getElem?_getD, List.getElem?_set_ne h]

omit [Field R] in
@[simp] theorem size_fromStdVector (v : List R) : (fromStdVector v).size = v.length := rfl

theorem get_fromStdVector (v : List R) (i : ℕ) : (fromStdVector v).get i = v.getD i 0 := rfl

@[simp] theorem length_toStdVector (q : Q R) (dim : ℕ) : (q.toStdVector dim).length = dim := by
  simp [toStdVector]

theorem getD_toStdVector (q : Q R) {dim i : ℕ} (hi : i < dim) :
    (q.toStdVector dim).getD i 0 = q.get i := by
  simp [toStdVector, List.getD_eq_getElem?_getD, hi]

/-- Converting a vector to a configuration and back changes nothing. -/
@[simp] theorem toStdVector_fromStdVector (v : List R) :
    (fromStdVector v).toStdVector v.length = v := by
  apply List.ext_getElem
  · simp
  · intro i h₁ h₂
    simp [toStdVector, get, fromStdVector, List.getD_eq_getElem?_getD, h₂]

end Q
end Gripperz.Math
