import Mathlib.Algebra.GroupWithZero.Action.Defs
import Mathlib.Algebra.Group.Basic

/-! # Rigid transforms

`Transform3D G V` stands for `rw::math::Transform3D`: a rotation of a group `G` and a
translation of the vectors `V` it acts on. Coordinates, angles and the functions of the
mathematical library are those of a `Spatial R G V`.
-/
namespace Gripperz.Math

structure Transform3D (G V : Type) where
  R : G
  P : V
  deriving DecidableEq, Repr

namespace Transform3D
variable {G V : Type} [Group G] [AddCommGroup V] [DistribMulAction G V]

instance : Mul (Transform3D G V) := ⟨fun a b => ⟨a.R * b.R, a.R • b.P + a.P⟩⟩
instance : One (Transform3D G V) := ⟨⟨1, 0⟩⟩
instance : Inv (Transform3D G V) := ⟨fun a => ⟨a.R⁻¹, -(a.R⁻¹ • a.P)⟩⟩
omit [Group G] [AddCommGroup V] [DistribMulAction G V] in
@[ext] theorem ext {a b : Transform3D G V} (hR : a.R = b.R) (hP : a.P = b.P) : a = b := by
  cases a
  cases b
  simp_all

@[simp] theorem mul_R (a b : Transform3D G V) : (a * b).R = a.R * b.R := rfl
@[simp] theorem mul_P (a b : Transform3D G V) : (a * b).P = a.R • b.P + a.P := rfl
omit [DistribMulAction G V] in
@[simp] theorem one_R : (1 : Transform3D G V).R = 1 := rfl
omit [DistribMulAction G V] in
@[simp] theorem one_P : (1 : Transform3D G V).P = 0 := rfl
@[simp] theorem inv_R (a : Transform3D G V) : a⁻¹.R = a.R⁻¹ := rfl
@[simp] theorem inv_P (a : Transform3D G V) : a⁻¹.P = -(a.R⁻¹ • a.P) := rfl

instance : Group (Transform3D G V) where
  mul_assoc a b c := by
    ext
    · exact mul_assoc _ _ _
    · simp [mul_smul, smul_add, add_assoc]
  one_mul a := by ext <;> simp
  mul_one a := by ext <;> simp
  inv_mul_cancel a := by ext <;> simp

/-- `Transform3D(P)`: the translation by a vector. -/
def translation (P : V) : Transform3D G V := ⟨1, P⟩

end Transform3D

/-- What is used of the mathematical library, for numbers `R`. -/
structure Spatial (R G V : Type) where
  sin : R → R
  sqrt : R → R
  coord : V → ℕ → R
  x : V
  y : V
  z : V
  /-- `EAA(R).axis()` and `EAA(R).angle()`. -/
  axis : G → V
  angle : G → R
  rpy : G → ℕ → R
  /-- `Statistics::meanAndVariance(xs).second`. -/
  variance : List R → R

/-- Vectors and rotations from three numbers: `Vector3D(x, y, z)`,
`RPY(x, y, z).toRotation3D()` and `EAA(x, y, z).toRotation3D()`. -/
structure FromNumbers (R G V : Type) where
  vector3D : R → R → R → V
  rpy : R → R → R → G
  eaa : R → R → R → G

end Gripperz.Math
