import Mathlib.Tactic.Linarith
import Gripperz.Library.Thinning
import Gripperz.Math.Q

/-! # Search trees

`KDTreeQ` stands for `rwlibs::algorithms::KDTreeQ`: it finds the nodes in a box, in an
order of its own.
-/
namespace Gripperz.Math
open Library

structure KDNode (R T : Type) where
  key : Q R
  value : T
  deriving DecidableEq, Repr

variable {R T : Type} [Field R] [LinearOrder R]

/-- The key is in the box between two corners. -/
def InRect (low high key : Q R) : Prop :=
  ∀ i < key.size, low.get i ≤ key.get i ∧ key.get i ≤ high.get i

instance (low high key : Q R) : Decidable (InRect low high key) :=
  inferInstanceAs (Decidable (∀ i < key.size, _))

structure KDTreeQ (R T : Type) [Field R] [LinearOrder R] where
  nnSearchRect : List (KDNode R T) → Q R → Q R → List (KDNode R T)
  exact : ∀ nodes low high,
    (nnSearchRect nodes low high).Perm (nodes.filter fun n => InRect low high n.key)

namespace KDTreeQ

/-- The tree that looks at every node. -/
def exhaustive (R T : Type) [Field R] [LinearOrder R] : KDTreeQ R T where
  nnSearchRect nodes low high := nodes.filter fun n => InRect low high n.key
  exact _ _ _ := .refl _

theorem mem_nnSearchRect (tree : KDTreeQ R T) {nodes : List (KDNode R T)} {low high : Q R}
    {n : KDNode R T} :
    n ∈ tree.nnSearchRect nodes low high ↔ n ∈ nodes ∧ InRect low high n.key := by
  rw [(tree.exact nodes low high).mem_iff]
  simp

end KDTreeQ

/-- Different keys, each in the box around the other. -/
def Near (box a b : Q R) : Prop :=
  a ≠ b ∧ a.size = b.size ∧
    ∀ i < a.size, a.get i - box.get i ≤ b.get i ∧ b.get i ≤ a.get i + box.get i

instance (box a b : Q R) : Decidable (Near box a b) := inferInstanceAs (Decidable (_ ∧ _))

/-- Nearness of items by their keys. -/
def nearness [IsStrictOrderedRing R] {α : Type} (box : Q R) (key : α → Q R) : Nearness α where
  near a b := Near box (key a) (key b)
  irrefl a h := h.1 rfl
  symm := by
    rintro a b ⟨hne, hsize, hbox⟩
    refine ⟨hne.symm, hsize.symm, fun i hi => ?_⟩
    obtain ⟨hlow, hhigh⟩ := hbox i (hsize ▸ hi)
    constructor <;> linarith

/-- The nodes found in the box around a key, but for those with the key itself. -/
theorem inRect_iff_near {box a b : Q R} (hsize : a.size = b.size) :
    (InRect (a - box) (a + box) b ∧ b ≠ a) ↔ Near box a b := by
  have hget (i : ℕ) (hi : i < a.size) :
      (a - box).get i = a.get i - box.get i ∧ (a + box).get i = a.get i + box.get i :=
    ⟨Q.get_sub a box hi, Q.get_add a box hi⟩
  constructor
  · rintro ⟨hrect, hne⟩
    refine ⟨hne.symm, hsize, fun i hi => ?_⟩
    rw [← (hget i hi).1, ← (hget i hi).2]
    exact hrect i (hsize ▸ hi)
  · rintro ⟨hne, _, hbox⟩
    refine ⟨fun i hi => ?_, hne.symm⟩
    rw [← hsize] at hi
    rw [(hget i hi).1, (hget i hi).2]
    exact hbox i hi

end Gripperz.Math
