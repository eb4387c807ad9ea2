import Mathlib.Data.Prod.Lex
import Gripperz.Grasps.Filters
import Gripperz.Library.StdSort

/-! # Sorting grasps

Successes come first, then interferences, then the others, each by their distance from an
origin.
-/
namespace Gripperz.Grasps
open Math Library

variable {R G V D : Type}

namespace SortingFilter

/-- The targets of each subtask are sorted in a copy of it. -/
def filter {comp : GraspTarget G V → GraspTarget G V → Prop} (sort : StdSort comp)
    (grasps : GraspTask R G V) : GraspTask R G V :=
  { grasps.clone with subTasks := grasps.subTasks.map fun subtask =>
      { subtask.clone with targets := sort.sort subtask.targets } }

end SortingFilter

/-- `GraspTargetCompare`; the metric is that of its two weights. -/
structure GraspTargetCompare (G V D : Type) where
  origin : Transform3D G V
  metric : Transform3D G V → Transform3D G V → D

namespace GraspTargetCompare
variable [LinearOrder D] (compare : GraspTargetCompare G V D) (results : Results R G V)

/-- `operator()`. -/
def apply (t1 t2 : GraspTarget G V) : Bool :=
  let s1 := (results t1.result).testStatus
  let s2 := (results t2.result).testStatus
  if s1 = .success ∧ s2 ≠ .success then true
  else if s1 ≠ .success ∧ s2 = .success then false
  else if s1 = .interference ∧ s2 ≠ .interference then true
  else if s1 ≠ .interference ∧ s2 = .interference then false
  else compare.metric compare.origin t1.pose < compare.metric compare.origin t2.pose

/-- The comparison as a relation. -/
def lt (t1 t2 : GraspTarget G V) : Prop := compare.apply results t1 t2 = true

/-! ## The order -/

/-- The group a status is sorted into. -/
def tier : TestStatus → ℕ
  | .success => 0
  | .interference => 1
  | _ => 2

def distance (t : GraspTarget G V) : D := compare.metric compare.origin t.pose

/-- The group of a target, and then its distance. -/
def key (t : GraspTarget G V) : ℕ ×ₗ D :=
  toLex (tier (results t.result).testStatus, compare.distance t)

theorem tier_eq_zero {s : TestStatus} : tier s = 0 ↔ s = .success := by
  cases s <;> simp [tier]

theorem tier_eq_one {s : TestStatus} : tier s = 1 ↔ s = .interference := by
  cases s <;> simp [tier]

theorem tier_le_two (s : TestStatus) : tier s ≤ 2 := by
  cases s <;> simp [tier]

/-- The five tests compare the groups, and the distances within a group. -/
theorem lt_iff (t1 t2 : GraspTarget G V) :
    compare.lt results t1 t2 ↔ compare.key results t1 < compare.key results t2 := by
  rw [key, key, Prod.Lex.toLex_lt_toLex, distance, distance, lt, apply]
  cases (results t1.result).testStatus <;> cases (results t2.result).testStatus <;>
    simp [tier]

theorem lt_eq : compare.lt results = Order.Preimage (compare.key results) (· < ·) := by
  funext t1 t2
  exact propext (compare.lt_iff results t1 t2)

/-- `std::sort` may be used with the comparison. -/
theorem isStrictWeakOrder : IsStrictWeakOrder (GraspTarget G V) (compare.lt results) := by
  have hkeys : IsStrictWeakOrder (ℕ ×ₗ D) (· < ·) := isStrictWeakOrder_of_isOrderConnected
  rw [lt_eq]
  infer_instance

/-- One way to sort: equivalent targets stay in their order. -/
def stable : StdSort (compare.lt results) where
  sort := (StdSort.stable (compare.key results)).sort
  perm := (StdSort.stable (compare.key results)).perm
  sorted l := by
    simpa only [lt_iff] using (StdSort.stable (compare.key results)).sorted l

/-! ## Sorted targets -/

/-- Successes, interferences and others one after the other, each in the order of the
distance. -/
def Grouped (targets : List (GraspTarget G V)) : Prop :=
  ∃ successes interferences others, targets = successes ++ (interferences ++ others) ∧
    (∀ t ∈ successes, (results t.result).testStatus = .success) ∧
    (∀ t ∈ interferences, (results t.result).testStatus = .interference) ∧
    (∀ t ∈ others, (results t.result).testStatus ≠ .success ∧
      (results t.result).testStatus ≠ .interference) ∧
    (successes.Pairwise fun t1 t2 => compare.distance t1 ≤ compare.distance t2) ∧
    (interferences.Pairwise fun t1 t2 => compare.distance t1 ≤ compare.distance t2) ∧
    others.Pairwise fun t1 t2 => compare.distance t1 ≤ compare.distance t2

variable {compare results}

/-- What stands before is of the same group or of one before, and in one group it is nearer. -/
theorem le_of_not_lt {t1 t2 : GraspTarget G V} (h : ¬ compare.lt results t2 t1) :
    tier (results t1.result).testStatus ≤ tier (results t2.result).testStatus ∧
      (tier (results t1.result).testStatus = tier (results t2.result).testStatus →
        compare.distance t1 ≤ compare.distance t2) := by
  rw [lt_iff, not_lt, key, key, Prod.Lex.toLex_le_toLex] at h
  rcases h with hbefore | ⟨hsame, hnear⟩
  · exact ⟨hbefore.le, fun heq => absurd heq hbefore.ne⟩
  · exact ⟨hsame.le, fun _ => hnear⟩

theorem grouped_of_sorted {targets : List (GraspTarget G V)}
    (h : targets.Pairwise fun t1 t2 => ¬ compare.lt results t2 t1) :
    compare.Grouped results targets := by
  have hkey := h.imp fun hnot => le_of_not_lt hnot
  let part (i : ℕ) := targets.filter fun t => tier (results t.result).testStatus = i
  have htier (i : ℕ) (t : GraspTarget G V) (ht : t ∈ part i) :
      tier (results t.result).testStatus = i := by
    simpa using (List.mem_filter.mp ht).2
  have hnear (i : ℕ) :
      (part i).Pairwise fun t1 t2 => compare.distance t1 ≤ compare.distance t2 := by
    apply (hkey.sublist List.filter_sublist).imp_of_mem
    intro t1 t2 h1 h2 hle
    exact hle.2 ((htier i t1 h1).trans (htier i t2 h2).symm)
  have hparts : targets = part 0 ++ (part 1 ++ (part 2 ++ [])) :=
    StdSort.eq_flatMap_filter 3 (hkey.imp fun hle => hle.1)
      fun t _ => Nat.lt_succ_of_le (tier_le_two (results t.result).testStatus)
  rw [List.append_nil] at hparts
  refine ⟨part 0, part 1, part 2, hparts, ?_, ?_, ?_, hnear 0, hnear 1, hnear 2⟩
  · exact fun t ht => tier_eq_zero.mp (htier 0 t ht)
  · exact fun t ht => tier_eq_one.mp (htier 1 t ht)
  · intro t ht
    have hother := htier 2 t ht
    rw [ne_eq, ← tier_eq_zero, ne_eq, ← tier_eq_one]
    omega

/-- The subtasks are kept in their order, and the targets of each are sorted by group and
distance. -/
theorem sorted_by_status (sort : StdSort (compare.lt results)) (grasps : GraspTask R G V) :
    IsStrictWeakOrder (GraspTarget G V) (compare.lt results) ∧
    (SortingFilter.filter sort grasps).gripperID = grasps.gripperID ∧
    (SortingFilter.filter sort grasps).tcpID = grasps.tcpID ∧
    List.Forall₂ (fun subtask sorted : GraspSubTask R G V =>
      sorted = { subtask with targets := sorted.targets } ∧
        sorted.targets.Perm subtask.targets ∧ compare.Grouped results sorted.targets)
      grasps.subTasks (SortingFilter.filter sort grasps).subTasks := by
  refine ⟨compare.isStrictWeakOrder results, rfl, rfl, ?_⟩
  rw [SortingFilter.filter, List.forall₂_map_right_iff, List.forall₂_same]
  intro subtask _
  exact ⟨rfl, sort.perm _, grouped_of_sorted (sort.sorted _)⟩

end GraspTargetCompare
end Gripperz.Grasps
