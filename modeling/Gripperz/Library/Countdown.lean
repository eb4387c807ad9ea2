import Mathlib.Algebra.BigOperators.Group.Finset.Basic
import Mathlib.Logic.Relation

/-! # Runs that count down

Where every step lowers a measure, a run takes no more steps than the measure allows, and can be
continued until no step is left.
-/
namespace Gripperz.Library
open scoped BigOperators

variable {α : Type*} {r : α → α → Prop}

/-- So many steps lead from one state to another. -/
inductive Takes (r : α → α → Prop) (a : α) : ℕ → α → Prop where
  | none : Takes r a 0 a
  | step {n : ℕ} {b c : α} (h : Takes r a n b) (h' : r b c) : Takes r a (n + 1) c

theorem Takes.run {n : ℕ} {a b : α} (h : Takes r a n b) : Relation.ReflTransGen r a b := by
  induction h with
  | none => exact .refl
  | step _ h' ih => exact ih.tail h'

theorem Takes.head {n : ℕ} {a b c : α} (h : r a b) (h' : Takes r b n c) :
    Takes r a (n + 1) c := by
  induction h' with
  | none => exact .step .none h
  | step _ hlast ih => exact ih.step hlast

/-- What every step keeps and lowers bounds the number of steps. -/
theorem Takes.add_le (Inv : α → Prop) (measure : α → ℕ)
    (lowers : ∀ a b, Inv a → r a b → Inv b ∧ measure b < measure a) {n : ℕ} {a b : α}
    (h : Takes r a n b) (ha : Inv a) : Inv b ∧ n + measure b ≤ measure a := by
  induction h with
  | none => exact ⟨ha, by simp⟩
  | step _ h' ih =>
    obtain ⟨hinv, hle⟩ := ih
    obtain ⟨hinv', hlt⟩ := lowers _ _ hinv h'
    exact ⟨hinv', by omega⟩

/-- A state without a step is reached in the end. -/
theorem exists_takes_last (Inv : α → Prop) (measure : α → ℕ)
    (lowers : ∀ a b, Inv a → r a b → Inv b ∧ measure b < measure a) {k : ℕ} {first a : α}
    (h : Takes r first k a) (ha : Inv a) :
    ∃ n b, Takes r first n b ∧ Relation.ReflTransGen r a b ∧ ∀ c, ¬ r b c := by
  induction hm : measure a using Nat.strongRecOn generalizing k a with
  | _ m ih =>
    by_cases hlast : ∃ c, r a c
    · obtain ⟨c, hc⟩ := hlast
      obtain ⟨hinv, hlt⟩ := lowers a c ha hc
      obtain ⟨n, b, hb, hrest, hnone⟩ := ih (measure c) (hm ▸ hlt) (h.step hc) hinv rfl
      exact ⟨n, b, hb, .head hc hrest, hnone⟩
    · exact ⟨k, a, h, .refl, not_exists.mp hlast⟩

/-- The sum of a family in which one value has changed. -/
theorem sum_update_add {ι : Type*} [Fintype ι] [DecidableEq ι] (f g : ι → ℕ) (i : ι)
    (h : ∀ j, j ≠ i → g j = f j) : (∑ j, g j) + f i = (∑ j, f j) + g i := by
  rw [← Finset.add_sum_erase _ g (Finset.mem_univ i), ← Finset.add_sum_erase _ f
    (Finset.mem_univ i)]
  have hrest : ∑ j ∈ Finset.univ.erase i, g j = ∑ j ∈ Finset.univ.erase i, f j :=
    Finset.sum_congr rfl fun j hj => h j (Finset.ne_of_mem_erase hj)
  omega

end Gripperz.Library
