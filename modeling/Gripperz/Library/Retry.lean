import Mathlib.Data.Nat.Init

/-! # Repeated attempts

A loop that makes an attempt, and further ones until an attempt is good or there have been so many
of them. It ends with the first good attempt, or with the last one.
-/
namespace Gripperz.Library
variable {σ α : Type*} (attempt : σ → α × σ) (good : α × σ → Bool)

/-- `do { attempt; if (good) break; } while (tries++ < n)`. -/
def retry : ℕ → σ → α × σ
  | 0, s => attempt s
  | n + 1, s => if good (attempt s) then attempt s else retry n (attempt s).2

/-- What an attempt returns when so many others were made before it. -/
def attempts (s : σ) : ℕ → α × σ
  | 0 => attempt s
  | k + 1 => attempt (attempts s k).2

theorem attempts_succ (s : σ) (k : ℕ) :
    attempts attempt s (k + 1) = attempts attempt (attempt s).2 k := by
  induction k with
  | zero => rfl
  | succ k ih => exact congrArg (fun result => attempt result.2) ih

/-- The loop makes at most `n + 1` attempts. All before the last are not good, and so is the last
only if there may be no more. -/
theorem retry_spec (n : ℕ) (s : σ) :
    ∃ k ≤ n, retry attempt good n s = attempts attempt s k ∧
      (∀ j < k, good (attempts attempt s j) = false) ∧
      (good (attempts attempt s k) = true ∨ k = n) := by
  induction n generalizing s with
  | zero => exact ⟨0, Nat.le_refl 0, rfl, fun j hj => absurd hj (Nat.not_lt_zero j), Or.inr rfl⟩
  | succ n ih =>
    rw [retry]
    cases hgood : good (attempt s) with
    | true =>
      exact ⟨0, Nat.zero_le _, if_pos rfl, fun j hj => absurd hj (Nat.not_lt_zero j),
        Or.inl hgood⟩
    | false =>
      obtain ⟨k, hle, hretry, hbefore, hlast⟩ := ih (attempt s).2
      refine ⟨k + 1, Nat.succ_le_succ hle, ?_, ?_, ?_⟩
      · rw [attempts_succ]
        exact hretry
      · intro j hj
        cases j with
        | zero => exact hgood
        | succ j =>
          rw [attempts_succ]
          exact hbefore j (Nat.lt_of_succ_lt_succ hj)
      · rw [attempts_succ]
        exact hlast.imp_right (congrArg Nat.succ)

/-- What holds before the first attempt, and after each that is not good, holds before the last. -/
theorem retry_invariant (Inv : σ → Prop) {n : ℕ} {s : σ} (h : Inv s)
    (keeps : ∀ s, Inv s → good (attempt s) = false → Inv (attempt s).2) :
    ∃ last, Inv last ∧ retry attempt good n s = attempt last := by
  induction n generalizing s with
  | zero => exact ⟨s, h, rfl⟩
  | succ n ih =>
    rw [retry]
    cases hgood : good (attempt s) with
    | true => exact ⟨s, h, if_pos rfl⟩
    | false => exact ih (keeps s h hgood)

end Gripperz.Library
