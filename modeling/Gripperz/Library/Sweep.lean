import Mathlib.Algebra.Order.Field.Basic
import Mathlib.Algebra.Order.Ring.Cast
import Mathlib.Data.Fintype.Card
import Mathlib.Data.List.Range
import Mathlib.Tactic.Linarith
import Mathlib.Tactic.Ring

/-! # Loops over numbers

A `for` loop that adds a step to a number until it is beyond a limit, the sums exact or rounded.
Among finitely many numbers it ends when each step grows; it does not when it gets stuck.
-/
namespace Gripperz.Library
variable {R : Type}

section
variable [Add R] [LE R] [DecidableLE R]

/-- The numbers of `for (x = start; x <= last; x += step)`, given up after `fuel` tests. -/
def sweep (last step : R) : ℕ → R → Option (List R)
  | 0, _ => none
  | fuel + 1, x =>
    if x ≤ last then (sweep last step fuel (x + step)).map (x :: ·) else some []

variable {last step x : R}

/-- The loop does not start when the first number is not within the limit. -/
theorem sweep_of_not_le {fuel : ℕ} {values : List R} (hx : ¬ x ≤ last)
    (h : sweep last step fuel x = some values) : values = [] := by
  cases fuel with
  | zero => cases h
  | succ fuel => simpa [sweep, hx, eq_comm] using h

/-- The loop does not end when it stays where all numbers are within the limit. -/
theorem sweep_of_stuck {stays : R → Prop} (hwithin : ∀ x, stays x → x ≤ last)
    (hstep : ∀ x, stays x → stays (x + step)) (hx : stays x) (fuel : ℕ) :
    sweep last step fuel x = none := by
  induction fuel generalizing x with
  | zero => rfl
  | succ fuel ih => simp [sweep, hwithin x hx, ih (hstep x hx)]

/-- The loop ends after one round when the first step leads beyond the limit. -/
theorem sweep_of_not_next {fuel : ℕ} (hx : x ≤ last) (hnext : ¬ x + step ≤ last)
    (hfuel : 2 ≤ fuel) : sweep last step fuel x = some [x] := by
  obtain ⟨fuel, rfl⟩ := Nat.exists_eq_add_of_le hfuel
  rw [Nat.add_comm]
  simp [sweep, hx, hnext]

/-- Among finitely many numbers the loop ends when it grows as long as it is within the limit. -/
theorem exists_sweep_of_grows [Finite R] {less : R → R → Prop} [IsTrans R less]
    [Std.Irrefl less] {stays : R → Prop}
    (hgrows : ∀ x, stays x → x ≤ last → x + step ≤ last → less x (x + step) ∧ stays (x + step))
    (hstays : stays x) (hx : x ≤ last) :
    ∃ xs, xs ≠ [] ∧ ∃ enough, ∀ fuel, enough ≤ fuel → sweep last step fuel x = some xs := by
  have hwf : WellFounded (Function.swap less) := Finite.wellFounded_of_trans_of_irrefl _
  induction x using hwf.induction with
  | _ x ih =>
    by_cases hnext : x + step ≤ last
    · obtain ⟨hless, hstays⟩ := hgrows x hstays hx hnext
      obtain ⟨xs, -, enough, hrest⟩ := ih (x + step) hless hstays hnext
      refine ⟨x :: xs, List.cons_ne_nil _ _, enough + 1, ?_⟩
      intro fuel hfuel
      obtain ⟨fuel, rfl⟩ := Nat.exists_eq_succ_of_ne_zero (Nat.ne_zero_of_lt hfuel)
      simp [sweep, hx, hrest fuel (Nat.le_of_succ_le_succ hfuel)]
    · exact ⟨[x], List.cons_ne_nil _ _, 2, fun _ hfuel => sweep_of_not_next hx hnext hfuel⟩

end

/-! ## Exact steps -/

variable [Field R] [LinearOrder R] {last step x : R}

/-- The numbers are those at `n` steps when the last of them is the last within the limit. -/
theorem sweep_eq {n fuel : ℕ} (hwithin : ∀ k < n, x + k * step ≤ last)
    (hbeyond : last < x + n * step) (hfuel : n < fuel) :
    sweep last step fuel x = some ((List.range n).map fun k : ℕ => x + k * step) := by
  induction n generalizing x fuel with
  | zero =>
    obtain ⟨fuel, rfl⟩ := Nat.exists_eq_succ_of_ne_zero (Nat.ne_zero_of_lt hfuel)
    have hx : ¬ x ≤ last := by simpa using hbeyond
    simp [sweep, hx]
  | succ n ih =>
    obtain ⟨fuel, rfl⟩ := Nat.exists_eq_succ_of_ne_zero (Nat.ne_zero_of_lt hfuel)
    have hx : x ≤ last := by simpa using hwithin 0 (Nat.succ_pos n)
    have hnext : ∀ k : ℕ, x + step + k * step = x + (k + 1 : ℕ) * step := by
      intro k
      push_cast
      ring
    have hrest := ih (x := x + step)
      (fun k hk => hnext k ▸ hwithin (k + 1) (Nat.succ_lt_succ hk))
      (hnext n ▸ hbeyond) (Nat.lt_of_succ_lt_succ hfuel)
    simp only [sweep, hx, if_true, hrest, Option.map_some, List.range_succ_eq_map,
      List.map_cons, List.map_map, Nat.cast_zero, zero_mul, add_zero]
    congr 2
    apply List.map_congr_left
    intro k _
    exact hnext k

end Gripperz.Library
