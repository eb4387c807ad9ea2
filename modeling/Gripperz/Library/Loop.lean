import Mathlib.Data.Nat.Init

/-! # Loops with a break

A `while` loop whose body may leave it. The rule for its total correctness asks for an invariant
and for a variant that every round but the last lowers.
-/
namespace Gripperz.Library
variable {σ : Type}

/-- `while (again) body`, given up after `fuel` rounds. The body says whether it breaks. -/
def whileLoop (again : σ → Bool) (body : σ → σ × Bool) : ℕ → σ → Option σ
  | 0, _ => none
  | fuel + 1, s =>
    if again s then
      if (body s).2 then some (body s).1 else whileLoop again body fuel (body s).1
    else some s

variable {again : σ → Bool} {body : σ → σ × Bool}

/-- Where the loop ends, `Post` holds. -/
theorem whileLoop_post (Inv Post : σ → Prop)
    (done : ∀ s, Inv s → again s = false → Post s)
    (broken : ∀ s, Inv s → again s = true → (body s).2 = true → Post (body s).1)
    (goesOn : ∀ s, Inv s → again s = true → (body s).2 = false → Inv (body s).1)
    {fuel : ℕ} {s t : σ} (h : Inv s) (hs : whileLoop again body fuel s = some t) : Post t := by
  induction fuel generalizing s with
  | zero => cases hs
  | succ fuel ih =>
    unfold whileLoop at hs
    cases hagain : again s with
    | false =>
      simp only [hagain, Bool.false_eq_true, if_false] at hs
      exact Option.some.inj hs ▸ done s h hagain
    | true =>
      cases hbreak : (body s).2 with
      | true =>
        simp only [hagain, hbreak, if_true] at hs
        exact Option.some.inj hs ▸ broken s h hagain hbreak
      | false =>
        simp only [hagain, hbreak, if_true, Bool.false_eq_true, if_false] at hs
        exact ih (goesOn s h hagain hbreak) hs

/-- With enough fuel the loop ends in `Post`. -/
theorem whileLoop_spec (Inv Post : σ → Prop) (variant : σ → ℕ)
    (done : ∀ s, Inv s → again s = false → Post s)
    (broken : ∀ s, Inv s → again s = true → (body s).2 = true → Post (body s).1)
    (goesOn : ∀ s, Inv s → again s = true → (body s).2 = false →
      Inv (body s).1 ∧ variant (body s).1 < variant s)
    (s : σ) (h : Inv s) :
    ∃ t, Post t ∧ ∀ fuel, variant s < fuel → whileLoop again body fuel s = some t := by
  induction hn : variant s using Nat.strongRecOn generalizing s with
  | _ n ih =>
    cases hagain : again s with
    | false =>
      refine ⟨s, done s h hagain, ?_⟩
      intro fuel hfuel
      obtain ⟨fuel, rfl⟩ := Nat.exists_eq_succ_of_ne_zero (Nat.ne_zero_of_lt hfuel)
      simp [whileLoop, hagain]
    | true =>
      cases hbreak : (body s).2 with
      | true =>
        refine ⟨(body s).1, broken s h hagain hbreak, ?_⟩
        intro fuel hfuel
        obtain ⟨fuel, rfl⟩ := Nat.exists_eq_succ_of_ne_zero (Nat.ne_zero_of_lt hfuel)
        simp [whileLoop, hagain, hbreak]
      | false =>
        obtain ⟨hinv, hlt⟩ := goesOn s h hagain hbreak
        obtain ⟨t, hpost, ht⟩ := ih (variant (body s).1) (hn ▸ hlt) (body s).1 hinv rfl
        refine ⟨t, hpost, ?_⟩
        intro fuel hfuel
        obtain ⟨fuel, rfl⟩ := Nat.exists_eq_succ_of_ne_zero (Nat.ne_zero_of_lt hfuel)
        have henough : variant (body s).1 < fuel := by omega
        simpa [whileLoop, hagain, hbreak] using ht fuel henough

end Gripperz.Library
