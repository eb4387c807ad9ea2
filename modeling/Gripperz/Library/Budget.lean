import Gripperz.Library.Query

/-! # What a program spends

An oracle may answer a question by all that was asked before, and never the same way twice.
`Spends` is a postcondition on the result and the number of questions asked, whatever the
answers are.
-/
namespace Gripperz.Library

/-- An answer to a question after a dialogue. -/
abbrev Oracle (I O : Type) := List (I × O) → I → O

namespace Query
variable {I O α β σ : Type}

/-- Answer every question by the oracle and record the dialogue. -/
def interview (oracle : Oracle I O) : Query I O α → List (I × O) → α × List (I × O)
  | .done a, past => (a, past)
  | .ask i next, past => (next (oracle past i)).interview oracle (past ++ [(i, oracle past i)])

/-- Started after `spent` questions, the program ends in `post`. -/
def Spends : Query I O α → ℕ → (α → ℕ → Prop) → Prop
  | .done a, spent, post => post a spent
  | .ask _ next, spent, post => ∀ o, (next o).Spends (spent + 1) post

theorem spends_pure {a : α} {spent : ℕ} {post : α → ℕ → Prop} :
    Spends (pure a : Query I O α) spent post ↔ post a spent := Iff.rfl

theorem spends_question {i : I} {spent : ℕ} {post : O → ℕ → Prop} :
    Spends (question i) spent post ↔ ∀ o, post o (spent + 1) := Iff.rfl

theorem spends_bind {p : Query I O α} {k : α → Query I O β} {spent : ℕ} {post : β → ℕ → Prop} :
    Spends (p >>= k) spent post ↔ Spends p spent fun a now => Spends (k a) now post := by
  change Spends (p.bind k) spent post ↔ _
  induction p generalizing spent with
  | done a => rfl
  | ask i next ih => exact forall_congr' fun o => ih o

theorem Spends.mono {p : Query I O α} {spent : ℕ} {post post' : α → ℕ → Prop}
    (h : Spends p spent post) (imp : ∀ a now, post a now → post' a now) :
    Spends p spent post' := by
  induction p generalizing spent with
  | done a => exact imp _ _ h
  | ask i next ih => exact fun o => ih o (h o)

/-- What holds whatever the answers are holds of the dialogue with an oracle. -/
theorem Spends.interview {p : Query I O α} (past : List (I × O)) {post : α → ℕ → Prop}
    (h : Spends p past.length post) (oracle : Oracle I O) :
    post (p.interview oracle past).1 (p.interview oracle past).2.length := by
  induction p generalizing past with
  | done a => exact h
  | ask i next ih =>
    apply ih
    simpa using h (oracle past i)

/-- It holds of the dialogue with a function, too. -/
theorem Spends.exec {p : Query I O α} {spent : ℕ} {post : α → ℕ → Prop}
    (h : Spends p spent post) (f : I → O) :
    post (p.exec f).1 (spent + (p.exec f).2.length) := by
  induction p generalizing spent with
  | done a => exact h
  | ask i next ih =>
    have hnext := ih (f i) (h (f i))
    rw [Nat.add_assoc, Nat.add_comm 1] at hnext
    exact hnext

/-- And of a run by an effect, when it does not fail. -/
theorem Spends.run {ε : Type} {p : Query I O α} {spent : ℕ} {post : α → ℕ → Prop}
    (h : Spends p spent post) (F : I → StateT σ (Except ε) O) {a : α} {s s' : σ}
    (hrun : (p.run F).run s = .ok (a, s')) : ∃ now, post a now := by
  induction p generalizing s spent with
  | done b =>
    obtain rfl : b = a := (Prod.mk.inj (Except.ok.inj hrun)).1
    exact ⟨spent, h⟩
  | ask i next ih =>
    rw [Query.run, StateT.run_bind] at hrun
    cases hanswer : (F i).run s with
    | error message =>
      rw [hanswer] at hrun
      cases hrun
    | ok answer =>
      rw [hanswer] at hrun
      exact ih answer.1 (h answer.1) hrun

/-! ## Loops -/

/-- A question for each element. -/
theorem spends_forEach {g : α → Query I O β}
    (one : ∀ a spent, Spends (g a) spent fun _ now => now = spent + 1) (as : List α) (spent : ℕ) :
    Spends (forEach g as) spent fun bs now =>
      bs.length = as.length ∧ now = spent + as.length := by
  induction as generalizing spent with
  | nil => exact ⟨rfl, rfl⟩
  | cons a as ih =>
    rw [forEach, spends_bind]
    apply (one a spent).mono
    rintro b now rfl
    rw [spends_bind]
    apply (ih (spent + 1)).mono
    rintro bs now ⟨hlength, rfl⟩
    rw [spends_pure]
    simp only [List.length_cons]
    omega

/-- One round leads from the invariant to `Post` and, when the loop goes on, back to the
invariant with a lower variant. -/
theorem spends_doWhile {body : σ → Query I O σ} {again : σ → Bool} (Inv Post : σ → ℕ → Prop)
    (variant : σ → ℕ)
    (step : ∀ s spent, Inv s spent → Spends (body s) spent fun s' now =>
      Post s' now ∧ (again s' = true → Inv s' now ∧ variant s' < variant s))
    (fuel : ℕ) (s : σ) (spent : ℕ) (hfuel : variant s < fuel) (h : Inv s spent) :
    Spends (doWhile body again fuel s) spent fun r now => ∃ t, r = some t ∧ Post t now := by
  induction fuel generalizing s spent with
  | zero => exact absurd hfuel (Nat.not_lt_zero _)
  | succ fuel ih =>
    rw [doWhile, spends_bind]
    apply (step s spent h).mono
    rintro s' now ⟨hpost, hagain⟩
    cases hs : again s' with
    | false => exact ⟨s', rfl, hpost⟩
    | true =>
      obtain ⟨hinv, hlt⟩ := hagain hs
      exact ih s' now (by omega) hinv

/-- A loop that counts its questions, asks at most `most` in a round and goes on only within
its limit overdraws the limit by one round at most. -/
theorem spends_counted {body : σ → Query I O σ} {again : σ → Bool} (counter : σ → ℕ)
    (Inv : σ → Prop) (limit most : ℕ)
    (step : ∀ s, Inv s → counter s ≤ limit → Spends (body s) (counter s) fun s' now =>
      now = counter s' ∧ counter s < now ∧ now ≤ counter s + most ∧ Inv s' ∧
        (again s' = true → now ≤ limit))
    {fuel spent : ℕ} {s : σ} (hspent : spent = counter s) (hlimit : counter s ≤ limit)
    (hfuel : limit + 1 - counter s < fuel) (h : Inv s) :
    Spends (doWhile body again fuel s) spent fun r now =>
      ∃ t, r = some t ∧ now ≤ limit + most := by
  apply spends_doWhile (fun s spent => spent = counter s ∧ counter s ≤ limit ∧ Inv s)
    (fun _ spent => spent ≤ limit + most) (fun s => limit + 1 - counter s)
  · rintro s spent ⟨rfl, hle, hinv⟩
    apply (step s hinv hle).mono
    rintro s' now ⟨rfl, hmore, hmost, hinv', hagain⟩
    refine ⟨by omega, ?_⟩
    intro hs
    have hle' := hagain hs
    exact ⟨⟨rfl, hle', hinv'⟩, by omega⟩
  · exact hfuel
  · exact ⟨hspent, hlimit, h⟩

/-- A loop that goes on after every round is given up. -/
theorem spends_doWhile_none {body : σ → Query I O σ} {again : σ → Bool} (Inv : σ → Prop)
    (step : ∀ s spent, Inv s → Spends (body s) spent fun s' _ => Inv s' ∧ again s' = true)
    (fuel : ℕ) (s : σ) (spent : ℕ) (h : Inv s) :
    Spends (doWhile body again fuel s) spent fun r _ => r = none := by
  induction fuel generalizing s spent with
  | zero => rfl
  | succ fuel ih =>
    rw [doWhile, spends_bind]
    apply (step s spent h).mono
    rintro s' now ⟨hinv, hagain⟩
    rw [hagain]
    exact ih s' now hinv

end Query
end Gripperz.Library
