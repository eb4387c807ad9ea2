import Gripperz.Library.Query

/-! # The rounds of a loop

What a program may yield when its questions are answered in any way, and the states that a loop
reaches so, at the start of a round or at its end.
-/
namespace Gripperz.Library.Query
variable {I O α β σ : Type}

/-- Some answers make the program end with a result. -/
inductive Yields : Query I O α → α → Prop where
  | done (a : α) : Yields (.done a) a
  | ask {i : I} {next : O → Query I O α} {a : α} (o : O) (h : Yields (next o) a) :
      Yields (.ask i next) a

theorem yields_pure {a b : α} : Yields (pure b : Query I O α) a ↔ a = b := by
  constructor
  · intro h
    cases h
    rfl
  · rintro rfl
    exact .done a

theorem yields_bind {p : Query I O α} {k : α → Query I O β} {b : β} :
    Yields (p >>= k) b ↔ ∃ a, Yields p a ∧ Yields (k a) b := by
  change Yields (p.bind k) b ↔ _
  induction p with
  | done a =>
    constructor
    · exact fun h => ⟨a, .done a, h⟩
    · rintro ⟨_, ⟨⟩, h⟩
      exact h
  | ask i next ih =>
    constructor
    · rintro (_ | ⟨o, h⟩)
      obtain ⟨a, ha, hb⟩ := (ih o).mp h
      exact ⟨a, .ask o ha, hb⟩
    · rintro ⟨a, _ | ⟨o, ha⟩, hb⟩
      exact .ask o ((ih o).mpr ⟨a, ha, hb⟩)

theorem yields_forEach {g : α → Query I O β} {as : List α} {bs : List β}
    (h : Yields (forEach g as) bs) : List.Forall₂ (fun a b => Yields (g a) b) as bs := by
  induction as generalizing bs with
  | nil =>
    cases yields_pure.mp h
    exact .nil
  | cons a as ih =>
    obtain ⟨b, hb, h⟩ := yields_bind.mp h
    obtain ⟨rest, hrest, h⟩ := yields_bind.mp h
    cases yields_pure.mp h
    exact .cons hb (ih hrest)

/-- A run against an answer function is one of these. -/
theorem yields_exec (f : I → O) (p : Query I O α) : Yields p (p.exec f).1 := by
  induction p with
  | done a => exact .done a
  | ask i next ih => exact .ask (f i) (ih (f i))

/-- The states at which a `do … while` loop starts a round, and those a round ends in. -/
inductive Rounds (body : σ → Query I O σ) (again : σ → Bool) : σ → σ → Prop where
  | start (s : σ) : Rounds body again s s
  | last {s t : σ} (h : Yields (body s) t) : Rounds body again s t
  | more {s t u : σ} (h : Yields (body s) t) (hagain : again t = true)
      (hrest : Rounds body again t u) : Rounds body again s u

variable {body : σ → Query I O σ} {again : σ → Bool}

/-- What a round keeps holds of every state that the loop reaches. -/
theorem Rounds.invariant (Inv : σ → Prop) (step : ∀ s t, Inv s → Yields (body s) t → Inv t)
    {s t : σ} (h : Rounds body again s t) (hs : Inv s) : Inv t := by
  induction h with
  | start s => exact hs
  | last h => exact step _ _ hs h
  | more h _ _ ih => exact ih (step _ _ hs h)

/-- The loop ends in a state that it reaches. -/
theorem rounds_of_doWhile {fuel : ℕ} {s t : σ} (h : Yields (doWhile body again fuel s) (some t)) :
    Rounds body again s t := by
  induction fuel generalizing s with
  | zero => cases yields_pure.mp h
  | succ fuel ih =>
    obtain ⟨u, hu, hrest⟩ := yields_bind.mp h
    split at hrest
    · rename_i hagain
      exact .more hu hagain (ih hrest)
    · cases yields_pure.mp hrest
      exact .last hu

end Gripperz.Library.Query
