import Gripperz.Math.ParameterMapping

/-! # Objective functions and their decorators

Evaluating an objective function may fail with a message and may change the state
`σ` of whatever it is connected to. A decorator is a function of the one it wraps.
-/
namespace Gripperz.Math

abbrev ObjectiveFunction (σ R : Type) := List R → StateT σ (Except String) R

variable {σ R : Type}

/-- `CallbackFunction::evaluate`: report the arguments and the result. -/
def CallbackFunction (f : ObjectiveFunction σ R)
    (cb : List R → R → StateT σ (Except String) Unit) : ObjectiveFunction σ R := fun x => do
  let result ← f x
  cb x result
  return result

/-- `RevertedFunction::evaluate`. -/
def RevertedFunction [Neg R] (f : ObjectiveFunction σ R) : ObjectiveFunction σ R := fun x => do
  let result ← f x
  return -result

/-- `ConstrainedFunction::evaluate`: the function itself is left alone outside the
constraint. -/
def ConstrainedFunction (f : ObjectiveFunction σ R) (isMetBy : List R → Except String Bool)
    (defaultValue : R) : ObjectiveFunction σ R := fun x => do
  if !(← isMetBy x) then return defaultValue
  f x

/-- `MappedFunction::evaluate`. -/
def MappedFunction [Field R] (f : ObjectiveFunction σ R) (mapping : ParameterMapping R) :
    ObjectiveFunction σ R := fun x => do
  let mapped ← mapping.map x
  f mapped

theorem run_bind_eq_ok {α β ε : Type} {x : StateT σ (Except ε) α} {f : α → StateT σ (Except ε) β}
    {s s' : σ} {b : β} :
    (x >>= f).run s = .ok (b, s') ↔ ∃ a s₁, x.run s = .ok (a, s₁) ∧ (f a).run s₁ = .ok (b, s') := by
  rw [StateT.run_bind]
  cases hx : x.run s with
  | error message => simp [bind, Except.bind]
  | ok result =>
    obtain ⟨a, s₁⟩ := result
    simp [bind, Except.bind]

theorem run_liftM_eq_ok {α ε : Type} {x : Except ε α} {s s' : σ} {a : α} :
    (liftM x : StateT σ (Except ε) α).run s = .ok (a, s') ↔ x = .ok a ∧ s' = s := by
  cases x with
  | error message => exact iff_of_false nofun fun h => nomatch h.1
  | ok b =>
    constructor
    · intro h
      obtain ⟨rfl, rfl⟩ := Prod.mk.inj (Except.ok.inj h)
      exact ⟨rfl, rfl⟩
    · rintro ⟨h, rfl⟩
      rw [Except.ok.inj h]
      rfl

/-- The function answers `x` with `value` and takes each state to `upd` of it. -/
def Answers (f : ObjectiveFunction σ R) (x : List R) (value : R) (upd : σ → σ) : Prop :=
  ∀ s, (f x).run s = .ok (value, upd s)

theorem Answers.callback {f : ObjectiveFunction σ R} {x : List R} {value : R} {upd note : σ → σ}
    {cb : List R → R → StateT σ (Except String) Unit} (h : Answers f x value upd)
    (hcb : ∀ s, (cb x value).run s = .ok ((), note s)) :
    Answers (CallbackFunction f cb) x value (note ∘ upd) := by
  intro s
  simp only [CallbackFunction, StateT.run_bind, h s]
  simp only [bind, Except.bind, hcb]
  rfl

theorem Answers.reverted [Neg R] {f : ObjectiveFunction σ R} {x : List R} {value : R}
    {upd : σ → σ} (h : Answers f x value upd) : Answers (RevertedFunction f) x (-value) upd := by
  intro s
  simp only [RevertedFunction, StateT.run_bind, h s]
  rfl

theorem Answers.constrained_in {f : ObjectiveFunction σ R} {x : List R} {value : R}
    {upd : σ → σ} {isMetBy : List R → Except String Bool} {defaultValue : R}
    (h : Answers f x value upd) (hmet : isMetBy x = .ok true) :
    Answers (ConstrainedFunction f isMetBy defaultValue) x value upd := by
  intro s
  simp only [ConstrainedFunction, StateT.run_bind, hmet]
  exact h s

theorem Answers.constrained_out {f : ObjectiveFunction σ R} {x : List R}
    {isMetBy : List R → Except String Bool} {defaultValue : R} (hmet : isMetBy x = .ok false) :
    Answers (ConstrainedFunction f isMetBy defaultValue) x defaultValue id := by
  intro s
  simp only [ConstrainedFunction, StateT.run_bind, hmet]
  rfl

theorem Answers.mapped [Field R] {f : ObjectiveFunction σ R} {x mapped : List R} {value : R}
    {upd : σ → σ} {mapping : ParameterMapping R} (h : Answers f mapped value upd)
    (hmap : mapping.map x = .ok mapped) : Answers (MappedFunction f mapping) x value upd := by
  intro s
  simp only [MappedFunction, StateT.run_bind, hmap]
  exact h s

end Gripperz.Math
