import Mathlib.Order.Basic

/-! # Calls that fail

A call changes a state and returns a value, raises an exception or follows a null pointer. The
state stays as it was at the failure. Exceptions can be handled; a null pointer cannot. `Ends` is
the weakest precondition of a call for two postconditions.
-/
namespace Gripperz.Library

/-- What ends a call before it returns. -/
inductive Failure where
  | raised (message : String)
  | crashed
  deriving DecidableEq, Repr

/-- The failure of a call whose exceptions are raised again after a text. -/
def Failure.prefixed (text : String) : Failure → Failure
  | raised message => raised (text ++ message)
  | crashed => crashed

@[simp] theorem Failure.prefixed_eq_crashed {text : String} {failure : Failure} :
    failure.prefixed text = .crashed ↔ failure = .crashed := by
  cases failure <;> simp [prefixed]

/-- Calls on a state `σ` that return an `α`. -/
abbrev Action (σ α : Type) := EStateM Failure σ α

namespace Action
variable {σ α β : Type}

def raise (message : String) : Action σ α := throw (.raised message)

def crash : Action σ α := throw .crashed

/-- A `catch` block. -/
def handle (x : Action σ α) (caught : String → Action σ α) : Action σ α :=
  tryCatch x fun
    | .raised message => caught message
    | .crashed => crash

/-- A `catch` block that raises the exception again after a text of its own. -/
def rethrow (text : String) (x : Action σ α) : Action σ α :=
  x.handle fun message => raise (text ++ message)

/-- The value of an operation that reports its exceptions. -/
def ofExcept : Except String α → Action σ α
  | .ok a => pure a
  | .error message => raise message

/-- A call on a part of the state. -/
def within {τ : Type} (view : τ → σ) (put : τ → σ → τ) (x : Action σ α) : Action τ α := fun s =>
  match x (view s) with
  | .ok a part => .ok a (put s part)
  | .error failure part => .error failure (put s part)

/-- Where the call returns, `post` holds of the value and the state, and where it fails, `fails`
of the failure and the state. -/
def Ends (post : α → σ → Prop) (fails : Failure → σ → Prop) (x : Action σ α) (s : σ) : Prop :=
  match x s with
  | .ok a s' => post a s'
  | .error failure s' => fails failure s'

variable {post : α → σ → Prop} {fails : Failure → σ → Prop} {s : σ}

/-! ## The rules -/

theorem ends_of_ok {x : Action σ α} {a : α} {s' : σ} (h : x s = .ok a s') :
    Ends post fails x s ↔ post a s' := by
  rw [Ends, h]

theorem ends_of_error {x : Action σ α} {failure : Failure} {s' : σ} (h : x s = .error failure s') :
    Ends post fails x s ↔ fails failure s' := by
  rw [Ends, h]

@[simp] theorem ends_pure (a : α) : Ends post fails (pure a) s ↔ post a s := Iff.rfl

@[simp] theorem ends_raise (message : String) :
    Ends post fails (raise message) s ↔ fails (.raised message) s := Iff.rfl

@[simp] theorem ends_crash : Ends post fails crash s ↔ fails .crashed s := Iff.rfl

@[simp] theorem ends_get {post : σ → σ → Prop} :
    Ends post fails (get : Action σ σ) s ↔ post s s := Iff.rfl

@[simp] theorem ends_modify {post : PUnit → σ → Prop} (f : σ → σ) :
    Ends post fails (modify f : Action σ PUnit) s ↔ post ⟨⟩ (f s) := Iff.rfl

@[simp] theorem ends_bind {post : β → σ → Prop} (x : Action σ α) (f : α → Action σ β) :
    Ends post fails (x >>= f) s ↔ Ends (fun a s' => Ends post fails (f a) s') fails x s := by
  change (match EStateM.bind x f s with
    | .ok a s' => post a s'
    | .error failure s' => fails failure s') ↔ _
  unfold Ends EStateM.bind
  cases x s <;> rfl

@[simp] theorem ends_handle (x : Action σ α) (caught : String → Action σ α) :
    Ends post fails (x.handle caught) s ↔
      Ends post (fun failure s' => match failure with
        | .raised message => Ends post fails (caught message) s'
        | .crashed => fails .crashed s') x s := by
  change (match EStateM.tryCatch x _ s with
    | .ok a s' => post a s'
    | .error failure s' => fails failure s') ↔ _
  unfold Ends EStateM.tryCatch
  cases x s with
  | ok a s' => rfl
  | error failure s' => cases failure <;> rfl

@[simp] theorem ends_rethrow (text : String) (x : Action σ α) :
    Ends post fails (x.rethrow text) s ↔
      Ends post (fun failure s' => fails (failure.prefixed text) s') x s := by
  rw [rethrow, ends_handle]
  unfold Ends
  cases x s with
  | ok a s' => rfl
  | error failure s' => cases failure <;> rfl

@[simp] theorem ends_ofExcept (got : Except String α) :
    Ends post fails (ofExcept got) s ↔
      match got with
      | .ok a => post a s
      | .error message => fails (.raised message) s := by
  cases got <;> rfl

@[simp] theorem ends_within {τ : Type} {post : α → τ → Prop} {fails : Failure → τ → Prop} {t : τ}
    (view : τ → σ) (put : τ → σ → τ) (x : Action σ α) :
    Ends post fails (x.within view put) t ↔
      Ends (fun a part => post a (put t part)) (fun failure part => fails failure (put t part)) x
        (view t) := by
  unfold Ends within
  cases x (view t) <;> rfl

theorem ends_iff {x : Action σ α} :
    Ends post fails x s ↔ (∀ a s', x s = .ok a s' → post a s') ∧
      ∀ failure s', x s = .error failure s' → fails failure s' := by
  unfold Ends
  cases x s <;> simp

theorem Ends.imp {post' : α → σ → Prop} {fails' : Failure → σ → Prop} {x : Action σ α}
    (h : Ends post fails x s) (hpost : ∀ a s', post a s' → post' a s')
    (hfails : ∀ failure s', fails failure s' → fails' failure s') : Ends post' fails' x s := by
  obtain ⟨hok, herror⟩ := ends_iff.mp h
  exact ends_iff.mpr ⟨fun a s' hx => hpost a s' (hok a s' hx),
    fun failure s' hx => hfails failure s' (herror failure s' hx)⟩

theorem Ends.and {post' : α → σ → Prop} {fails' : Failure → σ → Prop} {x : Action σ α}
    (h : Ends post fails x s) (h' : Ends post' fails' x s) :
    Ends (fun a s' => post a s' ∧ post' a s') (fun failure s' => fails failure s' ∧
      fails' failure s') x s := by
  obtain ⟨hok, herror⟩ := ends_iff.mp h
  obtain ⟨hok', herror'⟩ := ends_iff.mp h'
  exact ends_iff.mpr ⟨fun a s' hx => ⟨hok a s' hx, hok' a s' hx⟩,
    fun failure s' hx => ⟨herror failure s' hx, herror' failure s' hx⟩⟩

/-- Every call ends somehow. -/
theorem Ends.elim {p : Prop} {x : Action σ α} (h : Ends post fails x s)
    (hpost : ∀ a s', post a s' → p) (hfails : ∀ failure s', fails failure s' → p) : p := by
  obtain ⟨hok, herror⟩ := ends_iff.mp h
  cases hx : x s with
  | ok a s' => exact hpost a s' (hok a s' hx)
  | error failure s' => exact hfails failure s' (herror failure s' hx)

theorem ends_of_forall {x : Action σ α} (hpost : ∀ a s', post a s')
    (hfails : ∀ failure s', fails failure s') : Ends post fails x s := by
  exact ends_iff.mpr ⟨fun a s' _ => hpost a s', fun failure s' _ => hfails failure s'⟩

/-- A call that cannot fail returns. -/
theorem Ends.exists_of {x : Action σ α} (h : Ends post (fun _ _ => False) x s) :
    ∃ a s', x s = .ok a s' ∧ post a s' := by
  obtain ⟨hok, herror⟩ := ends_iff.mp h
  cases hx : x s with
  | ok a s' => exact ⟨a, s', rfl, hok a s' hx⟩
  | error failure s' => exact (herror failure s' hx).elim

theorem ends_congr {post' : α → σ → Prop} {fails' : Failure → σ → Prop} (x : Action σ α)
    (hpost : ∀ a s', post a s' ↔ post' a s')
    (hfails : ∀ failure s', fails failure s' ↔ fails' failure s') :
    Ends post fails x s ↔ Ends post' fails' x s :=
  ⟨fun h => h.imp (fun a s' => (hpost a s').mp) fun failure s' => (hfails failure s').mp,
    fun h => h.imp (fun a s' => (hpost a s').mpr) fun failure s' => (hfails failure s').mpr⟩

/-! ## One call after the other -/

/-- The state that is left when the call returns or raises an exception. -/
def after (x : Action σ α) (s : σ) : Option σ :=
  match x s with
  | .ok _ s' => some s'
  | .error (.raised _) s' => some s'
  | .error .crashed _ => none

theorem forall_after_iff {P : σ → Prop} (x : Action σ α) :
    (∀ s', x.after s = some s' → P s') ↔
      Ends (fun _ s' => P s') (fun failure s' => failure ≠ .crashed → P s') x s := by
  unfold after Ends
  cases x s with
  | ok a s' => simp
  | error failure s' => cases failure <;> simp

theorem exists_after_iff {P : σ → Prop} (x : Action σ α) :
    (∃ s', x.after s = some s' ∧ P s') ↔
      Ends (fun _ s' => P s') (fun failure s' => failure ≠ .crashed ∧ P s') x s := by
  unfold after Ends
  cases x s with
  | ok a s' => simp
  | error failure s' => cases failure <;> simp

/-- The calls of a run with the states before them: exceptions do not end the run. -/
def calls {I : Type} (f : I → Action σ α) : List I → σ → List (I × σ)
  | [], _ => []
  | i :: is, s => (i, s) :: match (f i).after s with
    | none => []
    | some s' => calls f is s'

/-- `P` holds after each call of a run exactly when all its calls are good, if good calls keep `P`
and the others break it. -/
theorem forall_calls_iff {I : Type} {f : I → Action σ α} {Inv P : σ → Prop} {good : I → σ → Prop}
    (keeps : ∀ i s s', Inv s → (f i).after s = some s' → Inv s')
    (holds : ∀ i s s', Inv s → good i s → P s → (f i).after s = some s' → P s')
    (breaks : ∀ i s, Inv s → ¬ good i s → ∃ s', (f i).after s = some s' ∧ ¬ P s')
    (is : List I) (hs : Inv s) (hP : P s) :
    (∀ call ∈ calls f is s, ∀ s', (f call.1).after call.2 = some s' → P s') ↔
      ∀ call ∈ calls f is s, good call.1 call.2 := by
  induction is generalizing s with
  | nil => simp [calls]
  | cons i is ih =>
    simp only [calls, List.forall_mem_cons]
    constructor
    · rintro ⟨hfirst, hrest⟩
      have hgood : good i s := by
        by_contra hbad
        obtain ⟨s', hafter, hnot⟩ := breaks i s hs hbad
        exact hnot (hfirst s' hafter)
      refine ⟨hgood, ?_⟩
      cases hafter : (f i).after s with
      | none => simp
      | some s' =>
        simp only [hafter] at hrest
        exact (ih (keeps i s s' hs hafter) (hfirst s' hafter)).mp hrest
    · rintro ⟨hgood, hrest⟩
      refine ⟨fun s' => holds i s s' hs hgood hP, ?_⟩
      cases hafter : (f i).after s with
      | none => simp
      | some s' =>
        simp only [hafter] at hrest
        exact (ih (keeps i s s' hs hafter) (holds i s s' hs hgood hP hafter)).mpr hrest

/-! ## Loops -/

/-- `do body while (again)`, given up after `fuel` rounds. Says whether the loop has ended. -/
def doWhile (body : Action σ Unit) (again : σ → Bool) : ℕ → Action σ Bool
  | 0 => pure false
  | fuel + 1 => do
    body
    if again (← get) then doWhile body again fuel else return true

/-- A loop keeps an invariant and ends if every round but the last lowers a variant. -/
theorem ends_doWhile {body : Action σ Unit} {again : σ → Bool} (Inv : σ → Prop) (variant : σ → ℕ)
    {post : σ → Prop} {fails : Failure → σ → Prop}
    (round : ∀ s, Inv s → Ends (fun _ s' =>
      if again s' then Inv s' ∧ variant s' < variant s else post s') fails body s)
    {fuel : ℕ} {s : σ} (h : Inv s) (hfuel : variant s < fuel) :
    Ends (fun ended s' => ended = true ∧ post s') fails (doWhile body again fuel) s := by
  induction fuel generalizing s with
  | zero => exact absurd hfuel (Nat.not_lt_zero _)
  | succ fuel ih =>
    rw [doWhile, ends_bind]
    refine (round s h).imp ?_ fun _ _ => id
    intro _ s' hs'
    rw [ends_bind, ends_get]
    cases hagain : again s' with
    | true =>
      rw [hagain, if_pos rfl] at hs'
      rw [if_pos rfl]
      exact ih hs'.1 (Nat.lt_of_lt_of_le hs'.2 (Nat.le_of_lt_succ hfuel))
    | false =>
      rw [hagain, if_neg Bool.false_ne_true] at hs'
      rw [if_neg Bool.false_ne_true]
      exact ⟨rfl, hs'⟩

end Action
end Gripperz.Library
