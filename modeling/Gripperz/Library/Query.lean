import Mathlib.Data.List.Basic
import Mathlib.Order.Lattice

/-! # Programs that question an oracle

A `Query I O α` asks questions of type `I`, continues from the answers and ends
with a result. One program is run against any answering effect (`run`), or
against a fixed answer function with the full record of what was asked
(`exec`). `Holds` is the postcondition of a program started after a recorded
past; its rules and the loop rules are what the proofs about a program use.
-/
namespace Gripperz.Library

inductive Query (I O α : Type) where
  | done (a : α)
  | ask (i : I) (next : O → Query I O α)

namespace Query
variable {I O α β σ : Type}

protected def bind : Query I O α → (α → Query I O β) → Query I O β
  | .done a, k => k a
  | .ask i next, k => .ask i fun o => (next o).bind k

instance : Monad (Query I O) where
  pure := .done
  bind := Query.bind

/-- The program that asks one question and returns its answer. -/
def question (i : I) : Query I O O := .ask i .done

/-- Answer every question by the effect `F`. -/
def run {m : Type → Type} [Monad m] (F : I → m O) : Query I O α → m α
  | .done a => pure a
  | .ask i next => F i >>= fun o => (next o).run F

/-- Answer every question by the function `f` and record the dialogue. -/
def exec (f : I → O) : Query I O α → α × List (I × O)
  | .done a => (a, [])
  | .ask i next => (((next (f i)).exec f).1, (i, f i) :: ((next (f i)).exec f).2)

@[simp] theorem exec_pure (f : I → O) (a : α) : (pure a : Query I O α).exec f = (a, []) := rfl

@[simp] theorem exec_question (f : I → O) (i : I) :
    (question i : Query I O O).exec f = (f i, [(i, f i)]) := rfl

theorem exec_bind (f : I → O) (p : Query I O α) (k : α → Query I O β) :
    (p >>= k).exec f =
      (((k (p.exec f).1).exec f).1, (p.exec f).2 ++ ((k (p.exec f).1).exec f).2) := by
  change (p.bind k).exec f = _
  induction p with
  | done a => rfl
  | ask i next ih => simp [Query.bind, exec, ih]

/-- Every recorded answer is the oracle's. -/
theorem exec_answer (f : I → O) (p : Query I O α) :
    ∀ e ∈ (p.exec f).2, e.2 = f e.1 := by
  induction p with
  | done a => simp [exec]
  | ask i next ih =>
    intro e he
    rcases List.mem_cons.mp he with rfl | he
    · rfl
    · exact ih _ e he

/-- Two oracles that agree on some questions are alike until another one is asked. -/
theorem exec_agree {f g : I → O} {S : I → Prop} (h : ∀ i, S i → f i = g i) (p : Query I O α) :
    (p.exec f = p.exec g ∧ ∀ e ∈ (p.exec g).2, S e.1) ∨
      ∃ past i rest rest', ¬ S i ∧ (∀ e ∈ past, S e.1) ∧
        (p.exec f).2 = past ++ (i, f i) :: rest ∧ (p.exec g).2 = past ++ (i, g i) :: rest' := by
  induction p with
  | done a => exact .inl ⟨rfl, nofun⟩
  | ask i next ih =>
    by_cases hi : S i
    · rcases ih (g i) with ⟨heq, hall⟩ | ⟨past, j, rest, rest', hj, hall, hf, hg⟩
      · refine .inl ⟨?_, List.forall_mem_cons.mpr ⟨hi, hall⟩⟩
        rw [exec, exec, h i hi, heq]
      · refine .inr ⟨(i, g i) :: past, j, rest, rest', hj, List.forall_mem_cons.mpr ⟨hi, hall⟩,
          ?_, ?_⟩
        · rw [exec, h i hi, hf]
          rfl
        · rw [exec, hg]
          rfl
    · exact .inr ⟨[], i, _, _, hi, nofun, rfl, rfl⟩

/-! ## Postconditions -/

/-- Started after the dialogue `past`, the program ends in `post` of its result
and of the whole dialogue. -/
def Holds (f : I → O) (p : Query I O α) (past : List (I × O))
    (post : α → List (I × O) → Prop) : Prop :=
  post (p.exec f).1 (past ++ (p.exec f).2)

theorem holds_pure {f : I → O} {a : α} {past : List (I × O)} {post : α → List (I × O) → Prop} :
    Holds f (pure a) past post ↔ post a past := by
  simp [Holds]

theorem holds_question {f : I → O} {i : I} {past : List (I × O)}
    {post : O → List (I × O) → Prop} :
    Holds f (question i) past post ↔ post (f i) (past ++ [(i, f i)]) := by
  simp [Holds]

theorem holds_bind {f : I → O} {p : Query I O α} {k : α → Query I O β} {past : List (I × O)}
    {post : β → List (I × O) → Prop} :
    Holds f (p >>= k) past post ↔ Holds f p past fun a now => Holds f (k a) now post := by
  simp [Holds, exec_bind, List.append_assoc]

theorem Holds.mono {f : I → O} {p : Query I O α} {past : List (I × O)}
    {post post' : α → List (I × O) → Prop} (h : Holds f p past post)
    (imp : ∀ a now, post a now → post' a now) : Holds f p past post' :=
  imp _ _ h

theorem Holds.and {f : I → O} {p : Query I O α} {past : List (I × O)}
    {post post' : α → List (I × O) → Prop} (h : Holds f p past post)
    (h' : Holds f p past post') : Holds f p past fun a now => post a now ∧ post' a now :=
  ⟨h, h'⟩

/-! ## Loops -/

/-- Run the program `g` on every element, from first to last. -/
def forEach (g : α → Query I O β) : List α → Query I O (List β)
  | [] => pure []
  | a :: as => g a >>= fun b => forEach g as >>= fun bs => pure (b :: bs)

/-- What holds of each result when it is made, and is kept by the later rounds,
holds of all results together. -/
theorem holds_forEach {f : I → O} {g : α → Query I O β} (R : α → β → Prop)
    (Inv : List (I × O) → List β → Prop)
    (step : ∀ a past bs, Inv past bs →
      Holds f (g a) past fun b now => R a b ∧ Inv now (bs ++ [b])) :
    ∀ as past bs, Inv past bs → Holds f (forEach g as) past fun bs' now =>
      List.Forall₂ R as bs' ∧ Inv now (bs ++ bs')
  | [], past, bs, h => by
    rw [forEach, holds_pure, List.append_nil]
    exact ⟨List.Forall₂.nil, h⟩
  | a :: as, past, bs, h => by
    rw [forEach, holds_bind]
    refine (step a past bs h).mono fun b now ⟨hR, hI⟩ => ?_
    rw [holds_bind]
    refine (holds_forEach R Inv step as now _ hI).mono fun bs' now' ⟨hR', hI'⟩ => ?_
    exact holds_pure.mpr ⟨.cons hR hR', by simpa using hI'⟩

/-- `do body while (again)`, given up with `none` after `fuel` rounds. -/
def doWhile (body : σ → Query I O σ) (again : σ → Bool) : ℕ → σ → Query I O (Option σ)
  | 0, _ => pure none
  | fuel + 1, s => body s >>= fun s' =>
      if again s' then doWhile body again fuel s' else pure (some s')

/-- One round leads from the invariant to `Post` and, when the loop goes on, back to the
invariant; then the loop ends in `Post`, or is given up with the invariant. -/
theorem holds_doWhile {f : I → O} {body : σ → Query I O σ} {again : σ → Bool}
    (Inv Post : σ → List (I × O) → Prop)
    (step : ∀ s past, Inv s past → Holds f (body s) past fun s' now =>
      Post s' now ∧ (again s' = true → Inv s' now)) :
    ∀ fuel s past, Inv s past → Holds f (doWhile body again fuel s) past fun r now =>
      (r = none ∧ ∃ t, Inv t now) ∨ ∃ t, r = some t ∧ again t = false ∧ Post t now
  | 0, s, past, h => holds_pure.mpr (.inl ⟨rfl, s, h⟩)
  | fuel + 1, s, past, h => by
    rw [doWhile, holds_bind]
    refine (step s past h).mono fun s' now ⟨hP, hI⟩ => ?_
    cases hs : again s' with
    | false => exact holds_pure.mpr (.inr ⟨s', rfl, hs, hP⟩)
    | true => simpa using holds_doWhile Inv Post step fuel s' now (hI hs)

/-! ## Other answering effects -/

section Effects
variable {m : Type → Type} [Monad m]

variable [LawfulMonad m]

theorem run_bind (F : I → m O) (p : Query I O α) (k : α → Query I O β) :
    (p >>= k).run F = p.run F >>= fun a => (k a).run F := by
  change (p.bind k).run F = _
  induction p with
  | done a => simp [Query.bind, run]
  | ask i next ih => simp [Query.bind, run, ih]

end Effects

/-- A stateful oracle that, on the questions this program asks, answers by `g` and
changes its state by `upd` gives the result of `exec g` and the state folded over
the questions asked. -/
theorem run_eq_exec {ε : Type} (F : I → StateT σ (Except ε) O) (g : I → O) (upd : σ → I → σ) :
    ∀ (p : Query I O α) (s : σ),
      (∀ e ∈ (p.exec g).2, ∀ s, (F e.1).run s = .ok (g e.1, upd s e.1)) →
      (p.run F).run s = .ok ((p.exec g).1, (p.exec g).2.foldl (fun s e => upd s e.1) s)
  | .done a, s, _ => rfl
  | .ask i next, s, h => by
    have hi := h (i, g i) (List.mem_cons_self ..) s
    have hn := run_eq_exec F g upd (next (g i)) (upd s i)
      fun e he => h e (List.mem_cons_of_mem _ he)
    simp only [run, StateT.run_bind, hi]
    exact hn

/-- What every answer of a stateful oracle keeps, the run of a program keeps. -/
theorem run_preserves {ε : Type} (F : I → StateT σ (Except ε) O) (Inv : σ → Prop)
    (keeps : ∀ i s o s', Inv s → (F i).run s = .ok (o, s') → Inv s') (p : Query I O α) {a : α}
    {s s' : σ} (h : Inv s) (hrun : (p.run F).run s = .ok (a, s')) : Inv s' := by
  induction p generalizing s with
  | done b =>
    obtain rfl : s = s' := (Prod.mk.inj (Except.ok.inj hrun)).2
    exact h
  | ask i next ih =>
    rw [run, StateT.run_bind] at hrun
    cases hanswer : (F i).run s with
    | error message =>
      rw [hanswer] at hrun
      cases hrun
    | ok answer =>
      rw [hanswer] at hrun
      exact ih answer.1 (keeps i s answer.1 answer.2 h hanswer) hrun

end Query
end Gripperz.Library
