import Gripperz.Library.Query

/-! # Programs that keep a log

A program that questions an oracle can report events on its way. Without its log it is the program
it was before. `Logs` is the postcondition of a program together with what all its events are.
-/
namespace Gripperz.Library

/-- A program with the events it reports. -/
structure Logged (E I O α : Type) where
  program : Query I O (α × List E)

namespace Logged
variable {E I O α β σ : Type}

instance : Monad (Logged E I O) where
  pure a := ⟨.done (a, [])⟩
  bind x k := ⟨x.program.bind fun r =>
    (k r.1).program.bind fun r' => .done (r'.1, r.2 ++ r'.2)⟩

def report (e : E) : Logged E I O Unit := ⟨.done ((), [e])⟩

/-- A program that reports nothing. -/
def silent (q : Query I O α) : Logged E I O α := ⟨q.bind fun a => .done (a, [])⟩

def forEach (g : α → Logged E I O β) : List α → Logged E I O (List β)
  | [] => pure []
  | a :: as => g a >>= fun b => forEach g as >>= fun bs => pure (b :: bs)

/-- `do body while (again)`, given up with `none` after `fuel` rounds. -/
def doWhile (body : σ → Logged E I O σ) (again : σ → Bool) : ℕ → σ → Logged E I O (Option σ)
  | 0, _ => pure none
  | fuel + 1, s => body s >>= fun s' =>
      if again s' then doWhile body again fuel s' else pure (some s')

/-! ## Without the log -/

def erase (x : Logged E I O α) : Query I O α := x.program.bind fun r => .done r.1

@[simp] theorem erase_pure (a : α) : erase (pure a : Logged E I O α) = pure a := rfl

@[simp] theorem erase_report (e : E) : erase (report e : Logged E I O Unit) = pure () := rfl

theorem bind_assoc {γ : Type} (q : Query I O α) (k : α → Query I O β) (k' : β → Query I O γ) :
    (q.bind k).bind k' = q.bind fun a => (k a).bind k' := by
  induction q with
  | done a => rfl
  | ask i next ih => simp only [Query.bind, ih]

theorem bind_done (q : Query I O α) : q.bind .done = q := by
  induction q with
  | done a => rfl
  | ask i next ih => simp only [Query.bind, ih]

@[simp] theorem erase_silent (q : Query I O α) : erase (silent q : Logged E I O α) = q := by
  rw [erase, silent, bind_assoc]
  exact bind_done q

@[simp] theorem erase_bind (x : Logged E I O α) (k : α → Logged E I O β) :
    erase (x >>= k) = erase x >>= fun a => erase (k a) := by
  change (x.program.bind _).bind _ = (x.program.bind _).bind _
  simp only [bind_assoc, erase, Query.bind]

/-- A silent step before the rest. -/
theorem erase_bind_of_pure {x : Logged E I O α} {a : α} (h : erase x = pure a)
    (k : α → Logged E I O β) : erase (x >>= k) = erase (k a) := by
  rw [erase_bind, h]
  rfl

@[simp] theorem erase_ite (c : Prop) [Decidable c] (x y : Logged E I O α) :
    erase (if c then x else y) = if c then erase x else erase y := apply_ite _ _ _ _

theorem erase_forEach (g : α → Logged E I O β) (l : List α) :
    erase (forEach g l) = Query.forEach (fun a => erase (g a)) l := by
  induction l with
  | nil => rfl
  | cons a l ih => simp [forEach, Query.forEach, ih]

theorem erase_doWhile (body : σ → Logged E I O σ) (again : σ → Bool) (fuel : ℕ) (s : σ) :
    erase (doWhile body again fuel s) = Query.doWhile (fun s => erase (body s)) again fuel s := by
  induction fuel generalizing s with
  | zero => rfl
  | succ fuel ih => simp [doWhile, Query.doWhile, ih]

theorem erase_foldlM {g : β → α → Logged E I O β} {h : β → α → β}
    (hg : ∀ b a, erase (g b a) = pure (h b a)) (l : List α) (b : β) :
    erase (l.foldlM g b) = pure (l.foldl h b) := by
  induction l generalizing b with
  | nil => rfl
  | cons a l ih =>
    rw [List.foldlM_cons, erase_bind, hg]
    exact ih (h b a)

/-! ## Postconditions -/

/-- The events the program reports, with the answers of `f`. -/
def log (f : I → O) (x : Logged E I O α) : List E := (x.program.exec f).1.2

/-- All reported events have `P`, and the result has `post`. -/
def Logs (f : I → O) (P : E → Prop) (x : Logged E I O α) (post : α → Prop) : Prop :=
  (∀ e ∈ log f x, P e) ∧ post (x.program.exec f).1.1

variable {f : I → O} {P : E → Prop} {x : Logged E I O α} {post post' : α → Prop}

theorem logs_pure {a : α} : Logs f P (pure a) post ↔ post a := by
  change (∀ e ∈ ([] : List E), P e) ∧ post a ↔ _
  simp

theorem logs_report {e : E} {post : Unit → Prop} : Logs f P (report e) post ↔ P e ∧ post () := by
  change (∀ e' ∈ [e], P e') ∧ post () ↔ _
  simp

theorem logs_silent {q : Query I O α} : Logs f P (silent q) post ↔ post (q.exec f).1 := by
  have hexec := congrArg Prod.fst (Query.exec_bind f q fun a => .done (a, ([] : List E)))
  have hresult : ((silent q : Logged E I O α).program.exec f).1 = ((q.exec f).1, []) := hexec
  rw [Logs, log, hresult]
  simp

theorem logs_bind {k : α → Logged E I O β} {post : β → Prop} :
    Logs f P (x >>= k) post ↔ Logs f P x fun a => Logs f P (k a) post := by
  have hinner (r : α × List E) := congrArg Prod.fst (Query.exec_bind f (k r.1).program
    fun r' => .done (r'.1, r.2 ++ r'.2))
  have houter := congrArg Prod.fst (Query.exec_bind f x.program fun r =>
    (k r.1).program >>= fun r' => .done (r'.1, r.2 ++ r'.2))
  have hresult : ((x >>= k).program.exec f).1 =
      (((k (x.program.exec f).1.1).program.exec f).1.1,
        log f x ++ log f (k (x.program.exec f).1.1)) := houter.trans (hinner _)
  rw [Logs, log, hresult]
  simp only [List.forall_mem_append]
  exact and_assoc

theorem exec_erase (f : I → O) (x : Logged E I O α) :
    (x.erase.exec f).1 = (x.program.exec f).1.1 :=
  congrArg Prod.fst (Query.exec_bind f x.program fun r => .done r.1)

theorem Logs.imp (h : Logs f P x post) (himp : ∀ a, post a → post' a) : Logs f P x post' :=
  ⟨h.1, himp _ h.2⟩

/-- The result is that of the program without its log. -/
theorem Logs.of_erase (h : Logs f P x post) : post (x.erase.exec f).1 := by
  rw [exec_erase]
  exact h.2

/-- Events that all programs for the elements report, and what holds of each result. -/
theorem logs_forEach {g : α → Logged E I O β} {Q : β → Prop} {l : List α}
    (h : ∀ a ∈ l, Logs f P (g a) Q) :
    Logs f P (forEach g l) fun bs => bs.length = l.length ∧ ∀ b ∈ bs, Q b := by
  induction l with
  | nil => exact logs_pure.mpr (by simp)
  | cons a l ih =>
    rw [forEach, logs_bind]
    refine (h a List.mem_cons_self).imp fun b hb => ?_
    rw [logs_bind]
    refine (ih fun a' ha' => h a' (List.mem_cons_of_mem _ ha')).imp fun bs hbs => ?_
    exact logs_pure.mpr ⟨congrArg (· + 1) hbs.1, List.forall_mem_cons.mpr ⟨hb, hbs.2⟩⟩

theorem logs_foldlM {g : β → α → Logged E I O β} (Inv : β → Prop) {l : List α}
    (step : ∀ b, ∀ a ∈ l, Inv b → Logs f P (g b a) Inv) {b : β} (hb : Inv b) :
    Logs f P (l.foldlM g b) Inv := by
  induction l generalizing b with
  | nil => exact logs_pure.mpr hb
  | cons a l ih =>
    rw [List.foldlM_cons, logs_bind]
    refine (step b a List.mem_cons_self hb).imp fun b' hb' => ?_
    exact ih (fun b a ha => step b a (List.mem_cons_of_mem _ ha)) hb'

/-- What one round reports and keeps, all rounds of a loop do. -/
theorem logs_doWhile {body : σ → Logged E I O σ} {again : σ → Bool} (Inv : σ → Prop)
    (step : ∀ s, Inv s → Logs f P (body s) Inv) (fuel : ℕ) {s : σ} (hs : Inv s) :
    Logs f P (doWhile body again fuel s) fun r => ∀ t, r = some t → Inv t := by
  induction fuel generalizing s with
  | zero => exact logs_pure.mpr (by simp)
  | succ fuel ih =>
    rw [doWhile, logs_bind]
    refine (step s hs).imp fun s' hs' => ?_
    by_cases hagain : again s' = true
    · rw [if_pos hagain]
      exact ih hs'
    · rw [if_neg hagain]
      exact logs_pure.mpr fun t ht => Option.some.inj ht ▸ hs'

end Logged
end Gripperz.Library
