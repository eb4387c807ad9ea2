import Mathlib.Algebra.BigOperators.Group.List.Basic
import Mathlib.Algebra.Order.Ring.Nat
import Mathlib.Logic.Relation

/-! # Workers on one queue

Workers take jobs from a common queue and work on them in stages, in any interleaving.
The rules say what dealing a job logs, and which happenings lead from stage to stage. The
life of a job is what the log says about it; in every run each dealt job has a life that
the rules allow, up to the stage of the worker that holds it.
-/
namespace Gripperz.Library

/-- What happened, to which worker and to which job, if it had one. -/
structure Entry (ω κ ε : Type*) where
  thread : ω
  target : Option κ
  what : ε

/-- The stage a worker is in between jobs, and the stages and happenings of a job. -/
structure Rules (σ ε : Type*) where
  idle : σ
  Opens : List ε → σ → Prop
  GoesOn : σ → List ε → σ → Prop

/-- What may have happened to a job by the time its worker is in a stage. -/
inductive Rules.Life {σ ε : Type*} (rules : Rules σ ε) : σ → List ε → Prop where
  | opened {es : List ε} {st : σ} (h : rules.Opens es st) : Life rules st es
  | goesOn {es es' : List ε} {st st' : σ} (h : Life rules st es) (h' : rules.GoesOn st es' st') :
      Life rules st' (es ++ es')

@[ext] structure Pool (ω κ σ ε : Type*) where
  waiting : List κ
  dealt : List κ
  held : ω → Option κ
  stage : ω → σ
  log : List (Entry ω κ ε)

/-! ## Traces -/

variable {ω κ σ ε : Type*}

/-- Happenings to one worker and its job. -/
def entries (w : ω) (k : Option κ) (es : List ε) : List (Entry ω κ ε) :=
  es.map fun e => ⟨w, k, e⟩

section Trace
variable [DecidableEq κ]

/-- What a log says about a job. -/
def trace (k : κ) (log : List (Entry ω κ ε)) : List ε :=
  log.filterMap fun e => if e.target = some k then some e.what else none

@[simp] theorem trace_nil (k : κ) : trace k ([] : List (Entry ω κ ε)) = [] := rfl

@[simp] theorem trace_append (k : κ) (log log' : List (Entry ω κ ε)) :
    trace k (log ++ log') = trace k log ++ trace k log' := List.filterMap_append ..

@[simp] theorem trace_entries_self (w : ω) (k : κ) (es : List ε) :
    trace k (entries w (some k) es) = es := by
  simp [trace, entries, List.filterMap_map]

theorem trace_entries_of_ne (w : ω) {k : κ} {k' : Option κ} (h : k' ≠ some k) (es : List ε) :
    trace k (entries w k' es) = [] := by
  simp [trace, entries, h]

theorem mem_trace {k : κ} {log : List (Entry ω κ ε)} {e : ε} :
    e ∈ trace k log ↔ ∃ entry ∈ log, entry.target = some k ∧ entry.what = e := by
  simp [trace]

theorem sum_map_single {all : List κ} (nodup : all.Nodup) {k : κ} (hk : k ∈ all) (n : ℕ) :
    (all.map fun k' => if k' = k then n else 0).sum = n := by
  induction all with
  | nil => cases hk
  | cons k' all ih =>
    obtain ⟨hnew, hrest⟩ := List.nodup_cons.mp nodup
    rcases List.mem_cons.mp hk with rfl | hk
    · have hzero : (all.map fun k' => if k' = k then n else 0) = all.map fun _ => 0 := by
        apply List.map_congr_left
        intro k' hk'
        exact if_neg fun heq : k' = k => hnew (heq ▸ hk')
      simp [hzero]
    · have hne : k' ≠ k := fun heq => hnew (heq ▸ hk)
      simp [hne, ih hrest hk]

/-- What is counted in a log is counted job by job, when it is all about the given jobs. -/
theorem countP_eq_sum_trace (q : ε → Bool) {all : List κ} (nodup : all.Nodup)
    (log : List (Entry ω κ ε)) (about : ∀ e ∈ log, ∃ k ∈ all, e.target = some k) :
    log.countP (fun e => q e.what) = (all.map fun k => (trace k log).countP q).sum := by
  induction log with
  | nil => simp
  | cons e log ih =>
    obtain ⟨k, hk, hek⟩ := about e List.mem_cons_self
    have hrest := ih fun e' he' => about e' (List.mem_cons_of_mem e he')
    have hcount (k' : κ) : (trace k' (e :: log)).countP q =
        (trace k' log).countP q + if k' = k then (if q e.what then 1 else 0) else 0 := by
      by_cases hkk : k' = k
      · subst hkk
        simp [trace, hek, List.countP_cons]
      · have hne : ¬ k = k' := fun h => hkk h.symm
        simp [trace, hek, hkk, hne]
    have hone := sum_map_single nodup hk (if q e.what then 1 else 0)
    calc (e :: log).countP (fun e => q e.what)
        = log.countP (fun e => q e.what) + if q e.what then 1 else 0 := by
          rw [List.countP_cons]
      _ = _ := by
          simp only [hcount, List.sum_map_add, hone, hrest]

end Trace

/-! ## Steps and runs -/

namespace Pool
variable [DecidableEq ω]

/-- A worker goes on with what it holds. -/
def goOn (p : Pool ω κ σ ε) (w : ω) (es : List ε) (st : σ) : Pool ω κ σ ε :=
  { p with stage := Function.update p.stage w st, log := p.log ++ entries w (p.held w) es }

/-- A worker is dealt a job. -/
def deal (p : Pool ω κ σ ε) (w : ω) (k : κ) (rest : List κ) (es : List ε) (st : σ) :
    Pool ω κ σ ε where
  waiting := rest
  dealt := p.dealt ++ [k]
  held := Function.update p.held w (some k)
  stage := Function.update p.stage w st
  log := p.log ++ entries w (some k) es

inductive Step (rules : Rules σ ε) (p : Pool ω κ σ ε) : Pool ω κ σ ε → Prop where
  | goOn (w : ω) {es : List ε} {st : σ} (h : rules.GoesOn (p.stage w) es st) :
      Step rules p (p.goOn w es st)
  | deal (w : ω) {k : κ} {rest : List κ} {es : List ε} {st : σ} (idle : p.stage w = rules.idle)
      (next : p.waiting = k :: rest) (opens : rules.Opens es st) :
      Step rules p (p.deal w k rest es st)

abbrev Run (rules : Rules σ ε) : Pool ω κ σ ε → Pool ω κ σ ε → Prop :=
  Relation.ReflTransGen (Step rules)

/-- Jobs are dealt in the order of the queue and none is lost. -/
theorem Step.jobs {rules : Rules σ ε} {p p' : Pool ω κ σ ε} (h : Step rules p p') :
    p'.dealt ++ p'.waiting = p.dealt ++ p.waiting := by
  cases h with
  | goOn w h => rfl
  | deal w idle next opens => simp [Pool.deal, next]

theorem Run.jobs {rules : Rules σ ε} {p p' : Pool ω κ σ ε} (h : Run rules p p') :
    p'.dealt ++ p'.waiting = p.dealt ++ p.waiting := by
  induction h with
  | refl => rfl
  | tail _ step ih => exact step.jobs.trans ih

/-- Each job is waiting untouched, or in the hands of one worker, or left when idle. -/
structure Orderly [DecidableEq κ] (rules : Rules σ ε) (p : Pool ω κ σ ε) : Prop where
  nodup : (p.dealt ++ p.waiting).Nodup
  waiting : ∀ k ∈ p.waiting, trace k p.log = []
  holds : ∀ w k, p.held w = some k → k ∈ p.dealt ∧ rules.Life (p.stage w) (trace k p.log)
  alone : ∀ w w' k, p.held w = some k → p.held w' = some k → w = w'
  left : ∀ k ∈ p.dealt, (∀ w, p.held w ≠ some k) → rules.Life rules.idle (trace k p.log)
  logged : ∀ e ∈ p.log, ∀ k, e.target = some k → k ∈ p.dealt

namespace Orderly
variable [DecidableEq κ] {rules : Rules σ ε} {p : Pool ω κ σ ε}

omit [DecidableEq ω] in
/-- Nothing is dealt yet. -/
theorem start (nodup : p.waiting.Nodup) (dealt : p.dealt = []) (held : ∀ w, p.held w = none)
    (log : p.log = []) : Orderly rules p where
  nodup := by simpa [dealt] using nodup
  waiting := by simp [log]
  holds := by simp [held]
  alone := by simp [held]
  left := by simp [dealt]
  logged := by simp [log]

omit [DecidableEq ω] in
theorem dealt_of_held (h : Orderly rules p) {w : ω} {k : κ} (hk : p.held w = some k) :
    k ∈ p.dealt := (h.holds w k hk).1

omit [DecidableEq ω] in
theorem not_waiting (h : Orderly rules p) {k : κ} (hk : k ∈ p.dealt) : k ∉ p.waiting :=
  fun hw => (List.nodup_append.mp h.nodup).2.2 k hk k hw rfl

theorem goOn (h : Orderly rules p) (w : ω) {es : List ε} {st : σ}
    (hgo : rules.GoesOn (p.stage w) es st) : Orderly rules (p.goOn w es st) := by
  have hother {k : κ} (hk : p.held w ≠ some k) :
      trace k (p.goOn w es st).log = trace k p.log := by
    simp [Pool.goOn, trace_entries_of_ne w hk]
  constructor
  · exact h.nodup
  · intro k hk
    rw [hother fun hw => h.not_waiting (h.dealt_of_held hw) hk]
    exact h.waiting k hk
  · intro w' k hk
    change p.held w' = some k at hk
    apply And.intro (h.dealt_of_held hk)
    by_cases hw : w' = w
    · subst hw
      have hlife := (h.holds w' k hk).2
      simpa [Pool.goOn, hk] using hlife.goesOn hgo
    · rw [hother fun hk' => hw (h.alone w' w k hk hk')]
      simpa [Pool.goOn, hw] using (h.holds w' k hk).2
  · exact h.alone
  · intro k hk hleft
    rw [hother (hleft w)]
    exact h.left k hk hleft
  · intro e he k hk
    simp only [Pool.goOn, entries, List.mem_append, List.mem_map] at he
    rcases he with he | ⟨e', _, rfl⟩
    · exact h.logged e he k hk
    · exact h.dealt_of_held hk

theorem deal (h : Orderly rules p) (w : ω) {k : κ} {rest : List κ} {es : List ε} {st : σ}
    (idle : p.stage w = rules.idle) (next : p.waiting = k :: rest) (opens : rules.Opens es st) :
    Orderly rules (p.deal w k rest es st) := by
  have hk : k ∈ p.waiting := by simp [next]
  have hnew {k' : κ} (hk' : k' ∈ p.dealt) : k' ≠ k := by
    intro heq
    exact h.not_waiting hk' (heq ▸ hk)
  have hother {k' : κ} (hk' : k' ≠ k) :
      trace k' (p.deal w k rest es st).log = trace k' p.log := by
    have hne : some k ≠ some k' := fun heq => hk' (Option.some.inj heq).symm
    simp [Pool.deal, trace_entries_of_ne w hne]
  have hnodup : ((p.dealt ++ [k]) ++ rest).Nodup := by simpa [next] using h.nodup
  constructor
  · exact hnodup
  · intro k' hk'
    have hne : k' ≠ k := by
      intro heq
      exact (List.nodup_append.mp hnodup).2.2 k (by simp) k' hk' heq.symm
    rw [hother hne]
    exact h.waiting k' (by rw [next]; exact List.mem_cons_of_mem k hk')
  · intro w' k' hk'
    by_cases hw : w' = w
    · subst hw
      have heq : k = k' := by simpa [Pool.deal] using hk'
      subst heq
      apply And.intro (by simp [Pool.deal])
      have hlife : rules.Life st (trace k p.log ++ es) := by
        rw [h.waiting k hk]
        exact .opened opens
      simpa [Pool.deal] using hlife
    · have hheld : p.held w' = some k' := by simpa [Pool.deal, hw] using hk'
      have hdealt := h.dealt_of_held hheld
      rw [hother (hnew hdealt)]
      apply And.intro
      · exact List.mem_append_left [k] hdealt
      · simpa [Pool.deal, hw] using (h.holds w' k' hheld).2
  · intro w₁ w₂ k' h₁ h₂
    by_cases hw₁ : w₁ = w <;> by_cases hw₂ : w₂ = w
    · exact hw₁.trans hw₂.symm
    · have heq : k = k' := by simpa [Pool.deal, hw₁] using h₁
      have hheld : p.held w₂ = some k' := by simpa [Pool.deal, hw₂] using h₂
      exact absurd heq.symm (hnew (h.dealt_of_held hheld))
    · have heq : k = k' := by simpa [Pool.deal, hw₂] using h₂
      have hheld : p.held w₁ = some k' := by simpa [Pool.deal, hw₁] using h₁
      exact absurd heq.symm (hnew (h.dealt_of_held hheld))
    · exact h.alone w₁ w₂ k' (by simpa [Pool.deal, hw₁] using h₁)
        (by simpa [Pool.deal, hw₂] using h₂)
  · intro k' hk' hleft
    have hne : k' ≠ k := by
      intro heq
      exact hleft w (by simp [Pool.deal, heq])
    have hdealt : k' ∈ p.dealt := by simpa [Pool.deal, hne] using hk'
    rw [hother hne]
    by_cases hheld : p.held w = some k'
    · exact idle ▸ (h.holds w k' hheld).2
    · apply h.left k' hdealt
      intro w' hk''
      by_cases hw : w' = w
      · exact hheld (hw ▸ hk'')
      · exact hleft w' (by simpa [Pool.deal, hw] using hk'')
  · intro e he k' hk'
    simp only [Pool.deal, entries, List.mem_append, List.mem_map] at he ⊢
    rcases he with he | ⟨e', _, rfl⟩
    · exact Or.inl (h.logged e he k' hk')
    · cases hk'
      simp

theorem step {p' : Pool ω κ σ ε} (h : Orderly rules p) (hstep : Step rules p p') :
    Orderly rules p' := by
  cases hstep with
  | goOn w hgo => exact h.goOn w hgo
  | deal w idle next opens => exact h.deal w idle next opens

theorem run {p' : Pool ω κ σ ε} (h : Orderly rules p) (hrun : Run rules p p') :
    Orderly rules p' := by
  induction hrun with
  | refl => exact h
  | tail _ hstep ih => exact ih.step hstep

omit [DecidableEq ω] in
/-- Every dealt job has a life. -/
theorem life (h : Orderly rules p) {k : κ} (hk : k ∈ p.dealt) :
    ∃ st, rules.Life st (trace k p.log) := by
  by_cases hheld : ∃ w, p.held w = some k
  · obtain ⟨w, hw⟩ := hheld
    exact ⟨_, (h.holds w k hw).2⟩
  · exact ⟨_, h.left k hk (not_exists.mp hheld)⟩

omit [DecidableEq ω] in
/-- When every worker is idle every dealt job has been left idle. -/
theorem life_of_idle (h : Orderly rules p) (idle : ∀ w, p.stage w = rules.idle) {k : κ}
    (hk : k ∈ p.dealt) : rules.Life rules.idle (trace k p.log) := by
  by_cases hheld : ∃ w, p.held w = some k
  · obtain ⟨w, hw⟩ := hheld
    exact idle w ▸ (h.holds w k hw).2
  · exact h.left k hk (not_exists.mp hheld)

end Orderly
end Pool
end Gripperz.Library
