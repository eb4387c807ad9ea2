import Gripperz.Optimization.OptimizationManager

/-! # Optimizing functions with a state

A function that is optimized may have a state, and its answers may depend on it. What each call of
it keeps, together with the entry of the log, the optimization keeps.
-/
namespace Gripperz.Math
open Library

variable {σ R : Type} {f : ObjectiveFunction σ R} {x : List R} {rel : σ → σ → Prop}

/-- When the function returns, the states before and after it are related. -/
def Changes (f : ObjectiveFunction σ R) (x : List R) (rel : σ → σ → Prop) : Prop :=
  ∀ s v s', (f x).run s = .ok (v, s') → rel s s'

theorem Changes.reverted [Neg R] (h : Changes f x rel) : Changes (RevertedFunction f) x rel := by
  intro s v s' hrun
  obtain ⟨v₁, s₁, hf, hreturn⟩ := run_bind_eq_ok.mp hrun
  obtain ⟨-, rfl⟩ := Prod.mk.inj (Except.ok.inj hreturn)
  exact h s v₁ s₁ hf

theorem Changes.constrained {isMetBy : List R → Except String Bool} {defaultValue : R}
    (h : isMetBy x = .ok true → Changes f x rel) (hrefl : ∀ s, rel s s) :
    Changes (ConstrainedFunction f isMetBy defaultValue) x rel := by
  intro s v s' hrun
  obtain ⟨met, s₁, hmet, hf⟩ := run_bind_eq_ok.mp hrun
  obtain ⟨hisMet, rfl⟩ := run_liftM_eq_ok.mp hmet
  cases met with
  | false =>
    obtain ⟨-, rfl⟩ := Prod.mk.inj (Except.ok.inj hf)
    exact hrefl s₁
  | true => exact h hisMet s₁ v s' hf

theorem Changes.mapped [Field R] {mapping : ParameterMapping R}
    (h : ∀ y, mapping.map x = .ok y → Changes f y rel) :
    Changes (MappedFunction f mapping) x rel := by
  intro s v s' hrun
  obtain ⟨y, s₁, hmap, hf⟩ := run_bind_eq_ok.mp hrun
  obtain ⟨hmapped, rfl⟩ := run_liftM_eq_ok.mp hmap
  exact h y hmapped s₁ v s' hf

theorem BoxConstraint.inRanges_of_isMetBy [LinearOrder R] {ranges : RangeList R} {params : List R}
    (h : BoxConstraint.isMetBy ranges params = .ok true) : InRanges ranges params := by
  by_cases hlength : params.length = ranges.length
  · rw [BoxConstraint.isMetBy_of_length hlength] at h
    exact of_decide_eq_true (Except.ok.inj h)
  · rw [BoxConstraint.isMetBy, if_pos hlength] at h
    cases h

end Gripperz.Math

namespace Gripperz.Optimization.OptimizationManager
open Library Math

variable {σ R : Type} [Field R] [LinearOrder R] {norm2 : Q R → R}
  (m : OptimizationManager norm2) {F : ObjectiveFunction σ R} {dir : String} {guess : List R}

/-- The user's function is called, and the call is logged. -/
def Called (F : ObjectiveFunction σ R) (x : List R) (s s' : Session σ R) : Prop :=
  ∃ answer user, (F x).run s.user = .ok (answer, user) ∧
    s' = { user := user, log := s.log ++ [(x, answer)] }

omit [Field R] [LinearOrder R] in
theorem changes_called (F : ObjectiveFunction σ R) (x : List R) :
    Changes (CallbackFunction (inSession F) callback) x (Called F x) := by
  intro s v s' hrun
  obtain ⟨answer, s₁, hF, hrun⟩ := run_bind_eq_ok.mp hrun
  change ((F x).run s.user).map _ = _ at hF
  cases hcall : (F x).run s.user with
  | error message =>
    rw [hcall] at hF
    cases hF
  | ok result =>
    rw [hcall] at hF
    obtain ⟨rfl, rfl⟩ := Prod.mk.inj (Except.ok.inj hF)
    exact ⟨result.1, result.2, hcall, (Prod.mk.inj (Except.ok.inj hrun)).2.symm⟩

/-- The decorated function leaves the session alone, or calls the user's function once. -/
theorem changes_objective (x : List R) :
    Changes (m.objective F dir) x fun s s' => s' = s ∨ m.Calls x ∧ Called F x s s' := by
  have hcalled (hcalls : m.Calls x) : Changes (if dir = "maximize" then
      RevertedFunction (CallbackFunction (inSession F) callback)
      else CallbackFunction (inSession F) callback) x
        fun s s' => s' = s ∨ m.Calls x ∧ Called F x s s' := by
    have hcall : Changes (CallbackFunction (inSession F) callback) x
        fun s s' => s' = s ∨ m.Calls x ∧ Called F x s s' :=
      fun s v s' hrun => Or.inr ⟨hcalls, changes_called F x s v s' hrun⟩
    split
    · exact hcall.reverted
    · exact hcall
  change Changes (if m.constrained then _ else _) x _
  split
  · refine Changes.constrained (fun hmet => hcalled fun _ => ?_) fun _ => Or.inl rfl
    exact BoxConstraint.inRanges_of_isMetBy hmet
  · rename_i hunconstrained
    exact hcalled fun h => absurd h hunconstrained

/-- What each call of the function keeps with its entry of the log, the optimization keeps. -/
theorem optimize_preserves (Inv : Session σ R → Prop)
    (keeps : ∀ x s s', m.Calls x → Inv s → Called F x s s' → Inv s') {fuel : ℕ} {s s' : Session σ R}
    {r : Option (List R)} (hstart : Inv { s with log := [] })
    (hrun : (m.optimize F guess dir fuel).run s = .ok (r, s')) : Inv s' := by
  obtain ⟨_, s₁, hclear, hrest⟩ := run_bind_eq_ok.mp hrun
  obtain rfl : { s with log := [] } = s₁ := (Prod.mk.inj (Except.ok.inj hclear)).2
  obtain ⟨start, s₂, hunmap, hoptimize⟩ := run_bind_eq_ok.mp hrest
  obtain ⟨result, s₃, hminimize, hmap⟩ := run_bind_eq_ok.mp hoptimize
  obtain ⟨-, rfl⟩ := run_liftM_eq_ok.mp hunmap
  obtain ⟨-, rfl⟩ := run_liftM_eq_ok.mp hmap
  have hanswers (x : List R) : Changes (MappedFunction (m.objective F dir) (m.parameterMap guess)) x
      fun s s' => Inv s → Inv s' := by
    refine Changes.mapped fun y _ s v s' hy hs => ?_
    rcases m.changes_objective y s v s' hy with rfl | ⟨hcalls, hcalled⟩
    · exact hs
    · exact keeps y s s' hcalls hs hcalled
  exact Query.run_preserves _ Inv (fun x s v s' hs hx => hanswers x s v s' hx hs) _ hstart hminimize

/-! ## Maximizing -/

variable {f : List R → R}

/-- When a guess of positive value is maximized, the point returned has the greatest value in the
log. -/
theorem entries_of_bestSoFar [IsStrictOrderedRing R] {P : List R → Prop} {r : List R}
    {now : List (List R × R)} (hguess : m.Calls guess) (hpositive : 0 < f guess)
    (hanswer : ∀ e ∈ now, e.2 = m.value f "maximize" e.1)
    (h : BestSoFar P (m.value f "maximize") guess r (m.value f "maximize" r) now) :
    m.Calls r ∧ (r, f r) ∈ m.entries f (now.map Prod.fst) ∧
      ∀ e ∈ m.entries f (now.map Prod.fst), e.2 ≤ f r := by
  have hvalue {x : List R} (hx : m.Calls x) : m.value f "maximize" x = -f x := by
    rw [value, if_pos hx, signed, if_pos rfl]
  have hle : m.value f "maximize" r ≤ -f guess := hvalue hguess ▸ h.le_first
  have hr : m.Calls r := by
    by_contra hout
    rw [value, if_neg hout] at hle
    exact absurd hpositive (not_lt.mpr (neg_nonneg.mp hle))
  refine ⟨hr, ?_, ?_⟩
  · refine List.mem_map.mpr ⟨r, List.mem_filter.mpr ⟨?_, decide_eq_true hr⟩, rfl⟩
    exact List.mem_map.mpr ⟨_, h.asked, rfl⟩
  · intro e he
    obtain ⟨x, hx, rfl⟩ := List.mem_map.mp he
    obtain ⟨hmem, hcalls⟩ := List.mem_filter.mp hx
    obtain ⟨d, hd, rfl⟩ := List.mem_map.mp hmem
    have hleast := h.least d hd
    rw [hanswer d hd, hvalue hr, hvalue (of_decide_eq_true hcalls)] at hleast
    exact neg_le_neg_iff.mp hleast

end Gripperz.Optimization.OptimizationManager
