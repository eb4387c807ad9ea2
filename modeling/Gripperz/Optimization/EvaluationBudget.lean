import Mathlib.Algebra.Order.BigOperators.Group.List
import Mathlib.Algebra.Order.Field.Rat
import Gripperz.Library.Budget
import Gripperz.Optimization.Optimizer

/-! # Evaluation budgets

Every evaluation is a simulation of all grasps. An optimizer looks at its counter once in a
round, so that it may overdraw its limit by the evaluations of one round. A limit at the end of
the counter's range is never passed: then only short steps end the search. The objective may
answer differently at every call.
-/
namespace Gripperz.Optimization
open Library Math

variable {R V : Type} [Field R] [LinearOrder R] [LinearOrder V]

omit [LinearOrder R] in
/-- A probe is two evaluations. -/
theorem spends_probe (dim : ℕ) (point : Q R) (best : V) (step : Q R) (spent : ℕ) :
    Query.Spends (probe dim point best step) spent fun _ now => now = spent + 2 := by
  unfold probe
  simp only [Query.spends_bind, Query.spends_question, Query.spends_pure, implies_true]

namespace CoordinateDescentOptimizer

theorem spends_round (conf : Configuration R) (norm2 : Q R → R) (dim : ℕ) (s : State R V)
    (spent : ℕ) : Query.Spends (round conf norm2 dim s) spent fun s' now =>
      now = spent + 2 ∧ s'.fev = s.fev + 2 ∧
        (s'.stop = false → s'.fev ≤ conf.maxNOfEvaluations.toUInt32) := by
  unfold round
  simp only [Query.spends_bind, Query.spends_pure]
  apply (spends_probe dim s.m s.fbest _ spent).mono
  rintro p now rfl
  refine ⟨rfl, trivial, ?_⟩
  intro hstop
  simp only [decide_eq_false_iff_not, not_or, UInt32.not_lt] at hstop
  exact hstop.2

/-- The counter is odd, so that it passes every limit but the greatest. -/
theorem spends_minimize (conf : Configuration R) (norm2 : Q R → R) (guess : List R)
    (hguess : guess ≠ []) (hlimit : conf.maxNOfEvaluations ≠ -1) {fuel : ℕ}
    (hfuel : conf.maxNOfEvaluations.toUInt32.toNat + 2 ≤ fuel) :
    Query.Spends (minimize conf norm2 guess fuel : Query (List R) V _) 0 fun r now =>
      (∃ x, r = some x) ∧ now ≤ max conf.maxNOfEvaluations.toUInt32.toNat 1 + 2 := by
  have hdim : guess.length ≠ 0 := fun h => hguess (List.length_eq_zero_iff.mp h)
  have hgreatest : conf.maxNOfEvaluations.toUInt32.toNat ≠ (-1 : Int32).toUInt32.toNat :=
    fun h => hlimit (congrArg UInt32.toInt32 (UInt32.toNat_inj.mp h))
  change _ ≠ 2 ^ 32 - 1 at hgreatest
  have hbound := conf.maxNOfEvaluations.toUInt32.toNat_lt
  set limit := conf.maxNOfEvaluations.toUInt32.toNat with hlimit'
  unfold minimize
  simp only [if_neg hdim, Query.spends_bind, Query.spends_question, Query.spends_pure]
  intro value
  apply (Query.spends_counted (fun s : State R V => s.fev.toNat)
    (fun s => s.fev.toNat % 2 = 1) (max limit 1) 2 _ rfl _ _ rfl).mono
  · rintro r now ⟨t, rfl, hnow⟩
    exact ⟨⟨_, rfl⟩, by omega⟩
  · intro s hodd hle
    apply (spends_round conf norm2 guess.length s s.fev.toNat).mono
    rintro s' now ⟨rfl, hfev, hstop⟩
    have hadd : s'.fev.toNat = s.fev.toNat + 2 := by
      rw [hfev, UInt32.toNat_add]
      exact Nat.mod_eq_of_lt (by change _ + 2 < _; omega)
    refine ⟨hadd.symm, by omega, le_rfl, by omega, ?_⟩
    intro hagain
    have hgo := UInt32.le_iff_toNat_le.mp (hstop (by simpa using hagain))
    omega
  · exact le_max_right limit 1
  · change max limit 1 + 1 - 1 < fuel
    omega

/-- The greatest limit is never passed, and the search goes on while its steps are long. -/
theorem minimize_never_ends (conf : Configuration R) {norm2 : Q R → R} (hnorm : ∀ q, 0 ≤ norm2 q)
    (hlimit : conf.maxNOfEvaluations = -1) (hfinal : conf.kFinalStepSize ≤ 0) (guess : List R)
    (fuel : ℕ) : Query.Spends (minimize conf norm2 guess fuel : Query (List R) V _) 0
      fun r _ => r = none := by
  unfold minimize
  rw [Query.spends_bind, Query.spends_question]
  intro value
  split
  · rfl
  · rw [Query.spends_bind]
    apply (Query.spends_doWhile_none (fun _ => True) _ fuel _ _ trivial).mono
    · rintro r now rfl
      rfl
    · intro s spent _
      unfold round
      simp only [Query.spends_bind, Query.spends_pure, hlimit]
      apply (spends_probe guess.length s.m s.fbest _ spent).mono
      rintro p now rfl
      have hshort (q : Q R) : ¬ norm2 q < conf.kFinalStepSize :=
        not_lt.mpr (hfinal.trans (hnorm q))
      have hpassed (n : UInt32) : ¬ (-1 : Int32).toUInt32 < n :=
        UInt32.not_lt.mpr (UInt32.le_iff_toNat_le.mpr (Nat.le_of_lt_succ n.toNat_lt))
      rw [decide_eq_false (not_or.mpr ⟨hshort _, hpassed _⟩)]
      exact ⟨trivial, rfl⟩

end CoordinateDescentOptimizer

namespace PowellOptimizer

theorem spends_round (config : Configuration R) {norm2 : Q R → R}
    (srt : StdSort (directionComp norm2)) (dim : ℕ) (s : State R V) (spent : ℕ) :
    Query.Spends (round config srt dim s) spent fun s' now =>
      now = spent + 2 ∧ s'.fev = s.fev + 2 ∧
        (s'.stop = false → s'.fev ≤ config.maxNOfEvaluations) := by
  unfold round
  simp only [Query.spends_bind, Query.spends_pure]
  apply (spends_probe dim s.current_guess s.best_value _ spent).mono
  rintro p now rfl
  refine ⟨rfl, trivial, ?_⟩
  intro hstop
  simp only [decide_eq_false_iff_not, not_or, Int32.not_lt] at hstop
  exact hstop.2

/-- The counter is odd, so that it passes every limit but the greatest. -/
theorem spends_minimize (config : Configuration R) {norm2 : Q R → R}
    (srt : StdSort (directionComp norm2)) (guess : List R) (hguess : guess ≠ [])
    (hlimit : config.maxNOfEvaluations ≠ Int32.maxValue) {fuel : ℕ}
    (hfuel : config.maxNOfEvaluations.toInt.toNat + 2 ≤ fuel) :
    Query.Spends (minimize config srt guess fuel : Query (List R) V _) 0 fun r now =>
      (∃ x, r = some x) ∧ now ≤ max config.maxNOfEvaluations.toInt.toNat 1 + 2 := by
  have hdim : guess.length ≠ 0 := fun h => hguess (List.length_eq_zero_iff.mp h)
  have hgreatest : config.maxNOfEvaluations.toInt ≠ 2 ^ 31 - 1 := fun h =>
    hlimit (Int32.toInt_inj.mp h)
  have hbound := config.maxNOfEvaluations.toInt_lt
  set limit := config.maxNOfEvaluations.toInt.toNat with hlimit'
  unfold minimize
  simp only [if_neg hdim, Query.spends_bind, Query.spends_question, Query.spends_pure]
  intro value
  apply (Query.spends_counted (fun s : State R V => s.fev.toInt.toNat)
    (fun s => 0 < s.fev.toInt ∧ s.fev.toInt % 2 = 1) (max limit 1) 2 _ rfl _ _ ?_).mono
  · rintro r now ⟨t, rfl, hnow⟩
    exact ⟨⟨_, rfl⟩, hnow⟩
  · rintro s ⟨hpos, hodd⟩ hle
    apply (spends_round config srt guess.length s s.fev.toInt.toNat).mono
    rintro s' now ⟨rfl, hfev, hstop⟩
    have hadd : s'.fev.toInt = s.fev.toInt + 2 := by
      rw [hfev, Int32.toInt_add]
      exact Int.bmod_eq_of_le (by change _ ≤ _ + 2; omega) (by change _ + 2 < _; omega)
    refine ⟨by omega, by omega, le_rfl, by omega, ?_⟩
    intro hagain
    have hgo := Int32.le_iff_toInt_le.mp (hstop (by simpa using hagain))
    omega
  · exact le_max_right limit 1
  · change max limit 1 + 1 - 1 < fuel
    omega
  · exact ⟨Int.one_pos, rfl⟩

/-- The greatest limit is never passed, and the search goes on while its steps are long. -/
theorem minimize_never_ends [IsStrictOrderedRing R] (config : Configuration R) {norm2 : Q R → R}
    (hnorm : ∀ q, 0 ≤ norm2 q) (srt : StdSort (directionComp norm2))
    (hlimit : config.maxNOfEvaluations = Int32.maxValue) (hfinal : config.rho_final ≤ 0)
    (guess : List R) (fuel : ℕ) :
    Query.Spends (minimize config srt guess fuel : Query (List R) V _) 0 fun r _ => r = none := by
  unfold minimize
  rw [Query.spends_bind, Query.spends_question]
  intro value
  split
  · rfl
  · rw [Query.spends_bind]
    apply (Query.spends_doWhile_none (fun _ => True) _ fuel _ _ trivial).mono
    · rintro r now rfl
      rfl
    · intro s spent _
      unfold round
      simp only [Query.spends_bind, Query.spends_pure, hlimit]
      apply (spends_probe guess.length s.current_guess s.best_value _ spent).mono
      rintro p now rfl
      have hmean (dirs : List (Q R)) :
          ¬ dirs.foldl (fun sum dir => sum + norm2 dir) 0 / (dirs.length : R) <
            config.rho_final := by
        refine not_lt.mpr (hfinal.trans (div_nonneg ?_ (Nat.cast_nonneg _)))
        rw [← List.foldl_map, ← List.sum_eq_foldl]
        exact List.sum_nonneg (List.forall_mem_map.mpr fun q _ => hnorm q)
      have hpassed (n : Int32) : ¬ Int32.maxValue < n :=
        Int32.not_lt.mpr (Int32.le_iff_toInt_le.mpr n.toInt_le)
      rw [decide_eq_false (not_or.mpr ⟨hmean _, hpassed _⟩)]
      exact ⟨trivial, rfl⟩

end PowellOptimizer

namespace SimulatedAnnealingOptimizer

theorem spends_round (absDiff : V → V → R) (exp : R → R) (config : Configuration R)
    (draws : ℕ → Draw R) (s : State R V) (spent : ℕ) :
    Query.Spends (round absDiff exp config draws s) spent fun s' now =>
      now = spent + 1 ∧ s'.fev = s.fev + 1 := by
  unfold round
  simp only [Query.spends_bind, Query.spends_question, Query.spends_pure, and_self, implies_true]

theorem spends_minimize (absDiff : V → V → R) (exp : R → R) (config : Configuration R)
    (draws : ℕ → Draw R) (guess : List R) {fuel : ℕ}
    (hfuel : config.maxNOfEvaluations.toNat + 2 ≤ fuel) :
    Query.Spends (minimize absDiff exp config draws guess fuel) 0 fun r now =>
      (∃ x, r = some x) ∧ now ≤ max config.maxNOfEvaluations.toNat 2 := by
  have hbound := config.maxNOfEvaluations.toNat_lt
  set limit := config.maxNOfEvaluations.toNat with hlimit
  unfold minimize
  simp only [Query.spends_bind, Query.spends_question, Query.spends_pure]
  intro value
  apply (Query.spends_counted (fun s : State R V => s.fev.toNat) (fun _ => True)
    (max limit 2 - 1) 1 _ rfl _ _ trivial).mono
  · rintro r now ⟨t, rfl, hnow⟩
    exact ⟨⟨_, rfl⟩, by omega⟩
  · intro s _ hle
    apply (spends_round absDiff exp config draws s s.fev.toNat).mono
    rintro s' now ⟨rfl, hfev⟩
    have hadd : s'.fev.toNat = s.fev.toNat + 1 := by
      rw [hfev, UInt32.toNat_add]
      exact Nat.mod_eq_of_lt (by change _ + 1 < _; omega)
    refine ⟨hadd.symm, by omega, le_rfl, trivial, ?_⟩
    intro hagain
    have hgo : s'.fev < config.maxNOfEvaluations := (by simpa using hagain : _ ∧ _).2
    have hlt := UInt32.lt_iff_toNat_lt.mp hgo
    omega
  · change 1 ≤ max limit 2 - 1
    omega
  · change max limit 2 - 1 + 1 - 1 < fuel
    omega

end SimulatedAnnealingOptimizer

namespace SimplexOptimizer

omit [LinearOrder R] [LinearOrder V] in
theorem spends_evaluateVertex (dim : ℕ) (q : Q R) (spent : ℕ) :
    Query.Spends (evaluateVertex dim q : Query (List R) V _) spent fun _ now =>
      now = spent + 1 := by
  unfold evaluateVertex
  simp only [Query.spends_bind, Query.spends_question, Query.spends_pure, implies_true]

omit [Field R] [LinearOrder R] [LinearOrder V] in
theorem Simplex.length_setBack (s : Simplex R V) (v : Vertex R V) :
    (s.setBack v).rest.length = s.rest.length := by
  have hlength := congrArg List.length (s.vertices_setBack v)
  simpa [Simplex.vertices] using hlength

omit [Field R] [LinearOrder R] in
theorem Simplex.length_sort (srt : StdSort (vertexComp (R := R) (V := V))) (s : Simplex R V) :
    (s.sort srt).rest.length = s.rest.length := by
  have hlength := congrArg List.length (s.vertices_sort srt)
  simpa [Simplex.vertices] using hlength

omit [LinearOrder R] in
/-- A move evaluates once or twice, and a reduction all vertices but the best as well. -/
theorem spends_move (dim : ℕ) (s : Simplex R V) (spent : ℕ) :
    Query.Spends (move dim s) spent fun moved now =>
      now = spent + moved.2 ∧ 1 ≤ moved.2 ∧ moved.2 ≤ 2 + s.rest.length ∧
        moved.1.rest.length = s.rest.length := by
  unfold move
  simp only [Query.spends_bind]
  apply (spends_evaluateVertex dim _ spent).mono
  rintro reflected now rfl
  split
  · rw [Query.spends_bind]
    apply (spends_evaluateVertex dim _ _).mono
    rintro expanded now rfl
    exact ⟨rfl, by omega, by omega, s.length_setBack _⟩
  · split
    · exact ⟨rfl, by omega, by omega, s.length_setBack _⟩
    · rw [Query.spends_bind]
      apply (spends_evaluateVertex dim _ _).mono
      rintro contracted now rfl
      split
      · exact ⟨rfl, by omega, by omega, s.length_setBack _⟩
      · rw [Query.spends_bind]
        apply (Query.spends_forEach (fun _ spent => spends_evaluateVertex dim _ spent) _ _).mono
        rintro rest now ⟨hlength, rfl⟩
        exact ⟨by simp only; omega, by simp only; omega, by simp only; omega, hlength⟩

omit [LinearOrder R] in
theorem spends_round (srt : StdSort (vertexComp (R := R) (V := V))) (norm2 : Q R → R) (dim : ℕ)
    (s : State R V) (spent : ℕ) :
    Query.Spends (round srt norm2 dim s) spent fun s' now =>
      ∃ evaluations, now = spent + evaluations ∧ s'.fev = s.fev + .ofNat evaluations ∧
        1 ≤ evaluations ∧ evaluations ≤ 2 + s.simplex.rest.length ∧
        s'.simplex.rest.length = s.simplex.rest.length := by
  unfold round
  rw [Query.spends_bind]
  apply (spends_move dim s.simplex spent).mono
  rintro moved now ⟨rfl, hone, hle, hlength⟩
  exact ⟨moved.2, rfl, rfl, hone, hle, (moved.1.length_sort srt).trans hlength⟩

/-- The counter does not wrap around in the round after which the loop ends. -/
theorem spends_minimize (config : Configuration R) (srt : StdSort (vertexComp (R := R) (V := V)))
    (norm2 : Q R → R) (guess : List R) (hguess : guess ≠ [])
    (hlimit : max (guess.length + 1) (config.maxNOfEvaluations.toNat - 1) + guess.length + 2 <
      2 ^ 32) {fuel : ℕ} (hfuel : config.maxNOfEvaluations.toNat + 2 ≤ fuel) :
    Query.Spends (minimize config srt norm2 guess fuel) 0 fun r now =>
      (∃ x, r = some x) ∧
        now ≤ max (guess.length + 1) (config.maxNOfEvaluations.toNat - 1) + guess.length + 2 := by
  have hdim : guess.length ≠ 0 := fun h => hguess (List.length_eq_zero_iff.mp h)
  set limit := config.maxNOfEvaluations.toNat with hlimit'
  set dim := guess.length
  unfold minimize
  simp only [Query.spends_bind]
  apply (spends_evaluateVertex dim _ 0).mono
  rintro first now rfl
  apply (Query.spends_forEach (fun _ spent => spends_evaluateVertex dim _ spent) _ _).mono
  rintro others now ⟨hlength, rfl⟩
  have hothers : others.length = dim := by
    rw [hlength]
    simp [buildSimplex, dim]
  rw [hlength] at hothers
  have hstart : (UInt32.ofNat (1 + others.length)).toNat = dim + 1 := by
    rw [hlength, hothers, UInt32.toNat_ofNat_of_lt']
    · omega
    · change 1 + dim < 2 ^ 32
      omega
  rw [if_neg hdim]
  simp only [Query.spends_bind, Query.spends_pure]
  apply (Query.spends_counted (fun s : State R V => s.fev.toNat)
    (fun s => s.simplex.rest.length = dim) (max (dim + 1) (limit - 1)) (dim + 2) _ _ _ _ _).mono
  · rintro r now ⟨t, rfl, hnow⟩
    exact ⟨⟨_, rfl⟩, by omega⟩
  · intro s hrest hle
    apply (spends_round srt norm2 dim s s.fev.toNat).mono
    rintro s' now ⟨evaluations, rfl, hfev, hone, hmost, hrest'⟩
    have hadd : s'.fev.toNat = s.fev.toNat + evaluations := by
      rw [hfev, UInt32.toNat_add, UInt32.toNat_ofNat_of_lt']
      · exact Nat.mod_eq_of_lt (by omega)
      · change evaluations < 2 ^ 32
        omega
    refine ⟨hadd.symm, by omega, by omega, hrest'.trans hrest, ?_⟩
    intro hagain
    have hgo : s'.fev < config.maxNOfEvaluations := (by simpa using hagain : _ ∧ _).2
    have hlt := UInt32.lt_iff_toNat_lt.mp hgo
    omega
  · change _ = (UInt32.ofNat (1 + others.length)).toNat
    omega
  · change (UInt32.ofNat (1 + others.length)).toNat ≤ _
    omega
  · change _ - (UInt32.ofNat (1 + others.length)).toNat < fuel
    omega
  · rw [Simplex.length_sort]
    simp only
    omega

end SimplexOptimizer

namespace Optimizer
variable {norm2 : Q R → R}

/-- The evaluation limit of the configuration. -/
def maxNOfEvaluations : Optimizer norm2 V → ℤ
  | simplex config _ => config.maxNOfEvaluations.toNat
  | coordinateDescent config => config.maxNOfEvaluations.toInt
  | powell config _ => config.maxNOfEvaluations.toInt
  | simulatedAnnealing config _ _ _ => config.maxNOfEvaluations.toNat

/-- The evaluations a search of a dimension makes at most. -/
def budget (dim : ℕ) (opt : Optimizer norm2 V) : ℕ :=
  let limit := opt.maxNOfEvaluations.toNat
  match opt with
  | simplex _ _ => max (dim + 1) (limit - 1) + dim + 2
  | coordinateDescent _ => max limit 1 + 2
  | powell _ _ => max limit 1 + 2
  | simulatedAnnealing _ _ _ _ => max limit 2

/-- The counter passes the limit before it wraps around. -/
def CanPassLimit (dim : ℕ) : Optimizer norm2 V → Prop
  | simplex config srt => (simplex config srt : Optimizer norm2 V).budget dim < 2 ^ 32
  | coordinateDescent config => config.maxNOfEvaluations ≠ -1
  | powell config _ => config.maxNOfEvaluations ≠ Int32.maxValue
  | simulatedAnnealing _ _ _ _ => True

instance (dim : ℕ) : (opt : Optimizer norm2 V) → Decidable (opt.CanPassLimit dim)
  | simplex _ _ => Nat.decLt _ _
  | coordinateDescent config => inferInstanceAs (Decidable (config.maxNOfEvaluations ≠ -1))
  | powell config _ => inferInstanceAs (Decidable (config.maxNOfEvaluations ≠ Int32.maxValue))
  | simulatedAnnealing _ _ _ _ => .isTrue trivial

theorem spends_minimize (opt : Optimizer norm2 V) (guess : List R) (hguess : guess ≠ [])
    (hpass : opt.CanPassLimit guess.length) : ∃ enough, ∀ fuel, enough ≤ fuel →
      Query.Spends (opt.minimize guess fuel) 0 fun r now =>
        (∃ x, r = some x) ∧ (1 ≤ opt.maxNOfEvaluations → now ≤ opt.budget guess.length) := by
  cases opt with
  | simplex config srt =>
    refine ⟨config.maxNOfEvaluations.toNat + 2, fun fuel hfuel => ?_⟩
    exact (SimplexOptimizer.spends_minimize config srt norm2 guess hguess hpass hfuel).mono
      fun r now ⟨hr, hnow⟩ => ⟨hr, fun _ => hnow⟩
  | coordinateDescent config =>
    refine ⟨config.maxNOfEvaluations.toUInt32.toNat + 2, fun fuel hfuel => ?_⟩
    refine (CoordinateDescentOptimizer.spends_minimize config norm2 guess hguess hpass hfuel).mono
      fun r now ⟨hr, hnow⟩ => ⟨hr, fun hone => ?_⟩
    have hle : 0 ≤ config.maxNOfEvaluations := Int32.le_iff_toInt_le.mpr (by
      change 1 ≤ config.maxNOfEvaluations.toInt at hone
      change 0 ≤ config.maxNOfEvaluations.toInt
      omega)
    rw [Int32.toNat_toUInt32_of_le hle] at hnow
    exact hnow
  | powell config srt =>
    refine ⟨config.maxNOfEvaluations.toInt.toNat + 2, fun fuel hfuel => ?_⟩
    exact (PowellOptimizer.spends_minimize config srt guess hguess hpass hfuel).mono
      fun r now ⟨hr, hnow⟩ => ⟨hr, fun _ => hnow⟩
  | simulatedAnnealing config draws absDiff exp =>
    refine ⟨config.maxNOfEvaluations.toNat + 2, fun fuel hfuel => ?_⟩
    exact (SimulatedAnnealingOptimizer.spends_minimize absDiff exp config draws guess hfuel).mono
      fun r now ⟨hr, hnow⟩ => ⟨hr, fun _ => hnow⟩

/-- A search with a limit its counter can pass ends. -/
theorem minimize_ends (opt : Optimizer norm2 V) {guess : List R} (hguess : guess ≠ [])
    (hpass : opt.CanPassLimit guess.length) (f : List R → V) :
    ∃ enough, ∀ fuel, enough ≤ fuel → ∃ r, ((opt.minimize guess fuel).exec f).1 = some r := by
  obtain ⟨enough, hspends⟩ := opt.spends_minimize guess hguess hpass
  exact ⟨enough, fun fuel hfuel => ((hspends fuel hfuel).exec f).1⟩

/-- A search that ends returns a point it has evaluated to a value no greater than any other it
has evaluated, the one at the guess included; and it ends if its counter can pass the limit. -/
theorem minimize_returns_least (opt : Optimizer norm2 V) (f : List R → V) {guess : List R}
    (hguess : guess ≠ []) :
    (∀ fuel r evaluations, (opt.minimize guess fuel).exec f = (some r, evaluations) →
      (r, f r) ∈ evaluations ∧ (∀ e ∈ evaluations, e.2 = f e.1 ∧ f r ≤ e.2) ∧
        (guess, f guess) ∈ evaluations ∧ f r ≤ f guess) ∧
    (opt.CanPassLimit guess.length → ∃ enough, ∀ fuel, enough ≤ fuel → ∃ r evaluations,
      (opt.minimize guess fuel).exec f = (some r, evaluations)) := by
  constructor
  · intro fuel r evaluations hexec
    obtain ⟨-, -, hleast⟩ := opt.minimize_returnsLeast f guess fuel
    rw [hexec, List.nil_append] at hleast
    have hbest := hleast r rfl
    refine ⟨hbest.asked, fun e he => ⟨?_, hbest.least e he⟩, ?_, hbest.le_first⟩
    · have hanswer := Query.exec_answer f (opt.minimize guess fuel)
      rw [hexec] at hanswer
      exact hanswer e he
    · exact hbest.begins.subset (List.mem_singleton_self _)
  · intro hpass
    obtain ⟨enough, hends⟩ := opt.minimize_ends hguess hpass f
    refine ⟨enough, fun fuel hfuel => ?_⟩
    obtain ⟨r, hr⟩ := hends fuel hfuel
    exact ⟨r, _, Prod.ext hr rfl⟩

/-- Every search whose counter can pass the limit ends within its budget, whatever the objective
answers. -/
theorem minimize_within_budget (opt : Optimizer norm2 V) {guess : List R} (hguess : guess ≠ [])
    (hlimit : 1 ≤ opt.maxNOfEvaluations) (hpass : opt.CanPassLimit guess.length)
    (objective : Oracle (List R) V) :
    ∃ enough, ∀ fuel, enough ≤ fuel → ∃ r evaluations,
      (opt.minimize guess fuel).interview objective [] = (some r, evaluations) ∧
        evaluations.length ≤ opt.budget guess.length := by
  obtain ⟨enough, hspends⟩ := opt.spends_minimize guess hguess hpass
  refine ⟨enough, fun fuel hfuel => ?_⟩
  obtain ⟨⟨x, hx⟩, hlength⟩ := Query.Spends.interview [] (hspends fuel hfuel) objective
  exact ⟨x, _, Prod.ext hx rfl, hlength hlimit⟩

/-! ## A line -/

namespace Sample

/-- The coordinate of a line, taken for its length. -/
def length (q : Q ℚ) : ℚ := |q.get 0|

theorem length_nonneg (q : Q ℚ) : 0 ≤ length q := abs_nonneg _

/-- Steps keep their length. There is no limit: `-1` is converted to the greatest `unsigned`. -/
def descent : Optimizer length ℚ := .coordinateDescent ⟨1, 0, 1, 1, -1⟩

/-- Steps keep their length, and the limit is the greatest. -/
def powell : Optimizer length ℚ := .powell ⟨1, 0, 1, 1, Int32.maxValue⟩ (StdSort.stable length)

end Sample

/-- Coordinate descent need not return at all. -/
theorem not_minimize_returns_descent :
    ¬ ∃ enough, ∀ fuel, enough ≤ fuel → ∃ r evaluations,
      (Sample.descent.minimize [0] fuel).exec (fun _ => 0) = (some r, evaluations) := by
  rintro ⟨enough, hreturns⟩
  obtain ⟨r, evaluations, hexec⟩ := hreturns enough le_rfl
  have hnone := (CoordinateDescentOptimizer.minimize_never_ends (V := ℚ) ⟨1, 0, 1, 1, -1⟩
    Sample.length_nonneg rfl le_rfl [0] enough).exec fun _ => 0
  exact absurd (hnone.symm.trans (congrArg Prod.fst hexec)) nofun

theorem minimize_returns_least_line :
    ∃ enough, ∀ fuel, enough ≤ fuel → ∃ r evaluations,
      ((coordinateDescent default : Optimizer Sample.length ℚ).minimize [0] fuel).exec
        (fun x => x.headD 0) = (some r, evaluations) :=
  (minimize_returns_least (coordinateDescent default) (fun x => x.headD 0)
    (List.cons_ne_nil 0 [])).2 (by decide)

/-- The search of an objective that answers by the number of the call. -/
theorem minimize_within_budget_line : ∃ enough, ∀ fuel, enough ≤ fuel → ∃ r evaluations,
    ((coordinateDescent default : Optimizer Sample.length ℚ).minimize [0] fuel).interview
      (fun past _ => (past.length : ℚ)) [] = (some r, evaluations) ∧ evaluations.length ≤ 1002 :=
  minimize_within_budget (coordinateDescent default) (List.cons_ne_nil 0 []) (by decide)
    (by decide) _

/-- With the greatest limit Powell's method need not end. -/
theorem not_minimize_within_budget_powell :
    1 ≤ Sample.powell.maxNOfEvaluations ∧
    ¬ ∃ enough, ∀ fuel, enough ≤ fuel → ∃ r evaluations,
      (Sample.powell.minimize [0] fuel).interview (fun _ _ => 0) [] = (some r, evaluations) ∧
        evaluations.length ≤ Sample.powell.budget 1 := by
  refine ⟨by decide, ?_⟩
  rintro ⟨enough, hends⟩
  obtain ⟨r, evaluations, hrun, -⟩ := hends enough le_rfl
  have hnone := Query.Spends.interview [] (PowellOptimizer.minimize_never_ends (V := ℚ)
    ⟨1, 0, 1, 1, Int32.maxValue⟩ Sample.length_nonneg (StdSort.stable Sample.length) rfl le_rfl [0]
    enough) fun _ _ => 0
  exact absurd (hnone.symm.trans (congrArg Prod.fst hrun)) nofun

end Optimizer
end Gripperz.Optimization
