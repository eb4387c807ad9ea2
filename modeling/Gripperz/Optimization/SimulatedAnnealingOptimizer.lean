import Gripperz.Library.BestSoFar
import Gripperz.Math.Q

/-! # Simulated annealing

`minimize` walks from state to state by random displacements, accepts a worse state
with a probability that falls with the temperature, and remembers the best state
it has been in. The random numbers of each round are given; `fabs` of a difference
of energies and `exp` are parameters.
-/
namespace Gripperz.Optimization.SimulatedAnnealingOptimizer
open Library Math

variable {R V : Type} [Field R] [LinearOrder R] [LinearOrder V]

structure Configuration (R : Type) where
  rho_0 : R
  rho_final : R
  maxNOfEvaluations : UInt32

instance : Inhabited (Configuration R) :=
  ⟨{ rho_0 := 1 / 10, rho_final := 1 / 1000, maxNOfEvaluations := 1000 }⟩

/-- The random numbers of one round: `ran(0.0, epsilon)` is `radius * epsilon`,
`ranDir` scales `direction` by it, and `accept` is `ran(0.0, 1.0)`. -/
structure Draw (R : Type) [Field R] [LinearOrder R] where
  radius : R
  direction : Q R
  accept : R
  radius_mem : 0 ≤ radius ∧ radius < 1
  accept_mem : 0 ≤ accept ∧ accept < 1

def generateNewState (draw : Draw R) (currentState : List R) (epsilon : R) : List R :=
  let dim := currentState.length
  let q := Q.fromStdVector currentState
  (q + (draw.radius * epsilon) * draw.direction).toStdVector dim

@[simp] theorem length_generateNewState (draw : Draw R) (currentState : List R) (epsilon : R) :
    (generateNewState draw currentState epsilon).length = currentState.length := by
  simp [generateNewState]

def calculateAcceptanceProbability (absDiff : V → V → R) (exp : R → R) (e0 e1 : V) (T : R) : R :=
  if e1 < e0 then 1
  else if T = 0 then 0
  else exp (-(absDiff e0 e1) / T)

def MaxT : R := 1000

structure State (R V : Type) where
  current_state : List R
  best_state : List R
  current_value : V
  best_value : V
  T : R
  fev : UInt32
  rounds : ℕ

variable (absDiff : V → V → R) (exp : R → R)

/-- One round of the `do … while` loop. -/
def round (config : Configuration R) (draws : ℕ → Draw R) (s : State R V) :
    Query (List R) V (State R V) := do
  let dT := MaxT / (config.maxNOfEvaluations.toNat : R)
  let draw := draws s.rounds
  let new_state := generateNewState draw s.current_state config.rho_0
  let new_value ← Query.question new_state
  let p := calculateAcceptanceProbability absDiff exp s.current_value new_value s.T
  let (current_state, current_value) :=
    if draw.accept < p then (new_state, new_value) else (s.current_state, s.current_value)
  let (best_state, best_value) :=
    if current_value < s.best_value then (current_state, current_value)
    else (s.best_state, s.best_value)
  let T := if s.T - dT < 0 then 0 else s.T - dT
  pure
    { current_state := current_state, best_state := best_state, current_value := current_value,
      best_value := best_value, T := T, fev := s.fev + 1, rounds := s.rounds + 1 }

def minimize (config : Configuration R) (draws : ℕ → Draw R) (initialGuess : List R)
    (fuel : ℕ) : Query (List R) V (Option (List R)) := do
  let current_value ← Query.question initialGuess
  let start : State R V :=
    { current_state := initialGuess, best_state := initialGuess, current_value := current_value,
      best_value := current_value, T := MaxT, fev := 1, rounds := 0 }
  let last ← Query.doWhile (round absDiff exp config draws)
    (fun s => decide (0 < s.T ∧ s.fev < config.maxNOfEvaluations)) fuel start
  pure (last.map fun s => s.best_state)

/-- The best state is the best of all evaluated, and no worse than the current one. -/
structure Invariant (f : List R → V) (guess : List R) (s : State R V) (now : List (List R × V)) :
    Prop where
  best : EarliestSoFar (fun x => x.length = guess.length) f guess s.best_state s.best_value now
  best_le_current : s.best_value ≤ s.current_value
  length_current : s.current_state.length = guess.length

/-- A state that improves on the current one is always accepted. -/
theorem accepts_improvement (draw : Draw R) {e0 e1 : V} (T : R) (h : e1 < e0) :
    draw.accept < calculateAcceptanceProbability absDiff exp e0 e1 T := by
  simpa [calculateAcceptanceProbability, h] using draw.accept_mem.2

theorem round_spec (config : Configuration R) (draws : ℕ → Draw R) (f : List R → V)
    (guess : List R) (s : State R V) (past : List (List R × V)) (h : Invariant f guess s past) :
    Query.Holds f (round absDiff exp config draws s) past fun s' now =>
      Invariant f guess s' now := by
  unfold round
  simp only [Query.holds_bind, Query.holds_question, Query.holds_pure]
  set draw := draws s.rounds
  set x := generateNewState draw s.current_state config.rho_0 with hx
  have hlen : x.length = guess.length := by rw [hx, length_generateNewState, h.length_current]
  by_cases hacc : draw.accept < calculateAcceptanceProbability absDiff exp s.current_value (f x) s.T
  · by_cases hbest : f x < s.best_value
    · constructor <;> simp [hacc, hbest, hlen, h.best.improve hlen hbest]
    · have hle := not_lt.mp hbest
      constructor <;> simp [hacc, hbest, hlen, hle, h.best.keep hlen hle]
  · have hworse : s.current_value ≤ f x :=
      not_lt.mp fun hlt => hacc (accepts_improvement absDiff exp draw s.T hlt)
    have hkeep := h.best.keep hlen (h.best_le_current.trans hworse)
    have hcur := not_lt.mpr h.best_le_current
    constructor <;> simp [hacc, hcur, h.length_current, h.best_le_current, hkeep]

/-- What simulated annealing returns is the first of the best states it evaluated. -/
theorem minimize_returnsEarliest (config : Configuration R) (draws : ℕ → Draw R) (f : List R → V)
    (guess : List R) :
    ReturnsEarliest (fun x => x.length = guess.length) f guess
      (minimize absDiff exp config draws guess) := by
  intro fuel
  unfold minimize
  rw [Query.holds_bind, Query.holds_question, List.nil_append]
  refine searched_doWhile _ (Invariant f guess) (Invariant f guess) ?_ ?_ ?_ fuel _ _ ?_
  · intro s past h
    exact (round_spec absDiff exp config draws f guess s past h).mono
      fun s' now hI => ⟨hI, fun _ => hI⟩
  · exact fun s now hI => ⟨(or_self_iff.mp hI).best.admissible, (or_self_iff.mp hI).best.begins⟩
  · exact fun s now hI => hI.best.value ▸ hI.best
  · exact ⟨.start rfl, le_rfl, rfl⟩

end Gripperz.Optimization.SimulatedAnnealingOptimizer
