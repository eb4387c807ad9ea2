import Gripperz.Optimization.CoordinateDescentOptimizer
import Gripperz.Optimization.PowellOptimizer
import Gripperz.Optimization.SimplexOptimizer
import Gripperz.Optimization.SimulatedAnnealingOptimizer

/-! # The optimizer interface

The four optimizers written in this repository, each with everything its run
depends on besides the norm of a vector, the objective function and the guess. They
share that a point they return is the best of all points evaluated.
-/
namespace Gripperz.Optimization
open Library Math

variable {R V : Type} [Field R] [LinearOrder R] [LinearOrder V]

inductive Optimizer (norm2 : Q R → R) (V : Type) [LinearOrder V] where
  | simplex (config : SimplexOptimizer.Configuration R)
      (srt : StdSort (SimplexOptimizer.vertexComp (R := R) (V := V)))
  | coordinateDescent (config : CoordinateDescentOptimizer.Configuration R)
  | powell (config : PowellOptimizer.Configuration R)
      (srt : StdSort (PowellOptimizer.directionComp norm2))
  | simulatedAnnealing (config : SimulatedAnnealingOptimizer.Configuration R)
      (draws : ℕ → SimulatedAnnealingOptimizer.Draw R) (absDiff : V → V → R) (exp : R → R)

namespace Optimizer

variable {norm2 : Q R → R}

/-- `minimize(function, initialGuess)`, given up after `fuel` rounds of its loop. -/
def minimize (initialGuess : List R) (fuel : ℕ) :
    Optimizer norm2 V → Query (List R) V (Option (List R))
  | simplex config srt => SimplexOptimizer.minimize config srt norm2 initialGuess fuel
  | coordinateDescent config =>
      CoordinateDescentOptimizer.minimize config norm2 initialGuess fuel
  | powell config srt => PowellOptimizer.minimize config srt initialGuess fuel
  | simulatedAnnealing config draws absDiff exp =>
      SimulatedAnnealingOptimizer.minimize absDiff exp config draws initialGuess fuel

/-- A simplex may put any of its equal vertices first. -/
def IsSimplex : Optimizer norm2 V → Prop
  | simplex _ _ => True
  | _ => False

theorem minimize_returnsEarliest (opt : Optimizer norm2 V) (h : ¬ opt.IsSimplex)
    (f : List R → V) (guess : List R) :
    ReturnsEarliest (fun x => x.length = guess.length) f guess
      (fun fuel => opt.minimize guess fuel) := by
  cases opt with
  | simplex config srt => exact absurd trivial h
  | coordinateDescent config =>
    exact CoordinateDescentOptimizer.minimize_returnsEarliest config norm2 f guess
  | powell config srt => exact PowellOptimizer.minimize_returnsEarliest config srt f guess
  | simulatedAnnealing config draws absDiff exp =>
    exact SimulatedAnnealingOptimizer.minimize_returnsEarliest absDiff exp config draws f guess

theorem minimize_returnsLeast (opt : Optimizer norm2 V) (f : List R → V) (guess : List R) :
    ReturnsLeast (fun x => x.length = guess.length) f guess
      (fun fuel => opt.minimize guess fuel) := by
  by_cases h : opt.IsSimplex
  · cases opt with
    | simplex config srt => exact SimplexOptimizer.minimize_returnsLeast config srt norm2 f guess
    | _ => exact absurd h id
  · exact (opt.minimize_returnsEarliest h f guess).returnsLeast

end Optimizer
end Gripperz.Optimization
