import Gripperz.Library.StdSort
import Gripperz.Optimization.StepProbe

/-! # Powell's direction set

`minimize` tries a step back and a step forth along one direction of a set at a
time and scales that direction; after the last direction the set is sorted by
length and its longest member gives way to the mean of all. The `int` evaluation
counter wraps around, as the machine's does.
-/
namespace Gripperz.Optimization.PowellOptimizer
open Library Math

variable {R V : Type} [Field R] [LinearOrder R] [LinearOrder V]

structure Configuration (R : Type) where
  rho_0 : R
  rho_final : R
  kSuccessful : R
  kUnsuccesful : R
  maxNOfEvaluations : Int32

instance : Inhabited (Configuration R) :=
  ⟨{ rho_0 := 1 / 10, rho_final := 1 / 1000, kSuccessful := 161 / 100,
     kUnsuccesful := 100 / 161, maxNOfEvaluations := 1000 }⟩

def directionComp (norm2 : Q R → R) (dir1 dir2 : Q R) : Prop := norm2 dir1 < norm2 dir2

structure State (R V : Type) where
  current_guess : Q R
  best_value : V
  dir_set : List (Q R)
  dir_idx : ℕ
  fev : Int32
  stop : Bool

/-- Sort the directions and put the mean of all in the place of the longest. -/
def renewDirections {norm2 : Q R → R} (srt : StdSort (directionComp norm2)) (dim : ℕ)
    (dir_set : List (Q R)) : List (Q R) :=
  let sorted := srt.sort dir_set
  let new_dir := sorted.foldl (fun sum dir => sum + dir) (Q.fill dim 0) / (sorted.length : R)
  sorted.dropLast ++ [new_dir]

/-- One round of the `while (!stop)` loop. -/
def round (config : Configuration R) {norm2 : Q R → R} (srt : StdSort (directionComp norm2))
    (dim : ℕ) (s : State R V) : Query (List R) V (State R V) := do
  let step := s.dir_set.getD s.dir_idx (.fill dim 0)
  let p ← probe dim s.current_guess s.best_value step
  let factor := if p.success then config.kSuccessful else config.kUnsuccesful
  let scaled := s.dir_set.set s.dir_idx (factor * step)
  let rho := scaled.foldl (fun sum dir => sum + norm2 dir) 0 / (scaled.length : R)
  let dir_idx := s.dir_idx + 1
  let fev := s.fev + 2
  let stop := decide (rho < config.rho_final ∨ config.maxNOfEvaluations < fev)
  let atEnd := decide (scaled.length ≤ dir_idx)
  pure
    { current_guess := p.point, best_value := p.value,
      dir_set := if atEnd then renewDirections srt dim scaled else scaled,
      dir_idx := if atEnd then 0 else dir_idx, fev := fev, stop := stop }

def minimize (config : Configuration R) {norm2 : Q R → R} (srt : StdSort (directionComp norm2))
    (initialGuess : List R) (fuel : ℕ) : Query (List R) V (Option (List R)) := do
  let dim := initialGuess.length
  let best_value ← Query.question initialGuess
  let start : State R V :=
    { current_guess := .fromStdVector initialGuess, best_value := best_value,
      dir_set := (List.range dim).map fun i => (Q.fill dim 0).set i config.rho_0,
      dir_idx := 0, fev := 1, stop := false }
  -- without a coordinate the first round fails: `dir_set[dir_idx]`
  if dim = 0 then pure none
  else
    let last ← Query.doWhile (round config srt dim) (fun s => !s.stop) fuel start
    pure (last.map fun s => s.current_guess.toStdVector dim)

def Invariant (f : List R → V) (guess : List R) (s : State R V) (now : List (List R × V)) : Prop :=
  EarliestSoFar (fun x => x.length = guess.length) f guess
    (s.current_guess.toStdVector guess.length) s.best_value now

theorem round_spec (config : Configuration R) {norm2 : Q R → R}
    (srt : StdSort (directionComp norm2)) (f : List R → V) (guess : List R) (s : State R V)
    (past : List (List R × V)) (h : Invariant f guess s past) :
    Query.Holds f (round config srt guess.length s) past fun s' now =>
      Invariant f guess s' now := by
  unfold round
  simp only [Query.holds_bind, Query.holds_pure]
  exact probe_spec f guess s.current_guess s.best_value _ past h

/-- What Powell's method returns is the first of the best points it
evaluated. -/
theorem minimize_returnsEarliest (config : Configuration R) {norm2 : Q R → R}
    (srt : StdSort (directionComp norm2)) (f : List R → V) (guess : List R) :
    ReturnsEarliest (fun x => x.length = guess.length) f guess (minimize config srt guess) := by
  intro fuel
  have h0 : EarliestSoFar (fun x : List R => x.length = guess.length) f guess guess (f guess)
      [(guess, f guess)] := .start rfl
  unfold minimize
  simp only [Query.holds_bind, Query.holds_question, List.nil_append]
  split
  · exact Query.holds_pure.mpr ⟨h0.admissible, h0.begins, nofun⟩
  · refine searched_doWhile _ (Invariant f guess) (Invariant f guess) ?_ ?_ ?_ fuel _ _ ?_
    · intro s past h
      exact (round_spec config srt f guess s past h).mono fun s' now hI => ⟨hI, fun _ => hI⟩
    · exact fun s now hI => ⟨(or_self_iff.mp hI).admissible, (or_self_iff.mp hI).begins⟩
    · exact fun s now hI => hI.value ▸ hI
    · simpa [Invariant] using h0

end Gripperz.Optimization.PowellOptimizer
