import Gripperz.Optimization.StepProbe

/-! # Coordinate descent

`minimize` tries a step down and a step up along one axis at a time, lengthens the
step of that axis after an improvement and shortens it otherwise. Arithmetic is exact
but for the `unsigned` evaluation counter, which wraps around; the `int` limit is
compared as the `unsigned` it is converted to. The norm of a vector is a parameter.
-/
namespace Gripperz.Optimization.CoordinateDescentOptimizer
open Library Math

variable {R V : Type} [Field R] [LinearOrder R] [LinearOrder V]

structure Configuration (R : Type) where
  kInitialStepSize : R
  kFinalStepSize : R
  kSuccessful : R
  kUnsuccesful : R
  maxNOfEvaluations : Int32

instance : Inhabited (Configuration R) :=
  ⟨{ kInitialStepSize := 1 / 10, kFinalStepSize := 1 / 1000, kSuccessful := 161 / 100,
     kUnsuccesful := 100 / 161, maxNOfEvaluations := 1000 }⟩

structure State (R V : Type) where
  m : Q R
  fbest : V
  stepSizes : Q R
  ix : ℕ
  fev : UInt32
  stop : Bool

/-- One round of the `while (!stop)` loop. -/
def round (conf : Configuration R) (norm2 : Q R → R) (dim : ℕ) (s : State R V) :
    Query (List R) V (State R V) := do
  let step := (Q.fill dim 0).set s.ix (s.stepSizes.get s.ix)
  let p ← probe dim s.m s.fbest step
  let factor := if p.success then conf.kSuccessful else conf.kUnsuccesful
  let stepSizes := s.stepSizes.set s.ix (s.stepSizes.get s.ix * factor)
  let rho := norm2 stepSizes
  let fev := s.fev + 2
  pure
    { m := p.point, fbest := p.value, stepSizes := stepSizes, ix := (s.ix + 1) % dim, fev := fev,
      stop := decide (rho < conf.kFinalStepSize ∨ conf.maxNOfEvaluations.toUInt32 < fev) }

def minimize (conf : Configuration R) (norm2 : Q R → R) (initialGuess : List R) (fuel : ℕ) :
    Query (List R) V (Option (List R)) := do
  let dim := initialGuess.length
  let fbest ← Query.question initialGuess
  let start : State R V :=
    { m := .fromStdVector initialGuess, fbest := fbest,
      stepSizes := .fill dim conf.kInitialStepSize, ix := 0, fev := 1, stop := false }
  -- without a coordinate the first round fails: `step(ix)` and `% dim`
  if dim = 0 then pure none
  else
    let last ← Query.doWhile (round conf norm2 dim) (fun s => !s.stop) fuel start
    pure (last.map fun s => s.m.toStdVector dim)

/-- The best point kept is the best of all evaluated, whatever the steps were. -/
def Invariant (f : List R → V) (guess : List R) (s : State R V) (now : List (List R × V)) : Prop :=
  EarliestSoFar (fun x => x.length = guess.length) f guess (s.m.toStdVector guess.length) s.fbest
    now

theorem round_spec (conf : Configuration R) (norm2 : Q R → R) (f : List R → V) (guess : List R)
    (s : State R V) (past : List (List R × V)) (h : Invariant f guess s past) :
    Query.Holds f (round conf norm2 guess.length s) past fun s' now =>
      Invariant f guess s' now := by
  unfold round
  simp only [Query.holds_bind, Query.holds_pure]
  exact probe_spec f guess s.m s.fbest _ past h

/-- What coordinate descent returns is the first of the best points it
evaluated. -/
theorem minimize_returnsEarliest (conf : Configuration R) (norm2 : Q R → R) (f : List R → V)
    (guess : List R) :
    ReturnsEarliest (fun x => x.length = guess.length) f guess (minimize conf norm2 guess) := by
  intro fuel
  have h0 : EarliestSoFar (fun x : List R => x.length = guess.length) f guess guess (f guess)
      [(guess, f guess)] := .start rfl
  unfold minimize
  simp only [Query.holds_bind, Query.holds_question, List.nil_append]
  split
  · exact Query.holds_pure.mpr ⟨h0.admissible, h0.begins, nofun⟩
  · refine searched_doWhile _ (Invariant f guess) (Invariant f guess) ?_ ?_ ?_ fuel _ _ ?_
    · intro s past h
      exact (round_spec conf norm2 f guess s past h).mono fun s' now hI => ⟨hI, fun _ => hI⟩
    · exact fun s now hI => ⟨(or_self_iff.mp hI).admissible, (or_self_iff.mp hI).begins⟩
    · exact fun s now hI => hI.value ▸ hI
    · simpa [Invariant] using h0

end Gripperz.Optimization.CoordinateDescentOptimizer
