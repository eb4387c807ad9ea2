import Gripperz.Library.BestSoFar
import Gripperz.Math.Q

/-! # Trying a step both ways

Coordinate descent and Powell's method share one round: evaluate the current point
less the step, then plus the step, and move to whichever improves on the best value.
-/
namespace Gripperz.Optimization
open Library Math

variable {R V : Type} [Field R] [LinearOrder V]

/-- Where a round leaves the search, and whether it improved. -/
structure Probe (R V : Type) where
  point : Q R
  value : V
  success : Bool

def probe (dim : ℕ) (point : Q R) (best : V) (step : Q R) : Query (List R) V (Probe R V) := do
  let qx1 := point - step
  let f1 ← Query.question (qx1.toStdVector dim)
  let qx2 := point + step
  let f2 ← Query.question (qx2.toStdVector dim)
  let back : Probe R V := if f1 < best then ⟨qx1, f1, true⟩ else ⟨point, best, false⟩
  pure (if f2 < back.value then ⟨qx2, f2, true⟩ else back)

/-- The best point stays the best of all evaluated, whatever the step was. -/
theorem probe_spec (f : List R → V) (guess : List R) (point : Q R) (best : V) (step : Q R)
    (past : List (List R × V))
    (h : EarliestSoFar (fun x => x.length = guess.length) f guess (point.toStdVector guess.length)
      best past) :
    Query.Holds f (probe guess.length point best step) past fun p now =>
      EarliestSoFar (fun x => x.length = guess.length) f guess (p.point.toStdVector guess.length)
        p.value now := by
  have hlen (q : Q R) : (q.toStdVector guess.length).length = guess.length := by simp
  unfold probe
  simp only [Query.holds_bind, Query.holds_question, Query.holds_pure]
  by_cases h1 : f ((point - step).toStdVector guess.length) < best
  · have b1 := h.improve (hlen (point - step)) h1
    by_cases h2 : f ((point + step).toStdVector guess.length) <
        f ((point - step).toStdVector guess.length)
    · simpa [h1, h2] using b1.improve (hlen (point + step)) h2
    · simpa [h1, h2] using b1.keep (hlen (point + step)) (not_lt.mp h2)
  · have b1 := h.keep (hlen (point - step)) (not_lt.mp h1)
    by_cases h2 : f ((point + step).toStdVector guess.length) < best
    · simpa [h1, h2] using b1.improve (hlen (point + step)) h2
    · simpa [h1, h2] using b1.keep (hlen (point + step)) (not_lt.mp h2)

end Gripperz.Optimization
