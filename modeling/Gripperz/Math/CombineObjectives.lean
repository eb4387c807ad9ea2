import Mathlib.Data.List.GetD
import Gripperz.Library.Numerals
import Gripperz.Library.WeightedMeans

/-! # Combining objectives

A weighted sum, product or sum of logarithms, over the sum of the weights. The powers and the
logarithm are those of the numbers the program computes with.
-/
namespace Gripperz.Math
open Library

/-- `pow` and `log2`. -/
structure Powers (R : Type) where
  pow : R → R → R
  log2 : R → R

inductive CombiningMethod where
  | sum | product | log
  deriving DecidableEq, Repr

structure CombineObjectives (R : Type) where
  method : CombiningMethod
  weights : List R

/-- `CombineObjectivesFactory::make`. -/
def CombineObjectivesFactory.make {R : Type} (method : String) (weights : List R) :
    Except String (CombineObjectives R) :=
  if method = "sum" then .ok ⟨.sum, weights⟩
  else if method = "product" then .ok ⟨.product, weights⟩
  else if method = "log" then .ok ⟨.log, weights⟩
  else .error ("Objective combining method is not supported: " ++ method)

namespace CombineObjectives
variable {R : Type} [Field R] (powers : Powers R) (weights objectives : List R)

/-- The loop over the objectives: `q`, changed by the weight and the objective, and `sum_w`. -/
def accumulate (change : R → R → R → R) (init : R) : R × R :=
  (List.range objectives.length).foldl
    (fun acc i =>
      let w := weights.getD i 0
      (change acc.1 w (objectives.getD i 0), acc.2 + w))
    (init, 0)

/-- `CombineSum::_do_combine`. -/
def combineSum : R :=
  let acc := accumulate weights objectives (fun q w objective => q + w * objective) 0
  acc.1 / acc.2

/-- `CombineProduct::_do_combine`. -/
def combineProduct : R :=
  let acc := accumulate weights objectives (fun q w objective => q * powers.pow objective w) 1
  powers.pow acc.1 (1 / acc.2)

/-- `CombineLog::_do_combine`. -/
def combineLog : R :=
  let acc := accumulate weights objectives
    (fun q w objective => q + w * powers.log2 objective) 0
  powers.pow 2 (acc.1 / acc.2)

def combine (combiner : CombineObjectives R) : Except String R :=
  if objectives.length ≠ combiner.weights.length then
    .error "Weights and objectives size mismatch!"
  else match combiner.method with
    | .sum => .ok (combineSum combiner.weights objectives)
    | .product => .ok (combineProduct powers combiner.weights objectives)
    | .log => .ok (combineLog powers combiner.weights objectives)

end CombineObjectives

/-! ## Over the real numbers -/

/-- The powers and the logarithm of the real numbers. -/
noncomputable def Powers.real : Powers ℝ where
  pow x y := x ^ y
  log2 := Real.logb 2

namespace CombineObjectives
variable (weights objectives : List ℝ)

/-- An accumulated sum is the sum over the positions. -/
theorem accumulate_add (term : ℝ → ℝ → ℝ) :
    accumulate weights objectives (fun q w objective => q + term w objective) 0 =
      (∑ i ∈ Finset.range objectives.length, term (weights.getD i 0) (objectives.getD i 0),
        ∑ i ∈ Finset.range objectives.length, weights.getD i 0) := by
  unfold accumulate
  induction objectives.length with
  | zero => rfl
  | succ n ih =>
    rw [List.range_succ, List.foldl_append, ih, Finset.sum_range_succ, Finset.sum_range_succ]
    rfl

/-- An accumulated product is the product over the positions. -/
theorem accumulate_mul (factor : ℝ → ℝ → ℝ) :
    accumulate weights objectives (fun q w objective => q * factor w objective) 1 =
      (∏ i ∈ Finset.range objectives.length, factor (weights.getD i 0) (objectives.getD i 0),
        ∑ i ∈ Finset.range objectives.length, weights.getD i 0) := by
  unfold accumulate
  induction objectives.length with
  | zero => rfl
  | succ n ih =>
    rw [List.range_succ, List.foldl_append, ih, Finset.prod_range_succ, Finset.sum_range_succ]
    rfl

theorem combineSum_eq : combineSum weights objectives =
    (∑ i ∈ Finset.range objectives.length, weights.getD i 0 * objectives.getD i 0) /
      ∑ i ∈ Finset.range objectives.length, weights.getD i 0 := by
  simp only [combineSum, accumulate_add weights objectives fun w z => w * z]

theorem combineProduct_eq : combineProduct Powers.real weights objectives =
    (∏ i ∈ Finset.range objectives.length, objectives.getD i 0 ^ weights.getD i 0) ^
      (1 / ∑ i ∈ Finset.range objectives.length, weights.getD i 0) := by
  simp only [combineProduct, accumulate_mul weights objectives fun w z => Powers.real.pow z w]
  rfl

/-- The sum of logarithms is the product again. -/
theorem combineLog_eq
    (hpos : ∀ i ∈ Finset.range objectives.length, 0 < objectives.getD i 0) :
    combineLog Powers.real weights objectives = combineProduct Powers.real weights objectives := by
  simp only [combineLog, accumulate_add weights objectives fun w z => w * Powers.real.log2 z]
  rw [combineProduct_eq]
  exact rpow_sum_logb_eq hpos

theorem combine_eq {combiner : CombineObjectives ℝ}
    (hlength : objectives.length = combiner.weights.length) :
    combiner.combine Powers.real objectives = .ok (match combiner.method with
      | .sum => combineSum combiner.weights objectives
      | .product => combineProduct Powers.real combiner.weights objectives
      | .log => combineLog Powers.real combiner.weights objectives) := by
  rw [combine, if_neg (not_not.mpr hlength)]
  cases combiner.method <;> rfl

theorem sum_getD (l : List ℝ) : ∑ i ∈ Finset.range l.length, l.getD i 0 = l.sum := by
  rw [← Fin.sum_univ_eq_sum_range fun i => l.getD i 0]
  simp

theorem getD_mem {l : List ℝ} {i : ℕ} (hi : i ∈ Finset.range l.length) : l.getD i 0 ∈ l := by
  rw [List.getD_eq_getElem _ _ (Finset.mem_range.mp hi)]
  exact List.getElem_mem _

/-- A list of numbers that is not empty has a least one and a greatest one. -/
theorem exists_bounds {l : List ℝ} (hne : l ≠ []) :
    ∃ least ∈ l, ∃ greatest ∈ l, ∀ x ∈ l, least ≤ x ∧ x ≤ greatest := by
  have hnonempty := (List.toFinset_nonempty_iff l).mpr hne
  obtain ⟨least, hleast, hle⟩ := l.toFinset.exists_min_image id hnonempty
  obtain ⟨greatest, hgreatest, hge⟩ := l.toFinset.exists_max_image id hnonempty
  exact ⟨least, List.mem_toFinset.mp hleast, greatest, List.mem_toFinset.mp hgreatest,
    fun x hx => ⟨hle x (List.mem_toFinset.mpr hx), hge x (List.mem_toFinset.mpr hx)⟩⟩

/-- The product and the logarithms give the same value. It is between the least and the greatest
objective and at most what the sum gives. -/
theorem combine_agree (hlength : objectives.length = weights.length)
    (hobjectives : ∀ objective ∈ objectives, 0 < objective) (hweights : ∀ w ∈ weights, 0 ≤ w)
    (hsum : 0 < weights.sum) :
    ∃ value mean,
      combine Powers.real objectives ⟨.product, weights⟩ = .ok value ∧
      combine Powers.real objectives ⟨.log, weights⟩ = .ok value ∧
      combine Powers.real objectives ⟨.sum, weights⟩ = .ok mean ∧ value ≤ mean ∧
      ∃ least ∈ objectives, ∃ greatest ∈ objectives,
        (∀ objective ∈ objectives, least ≤ objective ∧ objective ≤ greatest) ∧
        least ≤ value ∧ value ≤ greatest := by
  have hne : objectives ≠ [] := by
    rintro rfl
    rw [List.length_eq_zero_iff.mp hlength.symm] at hsum
    exact lt_irrefl 0 hsum
  have hw : ∀ i ∈ Finset.range objectives.length, 0 ≤ weights.getD i 0 := fun i hi =>
    hweights _ (getD_mem (hlength ▸ hi))
  have hz : ∀ i ∈ Finset.range objectives.length, 0 < objectives.getD i 0 := fun i hi =>
    hobjectives _ (getD_mem hi)
  have htotal : 0 < ∑ i ∈ Finset.range objectives.length, weights.getD i 0 := by
    rwa [hlength, sum_getD]
  have hmean : combineProduct Powers.real weights objectives ≤ combineSum weights objectives := by
    rw [combineProduct_eq, combineSum_eq, one_div]
    exact Real.geom_mean_le_arith_mean _ _ _ hw htotal fun i hi => (hz i hi).le
  obtain ⟨least, hleast, greatest, hgreatest, hbounds⟩ := exists_bounds hne
  refine ⟨_, _, combine_eq objectives hlength,
    (combine_eq objectives hlength).trans (congrArg _ (combineLog_eq weights objectives hz)),
    combine_eq objectives hlength, hmean, least, hleast, greatest, hgreatest, hbounds, ?_, ?_⟩
  · rw [combineProduct_eq]
    exact le_geom_mean (hobjectives least hleast) (fun i hi => (hbounds _ (getD_mem hi)).1) hw
      htotal
  · apply hmean.trans
    rw [combineSum_eq]
    exact arith_mean_le (fun i hi => (hbounds _ (getD_mem hi)).2) hw htotal

theorem combine_agree_two :
    ∃ value mean,
      combine Powers.real [1, 4] ⟨.product, [1, 3]⟩ = .ok value ∧
      combine Powers.real [1, 4] ⟨.log, [1, 3]⟩ = .ok value ∧
      combine Powers.real [1, 4] ⟨.sum, [1, 3]⟩ = .ok mean ∧ value ≤ mean ∧
      ∃ least ∈ [(1 : ℝ), 4], ∃ greatest ∈ [(1 : ℝ), 4],
        (∀ objective ∈ [(1 : ℝ), 4], least ≤ objective ∧ objective ≤ greatest) ∧
        least ≤ value ∧ value ≤ greatest :=
  combine_agree [1, 3] [1, 4] rfl (by simp) (by simp) (by simp; norm_num)

end CombineObjectives
end Gripperz.Math
