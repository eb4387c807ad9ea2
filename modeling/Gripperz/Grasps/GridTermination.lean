import Gripperz.Grasps.GraspGridFilter
import Gripperz.Library.FloatNumbers

/-! # When the grid filter returns

The loop over a dimension counts in `double`. It ends when its step moves every number between
the limits upwards, and it never does when one of them is left where it is by the rounding.
-/
namespace Gripperz.Grasps.GraspGridFilter
open Math Library FloatFormat

variable {G V : Type} [Group G] [AddCommGroup V] [DistribMulAction G V]
  (build : FromNumbers binary64.Number G V) (null : ResultPtr)
  {f : GraspGridFilter binary64.Number}

/-- `makeGrid` returns, and what it returns holds a target. -/
def Returns (f : GraspGridFilter binary64.Number) (seed : GraspTarget G V) : Prop :=
  ∃ grid, grid ≠ [] ∧
    ∃ enough, ∀ fuel, enough ≤ fuel → f.makeGrid build null fuel seed = .ok grid

/-- The loop over a dimension starts, and each number within the limits is moved upwards by the
step. From minus infinity one step is the last. -/
def AdvancesIn (f : GraspGridFilter binary64.Number) (i : ℕ) : Prop :=
  f.minAt i ≤ f.maxAt i + 1e-6 ∧ (f.minAt i = .infinite true ∨
    ∀ y, f.minAt i ≤ y → y ≤ f.maxAt i + 1e-6 → ¬ y + f.dxi i ≤ y)

def Advances (f : GraspGridFilter binary64.Number) : Prop :=
  ∀ i < 6, 1 < f.resAt i → f.AdvancesIn i

/-- The loop over a dimension gives a value only if it advances. -/
theorem advancesIn_of_values {fuel i : ℕ} {xs : List binary64.Number}
    (h : f.values fuel i = .ok xs) (hne : xs ≠ []) : f.AdvancesIn i := by
  unfold values at h
  cases hsweep : sweep (f.maxAt i + 1e-6) (f.dxi i) fuel (f.minAt i) with
  | none =>
    rw [hsweep] at h
    cases h
  | some ys =>
    rw [hsweep] at h
    cases h
    have hstart : f.minAt i ≤ f.maxAt i + 1e-6 := by
      by_contra hnot
      exact hne (sweep_of_not_le hnot hsweep)
    refine ⟨hstart, ?_⟩
    by_contra hstuck
    push Not at hstuck
    obtain ⟨hfinite, y, hlow, hhigh, hstuck⟩ := hstuck
    have hwithin : ∀ x, x ≤ y ∧ x + f.dxi i ≠ .nan → x ≤ f.maxAt i + 1e-6 :=
      fun x hx => Number.le_trans hx.1 hhigh
    have hnever := sweep_of_stuck hwithin (fun x hx => Number.stuck_step hstuck hx)
      ⟨hlow, Number.add_ne_nan_of_le hlow hfinite hstuck.1⟩ fuel
    rw [hnever] at hsweep
    cases hsweep

variable {build null}

theorem advancesIn_of_makeOneDimension {fuel i : ℕ} {seeds targets : List (GraspTarget G V)}
    (h : f.makeOneDimension build null fuel seeds i = .ok targets) (hne : targets ≠ []) :
    seeds ≠ [] ∧ (1 < f.resAt i → f.AdvancesIn i) := by
  unfold makeOneDimension at h
  split at h
  · cases h
  · split at h
    · rename_i hres
      cases h
      exact ⟨hne, fun hlt => absurd hres (not_le.mpr hlt)⟩
    · have hseeds : seeds ≠ [] := by
        rintro rfl
        cases h
        exact hne rfl
      refine ⟨hseeds, fun hres => ?_⟩
      cases hvalues : f.values fuel i with
      | error e =>
        obtain ⟨seed, rest, rfl⟩ := List.exists_cons_of_ne_nil hseeds
        rw [hvalues] at h
        cases h
      | ok xs =>
        apply advancesIn_of_values hvalues
        rintro rfl
        rw [hvalues] at h
        change (seeds.mapM fun _ => (pure [] : Except GridError _)).map List.flatten = _ at h
        rw [List.mapM_pure] at h
        cases h
        simp at hne

theorem advancesIn_of_foldlM {fuel : ℕ} {dims : List ℕ} {seeds targets : List (GraspTarget G V)}
    (h : dims.foldlM (f.makeOneDimension build null fuel) seeds = .ok targets)
    (hne : targets ≠ []) :
    seeds ≠ [] ∧ ∀ i ∈ dims, 1 < f.resAt i → f.AdvancesIn i := by
  induction dims generalizing seeds with
  | nil =>
    cases h
    exact ⟨hne, by simp⟩
  | cons i dims ih =>
    rw [List.foldlM_cons] at h
    cases hfirst : f.makeOneDimension build null fuel seeds i with
    | error e =>
      rw [hfirst] at h
      cases h
    | ok next =>
      rw [hfirst] at h
      obtain ⟨hnext, hrest⟩ := ih h
      obtain ⟨hseeds, hlimits⟩ := advancesIn_of_makeOneDimension hfirst hnext
      refine ⟨hseeds, ?_⟩
      intro j hj
      rcases List.mem_cons.mp hj with rfl | hj
      · exact hlimits
      · exact hrest j hj

theorem advances_of_returns (hsized : f.Sized) {seed : GraspTarget G V}
    (h : f.Returns build null seed) : f.Advances := by
  obtain ⟨grid, hne, enough, hgrid⟩ := h
  have hlast := hgrid enough le_rfl
  unfold makeGrid at hlast
  rw [if_neg (not_not.mpr hsized.min), if_neg (not_not.mpr hsized.max),
    if_neg (not_not.mpr hsized.res)] at hlast
  intro i hi
  exact (advancesIn_of_foldlM hlast hne).2 i (List.mem_range.mpr hi)

variable (build null) in
theorem oneDimension_ne_nil {xs : List binary64.Number} (hxs : xs ≠ [])
    {seeds : List (GraspTarget G V)} (hseeds : seeds ≠ []) (i : ℕ) :
    f.oneDimension build null xs seeds i ≠ [] := by
  unfold oneDimension
  split
  · exact hseeds
  · obtain ⟨seed, rest, rfl⟩ := List.exists_cons_of_ne_nil hseeds
    simp [hxs]

variable (build null) in
theorem grid_ne_nil {xs : ℕ → List binary64.Number} (hxs : ∀ i, xs i ≠ [])
    (seed : GraspTarget G V) : f.grid build null xs seed ≠ [] := by
  have hfold (dims : List ℕ) {seeds : List (GraspTarget G V)} (hseeds : seeds ≠ []) :
      dims.foldl (fun seeds i => f.oneDimension build null (xs i) seeds i) seeds ≠ [] := by
    induction dims generalizing seeds with
    | nil => exact hseeds
    | cons i dims ih => exact ih (oneDimension_ne_nil build null (hxs i) hseeds i)
  exact hfold _ (List.cons_ne_nil _ _)

theorem intCast_eq {n : ℤ} (h : 1 ≤ n) : (n : binary64.Number) = .infinite false ∨
    ∃ x : binary64.Value, (n : binary64.Number) = .finite x ∧ 1 ≤ x.value := by
  have hone : binary64.round 1 = 1 := by decide +kernel
  have hcast : (1 : ℚ) ≤ n := by exact_mod_cast h
  rw [show (n : binary64.Number) = Number.ofRat n from rfl, Number.ofRat]
  cases hround : (ofRat? (n : ℚ) : Option binary64.Value) with
  | none =>
    have hsign : ¬ (n : ℚ) < 0 := by linarith
    exact Or.inl (by simp only [hsign, decide_false])
  | some x =>
    refine Or.inr ⟨x, rfl, ?_⟩
    rw [← round_eq_of_ofRat? hround, ← hone]
    exact round_mono hcast

/-- One step from minus infinity leads to no number. -/
theorem infinite_add_dxi {i : ℕ} (hres : 1 < f.resAt i) (hmin : f.minAt i = .infinite true) :
    f.minAt i + f.dxi i = .nan := by
  have hdxi : f.dxi i = .nan ∨ f.dxi i = .infinite false := by
    rw [dxi, hmin]
    rcases intCast_eq (show 1 ≤ f.resAt i - 1 by omega) with hn | ⟨x, hn, hx⟩
    · rw [hn]
      cases f.maxAt i with
      | nan => exact Or.inl rfl
      | infinite a => cases a <;> exact Or.inl rfl
      | finite y => exact Or.inl rfl
    · have hne : x.value ≠ 0 := by linarith
      have hpos : ¬ x.value < 0 := by linarith
      have hquotient : (.infinite false / .finite x : binary64.Number) = .infinite false := by
        change (if x.value = 0 then _ else Number.infinite (false.xor (x.value < 0))) = _
        simp [hne, hpos]
      rw [hn]
      cases f.maxAt i with
      | nan => exact Or.inl rfl
      | infinite a =>
        cases a with
        | true => exact Or.inl rfl
        | false => exact Or.inr hquotient
      | finite y => exact Or.inr hquotient
  rw [hmin]
  rcases hdxi with hdxi | hdxi <;> rw [hdxi] <;> rfl

/-- A loop that advances ends and gives a value. -/
theorem exists_values {i : ℕ} (hres : 1 < f.resAt i) (h : f.AdvancesIn i) :
    ∃ xs, xs ≠ [] ∧ ∃ enough, ∀ fuel, enough ≤ fuel → f.values fuel i = .ok xs := by
  obtain ⟨hstart, hmin | hadvances⟩ := h
  · have hnext : ¬ f.minAt i + f.dxi i ≤ f.maxAt i + 1e-6 := by
      rw [infinite_add_dxi hres hmin]
      exact Number.not_nan_le
    refine ⟨[f.minAt i], List.cons_ne_nil _ _, 2, fun fuel hfuel => ?_⟩
    rw [values, sweep_of_not_next hstart hnext hfuel]
  · have hgrows : ∀ x, f.minAt i ≤ x → x ≤ f.maxAt i + 1e-6 →
        x + f.dxi i ≤ f.maxAt i + 1e-6 →
          Number.Less x (x + f.dxi i) ∧ f.minAt i ≤ x + f.dxi i := by
      intro x hlow hhigh hnext
      have hup := hadvances x hlow hhigh
      have hle := Number.le_of_not_le hnext.1 hhigh.1 hup
      exact ⟨⟨hle, hup⟩, Number.le_trans hlow hle⟩
    obtain ⟨xs, hxs, enough, hsweep⟩ :=
      exists_sweep_of_grows hgrows ⟨hstart.1, hstart.1, le_rfl⟩ hstart
    refine ⟨xs, hxs, enough, fun fuel hfuel => ?_⟩
    rw [values, hsweep fuel hfuel]

/-- The loop advances with a step of more than half a digit of a place, when the numbers between
the limits have no digits past those of the place. -/
theorem advancesIn_of_coarse {i : ℕ} (low high d : binary64.Value) (e : ℤ)
    (hmin : .finite low ≤ f.minAt i) (hmax : f.maxAt i + 1e-6 ≤ .finite high)
    (hstart : f.minAt i ≤ f.maxAt i + 1e-6) (hdxi : f.dxi i = .finite d) (he : -1074 ≤ e)
    (hlow : -2 ^ (e + 53) < low.value + d.value) (hhigh : high.value + d.value < 2 ^ (e + 53))
    (hd : 2 ^ e < 2 * d.value) : f.AdvancesIn i := by
  refine ⟨hstart, Or.inr fun y hy hlast => ?_⟩
  have hfrom := Number.le_trans hmin hy
  have hto := Number.le_trans hlast hmax
  rw [hdxi]
  cases y with
  | nan => exact absurd hto Number.not_nan_le
  | infinite a =>
    cases a with
    | true => exact absurd hfrom.2.2 (by simp [Number.extended])
    | false => cases Number.eq_infinite_of_le hto
  | finite y =>
    rw [Number.finite_le_finite] at hfrom hto
    apply Number.not_add_le he _ hd
    change |y.value + d.value| < 2 ^ (e + 53)
    rw [abs_lt]
    constructor <;> linarith

variable (build null) in
/-- `makeGrid` returns a target exactly when the loops of the dimensions with a resolution
advance. -/
theorem returns_iff (hsized : f.Sized) (seed : GraspTarget G V) :
    f.Returns build null seed ↔ f.Advances := by
  constructor
  · exact advances_of_returns hsized
  · intro hadvances
    have hexists (i : ℕ) : ∃ xs : List binary64.Number, xs ≠ [] ∧ ∃ enough, i < 6 →
        1 < f.resAt i → ∀ fuel, enough ≤ fuel → f.values fuel i = .ok xs := by
      by_cases h : i < 6 ∧ 1 < f.resAt i
      · obtain ⟨xs, hxs, enough, hvalues⟩ := exists_values h.2 (hadvances i h.1 h.2)
        exact ⟨xs, hxs, enough, fun _ _ => hvalues⟩
      · exact ⟨[0], List.cons_ne_nil _ _, 0, fun hi hres => absurd ⟨hi, hres⟩ h⟩
    choose xs hxs enough hvalues using hexists
    refine ⟨f.grid build null xs seed, grid_ne_nil build null hxs seed,
      ((List.range 6).map enough).sum, ?_⟩
    intro fuel hfuel
    apply makeGrid_eq build null hsized
    intro i hi hres
    apply hvalues i hi hres
    have hmem : enough i ∈ (List.range 6).map enough :=
      List.mem_map_of_mem (List.mem_range.mpr hi)
    exact (List.single_le_sum (fun _ _ => Nat.zero_le _) _ hmem).trans hfuel

namespace Sample

/-- Limits given by rational numbers. -/
def between (min max : List ℚ) (res : List ℤ) : GraspGridFilter binary64.Number :=
  ⟨min.map Number.ofRat, max.map Number.ofRat, res⟩

def value (y : ℚ) (h : binary64.round y = y ∧ |y| ≤ binary64.largest) : binary64.Value :=
  ⟨y, h.1, h.2⟩

def doubles : FromNumbers binary64.Number ℤˣ ℚ := ⟨fun _ _ _ => 0, fun _ _ _ => 1, fun _ _ _ => 1⟩

end Sample

/-- A grid in two dimensions. -/
theorem returns_iff_plane : (Sample.between [0, 0, 0, 0, 0, 0] [1, 1, 0, 0, 0, 0]
    [2, 3, 1, 1, 1, 1]).Returns Sample.doubles 0 Sample.seed := by
  apply (returns_iff Sample.doubles 0 ⟨rfl, rfl, rfl⟩ Sample.seed).mpr
  intro i hi hres
  interval_cases i
  · exact advancesIn_of_coarse (Sample.value 0 (by decide +kernel))
      (Sample.value 2 (by decide +kernel)) (Sample.value 1 (by decide +kernel)) 0
      (by decide +kernel) (by decide +kernel) (by decide +kernel) (by decide +kernel)
      (by decide) (by norm_num [Sample.value]) (by norm_num [Sample.value])
      (by norm_num [Sample.value])
  · exact advancesIn_of_coarse (Sample.value 0 (by decide +kernel))
      (Sample.value 2 (by decide +kernel)) (Sample.value (1 / 2) (by decide +kernel)) (-1)
      (by decide +kernel) (by decide +kernel) (by decide +kernel) (by decide +kernel)
      (by decide) (by norm_num [Sample.value]) (by norm_num [Sample.value])
      (by norm_num [Sample.value])
  all_goals exact absurd hres (by decide)

/-- Equal limits, limits the other way around, and a step lost in the rounding. -/
theorem not_returns_unchecked :
    ¬ (Sample.between [0, 0, 0, 0, 0, 0] [0, 0, 0, 0, 0, 0] [2, 1, 1, 1, 1, 1]).Returns
        Sample.doubles 0 Sample.seed ∧
      ¬ (Sample.between [1, 0, 0, 0, 0, 0] [0, 0, 0, 0, 0, 0] [2, 1, 1, 1, 1, 1]).Returns
        Sample.doubles 0 Sample.seed ∧
      ¬ (Sample.between [10 ^ 17, 0, 0, 0, 0, 0] [10 ^ 17 + 64, 0, 0, 0, 0, 0]
        [1000, 1, 1, 1, 1, 1]).Returns Sample.doubles 0 Sample.seed := by
  refine ⟨fun h => ?_, fun h => ?_, fun h => ?_⟩
  · obtain ⟨-, hmin | hup⟩ := advances_of_returns ⟨rfl, rfl, rfl⟩ h 0 (by decide) (by decide)
    · revert hmin
      decide +kernel
    · exact hup (Number.ofRat 0) (by decide +kernel) (by decide +kernel) (by decide +kernel)
  · obtain ⟨hstart, -⟩ := advances_of_returns ⟨rfl, rfl, rfl⟩ h 0 (by decide) (by decide)
    revert hstart
    decide +kernel
  · obtain ⟨-, hmin | hup⟩ := advances_of_returns ⟨rfl, rfl, rfl⟩ h 0 (by decide) (by decide)
    · revert hmin
      decide +kernel
    · exact hup (Number.ofRat (10 ^ 17)) (by decide +kernel) (by decide +kernel) (by decide +kernel)

end Gripperz.Grasps.GraspGridFilter
