import Gripperz.Library.Rounds
import Gripperz.Library.Spanning
import Gripperz.Math.Coordinates
import Gripperz.Optimization.PowellOptimizer

/-! # Powell's directions stay independent

A round scales one direction by a factor that is not zero. At the end of the set the directions
are reordered and one of them gives way to the mean of all. None of this changes what the
directions span, so there are always as many as the dimension and they span the space.
-/
namespace Gripperz.Optimization.PowellOptimizer
open Library Math

variable {R V : Type} [Field R] [LinearOrder R] [LinearOrder V]

/-- The state before the first round. -/
def start (config : Configuration R) (initialGuess : List R) (best_value : V) : State R V :=
  let dim := initialGuess.length
  { current_guess := .fromStdVector initialGuess, best_value := best_value,
    dir_set := (List.range dim).map fun i => (Q.fill dim 0).set i config.rho_0,
    dir_idx := 0, fev := 1, stop := false }

/-- `minimize` is a loop from this state. -/
theorem minimize_eq (config : Configuration R) {norm2 : Q R → R}
    (srt : StdSort (directionComp norm2)) (initialGuess : List R) (fuel : ℕ) :
    (minimize config srt initialGuess fuel : Query (List R) V (Option (List R))) =
      (do
        let best_value ← Query.question initialGuess
        if initialGuess.length = 0 then pure none
        else
          let last ← Query.doWhile (round config srt initialGuess.length) (fun s => !s.stop) fuel
            (start config initialGuess best_value)
          pure (last.map fun s => s.current_guess.toStdVector initialGuess.length)) := rfl

/-- The states of the loop of `minimize`, whatever the objective answers. -/
def Reached (config : Configuration R) {norm2 : Q R → R} (srt : StdSort (directionComp norm2))
    (initialGuess : List R) (s : State R V) : Prop :=
  ∃ best_value, Query.Rounds (round config srt initialGuess.length) (fun s => !s.stop)
    (start config initialGuess best_value) s

/-- What `minimize` returns is the guess of one of them. -/
theorem reached_of_minimize {config : Configuration R} {norm2 : Q R → R}
    {srt : StdSort (directionComp norm2)} {initialGuess x : List R} {fuel : ℕ}
    (h : Query.Yields (minimize config srt initialGuess fuel : Query (List R) V _) (some x)) :
    ∃ s : State R V, Reached config srt initialGuess s ∧
      x = s.current_guess.toStdVector initialGuess.length := by
  rw [minimize_eq] at h
  obtain ⟨best_value, -, h⟩ := Query.yields_bind.mp h
  split at h
  · cases Query.yields_pure.mp h
  obtain ⟨last, hlast, h⟩ := Query.yields_bind.mp h
  cases last with
  | none => cases Query.yields_pure.mp h
  | some s =>
    cases Query.yields_pure.mp h
    exact ⟨s, ⟨best_value, Query.rounds_of_doWhile hlast⟩, rfl⟩

/-- The directions, as vectors of the space. -/
def directions (dim : ℕ) (dir_set : List (Q R)) : List (Fin dim → R) := dir_set.map (Q.vec dim)

/-- As many directions as the dimension, which span the space and are linearly independent. -/
structure Complete (dim : ℕ) (dir_set : List (Q R)) : Prop where
  count : dir_set.length = dim
  size : ∀ dir ∈ dir_set, dir.size = dim
  spans : Spans R (directions dim dir_set)
  independent : LinearIndependent R (directions dim dir_set).get

omit [LinearOrder R] in
theorem Complete.of_spans {dim : ℕ} {dir_set : List (Q R)} (count : dir_set.length = dim)
    (size : ∀ dir ∈ dir_set, dir.size = dim) (spans : Spans R (directions dim dir_set)) :
    Complete dim dir_set :=
  ⟨count, size, spans, spans.linearIndependent (by simpa [directions] using count)⟩

omit [LinearOrder R] in
/-- A direction is scaled. -/
theorem Complete.scale {dim : ℕ} {dir_set : List (Q R)} (h : Complete dim dir_set) {c : R}
    (hc : c ≠ 0) (i : ℕ) :
    Complete dim (dir_set.set i (c * dir_set.getD i (.fill dim 0))) := by
  by_cases hi : i < dir_set.length
  · have hget : dir_set.getD i (.fill dim 0) = dir_set[i] := by
      rw [List.getD_eq_getElem?_getD, List.getElem?_eq_getElem hi, Option.getD_some]
    rw [hget]
    apply Complete.of_spans
    · rw [List.length_set, h.count]
    · intro dir hdir
      rcases List.mem_or_eq_of_mem_set hdir with hdir | rfl
      · exact h.size dir hdir
      · rw [Q.size_smul]
        exact h.size _ (List.getElem_mem hi)
    · have hi' : i < (directions dim dir_set).length := by simpa [directions] using hi
      have hvec : directions dim (dir_set.set i (c * dir_set[i])) =
          (directions dim dir_set).set i (c • (directions dim dir_set)[i]) := by
        simp [directions, List.map_set]
      rw [hvec]
      exact h.spans.set_smul hc hi'
  · rw [List.set_eq_of_length_le (not_lt.mp hi)]
    exact h

omit [LinearOrder R] [LinearOrder V] in
/-- The initial directions are multiples of the unit vectors. -/
theorem complete_start (config : Configuration R) (hrho : config.rho_0 ≠ 0)
    (initialGuess : List R) (best_value : V) :
    Complete initialGuess.length (start config initialGuess best_value).dir_set := by
  set dim := initialGuess.length
  apply Complete.of_spans
  · simp [start, dim]
  · intro dir hdir
    obtain ⟨i, -, rfl⟩ := List.mem_map.mp hdir
    rw [Q.size_set, Q.size_fill]
  · apply spans_of_single
    intro i
    refine ⟨config.rho_0, hrho, List.mem_map.mpr ⟨_, List.mem_map.mpr
      ⟨i, List.mem_range.mpr i.2, rfl⟩, ?_⟩⟩
    ext j
    change ((Q.fill dim 0).set i config.rho_0).get j =
      config.rho_0 * (Pi.single i 1 : Fin dim → R) j
    by_cases hij : i = j
    · subst hij
      rw [Q.get_set_self _ _ (by simp [dim]), Pi.single_eq_same, mul_one]
    · rw [Q.get_set_ne _ _ (fun h => hij (Fin.ext h)), Q.get_fill _ j.2,
        Pi.single_eq_of_ne (Ne.symm hij), mul_zero]

/-- A round scales a direction and may renew the set. -/
theorem yields_round {config : Configuration R} {norm2 : Q R → R}
    {srt : StdSort (directionComp norm2)} {dim : ℕ} {s t : State R V}
    (h : Query.Yields (round config srt dim s) t) :
    ∃ factor, (factor = config.kSuccessful ∨ factor = config.kUnsuccesful) ∧
      (t.dir_set = s.dir_set.set s.dir_idx (factor * s.dir_set.getD s.dir_idx (.fill dim 0)) ∨
        t.dir_set = renewDirections srt dim
          (s.dir_set.set s.dir_idx (factor * s.dir_set.getD s.dir_idx (.fill dim 0)))) := by
  obtain ⟨p, -, h⟩ := Query.yields_bind.mp h
  cases Query.yields_pure.mp h
  exact ⟨_, ite_eq_or_eq p.success _ _, (ite_eq_or_eq _ _ _).symm⟩

section
variable [IsStrictOrderedRing R]

/-- The directions are reordered and the longest gives way to the mean. -/
theorem Complete.renew {norm2 : Q R → R} (srt : StdSort (directionComp norm2)) {dim : ℕ}
    {dir_set : List (Q R)} (h : Complete dim dir_set) (hdim : dim ≠ 0) :
    Complete dim (renewDirections srt dim dir_set) := by
  have hcount : (srt.sort dir_set).length = dim := by rw [srt.length_sort, h.count]
  have hn : ((srt.sort dir_set).length : R)⁻¹ ≠ 0 := by
    rw [hcount]
    exact inv_ne_zero (Nat.cast_ne_zero.mpr hdim)
  apply Complete.of_spans
  · simp only [renewDirections, List.length_append, List.length_dropLast, hcount,
      List.length_singleton]
    omega
  · intro dir hdir
    rcases List.mem_append.mp hdir with hdir | hdir
    · exact h.size dir (srt.mem_sort.mp (List.dropLast_subset _ hdir))
    · rw [List.mem_singleton.mp hdir, Q.size_div]
      exact (Q.size_foldl_add _ (fun dir => dir) _).trans (Q.size_fill _ _)
  · have hvec : directions dim (renewDirections srt dim dir_set) =
        (directions dim (srt.sort dir_set)).dropLast ++
          [((srt.sort dir_set).length : R)⁻¹ • (directions dim (srt.sort dir_set)).sum] := by
      simp only [directions, renewDirections, List.map_append, List.map_singleton, Q.vec_div,
        List.map_dropLast]
      rw [Q.vec_foldl_add (srt.sort dir_set) (fun dir => dir) le_rfl]
    rw [hvec]
    exact (h.spans.perm ((srt.perm dir_set).map _)).replace_last hn

/-- In every state of the loop there are as many directions as the dimension, and they are
linearly independent and span the space. -/
theorem directions_complete (config : Configuration R) {norm2 : Q R → R}
    (srt : StdSort (directionComp norm2)) (initialGuess : List R) (hguess : initialGuess ≠ [])
    (hrho : config.rho_0 ≠ 0) (hsuccessful : config.kSuccessful ≠ 0)
    (hunsuccesful : config.kUnsuccesful ≠ 0) {s : State R V}
    (h : Reached config srt initialGuess s) : Complete initialGuess.length s.dir_set := by
  obtain ⟨best_value, hrounds⟩ := h
  have hdim : initialGuess.length ≠ 0 := fun h => hguess (List.length_eq_zero_iff.mp h)
  apply hrounds.invariant fun s => Complete initialGuess.length s.dir_set
  · intro s t hs ht
    obtain ⟨factor, hfactor, hdirs⟩ := yields_round ht
    have hne : factor ≠ 0 := by
      rcases hfactor with rfl | rfl
      · exact hsuccessful
      · exact hunsuccesful
    have hscaled := hs.scale hne s.dir_idx
    rcases hdirs with hdirs | hdirs
    · exact hdirs ▸ hscaled
    · exact hdirs ▸ hscaled.renew srt hdim
  · exact complete_start config hrho initialGuess best_value

end

/-- The coordinate of a line, taken for its length. -/
def Sample.first (q : Q ℚ) : ℚ := q.get 0

theorem directions_complete_plane :
    Complete 2 ((round default (StdSort.stable Sample.first) 2 (start default [0, 0] (0 : ℚ))).exec
      (fun _ => 0)).1.dir_set :=
  directions_complete default (StdSort.stable Sample.first) [0, 0] (by decide)
    (by decide +kernel) (by decide +kernel) (by decide +kernel) ⟨0, .last (Query.yields_exec _ _)⟩

end Gripperz.Optimization.PowellOptimizer
