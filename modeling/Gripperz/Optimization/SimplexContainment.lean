import Gripperz.Library.Hulls
import Gripperz.Library.Rounds
import Gripperz.Optimization.SimplexOptimizer

/-! # What becomes of the simplex

A contraction puts the worst vertex halfway to the centroid, inside the simplex. A reduction moves
every vertex away from the best, out of the simplex, unless all vertices are one point; and they
are one point in every round or in none, by the size of the initial simplex.
-/
namespace Gripperz.Optimization.SimplexOptimizer
open Library Math

variable {R V : Type} [Field R]

/-! ## Points on the line through the centroid -/

/-- The point at `k` on the line from the worst vertex through the centroid. -/
def linePoint (k : R) (s : Simplex R V) : Q R :=
  getCentroid s.vertices + k * (getCentroid s.vertices - s.back.1)

/-- The point of a reduction. -/
def reducedPoint (s : Simplex R V) (v : Vertex R V) : Q R :=
  s.front.1 + (kReduction : R) * (s.front.1 - v.1)

/-- A vertex for each dimension and one more, with all their coordinates. -/
structure Shaped (dim : ℕ) (s : Simplex R V) : Prop where
  count : s.vertices.length = dim + 1
  size : ∀ v ∈ s.vertices, dim ≤ v.1.size

/-- The vertices are one point, read on the first coordinates. -/
def Collapsed (dim : ℕ) (s : Simplex R V) : Prop :=
  ∀ v ∈ s.vertices, ∀ w ∈ s.vertices, v.1.vec dim = w.1.vec dim

section
variable {dim : ℕ} {s : Simplex R V}

omit [Field R] in
theorem back_mem (s : Simplex R V) : s.back ∈ s.vertices := by
  rw [← s.vertices_eq]
  exact List.mem_append_right _ (List.mem_singleton_self _)

omit [Field R] in
theorem Shaped.front_mem (h : Shaped dim s) (hdim : dim ≠ 0) :
    s.front ∈ s.vertices.dropLast := by
  have hcount := h.count
  obtain ⟨front, rest⟩ := s
  cases rest with
  | nil =>
    simp only [Simplex.vertices, List.length_singleton] at hcount
    omega
  | cons w ws => simp [Simplex.vertices]

omit [Field R] in
theorem Shaped.length_dropLast (h : Shaped dim s) : s.vertices.dropLast.length = dim := by
  rw [List.length_dropLast, h.count, Nat.add_sub_cancel]

theorem Shaped.centroid (h : Shaped dim s) : (getCentroid s.vertices).vec dim =
    (dim : R)⁻¹ • (s.vertices.dropLast.map fun v => v.1.vec dim).sum := by
  have hsize : dim ≤ s.vertices.length := by
    have hcount := h.count
    omega
  simp only [getCentroid, Q.vec_div]
  rw [Q.vec_foldl_add _ Prod.fst hsize, h.count, Nat.add_sub_cancel]

theorem Shaped.linePoint (h : Shaped dim s) (k : R) : (linePoint k s).vec dim =
    (getCentroid s.vertices).vec dim +
      k • ((getCentroid s.vertices).vec dim - s.back.1.vec dim) := by
  have hsize : dim ≤ (getCentroid s.vertices).size := by
    rw [size_getCentroid, h.count]
    omega
  simp only [SimplexOptimizer.linePoint, Q.vec_add hsize, Q.vec_smul, Q.vec_sub hsize]

theorem Shaped.reducedPoint (h : Shaped dim s) (v : Vertex R V) : (reducedPoint s v).vec dim =
    s.front.1.vec dim + (kReduction : R) • (s.front.1.vec dim - v.1.vec dim) := by
  have hsize : dim ≤ s.front.1.size := h.size s.front List.mem_cons_self
  simp only [SimplexOptimizer.reducedPoint, Q.vec_add hsize, Q.vec_smul, Q.vec_sub hsize]

/-- When the other vertices are one point, it is their centroid. -/
theorem Shaped.centroid_eq [CharZero R] (h : Shaped dim s) (hdim : dim ≠ 0) {x : Fin dim → R}
    (hx : ∀ v ∈ s.vertices.dropLast, v.1.vec dim = x) :
    (getCentroid s.vertices).vec dim = x := by
  have hmap : (s.vertices.dropLast.map fun v => v.1.vec dim) = List.replicate dim x := by
    rw [List.map_congr_left hx, List.map_const', h.length_dropLast]
  rw [h.centroid, hmap, List.sum_replicate, ← Nat.cast_smul_eq_nsmul R,
    inv_smul_smul₀ (Nat.cast_ne_zero.mpr hdim)]

omit [Field R] in
theorem Shaped.setBack (h : Shaped dim s) {q : Q R} (hq : dim ≤ q.size) (value : V) :
    Shaped dim (s.setBack (q, value)) := by
  constructor
  · rw [Simplex.vertices_setBack, List.length_append, h.length_dropLast, List.length_singleton]
  · rw [Simplex.vertices_setBack]
    exact List.forall_mem_append.mpr
      ⟨fun v hv => h.size v (List.dropLast_subset _ hv), List.forall_mem_singleton.mpr hq⟩

theorem Shaped.size_linePoint (h : Shaped dim s) (k : R) :
    dim ≤ (SimplexOptimizer.linePoint k s).size := by
  rw [SimplexOptimizer.linePoint, Q.size_add, size_getCentroid, h.count]
  omega

/-- Moving the worst vertex along the line neither makes the vertices one point nor parts them. -/
theorem Shaped.collapsed_setBack [CharZero R] (h : Shaped dim s) (hdim : dim ≠ 0) {k : R}
    (hk : k ≠ 0) (value : V) :
    Collapsed dim (s.setBack (SimplexOptimizer.linePoint k s, value)) ↔ Collapsed dim s := by
  have hfront := h.front_mem hdim
  have hmem (v : Vertex R V) : v ∈ s.vertices ↔ v ∈ s.vertices.dropLast ∨ v = s.back := by
    conv_lhs => rw [← s.vertices_eq]
    rw [List.mem_append, List.mem_singleton]
  have hnew : (s.setBack (SimplexOptimizer.linePoint k s, value)).vertices =
      s.vertices.dropLast ++ [(SimplexOptimizer.linePoint k s, value)] :=
    Simplex.vertices_setBack s _
  constructor
  · intro hone
    have hothers : ∀ v ∈ s.vertices.dropLast, v.1.vec dim = s.front.1.vec dim := fun v hv =>
      hone v (hnew ▸ List.mem_append_left _ hv) s.front (hnew ▸ List.mem_append_left _ hfront)
    have hpoint := hone _ (hnew ▸ List.mem_append_right _ (List.mem_singleton_self _)) s.front
      (hnew ▸ List.mem_append_left _ hfront)
    rw [h.linePoint, h.centroid_eq hdim hothers, add_eq_left, smul_eq_zero_iff_right hk,
      sub_eq_zero] at hpoint
    have hall : ∀ v ∈ s.vertices, v.1.vec dim = s.front.1.vec dim := by
      intro v hv
      rcases (hmem v).mp hv with hv | rfl
      · exact hothers v hv
      · exact hpoint.symm
    exact fun v hv w hw => (hall v hv).trans (hall w hw).symm
  · intro hone
    have hothers : ∀ v ∈ s.vertices.dropLast, v.1.vec dim = s.back.1.vec dim := fun v hv =>
      hone v ((hmem v).mpr (Or.inl hv)) s.back (back_mem s)
    have hpoint : (SimplexOptimizer.linePoint k s).vec dim = s.back.1.vec dim := by
      rw [h.linePoint, h.centroid_eq hdim hothers, sub_self, smul_zero, add_zero]
    have hall : ∀ v ∈ (s.setBack (SimplexOptimizer.linePoint k s, value)).vertices,
        v.1.vec dim = s.back.1.vec dim := by
      rw [hnew]
      exact List.forall_mem_append.mpr ⟨hothers, List.forall_mem_singleton.mpr hpoint⟩
    exact fun v hv w hw => (hall v hv).trans (hall w hw).symm

/-- The vertices but the best have gone to their points of a reduction. -/
def Reduced (s : Simplex R V) (rest : List (Vertex R V)) : Prop :=
  List.Forall₂ (fun v w => w.1 = SimplexOptimizer.reducedPoint s v) s.rest rest

theorem exists_of_forall₂ {α β : Type} {r : α → β → Prop} {l : List α} {l' : List β}
    (h : List.Forall₂ r l l') : ∀ b ∈ l', ∃ a ∈ l, r a b := by
  induction h with
  | nil => simp
  | cons hr _ ih =>
    intro b hb
    rcases List.mem_cons.mp hb with rfl | hb
    · exact ⟨_, List.mem_cons_self, hr⟩
    · obtain ⟨a, ha, hab⟩ := ih b hb
      exact ⟨a, List.mem_cons_of_mem _ ha, hab⟩

theorem collapsed_iff_front : Collapsed dim s ↔ ∀ v ∈ s.rest, v.1.vec dim = s.front.1.vec dim := by
  constructor
  · intro hone v hv
    exact hone v (List.mem_cons_of_mem _ hv) s.front List.mem_cons_self
  · intro hrest
    have hall : ∀ v ∈ s.vertices, v.1.vec dim = s.front.1.vec dim :=
      List.forall_mem_cons.mpr ⟨rfl, hrest⟩
    exact fun v hv w hw => (hall v hv).trans (hall w hw).symm

theorem Shaped.reduce (h : Shaped dim s) {rest : List (Vertex R V)} (hrest : Reduced s rest) :
    Shaped dim (⟨s.front, rest⟩ : Simplex R V) := by
  have hfront : dim ≤ s.front.1.size := h.size s.front List.mem_cons_self
  constructor
  · rw [← h.count]
    exact congrArg (· + 1) hrest.length_eq.symm
  · refine List.forall_mem_cons.mpr ⟨hfront, fun w hw => ?_⟩
    obtain ⟨v, -, hvw⟩ := exists_of_forall₂ hrest w hw
    rw [hvw, SimplexOptimizer.reducedPoint, Q.size_add]
    exact hfront

theorem Shaped.reducedPoint_eq_iff [CharZero R] (h : Shaped dim s) (v : Vertex R V) :
    (SimplexOptimizer.reducedPoint s v).vec dim = s.front.1.vec dim ↔
      v.1.vec dim = s.front.1.vec dim := by
  have hk : (kReduction : R) ≠ 0 := by norm_num [kReduction]
  rw [h.reducedPoint, add_eq_left, smul_eq_zero_iff_right hk, sub_eq_zero, eq_comm]

theorem Shaped.collapsed_reduce [CharZero R] (h : Shaped dim s) {rest : List (Vertex R V)}
    (hrest : Reduced s rest) :
    Collapsed dim (⟨s.front, rest⟩ : Simplex R V) ↔ Collapsed dim s := by
  rw [collapsed_iff_front, collapsed_iff_front]
  constructor
  · intro hone v hv
    obtain ⟨w, hw, hvw⟩ := exists_of_forall₂ (List.Forall₂.flip hrest) v hv
    rw [← h.reducedPoint_eq_iff, ← hvw]
    exact hone w hw
  · intro hone w hw
    obtain ⟨v, hv, hvw⟩ := exists_of_forall₂ hrest w hw
    rw [hvw, h.reducedPoint_eq_iff]
    exact hone v hv

end

/-! ## The moves -/

section
variable [LinearOrder V] {dim : ℕ} {s : Simplex R V}

/-- A vertex for the worst one on the line through the centroid, or a reduction. -/
inductive Moved (s : Simplex R V) : Simplex R V → Prop where
  | line (k : R) (hk : k ≠ 0) (value : V) : Moved s (s.setBack (linePoint k s, value))
  | reduction (rest : List (Vertex R V)) (h : Reduced s rest) : Moved s ⟨s.front, rest⟩

omit [LinearOrder V] in
theorem yields_evaluateVertex {q : Q R} {v : Vertex R V}
    (h : Query.Yields (evaluateVertex dim q) v) : v.1 = q := by
  obtain ⟨value, -, h⟩ := Query.yields_bind.mp h
  cases Query.yields_pure.mp h
  rfl

theorem moved_of_yields [CharZero R] {m : Simplex R V × ℕ} (h : Query.Yields (move dim s) m) :
    Moved s m.1 := by
  obtain ⟨reflected, hreflected, h⟩ := Query.yields_bind.mp h
  obtain ⟨_, value⟩ := reflected
  cases yields_evaluateVertex hreflected
  split at h
  · obtain ⟨expanded, hexpanded, h⟩ := Query.yields_bind.mp h
    obtain ⟨_, value'⟩ := expanded
    cases yields_evaluateVertex hexpanded
    cases Query.yields_pure.mp h
    simp only
    split
    · exact .line kExpansion (by norm_num [kExpansion]) value'
    · exact .line kReflection (by norm_num [kReflection]) value
  · split at h
    · cases Query.yields_pure.mp h
      exact .line kReflection (by norm_num [kReflection]) value
    · obtain ⟨contracted, hcontracted, h⟩ := Query.yields_bind.mp h
      obtain ⟨_, value'⟩ := contracted
      cases yields_evaluateVertex hcontracted
      split at h
      · cases Query.yields_pure.mp h
        exact .line kContraction (by norm_num [kContraction]) value'
      · obtain ⟨rest, hrest, h⟩ := Query.yields_bind.mp h
        cases Query.yields_pure.mp h
        exact .reduction rest ((Query.yields_forEach hrest).imp fun _ _ => yields_evaluateVertex)

omit [LinearOrder V] in
theorem Moved.shaped {m : Simplex R V} (h : Moved s m) (hs : Shaped dim s) : Shaped dim m := by
  cases h with
  | line k hk value => exact hs.setBack (hs.size_linePoint k) value
  | reduction rest h => exact hs.reduce h

omit [LinearOrder V] in
theorem Moved.collapsed_iff [CharZero R] {m : Simplex R V} (h : Moved s m) (hs : Shaped dim s)
    (hdim : dim ≠ 0) : Collapsed dim m ↔ Collapsed dim s := by
  cases h with
  | line k hk value => exact hs.collapsed_setBack hdim hk value
  | reduction rest h => exact hs.collapsed_reduce h

omit [Field R] in
theorem Shaped.sort (srt : StdSort (vertexComp (R := R) (V := V))) (h : Shaped dim s) :
    Shaped dim (s.sort srt) := by
  constructor
  · rw [Simplex.vertices_sort, srt.length_sort, h.count]
  · intro v hv
    rw [Simplex.vertices_sort] at hv
    exact h.size v (srt.mem_sort.mp hv)

theorem collapsed_sort_iff (srt : StdSort (vertexComp (R := R) (V := V))) :
    Collapsed dim (s.sort srt) ↔ Collapsed dim s := by
  simp only [Collapsed, Simplex.vertices_sort, srt.mem_sort]

/-! ## The simplices of a run -/

/-- The state before the first round. -/
def start (srt : StdSort (vertexComp (R := R) (V := V)))
    (initialGuess : List R) (value : V) (others : List (Vertex R V)) : State R V :=
  { simplex := Simplex.sort srt ⟨(Q.fromStdVector initialGuess, value), others⟩,
    fev := .ofNat (1 + others.length), resultQ := .fill initialGuess.length 0, rho := 0 }

end

section
variable [LinearOrder R] [LinearOrder V] {config : Configuration R}
  {srt : StdSort (vertexComp (R := R) (V := V))} {norm2 : Q R → R} {initialGuess : List R}

/-- The positions of the vertices, each with the value that the objective answers. -/
def Valued (positions : List (Q R)) (vertices : List (Vertex R V)) : Prop :=
  List.Forall₂ (fun q v => v.1 = q) positions vertices

/-- The states of the loop of `minimize`, whatever the objective answers. -/
def Reached (config : Configuration R) (srt : StdSort (vertexComp (R := R) (V := V)))
    (norm2 : Q R → R) (initialGuess : List R) (s : State R V) : Prop :=
  ∃ value others,
    Valued (buildSimplex (.fromStdVector initialGuess) config.initialSize).2 others ∧
    Query.Rounds (round srt norm2 initialGuess.length)
      (fun s => decide (config.finalSize < s.rho ∧ s.fev < config.maxNOfEvaluations))
      (start srt initialGuess value others) s

/-- What `minimize` returns is the result of one of them. -/
theorem reached_of_minimize {x : List R} {fuel : ℕ}
    (h : Query.Yields (minimize config srt norm2 initialGuess fuel) (some x)) :
    ∃ s, Reached config srt norm2 initialGuess s ∧
      x = s.resultQ.toStdVector initialGuess.length := by
  obtain ⟨first, hfirst, h⟩ := Query.yields_bind.mp h
  obtain ⟨_, value⟩ := first
  cases yields_evaluateVertex hfirst
  obtain ⟨others, hothers, h⟩ := Query.yields_bind.mp h
  dsimp only at h
  split at h
  · cases Query.yields_pure.mp h
  obtain ⟨last, hlast, h⟩ := Query.yields_bind.mp h
  have hvalued := (Query.yields_forEach hothers).imp fun _ _ => yields_evaluateVertex
  cases last with
  | none => cases Query.yields_pure.mp h
  | some s =>
    cases Query.yields_pure.mp h
    exact ⟨s, ⟨value, others, hvalued, Query.rounds_of_doWhile hlast⟩, rfl⟩

omit [Field R] [LinearOrder R] [LinearOrder V] in
theorem Valued.map_fst {positions : List (Q R)} {vertices : List (Vertex R V)}
    (h : Valued positions vertices) : vertices.map Prod.fst = positions := by
  induction h with
  | nil => rfl
  | cons hv _ ih => rw [List.map_cons, hv, ih]

omit [LinearOrder R] [LinearOrder V] in
theorem vec_corner_iff {guess : Q R} {i : ℕ} (hi : i < guess.size) (size : R) :
    (guess.set i (guess.get i + size)).vec guess.size = guess.vec guess.size ↔ size = 0 := by
  constructor
  · intro h
    have hcoord := congrFun h ⟨i, hi⟩
    change (guess.set i (guess.get i + size)).get i = guess.get i at hcoord
    rwa [Q.get_set_self _ _ hi, add_eq_left] at hcoord
  · rintro rfl
    ext j
    change (guess.set i (guess.get i + 0)).get j = guess.get j
    by_cases hij : i = j
    · subst hij
      rw [Q.get_set_self _ _ hi, add_zero]
    · rw [Q.get_set_ne _ _ hij]

variable {size : R} {value : V} {others : List (Vertex R V)}

omit [LinearOrder R] in
theorem shaped_start (h : Valued (buildSimplex (.fromStdVector initialGuess) size).2 others) :
    Shaped initialGuess.length (start srt initialGuess value others).simplex := by
  apply Shaped.sort
  constructor
  · have hlength := h.length_eq
    simp only [buildSimplex, List.length_map, List.length_range, Q.size_fromStdVector] at hlength
    rw [hlength]
    rfl
  · refine List.forall_mem_cons.mpr ⟨(Q.size_fromStdVector initialGuess).ge, ?_⟩
    rw [← List.forall_mem_map (P := fun q : Q R => initialGuess.length ≤ q.size), h.map_fst]
    intro q hq
    obtain ⟨i, -, rfl⟩ := List.mem_map.mp hq
    rw [Q.size_set, Q.size_fromStdVector]

omit [LinearOrder R] in
theorem collapsed_start_iff (hguess : initialGuess ≠ [])
    (h : Valued (buildSimplex (.fromStdVector initialGuess) size).2 others) :
    Collapsed initialGuess.length (start srt initialGuess value others).simplex ↔ size = 0 := by
  have hvec {i : ℕ} (hi : i < (Q.fromStdVector initialGuess).size) := vec_corner_iff hi size
  rw [start, collapsed_sort_iff, collapsed_iff_front,
    ← List.forall_mem_map (P := fun q : Q R => q.vec initialGuess.length =
      (Q.fromStdVector initialGuess).vec initialGuess.length), h.map_fst]
  simp only [buildSimplex, List.forall_mem_map, List.mem_range, Q.size_fromStdVector]
  constructor
  · intro hone
    have hpos := List.length_pos_of_ne_nil hguess
    exact (hvec hpos).mp (hone 0 hpos)
  · intro hzero i hi
    exact (hvec hi).mpr hzero

/-- Every simplex of a run has its vertices, and they are one point if the first ones are. -/
theorem Reached.shape [CharZero R] (hguess : initialGuess ≠ []) {s : State R V}
    (h : Reached config srt norm2 initialGuess s) :
    Shaped initialGuess.length s.simplex ∧
      (Collapsed initialGuess.length s.simplex ↔ config.initialSize = 0) := by
  obtain ⟨value, others, hvalued, hrounds⟩ := h
  have hdim : initialGuess.length ≠ 0 := fun h => hguess (List.length_eq_zero_iff.mp h)
  apply hrounds.invariant fun s : State R V => Shaped initialGuess.length s.simplex ∧
    (Collapsed initialGuess.length s.simplex ↔ config.initialSize = 0)
  · rintro s t ⟨hshaped, hcollapsed⟩ ht
    obtain ⟨m, hm, ht⟩ := Query.yields_bind.mp ht
    cases Query.yields_pure.mp ht
    have hmoved := moved_of_yields hm
    refine ⟨(hmoved.shaped hshaped).sort srt, ?_⟩
    rw [collapsed_sort_iff, hmoved.collapsed_iff hshaped hdim, hcollapsed]
  · exact ⟨shaped_start hvalued, collapsed_start_iff hguess hvalued⟩

end

/-! ## Inside the simplex -/

section
variable [LinearOrder V] (f : List R → V) (dim : ℕ) (s : Simplex R V)

/-- The value at a point of the line. -/
def lineValue (k : R) : V := f ((linePoint k s).toStdVector dim)

/-- The reflected point is no better than the best nor than the second worst vertex. -/
def Declined : Prop :=
  ¬ lineValue f dim s kReflection < s.front.2 ∧ ¬ lineValue f dim s kReflection < s.secondWorst.2

/-- The round contracts: the contracted point is better than the worst vertex. -/
def Contracts : Prop := Declined f dim s ∧ lineValue f dim s kContraction < s.back.2

/-- The round reduces. -/
def Reduces : Prop := Declined f dim s ∧ ¬ lineValue f dim s kContraction < s.back.2

instance : Decidable (Reduces f dim s) := inferInstanceAs (Decidable ((_ ∧ _) ∧ _))

variable {f dim s}

theorem exec_move_declined (h : Declined f dim s) : ((move dim s).exec f).1.1 =
    if lineValue f dim s kContraction < s.back.2 then
      s.setBack (linePoint kContraction s, lineValue f dim s kContraction)
    else ⟨s.front, s.rest.map fun v =>
      (reducedPoint s v, f ((reducedPoint s v).toStdVector dim))⟩ := by
  unfold Declined lineValue linePoint at h
  unfold move lineValue linePoint
  simp only [evaluateVertex, Query.exec_bind, Query.exec_question, Query.exec_pure]
  rw [if_neg h.1, if_neg h.2]
  simp only [Query.exec_bind, Query.exec_question, Query.exec_pure]
  split
  · rfl
  · simp only [Query.exec_bind, Query.exec_pure]
    congr 1
    exact evaluateAll_eq f dim (reducedPoint s) s.rest []

theorem exec_move_contracts (h : Contracts f dim s) : ((move dim s).exec f).1.1 =
    s.setBack (linePoint kContraction s, lineValue f dim s kContraction) := by
  rw [exec_move_declined h.1, if_pos h.2]

theorem exec_move_reduces (h : Reduces f dim s) : ((move dim s).exec f).1.1 =
    ⟨s.front, s.rest.map fun v =>
      (reducedPoint s v, f ((reducedPoint s v).toStdVector dim))⟩ := by
  rw [exec_move_declined h.1, if_neg h.2]

end

/-- The points of a simplex, read on the first coordinates. -/
def points (dim : ℕ) (s : Simplex R V) : Set (Fin dim → R) :=
  {x | ∃ v ∈ s.vertices, v.1.vec dim = x}

section
variable [LinearOrder R] [IsStrictOrderedRing R] [LinearOrder V] {f : List R → V} {dim : ℕ}
  {s m : Simplex R V}

/-- The contraction and the reduction stay inside the old simplex. -/
structure Inside (f : List R → V) (dim : ℕ) (s m : Simplex R V) : Prop where
  contracted : (linePoint kContraction s).vec dim ∈ convexHull R (points dim s)
  reduced : Reduces f dim s → List.Forall₂
    (fun old new => new.1.vec dim ∈ segment R (s.front.1.vec dim) (old.1.vec dim))
    s.vertices m.vertices
  contained : Contracts f dim s ∨ Reduces f dim s →
    convexHull R (points dim m) ⊆ convexHull R (points dim s)

omit [LinearOrder V] in
theorem contracted_mem (h : Shaped dim s) (hdim : dim ≠ 0) :
    (linePoint kContraction s).vec dim ∈ convexHull R (points dim s) := by
  have hne : s.vertices.dropLast.map (fun v => v.1.vec dim) ≠ [] := by
    have hmem := List.mem_map_of_mem (f := fun v : Vertex R V => v.1.vec dim) (h.front_mem hdim)
    exact List.ne_nil_of_mem hmem
  have hcentroid : (getCentroid s.vertices).vec dim ∈ convexHull R (points dim s) := by
    have hmean := mean_mem_convexHull (K := R) hne
    rw [List.length_map, h.length_dropLast, ← h.centroid] at hmean
    apply convexHull_mono _ hmean
    intro x hx
    obtain ⟨v, hv, rfl⟩ := List.mem_map.mp hx
    exact ⟨v, List.dropLast_subset _ hv, rfl⟩
  have hback : s.back.1.vec dim ∈ convexHull R (points dim s) :=
    subset_convexHull R _ ⟨s.back, back_mem s, rfl⟩
  rw [h.linePoint]
  apply add_smul_sub_mem (convex_convexHull R _) hcentroid hback <;> norm_num [kContraction]

omit [LinearOrder V] in
theorem points_subset_of_setBack (h : Shaped dim s) (hdim : dim ≠ 0) (value : V) :
    convexHull R (points dim (s.setBack (linePoint kContraction s, value))) ⊆
      convexHull R (points dim s) := by
  apply convexHull_min _ (convex_convexHull R _)
  rintro _ ⟨v, hv, rfl⟩
  rw [Simplex.vertices_setBack] at hv
  rcases List.mem_append.mp hv with hv | hv
  · exact subset_convexHull R _ ⟨v, List.dropLast_subset _ hv, rfl⟩
  · rw [List.mem_singleton.mp hv]
    exact contracted_mem h hdim

/-- A round stays inside exactly when it does not reduce, or the vertices are one point. -/
theorem inside_move_iff (h : Shaped dim s) (hdim : dim ≠ 0) :
    Inside f dim s ((move dim s).exec f).1.1 ↔ Collapsed dim s ∨ ¬ Reduces f dim s := by
  have hpos : (0 : R) < kReduction := by norm_num [kReduction]
  constructor
  · intro hinside
    by_cases hreduces : Reduces f dim s
    · left
      have hreduced := hinside.reduced hreduces
      rw [exec_move_reduces hreduces] at hreduced
      cases hreduced with
      | cons _ hrest =>
        rw [List.forall₂_map_right_iff, List.forall₂_same] at hrest
        rw [collapsed_iff_front]
        intro v hv
        have hsegment := hrest v hv
        rwa [h.reducedPoint, add_smul_sub_mem_segment_iff hpos] at hsegment
    · exact Or.inr hreduces
  · intro hcondition
    by_cases hreduces : Reduces f dim s
    · have hone := collapsed_iff_front.mp (hcondition.resolve_right (not_not_intro hreduces))
      have hreduced : ∀ v ∈ s.rest, (reducedPoint s v).vec dim ∈
          segment R (s.front.1.vec dim) (v.1.vec dim) := by
        intro v hv
        rw [h.reducedPoint, add_smul_sub_mem_segment_iff hpos]
        exact hone v hv
      constructor
      · exact contracted_mem h hdim
      · intro _
        rw [exec_move_reduces hreduces]
        refine .cons (left_mem_segment R _ _) ?_
        rw [List.forall₂_map_right_iff, List.forall₂_same]
        exact hreduced
      · intro _
        rw [exec_move_reduces hreduces]
        apply convexHull_mono
        rintro _ ⟨w, hw, rfl⟩
        refine ⟨s.front, List.mem_cons_self, ?_⟩
        rcases List.mem_cons.mp hw with rfl | hw
        · rfl
        · obtain ⟨v, hv, rfl⟩ := List.mem_map.mp hw
          exact ((h.reducedPoint_eq_iff v).mpr (hone v hv)).symm
    · constructor
      · exact contracted_mem h hdim
      · exact fun hreduces' => absurd hreduces' hreduces
      · rintro (hcontracts | hreduces')
        · rw [exec_move_contracts hcontracts]
          exact points_subset_of_setBack h hdim _
        · exact absurd hreduces' hreduces

/-- From every simplex that a run reaches, and for every objective, the round stays inside exactly
when it does not reduce, or the initial simplex had no size. -/
theorem reached_inside_iff {config : Configuration R}
    {srt : StdSort (vertexComp (R := R) (V := V))} {norm2 : Q R → R} {initialGuess : List R}
    (hguess : initialGuess ≠ []) {s : State R V} (h : Reached config srt norm2 initialGuess s)
    (f : List R → V) :
    Inside f initialGuess.length s.simplex ((move initialGuess.length s.simplex).exec f).1.1 ↔
      config.initialSize = 0 ∨ ¬ Reduces f initialGuess.length s.simplex := by
  have hdim : initialGuess.length ≠ 0 := fun h => hguess (List.length_eq_zero_iff.mp h)
  obtain ⟨hshaped, hcollapsed⟩ := h.shape hguess
  rw [inside_move_iff hshaped hdim, hcollapsed]

end

/-! ## A spike on a line -/

namespace Sample

/-- Zero at the origin and one elsewhere. -/
def spike (x : List ℚ) : ℚ := if x = [0] then 0 else 1

def byValue : StdSort (vertexComp (R := ℚ) (V := ℚ)) := StdSort.stable Prod.snd

/-- The first simplex: the origin and a point beside it. -/
def state : State ℚ ℚ := start byValue [0] 0 [(⟨[0 + 1 / 10]⟩, 1)]

theorem reached_state (norm2 : Q ℚ → ℚ) : Reached default byValue norm2 [0] state :=
  ⟨0, _, .cons rfl .nil, .start _⟩

theorem simplex_state :
    state.simplex = ⟨(⟨[0]⟩, 0), [(⟨[0 + 1 / 10]⟩, 1)]⟩ := by
  have hsorted : byValue.sort [((⟨[0]⟩, 0) : Vertex ℚ ℚ), (⟨[0 + 1 / 10]⟩, 1)] = _ :=
    StdSort.stable_of_sorted Prod.snd (by simp)
  simp only [state, start, Simplex.sort, Simplex.vertices, Q.fromStdVector, hsorted]

end Sample

theorem reached_inside_iff_spike :
    Inside Sample.spike 1 Sample.state.simplex
        ((move 1 Sample.state.simplex).exec Sample.spike).1.1 ↔
      (default : Configuration ℚ).initialSize = 0 ∨
        ¬ Reduces Sample.spike 1 Sample.state.simplex :=
  reached_inside_iff (List.cons_ne_nil _ _) (Sample.reached_state fun q => q.get 0) Sample.spike

/-- The first round reduces and the point beside the origin comes to its other side. -/
theorem not_inside_spike : ∃ s, Reached default Sample.byValue (fun q => q.get 0) [0] s ∧
    ¬ Inside Sample.spike 1 s.simplex ((move 1 s.simplex).exec Sample.spike).1.1 := by
  have hreached := Sample.reached_state fun q => q.get 0
  obtain ⟨hshaped, hcollapsed⟩ := hreached.shape (List.cons_ne_nil _ _)
  have hreduces : Reduces Sample.spike 1 Sample.state.simplex := by
    rw [Sample.simplex_state]
    decide +kernel
  have hsize : (default : Configuration ℚ).initialSize ≠ 0 := by decide +kernel
  refine ⟨Sample.state, hreached, fun hinside => ?_⟩
  rcases (inside_move_iff hshaped Nat.one_ne_zero).mp hinside with hone | hnot
  · exact hsize (hcollapsed.mp hone)
  · exact hnot hreduces

end Gripperz.Optimization.SimplexOptimizer
