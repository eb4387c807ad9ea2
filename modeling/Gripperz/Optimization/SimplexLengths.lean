import Mathlib.Algebra.Order.Field.Rat
import Gripperz.Library.Logged
import Gripperz.Optimization.SimplexOptimizer

/-! # The lengths of the vectors of a simplex

Nothing checks the lengths of vectors that are added or subtracted. Here the method reports them,
and those of the vertices whenever the simplex has changed. The centroid begins as a zero vector
with a coordinate for each vertex, one more than the vertices have.
-/
namespace Gripperz.Optimization.SimplexOptimizer.Lengths
open Library Math

variable {R V : Type} [Field R] [LinearOrder R] [LinearOrder V]

inductive Event where
  /-- A sum or a difference of two vectors. -/
  | combined (left right : ℕ)
  /-- The vertices of the simplex. -/
  | simplex (lengths : List ℕ)

/-- The method with its lengths. -/
abbrev Program (R V α : Type) := Logged Event (List R) V α

def sum (a b : Q R) : Program R V (Q R) := do
  Logged.report (.combined a.size b.size)
  pure (a + b)

def difference (a b : Q R) : Program R V (Q R) := do
  Logged.report (.combined a.size b.size)
  pure (a - b)

/-- `q + k * (q - v)`. -/
def extrapolate (k : R) (q v : Q R) : Program R V (Q R) := do
  let d ← difference q v
  sum q (k * d)

def getCentroid (vertices : List (Vertex R V)) : Program R V (Q R) := do
  let n := vertices.length
  let centroid ← vertices.dropLast.foldlM (fun centroid v => sum centroid v.1) (Q.fill n 0)
  pure (centroid / ((n - 1 : ℕ) : R))

def evaluateVertex (dim : ℕ) (q : Q R) : Program R V (Vertex R V) :=
  Logged.silent (SimplexOptimizer.evaluateVertex dim q)

def move (dim : ℕ) (s : Simplex R V) : Program R V (Simplex R V × ℕ) := do
  let v := s.back
  let centroid ← getCentroid s.vertices
  let reflected ← evaluateVertex dim (← extrapolate (kReflection : R) centroid v.1)
  if reflected.2 < s.front.2 then
    let expanded ← evaluateVertex dim (← extrapolate (kExpansion : R) centroid v.1)
    pure (s.setBack (if expanded.2 < reflected.2 then expanded else reflected), 2)
  else if reflected.2 < s.secondWorst.2 then
    pure (s.setBack reflected, 1)
  else
    let contracted ← evaluateVertex dim (← extrapolate (kContraction : R) centroid v.1)
    if contracted.2 < v.2 then
      pure (s.setBack contracted, 2)
    else
      let best := s.front
      let rest ← Logged.forEach
        (fun i => do evaluateVertex dim (← extrapolate (kReduction : R) best.1 i.1)) s.rest
      pure (⟨best, rest⟩, 2 + rest.length)

def round (srt : StdSort (vertexComp (R := R) (V := V))) (norm2 : Q R → R) (dim : ℕ)
    (s : State R V) : Program R V (State R V) := do
  let (moved, evaluations) ← move dim s.simplex
  Logged.report (.simplex (moved.vertices.map fun v => v.1.size))
  let simplex := moved.sort srt
  let d ← difference simplex.front.1 simplex.back.1
  pure
    { simplex := simplex, fev := s.fev + .ofNat evaluations, resultQ := simplex.front.1,
      rho := norm2 d }

/-- With one vertex the first round fails after the difference it reflects by. -/
def failingRound (s : Simplex R V) : Program R V (Option (List R)) := do
  let centroid ← getCentroid s.vertices
  let _ ← difference centroid s.back.1
  pure none

def minimize (config : Configuration R) (srt : StdSort (vertexComp (R := R) (V := V)))
    (norm2 : Q R → R) (initialGuess : List R) (fuel : ℕ) :
    Program R V (Option (List R)) := do
  let dim := initialGuess.length
  let init := Q.fromStdVector initialGuess
  let positions := buildSimplex init config.initialSize
  Logged.report (.simplex ((positions.1 :: positions.2).map Q.size))
  let first ← evaluateVertex dim positions.1
  let others ← Logged.forEach (evaluateVertex dim) positions.2
  let start : State R V :=
    { simplex := Simplex.sort srt ⟨first, others⟩, fev := .ofNat (1 + others.length),
      resultQ := .fill dim 0, rho := 0 }
  if dim = 0 then failingRound start.simplex
  else
    let last ← Logged.doWhile (round srt norm2 dim)
      (fun s => decide (config.finalSize < s.rho ∧ s.fev < config.maxNOfEvaluations)) fuel start
    pure (last.map fun s => s.resultQ.toStdVector dim)

/-! ## Without the reports -/

omit [LinearOrder R] [LinearOrder V] in
@[simp] theorem erase_sum (a b : Q R) : (sum a b : Program R V (Q R)).erase = pure (a + b) := rfl

omit [LinearOrder R] [LinearOrder V] in
@[simp] theorem erase_difference (a b : Q R) :
    (difference a b : Program R V (Q R)).erase = pure (a - b) := rfl

omit [LinearOrder R] [LinearOrder V] in
@[simp] theorem erase_extrapolate (k : R) (q v : Q R) :
    (extrapolate k q v : Program R V (Q R)).erase = pure (q + k * (q - v)) := rfl

omit [LinearOrder R] [LinearOrder V] in
@[simp] theorem erase_evaluateVertex (dim : ℕ) (q : Q R) :
    (evaluateVertex dim q : Program R V (Vertex R V)).erase =
      SimplexOptimizer.evaluateVertex dim q := Logged.erase_silent _

omit [LinearOrder R] [LinearOrder V] in
@[simp] theorem erase_getCentroid (vertices : List (Vertex R V)) :
    (getCentroid vertices).erase = pure (SimplexOptimizer.getCentroid vertices) := by
  have hsum (centroid : Q R) (v : Vertex R V) :
      (sum centroid v.1 : Program R V (Q R)).erase = pure (centroid + v.1) := erase_sum _ _
  exact Logged.erase_bind_of_pure (Logged.erase_foldlM hsum _ _) _

omit [LinearOrder R] in
theorem erase_move (dim : ℕ) (s : Simplex R V) :
    (move dim s).erase = SimplexOptimizer.move dim s := by
  rw [move, Logged.erase_bind_of_pure (erase_getCentroid s.vertices),
    Logged.erase_bind_of_pure (erase_extrapolate ..), Logged.erase_bind, erase_evaluateVertex,
    SimplexOptimizer.move]
  congr 1
  funext reflected
  simp only [Logged.erase_ite, Logged.erase_bind_of_pure (erase_extrapolate ..),
    Logged.erase_bind, erase_evaluateVertex, Logged.erase_pure, Logged.erase_forEach]

omit [LinearOrder R] in
theorem erase_round (srt : StdSort (vertexComp (R := R) (V := V))) (norm2 : Q R → R) (dim : ℕ)
    (s : State R V) : (round srt norm2 dim s).erase = SimplexOptimizer.round srt norm2 dim s := by
  rw [round, Logged.erase_bind, erase_move, SimplexOptimizer.round]
  rfl

omit [LinearOrder R] [LinearOrder V] in
theorem erase_failingRound (s : Simplex R V) : (failingRound s).erase = pure none := by
  rw [failingRound, Logged.erase_bind_of_pure (erase_getCentroid s.vertices),
    Logged.erase_bind_of_pure (erase_difference ..), Logged.erase_pure]

/-- Without the reports the method is the one there is. -/
theorem erase_minimize (config : Configuration R)
    (srt : StdSort (vertexComp (R := R) (V := V))) (norm2 : Q R → R) (initialGuess : List R)
    (fuel : ℕ) : (minimize config srt norm2 initialGuess fuel).erase =
      SimplexOptimizer.minimize config srt norm2 initialGuess fuel := by
  rw [minimize, Logged.erase_bind_of_pure (Logged.erase_report _), SimplexOptimizer.minimize]
  simp only [Logged.erase_bind, erase_evaluateVertex, Logged.erase_pure, Logged.erase_forEach,
    Logged.erase_ite, erase_failingRound, Logged.erase_doWhile, erase_round]

/-! ## What is reported -/

/-- The lengths of an event fit a dimension. -/
def Event.Fits (dim : ℕ) : Event → Prop
  | combined left right => left = right
  | simplex lengths => ∀ length ∈ lengths, length = dim

/-- Every length is the dimension or one more. -/
def Event.Near (dim : ℕ) : Event → Prop
  | combined left right => (left = dim ∨ left = dim + 1) ∧ (right = dim ∨ right = dim + 1)
  | simplex lengths => lengths.length = dim + 1 ∧
      ∀ length ∈ lengths, length = dim ∨ length = dim + 1

section
variable {f : List R → V} {P : Event → Prop} {dim : ℕ}

omit [LinearOrder R] [LinearOrder V] in
theorem logs_sum {a b : Q R} {post : Q R → Prop} :
    Logged.Logs f P (sum a b) post ↔ P (.combined a.size b.size) ∧ post (a + b) := by
  rw [sum, Logged.logs_bind, Logged.logs_report, Logged.logs_pure]

omit [LinearOrder R] [LinearOrder V] in
theorem logs_difference {a b : Q R} {post : Q R → Prop} :
    Logged.Logs f P (difference a b) post ↔ P (.combined a.size b.size) ∧ post (a - b) := by
  rw [difference, Logged.logs_bind, Logged.logs_report, Logged.logs_pure]

omit [LinearOrder R] [LinearOrder V] in
theorem logs_extrapolate {k : R} {q v : Q R} {post : Q R → Prop} :
    Logged.Logs f P (extrapolate k q v) post ↔
      P (.combined q.size v.size) ∧ P (.combined q.size q.size) ∧ post (q + k * (q - v)) := by
  rw [extrapolate, Logged.logs_bind, logs_difference, logs_sum, Q.size_smul, Q.size_sub]

omit [LinearOrder R] [LinearOrder V] in
theorem logs_evaluateVertex {q : Q R} {post : Vertex R V → Prop} :
    Logged.Logs f P (evaluateVertex dim q) post ↔ post (q, f (q.toStdVector dim)) :=
  Logged.logs_silent

omit [LinearOrder R] [LinearOrder V] in
theorem failingRound_reports {s : Simplex R V} {post : Option (List R) → Prop}
    (h : Logged.Logs f P (failingRound s) post) :
    P (.combined s.vertices.length s.back.1.size) := by
  rw [failingRound, Logged.logs_bind] at h
  have hrest := h.of_erase
  rw [erase_getCentroid, Query.exec_pure, Logged.logs_bind, logs_difference,
    size_getCentroid] at hrest
  exact hrest.1

omit [LinearOrder R] in
/-- The first difference of a round is that of the centroid and the worst vertex. -/
theorem move_reports {s : Simplex R V} {post : Simplex R V × ℕ → Prop}
    (h : Logged.Logs f P (move dim s) post) :
    P (.combined s.vertices.length s.back.1.size) := by
  rw [move, Logged.logs_bind] at h
  have hrest := h.of_erase
  rw [erase_getCentroid, Query.exec_pure, Logged.logs_bind, logs_extrapolate,
    size_getCentroid] at hrest
  exact hrest.1

omit [LinearOrder R] [LinearOrder V] in
theorem size_buildSimplex (start : Q R) (size : R) :
    (buildSimplex start size).2.length = start.size ∧
      ∀ q ∈ (buildSimplex start size).2, q.size = start.size := by
  simp [buildSimplex]

omit [LinearOrder R] [LinearOrder V] in
/-- Nothing is reported when the vertices are evaluated. -/
theorem logs_evaluateVertices {positions : List (Q R)} {post : List (Vertex R V) → Prop} :
    Logged.Logs f P (Logged.forEach (evaluateVertex dim) positions) post ↔
      post (positions.map fun q => (q, f (q.toStdVector dim))) := by
  induction positions generalizing post with
  | nil => exact Logged.logs_pure
  | cons q positions ih =>
    rw [Logged.forEach, Logged.logs_bind, logs_evaluateVertex, Logged.logs_bind, ih,
      Logged.logs_pure, List.map_cons]

/-- The state before the first round, when the objective is `f`. -/
def start (f : List R → V) (config : Configuration R)
    (srt : StdSort (vertexComp (R := R) (V := V))) (guess : List R) : State R V :=
  let positions := buildSimplex (Q.fromStdVector guess) config.initialSize
  let evaluated (q : Q R) : Vertex R V := (q, f (q.toStdVector guess.length))
  { simplex := Simplex.sort srt ⟨evaluated positions.1, positions.2.map evaluated⟩
    fev := .ofNat (1 + (positions.2.map evaluated).length)
    resultQ := .fill guess.length 0
    rho := 0 }

omit [LinearOrder R] in
/-- The vertices before the first round have the length of the guess. -/
theorem start_spec (f : List R → V) (config : Configuration R)
    (srt : StdSort (vertexComp (R := R) (V := V))) (guess : List R) :
    (start f config srt guess).simplex.vertices.length = guess.length + 1 ∧
      ∀ v ∈ (start f config srt guess).simplex.vertices, v.1.size = guess.length := by
  obtain ⟨hcount, hsize⟩ := size_buildSimplex (Q.fromStdVector guess) config.initialSize
  rw [Q.size_fromStdVector] at hcount hsize
  rw [start, Simplex.vertices_sort]
  constructor
  · rw [srt.length_sort]
    simp [Simplex.vertices, hcount]
  · intro v hv
    rcases List.mem_cons.mp (srt.mem_sort.mp hv) with rfl | hrest
    · rfl
    · obtain ⟨q, hq, rfl⟩ := List.mem_map.mp hrest
      exact hsize q hq

/-- What is reported before the rounds. -/
theorem logs_minimize {config : Configuration R} {srt : StdSort (vertexComp (R := R) (V := V))}
    {norm2 : Q R → R} {guess : List R} {fuel : ℕ} :
    Logged.Logs f P (minimize config srt norm2 guess fuel) (fun _ => True) ↔
      P (.simplex (List.replicate (guess.length + 1) guess.length)) ∧
        if guess.length = 0 then
          Logged.Logs f P (failingRound (start f config srt guess).simplex) fun _ => True
        else
          Logged.Logs f P (Logged.doWhile (round srt norm2 guess.length)
            (fun s => decide (config.finalSize < s.rho ∧ s.fev < config.maxNOfEvaluations)) fuel
              (start f config srt guess)) fun _ => True := by
  obtain ⟨hcount, hsize⟩ := size_buildSimplex (Q.fromStdVector guess) config.initialSize
  have hlengths : ((buildSimplex (Q.fromStdVector guess) config.initialSize).1 ::
      (buildSimplex (Q.fromStdVector guess) config.initialSize).2).map Q.size =
        List.replicate (guess.length + 1) guess.length := by
    rw [List.eq_replicate_iff]
    exact ⟨by simp [hcount], List.forall_mem_map.mpr (List.forall_mem_cons.mpr ⟨rfl, hsize⟩)⟩
  rw [minimize, Logged.logs_bind, Logged.logs_report, hlengths, Logged.logs_bind,
    logs_evaluateVertex, Logged.logs_bind, logs_evaluateVertices]
  dsimp only
  split
  · rfl
  · rw [Logged.logs_bind]
    simp only [Logged.logs_pure]
    rfl

/-- The first round of every run takes a difference of vectors of different lengths. -/
theorem minimize_reports {config : Configuration R}
    {srt : StdSort (vertexComp (R := R) (V := V))} {norm2 : Q R → R} {guess : List R} {fuel : ℕ}
    (h : Logged.Logs f P (minimize config srt norm2 guess (fuel + 1)) fun _ => True) :
    P (.combined (guess.length + 1) guess.length) := by
  obtain ⟨hcount, hsize⟩ := start_spec f config srt guess
  have hback : (start f config srt guess).simplex.back ∈
      (start f config srt guess).simplex.vertices := by
    rw [← Simplex.vertices_eq]
    exact List.mem_append_right _ (List.mem_singleton_self _)
  have hround := (logs_minimize.mp h).2
  split at hround
  · have hfailing := failingRound_reports hround
    rwa [hcount, hsize _ hback] at hfailing
  · rw [Logged.doWhile, Logged.logs_bind, round, Logged.logs_bind] at hround
    have hmove := move_reports hround
    rwa [hcount, hsize _ hback] at hmove

/-! ## What does hold of the lengths -/

/-- A vertex for each dimension and one more, none longer than by one coordinate. -/
structure NearlyShaped (dim : ℕ) (s : Simplex R V) : Prop where
  count : s.vertices.length = dim + 1
  size : ∀ v ∈ s.vertices, v.1.size = dim ∨ v.1.size = dim + 1

namespace NearlyShaped
variable {s : Simplex R V}

omit [Field R] [LinearOrder R] [LinearOrder V] in
theorem back (h : NearlyShaped dim s) : s.back.1.size = dim ∨ s.back.1.size = dim + 1 := by
  apply h.size
  rw [← Simplex.vertices_eq]
  exact List.mem_append_right _ (List.mem_singleton_self _)

omit [Field R] [LinearOrder R] [LinearOrder V] in
theorem setBack (h : NearlyShaped dim s) {q : Q R} (hq : q.size = dim + 1) (value : V) :
    NearlyShaped dim (s.setBack (q, value)) := by
  constructor
  · rw [Simplex.vertices_setBack, List.length_append, List.length_dropLast, h.count]
    rfl
  · rw [Simplex.vertices_setBack]
    exact List.forall_mem_append.mpr ⟨fun v hv => h.size v (List.dropLast_subset _ hv),
      List.forall_mem_singleton.mpr (Or.inr hq)⟩

omit [Field R] [LinearOrder R] in
theorem sort (h : NearlyShaped dim s) (srt : StdSort (vertexComp (R := R) (V := V))) :
    NearlyShaped dim (s.sort srt) := by
  constructor
  · rw [Simplex.vertices_sort, srt.length_sort, h.count]
  · rw [Simplex.vertices_sort]
    exact fun v hv => h.size v (srt.mem_sort.mp hv)

omit [LinearOrder R] [LinearOrder V] in
theorem logs_getCentroid (h : NearlyShaped dim s) :
    Logged.Logs f (Event.Near dim) (getCentroid s.vertices) fun q => q.size = dim + 1 := by
  rw [getCentroid, Logged.logs_bind]
  have hfill : (Q.fill s.vertices.length (0 : R)).size = dim + 1 := by
    rw [Q.size_fill, h.count]
  refine (Logged.logs_foldlM (fun q => q.size = dim + 1) ?_ hfill).imp fun q hq => ?_
  · intro centroid v hv hcentroid
    rw [logs_sum, Q.size_add]
    exact ⟨⟨Or.inr hcentroid, h.size v (List.dropLast_subset _ hv)⟩, hcentroid⟩
  · rw [Logged.logs_pure, Q.size_div]
    exact hq

omit [LinearOrder R] [LinearOrder V] in
/-- A point on the line through the centroid, and its value. -/
theorem logs_evaluate (h : NearlyShaped dim s) {centroid : Q R}
    (hcentroid : centroid.size = dim + 1) (k : R) {α : Type}
    {rest : Vertex R V → Program R V α} {post : α → Prop}
    (hrest : ∀ q value, q.size = dim + 1 → Logged.Logs f (Event.Near dim) (rest (q, value)) post) :
    Logged.Logs f (Event.Near dim) (do
      let q ← extrapolate k centroid s.back.1
      let v ← evaluateVertex dim q
      rest v) post := by
  rw [Logged.logs_bind, logs_extrapolate]
  refine ⟨⟨Or.inr hcentroid, h.back⟩, ⟨Or.inr hcentroid, Or.inr hcentroid⟩, ?_⟩
  rw [Logged.logs_bind, logs_evaluateVertex]
  exact hrest _ _ ((Q.size_add _ _).trans hcentroid)

omit [LinearOrder R] [LinearOrder V] in
theorem logs_reduction (h : NearlyShaped dim s) :
    Logged.Logs f (Event.Near dim) (Logged.forEach (fun i => do
      evaluateVertex dim (← extrapolate (kReduction : R) s.front.1 i.1)) s.rest)
      fun rest => rest.length = s.rest.length ∧
        ∀ v ∈ rest, v.1.size = dim ∨ v.1.size = dim + 1 := by
  have hfront := h.size s.front List.mem_cons_self
  apply Logged.logs_forEach
  intro v hv
  rw [Logged.logs_bind, logs_extrapolate]
  refine ⟨⟨hfront, h.size v (List.mem_cons_of_mem _ hv)⟩, ⟨hfront, hfront⟩, ?_⟩
  rw [logs_evaluateVertex, Q.size_add]
  exact hfront

omit [LinearOrder R] in
theorem logs_move (h : NearlyShaped dim s) :
    Logged.Logs f (Event.Near dim) (move dim s) fun m => NearlyShaped dim m.1 := by
  rw [move, Logged.logs_bind]
  refine h.logs_getCentroid.imp fun centroid hcentroid => ?_
  refine h.logs_evaluate hcentroid _ fun q value hq => ?_
  have hreflected := h.setBack hq value
  by_cases hbest : value < s.front.2
  · rw [if_pos hbest]
    refine h.logs_evaluate hcentroid _ fun q' value' hq' => ?_
    rw [Logged.logs_pure]
    dsimp only
    split
    · exact h.setBack hq' value'
    · exact hreflected
  · rw [if_neg hbest]
    by_cases hsecond : value < s.secondWorst.2
    · rw [if_pos hsecond, Logged.logs_pure]
      exact hreflected
    · rw [if_neg hsecond]
      refine h.logs_evaluate hcentroid _ fun q' value' hq' => ?_
      by_cases hworst : value' < s.back.2
      · rw [if_pos hworst, Logged.logs_pure]
        exact h.setBack hq' value'
      · rw [if_neg hworst, Logged.logs_bind]
        refine h.logs_reduction.imp fun rest hrest => ?_
        rw [Logged.logs_pure]
        exact ⟨(congrArg (· + 1) hrest.1).trans h.count,
          List.forall_mem_cons.mpr ⟨h.size s.front List.mem_cons_self, hrest.2⟩⟩

omit [LinearOrder R] in
theorem logs_round (h : NearlyShaped dim s) (srt : StdSort (vertexComp (R := R) (V := V)))
    (norm2 : Q R → R) {state : State R V} (hs : state.simplex = s) :
    Logged.Logs f (Event.Near dim) (round srt norm2 dim state)
      fun state' => NearlyShaped dim state'.simplex := by
  subst hs
  rw [round, Logged.logs_bind]
  refine h.logs_move.imp fun m hm => ?_
  have hsorted := hm.sort srt
  rw [Logged.logs_bind, Logged.logs_report, Logged.logs_bind, logs_difference, Logged.logs_pure]
  refine ⟨⟨by simpa using hm.count, List.forall_mem_map.mpr hm.size⟩,
    ⟨hsorted.size _ List.mem_cons_self, hsorted.back⟩, hsorted⟩

end NearlyShaped

/-- In every run all lengths are the dimension or one more. -/
theorem lengths_near (f : List R → V) (config : Configuration R)
    (srt : StdSort (vertexComp (R := R) (V := V))) (norm2 : Q R → R) (guess : List R) (fuel : ℕ) :
    ∀ e ∈ Logged.log f (minimize config srt norm2 guess fuel), e.Near guess.length := by
  obtain ⟨hcount, hsize⟩ := start_spec f config srt guess
  have hstart : NearlyShaped guess.length (start f config srt guess).simplex :=
    ⟨hcount, fun v hv => Or.inl (hsize v hv)⟩
  have hfirst : Event.Near guess.length
      (.simplex (List.replicate (guess.length + 1) guess.length)) :=
    ⟨List.length_replicate, fun length hlength => Or.inl (List.eq_of_mem_replicate hlength)⟩
  apply (logs_minimize.mpr ⟨hfirst, ?_⟩).1
  split
  · rw [failingRound, Logged.logs_bind]
    refine hstart.logs_getCentroid.imp fun centroid hcentroid => ?_
    rw [Logged.logs_bind, logs_difference]
    exact ⟨⟨Or.inr hcentroid, hstart.back⟩, Logged.logs_pure.mpr trivial⟩
  · exact (Logged.logs_doWhile (fun s : State R V => NearlyShaped guess.length s.simplex)
      (fun s hs => hs.logs_round srt norm2 rfl) fuel hstart).imp fun _ _ => trivial

end

/-- The operands of all sums and differences of a run have equal lengths, and all vertices the
length of the guess. -/
def KeepsLengths (f : List R → V) (config : Configuration R)
    (srt : StdSort (vertexComp (R := R) (V := V))) (norm2 : Q R → R) (guess : List R)
    (rounds : ℕ) : Prop :=
  ∀ e ∈ Logged.log f (minimize config srt norm2 guess rounds), e.Fits guess.length

/-- No run that makes a round keeps the lengths, whatever the guess and the objective. -/
theorem lengths_never_kept (f : List R → V) (config : Configuration R)
    (srt : StdSort (vertexComp (R := R) (V := V))) (norm2 : Q R → R) (guess : List R)
    (rounds : ℕ) : ¬ KeepsLengths f config srt norm2 guess (rounds + 1) := by
  intro hkeeps
  have hfits : Event.Fits guess.length (.combined (guess.length + 1) guess.length) :=
    minimize_reports (P := Event.Fits guess.length) ⟨hkeeps, trivial⟩
  exact Nat.succ_ne_self _ hfits

/-- The objective is 0 everywhere and the guess is the origin of the line. -/
theorem lengths_not_kept_flat : ¬ KeepsLengths (fun _ : List ℚ => (0 : ℚ)) default
    (StdSort.stable Prod.snd) (fun _ => 0) [0] 1 := by
  intro hkeeps
  have hequal : 2 = 1 := minimize_reports (P := Event.Fits 1) ⟨hkeeps, trivial⟩
  exact absurd hequal (by decide)

end Gripperz.Optimization.SimplexOptimizer.Lengths
