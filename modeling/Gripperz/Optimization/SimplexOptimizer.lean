import Gripperz.Library.BestSoFar
import Gripperz.Library.StdSort
import Gripperz.Math.Coordinates

/-! # The Nelder–Mead simplex

`minimize` replaces the worst vertex of a simplex by its reflection, expansion or
contraction about the centroid of the others, or moves all vertices but the best
in a reduction. A vertex is evaluated on its first `dim` coordinates. The way
`std::sort` orders equal vertices and the norm of a vector are parameters.
-/
namespace Gripperz.Optimization.SimplexOptimizer
open Library Math

variable {R V : Type} [Field R] [LinearOrder R] [LinearOrder V]

structure Configuration (R : Type) where
  initialSize : R
  finalSize : R
  maxNOfEvaluations : UInt32

instance : Inhabited (Configuration R) :=
  ⟨{ initialSize := 1 / 10, finalSize := 1 / 1000, maxNOfEvaluations := 1000 }⟩

def kReflection : R := 1
def kExpansion : R := 2
def kContraction : R := -1 / 2
def kReduction : R := 1 / 2

abbrev Vertex (R V : Type) := Q R × V

def vertexComp (i j : Vertex R V) : Prop := i.2 < j.2

/-- The vector of vertices: it always has a first one. -/
structure Simplex (R V : Type) where
  front : Vertex R V
  rest : List (Vertex R V)

namespace Simplex

def vertices (s : Simplex R V) : List (Vertex R V) := s.front :: s.rest

def back (s : Simplex R V) : Vertex R V := s.rest.getLastD s.front

/-- `*(vertices.rbegin() + 1)`. -/
def secondWorst (s : Simplex R V) : Vertex R V := s.vertices.dropLast.getLastD s.front

/-- `vertices.back() = v`. -/
def setBack (s : Simplex R V) (v : Vertex R V) : Simplex R V :=
  match s.rest with
  | [] => ⟨v, []⟩
  | w :: ws => ⟨s.front, (w :: ws).dropLast ++ [v]⟩

def sort (srt : StdSort (vertexComp (R := R) (V := V))) (s : Simplex R V) : Simplex R V :=
  match srt.sort s.vertices with
  | [] => s
  | v :: vs => ⟨v, vs⟩

end Simplex

/-- The positions of the initial vertices: the start and one step along each axis. -/
def buildSimplex (start : Q R) (size : R) : Q R × List (Q R) :=
  (start, (List.range start.size).map fun i => start.set i (start.get i + size))

/-- The centroid of all vertices but the last one, over `vertices.size()` coordinates. -/
def getCentroid (vertices : List (Vertex R V)) : Q R :=
  let n := vertices.length
  vertices.dropLast.foldl (fun centroid v => centroid + v.1) (Q.fill n 0) / ((n - 1 : ℕ) : R)

def evaluateVertex (dim : ℕ) (q : Q R) : Query (List R) V (Vertex R V) := do
  let value ← Query.question (q.toStdVector dim)
  pure (q, value)

structure State (R V : Type) where
  simplex : Simplex R V
  fev : UInt32
  resultQ : Q R
  rho : R

/-- The move of one round: the simplex before sorting and the evaluations it took. -/
def move (dim : ℕ) (s : Simplex R V) : Query (List R) V (Simplex R V × ℕ) := do
  let v := s.back
  let centroid := getCentroid s.vertices
  let reflected ← evaluateVertex dim (centroid + (kReflection : R) * (centroid - v.1))
  if reflected.2 < s.front.2 then
    let expanded ← evaluateVertex dim (centroid + (kExpansion : R) * (centroid - v.1))
    pure (s.setBack (if expanded.2 < reflected.2 then expanded else reflected), 2)
  else if reflected.2 < s.secondWorst.2 then
    pure (s.setBack reflected, 1)
  else
    let contracted ← evaluateVertex dim (centroid + (kContraction : R) * (centroid - v.1))
    if contracted.2 < v.2 then
      pure (s.setBack contracted, 2)
    else
      let best := s.front
      let rest ← Query.forEach
        (fun i => evaluateVertex dim (best.1 + (kReduction : R) * (best.1 - i.1))) s.rest
      pure (⟨best, rest⟩, 2 + rest.length)

/-- One round of the `do … while` loop. -/
def round (srt : StdSort (vertexComp (R := R) (V := V))) (norm2 : Q R → R) (dim : ℕ)
    (s : State R V) : Query (List R) V (State R V) := do
  let (moved, evaluations) ← move dim s.simplex
  let simplex := moved.sort srt
  pure
    { simplex := simplex, fev := s.fev + .ofNat evaluations, resultQ := simplex.front.1,
      rho := norm2 (simplex.front.1 - simplex.back.1) }

def minimize (config : Configuration R) (srt : StdSort (vertexComp (R := R) (V := V)))
    (norm2 : Q R → R) (initialGuess : List R) (fuel : ℕ) :
    Query (List R) V (Option (List R)) := do
  let dim := initialGuess.length
  let init := Q.fromStdVector initialGuess
  let positions := buildSimplex init config.initialSize
  let first ← evaluateVertex dim positions.1
  let others ← Query.forEach (evaluateVertex dim) positions.2
  let start : State R V :=
    { simplex := Simplex.sort srt ⟨first, others⟩, fev := .ofNat (1 + others.length),
      resultQ := .fill dim 0, rho := 0 }
  -- with one vertex the first round fails: the second worst is out of range
  if dim = 0 then pure none
  else
    let last ← Query.doWhile (round srt norm2 dim)
      (fun s => decide (config.finalSize < s.rho ∧ s.fev < config.maxNOfEvaluations)) fuel start
    pure (last.map fun s => s.resultQ.toStdVector dim)

namespace Simplex

omit [Field R] [LinearOrder R] [LinearOrder V] in
theorem vertices_eq (s : Simplex R V) : s.vertices.dropLast ++ [s.back] = s.vertices := by
  rcases s with ⟨front, rest⟩
  rcases List.eq_nil_or_concat rest with rfl | ⟨ws, w, rfl⟩
  · rfl
  · simp only [vertices, back, List.concat_eq_append, List.getLastD_concat]
    rw [← List.cons_append, List.dropLast_concat]

omit [Field R] [LinearOrder R] [LinearOrder V] in
theorem vertices_setBack (s : Simplex R V) (v : Vertex R V) :
    (s.setBack v).vertices = s.vertices.dropLast ++ [v] := by
  rcases s with ⟨front, rest⟩
  cases rest with
  | nil => rfl
  | cons w ws => simp [vertices, setBack]

omit [Field R] [LinearOrder R] in
theorem vertices_sort (srt : StdSort (vertexComp (R := R) (V := V))) (s : Simplex R V) :
    (s.sort srt).vertices = srt.sort s.vertices := by
  have hlen := srt.length_sort s.vertices
  unfold sort
  cases h : srt.sort s.vertices with
  | nil =>
    rw [h] at hlen
    simp [vertices] at hlen
  | cons v vs => rfl

omit [Field R] [LinearOrder R] [LinearOrder V] in
theorem secondWorst_mem (s : Simplex R V) : s.secondWorst ∈ s.vertices := by
  rw [secondWorst, List.getLastD_eq_getLast?]
  cases h : s.vertices.dropLast.getLast? with
  | none => exact List.mem_cons_self ..
  | some v => exact List.dropLast_subset _ (List.mem_of_getLast? h)

/-- No vertex comes before a better one. -/
def Sorted (s : Simplex R V) : Prop := s.vertices.Pairwise fun a b => a.2 ≤ b.2

omit [Field R] [LinearOrder R] in
theorem sorted_sort (srt : StdSort (vertexComp (R := R) (V := V))) (s : Simplex R V) :
    (s.sort srt).Sorted := by
  rw [Sorted, vertices_sort]
  exact (srt.sorted s.vertices).imp fun h => not_lt.mp h

omit [Field R] [LinearOrder R] in
theorem Sorted.front_le {s : Simplex R V} (h : s.Sorted) :
    ∀ v ∈ s.vertices, s.front.2 ≤ v.2 := by
  intro v hv
  rcases List.mem_cons.mp hv with rfl | hv
  · exact le_refl _
  · exact (List.pairwise_cons.mp h).1 v hv

omit [Field R] [LinearOrder R] in
theorem Sorted.le_back {s : Simplex R V} (h : s.Sorted) :
    ∀ v ∈ s.vertices, v.2 ≤ s.back.2 := by
  intro v hv
  rw [Sorted, ← vertices_eq, List.pairwise_append] at h
  rw [← vertices_eq] at hv
  rcases List.mem_append.mp hv with hv | hv
  · exact h.2.2 v hv _ (List.mem_singleton_self _)
  · rw [List.mem_singleton.mp hv]

end Simplex

/-- The vertices are evaluated points, and every point evaluated so far is no
better than one of them. -/
structure Invariant (f : List R → V) (guess : List R) (vertices : List (Vertex R V))
    (now : List (List R × V)) : Prop where
  value : ∀ v ∈ vertices, v.2 = f (v.1.toStdVector guess.length)
  asked : ∀ v ∈ vertices, (v.1.toStdVector guess.length, v.2) ∈ now
  covers : ∀ e ∈ now, ∃ v ∈ vertices, v.2 ≤ e.2
  admissible : ∀ e ∈ now, e.1.length = guess.length
  begins : [(guess, f guess)] <+: now

namespace Invariant
variable {f : List R → V} {guess : List R} {vertices : List (Vertex R V)}
  {now : List (List R × V)}

omit [LinearOrder R] in
theorem push (h : Invariant f guess vertices now) (q : Q R) :
    Invariant f guess (vertices ++ [(q, f (q.toStdVector guess.length))])
      (now ++ [(q.toStdVector guess.length, f (q.toStdVector guess.length))]) where
  value v hv := by
    rcases List.mem_append.mp hv with hv | hv
    · exact h.value v hv
    · rw [List.mem_singleton.mp hv]
  asked v hv := by
    rcases List.mem_append.mp hv with hv | hv
    · exact List.mem_append_left _ (h.asked v hv)
    · rw [List.mem_singleton.mp hv]
      exact List.mem_append_right _ (List.mem_singleton_self _)
  covers e he := by
    rcases List.mem_append.mp he with he | he
    · obtain ⟨v, hv, hle⟩ := h.covers e he
      exact ⟨v, List.mem_append_left _ hv, hle⟩
    · rw [List.mem_singleton.mp he]
      exact ⟨_, List.mem_append_right _ (List.mem_singleton_self _), le_refl _⟩
  admissible e he := by
    rcases List.mem_append.mp he with he | he
    · exact h.admissible e he
    · rw [List.mem_singleton.mp he]
      exact Q.length_toStdVector q _
  begins := h.begins.trans (List.prefix_append _ _)

omit [LinearOrder R] in
/-- Vertices no better than one that stays may be dropped. -/
theorem restrict (h : Invariant f guess vertices now) {kept : List (Vertex R V)}
    (hsub : ∀ v ∈ kept, v ∈ vertices) (hcov : ∀ v ∈ vertices, ∃ w ∈ kept, w.2 ≤ v.2) :
    Invariant f guess kept now where
  value v hv := h.value v (hsub v hv)
  asked v hv := h.asked v (hsub v hv)
  covers e he := by
    obtain ⟨v, hv, hle⟩ := h.covers e he
    obtain ⟨w, hw, hle'⟩ := hcov v hv
    exact ⟨w, hw, hle'.trans hle⟩
  admissible := h.admissible
  begins := h.begins

omit [LinearOrder R] in
theorem sort (srt : StdSort (vertexComp (R := R) (V := V))) {s : Simplex R V}
    (h : Invariant f guess s.vertices now) : Invariant f guess (s.sort srt).vertices now := by
  rw [Simplex.vertices_sort]
  exact h.restrict (fun v hv => srt.mem_sort.mp hv) fun v hv =>
    ⟨v, srt.mem_sort.mpr hv, le_refl _⟩

omit [LinearOrder R] in
/-- The worst vertex gives way to a better one of the newly evaluated points, when
the others are no better than it or no better than the best vertex. -/
theorem setBack {s : Simplex R V} {tried : List (Vertex R V)} {u : Vertex R V}
    (h : Invariant f guess (s.vertices ++ tried) now) (hu : u ∈ tried)
    (hback : u.2 ≤ s.back.2) (htried : ∀ v ∈ tried, u.2 ≤ v.2 ∨ s.front.2 ≤ v.2) :
    Invariant f guess (s.setBack u).vertices now := by
  have hnew : u ∈ (s.setBack u).vertices := by
    rw [Simplex.vertices_setBack]
    exact List.mem_append_right _ (List.mem_singleton_self _)
  have hold : ∀ v ∈ s.vertices, ∃ w ∈ (s.setBack u).vertices, w.2 ≤ v.2 := by
    intro v hv
    rw [← Simplex.vertices_eq] at hv
    rcases List.mem_append.mp hv with hv | hv
    · refine ⟨v, ?_, le_refl _⟩
      rw [Simplex.vertices_setBack]
      exact List.mem_append_left _ hv
    · rw [List.mem_singleton.mp hv]
      exact ⟨u, hnew, hback⟩
  refine h.restrict (fun v hv => ?_) fun v hv => ?_
  · rw [Simplex.vertices_setBack] at hv
    rcases List.mem_append.mp hv with hv | hv
    · exact List.mem_append_left _ (List.dropLast_subset _ hv)
    · rw [List.mem_singleton.mp hv]
      exact List.mem_append_right _ hu
  · rcases List.mem_append.mp hv with hv | hv
    · exact hold v hv
    · rcases htried v hv with hle | hle
      · exact ⟨u, hnew, hle⟩
      · obtain ⟨w, hw, hle'⟩ := hold s.front (List.mem_cons_self ..)
        exact ⟨w, hw, hle'.trans hle⟩

omit [LinearOrder R] in
/-- The best vertex of a sorted simplex is the best point evaluated. -/
theorem bestSoFar {s : Simplex R V} (h : Invariant f guess s.vertices now) (hs : s.Sorted) :
    BestSoFar (fun x => x.length = guess.length) f guess
      (s.front.1.toStdVector guess.length) s.front.2 now where
  value := h.value _ (List.mem_cons_self ..)
  asked := by
    rw [← h.value _ (List.mem_cons_self ..)]
    exact h.asked _ (List.mem_cons_self ..)
  least e he := by
    obtain ⟨v, hv, hle⟩ := h.covers e he
    exact (hs.front_le v hv).trans hle
  admissible := h.admissible
  begins := h.begins

end Invariant

omit [LinearOrder R] in
/-- Points evaluated one after the other join the vertices. -/
theorem evaluateAll_spec (f : List R → V) (guess : List R) {α : Type} (position : α → Q R)
    (vertices : List (Vertex R V)) (points : List α) (past : List (List R × V))
    (h : Invariant f guess vertices past) :
    Query.Holds f (Query.forEach (fun a => evaluateVertex guess.length (position a)) points)
      past fun evaluated now => Invariant f guess (vertices ++ evaluated) now := by
  refine (Query.holds_forEach (fun _ _ => True)
    (fun now evaluated => Invariant f guess (vertices ++ evaluated) now) ?_ points past []
    (by simpa using h)).mono fun evaluated now ⟨_, hI⟩ => by simpa using hI
  intro a past' evaluated hI
  simp only [evaluateVertex, Query.holds_bind, Query.holds_question, Query.holds_pure]
  exact ⟨trivial, by simpa using hI.push (position a)⟩

omit [LinearOrder R] [LinearOrder V] in
theorem size_getCentroid (vertices : List (Vertex R V)) :
    (getCentroid vertices).size = vertices.length := by
  simp only [getCentroid, Q.size_div]
  rw [Q.size_foldl_add _ Prod.fst, Q.size_fill]

omit [LinearOrder R] [LinearOrder V] in
theorem evaluateAll_eq {α : Type} (f : List R → V) (dim : ℕ) (position : α → Q R)
    (points : List α) (past : List (List R × V)) :
    Query.Holds f (Query.forEach (fun a => evaluateVertex dim (position a)) points) past
      fun evaluated _ => evaluated = points.map fun a =>
        (position a, f ((position a).toStdVector dim)) := by
  induction points generalizing past with
  | nil => exact Query.holds_pure.mpr rfl
  | cons a points ih =>
    simp only [Query.forEach, Query.holds_bind, Query.holds_pure, evaluateVertex,
      Query.holds_question]
    exact (ih _).mono fun evaluated now h => by rw [h, List.map_cons]

omit [LinearOrder R] in
theorem move_spec (f : List R → V) (guess : List R) (s : Simplex R V) (past : List (List R × V))
    (h : Invariant f guess s.vertices past) (hs : s.Sorted) :
    Query.Holds f (move guess.length s) past fun m now => Invariant f guess m.1.vertices now := by
  unfold move
  simp only [evaluateVertex, Query.holds_bind, Query.holds_question, Query.holds_pure]
  set centroid : Q R := getCentroid s.vertices
  set q₁ : Q R := centroid + (kReflection : R) * (centroid - s.back.1)
  set q₂ : Q R := centroid + (kExpansion : R) * (centroid - s.back.1)
  set q₃ : Q R := centroid + (kContraction : R) * (centroid - s.back.1)
  have h₁ := h.push q₁
  have hbest : s.front.2 ≤ s.back.2 := hs.le_back _ (List.mem_cons_self ..)
  by_cases hr : f (q₁.toStdVector guess.length) < s.front.2
  · have h₂ := h₁.push q₂
    rw [List.append_assoc] at h₂
    rw [if_pos hr]
    simp only [Query.holds_bind, Query.holds_question, Query.holds_pure]
    by_cases he : f (q₂.toStdVector guess.length) < f (q₁.toStdVector guess.length)
    · rw [if_pos he]
      refine h₂.setBack (by simp) ((he.trans hr).le.trans hbest) ?_
      simpa using Or.inl he.le
    · rw [if_neg he]
      refine h₂.setBack (by simp) (hr.le.trans hbest) ?_
      simpa using Or.inl (not_lt.mp he)
  · rw [if_neg hr]
    by_cases hw : f (q₁.toStdVector guess.length) < s.secondWorst.2
    · rw [if_pos hw]
      have hle := hw.le.trans (hs.le_back _ s.secondWorst_mem)
      refine Query.holds_pure.mpr (h₁.setBack (by simp) hle ?_)
      simp
    · have h₃ := h₁.push q₃
      rw [List.append_assoc] at h₃
      rw [if_neg hw]
      simp only [Query.holds_bind, Query.holds_question, Query.holds_pure]
      by_cases hc : f (q₃.toStdVector guess.length) < s.back.2
      · rw [if_pos hc]
        refine Query.holds_pure.mpr (h₃.setBack (by simp) hc.le ?_)
        simpa using Or.inr (not_lt.mp hr)
      · rw [if_neg hc]
        simp only [Query.holds_bind, Query.holds_pure]
        have hall : ∀ v ∈ s.vertices ++ ([(q₁, f (q₁.toStdVector guess.length))] ++
            [(q₃, f (q₃.toStdVector guess.length))]), s.front.2 ≤ v.2 := by
          intro v hv
          simp only [List.mem_append, List.mem_singleton] at hv
          rcases hv with hv | rfl | rfl
          · exact hs.front_le v hv
          · exact not_lt.mp hr
          · exact hbest.trans (not_lt.mp hc)
        have hkept : Invariant f guess [s.front] _ := h₃.restrict
          (fun v hv => by simp [List.mem_singleton.mp hv, Simplex.vertices])
          fun v hv => ⟨s.front, List.mem_singleton_self _, hall v hv⟩
        exact evaluateAll_spec f guess _ [s.front] s.rest _ hkept

omit [LinearOrder R] in
theorem round_spec (srt : StdSort (vertexComp (R := R) (V := V))) (norm2 : Q R → R)
    (f : List R → V) (guess : List R) (s : State R V) (past : List (List R × V))
    (h : Invariant f guess s.simplex.vertices past) (hs : s.simplex.Sorted) :
    Query.Holds f (round srt norm2 guess.length s) past fun s' now =>
      Invariant f guess s'.simplex.vertices now ∧ s'.simplex.Sorted ∧
        s'.resultQ = s'.simplex.front.1 := by
  unfold round
  rw [Query.holds_bind]
  refine (move_spec f guess s.simplex past h hs).mono fun m now hI => ?_
  exact Query.holds_pure.mpr ⟨hI.sort srt, Simplex.sorted_sort srt m.1, rfl⟩

/-- What the simplex method returns is the best point it evaluated. -/
theorem minimize_returnsLeast (config : Configuration R)
    (srt : StdSort (vertexComp (R := R) (V := V))) (norm2 : Q R → R) (f : List R → V)
    (guess : List R) :
    ReturnsLeast (fun x => x.length = guess.length) f guess
      (minimize config srt norm2 guess) := by
  intro fuel
  have hfirst : Invariant f guess [(Q.fromStdVector guess, f guess)] [(guess, f guess)] := by
    constructor <;> simp
  unfold minimize
  rw [Query.holds_bind, evaluateVertex]
  simp only [Query.holds_bind, Query.holds_question, Query.holds_pure, buildSimplex,
    Q.toStdVector_fromStdVector, List.nil_append]
  refine (evaluateAll_spec f guess id [_] _ _ hfirst).mono fun others now hI => ?_
  split
  · exact Query.holds_pure.mpr ⟨hI.admissible, hI.begins, nofun⟩
  · refine searched_doWhile _
      (fun s now => Invariant f guess s.simplex.vertices now ∧ s.simplex.Sorted)
      (fun s now => Invariant f guess s.simplex.vertices now ∧ s.simplex.Sorted ∧
        s.resultQ = s.simplex.front.1) ?_ ?_ ?_ fuel _ _ ?_
    · rintro s past ⟨hI, hs⟩
      refine (round_spec srt norm2 f guess s past hI hs).mono fun s' now ⟨hI', hs', hq⟩ => ?_
      exact ⟨⟨hI', hs', hq⟩, fun _ => ⟨hI', hs'⟩⟩
    · rintro s now (⟨hI, _⟩ | ⟨hI, _⟩) <;> exact ⟨hI.admissible, hI.begins⟩
    · rintro s now ⟨hI, hs, hq⟩
      have hbest := hI.bestSoFar hs
      exact hq ▸ hbest.value ▸ hbest
    · exact ⟨Invariant.sort srt (s := ⟨_, others⟩) hI, Simplex.sorted_sort srt _⟩

end Gripperz.Optimization.SimplexOptimizer
