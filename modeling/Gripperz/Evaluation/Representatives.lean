import Mathlib.Data.List.Dedup
import Gripperz.Evaluation.PointFilter

/-! # Which points always have a representative

The order of points with equally many neighbours is left to the sort, and the order of the
neighbours of a point to the tree. A point with a dominant point around it has a representative
in every order; without one some order leaves a point without.
-/
namespace Gripperz.Evaluation.AlignmentIndexCalculator
open Math Library

section
variable {R G V : Type} [Field R] [LinearOrder R] [IsStrictOrderedRing R]

/-- The points near a point. -/
def around (spatial : Spatial R G V) (radius : R) (points : List V) (p : V) : List V :=
  points.filter fun q => (pointNearness spatial radius).near p q

/-- The points with the coordinates of a point. -/
def copies (spatial : Spatial R G V) (points : List V) (p : V) : List V :=
  points.filter fun q => pointKey spatial q = pointKey spatial p

/-- More points are near it than near any point near it, and it has more copies than there are
different coordinates near it. -/
structure Dominant (spatial : Spatial R G V) (radius : R) (points : List V) (p : V) : Prop where
  more : ∀ q ∈ around spatial radius points p,
    (around spatial radius points q).length < (around spatial radius points p).length
  often : ((around spatial radius points p).map (pointKey spatial)).dedup.length <
    (copies spatial points p).length

instance (spatial : Spatial R G V) (radius : R) (points : List V) (p : V) :
    Decidable (Dominant spatial radius points p) :=
  decidable_of_iff (_ ∧ _) ⟨fun h => ⟨h.1, h.2⟩, fun h => ⟨h.more, h.often⟩⟩

variable {spatial : Spatial R G V} {tree : KDTreeQ R ℕ} {sort : StdSort (pointSort (V := V))}
  {radius : R} {points : List V}

theorem mem_around {p q : V} : q ∈ around spatial radius points p ↔
    q ∈ points ∧ (pointNearness spatial radius).near p q := by
  simp [around]

theorem length_neighbours {node : Point V} (h : node ∈ foundPoints spatial tree radius points) :
    node.neighbours.length = (around spatial radius points node.point).length := by
  have hperm := (((tree.exact (pointNodes spatial points)
    (pointKey spatial node.point - ⟨[radius, radius, radius]⟩)
    (pointKey spatial node.point + ⟨[radius, radius, radius]⟩)).filter
      fun n => n.key ≠ pointKey spatial node.point).map KDNode.value).length_eq
  have hpoints : (around spatial radius points node.point).length =
      (points.zipIdx.filter fun p =>
        (pointNearness spatial radius).near node.point p.1).length := by
    rw [around, ← ClusteringAlignment.map_filter_zipIdx points fun q =>
      (pointNearness spatial radius).near node.point q, List.length_map]
  rw [(mem_foundPoints.mp h).2, hpoints]
  refine hperm.trans ?_
  rw [List.length_map, List.filter_filter, pointNodes, List.filter_map, List.length_map]
  congr 1
  apply List.filter_congr
  intro p _
  have hnear := inRect_iff_pointNear spatial radius node.point p.1
  simp only [Function.comp_apply, ← Bool.decide_and, decide_eq_decide]
  rw [and_comm]
  exact hnear

/-! ## Orders -/

theorem idxOf_lt_idxOf {before : Point V → Point V → Prop} {nodes : List (Point V)}
    (h : nodes.Pairwise before) (hnodup : (nodes.map Point.index).Nodup) {p q : Point V}
    (hp : p ∈ nodes) (hq : q ∈ nodes) (hne : p ≠ q) (hnot : ¬ before q p) :
    Precedes (nodes.map Point.index) p.index q.index := by
  induction nodes with
  | nil => simp at hp
  | cons node nodes ih =>
    obtain ⟨hfirst, hrest⟩ := List.pairwise_cons.mp h
    rw [List.map_cons, List.nodup_cons] at hnodup
    have hother {r : Point V} (hr : r ∈ nodes) : node.index ≠ r.index := by
      intro hsame
      exact hnodup.1 (hsame ▸ List.mem_map_of_mem hr)
    rcases List.mem_cons.mp hp with rfl | hp'
    · have hq' := (List.mem_cons.mp hq).resolve_left (Ne.symm hne)
      simp [Precedes, List.idxOf_cons_ne _ (hother hq')]
    · rcases List.mem_cons.mp hq with rfl | hq'
      · exact absurd (hfirst p hp') hnot
      · have hlt := ih hrest hnodup.2 hp' hq'
        simpa [Precedes, List.idxOf_cons_ne _ (hother hp'), List.idxOf_cons_ne _ (hother hq')]
          using hlt

omit [IsStrictOrderedRing R] in
/-- A point with more neighbours comes first. -/
theorem precedes_of_more {p q : Point V} (hp : p ∈ visits spatial tree sort radius points)
    (hq : q ∈ visits spatial tree sort radius points)
    (h : q.neighbours.length < p.neighbours.length) :
    Precedes ((visits spatial tree sort radius points).map Point.index) p.index q.index := by
  apply idxOf_lt_idxOf (sort.sorted _) nodup_visits hp hq
  · rintro rfl
    exact lt_irrefl _ h
  · exact not_not.mpr h

theorem not_head_of_more {p q : Point V} (hp : p ∈ visits spatial tree sort radius points)
    (hq : q ∈ visits spatial tree sort radius points)
    (hnear : (pointNearness spatial radius).near p.point q.point)
    (h : p.neighbours.length < q.neighbours.length) :
    ¬ Head (visits spatial tree sort radius points) p := by
  intro head
  have hmem : p.index ∈ q.neighbours :=
    (near_of_mem_neighbours (perm_visits.mem_iff.mp hp) (perm_visits.mem_iff.mp hq)).mpr hnear
  exact lt_asymm (head q hq hmem).1 (precedes_of_more hq hp h)

/-! ## Dominant points -/

theorem exists_not_mem_of_length_lt {l gone : List ℕ} (hnodup : l.Nodup)
    (h : gone.length < l.length) : ∃ i ∈ l, i ∉ gone := by
  by_contra hall
  have hsub : l ⊆ gone := by
    intro i hi
    by_contra hgone
    exact hall ⟨i, hi, hgone⟩
  exact absurd (List.subperm_of_subset hnodup hsub).length_le (by omega)

/-- The indices of the copies of a point. -/
def copyIndices (spatial : Spatial R G V) (points : List V) (p : V) : List ℕ :=
  (points.zipIdx.filter fun q => pointKey spatial q.1 = pointKey spatial p).map Prod.snd

omit [IsStrictOrderedRing R] [Field R] in
theorem nodup_copyIndices (p : V) : (copyIndices spatial points p).Nodup := by
  have hrange : points.zipIdx.map Prod.snd = List.range points.length := by
    simp [List.range_eq_range']
  have hnodup : (points.zipIdx.map Prod.snd).Nodup := hrange ▸ List.nodup_range
  exact hnodup.sublist (List.filter_sublist.map Prod.snd)

omit [IsStrictOrderedRing R] [Field R] in
theorem length_copyIndices (p : V) :
    (copyIndices spatial points p).length = (copies spatial points p).length := by
  rw [copies, copyIndices, ← ClusteringAlignment.map_filter_zipIdx points fun q =>
    pointKey spatial q = pointKey spatial p, List.length_map, List.length_map]

omit [IsStrictOrderedRing R] in
theorem exists_of_mem_copyIndices {p : V} {i : ℕ} (h : i ∈ copyIndices spatial points p) :
    ∃ n ∈ visits spatial tree sort radius points,
      n.index = i ∧ pointKey spatial n.point = pointKey spatial p := by
  obtain ⟨q, hq, rfl⟩ := List.mem_map.mp h
  obtain ⟨hq, hkey⟩ := List.mem_filter.mp hq
  exact ⟨_, perm_visits.mem_iff.mpr (List.mem_map_of_mem hq), rfl, of_decide_eq_true hkey⟩

theorem near_congr {p p' q : V} (h : pointKey spatial p = pointKey spatial p') :
    (pointNearness spatial radius).near p q ↔ (pointNearness spatial radius).near p' q := by
  change Near _ (pointKey spatial p) _ ↔ Near _ (pointKey spatial p') _
  rw [h]

theorem around_congr {p p' : V} (h : pointKey spatial p = pointKey spatial p') :
    around spatial radius points p = around spatial radius points p' := by
  rw [around, around]
  simp only [near_congr h]

/-- The neighbours that the tree lists last around the coordinates near a point. -/
def lasts (spatial : Spatial R G V) (tree : KDTreeQ R ℕ) (radius : R) (points : List V) (p : V) :
    List ℕ :=
  ((around spatial radius points p).map (pointKey spatial)).dedup.filterMap fun key =>
    (neighbourNodes tree radius (pointNodes spatial points) ⟨key, 0⟩).getLast?

/-- One of the copies of a dominant point goes before all points near it, and the tree lists it
last around none of them. -/
theorem Dominant.exists_head {p : V} (h : Dominant spatial radius points p) :
    ∃ n ∈ visits spatial tree sort radius points,
      Head (visits spatial tree sort radius points) n ∧
        pointKey spatial n.point = pointKey spatial p := by
  have hshort : (lasts spatial tree radius points p).length <
      (copyIndices spatial points p).length := by
    rw [length_copyIndices]
    exact (List.length_filterMap_le _ _).trans_lt h.often
  obtain ⟨i, hi, hlast⟩ := exists_not_mem_of_length_lt (nodup_copyIndices p) hshort
  obtain ⟨n, hn, rfl, hkey⟩ : ∃ n ∈ visits spatial tree sort radius points,
    n.index = i ∧ pointKey spatial n.point = pointKey spatial p := exists_of_mem_copyIndices hi
  refine ⟨n, hn, ?_, hkey⟩
  intro q hq hmem
  have hn' := perm_visits.mem_iff.mp hn
  have hq' := perm_visits.mem_iff.mp hq
  have hnear := (near_of_mem_neighbours hn' hq').mp hmem
  rw [near_congr hkey] at hnear
  have haround : q.point ∈ around spatial radius points p :=
    mem_around.mpr ⟨point_mem hq', hnear⟩
  constructor
  · apply precedes_of_more hn hq
    rw [length_neighbours hn', length_neighbours hq', around_congr hkey]
    exact h.more q.point haround
  · intro hend
    apply hlast
    apply List.mem_filterMap.mpr
    refine ⟨pointKey spatial q.point, List.mem_dedup.mpr (List.mem_map_of_mem haround), ?_⟩
    rwa [(mem_foundPoints.mp hq').2] at hend

/-! ## Orders without a representative -/

/-- The tree that lists one value last in each box. -/
def lastly (last : Q R → ℕ) : KDTreeQ R ℕ where
  nnSearchRect nodes low high :=
    let found := nodes.filter fun n => InRect low high n.key
    found.filter (fun n => n.value ≠ last low) ++ found.filter fun n => !decide (n.value ≠ last low)
  exact _ _ _ := List.filter_append_perm _ _

omit [IsStrictOrderedRing R] in
theorem getLast?_lastly {last : Q R → ℕ} {node : KDNode R ℕ} {i : ℕ}
    (hlast : last (node.key - ⟨[radius, radius, radius]⟩) = i)
    (h : i ∈ neighbourNodes (lastly last) radius (pointNodes spatial points) node) :
    (neighbourNodes (lastly last) radius (pointNodes spatial points) node).getLast? = some i := by
  rw [neighbourNodes, lastly] at h ⊢
  simp only [hlast, List.filter_append, List.map_append] at h ⊢
  set front := List.map KDNode.value (List.filter _ (List.filter (fun n => decide (n.value ≠ i)) _))
  set rest := List.map KDNode.value (List.filter _ (List.filter (fun n => !decide (n.value ≠ i)) _))
  have hsame : ∀ j ∈ rest, j = i := by
    intro j hj
    obtain ⟨n, hn, rfl⟩ := List.mem_map.mp hj
    simpa using (List.mem_filter.mp (List.mem_filter.mp hn).1).2
  have hmem : i ∈ rest := by
    rcases List.mem_append.mp h with hfront | hrest
    · obtain ⟨n, hn, hvalue⟩ := List.mem_map.mp hfront
      have hne := (List.mem_filter.mp (List.mem_filter.mp hn).1).2
      simp [hvalue] at hne
    · exact hrest
  rw [List.getLast?_append_of_ne_nil _ (List.ne_nil_of_mem hmem),
    List.getLast?_eq_getLast_of_ne_nil (List.ne_nil_of_mem hmem)]
  exact congrArg some (hsame _ (List.getLast_mem _))

/-- The sort that breaks ties by a rank. -/
def ranked (rank : Point V → Fin 3) : StdSort (pointSort (V := V)) where
  sort := (StdSort.stable fun n => OrderDual.toDual (3 * n.neighbours.length + (rank n).val)).sort
  perm := StdSort.perm _
  sorted l := by
    refine (StdSort.sorted _ l).imp ?_
    intro p q hsorted hmore
    apply hsorted
    rw [OrderDual.toDual_lt_toDual]
    have hless : p.neighbours.length < q.neighbours.length := hmore
    omega

theorem not_head_of_rank {rank : Point V → Fin 3} {p q : Point V}
    (hp : p ∈ visits spatial tree (ranked rank) radius points)
    (hq : q ∈ visits spatial tree (ranked rank) radius points)
    (hnear : (pointNearness spatial radius).near p.point q.point)
    (hmore : p.neighbours.length ≤ q.neighbours.length) (hrank : rank p < rank q) :
    ¬ Head (visits spatial tree (ranked rank) radius points) p := by
  intro head
  have hmem : p.index ∈ q.neighbours :=
    (near_of_mem_neighbours (perm_visits.mem_iff.mp hp) (perm_visits.mem_iff.mp hq)).mpr hnear
  have hbefore : Precedes ((visits spatial tree (ranked rank) radius points).map Point.index)
      q.index p.index := by
    have hsorted : (visits spatial tree (ranked rank) radius points).Pairwise _ :=
      (StdSort.stable fun n : Point V =>
        OrderDual.toDual (3 * n.neighbours.length + (rank n).val)).sorted _
    apply idxOf_lt_idxOf hsorted nodup_visits hq hp
    · rintro rfl
      exact lt_irrefl _ hrank
    · rw [not_not, OrderDual.toDual_lt_toDual]
      have hless : (rank p).val < (rank q).val := hrank
      omega
  exact lt_asymm (head q hq hmem).1 hbefore

theorem not_represents_of_not_head {p : V} (hp : p ∈ points)
    (hcopy : ∀ n ∈ visits spatial tree sort radius points,
      pointKey spatial n.point = pointKey spatial p →
        ¬ Head (visits spatial tree sort radius points) n)
    (hnear : ∀ n ∈ visits spatial tree sort radius points,
      (pointNearness spatial radius).near p n.point →
        ¬ Head (visits spatial tree sort radius points) n) :
    ¬ Represents spatial radius points (filterPoints spatial tree sort radius points) := by
  intro h
  obtain ⟨q, hq, hrect⟩ := h.covered p hp
  obtain ⟨n, hn, head, rfl⟩ := mem_filterPoints.mp hq
  by_cases hkey : pointKey spatial n.point = pointKey spatial p
  · exact hcopy n hn hkey head
  · exact hnear n hn ((inRect_iff_pointNear spatial radius _ _).mp ⟨hrect, hkey⟩) head

omit [LinearOrder R] [IsStrictOrderedRing R] in
theorem pointKey_sub_add (p : V) : pointKey spatial p - ⟨[radius, radius, radius]⟩ +
    ⟨[radius, radius, radius]⟩ = pointKey spatial p := by
  change (⟨[_ - radius + radius, _ - radius + radius, _ - radius + radius]⟩ : Q R) = _
  simp only [sub_add_cancel]
  rfl

/-- The tree lists each copy last around some of the coordinates near it. -/
theorem exists_not_represents_of_seldom {p : V} (hp : p ∈ points)
    (hmore : ∀ q ∈ around spatial radius points p,
      (around spatial radius points q).length < (around spatial radius points p).length)
    (hseldom : (copies spatial points p).length ≤
      ((around spatial radius points p).map (pointKey spatial)).dedup.length)
    (sort : StdSort (pointSort (V := V))) :
    ∃ tree, ¬ Represents spatial radius points (filterPoints spatial tree sort radius points) := by
  set keys := ((around spatial radius points p).map (pointKey spatial)).dedup with hkeys
  let last : Q R → ℕ := fun low =>
    ((copyIndices spatial points p)[keys.idxOf (low + ⟨[radius, radius, radius]⟩)]?).getD 0
  refine ⟨lastly last, not_represents_of_not_head hp ?_ ?_⟩
  · intro n hn hkey head
    have hn' := perm_visits.mem_iff.mp hn
    have hcopy : n.index ∈ copyIndices spatial points p := by
      apply List.mem_map.mpr
      exact ⟨_, List.mem_filter.mpr ⟨(mem_foundPoints.mp hn').1, by simpa using hkey⟩, rfl⟩
    obtain ⟨i, hi, hindex⟩ := List.mem_iff_getElem.mp hcopy
    have hlt : i < keys.length := by
      rw [length_copyIndices] at hi
      omega
    obtain ⟨q, hq, hqkey⟩ := List.mem_map.mp (List.mem_dedup.mp (List.getElem_mem hlt))
    obtain ⟨hpoint, hnear⟩ := mem_around.mp hq
    obtain ⟨m, hm, rfl⟩ : ∃ m ∈ visits spatial (lastly last) sort radius points, m.point = q :=
      exists_visit hpoint
    have hm' := perm_visits.mem_iff.mp hm
    have hmem : n.index ∈ m.neighbours :=
      (near_of_mem_neighbours hn' hm').mpr ((near_congr hkey).mpr hnear)
    apply (head m hm hmem).2
    rw [(mem_foundPoints.mp hm').2] at hmem ⊢
    apply getLast?_lastly _ hmem
    have hindexOf : keys.idxOf (pointKey spatial m.point - ⟨[radius, radius, radius]⟩ +
        ⟨[radius, radius, radius]⟩) = i := by
      rw [pointKey_sub_add, hqkey]
      exact (List.nodup_dedup _).idxOf_getElem i hlt
    simp only [last, hindexOf, List.getElem?_eq_getElem hi, Option.getD_some, hindex]
  · intro n hn hnear
    obtain ⟨m, hm, rfl⟩ : ∃ m ∈ visits spatial (lastly last) sort radius points, m.point = p :=
      exists_visit hp
    have hn' := perm_visits.mem_iff.mp hn
    apply not_head_of_more hn hm ((pointNearness spatial radius).symm hnear)
    rw [length_neighbours hn', length_neighbours (perm_visits.mem_iff.mp hm)]
    exact hmore n.point (mem_around.mpr ⟨point_mem hn', hnear⟩)

/-- The sort puts one of the points first, and another one near it before its copies. -/
theorem exists_not_represents_of_equal {p q : V} (hp : p ∈ points)
    (hmore : ∀ q ∈ around spatial radius points p,
      (around spatial radius points q).length ≤ (around spatial radius points p).length)
    (hq : q ∈ around spatial radius points p)
    (hequal : (around spatial radius points q).length =
      (around spatial radius points p).length) :
    ∃ tree sort,
      ¬ Represents spatial radius points (filterPoints spatial tree sort radius points) := by
  obtain ⟨i, hi⟩ := List.mem_iff_getElem?.mp hp
  let rank : Point V → Fin 3 := fun n =>
    if n.index = i then 2 else if pointKey spatial n.point = pointKey spatial p then 0 else 1
  refine ⟨lastly fun _ => i, ranked rank, not_represents_of_not_head hp ?_ ?_⟩
  · intro n hn hkey
    obtain ⟨hpoint, hnear⟩ := mem_around.mp hq
    obtain ⟨m, hm, rfl⟩ : ∃ m ∈ visits spatial (lastly fun _ => i) (ranked rank) radius points,
      m.point = q := exists_visit hpoint
    have hn' := perm_visits.mem_iff.mp hn
    have hm' := perm_visits.mem_iff.mp hm
    by_cases hindex : n.index = i
    · intro head
      have hmem : n.index ∈ m.neighbours :=
        (near_of_mem_neighbours hn' hm').mpr ((near_congr hkey).mpr hnear)
      apply (head m hm hmem).2
      rw [(mem_foundPoints.mp hm').2] at hmem ⊢
      exact getLast?_lastly hindex.symm hmem
    · apply not_head_of_rank hn hm ((near_congr hkey).mpr hnear)
      · rw [length_neighbours hn', length_neighbours hm', around_congr hkey, hequal]
      · have hother : pointKey spatial m.point ≠ pointKey spatial p := hnear.1.symm
        by_cases hfirst : m.index = i
        · simp [rank, hindex, hkey, hfirst]
        · simp [rank, hindex, hkey, hfirst, hother]
  · intro n hn hnear
    have hzip : (p, i) ∈ points.zipIdx := List.mem_zipIdx_iff_getElem?.mpr hi
    obtain ⟨m, hm, rfl, hindex⟩ : ∃ m ∈ visits spatial (lastly fun _ => i) (ranked rank) radius
        points, m.point = p ∧ m.index = i :=
      ⟨_, perm_visits.mem_iff.mpr (List.mem_map_of_mem hzip), rfl, rfl⟩
    have hn' := perm_visits.mem_iff.mp hn
    have hm' := perm_visits.mem_iff.mp hm
    apply not_head_of_rank hn hm ((pointNearness spatial radius).symm hnear)
    · rw [length_neighbours hn', length_neighbours hm']
      exact hmore n.point (mem_around.mpr ⟨point_mem hn', hnear⟩)
    · have hother : n.index ≠ i := by
        intro hsame
        have hpoint := (List.mem_zipIdx_iff_getElem?.mp (mem_foundPoints.mp hn').1).symm.trans
          (hsame ▸ hi)
        exact hnear.1 (congrArg (pointKey spatial) (Option.some.inj hpoint)).symm
      have hkey : pointKey spatial n.point ≠ pointKey spatial m.point := hnear.1.symm
      simp [rank, hindex, hother, hkey]

/-- Where each point that is not dominant has one with more points near it, only dominant points
remain. -/
theorem not_represents_of_more {p : V} (hp : p ∈ points)
    (hnone : ∀ q ∈ points, InRect (pointKey spatial p - radiusBox radius)
      (pointKey spatial p + radiusBox radius) (pointKey spatial q) →
        ¬ Dominant spatial radius points q)
    (hmore : ∀ q ∈ points, ¬ Dominant spatial radius points q →
      ∃ b ∈ around spatial radius points q,
        (around spatial radius points q).length < (around spatial radius points b).length)
    (tree : KDTreeQ R ℕ) (sort : StdSort (pointSort (V := V))) :
    ¬ Represents spatial radius points (filterPoints spatial tree sort radius points) := by
  intro h
  obtain ⟨q, hq, hrect⟩ := h.covered p hp
  obtain ⟨n, hn, head, rfl⟩ := mem_filterPoints.mp hq
  have hn' := perm_visits.mem_iff.mp hn
  have hpoint := point_mem hn'
  obtain ⟨b, hb, hless⟩ := hmore n.point hpoint (hnone n.point hpoint hrect)
  obtain ⟨hb, hnear⟩ := mem_around.mp hb
  obtain ⟨m, hm, rfl⟩ : ∃ m ∈ visits spatial tree sort radius points, m.point = b :=
    exists_visit hb
  apply not_head_of_more hn hm hnear _ head
  rwa [length_neighbours hn', length_neighbours (perm_visits.mem_iff.mp hm)]

/-- A point that is not dominant, and near which there is none with more points near it, has no
representative in some order. -/
theorem exists_not_represents_of_not_dominant {p : V} (hp : p ∈ points)
    (h : ¬ Dominant spatial radius points p)
    (hmore : ∀ q ∈ around spatial radius points p,
      (around spatial radius points q).length ≤ (around spatial radius points p).length) :
    ∃ tree sort,
      ¬ Represents spatial radius points (filterPoints spatial tree sort radius points) := by
  by_cases hequal : ∃ q ∈ around spatial radius points p,
      (around spatial radius points q).length = (around spatial radius points p).length
  · obtain ⟨q, hq, hequal⟩ := hequal
    exact exists_not_represents_of_equal hp hmore hq hequal
  · have hless : ∀ q ∈ around spatial radius points p,
        (around spatial radius points q).length < (around spatial radius points p).length :=
      fun q hq => lt_of_le_of_ne (hmore q hq) fun hsame => hequal ⟨q, hq, hsame⟩
    have hseldom := not_lt.mp fun hoften => h ⟨hless, hoften⟩
    obtain ⟨tree, htree⟩ :=
      exists_not_represents_of_seldom hp hless hseldom (ranked fun _ => 0)
    exact ⟨tree, _, htree⟩

/-- The points that remain represent all points, in every order that the sort and the tree
leave open, exactly when there is a dominant point in the box around every point. -/
theorem represents_iff (spatial : Spatial R G V) (radius : R) (points : List V)
    (hne : points ≠ []) :
    (∀ (tree : KDTreeQ R ℕ) (sort : StdSort (pointSort (V := V))),
      Represents spatial radius points (filterPoints spatial tree sort radius points)) ↔
      ∀ p ∈ points, ∃ q ∈ points, Dominant spatial radius points q ∧
        InRect (pointKey spatial p - radiusBox radius) (pointKey spatial p + radiusBox radius)
          (pointKey spatial q) := by
  constructor
  · intro h p hp
    by_contra hnone
    have hnone : ∀ q ∈ points, InRect (pointKey spatial p - radiusBox radius)
        (pointKey spatial p + radiusBox radius) (pointKey spatial q) →
          ¬ Dominant spatial radius points q :=
      fun q hq hrect hdominant => hnone ⟨q, hq, hdominant, hrect⟩
    by_cases hmore : ∀ q ∈ points, ¬ Dominant spatial radius points q →
        ∃ b ∈ around spatial radius points q,
          (around spatial radius points q).length < (around spatial radius points b).length
    · exact not_represents_of_more hp hnone hmore _ _ (h (.exhaustive R ℕ) (ranked fun _ => 0))
    · push Not at hmore
      obtain ⟨q, hq, hdominant, hmore⟩ := hmore
      obtain ⟨tree, sort, hfails⟩ := exists_not_represents_of_not_dominant hq hdominant hmore
      exact hfails (h tree sort)
  · intro h tree sort
    apply (represents_iff_heads spatial tree sort radius points hne).mpr
    intro p hp
    obtain ⟨q, -, hdominant, hrect⟩ := h p.point (point_mem (perm_visits.mem_iff.mp hp))
    obtain ⟨n, hn, head, hkey⟩ : ∃ n ∈ visits spatial tree sort radius points,
      Head (visits spatial tree sort radius points) n ∧
        pointKey spatial n.point = pointKey spatial q := hdominant.exists_head
    exact ⟨n, hn, head, hkey ▸ hrect⟩

open GripperEvaluator in
/-- Two points near each other mark each other. -/
theorem not_represents_two : ¬ Represents Sample.spatial 1 [0, 1]
    (filterPoints Sample.spatial Sample.robWork.tree Sample.robWork.sort 1 [0, 1]) := by
  have hvisits : visits Sample.spatial Sample.robWork.tree Sample.robWork.sort 1 [0, 1] =
      foundPoints Sample.spatial Sample.robWork.tree 1 [0, 1] :=
    StdSort.stable_of_sorted _ (by decide +kernel)
  have hnone :
      filterPoints Sample.spatial Sample.robWork.tree Sample.robWork.sort 1 [0, 1] = [] := by
    rw [filterPoints_eq, hvisits]
    decide +kernel
  exact fun h => h.nonempty hnone

open GripperEvaluator in
/-- Two copies among three points, and a point far away. -/
theorem represents_iff_copies : Represents Sample.spatial 1 [0, 0, 1, 1, 1, 4]
    (filterPoints Sample.spatial Sample.robWork.tree Sample.robWork.sort 1 [0, 0, 1, 1, 1, 4]) :=
  (represents_iff Sample.spatial 1 [0, 0, 1, 1, 1, 4] (by decide)).mpr (by decide +kernel) _ _

/-! ## Points that stay in no order -/

/-- A point has one near it with more points near it, or one to which it is the only point
near. -/
def Passing (spatial : Spatial R G V) (radius : R) (points : List V) (p : V) : Prop :=
  ∃ q ∈ around spatial radius points p,
    (around spatial radius points p).length < (around spatial radius points q).length ∨
      (around spatial radius points q).length = 1

instance (spatial : Spatial R G V) (radius : R) (points : List V) (p : V) :
    Decidable (Passing spatial radius points p) :=
  inferInstanceAs (Decidable (∃ q ∈ around spatial radius points p, _))

theorem Passing.not_head {n : Point V} (hn : n ∈ visits spatial tree sort radius points)
    (h : Passing spatial radius points n.point) :
    ¬ Head (visits spatial tree sort radius points) n := by
  obtain ⟨q, hq, hcase⟩ := h
  obtain ⟨hpoint, hnear⟩ := mem_around.mp hq
  obtain ⟨m, hm, rfl⟩ : ∃ m ∈ visits spatial tree sort radius points, m.point = q :=
    exists_visit hpoint
  have hn' := perm_visits.mem_iff.mp hn
  have hm' := perm_visits.mem_iff.mp hm
  rw [← length_neighbours hn', ← length_neighbours hm'] at hcase
  rcases hcase with hmore | hone
  · exact not_head_of_more hn hm hnear hmore
  · intro head
    have hmem : n.index ∈ m.neighbours := (near_of_mem_neighbours hn' hm').mpr hnear
    obtain ⟨i, hi⟩ := List.length_eq_one_iff.mp hone
    rw [hi] at hmem
    apply (head m hm (hi ▸ hmem)).2
    rw [hi, List.mem_singleton.mp hmem]
    rfl

/-- The points with none near them. -/
def alone (spatial : Spatial R G V) (radius : R) (points : List V) : ℕ :=
  points.countP fun p => (around spatial radius points p).isEmpty

theorem length_filterPoints : (filterPoints spatial tree sort radius points).length =
    (visits spatial tree sort radius points).countP fun n =>
      Head (visits spatial tree sort radius points) n := by
  rw [filterPoints_eq, List.length_map, List.countP_eq_length_filter]

theorem alone_eq : alone spatial radius points =
    (visits spatial tree sort radius points).countP fun n =>
      (around spatial radius points n.point).isEmpty := by
  have hpoints : (foundPoints spatial tree radius points).map Point.point = points := by
    rw [foundPoints, List.map_map]
    exact List.zipIdx_map_fst 0 points
  rw [perm_visits.countP_eq]
  conv_lhs => rw [alone, ← hpoints, List.countP_map]
  rw [hpoints]
  rfl

/-- A point with none near it stays. -/
theorem alone_le : alone spatial radius points ≤
    (filterPoints spatial tree sort radius points).length := by
  rw [length_filterPoints, alone_eq]
  apply List.countP_mono_left
  intro n hn hnone
  apply decide_eq_true
  intro q hq hmem
  have hn' := perm_visits.mem_iff.mp hn
  have hq' := perm_visits.mem_iff.mp hq
  have hnear := (near_of_mem_neighbours hn' hq').mp hmem
  have haround := mem_around.mpr ⟨point_mem hq', hnear⟩
  rw [List.isEmpty_iff.mp hnone] at haround
  cases haround

/-- When all other points are passing, no more than those stay. -/
theorem length_le_alone (h : ∀ p ∈ points, around spatial radius points p = [] ∨
    Passing spatial radius points p) :
    (filterPoints spatial tree sort radius points).length ≤ alone spatial radius points := by
  rw [length_filterPoints, alone_eq]
  apply List.countP_mono_left
  intro n hn head
  rcases h n.point (point_mem (perm_visits.mem_iff.mp hn)) with hnone | hpassing
  · exact List.isEmpty_iff.mpr hnone
  · exact absurd (of_decide_eq_true head) (hpassing.not_head hn)

/-- A copy of a point adds none that stays, when with it all points are passing but for those
with none near them. -/
theorem length_filterPoints_copy {before after : List V} {p : V} (hp : p ∈ before ++ after)
    (hpassing : Passing spatial radius (before ++ p :: after) p)
    (h : ∀ q ∈ before ++ after, around spatial radius (before ++ p :: after) q = [] ∨
      Passing spatial radius (before ++ p :: after) q) :
    (filterPoints spatial tree sort radius (before ++ p :: after)).length ≤
      (filterPoints spatial tree sort radius (before ++ after)).length := by
  have hmem (q : V) : q ∈ before ++ p :: after ↔ q ∈ before ++ after := by
    simp only [List.mem_append, List.mem_cons] at hp ⊢
    constructor
    · rintro (hq | rfl | hq)
      · exact Or.inl hq
      · exact hp
      · exact Or.inr hq
    · rintro (hq | hq)
      · exact Or.inl hq
      · exact Or.inr (Or.inr hq)
  have hempty (q : V) : (around spatial radius (before ++ p :: after) q).isEmpty =
      (around spatial radius (before ++ after) q).isEmpty := by
    rw [Bool.eq_iff_iff, List.isEmpty_iff, List.isEmpty_iff, List.eq_nil_iff_forall_not_mem,
      List.eq_nil_iff_forall_not_mem]
    simp only [mem_around, hmem]
  have hsame : alone spatial radius (before ++ p :: after) =
      alone spatial radius (before ++ after) := by
    have hnot : (around spatial radius (before ++ after) p).isEmpty = false := by
      obtain ⟨q, hq, -⟩ := hpassing
      rw [← hempty, ← Bool.not_eq_true, List.isEmpty_iff]
      exact List.ne_nil_of_mem hq
    simp only [alone, hempty, List.countP_append, List.countP_cons, hnot]
    simp
  refine (length_le_alone ?_).trans (hsame.trans_le alone_le)
  intro q hq
  exact h q ((hmem q).mp hq)

end
end Gripperz.Evaluation.AlignmentIndexCalculator
