import Gripperz.Evaluation.ThinnedPoints

/-! # What the alignment calculator's points keep

The nodes are visited in the order of their neighbours, also those that are marked. A node
marks the neighbours it still has, and each forgets the node: `std::remove_if` moves the others
to the front of the list and leaves its end as it was, so that the last neighbour is never
forgotten.
-/
namespace Gripperz.Evaluation.AlignmentIndexCalculator
open Math Library

/-! ## A list of neighbours that are forgotten -/

/-- What a list has become when some of its elements have been forgotten. The last one stays,
perhaps several times. -/
def Worn (links gone l : List ℕ) : Prop :=
  links = [] ∧ l = [] ∨ ∃ front x k, links = front ++ [x] ∧
    l = front.filter (fun j => j ∉ gone) ++ List.replicate (k + 1) x

theorem worn_self (links : List ℕ) : Worn links [] links := by
  rcases List.eq_nil_or_concat links with rfl | ⟨front, x, rfl⟩
  · exact Or.inl ⟨rfl, rfl⟩
  · exact Or.inr ⟨front, x, 0, by simp, by simp⟩

theorem Worn.congr {links gone gone' l : List ℕ} (h : Worn links gone l)
    (hsame : ∀ j ∈ links, j ∈ gone ↔ j ∈ gone') : Worn links gone' l := by
  rcases h with h | ⟨front, x, k, rfl, rfl⟩
  · exact Or.inl h
  · refine Or.inr ⟨front, x, k, rfl, ?_⟩
    congr 1
    apply List.filter_congr
    intro j hj
    rw [decide_eq_decide, not_iff_not]
    exact hsame j (List.mem_append_left _ hj)

theorem Worn.mem_iff {links gone l : List ℕ} (h : Worn links gone l) (j : ℕ) :
    j ∈ l ↔ j ∈ links ∧ j ∉ gone ∨ links.getLast? = some j := by
  rcases h with ⟨rfl, rfl⟩ | ⟨front, x, k, rfl, rfl⟩
  · simp
  · by_cases hj : j = x
    · simp [hj]
    · simp [hj, Ne.symm hj]

theorem length_filter_ne {l : List ℕ} (hnodup : l.Nodup) (q : ℕ) :
    l.length ≤ (l.filter fun j => j ≠ q).length + 1 := by
  have hcount : l.countP (fun j => ¬ decide (j ≠ q)) ≤ 1 := by
    have hle := List.nodup_iff_count_le_one.mp hnodup q
    rw [List.count] at hle
    simpa [beq_eq_decide] using hle
  rw [List.length_eq_countP_add_countP (fun j => decide (j ≠ q)), List.countP_eq_length_filter]
  exact Nat.add_le_add_left hcount _

/-- One more is forgotten. -/
theorem Worn.removeIf {links gone l : List ℕ} (hnodup : links.Nodup) (h : Worn links gone l)
    (q : ℕ) : Worn links (q :: gone) (removeIf (fun j => j = q) l) := by
  rcases h with ⟨rfl, rfl⟩ | ⟨front, x, k, rfl, rfl⟩
  · exact Or.inl ⟨rfl, rfl⟩
  · obtain ⟨hfront, -, hx⟩ := List.nodup_append'.mp hnodup
    set rest := front.filter fun j => j ∉ gone
    have hmore : front.filter (fun j => j ∉ q :: gone) = rest.filter fun j => j ≠ q := by
      rw [List.filter_filter]
      apply List.filter_congr
      intro j _
      simp
    by_cases hq : q = x
    · subst hq
      have hnone : (rest.filter fun j => j ≠ q) = rest := by
        rw [List.filter_eq_self]
        intro j hj
        have hj := (List.mem_filter.mp hj).1
        exact decide_eq_true fun h => hx hj (by simp [h])
      refine Or.inr ⟨front, q, k, rfl, ?_⟩
      have hkept : (rest ++ List.replicate (k + 1) q).filter (fun j => !decide (j = q)) = rest := by
        rw [List.filter_append, List.filter_replicate]
        simpa using hnone
      rw [hmore, hnone, Evaluation.removeIf, hkept, List.drop_left]
    · have hrest : rest.Nodup := hfront.filter _
      have hlength := length_filter_ne hrest q
      have hless : (rest.filter fun j => j ≠ q).length ≤ rest.length := List.length_filter_le _ _
      refine Or.inr ⟨front, x, k + (rest.length - (rest.filter fun j => j ≠ q).length), rfl, ?_⟩
      have hkept : (rest ++ List.replicate (k + 1) x).filter (fun j => !decide (j = q)) =
          (rest.filter fun j => j ≠ q) ++ List.replicate (k + 1) x := by
        rw [List.filter_append, List.filter_replicate]
        simp [Ne.symm hq]
      rw [hmore, Evaluation.removeIf, hkept]
      simp only [List.append_assoc, List.append_cancel_left_eq, List.length_append,
        List.length_replicate, List.drop_append, List.drop_replicate]
      rw [List.drop_eq_nil_of_le (by omega), List.nil_append, List.replicate_append_replicate]
      congr 1
      omega

/-! ## One node -/

/-- One neighbour is marked and forgets the node. -/
def forget (node : ℕ) (state : PointState) (p : ℕ) : PointState where
  neighbours := Function.update state.neighbours p
    (removeIf (fun q => q = node) (state.neighbours p))
  filtered := Function.update state.filtered p true

theorem filtered_forget (node : ℕ) (marked : List ℕ) (state : PointState) (i : ℕ) :
    (marked.foldl (forget node) state).filtered i = true ↔
      state.filtered i = true ∨ i ∈ marked := by
  induction marked generalizing state with
  | nil => simp
  | cons p marked ih =>
    rw [List.foldl_cons, ih]
    by_cases h : i = p
    · simp [forget, h]
    · simp [forget, h]

theorem neighbours_forget_of_not_mem (node : ℕ) {marked : List ℕ} (state : PointState) {i : ℕ}
    (h : i ∉ marked) : (marked.foldl (forget node) state).neighbours i = state.neighbours i := by
  induction marked generalizing state with
  | nil => rfl
  | cons p marked ih =>
    obtain ⟨hne, hrest⟩ : i ≠ p ∧ i ∉ marked := by simpa using h
    rw [List.foldl_cons, ih _ hrest]
    exact Function.update_of_ne hne _ _

/-- A node that has been forgotten stays so. -/
theorem Worn.stays {links gone : List ℕ} (hnodup : links.Nodup) (node : ℕ) (marked : List ℕ)
    {state : PointState} {i : ℕ} (h : Worn links (node :: gone) (state.neighbours i)) :
    Worn links (node :: gone) ((marked.foldl (forget node) state).neighbours i) := by
  induction marked generalizing state with
  | nil => exact h
  | cons p marked ih =>
    apply ih
    by_cases hp : i = p
    · subst hp
      have hworn := h.removeIf hnodup node
      simp only [forget, Function.update_self]
      exact hworn.congr fun j _ => by simp
    · simp only [forget]
      rwa [Function.update_of_ne hp]

theorem Worn.of_mem {links gone : List ℕ} (hnodup : links.Nodup) (node : ℕ)
    {marked : List ℕ} {state : PointState} {i : ℕ} (hmem : i ∈ marked)
    (h : Worn links gone (state.neighbours i)) :
    Worn links (node :: gone) ((marked.foldl (forget node) state).neighbours i) := by
  induction marked generalizing state with
  | nil => simp at hmem
  | cons p marked ih =>
    rw [List.foldl_cons]
    by_cases hp : i = p
    · subst hp
      apply Worn.stays hnodup
      simp only [forget, Function.update_self]
      exact h.removeIf hnodup node
    · apply ih ((List.mem_cons.mp hmem).resolve_left hp)
      simp only [forget]
      rwa [Function.update_of_ne hp]

/-! ## All nodes -/

/-- The neighbours of a list of points: all different, and mutual. -/
structure Mutual (links : ℕ → List ℕ) : Prop where
  nodup : ∀ i, (links i).Nodup
  symm : ∀ i j, j ∈ links i → i ∈ links j

/-- The nodes that have not been visited have forgotten those that have. -/
def Forgotten (links : ℕ → List ℕ) (visited : List ℕ) (state : PointState) : Prop :=
  ∀ i ∉ visited, Worn (links i) visited (state.neighbours i)

theorem Forgotten.filterNeighbours {V : Type} {links : ℕ → List ℕ} (hmutual : Mutual links)
    {visited : List ℕ} {state : PointState} (h : Forgotten links visited state) {node : Point V}
    (hnode : node.index ∉ visited) :
    Forgotten links (node.index :: visited) (filterNeighbours state node) ∧
      ∀ i, (filterNeighbours state node).filtered i = true ↔ state.filtered i = true ∨
        i ∈ links node.index ∧ i ∉ visited ∨ (links node.index).getLast? = some i := by
  have hmarked := (h node.index hnode).mem_iff
  constructor
  · intro i hi
    obtain ⟨hne, hi⟩ : i ≠ node.index ∧ i ∉ visited := by simpa using hi
    change Worn (links i) (node.index :: visited)
      (((state.neighbours node.index).foldl (forget node.index) state).neighbours i)
    by_cases hmem : i ∈ state.neighbours node.index
    · exact Worn.of_mem (hmutual.nodup i) node.index hmem (h i hi)
    · rw [neighbours_forget_of_not_mem _ _ hmem]
      apply (h i hi).congr
      intro j hj
      have hother : j ≠ node.index := by
        rintro rfl
        exact hmem ((hmarked i).mpr (Or.inl ⟨hmutual.symm _ _ hj, hi⟩))
      simp [hother]
  · intro i
    change ((state.neighbours node.index).foldl (forget node.index) state).filtered i = true ↔ _
    rw [filtered_forget, hmarked]

/-- A point comes before another in the order of the visits. -/
def Precedes (order : List ℕ) (i j : ℕ) : Prop := order.idxOf i < order.idxOf j

instance (order : List ℕ) (i j : ℕ) : Decidable (Precedes order i j) :=
  inferInstanceAs (Decidable (_ < _))

theorem filtered_foldl {V : Type} {links : ℕ → List ℕ} (hmutual : Mutual links)
    (nodes : List (Point V)) (hnodup : (nodes.map Point.index).Nodup) {visited : List ℕ}
    (hfresh : ∀ node ∈ nodes, node.index ∉ visited) {state : PointState}
    (h : Forgotten links visited state) (i : ℕ) :
    (nodes.foldl filterNeighbours state).filtered i = true ↔ state.filtered i = true ∨
      ∃ node ∈ nodes, i ∈ links node.index ∧ i ∉ visited ∧
          ¬ Precedes (nodes.map Point.index) i node.index ∨
        (links node.index).getLast? = some i := by
  induction nodes generalizing visited state with
  | nil => simp
  | cons node nodes ih =>
    rw [List.map_cons, List.nodup_cons] at hnodup
    obtain ⟨hforgotten, hfiltered⟩ := h.filterNeighbours hmutual (hfresh node (by simp))
    have hrest : ∀ other ∈ nodes, other.index ∉ node.index :: visited := by
      intro other hother
      have hne : other.index ≠ node.index := by
        intro hsame
        exact hnodup.1 (hsame ▸ List.mem_map_of_mem hother)
      simp [hne, hfresh other (by simp [hother])]
    rw [List.foldl_cons, ih hnodup.2 hrest hforgotten, hfiltered, or_assoc]
    apply or_congr Iff.rfl
    simp only [List.mem_cons, exists_eq_or_imp]
    apply or_congr
    · simp [Precedes]
    · apply exists_congr
      intro other
      apply and_congr_right
      intro hother
      have hne : node.index ≠ other.index := by
        intro hsame
        exact hnodup.1 (hsame ▸ List.mem_map_of_mem hother)
      apply or_congr_left
      apply and_congr_right
      intro _
      by_cases hi : i = node.index
      · subst hi
        simp [Precedes, List.idxOf_cons_ne _ hne]
      · simp [Precedes, List.idxOf_cons_ne _ hne, List.idxOf_cons_ne _ (Ne.symm hi), hi]

/-! ## The points that remain -/

section
variable {R G V : Type} [Field R] [LinearOrder R] (spatial : Spatial R G V) (tree : KDTreeQ R ℕ)
  (sort : StdSort (pointSort (V := V))) (radius : R) (points : List V)

/-- The points with their neighbours. -/
def foundPoints : List (Point V) := points.zipIdx.map fun p =>
  ⟨p.2, p.1, neighbourNodes tree radius (pointNodes spatial points) ⟨pointKey spatial p.1, p.2⟩⟩

/-- The points in the order of the visits. -/
def visits : List (Point V) := sort.sort (foundPoints spatial tree radius points)

def links (i : ℕ) : List ℕ :=
  ((foundPoints spatial tree radius points)[i]?.map Point.neighbours).getD []

/-- A point that comes before the points around it, and which the tree lists last around none
of them. -/
def Head (nodes : List (Point V)) (p : Point V) : Prop :=
  ∀ q ∈ nodes, p.index ∈ q.neighbours →
    Precedes (nodes.map Point.index) p.index q.index ∧ q.neighbours.getLast? ≠ some p.index

omit [Field R] [LinearOrder R] in
instance (nodes : List (Point V)) (p : Point V) : Decidable (Head nodes p) :=
  inferInstanceAs (Decidable (∀ q ∈ nodes, _ → _ ∧ _))

variable {spatial tree sort radius points}

theorem mem_foundPoints {node : Point V} : node ∈ foundPoints spatial tree radius points ↔
    (node.point, node.index) ∈ points.zipIdx ∧ node.neighbours =
      neighbourNodes tree radius (pointNodes spatial points)
        ⟨pointKey spatial node.point, node.index⟩ := by
  constructor
  · intro h
    obtain ⟨p, hp, rfl⟩ := List.mem_map.mp h
    exact ⟨hp, rfl⟩
  · rintro ⟨hp, hneighbours⟩
    apply List.mem_map.mpr
    refine ⟨_, hp, ?_⟩
    cases node
    simp only at hneighbours
    rw [← hneighbours]

theorem map_index_foundPoints :
    (foundPoints spatial tree radius points).map Point.index = List.range points.length := by
  simp [foundPoints, Function.comp_def, List.range_eq_range']

theorem point_mem {node : Point V} (h : node ∈ foundPoints spatial tree radius points) :
    node.point ∈ points :=
  List.fst_mem_of_mem_zipIdx (mem_foundPoints.mp h).1

theorem links_of_mem {node : Point V} (h : node ∈ foundPoints spatial tree radius points) :
    links spatial tree radius points node.index = node.neighbours := by
  obtain ⟨p, hp, rfl⟩ := List.mem_map.mp h
  rw [List.mem_zipIdx_iff_getElem?] at hp
  simp [links, foundPoints, hp]

theorem exists_of_mem_links {i j : ℕ} (h : j ∈ links spatial tree radius points i) :
    ∃ node ∈ foundPoints spatial tree radius points, node.index = i ∧ j ∈ node.neighbours := by
  rw [links] at h
  cases hnode : (foundPoints spatial tree radius points)[i]? with
  | none => simp [hnode] at h
  | some node =>
    refine ⟨node, List.mem_of_getElem? hnode, ?_, by simpa [hnode] using h⟩
    have hindex : ((foundPoints spatial tree radius points).map Point.index)[i]? =
        some node.index := by simp [hnode]
    rw [map_index_foundPoints] at hindex
    have hlt : i < points.length := by
      by_contra hge
      have hnone : (List.range points.length)[i]? = none :=
        List.getElem?_eq_none (by simpa using hge)
      simp [hnone] at hindex
    simpa [List.getElem?_range hlt] using hindex.symm

theorem perm_visits : (visits spatial tree sort radius points).Perm
    (foundPoints spatial tree radius points) := sort.perm _

theorem exists_visit {p : V} (hp : p ∈ points) :
    ∃ n ∈ visits spatial tree sort radius points, n.point = p := by
  obtain ⟨i, hi⟩ := List.mem_iff_getElem?.mp hp
  have hmem : (p, i) ∈ points.zipIdx := List.mem_zipIdx_iff_getElem?.mpr hi
  exact ⟨_, perm_visits.mem_iff.mpr (List.mem_map_of_mem hmem), rfl⟩

theorem nodup_visits : ((visits spatial tree sort radius points).map Point.index).Nodup := by
  rw [(perm_visits.map Point.index).nodup_iff, map_index_foundPoints]
  exact List.nodup_range

theorem nodup_neighbourNodes (key : KDNode R ℕ) :
    (neighbourNodes tree radius (pointNodes spatial points) key).Nodup := by
  have hvalues : ((pointNodes spatial points).map KDNode.value).Nodup := by
    have hrange : (pointNodes spatial points).map KDNode.value = List.range points.length := by
      simp [pointNodes, Function.comp_def, List.range_eq_range']
    rw [hrange]
    exact List.nodup_range
  have hperm := (((tree.exact (pointNodes spatial points) (key.key - ⟨[radius, radius, radius]⟩)
    (key.key + ⟨[radius, radius, radius]⟩)).filter fun n => n.key ≠ key.key).map KDNode.value)
  rw [neighbourNodes, hperm.nodup_iff]
  exact hvalues.sublist ((List.filter_sublist.trans List.filter_sublist).map KDNode.value)

variable [IsStrictOrderedRing R]

theorem near_of_mem_neighbours {p q : Point V} (hp : p ∈ foundPoints spatial tree radius points)
    (hq : q ∈ foundPoints spatial tree radius points) :
    p.index ∈ q.neighbours ↔ (pointNearness spatial radius).near p.point q.point := by
  rw [mem_foundPoints] at hp hq
  rw [hq.2, mem_neighbourNodes]
  constructor
  · rintro ⟨a, ha, hnear⟩
    have hsame : a = p.point := by
      have hp := hp.1
      rw [List.mem_zipIdx_iff_getElem?] at ha hp
      exact Option.some.inj (ha.symm.trans hp)
    exact (pointNearness spatial radius).symm (hsame ▸ hnear)
  · intro hnear
    exact ⟨p.point, hp.1, (pointNearness spatial radius).symm hnear⟩

theorem mutual_links : Mutual (links spatial tree radius points) where
  nodup i := by
    rw [links]
    cases hnode : (foundPoints spatial tree radius points)[i]? with
    | none => exact List.nodup_nil
    | some node =>
      have hfound := (mem_foundPoints.mp (List.mem_of_getElem? hnode)).2
      simp only [Option.map_some, Option.getD_some, hfound]
      exact nodup_neighbourNodes _
  symm i j hj := by
    obtain ⟨p, hp, rfl, hmem⟩ := exists_of_mem_links hj
    have hneighbours := (mem_foundPoints.mp hp).2
    rw [hneighbours, mem_neighbourNodes] at hmem
    obtain ⟨a, ha, hnear⟩ := hmem
    have hq : (⟨j, a, neighbourNodes tree radius (pointNodes spatial points)
        ⟨pointKey spatial a, j⟩⟩ : Point V) ∈ foundPoints spatial tree radius points :=
      mem_foundPoints.mpr ⟨ha, rfl⟩
    have hback := (near_of_mem_neighbours hp hq).mpr hnear
    rw [← links_of_mem hq] at hback
    exact hback

/-- The points that remain are the heads. -/
theorem filterPoints_eq : filterPoints spatial tree sort radius points =
    ((visits spatial tree sort radius points).filter fun p =>
      Head (visits spatial tree sort radius points) p).map Point.point := by
  have hmutual : Mutual (links spatial tree radius points) := mutual_links
  have hstart : Forgotten (links spatial tree radius points) []
      ⟨links spatial tree radius points, fun _ => false⟩ := fun i _ => worn_self _
  have hrun := filtered_foldl hmutual (visits spatial tree sort radius points) nodup_visits
    (by simp) hstart
  change ((visits spatial tree sort radius points).filter fun n =>
    ((visits spatial tree sort radius points).foldl filterNeighbours
      ⟨links spatial tree radius points, fun _ => false⟩).filtered n.index = false).map _ = _
  congr 1
  apply List.filter_congr
  intro p hp
  rw [decide_eq_decide, ← Bool.not_eq_true, hrun]
  simp only [Bool.false_eq_true, List.not_mem_nil, not_false_eq_true, true_and, false_or,
    not_exists, not_and, not_or, not_not]
  apply forall_congr'
  intro q
  apply imp_congr_right
  intro hq
  rw [links_of_mem (perm_visits.mem_iff.mp hq)]
  constructor
  · rintro ⟨hbefore, hlast⟩ hmem
    exact ⟨hbefore hmem, hlast⟩
  · intro h
    exact ⟨fun hmem => (h hmem).1, fun hlast => (h (List.mem_of_getLast? hlast)).2 hlast⟩

theorem mem_filterPoints {p : V} : p ∈ filterPoints spatial tree sort radius points ↔
    ∃ n ∈ visits spatial tree sort radius points,
      Head (visits spatial tree sort radius points) n ∧ n.point = p := by
  rw [filterPoints_eq]
  simp [and_assoc]

/-- No two heads are near each other. -/
theorem not_near_of_head {p q : Point V} (hp : p ∈ visits spatial tree sort radius points)
    (hq : q ∈ visits spatial tree sort radius points)
    (head : Head (visits spatial tree sort radius points) p)
    (head' : Head (visits spatial tree sort radius points) q) :
    ¬ (pointNearness spatial radius).near p.point q.point := by
  intro hnear
  have hp' := perm_visits.mem_iff.mp hp
  have hq' := perm_visits.mem_iff.mp hq
  have hbefore := (head q hq ((near_of_mem_neighbours hp' hq').mpr hnear)).1
  have hnear' := (pointNearness spatial radius).symm hnear
  have hafter := (head' p hp ((near_of_mem_neighbours hq' hp').mpr hnear')).1
  exact lt_asymm hbefore hafter

/-- What the points that remain should be: some, one around every point, and none around
another. -/
structure Represents (spatial : Spatial R G V) (radius : R) (points retained : List V) : Prop where
  nonempty : retained ≠ []
  covered : ∀ p ∈ points, ∃ q ∈ retained, InRect (pointKey spatial p - radiusBox radius)
    (pointKey spatial p + radiusBox radius) (pointKey spatial q)
  apart : ∀ p ∈ retained, ∀ q ∈ retained, pointKey spatial p ≠ pointKey spatial q →
    ¬ InRect (pointKey spatial p - radiusBox radius) (pointKey spatial p + radiusBox radius)
      (pointKey spatial q)

/-- The points that remain represent all points exactly when there is a head around every
point. -/
theorem represents_iff_heads (spatial : Spatial R G V) (tree : KDTreeQ R ℕ)
    (sort : StdSort (pointSort (V := V))) (radius : R) (points : List V) (hne : points ≠ []) :
    Represents spatial radius points (filterPoints spatial tree sort radius points) ↔
      ∀ p ∈ visits spatial tree sort radius points,
        ∃ q ∈ visits spatial tree sort radius points,
          Head (visits spatial tree sort radius points) q ∧
            InRect (pointKey spatial p.point - radiusBox radius)
              (pointKey spatial p.point + radiusBox radius) (pointKey spatial q.point) := by
  constructor
  · intro h p hp
    have hpoint : p.point ∈ points := point_mem (perm_visits.mem_iff.mp hp)
    obtain ⟨q, hq, hrect⟩ := h.covered p.point hpoint
    obtain ⟨n, hn, head, rfl⟩ := mem_filterPoints.mp hq
    exact ⟨n, hn, head, hrect⟩
  · intro h
    have hcovered (p : V) (hp : p ∈ points) :
        ∃ q ∈ filterPoints spatial tree sort radius points,
          InRect (pointKey spatial p - radiusBox radius) (pointKey spatial p + radiusBox radius)
            (pointKey spatial q) := by
      obtain ⟨n, hn, rfl⟩ : ∃ n ∈ visits spatial tree sort radius points, n.point = p :=
        exists_visit hp
      obtain ⟨m, hm, head, hrect⟩ := h n hn
      exact ⟨m.point, mem_filterPoints.mpr ⟨m, hm, head, rfl⟩, hrect⟩
    constructor
    · obtain ⟨p, hp⟩ := List.exists_mem_of_ne_nil points hne
      obtain ⟨q, hq, _⟩ := hcovered p hp
      exact List.ne_nil_of_mem hq
    · exact hcovered
    · intro p hp q hq hne hrect
      obtain ⟨n, hn, head, rfl⟩ := mem_filterPoints.mp hp
      obtain ⟨m, hm, head', rfl⟩ := mem_filterPoints.mp hq
      apply not_near_of_head hn hm head head'
      exact (inRect_iff_pointNear spatial radius _ _).mp ⟨hrect, Ne.symm hne⟩

end
end Gripperz.Evaluation.AlignmentIndexCalculator
