import Gripperz.Evaluation.GripperEvaluator

/-! # What the thinning passes keep

The grasp filter and the clustering visit their nodes in order; a node that is not marked yet
marks the nodes near it. Both are greedy thinning.
-/
namespace Gripperz.Grasps.KDGraspFilter
open Math Library

variable {R G V : Type} [Field R] [LinearOrder R] [IsStrictOrderedRing R]
  (spatial : Spatial R G V) (tree : KDTreeQ R ResultPtr) (filteringBox : Q R)

/-- What a call of the filter does to the results of the candidates and to the others. -/
structure Filters (grasps : GraspTask R G V) (before after : Results R G V) : Prop where
  thins : (closeness spatial filteringBox).Thins (candidates grasps before) fun target =>
    (after target.result).testStatus ≠ .filtered
  unfiltered : ∀ target ∈ grasps.targets, (after target.result).testStatus ≠ .filtered →
    after target.result = before target.result
  untouched : ∀ ptr, (∀ target ∈ candidates grasps before, target.result ≠ ptr) →
    after ptr = before ptr

omit [Field R] [LinearOrder R] [IsStrictOrderedRing R] in
theorem injOn_candidates {grasps : GraspTask R G V} {results : Results R G V}
    (distinct : grasps.DistinctResults) :
    Set.InjOn GraspTarget.result {target | target ∈ candidates grasps results} := by
  intro a ha b hb hsame
  have hmem (target : GraspTarget G V) (h : target ∈ candidates grasps results) :
      target ∈ grasps.targets := (List.mem_filter.mp h).1
  exact List.inj_on_of_nodup_map distinct (hmem a ha) (hmem b hb) hsame

theorem filtered_iff {grasps : GraspTask R G V} {results : Results R G V} {ptr : ResultPtr} :
    ((filter spatial tree filteringBox grasps results).2 ptr).testStatus = .filtered ↔
      ptr ∈ thinned spatial filteringBox grasps results := by
  rw [filter_eq]
  change ptr ∈ (results.mark .filtered _).withStatus .filtered ↔ _
  rw [Results.withStatus_mark,
    Set.union_eq_self_of_subset_left (subset_thinned spatial filteringBox grasps results)]

theorem filters_filter {grasps : GraspTask R G V} (results : Results R G V)
    (distinct : grasps.DistinctResults) :
    Filters spatial filteringBox grasps results
      (filter spatial tree filteringBox grasps results).2 := by
  constructor
  · simp only [ne_eq, filtered_iff]
    exact Nearness.thins_thin (injOn_candidates distinct) fun _ => not_filtered_of_candidate
  · intro target _ hstays
    rw [ne_eq, filtered_iff] at hstays
    rw [filter_eq]
    exact Results.mark_of_not_mem hstays
  · intro ptr hother
    rw [filter_eq]
    by_cases hmem : ptr ∈ thinned spatial filteringBox grasps results
    · rcases mem_thinned hmem with hold | ⟨target, htarget, hresult⟩
      · have hstatus : (results ptr).testStatus = .filtered := hold
        change results.mark .filtered _ ptr = _
        rw [Results.mark_of_mem hmem, ← hstatus]
      · exact absurd hresult (hother target htarget)
    · exact Results.mark_of_not_mem hmem

end Gripperz.Grasps.KDGraspFilter

namespace Gripperz.Evaluation
open Math Library Grasps

variable {R G V : Type} [Field R] [LinearOrder R] [IsStrictOrderedRing R]

/-- The box of a radius around a point. -/
def radiusBox (radius : R) : Q R := ⟨[radius, radius, radius]⟩

/-- Points with different coordinates within the radius of each other. -/
def pointNearness (spatial : Spatial R G V) (radius : R) : Nearness V :=
  nearness (radiusBox radius) (pointKey spatial)

instance (spatial : Spatial R G V) (radius : R) :
    DecidableRel (pointNearness spatial radius).near :=
  fun _ _ => inferInstanceAs (Decidable (Near _ _ _))

theorem inRect_iff_pointNear (spatial : Spatial R G V) (radius : R) (p q : V) :
    (InRect (pointKey spatial p - radiusBox radius) (pointKey spatial p + radiusBox radius)
      (pointKey spatial q) ∧ pointKey spatial q ≠ pointKey spatial p) ↔
        (pointNearness spatial radius).near p q :=
  inRect_iff_near rfl

/-- The neighbours of a point are the points near it. -/
theorem mem_neighbourNodes (spatial : Spatial R G V) (tree : KDTreeQ R ℕ) (radius : R)
    (points : List V) (p : V) (i j : ℕ) :
    j ∈ neighbourNodes tree radius (pointNodes spatial points) ⟨pointKey spatial p, i⟩ ↔
      ∃ q, (q, j) ∈ points.zipIdx ∧ (pointNearness spatial radius).near p q := by
  have hnear := inRect_iff_pointNear spatial radius p
  simp only [neighbourNodes, pointNodes, List.mem_map, List.mem_filter, KDTreeQ.mem_nnSearchRect]
  constructor
  · rintro ⟨n, ⟨⟨⟨⟨q, k⟩, hq, rfl⟩, hrect⟩, hne⟩, rfl⟩
    exact ⟨q, hq, (hnear q).mp ⟨hrect, of_decide_eq_true hne⟩⟩
  · rintro ⟨q, hq, h⟩
    obtain ⟨hrect, hne⟩ := (hnear q).mpr h
    exact ⟨⟨pointKey spatial q, j⟩, ⟨⟨⟨(q, j), hq, rfl⟩, hrect⟩, decide_eq_true hne⟩, rfl⟩

namespace ClusteringAlignment

/-- The keys that greedy thinning of the points removes. -/
def removedKeys (spatial : Spatial R G V) (radius : R) (points : List V) : Set (Q R) :=
  (nearness (radiusBox radius) id).thin id (points.map (pointKey spatial)) ∅
    (points.map (pointKey spatial))

/-- A flag says whether the key of its point is removed. -/
def Flags (spatial : Spatial R G V) (points : List V) (filtered : ℕ → Bool)
    (removed : Set (Q R)) : Prop :=
  ∀ p ∈ points.zipIdx, filtered p.2 = true ↔ pointKey spatial p.1 ∈ removed

theorem foldl_update (filtered : ℕ → Bool) (marked : List ℕ) (i : ℕ) :
    marked.foldl (fun filtered n => Function.update filtered n true) filtered i = true ↔
      filtered i = true ∨ i ∈ marked := by
  induction marked generalizing filtered with
  | nil => simp
  | cons n marked ih =>
    rw [List.foldl_cons, ih]
    by_cases h : i = n
    · simp [h]
    · simp [h]

theorem Flags.thinOut {spatial : Spatial R G V} {points : List V} {filtered : ℕ → Bool}
    {removed : Set (Q R)} (h : Flags spatial points filtered removed) (tree : KDTreeQ R ℕ)
    (radius : R) {p : V × ℕ} (hp : p ∈ points.zipIdx) :
    Flags spatial points
      (thinOut tree radius (pointNodes spatial points) filtered ⟨pointKey spatial p.1, p.2⟩)
      ((nearness (radiusBox radius) id).visit id (points.map (pointKey spatial)) removed
        (pointKey spatial p.1)) := by
  intro q hq
  rw [ClusteringAlignment.thinOut]
  split
  · rename_i hthere
    rw [foldl_update, h q hq, mem_neighbourNodes]
    have hstays : pointKey spatial p.1 ∉ removed := fun hgone => hthere ((h p hp).mpr hgone)
    constructor
    · rintro (hgone | ⟨b, hb, hnear⟩)
      · exact Or.inl hgone
      · have hsame : b = q.1 := by
          rw [List.mem_zipIdx_iff_getElem?] at hb hq
          exact Option.some.inj (hb.symm.trans hq)
        subst hsame
        exact Or.inr ⟨hstays, _, List.mem_map_of_mem (List.fst_mem_of_mem_zipIdx hq), hnear, rfl⟩
    · rintro (hgone | ⟨_, b, _, hnear, hcell⟩)
      · exact Or.inl hgone
      · cases hcell
        exact Or.inr ⟨q.1, hq, hnear⟩
  · rename_i hgone
    rw [h q hq]
    constructor
    · exact Or.inl
    · rintro (hold | ⟨hstays, _⟩)
      · exact hold
      · exact absurd ((h p hp).mp (not_not.mp hgone)) hstays

omit [Field R] [LinearOrder R] [IsStrictOrderedRing R] in
theorem map_filter_zipIdx (points : List V) (keep : V → Bool) :
    (points.zipIdx.filter fun p => keep p.1).map Prod.fst = points.filter keep := by
  have hsplit := List.filter_map (f := Prod.fst) (p := keep) (l := points.zipIdx)
  rw [List.zipIdx_map_fst] at hsplit
  exact hsplit.symm

/-- The points that remain are those whose key greedy thinning does not remove. -/
theorem filterPoints1_eq (spatial : Spatial R G V) (tree : KDTreeQ R ℕ) (radius : R)
    (points : List V) : ∃ keep : V → Bool, filterPoints1 spatial tree radius points =
      points.filter keep ∧ ∀ p ∈ points, keep p = true ↔
        pointKey spatial p ∉ removedKeys spatial radius points := by
  classical
  have hrun (visited : List (V × ℕ)) (hvisited : ∀ p ∈ visited, p ∈ points.zipIdx)
      (filtered : ℕ → Bool) (removed : Set (Q R)) (h : Flags spatial points filtered removed) :
      Flags spatial points
        ((visited.map fun p => ⟨pointKey spatial p.1, p.2⟩).foldl
          (thinOut tree radius (pointNodes spatial points)) filtered)
        ((nearness (radiusBox radius) id).thin id (points.map (pointKey spatial)) removed
          (visited.map fun p => pointKey spatial p.1)) := by
    induction visited generalizing filtered removed with
    | nil => exact h
    | cons p visited ih =>
      apply ih (fun q hq => hvisited q (List.mem_cons_of_mem p hq))
      exact h.thinOut tree radius (hvisited p List.mem_cons_self)
  have hkeys :
      (points.zipIdx.map fun p => pointKey spatial p.1) = points.map (pointKey spatial) := by
    rw [← Function.comp_def (pointKey spatial) Prod.fst, ← List.map_map, List.zipIdx_map_fst]
  have hflags := hrun points.zipIdx (fun _ hp => hp) (fun _ => false) ∅ fun p _ => by simp
  rw [hkeys] at hflags
  refine ⟨fun p => pointKey spatial p ∉ removedKeys spatial radius points, ?_, fun p _ => by simp⟩
  have hfilter : (points.zipIdx.filter fun p =>
      ((pointNodes spatial points).foldl (thinOut tree radius (pointNodes spatial points))
        (fun _ => false)) p.2 = false) =
      points.zipIdx.filter fun p => pointKey spatial p.1 ∉ removedKeys spatial radius points := by
    apply List.filter_congr
    intro p hp
    have hp := hflags p hp
    rw [decide_eq_decide, ← Bool.not_eq_true]
    exact not_congr hp
  rw [filterPoints1, hfilter]
  exact map_filter_zipIdx points fun p => pointKey spatial p ∉ removedKeys spatial radius points

/-- The points that remain are those that come first. -/
theorem filterPoints1_eq_firsts (spatial : Spatial R G V) (tree : KDTreeQ R ℕ) (radius : R)
    (points : List V) : filterPoints1 spatial tree radius points =
      (pointNearness spatial radius).firsts [] points := by
  obtain ⟨keep, hfilter, hkeep⟩ := filterPoints1_eq spatial tree radius points
  let _ : DecidableRel (nearness (radiusBox radius) (id : Q R → Q R)).near :=
    fun _ _ => inferInstanceAs (Decidable (Near _ _ _))
  have hkeys := Nearness.firsts_map (N := nearness (radiusBox radius) id)
    (M := pointNearness spatial radius) (pointKey spatial) (fun _ _ => Iff.rfl) [] points
  rw [List.map_nil] at hkeys
  rw [hfilter, Nearness.firsts_eq [] points, List.nil_append]
  apply List.filter_congr
  intro p hp
  rw [Bool.eq_iff_iff, hkeep p hp, decide_eq_true_iff, removedKeys,
    Nearness.thin_eq_firsts (fun _ h => h), hkeys, not_iff_not]
  constructor
  · rintro ⟨-, key, hkey, hnear⟩
    obtain ⟨b, hb, rfl⟩ := List.mem_map.mp hkey
    exact ⟨b, hb, hnear⟩
  · rintro ⟨b, hb, hnear⟩
    exact ⟨List.mem_map_of_mem hp, _, List.mem_map_of_mem hb, hnear⟩

/-- Of points near each other at most one remains, and every point that does not remain is near
one that does. -/
theorem thins_filterPoints1 (spatial : Spatial R G V) (tree : KDTreeQ R ℕ) (radius : R)
    (points : List V) : ∃ keep : V → Bool, filterPoints1 spatial tree radius points =
      points.filter keep ∧ (pointNearness spatial radius).Thins points fun p => keep p = true := by
  obtain ⟨keep, hfilter, hkeep⟩ := filterPoints1_eq spatial tree radius points
  have hkeys : (nearness (radiusBox radius) id).Thins (points.map (pointKey spatial)) fun key =>
      key ∉ removedKeys spatial radius points :=
    Nearness.thins_thin (Set.injOn_id _) fun _ _ h => h
  refine ⟨keep, hfilter, ?_, ?_⟩
  · intro b hb hgone
    rw [hkeep b hb] at hgone
    obtain ⟨key, hkey, hstays, hnear⟩ := hkeys.covered _ (List.mem_map_of_mem hb) hgone
    obtain ⟨a, ha, rfl⟩ := List.mem_map.mp hkey
    exact ⟨a, ha, (hkeep a ha).mpr hstays, hnear⟩
  · intro a ha b hb hstays hstays'
    rw [hkeep a ha] at hstays
    rw [hkeep b hb] at hstays'
    exact hkeys.apart _ (List.mem_map_of_mem ha) _ (List.mem_map_of_mem hb) hstays hstays'

end ClusteringAlignment

/-- Both passes thin out greedily: the targets of the grasp filter, and the points of the
clustering. -/
theorem greedily_thinned (spatial : Spatial R G V) (tree : KDTreeQ R ℕ) (filteringBox : Q R)
    (grasps : GraspTask R G V) (results : Results R G V) (radius : R) (points : List V)
    (distinct : grasps.DistinctResults) :
    (KDGraspFilter.filter spatial tree filteringBox grasps results).1 = grasps ∧
      KDGraspFilter.Filters spatial filteringBox grasps results
        (KDGraspFilter.filter spatial tree filteringBox grasps results).2 ∧
      ∃ keep : V → Bool, ClusteringAlignment.filterPoints1 spatial tree radius points =
        points.filter keep ∧
          (pointNearness spatial radius).Thins points fun p => keep p = true := by
  have hsame : (KDGraspFilter.filter spatial tree filteringBox grasps results).1 = grasps := by
    rw [KDGraspFilter.filter_eq]
  exact ⟨hsame, KDGraspFilter.filters_filter spatial tree filteringBox results distinct,
    ClusteringAlignment.thins_filterPoints1 spatial tree radius points⟩

open GripperEvaluator in
theorem greedily_thinned_two :
    (KDGraspFilter.filter Sample.spatial Sample.robWork.tree ⟨[1, 1, 1, 0, 0, 0, 0]⟩
      (Sample.grasps 1) Sample.success).1 = Sample.grasps 1 ∧
    KDGraspFilter.Filters Sample.spatial ⟨[1, 1, 1, 0, 0, 0, 0]⟩ (Sample.grasps 1) Sample.success
      (KDGraspFilter.filter Sample.spatial Sample.robWork.tree ⟨[1, 1, 1, 0, 0, 0, 0]⟩
        (Sample.grasps 1) Sample.success).2 ∧
    ∃ keep : ℚ → Bool, ClusteringAlignment.filterPoints1 Sample.spatial Sample.robWork.tree 1
      [0, 1, 3] = [0, 1, 3].filter keep ∧
        (pointNearness Sample.spatial 1).Thins [0, 1, 3] fun p => keep p = true :=
  greedily_thinned Sample.spatial Sample.robWork.tree ⟨[1, 1, 1, 0, 0, 0, 0]⟩ (Sample.grasps 1)
    Sample.success 1 [0, 1, 3] (by decide)

end Gripperz.Evaluation
