import Gripperz.Grasps.Types
import Gripperz.Math.KDTreeQ

/-! # Grasp filters

A filter gives a new grasp set whose targets share the results of the old one, and may
rewrite these results.
-/
namespace Gripperz.Grasps
open Math Library

variable {R G V : Type}

/-! ## Copies -/

def GraspSubTask.clone (subtask : GraspSubTask R G V) : GraspSubTask R G V :=
  { subtask with targets := [] }

namespace GraspTask

def clone (tasks : GraspTask R G V) : GraspTask R G V := { tasks with subTasks := [] }

/-- A clone to which clones of the subtasks are added, with those targets that are kept. -/
def cloneWith (keep : GraspTarget G V → Bool) (tasks : GraspTask R G V) : GraspTask R G V :=
  { tasks.clone with subTasks := tasks.subTasks.map fun subtask =>
      { subtask.clone with targets := subtask.targets.filter keep } }

theorem targets_cloneWith (keep : GraspTarget G V → Bool) (tasks : GraspTask R G V) :
    (tasks.cloneWith keep).targets = tasks.targets.filter keep := by
  simp [cloneWith, targets, List.flatMap_map, List.filter_flatMap]

/-- A clone with all its targets is the grasp set itself. -/
theorem cloneWith_true (tasks : GraspTask R G V) : tasks.cloneWith (fun _ => true) = tasks := by
  simp [cloneWith, clone, GraspSubTask.clone]

end GraspTask

def copyGrasps (tasks : GraspTask R G V) (onlySuccesses : Bool) (results : Results R G V) :
    GraspTask R G V :=
  tasks.cloneWith fun target =>
    !onlySuccesses || (results target.result).testStatus = .success

namespace GraspStatistics

def countGraspsWithStatus (tasks : GraspTask R G V) (results : Results R G V)
    (result : TestStatus) : ℤ :=
  tasks.targets.countP fun target => (results target.result).testStatus = result

def countGraspTargets (grasps : GraspTask R G V) : ℤ := grasps.targets.length

end GraspStatistics

/-! ## Statuses -/

namespace Results
variable (results : Results R G V)

/-- The results at some pointers are given a status. -/
noncomputable def mark (status : TestStatus) (ptrs : Set ResultPtr) : Results R G V :=
  open Classical in fun ptr =>
    if ptr ∈ ptrs then { results ptr with testStatus := status } else results ptr

/-- The results of a status. -/
def withStatus (status : TestStatus) : Set ResultPtr :=
  {ptr | (results ptr).testStatus = status}

variable {results} {status : TestStatus} {ptrs : Set ResultPtr} {ptr : ResultPtr}

theorem mark_of_mem (h : ptr ∈ ptrs) :
    results.mark status ptrs ptr = { results ptr with testStatus := status } := if_pos h

theorem mark_of_not_mem (h : ptr ∉ ptrs) : results.mark status ptrs ptr = results ptr := if_neg h

theorem testStatus_mark_of_mem (h : ptr ∈ ptrs) :
    (results.mark status ptrs ptr).testStatus = status := by
  rw [mark_of_mem h]

theorem edit_eq_mark (ptr : ResultPtr) :
    results.edit ptr (fun r => { r with testStatus := status }) = results.mark status {ptr} := by
  funext ptr'
  by_cases h : ptr' = ptr
  · subst h
    rw [edit_self, mark_of_mem (Set.mem_singleton ptr')]
  · rw [edit_of_ne _ _ h, mark_of_not_mem (by simpa using h)]

theorem mark_mark (ptrs' : Set ResultPtr) :
    (results.mark status ptrs).mark status ptrs' = results.mark status (ptrs ∪ ptrs') := by
  funext ptr
  by_cases h : ptr ∈ ptrs <;> by_cases h' : ptr ∈ ptrs' <;> simp [mark, h, h']

theorem withStatus_mark :
    (results.mark status ptrs).withStatus status = results.withStatus status ∪ ptrs := by
  ext ptr
  by_cases h : ptr ∈ ptrs <;> simp [withStatus, mark, h]

/-- Marking changes nothing when the results have the status already. -/
theorem mark_of_subset (h : ptrs ⊆ results.withStatus status) :
    results.mark status ptrs = results := by
  funext ptr
  by_cases hmem : ptr ∈ ptrs
  · have hstatus : (results ptr).testStatus = status := h hmem
    rw [mark_of_mem hmem, ← hstatus]
  · exact mark_of_not_mem hmem

theorem mark_empty : results.mark status ∅ = results := mark_of_subset (Set.empty_subset _)

/-- Marking a list of pointers one after the other. -/
theorem foldl_edit {α : Type} (value : α → ResultPtr) (l : List α) :
    l.foldl (fun results a => results.edit (value a) fun r => { r with testStatus := status })
      results = results.mark status {ptr | ∃ a ∈ l, value a = ptr} := by
  induction l generalizing results with
  | nil => simp [mark_empty]
  | cons a l ih =>
    rw [List.foldl_cons, ih, edit_eq_mark, mark_mark]
    congr 1
    ext ptr
    simp [eq_comm]

end Results

/-! ## The filters -/

/-- `GraspFilter::filter`. -/
abbrev GraspFilter (R G V : Type) :=
  GraspTask R G V → Results R G V → GraspTask R G V × Results R G V

/-- `GraspFilterChain::filter`. -/
def GraspFilterChain.filter (filters : List (GraspFilter R G V)) : GraspFilter R G V :=
  fun grasps results => filters.foldl (fun filtered f => f filtered.1 filtered.2) (grasps, results)

namespace GraspStatusFilter

def isAllowed (allowedStatuses : List TestStatus) (status : TestStatus) : Bool :=
  allowedStatuses.any fun s => status = s

def filter (allowedStatuses : List TestStatus) : GraspFilter R G V := fun grasps results =>
  (grasps.cloneWith fun target => isAllowed allowedStatuses (results target.result).testStatus,
    results)

end GraspStatusFilter

namespace ClearStatusFilter

def clear (results : Results R G V) (target : GraspTarget G V) : Results R G V :=
  if (results target.result).testStatus ≠ .skip then
    results.edit target.result fun r => { r with testStatus := .unInitialized }
  else results

def filter : GraspFilter R G V := fun grasps results =>
  (grasps.cloneWith fun _ => true, grasps.targets.foldl clear results)

/-- Every status but `Skip` is cleared. -/
theorem filter_results (grasps : GraspTask R G V) (results : Results R G V) :
    (filter grasps results).2 = results.mark .unInitialized
      {ptr | (∃ target ∈ grasps.targets, target.result = ptr) ∧
        (results ptr).testStatus ≠ .skip} := by
  change grasps.targets.foldl clear results = _
  induction grasps.targets generalizing results with
  | nil => simp [Results.mark_empty]
  | cons target targets ih =>
    have hclear : clear results target = results.mark .unInitialized
        {ptr | target.result = ptr ∧ (results ptr).testStatus ≠ .skip} := by
      unfold clear
      split
      · rename_i hskip
        rw [Results.edit_eq_mark]
        congr 1
        ext ptr
        constructor
        · rintro rfl
          exact ⟨rfl, hskip⟩
        · exact fun h => h.1.symm
      · rename_i hskip
        rw [Results.mark_of_subset]
        rintro ptr ⟨rfl, h⟩
        exact absurd h hskip
    have hskip (ptr : ResultPtr) :
        (clear results target ptr).testStatus ≠ .skip ↔ (results ptr).testStatus ≠ .skip := by
      rw [hclear, Results.mark]
      split
      · rename_i h
        simp [h.2]
      · rfl
    rw [List.foldl_cons, ih]
    simp only [hskip]
    rw [hclear, Results.mark_mark]
    congr 1
    ext ptr
    simp only [Set.mem_union, Set.mem_ofPred_eq, List.mem_cons, exists_eq_or_imp]
    tauto

end ClearStatusFilter

namespace KDGraspFilter
variable [Field R] [LinearOrder R]

/-- The statuses of the targets that are thinned out. -/
def isCandidate : TestStatus → Bool
  | .success | .interference | .objectSlipped | .unInitialized => true
  | _ => false

def key (spatial : Spatial R G V) (pose : Transform3D G V) : Q R :=
  ⟨[spatial.coord pose.P 0, spatial.coord pose.P 1, spatial.coord pose.P 2,
    spatial.coord (spatial.axis pose.R) 0, spatial.coord (spatial.axis pose.R) 1,
    spatial.coord (spatial.axis pose.R) 2, spatial.angle pose.R]⟩

def candidates (grasps : GraspTask R G V) (results : Results R G V) : List (GraspTarget G V) :=
  grasps.targets.filter fun target => isCandidate (results target.result).testStatus

def node (spatial : Spatial R G V) (target : GraspTarget G V) : KDNode R ResultPtr :=
  ⟨key spatial target.pose, target.result⟩

/-- One round of the loop over the nodes. -/
def thinOut (tree : KDTreeQ R ResultPtr) (filteringBox : Q R) (nodes : List (KDNode R ResultPtr))
    (results : Results R G V) (node : KDNode R ResultPtr) : Results R G V :=
  if (results node.value).testStatus ≠ .filtered then
    (tree.nnSearchRect nodes (node.key - filteringBox) (node.key + filteringBox)).foldl
      (fun results n => if n.key = node.key then results
        else results.edit n.value fun r => { r with testStatus := .filtered }) results
  else results

def filter (spatial : Spatial R G V) (tree : KDTreeQ R ResultPtr) (filteringBox : Q R) :
    GraspFilter R G V := fun grasps results =>
  let filteredGrasps := copyGrasps grasps false results
  let nodes := (candidates filteredGrasps results).map (node spatial)
  (filteredGrasps, nodes.foldl (thinOut tree filteringBox nodes) results)

/-! ## What is marked -/

variable [IsStrictOrderedRing R] (spatial : Spatial R G V) (tree : KDTreeQ R ResultPtr)
  (filteringBox : Q R)

/-- Targets with different keys in each other's box. -/
def closeness : Nearness (GraspTarget G V) :=
  nearness filteringBox fun target => key spatial target.pose

/-- The results marked by the filter and those that were marked before. -/
def thinned (grasps : GraspTask R G V) (results : Results R G V) : Set ResultPtr :=
  (closeness spatial filteringBox).thin GraspTarget.result (candidates grasps results)
    (results.withStatus .filtered) (candidates grasps results)

theorem thinOut_eq (targets : List (GraspTarget G V)) (results : Results R G V)
    (target : GraspTarget G V) :
    thinOut tree filteringBox (targets.map (node spatial)) results (node spatial target) =
      results.mark .filtered ((closeness spatial filteringBox).visit GraspTarget.result targets
        (results.withStatus .filtered) target) := by
  set nodes := targets.map (node spatial)
  have hsize (other : GraspTarget G V) :
      (node spatial target).key.size = (node spatial other).key.size := rfl
  have hfound (n : KDNode R ResultPtr) :
      n ∈ (tree.nnSearchRect nodes ((node spatial target).key - filteringBox)
        ((node spatial target).key + filteringBox)).filter
          (fun n => n.key ≠ (node spatial target).key) ↔
      ∃ other ∈ targets, (closeness spatial filteringBox).near target other ∧
        node spatial other = n := by
    rw [List.mem_filter, KDTreeQ.mem_nnSearchRect, List.mem_map]
    constructor
    · rintro ⟨⟨⟨other, hother, rfl⟩, hrect⟩, hne⟩
      have hkey : (node spatial other).key ≠ (node spatial target).key := of_decide_eq_true hne
      exact ⟨other, hother, (inRect_iff_near (hsize other)).mp ⟨hrect, hkey⟩, rfl⟩
    · rintro ⟨other, hother, hnear, rfl⟩
      obtain ⟨hrect, hkey⟩ := (inRect_iff_near (hsize other)).mpr hnear
      exact ⟨⟨⟨other, hother, rfl⟩, hrect⟩, decide_eq_true hkey⟩
  unfold thinOut
  split
  · rename_i hthere
    have hskip : (fun (results : Results R G V) (n : KDNode R ResultPtr) =>
        if n.key = (node spatial target).key then results
        else results.edit n.value fun r => { r with testStatus := .filtered }) =
        fun results n => if decide (n.key ≠ (node spatial target).key) = true then
          results.edit n.value fun r => { r with testStatus := .filtered } else results := by
      funext results n
      by_cases h : n.key = (node spatial target).key <;> simp [h]
    rw [hskip, ← List.foldl_filter, Results.foldl_edit]
    have hold : results = results.mark .filtered (results.withStatus .filtered) :=
      (Results.mark_of_subset (Set.Subset.refl _)).symm
    conv_lhs => rw [hold]
    rw [Results.mark_mark]
    congr 1
    ext ptr
    simp only [hfound, Set.mem_union, Set.mem_ofPred_eq, Nearness.visit]
    constructor
    · rintro (h | ⟨_, ⟨other, hother, hnear, rfl⟩, rfl⟩)
      · exact Or.inl h
      · exact Or.inr ⟨hthere, other, hother, hnear, rfl⟩
    · rintro (h | ⟨_, other, hother, hnear, rfl⟩)
      · exact Or.inl h
      · exact Or.inr ⟨_, ⟨other, hother, hnear, rfl⟩, rfl⟩
  · rename_i hgone
    rw [Results.mark_of_subset]
    rintro ptr (h | ⟨hthere, _⟩)
    · exact h
    · exact absurd hthere hgone

/-- The filter marks the results that greedy thinning removes, and changes nothing else. -/
theorem filter_eq (grasps : GraspTask R G V) (results : Results R G V) :
    filter spatial tree filteringBox grasps results =
      (grasps, results.mark .filtered (thinned spatial filteringBox grasps results)) := by
  have hcopy : copyGrasps grasps false results = grasps := grasps.cloneWith_true
  simp only [filter, hcopy, thinned]
  congr 1
  set targets := candidates grasps results
  have hrun (visited : List (GraspTarget G V)) (results : Results R G V) :
      (visited.map (node spatial)).foldl
          (thinOut tree filteringBox (targets.map (node spatial))) results =
        results.mark .filtered ((closeness spatial filteringBox).thin GraspTarget.result targets
          (results.withStatus .filtered) visited) := by
    induction visited generalizing results with
    | nil => exact (Results.mark_of_subset (Set.Subset.refl _)).symm
    | cons target visited ih =>
      rw [List.map_cons, List.foldl_cons, ih, thinOut_eq, Results.withStatus_mark,
        Results.mark_mark]
      have hvisit : results.withStatus .filtered ∪
          (closeness spatial filteringBox).visit GraspTarget.result targets
            (results.withStatus .filtered) target =
          (closeness spatial filteringBox).visit GraspTarget.result targets
            (results.withStatus .filtered) target :=
        Set.union_eq_self_of_subset_left (Nearness.subset_visit target)
      rw [hvisit, Set.union_eq_self_of_subset_left Nearness.subset_thin]
      rfl
  exact hrun targets results

/-- No two of the targets that would be thinned out are close. -/
def Sparse (grasps : GraspTask R G V) (results : Results R G V) : Prop :=
  ∀ p ∈ candidates grasps results, ∀ q ∈ candidates grasps results,
    ¬ Near filteringBox (key spatial p.pose) (key spatial q.pose)

instance (grasps : GraspTask R G V) (results : Results R G V) :
    Decidable (Sparse spatial filteringBox grasps results) :=
  inferInstanceAs (Decidable (∀ p ∈ candidates grasps results, ∀ q ∈ candidates grasps results, _))

omit [Field R] [LinearOrder R] [IsStrictOrderedRing R] in
theorem not_filtered_of_candidate {grasps : GraspTask R G V} {results : Results R G V}
    {target : GraspTarget G V} (h : target ∈ candidates grasps results) :
    target.result ∉ results.withStatus .filtered := by
  intro hfiltered
  have hcandidate := (List.mem_filter.mp h).2
  have hstatus : (results target.result).testStatus = .filtered := hfiltered
  rw [hstatus] at hcandidate
  cases hcandidate

theorem subset_thinned (grasps : GraspTask R G V) (results : Results R G V) :
    results.withStatus .filtered ⊆ thinned spatial filteringBox grasps results :=
  Nearness.subset_thin

variable {spatial filteringBox} in
/-- Only candidates are marked. -/
theorem mem_thinned {grasps : GraspTask R G V} {results : Results R G V} {ptr : ResultPtr}
    (h : ptr ∈ thinned spatial filteringBox grasps results) :
    ptr ∈ results.withStatus .filtered ∨
      ∃ target ∈ candidates grasps results, target.result = ptr := by
  rcases Nearness.mem_thin h with h | ⟨_, _, target, htarget, _, hresult⟩
  · exact Or.inl h
  · exact Or.inr ⟨target, htarget, hresult⟩

/-- Nothing is marked exactly when no two candidates are close. -/
theorem thinned_eq_iff (grasps : GraspTask R G V) (results : Results R G V) :
    thinned spatial filteringBox grasps results = results.withStatus .filtered ↔
      Sparse spatial filteringBox grasps results :=
  Nearness.thin_eq_iff fun _ => not_filtered_of_candidate

end KDGraspFilter
end Gripperz.Grasps
