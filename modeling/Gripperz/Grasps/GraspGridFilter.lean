import Gripperz.Grasps.Filters
import Gripperz.Library.Sweep
import Mathlib.Algebra.Order.BigOperators.Group.List
import Mathlib.Algebra.Order.Archimedean.Basic
import Mathlib.Algebra.Module.Rat
import Mathlib.Tactic.IntervalCases

/-! # The grid filter

Each target is replaced by a grid of targets around it: along each of the six dimensions that
has a resolution, the targets made so far are repeated at evenly spaced displacements.
-/
namespace Gripperz.Grasps
open Math Library

variable {R G V : Type}

/-- Why there is no grid: an assertion failed, or a loop was given up. -/
inductive GridError where
  | assertion
  | givenUp
  deriving DecidableEq, Repr

structure GraspGridFilter (R : Type) where
  min : List R
  max : List R
  res : List ℤ

namespace GraspGridFilter
variable [Zero R] [Group G] [AddCommGroup V] [DistribMulAction G V] (build : FromNumbers R G V)
  (null : ResultPtr) (filter : GraspGridFilter R)

def getTransform (i : ℕ) (xi : R) : Transform3D G V :=
  match i with
  | 0 => ⟨1, build.vector3D xi 0 0⟩
  | 1 => ⟨1, build.vector3D 0 xi 0⟩
  | 2 => ⟨1, build.vector3D 0 0 xi⟩
  | 3 => ⟨build.rpy xi 0 0, 0⟩
  | 4 => ⟨build.rpy 0 xi 0, 0⟩
  | 5 => ⟨build.rpy 0 0 xi, 0⟩
  | _ => 1

/-- The numbers a vector holds for a dimension. -/
def minAt (i : ℕ) : R := filter.min.getD i 0
def maxAt (i : ℕ) : R := filter.max.getD i 0
def resAt (i : ℕ) : ℤ := filter.res.getD i 0

variable [Sub R] [Div R] [IntCast R]

def dxi (i : ℕ) : R := (filter.maxAt i - filter.minAt i) / ((filter.resAt i - 1 : ℤ) : R)

variable [Add R] [OfScientific R] [LE R] [DecidableLE R]

/-- The values of `xi`, the loop given up after `fuel` tests. -/
def values (fuel i : ℕ) : Except GridError (List R) :=
  match sweep (filter.maxAt i + 1e-6) (filter.dxi i) fuel (filter.minAt i) with
  | none => .error .givenUp
  | some xs => .ok xs

def makeOneDimension (fuel : ℕ) (seeds : List (GraspTarget G V)) (i : ℕ) :
    Except GridError (List (GraspTarget G V)) :=
  if ¬ i < 6 then .error .assertion
  else if filter.resAt i ≤ 1 then .ok seeds
  else (seeds.mapM fun seed => (filter.values fuel i).map fun xs =>
    xs.map fun xi => newGraspTarget null (seed.pose * getTransform build i xi)).map List.flatten

def makeGrid (fuel : ℕ) (seed : GraspTarget G V) : Except GridError (List (GraspTarget G V)) :=
  if filter.min.length ≠ 6 then .error .assertion
  else if filter.max.length ≠ 6 then .error .assertion
  else if filter.res.length ≠ 6 then .error .assertion
  else (List.range 6).foldlM (filter.makeOneDimension build null fuel) [seed]

/-- The targets of a subtask, replaced one after the other. -/
def filterSubTask (fuel : ℕ) (subtask : GraspSubTask R G V) :
    Except GridError (GraspSubTask R G V) :=
  subtask.targets.foldlM (fun copy target =>
    (filter.makeGrid build null fuel target).map fun grid =>
      { copy with targets := copy.targets ++ grid }) subtask.clone

end GraspGridFilter

/-- `GraspGridFilter::filter`, its loops given up after `fuel` tests. -/
def GraspGridFilter.filter [Zero R] [Sub R] [Div R] [IntCast R] [Add R] [OfScientific R] [LE R]
    [DecidableLE R] [Group G] [AddCommGroup V] [DistribMulAction G V] (build : FromNumbers R G V)
    (null : ResultPtr) (f : GraspGridFilter R) (fuel : ℕ) (grasps : GraspTask R G V) :
    Except GridError (GraspTask R G V) :=
  grasps.subTasks.foldlM (fun filtered subtask =>
    (f.filterSubTask build null fuel subtask).map fun copy =>
      { filtered with subTasks := filtered.subTasks ++ [copy] }) grasps.clone

namespace GraspGridFilter

/-! ## The grid of a seed -/

section
variable [Zero R] [Group G] [AddCommGroup V] [DistribMulAction G V] (build : FromNumbers R G V)
  (null : ResultPtr) (f : GraspGridFilter R)

/-- The vectors have a number for each dimension. -/
structure Sized : Prop where
  min : f.min.length = 6
  max : f.max.length = 6
  res : f.res.length = 6

/-- The values of `xi` in each dimension with a resolution. -/
def oneDimension (xs : List R) (seeds : List (GraspTarget G V)) (i : ℕ) :
    List (GraspTarget G V) :=
  if f.resAt i ≤ 1 then seeds
  else seeds.flatMap fun seed =>
    xs.map fun xi => newGraspTarget null (seed.pose * getTransform build i xi)

def grid (xs : ℕ → List R) (seed : GraspTarget G V) : List (GraspTarget G V) :=
  (List.range 6).foldl (fun seeds i => f.oneDimension build null (xs i) seeds i) [seed]

/-- The displacements in a dimension. -/
def displacements (xs : List R) (i : ℕ) : List (Transform3D G V) :=
  if f.resAt i ≤ 1 then [1] else xs.map (getTransform build i)

theorem map_pose_oneDimension (xs : List R) (seeds : List (GraspTarget G V)) (i : ℕ) :
    (f.oneDimension build null xs seeds i).map GraspTarget.pose =
      (seeds.map GraspTarget.pose).flatMap fun pose =>
        (f.displacements build xs i).map (pose * ·) := by
  unfold oneDimension displacements
  split
  · simp [List.flatMap_singleton']
  · rw [List.map_flatMap, List.flatMap_map]
    simp only [List.map_map]
    rfl

/-- The poses of the grid: the seed's, displaced along each dimension in turn. -/
theorem map_pose_grid (xs : ℕ → List R) (seed : GraspTarget G V) :
    (f.grid build null xs seed).map GraspTarget.pose =
      (f.displacements build (xs 0) 0).flatMap fun tx =>
      (f.displacements build (xs 1) 1).flatMap fun ty =>
      (f.displacements build (xs 2) 2).flatMap fun tz =>
      (f.displacements build (xs 3) 3).flatMap fun troll =>
      (f.displacements build (xs 4) 4).flatMap fun tpitch =>
      (f.displacements build (xs 5) 5).map fun tyaw =>
        seed.pose * tx * ty * tz * troll * tpitch * tyaw := by
  change (f.oneDimension build null (xs 5) (f.oneDimension build null (xs 4)
    (f.oneDimension build null (xs 3) (f.oneDimension build null (xs 2)
    (f.oneDimension build null (xs 1) (f.oneDimension build null (xs 0) [seed] 0) 1) 2) 3) 4)
    5).map GraspTarget.pose = _
  simp only [map_pose_oneDimension, List.map_singleton, List.flatMap_singleton, List.flatMap_map,
    List.flatMap_assoc]

variable [Sub R] [Div R] [IntCast R] [Add R] [OfScientific R] [LE R] [DecidableLE R] {f}
  {fuel : ℕ}

theorem foldlM_eq_ok {α β ε : Type} {step : β → α → Except ε β} {g : β → α → β} {l : List α}
    (h : ∀ s, ∀ a ∈ l, step s a = .ok (g s a)) (s : β) :
    l.foldlM step s = .ok (l.foldl g s) := by
  induction l generalizing s with
  | nil => rfl
  | cons a l ih =>
    rw [List.foldlM_cons, h s a List.mem_cons_self]
    exact ih (fun s a ha => h s a (List.mem_cons_of_mem _ ha)) (g s a)

theorem makeOneDimension_eq {i : ℕ} {xs : List R} (hi : i < 6)
    (h : 1 < f.resAt i → f.values fuel i = .ok xs) (seeds : List (GraspTarget G V)) :
    f.makeOneDimension build null fuel seeds i = .ok (f.oneDimension build null xs seeds i) := by
  unfold makeOneDimension oneDimension
  rw [if_neg (not_not.mpr hi)]
  split
  · rfl
  · rename_i hres
    rw [h (not_le.mp hres)]
    change (seeds.mapM fun seed => (pure (xs.map fun xi =>
      newGraspTarget null (seed.pose * getTransform build i xi)) : Except GridError _)).map
        List.flatten = _
    rw [List.mapM_pure]
    rfl

theorem makeGrid_eq {xs : ℕ → List R} (hsized : f.Sized)
    (h : ∀ i < 6, 1 < f.resAt i → f.values fuel i = .ok (xs i)) (seed : GraspTarget G V) :
    f.makeGrid build null fuel seed = .ok (f.grid build null xs seed) := by
  unfold makeGrid
  rw [if_neg (not_not.mpr hsized.min), if_neg (not_not.mpr hsized.max),
    if_neg (not_not.mpr hsized.res)]
  apply foldlM_eq_ok
  intro seeds i hi
  exact makeOneDimension_eq build null (List.mem_range.mp hi) (h i (List.mem_range.mp hi)) seeds

theorem filterSubTask_eq {grid : GraspTarget G V → List (GraspTarget G V)}
    (h : ∀ seed, f.makeGrid build null fuel seed = .ok (grid seed)) (subtask : GraspSubTask R G V) :
    f.filterSubTask build null fuel subtask =
      .ok { subtask with targets := subtask.targets.flatMap grid } := by
  have hfold (copy : GraspSubTask R G V) (targets : List (GraspTarget G V)) :
      targets.foldl (fun copy target => { copy with targets := copy.targets ++ grid target }) copy =
        { copy with targets := copy.targets ++ targets.flatMap grid } := by
    induction targets generalizing copy with
    | nil => simp
    | cons target targets ih => simp [ih]
  rw [filterSubTask, foldlM_eq_ok (g := fun copy target =>
    { copy with targets := copy.targets ++ grid target }), hfold]
  · rfl
  · intro copy target _
    rw [h]
    rfl

theorem filter_eq {grid : GraspTarget G V → List (GraspTarget G V)}
    (h : ∀ seed, f.makeGrid build null fuel seed = .ok (grid seed)) (grasps : GraspTask R G V) :
    f.filter build null fuel grasps =
      .ok { grasps with subTasks := grasps.subTasks.map fun subtask =>
        { subtask with targets := subtask.targets.flatMap grid } } := by
  have hfold (filtered : GraspTask R G V) (subTasks : List (GraspSubTask R G V)) :
      subTasks.foldl (fun filtered subtask => { filtered with subTasks := filtered.subTasks ++
        [{ subtask with targets := subtask.targets.flatMap grid }] }) filtered =
      { filtered with subTasks := filtered.subTasks ++ subTasks.map fun subtask =>
        { subtask with targets := subtask.targets.flatMap grid } } := by
    induction subTasks generalizing filtered with
    | nil => simp
    | cons subtask subTasks ih => simp [ih]
  rw [filter, foldlM_eq_ok (g := fun filtered subtask => { filtered with subTasks :=
    filtered.subTasks ++ [{ subtask with targets := subtask.targets.flatMap grid }] }), hfold]
  · rfl
  · intro filtered subtask _
    rw [filterSubTask_eq build null h]
    rfl

end

/-! ## The full grid -/

variable [Field R] [Group G] [AddCommGroup V] [DistribMulAction G V] (build : FromNumbers R G V)
  (null : ResultPtr) (f : GraspGridFilter R)

/-- The number of values in a dimension. -/
def steps (i : ℕ) : ℕ := Max.max 1 (f.resAt i).toNat

/-- The displacement of step `k` in a dimension. -/
def place (i k : ℕ) : Transform3D G V :=
  if f.resAt i ≤ 1 then 1
  else getTransform build i
    (f.minAt i + k * (f.maxAt i - f.minAt i) / ((f.resAt i - 1 : ℤ) : R))

/-- A seed displaced to all places of the six dimensions. -/
def gridPoses (seed : Transform3D G V) : List (Transform3D G V) :=
  (List.range (f.steps 0)).flatMap fun x =>
  (List.range (f.steps 1)).flatMap fun y =>
  (List.range (f.steps 2)).flatMap fun z =>
  (List.range (f.steps 3)).flatMap fun roll =>
  (List.range (f.steps 4)).flatMap fun pitch =>
  (List.range (f.steps 5)).map fun yaw =>
    seed * f.place build 0 x * f.place build 1 y * f.place build 2 z *
      f.place build 3 roll * f.place build 4 pitch * f.place build 5 yaw

theorem length_gridPoses (seed : Transform3D G V) :
    (f.gridPoses build seed).length = ((List.range 6).map f.steps).prod := by
  simp only [gridPoses, List.length_flatMap, List.length_map, List.length_range, List.map_const',
    List.sum_replicate, smul_eq_mul]
  simp [List.range_succ]

/-- The values of a dimension with its limits apart. -/
def evenly (i : ℕ) : List R :=
  (List.range (f.steps i)).map fun k : ℕ => f.minAt i + k * f.dxi i

omit [DistribMulAction G V] in
theorem displacements_evenly (i : ℕ) :
    f.displacements build (f.evenly i) i = (List.range (f.steps i)).map (f.place build i) := by
  unfold displacements
  split
  · rename_i hres
    have hone : f.steps i = 1 := by
      simp only [steps]
      omega
    simp [hone, place, hres]
  · rename_i hres
    unfold evenly
    rw [List.map_map]
    apply List.map_congr_left
    intro k _
    simp only [Function.comp, place, if_neg hres, dxi, mul_div_assoc]

section
variable [LinearOrder R] [IsStrictOrderedRing R] {f}

theorem pos_of_res {i : ℕ} (hres : 1 < f.resAt i) : (0 : R) < ((f.resAt i - 1 : ℤ) : R) := by
  have hpos : 0 < f.resAt i - 1 := by omega
  exact_mod_cast hpos

theorem dxi_pos_iff {i : ℕ} (hres : 1 < f.resAt i) : 0 < f.dxi i ↔ f.minAt i < f.maxAt i := by
  unfold dxi
  rw [div_pos_iff_of_pos_right (pos_of_res hres), sub_pos]

/-- A step that is larger than the tolerance leads to the upper limit and beyond it. -/
theorem values_eq {fuel i : ℕ} (hres : 1 < f.resAt i) (hdxi : 1 / 1000000 < f.dxi i)
    (hfuel : f.steps i < fuel) : f.values fuel i = .ok (f.evenly i) := by
  have hpos : (0 : R) < 1 / 1000000 := by positivity
  have hsteps : ((f.steps i : ℕ) : R) = ((f.resAt i - 1 : ℤ) : R) + 1 := by
    have hcast : ((f.steps i : ℕ) : ℤ) = f.resAt i - 1 + 1 := by
      simp only [steps]
      omega
    exact_mod_cast congrArg (Int.cast (R := R)) hcast
  have hspan : ((f.resAt i - 1 : ℤ) : R) * f.dxi i = f.maxAt i - f.minAt i :=
    mul_div_cancel₀ _ (pos_of_res hres).ne'
  unfold values evenly
  rw [sweep_eq _ _ hfuel]
  · intro k hk
    have hle : (k : R) + 1 ≤ ((f.resAt i - 1 : ℤ) : R) + 1 := by
      rw [← hsteps]
      exact_mod_cast hk
    have hmul := mul_le_mul_of_nonneg_right (by linarith : (k : R) ≤ ((f.resAt i - 1 : ℤ) : R))
      (hpos.trans hdxi).le
    linarith
  · rw [hsteps, add_mul, hspan, one_mul]
    linarith

/-- The filter keeps the subtasks and replaces each target by its full grid, when the limits of
every dimension with a resolution are apart by steps larger than the tolerance of the loop. -/
theorem filter_full_grid (hsized : f.Sized)
    (hspaced : ∀ i < 6, 1 < f.resAt i → f.minAt i < f.maxAt i ∧ 1 / 1000000 < f.dxi i)
    (grasps : GraspTask R G V) :
    ∃ grid : GraspTarget G V → List (GraspTarget G V),
      (∀ seed, (grid seed).map GraspTarget.pose = f.gridPoses build seed.pose ∧
        (grid seed).length = ((List.range 6).map f.steps).prod) ∧
      ∃ enough, ∀ fuel, enough ≤ fuel → f.filter build null fuel grasps =
        .ok { grasps with subTasks := grasps.subTasks.map fun subtask =>
          { subtask with targets := subtask.targets.flatMap grid } } := by
  have hposes (seed : GraspTarget G V) :
      (f.grid build null f.evenly seed).map GraspTarget.pose = f.gridPoses build seed.pose := by
    rw [map_pose_grid]
    simp only [displacements_evenly, List.flatMap_map, List.map_map]
    rfl
  refine ⟨f.grid build null f.evenly, fun seed => ⟨hposes seed, ?_⟩,
    ((List.range 6).map f.steps).sum + 1, ?_⟩
  · rw [← length_gridPoses build f seed.pose, ← hposes seed, List.length_map]
  · intro fuel hfuel
    apply filter_eq
    intro seed
    apply makeGrid_eq build null hsized
    intro i hi hres
    apply values_eq hres (hspaced i hi hres).2
    have hmem : f.steps i ∈ (List.range 6).map f.steps :=
      List.mem_map_of_mem (List.mem_range.mpr hi)
    have hsum := List.single_le_sum (fun _ _ => Nat.zero_le _) _ hmem
    omega

end

namespace Sample

def numbers : FromNumbers ℚ ℤˣ ℚ where
  vector3D x y z := x + y + z
  rpy _ _ _ := 1
  eaa _ _ _ := 1

/-- A grid in two dimensions. -/
def plane : GraspGridFilter ℚ where
  min := [0, 0, 0, 0, 0, 0]
  max := [1, 1, 0, 0, 0, 0]
  res := [2, 3, 1, 1, 1, 1]

def seed : GraspTarget ℤˣ ℚ := ⟨⟨1, 0⟩, 1⟩

def grasps : GraspTask ℚ ℤˣ ℚ where
  gripperID := "gripper"
  tcpID := "TCP"
  subTasks := [⟨"WORLD", ⟨1, 0⟩, ⟨1, 0⟩, ⟨1, 0⟩, ⟨[]⟩, [seed, seed]⟩]

end Sample

theorem filter_full_grid_plane :
    ∃ grid : GraspTarget ℤˣ ℚ → List (GraspTarget ℤˣ ℚ),
      (∀ seed, (grid seed).map GraspTarget.pose = Sample.plane.gridPoses Sample.numbers seed.pose ∧
        (grid seed).length = ((List.range 6).map Sample.plane.steps).prod) ∧
      ∃ enough, ∀ fuel, enough ≤ fuel → Sample.plane.filter Sample.numbers 0 fuel Sample.grasps =
        .ok { Sample.grasps with subTasks := Sample.grasps.subTasks.map fun subtask =>
          { subtask with targets := subtask.targets.flatMap grid } } := by
  apply filter_full_grid Sample.numbers 0 ⟨rfl, rfl, rfl⟩ _ Sample.grasps
  intro i hi
  interval_cases i <;> norm_num [Sample.plane, resAt, minAt, maxAt, dxi]

end GraspGridFilter
end Gripperz.Grasps
