import Mathlib.Algebra.Module.Rat
import Mathlib.Algebra.Order.Ring.Abs
import Mathlib.Tactic.Linarith
import Mathlib.Tactic.Ring
import Gripperz.Grasps.Filters
import Gripperz.Simulation.Poses

/-! # The robustness filter

Targets are picked at random from all subtasks, displaced at random, and put into a copy of the
first subtask. They keep their place in the world exactly when the first subtask puts each
target where some target of the grasp set is.
-/
namespace Gripperz.Grasps
open Math Simulation

variable {R G V S : Type} [Field R] [LinearOrder R]

/-- A number of the random number generator. -/
abbrev Uniform (R : Type) [Field R] [LinearOrder R] := {u : R // 0 ≤ u ∧ u < 1}

/-- `Math::ran(from, to)`. -/
def ran (lower upper : R) (u : Uniform R) : R := lower + (upper - lower) * u.1

/-- The random numbers of one round: `Math::ranI(0, n)`, and those of the displacement. -/
structure Draw (R : Type) [Field R] [LinearOrder R] (n : ℕ) where
  idx : Fin n
  pos : Uniform R × Uniform R × Uniform R
  rot : Uniform R × Uniform R × Uniform R

structure RobustnessGraspFilter (R : Type) where
  numberOfGrasps : ℕ
  positionUncertainty : R
  angleUncertainty : R

namespace RobustnessGraspFilter
variable [Group G] [AddCommGroup V] [DistribMulAction G V] (build : FromNumbers R G V)
  (null : ResultPtr) (f : RobustnessGraspFilter R)

/-- The displacement of a round. -/
def displacement {n : ℕ} (draw : Draw R n) : Transform3D G V :=
  let position := ran (-f.positionUncertainty) f.positionUncertainty
  let angle := ran (-f.angleUncertainty) f.angleUncertainty
  ⟨build.eaa (angle draw.rot.1) (angle draw.rot.2.1) (angle draw.rot.2.2),
    build.vector3D (position draw.pos.1) (position draw.pos.2.1) (position draw.pos.2.2)⟩

/-- The target of a round. -/
def perturb (targets : List (GraspTarget G V)) (draw : Draw R targets.length) : GraspTarget G V :=
  newGraspTarget null ((targets.get draw.idx).pose * f.displacement build draw)

/-- One round of the loop. -/
def addPerturbed (targets : List (GraspTarget G V)) (draw : Draw R targets.length)
    (stask : GraspSubTask R G V) : GraspSubTask R G V :=
  { stask with targets := stask.targets ++ [f.perturb build null targets draw] }

def filter (grasps : GraspTask R G V) (draws : ℕ → Draw R grasps.targets.length) :
    GraspTask R G V :=
  if grasps.targets.length = 0 then grasps.clone
  else match grasps.subTasks with
    | [] => grasps.clone
    | first :: _ =>
      let stask := (List.range f.numberOfGrasps).foldl
        (fun stask generated => f.addPerturbed build null grasps.targets (draws generated) stask)
        first.clone
      { grasps.clone with subTasks := [stask] }

/-! ## Poses in the world -/

/-- The pose of a target in the world, given those of the frames. -/
def worldPose (wTf : String → Transform3D G V) (subtask : GraspSubTask R G V)
    (target : GraspTarget G V) : Transform3D G V :=
  wTf subtask.refFrame * subtask.offset * target.pose

omit [Field R] [LinearOrder R] in
/-- The simulator brings the hand to this pose. -/
theorem worldPose_of_posedFor {wc : WorkCell R G V S} {mbase tcp : String}
    {subtask : GraspSubTask R G V} {target : GraspTarget G V} {own : SimState R G V S}
    (h : PosedFor wc mbase tcp subtask target own) :
    own.wTtcp_initTarget * subtask.approach =
      worldPose (fun frame => wc.worldTframe frame own.homeState) subtask target := by
  rw [h.start, inv_mul_cancel_right]
  rfl

/-- The displacements within the bounds of the filter. -/
def Bounded (f : RobustnessGraspFilter R) (d : Transform3D G V) : Prop :=
  ∃ x y z a b c : R,
    (|x| ≤ |f.positionUncertainty| ∧ |y| ≤ |f.positionUncertainty| ∧
      |z| ≤ |f.positionUncertainty|) ∧
    (|a| ≤ |f.angleUncertainty| ∧ |b| ≤ |f.angleUncertainty| ∧ |c| ≤ |f.angleUncertainty|) ∧
    d = ⟨build.eaa a b c, build.vector3D x y z⟩

/-- The grasp set has as many targets as asked for, and each is where a target of the input is,
displaced within the bounds. -/
structure PerturbsInPlace (f : RobustnessGraspFilter R) (wTf : String → Transform3D G V)
    (grasps perturbed : GraspTask R G V) : Prop where
  count : perturbed.targets.length = f.numberOfGrasps
  near : ∀ subtask ∈ perturbed.subTasks, ∀ target ∈ subtask.targets,
    ∃ subtask' ∈ grasps.subTasks, ∃ target' ∈ subtask'.targets, ∃ d, f.Bounded build d ∧
      worldPose wTf subtask target = worldPose wTf subtask' target' * d

/-- The way from some target of the grasp set to where the first subtask puts the drawn one,
followed by the drawn displacement, is within the bounds. -/
def Lands (wTf : String → Transform3D G V) (grasps : GraspTask R G V)
    (draw : Draw R grasps.targets.length) : Prop :=
  ∀ first rest, grasps.subTasks = first :: rest →
    ∃ subtask' ∈ grasps.subTasks, ∃ target' ∈ subtask'.targets,
      f.Bounded build ((worldPose wTf subtask' target')⁻¹ *
        worldPose wTf first (grasps.targets.get draw.idx) * f.displacement build draw)

/-- The first subtask puts a target where some target of the grasp set is. -/
def KeepsPlace (wTf : String → Transform3D G V) (grasps : GraspTask R G V)
    (target : GraspTarget G V) : Prop :=
  ∀ first rest, grasps.subTasks = first :: rest →
    ∃ subtask' ∈ grasps.subTasks, ∃ target' ∈ subtask'.targets,
      worldPose wTf first target = worldPose wTf subtask' target'

section
variable {wTf : String → Transform3D G V} {grasps : GraspTask R G V}

omit [Field R] [LinearOrder R] in
/-- So it is with the targets of subtasks that have the frame and the offset of the first. -/
theorem keepsPlace_of_same {subtask : GraspSubTask R G V} {target : GraspTarget G V}
    (hsubtask : subtask ∈ grasps.subTasks) (htarget : target ∈ subtask.targets)
    (h : ∀ first rest, grasps.subTasks = first :: rest →
      subtask.refFrame = first.refFrame ∧ subtask.offset = first.offset) :
    KeepsPlace wTf grasps target := by
  intro first rest hfirst
  obtain ⟨hframe, hoffset⟩ := h first rest hfirst
  exact ⟨subtask, hsubtask, target, htarget, by rw [worldPose, worldPose, hframe, hoffset]⟩

theorem foldl_addPerturbed (targets : List (GraspTarget G V)) (draws : ℕ → Draw R targets.length)
    (rounds : List ℕ) (stask : GraspSubTask R G V) :
    rounds.foldl (fun stask k => f.addPerturbed build null targets (draws k) stask) stask =
      { stask with targets := stask.targets ++
          rounds.map fun k => f.perturb build null targets (draws k) } := by
  induction rounds generalizing stask with
  | nil => simp
  | cons k rounds ih =>
    rw [List.foldl_cons, ih]
    simp [addPerturbed]

/-- The targets of all rounds. -/
def perturbed (grasps : GraspTask R G V) (draws : ℕ → Draw R grasps.targets.length) :
    List (GraspTarget G V) :=
  (List.range f.numberOfGrasps).map fun k => f.perturb build null grasps.targets (draws k)

theorem filter_eq {first : GraspSubTask R G V} {rest : List (GraspSubTask R G V)}
    (hfirst : grasps.subTasks = first :: rest) (hne : grasps.targets ≠ [])
    (draws : ℕ → Draw R grasps.targets.length) :
    f.filter build null grasps draws =
      { grasps with subTasks :=
          [{ first with targets := f.perturbed build null grasps draws }] } := by
  have hlength : ¬ grasps.targets.length = 0 := fun h => hne (List.length_eq_zero_iff.mp h)
  unfold filter
  rw [if_neg hlength]
  split
  · rename_i hnil
    rw [hnil] at hfirst
    cases hfirst
  · rename_i first' rest' hcons
    rw [hcons] at hfirst
    cases hfirst
    rw [foldl_addPerturbed]
    rfl

end

section
variable [IsStrictOrderedRing R]

omit [Group G] [AddCommGroup V] [DistribMulAction G V] in
theorem abs_ran_le (bound : R) (u : Uniform R) : |ran (-bound) bound u| ≤ |bound| := by
  have hran : ran (-bound) bound u = bound * (2 * u.1 - 1) := by
    unfold ran
    ring
  have hu : |2 * u.1 - 1| ≤ 1 := by
    rw [abs_le]
    constructor <;> linarith [u.2.1, u.2.2]
  rw [hran, abs_mul]
  exact mul_le_of_le_one_right (abs_nonneg _) hu

omit [Group G] [AddCommGroup V] [DistribMulAction G V] in
theorem bounded_displacement {n : ℕ} (draw : Draw R n) :
    f.Bounded build (f.displacement build draw) :=
  ⟨_, _, _, _, _, _, ⟨abs_ran_le _ _, abs_ran_le _ _, abs_ran_le _ _⟩,
    ⟨abs_ran_le _ _, abs_ran_le _ _, abs_ran_le _ _⟩, rfl⟩

theorem KeepsPlace.lands {wTf : String → Transform3D G V} {grasps : GraspTask R G V}
    {draw : Draw R grasps.targets.length}
    (h : KeepsPlace wTf grasps (grasps.targets.get draw.idx)) :
    f.Lands build wTf grasps draw := by
  intro first rest hfirst
  obtain ⟨subtask', hsubtask', target', htarget', hpose⟩ := h first rest hfirst
  refine ⟨subtask', hsubtask', target', htarget', ?_⟩
  rw [hpose, inv_mul_cancel, one_mul]
  exact f.bounded_displacement build draw

omit [IsStrictOrderedRing R] in
theorem perturbsInPlace_iff_lands {wTf : String → Transform3D G V} {grasps : GraspTask R G V}
    (hne : grasps.targets ≠ []) (draws : ℕ → Draw R grasps.targets.length) :
    f.PerturbsInPlace build wTf grasps (f.filter build null grasps draws) ↔
      ∀ k < f.numberOfGrasps, f.Lands build wTf grasps (draws k) := by
  obtain ⟨first, rest, hfirst⟩ : ∃ first rest, grasps.subTasks = first :: rest := by
    cases hcases : grasps.subTasks with
    | nil => simp [GraspTask.targets, hcases] at hne
    | cons first rest => exact ⟨first, rest, rfl⟩
  have hplaced (k : ℕ) : worldPose wTf first (f.perturb build null grasps.targets (draws k)) =
      worldPose wTf first (grasps.targets.get (draws k).idx) * f.displacement build (draws k) :=
    (mul_assoc _ _ _).symm
  rw [filter_eq build null f hfirst hne draws]
  constructor
  · intro h k hk first' rest' hfirst'
    rw [hfirst] at hfirst'
    cases hfirst'
    have hmem : f.perturb build null grasps.targets (draws k) ∈
        f.perturbed build null grasps draws := List.mem_map_of_mem (List.mem_range.mpr hk)
    obtain ⟨subtask', hsubtask', target', htarget', d, hd, hpose⟩ :=
      h.near _ (List.mem_singleton_self _) _ hmem
    refine ⟨subtask', hsubtask', target', htarget', ?_⟩
    have hway : (worldPose wTf subtask' target')⁻¹ *
        worldPose wTf first (grasps.targets.get (draws k).idx) *
          f.displacement build (draws k) = d := by
      rw [mul_assoc, ← hplaced, inv_mul_eq_iff_eq_mul]
      exact hpose
    rwa [hway]
  · intro h
    constructor
    · simp [GraspTask.targets, perturbed]
    · intro subtask hsubtask target htarget
      rw [List.mem_singleton.mp hsubtask] at htarget ⊢
      obtain ⟨k, hk, rfl⟩ := List.mem_map.mp htarget
      obtain ⟨subtask', hsubtask', target', htarget', hd⟩ :=
        h k (List.mem_range.mp hk) first rest hfirst
      refine ⟨subtask', hsubtask', target', htarget', _, hd, ?_⟩
      change worldPose wTf first _ = _
      rw [hplaced, mul_assoc, mul_inv_cancel_left]

end

/-! ## Two subtasks on a line -/

namespace Sample

def numbers : FromNumbers ℚ ℤˣ ℚ where
  vector3D x y z := x + y + z
  rpy _ _ _ := 1
  eaa _ _ _ := 1

def subTask (offset pose : ℚ) (result : ResultPtr) : GraspSubTask ℚ ℤˣ ℚ :=
  ⟨"WORLD", ⟨1, offset⟩, ⟨1, 0⟩, ⟨1, 0⟩, ⟨[]⟩, [⟨⟨1, pose⟩, result⟩]⟩

/-- Two targets, the second in a subtask with an offset of its own. -/
def grasps (offset : ℚ) : GraspTask ℚ ℤˣ ℚ where
  gripperID := "gripper"
  tcpID := "TCP"
  subTasks := [subTask 0 0 0, subTask offset 1 1]

end Sample

/-- The draws of the first target. -/
def firstDraws : ℕ → Draw ℚ (Sample.grasps 5).targets.length := fun _ =>
  let u : Uniform ℚ := ⟨1 / 2, by norm_num, by norm_num⟩
  ⟨⟨0, by decide⟩, (u, u, u), (u, u, u)⟩

/-- The draws of the second target, displaced as far down as the bounds allow. -/
def secondDraws : ℕ → Draw ℚ (Sample.grasps 5).targets.length := fun _ =>
  let u : Uniform ℚ := ⟨0, le_rfl, zero_lt_one⟩
  ⟨⟨1, by decide⟩, (u, u, u), (u, u, u)⟩

end RobustnessGraspFilter
end Gripperz.Grasps
