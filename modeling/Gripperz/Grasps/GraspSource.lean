import Gripperz.Grasps.Filters

/-! # Grasp sources

A planner or a database makes its grasps once and keeps them. The results of the targets
are new objects, one for each target.
-/
namespace Gripperz.Grasps

variable {Gr R G V : Type}

/-- A grasp set and its results. -/
structure OwnedGrasps (R G V : Type) where
  grasps : GraspTask R G V
  results : Results R G V
  distinct : grasps.DistinctResults

/-- Planned grasps are to be simulated or to be skipped. -/
structure PlannedGrasps (R G V : Type) extends OwnedGrasps R G V where
  planned : ∀ target ∈ grasps.targets, (results target.result).testStatus = .unInitialized ∨
    (results target.result).testStatus = .skip

/-- `_grasps` of a planner or a database, with the present results. -/
structure Cache (R G V : Type) where
  grasps : GraspTask R G V
  results : Results R G V

/-- A source of grasps for the gripper registered with the context. -/
inductive GraspSource (Gr R G V : Type) where
  /-- `GraspPlanner` and `GraspDatabase`; planning may raise an exception. -/
  | caching (plan : Gr → Option (OwnedGrasps R G V))
  | filtered (graspSource : GraspSource Gr R G V) (filterChain : List (GraspFilter R G V))

/-- `getGrasps`: the grasps, and what is kept afterwards. -/
def GraspSource.getGrasps : GraspSource Gr R G V → Gr → Option (Cache R G V) →
    Option (GraspTask R G V × Cache R G V)
  | caching _, _, some cache => some (cache.grasps, cache)
  | caching plan, gripper, none =>
    (plan gripper).map fun owned => (owned.grasps, ⟨owned.grasps, owned.results⟩)
  | filtered graspSource filterChain, gripper, cache =>
    (graspSource.getGrasps gripper cache).map fun got =>
      let filtered := GraspFilterChain.filter filterChain got.1 got.2.results
      (filtered.1, { got.2 with results := filtered.2 })

end Gripperz.Grasps
