import Mathlib.Algebra.BigOperators.Group.List.Basic
import Mathlib.Tactic.LinearCombination
import Mathlib.Tactic.Ring
import Gripperz.Geometry.EulerBeam

/-! # Moments of beams

Loads are added to a beam one after another. The moment is a sum over the loads, each read
through a bracket: nothing ahead of its position, and a polynomial in the lever behind it.
-/
namespace Gripperz.Geometry

/-! ## Brackets -/

/-- The bracket of a moment or a force: `f` of the lever from the position on. -/
def bracket {R : Type} [Ring R] [LinearOrder R] (f : R → R) (position x : R) : R :=
  if position ≤ x then f (x - position) else 0

section
variable {R : Type} [Ring R] [LinearOrder R]

theorem bracket_of_le (f : R → R) {position x : R} (h : position ≤ x) :
    bracket f position x = f (x - position) := if_pos h

theorem bracket_of_lt (f : R → R) {position x : R} (h : x < position) :
    bracket f position x = 0 := if_neg h.not_ge

end

namespace EulerBeam
variable {R : Type} [Field R] [LinearOrder R]

/-- What a load adds to the moment: `lever` is constant for moments and the identity for
forces. -/
def contribution (lever : R → R) (x : R) (load : Load R) : R :=
  load.magnitude * bracket lever load.position x

/-- A loop that adds up what the loads contribute. -/
theorem foldl_contribution (lever : R → R) (x : R) (loads : List (Load R)) (M : R) :
    loads.foldl (fun M load =>
      if load.position ≤ x then M + load.magnitude * lever (x - load.position) else M) M =
      M + (loads.map (contribution lever x)).sum := by
  induction loads generalizing M with
  | nil => simp
  | cons load loads ih =>
    rw [List.foldl_cons, ih, List.map_cons, List.sum_cons, ← add_assoc]
    congr 1
    by_cases h : load.position ≤ x
    · rw [if_pos h, contribution, bracket_of_le lever h]
    · rw [if_neg h, contribution, bracket_of_lt lever (not_le.mp h), mul_zero, add_zero]

theorem moment_eq (beam : EulerBeam R) (x : R) : beam.moment x =
    (beam.moments.map (contribution (fun _ => 1) x)).sum +
      (beam.forces.map (contribution id x)).sum := by
  have hmoments := foldl_contribution (fun _ => 1) x beam.moments 0
  have hforces := foldl_contribution id x beam.forces
    (beam.moments.map (contribution (fun _ => 1) x)).sum
  simp only [mul_one, zero_add] at hmoments
  rw [moment, hmoments]
  exact hforces

/-! ## Loads in any order -/

/-- A call of `addMoment` or `addForce`. -/
inductive AddedLoad (R : Type) where
  | moment (load : Load R)
  | force (load : Load R)
  deriving DecidableEq, Repr

namespace AddedLoad

def position : AddedLoad R → R
  | moment load => load.position
  | force load => load.position

/-- What is left of a load in the sum of the forces. -/
def netForce : AddedLoad R → R
  | moment _ => 0
  | force load => load.magnitude

/-- What is left of a load in the sum of the moments about the origin. -/
def netMoment : AddedLoad R → R
  | moment load => load.magnitude
  | force load => -(load.magnitude * load.position)

def contribution (x : R) : AddedLoad R → R
  | moment load => EulerBeam.contribution (fun _ => 1) x load
  | force load => EulerBeam.contribution id x load

/-- Behind its position a load acts by its net force and moment. -/
theorem contribution_of_le {x : R} {load : AddedLoad R} (h : load.position ≤ x) :
    load.contribution x = load.netMoment + load.netForce * x := by
  cases load with
  | moment load =>
    have hbracket : bracket (fun _ => 1) load.position x = 1 := bracket_of_le _ h
    rw [contribution, EulerBeam.contribution, hbracket, netMoment, netForce]
    ring
  | force load =>
    have hbracket : bracket id load.position x = x - load.position := bracket_of_le _ h
    rw [contribution, EulerBeam.contribution, hbracket, netMoment, netForce]
    ring

end AddedLoad

def addLoad (beam : EulerBeam R) : AddedLoad R → EulerBeam R
  | .moment load => beam.addMoment load.magnitude load.position
  | .force load => beam.addForce load.magnitude load.position

def addLoads (beam : EulerBeam R) (loads : List (AddedLoad R)) : EulerBeam R :=
  loads.foldl addLoad beam

theorem moment_addLoad (beam : EulerBeam R) (load : AddedLoad R) (x : R) :
    (beam.addLoad load).moment x = beam.moment x + load.contribution x := by
  cases load <;>
    simp only [moment_eq, addLoad, addMoment, addForce, AddedLoad.contribution, List.map_append,
      List.map_cons, List.map_nil, List.sum_append, List.sum_cons, List.sum_nil] <;>
    ring

theorem moment_addLoads (beam : EulerBeam R) (loads : List (AddedLoad R)) (x : R) :
    (beam.addLoads loads).moment x =
      beam.moment x + (loads.map (AddedLoad.contribution x)).sum := by
  induction loads generalizing beam with
  | nil => simp [addLoads]
  | cons load loads ih =>
    rw [addLoads, List.foldl_cons, ← addLoads, ih, moment_addLoad, List.map_cons, List.sum_cons,
      add_assoc]

theorem moment_makeBeam (mesh : TriMesh R) (x : R) : (makeBeam mesh).moment x = 0 := rfl

/-! ## Superposition and balance -/

theorem moment_superpose (beam : EulerBeam R) (mesh : TriMesh R) (loads : List (AddedLoad R))
    (x : R) : (beam.addLoads loads).moment x =
      beam.moment x + ((makeBeam mesh).addLoads loads).moment x := by
  rw [moment_addLoads, moment_addLoads, moment_makeBeam, zero_add]

theorem moment_perm (beam : EulerBeam R) {loads other : List (AddedLoad R)}
    (h : loads.Perm other) (x : R) :
    (beam.addLoads loads).moment x = (beam.addLoads other).moment x := by
  rw [moment_addLoads, moment_addLoads, (h.map _).sum_eq]

/-- Behind all of its loads a beam has the moment of their resultants. -/
theorem moment_of_le (mesh : TriMesh R) {loads : List (AddedLoad R)} {x : R}
    (h : ∀ load ∈ loads, load.position ≤ x) : ((makeBeam mesh).addLoads loads).moment x =
      (loads.map AddedLoad.netMoment).sum + (loads.map AddedLoad.netForce).sum * x := by
  rw [moment_addLoads, moment_makeBeam, zero_add]
  induction loads with
  | nil => simp
  | cons load loads ih =>
    have hload := AddedLoad.contribution_of_le (h load List.mem_cons_self)
    have htail := ih fun other hother => h other (List.mem_cons_of_mem load hother)
    simp only [List.map_cons, List.sum_cons]
    rw [hload, htail]
    ring

end EulerBeam
end Gripperz.Geometry
