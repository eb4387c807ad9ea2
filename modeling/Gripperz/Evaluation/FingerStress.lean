import Gripperz.Evaluation.Calculators
import Gripperz.Geometry.BeamMoments

/-! # The stress of a finger

The beam of a finger is in balance: the moment it is held with makes up for the force at its
end.
-/
namespace Gripperz.Evaluation.StressIndexCalculator
open Gripperz.Geometry EulerBeam

variable {R : Type} [Field R]

/-- The loads of a finger, in the order they are added. -/
def loads (force length : R) : List (AddedLoad R) :=
  [.moment ⟨-force * length, 0⟩, .force ⟨force, 0⟩, .force ⟨-force, length⟩]

theorem loaded_eq [LinearOrder R] (force : R) (mesh : TriMesh R) :
    loaded force mesh = (makeBeam mesh).addLoads (loads force mesh.length) := rfl

theorem loads_balance (force length : R) :
    ((loads force length).map AddedLoad.netForce).sum = 0 ∧
      ((loads force length).map AddedLoad.netMoment).sum = 0 := by
  constructor
  · simp [loads, AddedLoad.netForce]
  · simp [loads, AddedLoad.netMoment]

variable [LinearOrder R]

theorem balanced_moment (mesh : TriMesh R) {added : List (AddedLoad R)}
    (hforce : (added.map AddedLoad.netForce).sum = 0)
    (hmoment : (added.map AddedLoad.netMoment).sum = 0) {x : R}
    (h : ∀ load ∈ added, load.position ≤ x) : ((makeBeam mesh).addLoads added).moment x = 0 := by
  rw [moment_of_le mesh h, hforce, hmoment, zero_mul, add_zero]

theorem loaded_beyond (force : R) (mesh : TriMesh R) {x : R} (h0 : 0 ≤ x)
    (h : mesh.length ≤ x) : (loaded force mesh).moment x = 0 := by
  have hbalance := loads_balance force mesh.length
  rw [loaded_eq]
  apply balanced_moment mesh hbalance.1 hbalance.2
  simp [loads, AddedLoad.position, h0, h]

/-- Along the finger the force at its end acts with its lever. -/
theorem loaded_within (force : R) (mesh : TriMesh R) {x : R} (h0 : 0 ≤ x)
    (h : x ≤ mesh.length) : (loaded force mesh).moment x = -force * (mesh.length - x) := by
  cases h.eq_or_lt with
  | inl hend => rw [loaded_beyond force mesh h0 hend.ge, hend, sub_self, mul_zero]
  | inr hinside =>
    have hlast : AddedLoad.contribution x (.force ⟨-force, mesh.length⟩) = 0 := by
      rw [AddedLoad.contribution, contribution, bracket_of_lt id hinside, mul_zero]
    have hfirst (load : AddedLoad R) (hposition : load.position = 0) :
        load.contribution x = load.netMoment + load.netForce * x :=
      AddedLoad.contribution_of_le (hposition.trans_le h0)
    rw [loaded_eq, moment_addLoads, moment_makeBeam, loads]
    simp only [List.map_cons, List.map_nil, List.sum_cons, List.sum_nil, hlast]
    rw [hfirst _ rfl, hfirst _ rfl]
    simp only [AddedLoad.netMoment, AddedLoad.netForce]
    ring

/-- Moments add up in any order, and vanish behind loads in balance. -/
theorem moment_loads (mesh : TriMesh R) :
    (∀ (added more : List (AddedLoad R)) (x : R),
      ((makeBeam mesh).addLoads (added ++ more)).moment x =
        ((makeBeam mesh).addLoads added).moment x + ((makeBeam mesh).addLoads more).moment x) ∧
    (∀ (added other : List (AddedLoad R)) (x : R), added.Perm other →
      ((makeBeam mesh).addLoads added).moment x = ((makeBeam mesh).addLoads other).moment x) ∧
    (∀ (added : List (AddedLoad R)) (x : R), (added.map AddedLoad.netForce).sum = 0 →
      (added.map AddedLoad.netMoment).sum = 0 → (∀ load ∈ added, load.position ≤ x) →
        ((makeBeam mesh).addLoads added).moment x = 0) ∧
    ∀ force x : R, 0 ≤ x →
      (x ≤ mesh.length → (loaded force mesh).moment x = -force * (mesh.length - x)) ∧
      (mesh.length ≤ x → (loaded force mesh).moment x = 0) := by
  apply And.intro
  · intro added more x
    rw [addLoads, List.foldl_append, ← addLoads, ← addLoads, moment_superpose _ mesh]
  · apply And.intro
    · intro added other x h
      exact moment_perm _ h x
    · apply And.intro
      · intro added x hforce hmoment h
        exact balanced_moment mesh hforce hmoment h
      · intro force x h0
        exact ⟨loaded_within force mesh h0, loaded_beyond force mesh h0⟩

/-- A finger of length two, and two opposite forces with the moment they need. -/
theorem moment_loads_two :
    (loaded (3 : ℚ) ⟨2, 0, fun _ => 0⟩).moment 1 = -3 * (2 - 1) ∧
      (loaded (3 : ℚ) ⟨2, 0, fun _ => 0⟩).moment 5 = 0 ∧
      ((makeBeam (⟨2, 0, fun _ => 0⟩ : TriMesh ℚ)).addLoads
        [.force ⟨1, 0⟩, .force ⟨-1, 1⟩, .moment ⟨-1, 1⟩]).moment 1 = 0 := by
  have hfinger := moment_loads (⟨2, 0, fun _ => 0⟩ : TriMesh ℚ)
  exact ⟨(hfinger.2.2.2 3 1 (by decide)).1 (by decide +kernel),
    (hfinger.2.2.2 3 5 (by decide)).2 (by decide +kernel),
    hfinger.2.2.1 _ 1 (by decide +kernel) (by decide +kernel) (by decide +kernel)⟩

end Gripperz.Evaluation.StressIndexCalculator
