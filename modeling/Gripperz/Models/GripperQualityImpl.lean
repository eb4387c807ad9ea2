import Mathlib.Data.List.Sort
import Mathlib.Data.String.Basic
import Gripperz.Models.Gripper

/-! # Listing quality indices

The map of a gripper quality lists its indices in the order of their keys.
-/
namespace Gripperz.Models

/-- A gripper quality with its keys in order. -/
structure GripperQualityImpl (R : Type) extends GripperQuality R where
  keys : List String
  sorted : keys.Pairwise (· < ·)
  complete : ∀ key, key ∈ keys ↔ (indices key).isSome

/-- A key is put in its place, unless it is there. -/
def placeKey (key : String) : List String → List String
  | [] => [key]
  | k :: ks => if key < k then key :: k :: ks else if key = k then k :: ks else k :: placeKey key ks

theorem mem_placeKey {key key' : String} {keys : List String} :
    key' ∈ placeKey key keys ↔ key' = key ∨ key' ∈ keys := by
  induction keys with
  | nil => simp [placeKey]
  | cons k ks ih =>
    unfold placeKey
    split
    · simp
    · split
      · rename_i heq
        simp [heq]
      · simp [ih, or_left_comm]

theorem sorted_placeKey (key : String) {keys : List String} (h : keys.Pairwise (· < ·)) :
    (placeKey key keys).Pairwise (· < ·) := by
  induction keys with
  | nil => simp [placeKey]
  | cons k ks ih =>
    obtain ⟨hfirst, hrest⟩ := List.pairwise_cons.mp h
    unfold placeKey
    split
    · rename_i hlt
      refine List.pairwise_cons.mpr ⟨?_, h⟩
      intro k' hk'
      rcases List.mem_cons.mp hk' with rfl | hk'
      · exact hlt
      · exact hlt.trans (hfirst k' hk')
    · rename_i hnot
      split
      · exact h
      · rename_i hne
        refine List.pairwise_cons.mpr ⟨?_, ih hrest⟩
        intro k' hk'
        rcases mem_placeKey.mp hk' with rfl | hk'
        · exact lt_of_le_of_ne (not_lt.mp hnot) (Ne.symm hne)
        · exact hfirst k' hk'

namespace GripperQualityImpl
variable {R : Type}

/-- `GripperQualityFactory::makeGripperQuality`. -/
def make : GripperQualityImpl R where
  toGripperQuality := .makeGripperQuality
  keys := []
  sorted := .nil
  complete := fun _ => by simp [GripperQuality.makeGripperQuality]

def setIndex (key : String) (value : R) (quality : GripperQualityImpl R) :
    GripperQualityImpl R where
  toGripperQuality := quality.toGripperQuality.setIndex key value
  keys := placeKey key quality.keys
  sorted := sorted_placeKey key quality.sorted
  complete := by
    intro key'
    by_cases heq : key' = key
    · simp [mem_placeKey, GripperQuality.setIndex, heq]
    · simp [mem_placeKey, GripperQuality.setIndex, heq, quality.complete]

/-- `getIndices`: the keys with their values, in order. -/
def getIndices (quality : GripperQualityImpl R) : List (String × R) :=
  quality.keys.filterMap fun key => (quality.indices key).map fun value => (key, value)

/-- The keys are determined by the map. -/
theorem ext {q q' : GripperQualityImpl R} (h : q.indices = q'.indices) : q = q' := by
  have hkeys : q.keys = q'.keys := by
    apply List.Pairwise.eq_of_mem_iff q.sorted q'.sorted
    intro key
    rw [q.complete, q'.complete, h]
  obtain ⟨⟨indices⟩, keys, sorted, complete⟩ := q
  obtain ⟨⟨indices'⟩, keys', sorted', complete'⟩ := q'
  obtain rfl : indices = indices' := h
  obtain rfl : keys = keys' := hkeys
  rfl

theorem mem_getIndices {quality : GripperQualityImpl R} {key : String} {value : R} :
    (key, value) ∈ quality.getIndices ↔ quality.indices key = some value := by
  simp only [getIndices, List.mem_filterMap, Option.map_eq_some_iff, Prod.mk.injEq]
  constructor
  · rintro ⟨key', -, value', hvalue, rfl, rfl⟩
    exact hvalue
  · intro hvalue
    exact ⟨key, (quality.complete key).mpr (by simp [hvalue]), value, hvalue, rfl, rfl⟩

/-- Indices of one quality, set one after the other, are those of this quality. -/
theorem indices_foldl_setIndex {quality : GripperQualityImpl R} {list : List (String × R)}
    (h : ∀ index ∈ list, quality.indices index.1 = some index.2) (made : GripperQualityImpl R)
    (key : String) :
    (list.foldl (fun q index => q.setIndex index.1 index.2) made).indices key =
      if key ∈ list.map Prod.fst then quality.indices key else made.indices key := by
  induction list generalizing made with
  | nil => simp
  | cons index list ih =>
    rw [List.foldl_cons, ih fun index hindex => h index (List.mem_cons_of_mem _ hindex)]
    have hset : (made.setIndex index.1 index.2).indices key =
        if key = index.1 then some index.2 else made.indices key :=
      Function.update_apply _ _ _ _
    have hfirst := h index List.mem_cons_self
    rw [hset]
    by_cases hkey : key = index.1
    · subst hkey
      simp [hfirst]
    · simp only [List.map_cons, List.mem_cons, hkey, false_or, if_false]

/-- A quality is that of its indices. -/
theorem foldl_getIndices (quality : GripperQualityImpl R) :
    quality.getIndices.foldl (fun q index => q.setIndex index.1 index.2) make = quality := by
  apply ext
  funext key
  rw [indices_foldl_setIndex fun index hindex => mem_getIndices.mp hindex]
  split
  · rfl
  · rename_i hnot
    cases hvalue : quality.indices key with
    | none => rfl
    | some value =>
      exact absurd (List.mem_map.mpr ⟨(key, value), mem_getIndices.mpr hvalue, rfl⟩) hnot

end GripperQualityImpl
end Gripperz.Models
