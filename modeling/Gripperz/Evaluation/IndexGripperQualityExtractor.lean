import Gripperz.Library.Fields
import Gripperz.Models.Gripper

/-! # Extracting quality indices

An extractor reads the indices it names, in their order, and fails without one of them.
-/
namespace Gripperz.Evaluation.IndexGripperQualityExtractor
open Library Models

variable {R : Type} {quality : GripperQuality R} {indexNames : List String}

/-- `getIndex` raises an exception for an index that is not there. -/
def extract (indexNames : List String) (quality : GripperQuality R) : Option (List R) :=
  indexNames.mapM quality.getIndex

theorem extract_isSome : (extract indexNames quality).isSome = true ↔
    ∀ name ∈ indexNames, (quality.getIndex name).isSome = true := isSome_mapM

theorem length_extract {results : List R} (h : extract indexNames quality = some results) :
    results.length = indexNames.length := by
  induction indexNames generalizing results with
  | nil =>
    rw [← Option.some.inj h]
    rfl
  | cons name names ih =>
    simp only [extract, List.mapM_cons, Option.bind_eq_bind, Option.bind_eq_some_iff] at h
    obtain ⟨value, -, rest, hrest, hresults⟩ := h
    rw [← Option.some.inj hresults, List.length_cons, List.length_cons, ih hrest]

/-- Each result is the index under some name. -/
theorem mem_extract {results : List R} {result : R} (h : extract indexNames quality = some results)
    (hresult : result ∈ results) : ∃ name ∈ indexNames, quality.getIndex name = some result := by
  induction indexNames generalizing results with
  | nil =>
    rw [← Option.some.inj h] at hresult
    cases hresult
  | cons name names ih =>
    simp only [extract, List.mapM_cons, Option.bind_eq_bind, Option.bind_eq_some_iff] at h
    obtain ⟨value, hvalue, rest, hrest, hresults⟩ := h
    rw [← Option.some.inj hresults] at hresult
    rcases List.mem_cons.mp hresult with rfl | hmem
    · exact ⟨name, List.mem_cons_self, hvalue⟩
    · obtain ⟨name', hname', hindex⟩ := ih hrest hmem
      exact ⟨name', List.mem_cons_of_mem _ hname', hindex⟩

/-- An index of another name is not extracted. -/
theorem extract_setIndex {key : String} (h : key ∉ indexNames) (value : R) :
    extract indexNames (quality.setIndex key value) = extract indexNames quality := by
  induction indexNames with
  | nil => rfl
  | cons name names ih =>
    obtain ⟨hne, hnames⟩ := not_or.mp (mt List.mem_cons.mpr h)
    simp only [extract] at ih ⊢
    rw [List.mapM_cons, List.mapM_cons, ih hnames,
      GripperQuality.getIndex_setIndex_of_ne _ _ (Ne.symm hne)]

end Gripperz.Evaluation.IndexGripperQualityExtractor
