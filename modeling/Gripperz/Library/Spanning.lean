import Mathlib.LinearAlgebra.Dimension.Constructions
import Mathlib.LinearAlgebra.Dimension.OrzechProperty
import Mathlib.RingTheory.Noetherian.Orzech
import Mathlib.LinearAlgebra.StdBasis

/-! # Lists of vectors that span

Whether the vectors of a list span depends on its members only. A list of as many vectors as the
dimension that spans is linearly independent.
-/
namespace Gripperz.Library
variable {K M : Type*} [Field K] [AddCommGroup M] [Module K M]

/-- The vectors of the list span the space. -/
def Spans (K : Type*) {M : Type*} [Field K] [AddCommGroup M] [Module K M] (l : List M) : Prop :=
  Submodule.span K {x | x ∈ l} = ⊤

theorem Spans.of_mem {l l' : List M} (h : Spans K l)
    (hmem : ∀ x ∈ l, x ∈ Submodule.span K {x | x ∈ l'}) : Spans K l' := by
  apply top_le_iff.mp
  rw [← h]
  exact Submodule.span_le.mpr hmem

theorem Spans.perm {l l' : List M} (h : Spans K l) (hperm : l'.Perm l) : Spans K l' :=
  h.of_mem fun _ hx => Submodule.subset_span (hperm.mem_iff.mpr hx)

/-- A vector may be scaled. -/
theorem Spans.set_smul {l : List M} (h : Spans K l) {c : K} (hc : c ≠ 0) {i : ℕ}
    (hi : i < l.length) : Spans K (l.set i (c • l[i])) := by
  apply h.of_mem
  intro x hx
  obtain ⟨j, hj, rfl⟩ := List.getElem_of_mem hx
  by_cases hij : i = j
  · subst hij
    have hscaled : c • l[i] ∈ l.set i (c • l[i]) := List.mem_set hi _
    have hback := Submodule.smul_mem (Submodule.span K {x | x ∈ l.set i (c • l[i])}) c⁻¹
      (Submodule.subset_span hscaled)
    rwa [inv_smul_smul₀ hc] at hback
  · apply Submodule.subset_span
    refine List.mem_iff_getElem.mpr ⟨j, by simpa using hj, ?_⟩
    rw [List.getElem_set_ne hij]

/-- The last vector may give way to a multiple of the sum of all. -/
theorem Spans.replace_last {l : List M} (h : Spans K l) {c : K} (hc : c ≠ 0) :
    Spans K (l.dropLast ++ [c • l.sum]) := by
  apply h.of_mem
  intro x hx
  set l' := l.dropLast ++ [c • l.sum]
  have hinit : ∀ y ∈ l.dropLast, y ∈ Submodule.span K {x | x ∈ l'} := fun y hy =>
    Submodule.subset_span (List.mem_append_left _ hy)
  have hne : l ≠ [] := List.ne_nil_of_mem hx
  have hsplit : l.dropLast ++ [l.getLast hne] = l := List.dropLast_append_getLast hne
  rw [← hsplit] at hx
  rcases List.mem_append.mp hx with hx | hx
  · exact hinit x hx
  · have hlast : x = c⁻¹ • c • l.sum - l.dropLast.sum := by
      have hsum : l.sum = l.dropLast.sum + x := by
        conv_lhs => rw [← hsplit]
        rw [List.sum_append, List.sum_singleton, List.mem_singleton.mp hx]
      rw [inv_smul_smul₀ hc, hsum, add_sub_cancel_left]
    have hmean : c • l.sum ∈ Submodule.span K {x | x ∈ l'} :=
      Submodule.subset_span (List.mem_append_right _ (List.mem_singleton_self _))
    rw [hlast]
    exact Submodule.sub_mem _ (Submodule.smul_mem _ _ hmean) (list_sum_mem hinit)

/-- The vectors of a list with the unit vectors span. -/
theorem spans_of_single {n : ℕ} {l : List (Fin n → K)}
    (h : ∀ i, ∃ c : K, c ≠ 0 ∧ c • Pi.single i 1 ∈ l) : Spans K l := by
  apply top_le_iff.mp
  rw [← (Pi.basisFun K (Fin n)).span_eq]
  apply Submodule.span_le.mpr
  rintro _ ⟨i, rfl⟩
  obtain ⟨c, hc, hmem⟩ := h i
  have hback := Submodule.smul_mem (Submodule.span K {x | x ∈ l}) c⁻¹ (Submodule.subset_span hmem)
  rw [inv_smul_smul₀ hc] at hback
  rwa [Pi.basisFun_apply]

/-- As many vectors as the dimension, if they span, are linearly independent. -/
theorem Spans.linearIndependent {n : ℕ} {l : List (Fin n → K)} (h : Spans K l)
    (hlength : l.length = n) : LinearIndependent K l.get := by
  apply linearIndependent_of_top_le_span_of_card_eq_finrank
  · rw [← h]
    apply Submodule.span_mono
    intro x hx
    exact List.mem_iff_get.mp hx
  · simp [hlength]

end Gripperz.Library
