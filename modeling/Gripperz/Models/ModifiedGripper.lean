import Gripperz.Library.Fields
import Gripperz.Models.ParametrizedGripper
import Gripperz.Parametrizations.ParametrizationTranslator

/-! # Grippers that are modified

A gripper gets other parameters and another quality, and stays what it is in everything else.
When the same parameters are set once more, nothing is left of the values they had before.
-/
namespace Gripperz.Parametrizations.Parametrization
open Library

variable {R : Type} {p q : Parametrization R}

/-- Parameters can be set when all of them exist. -/
theorem setParameters_isSome {list : List (String × R)} :
    (p.setParameters list).isSome = true ↔ ∀ name ∈ list.map Prod.fst, p.hasParameter name := by
  induction list generalizing p with
  | nil => simp [setParameters]
  | cons parameter list ih =>
    rw [List.map_cons, List.forall_mem_cons, setParameters, List.foldlM_cons]
    cases hset : p.setParameter parameter.1 parameter.2 with
    | none =>
      have hnot : ¬ p.hasParameter parameter.1 = true := by
        rw [← setParameter_isSome, hset]
        exact Bool.false_ne_true
      exact iff_of_false Bool.false_ne_true fun h => hnot h.1
    | some p₁ =>
      have hfirst : p.hasParameter parameter.1 = true := by
        rw [← setParameter_isSome, hset]
        rfl
      refine (ih (p := p₁)).trans ?_
      simp only [hasParameter_setParameter hset, hfirst, true_and]

/-- Each parameter has the last value it was set to. -/
theorem getParameter_setParameters {list : List (String × R)} (h : p.setParameters list = some q) :
    q.parameterNameList = p.parameterNameList ∧
      ∀ name, q.getParameter name = (Fields.last list name).or (p.getParameter name) := by
  induction list using List.reverseRecOn generalizing q with
  | nil =>
    obtain rfl := Option.some.inj h
    exact ⟨rfl, fun _ => rfl⟩
  | append_singleton list parameter ih =>
    rw [setParameters, List.foldlM_append] at h
    obtain ⟨p₁, hp₁, hlast⟩ := Option.bind_eq_some_iff.mp h
    obtain ⟨hnames, hvalues⟩ := ih hp₁
    have hset : p₁.setParameter parameter.1 parameter.2 = some q := by
      simpa [List.foldlM_cons] using hlast
    refine ⟨(parameterNameList_setParameter hset).trans hnames, ?_⟩
    intro name
    rw [getParameter_setParameter hset, Fields.last_append_singleton, hvalues]
    split <;> rfl

/-- Setting the same parameters again makes up for their first values. -/
theorem setParameters_again {names : List String} {values values' : List R}
    (hlength : values.length = names.length) (hlength' : values'.length = names.length)
    (h : p.setParameters (names.zip values) = some q) :
    q.setParameters (names.zip values') = p.setParameters (names.zip values') := by
  have hzip : (names.zip values).map Prod.fst = names :=
    List.map_fst_zip (Nat.le_of_eq hlength.symm)
  have hzip' : (names.zip values').map Prod.fst = names :=
    List.map_fst_zip (Nat.le_of_eq hlength'.symm)
  obtain ⟨hnames, hvalues⟩ := getParameter_setParameters h
  have hp : (p.setParameters (names.zip values')).isSome = true := by
    rw [setParameters_isSome, hzip', ← hzip, ← setParameters_isSome, h]
    rfl
  have hq : (q.setParameters (names.zip values')).isSome = true := by
    rw [setParameters_isSome]
    intro name hname
    have hhas := setParameters_isSome.mp hp name hname
    rw [hasParameter, ← keys] at hhas ⊢
    rwa [hnames]
  obtain ⟨p', hp'⟩ := Option.isSome_iff_exists.mp hp
  obtain ⟨q', hq'⟩ := Option.isSome_iff_exists.mp hq
  obtain ⟨hpnames, hpvalues⟩ := getParameter_setParameters hp'
  obtain ⟨hqnames, hqvalues⟩ := getParameter_setParameters hq'
  rw [hp', hq']
  refine congrArg some (ext ?_ ?_)
  · rw [hqnames, hnames, hpnames]
  · intro name
    rw [hqvalues, hpvalues, hvalues]
    cases hlast : Fields.last (names.zip values') name with
    | some value => rfl
    | none =>
      have hnone : Fields.last (names.zip values) name = none := by
        rw [Fields.last_eq_none_iff, hzip]
        rwa [Fields.last_eq_none_iff, hzip'] at hlast
      rw [hnone]
      rfl

/-- Distinct parameters are read as they were set. -/
theorem mapM_getParameter_setParameters {names : List String} {values : List R}
    (hnodup : names.Nodup) (hlength : values.length = names.length)
    (h : p.setParameters (names.zip values) = some q) :
    names.mapM q.getParameter = some values := by
  have hzip : (names.zip values).map Prod.fst = names :=
    List.map_fst_zip (Nat.le_of_eq hlength.symm)
  have hall := setParameters_isSome.mp (Option.isSome_of_eq_some h)
  obtain ⟨q', hq', -, hset, -⟩ := setParameters_of_agree (agree_of_nodup (hzip.symm ▸ hnodup)) hall
  obtain rfl := Option.some.inj (h.symm.trans hq')
  clear h hq' hall hzip hnodup
  induction names generalizing values with
  | nil =>
    obtain rfl := List.length_eq_zero_iff.mp hlength
    rfl
  | cons name names ih =>
    cases values with
    | nil => cases hlength
    | cons value values =>
      obtain ⟨hfirst, hrest⟩ := List.forall_mem_cons.mp hset
      rw [List.mapM_cons, hfirst, ih (Nat.succ.inj hlength) hrest]
      rfl

end Gripperz.Parametrizations.Parametrization

namespace Gripperz.Models
open Library Parametrizations

variable {Q P M R : Type}

namespace ParametrizedGripper

def setParametrization (p : P) : ParametrizedGripper Q P M → ParametrizedGripper Q P M
  | parametrizedGripper data => parametrizedGripper { data with parametrization := p }
  | basicParametrizedGripper data => basicParametrizedGripper { data with parametrization := p }
  | parametrizedGeometryGripper data =>
    parametrizedGeometryGripper { data with parametrization := p }
  | standardGripper data => standardGripper { data with parametrization := p }

def setQuality (quality : Q) : ParametrizedGripper Q P M → ParametrizedGripper Q P M
  | parametrizedGripper data => parametrizedGripper { data with quality := quality }
  | basicParametrizedGripper data => basicParametrizedGripper { data with quality := quality }
  | parametrizedGeometryGripper data => parametrizedGeometryGripper { data with quality := quality }
  | standardGripper data => standardGripper { data with quality := quality }

variable (gripper : ParametrizedGripper Q P M) (p p' : P) (quality quality' : Q)

@[simp] theorem parametrization_setParametrization :
    (gripper.setParametrization p).parametrization = p := by
  cases gripper <;> rfl

@[simp] theorem parametrization_setQuality :
    (gripper.setQuality quality).parametrization = gripper.parametrization := by
  cases gripper <;> rfl

@[simp] theorem setParametrization_setQuality :
    (gripper.setQuality quality).setParametrization p =
      (gripper.setParametrization p).setQuality quality := by
  cases gripper <;> rfl

@[simp] theorem setParametrization_setParametrization :
    (gripper.setParametrization p).setParametrization p' = gripper.setParametrization p' := by
  cases gripper <;> rfl

@[simp] theorem setQuality_setQuality :
    (gripper.setQuality quality).setQuality quality' = gripper.setQuality quality' := by
  cases gripper <;> rfl

@[simp] theorem cls_setParametrization : (gripper.setParametrization p).cls = gripper.cls := by
  cases gripper <;> rfl

@[simp] theorem cls_setQuality : (gripper.setQuality quality).cls = gripper.cls := by
  cases gripper <;> rfl

@[simp] theorem meshGenerator_setParametrization :
    (GripperObject.parametrized (gripper.setParametrization p)).meshGenerator =
      (GripperObject.parametrized gripper).meshGenerator := by
  cases gripper <;> rfl

@[simp] theorem meshGenerator_setQuality :
    (GripperObject.parametrized (gripper.setQuality quality)).meshGenerator =
      (GripperObject.parametrized gripper).meshGenerator := by
  cases gripper <;> rfl

@[simp] theorem setParametrization_self :
    gripper.setParametrization gripper.parametrization = gripper := by
  cases gripper <;> rfl

@[simp] theorem quality_setQuality : (gripper.setQuality quality).data.quality = quality := by
  cases gripper <;> rfl

@[simp] theorem setQuality_self : gripper.setQuality gripper.data.quality = gripper := by
  cases gripper <;> rfl

end ParametrizedGripper
end Gripperz.Models
