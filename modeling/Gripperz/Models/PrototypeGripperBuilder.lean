import Mathlib.Algebra.Ring.Int.Defs
import Gripperz.Models.ParametrizedGripper
import Gripperz.Parametrizations.ParametrizationTranslator

/-! # Building grippers from vectors

A builder copies its prototype and sets the parameters that its translator names. What it
builds is like the prototype in everything else, for every class that can be copied.
-/
namespace Gripperz.Models
open Library Parametrizations

structure PrototypeGripperBuilder (Q M : Type) where
  prototype : ParametrizedGripper Q Ptr M
  translator : ParametrizationTranslator

namespace PrototypeGripperBuilder
variable {Q M R : Type} (builder : PrototypeGripperBuilder Q M)

def vectorToGripper (params : List R) (heap : Heap (Parametrization R)) :
    Option (ParametrizedGripper Q Ptr M × Heap (Parametrization R)) :=
  (builder.prototype.clone heap).bind fun built =>
    (built.2.get built.1.parametrization).bind fun p =>
      (builder.translator.applyVectorToParametrization p params).map fun p =>
        (built.1, built.2.set built.1.parametrization p)

def gripperToVector (gripper : ParametrizedGripper Q Ptr M) (heap : Heap (Parametrization R)) :
    Option (List R) :=
  (heap.get gripper.parametrization).bind builder.translator.parametrizationToVector

/-- The gripper is of the prototype's class, with the values of the vector and else those of
the prototype, which is left as it is. -/
structure Alike (params : List R) (heap : Heap (Parametrization R))
    (gripper : ParametrizedGripper Q Ptr M) (heap' : Heap (Parametrization R)) : Prop where
  cls : gripper.cls = builder.prototype.cls
  vector : builder.gripperToVector gripper heap' = some params
  named : ∀ slot ∈ builder.translator.slots.zip params, ∀ name ∈ slot.1,
    gripper.getParameter heap' name = some slot.2
  others : ∀ name ∉ builder.translator.names,
    gripper.getParameter heap' name = builder.prototype.getParameter heap name
  prototype : heap'.get builder.prototype.parametrization =
    heap.get builder.prototype.parametrization

def BuildsAlike (params : List R) (heap : Heap (Parametrization R)) : Prop :=
  ∃ gripper heap', builder.vectorToGripper params heap = some (gripper, heap') ∧
    builder.Alike params heap gripper heap'

section
variable {builder} {params : List R} {heap : Heap (Parametrization R)} {p : Parametrization R}

theorem clone_eq (hp : heap.get builder.prototype.parametrization = some p) :
    builder.prototype.clone heap =
      some (builder.prototype.copy (heap.alloc p).1, (heap.alloc p).2) := by
  simp [ParametrizedGripper.clone, hp]

/-- What is built is a copy of the prototype, with a parametrization of its own. -/
theorem vectorToGripper_eq (hp : heap.get builder.prototype.parametrization = some p) :
    builder.vectorToGripper params heap =
      (builder.translator.applyVectorToParametrization p params).map fun q =>
        (builder.prototype.copy (heap.alloc p).1, (heap.alloc p).2.set (heap.alloc p).1 q) := by
  simp [vectorToGripper, clone_eq hp]

/-- The parameters of what is built, and those of the prototype afterwards. -/
theorem vectorToGripper_spec (hp : heap.get builder.prototype.parametrization = some p)
    (distinct : builder.translator.names.Nodup)
    (named : ∀ name ∈ builder.translator.names, p.hasParameter name = true)
    (hlength : params.length = builder.translator.slots.length) :
    ∃ gripper heap' q, builder.vectorToGripper params heap = some (gripper, heap') ∧
      gripper = builder.prototype.copy (heap.alloc p).1 ∧
      heap'.get gripper.parametrization = some q ∧
      heap'.get builder.prototype.parametrization = some p ∧
      (∀ slot ∈ builder.translator.slots.zip params, ∀ name ∈ slot.1,
        q.getParameter name = some slot.2) ∧
      ∀ name ∉ builder.translator.names, q.getParameter name = p.getParameter name := by
  have hnames := builder.translator.map_fst_spread hlength
  obtain ⟨q, hq, -, hset, hkept⟩ := Parametrization.setParameters_of_agree
    (Parametrization.agree_of_nodup (hnames.symm ▸ distinct))
    (fun name hname => named name (hnames ▸ hname))
  rw [hnames] at hkept
  refine ⟨builder.prototype.copy (heap.alloc p).1, (heap.alloc p).2.set (heap.alloc p).1 q, q, ?_,
    rfl, ?_, ?_, ?_, hkept⟩
  · rw [vectorToGripper_eq hp, builder.translator.applyVectorToParametrization_eq p hlength, hq]
    rfl
  · rw [ParametrizedGripper.parametrization_copy]
    exact Heap.get_set_self (Heap.get_alloc_self heap p) q
  · rw [Heap.get_set_of_ne (Heap.alloc_ne hp p)]
    exact Heap.get_alloc_of_get hp p
  · intro slot hslot name hname
    exact hset (name, slot.2) (ParametrizationTranslator.mem_spread.mpr
      ⟨slot, hslot, hname, rfl⟩)

/-- A builder builds alike exactly when the prototype's class has a `clone` and every slot of
the translator has a name. -/
theorem buildsAlike_iff (hp : heap.get builder.prototype.parametrization = some p)
    (distinct : builder.translator.names.Nodup)
    (named : ∀ name ∈ builder.translator.names, p.hasParameter name = true)
    (hlength : params.length = builder.translator.slots.length) :
    builder.BuildsAlike params heap ↔
      builder.prototype.cls ≠ .basicParametrizedGripper ∧
        ∀ names ∈ builder.translator.slots, names ≠ [] := by
  obtain ⟨gripper, heap', q, hbuilt, hcopy, hq, hprototype, hset, hkept⟩ :=
    vectorToGripper_spec hp distinct named hlength
  have hcls : gripper.cls = builder.prototype.cls ↔
      builder.prototype.cls ≠ .basicParametrizedGripper := by
    rw [hcopy]
    exact builder.prototype.cls_copy_iff _
  have hread : builder.gripperToVector gripper heap' =
      builder.translator.slots.mapM fun names => names.head?.bind q.getParameter := by
    rw [gripperToVector, hq]
    exact builder.translator.parametrizationToVector_eq q
  constructor
  · rintro ⟨gripper', heap'', hbuilt', halike⟩
    obtain ⟨rfl, rfl⟩ := Prod.mk.inj (Option.some.inj (hbuilt.symm.trans hbuilt'))
    constructor
    · exact hcls.mp halike.cls
    · exact ParametrizationTranslator.ne_nil_of_mapM_head (hread.symm.trans halike.vector)
  · rintro ⟨hclone, hne⟩
    refine ⟨gripper, heap', hbuilt, hcls.mpr hclone, ?_, ?_, ?_, ?_⟩
    · rw [hread]
      exact ParametrizationTranslator.mapM_head hlength hne hset
    · intro slot hslot name hname
      rw [ParametrizedGripper.getParameter, hq]
      exact hset slot hslot name hname
    · intro name hname
      rw [ParametrizedGripper.getParameter, ParametrizedGripper.getParameter, hq, hp]
      exact hkept name hname
    · exact hprototype.trans hp.symm

end

/-! ## Examples -/

namespace Sample

/-- The parametrization a `BasicParametrizedGripper` is made with. -/
def parametrization : Parametrization ℤ := .ofNames ["tcpoffset", "stroke", "jawdist", "force"]

def heap : Heap (Parametrization ℤ) := ⟨[parametrization]⟩

def data : ParametrizedGripperData Unit Ptr where
  name := "gripper"
  deviceId := "gripper"
  dynamicDeviceId := "gripper"
  TCPFrameId := "gripper.TCP"
  movableFrameId := "gripper.Base"
  graspControllerId := "GraspController"
  leftFingerId := "gripper.LeftFinger"
  rightFingerId := "gripper.RightFinger"
  quality := ()
  parametrization := 0

def translator : ParametrizationTranslator := .vectorParametrizationTranslator ["stroke", "force"]

def basic : PrototypeGripperBuilder Unit Unit := ⟨.basicParametrizedGripper data, translator⟩

def parametrized : PrototypeGripperBuilder Unit Unit := ⟨.parametrizedGripper data, translator⟩

end Sample

/-- What is built from a `BasicParametrizedGripper` is not one. -/
theorem not_buildsAlike_basic : Sample.translator.names.Nodup ∧
    (∀ name ∈ Sample.translator.names, Sample.parametrization.hasParameter name = true) ∧
    [(5 : ℤ), 7].length = Sample.translator.slots.length ∧
    (Sample.basic.vectorToGripper [5, 7] Sample.heap).isSome ∧
    ¬ Sample.basic.BuildsAlike [(5 : ℤ), 7] Sample.heap := by
  refine ⟨by decide, by decide, rfl, by decide, ?_⟩
  rintro ⟨gripper, heap', hbuilt, halike⟩
  have hcls : (Sample.basic.vectorToGripper [(5 : ℤ), 7] Sample.heap).map
      (fun built => built.1.cls) = some .parametrizedGripper := by decide
  rw [hbuilt] at hcls
  exact absurd (halike.cls.symm.trans (Option.some.inj hcls)) (by decide)

theorem buildsAlike_iff_parametrized :
    Sample.parametrized.BuildsAlike [(5 : ℤ), 7] Sample.heap := by
  have hp : Sample.heap.get Sample.parametrized.prototype.parametrization =
      some Sample.parametrization := rfl
  have hdistinct : Sample.parametrized.translator.names.Nodup := by decide
  have hnamed : ∀ name ∈ Sample.parametrized.translator.names,
      Sample.parametrization.hasParameter name = true := by decide
  exact (buildsAlike_iff hp hdistinct hnamed rfl).mpr ⟨by decide, by decide⟩

end PrototypeGripperBuilder
end Gripperz.Models
