import Gripperz.Parametrizations.Parametrization

/-! # Translators

A translator relates a parametrization to a vector: an entry of the vector is the value of one
parameter, or of all parameters of a slot.
-/
namespace Gripperz.Parametrizations

variable {R : Type}

namespace Parametrization

/-- Parameters are set one after the other, until one does not exist. -/
def setParameters (list : List (String × R)) (p : Parametrization R) :
    Option (Parametrization R) :=
  list.foldlM (fun p parameter => p.setParameter parameter.1 parameter.2) p

/-- No name is given two values. -/
def Agree (list : List (String × R)) : Prop :=
  list.Pairwise fun first second => first.1 = second.1 → first.2 = second.2

theorem agree_of_nodup {list : List (String × R)} (hnodup : (list.map Prod.fst).Nodup) :
    Agree list := (List.pairwise_map.mp hnodup).imp fun hne heq => absurd heq hne

/-- Existing parameters come to have the values they are set to. -/
theorem setParameters_of_agree {list : List (String × R)} (hagree : Agree list)
    {p : Parametrization R} (hnames : ∀ name ∈ list.map Prod.fst, p.hasParameter name = true) :
    ∃ q, p.setParameters list = some q ∧ q.parameterNameList = p.parameterNameList ∧
      (∀ parameter ∈ list, q.getParameter parameter.1 = some parameter.2) ∧
      ∀ name ∉ list.map Prod.fst, q.getParameter name = p.getParameter name := by
  induction list generalizing p with
  | nil => exact ⟨p, rfl, rfl, by simp, fun _ _ => rfl⟩
  | cons parameter list ih =>
    obtain ⟨hsame, hrest⟩ := List.pairwise_cons.mp hagree
    have hfirst : (p.setParameter parameter.1 parameter.2).isSome :=
      setParameter_isSome.mpr (hnames _ List.mem_cons_self)
    obtain ⟨p₁, hp₁⟩ := Option.isSome_iff_exists.mp hfirst
    have hnames₁ (name : String) (hname : name ∈ list.map Prod.fst) :
        p₁.hasParameter name = true := by
      rw [hasParameter_setParameter hp₁]
      exact hnames name (List.mem_cons_of_mem _ hname)
    obtain ⟨q, hq, hlist, hset, hkept⟩ := ih hrest hnames₁
    refine ⟨q, ?_, hlist.trans (parameterNameList_setParameter hp₁), ?_, ?_⟩
    · simp only [setParameters, List.foldlM_cons, hp₁]
      exact hq
    · refine List.forall_mem_cons.mpr ⟨?_, hset⟩
      by_cases hagain : parameter.1 ∈ list.map Prod.fst
      · obtain ⟨later, hlater, hname⟩ := List.mem_map.mp hagain
        rw [← hname, hset later hlater, hsame later hlater hname.symm]
      · rw [hkept _ hagain, getParameter_setParameter hp₁, if_pos rfl]
    · intro name hname
      rw [List.map_cons, List.mem_cons, not_or] at hname
      rw [hkept name hname.2, getParameter_setParameter hp₁, if_neg hname.1]

end Parametrization

open Parametrization

/-- `Slot`: the names of a slot. -/
abbrev Slot := List String

inductive ParametrizationTranslator where
  | vectorParametrizationTranslator (parameterNameList : List String)
  | multiParametrizationTranslator (slots : List Slot)

namespace VectorParametrizationTranslator
variable (parameterNameList : List String)

def parametrizationToVector (p : Parametrization R) : Option (List R) :=
  parameterNameList.mapM p.getParameter

/-- The lengths are asserted to agree. -/
def applyVectorToParametrization (p : Parametrization R) (vector : List R) :
    Option (Parametrization R) :=
  if vector.length = parameterNameList.length then
    p.setParameters (parameterNameList.zip vector)
  else none

end VectorParametrizationTranslator

namespace MultiParametrizationTranslator
variable (slots : List Slot)

/-- Every slot is asserted to have a name. -/
def parametrizationToVector (p : Parametrization R) : Option (List R) :=
  slots.mapM fun names => names.head?.bind p.getParameter

/-- The lengths are asserted to agree. -/
def applyVectorToParametrization (p : Parametrization R) (vector : List R) :
    Option (Parametrization R) :=
  if slots.length = vector.length then
    p.setParameters ((slots.zip vector).flatMap fun slot => slot.1.map fun name => (name, slot.2))
  else none

end MultiParametrizationTranslator

namespace ParametrizationTranslator

def parametrizationToVector : ParametrizationTranslator → Parametrization R → Option (List R)
  | vectorParametrizationTranslator parameterNameList =>
    VectorParametrizationTranslator.parametrizationToVector parameterNameList
  | multiParametrizationTranslator slots =>
    MultiParametrizationTranslator.parametrizationToVector slots

def applyVectorToParametrization :
    ParametrizationTranslator → Parametrization R → List R → Option (Parametrization R)
  | vectorParametrizationTranslator parameterNameList =>
    VectorParametrizationTranslator.applyVectorToParametrization parameterNameList
  | multiParametrizationTranslator slots =>
    MultiParametrizationTranslator.applyVectorToParametrization slots

/-- The names for each entry of a vector. -/
def slots : ParametrizationTranslator → List Slot
  | vectorParametrizationTranslator parameterNameList => parameterNameList.map fun name => [name]
  | multiParametrizationTranslator slots => slots

/-- All names, in order. -/
def names (translator : ParametrizationTranslator) : List String := translator.slots.flatten

/-- A vector is spread over the slots. -/
def spread (translator : ParametrizationTranslator) (vector : List R) : List (String × R) :=
  (translator.slots.zip vector).flatMap fun slot => slot.1.map fun name => (name, slot.2)

/-- Both translators set the slots to the entries of the vector. -/
theorem applyVectorToParametrization_eq (translator : ParametrizationTranslator)
    (p : Parametrization R) {vector : List R} (h : vector.length = translator.slots.length) :
    translator.applyVectorToParametrization p vector =
      p.setParameters (translator.spread vector) := by
  cases translator with
  | vectorParametrizationTranslator parameterNameList =>
    have hlength : vector.length = parameterNameList.length := by
      rw [h, slots, List.length_map]
    have hspread : (vectorParametrizationTranslator parameterNameList).spread vector =
        parameterNameList.zip vector := by
      simp [spread, slots, List.zip_map_left, List.flatMap_map]
    rw [hspread]
    exact if_pos hlength
  | multiParametrizationTranslator slots => exact if_pos h.symm

/-- Both translators read the first name of each slot. -/
theorem parametrizationToVector_eq (translator : ParametrizationTranslator)
    (p : Parametrization R) : translator.parametrizationToVector p =
      translator.slots.mapM fun names => names.head?.bind p.getParameter := by
  cases translator with
  | vectorParametrizationTranslator parameterNameList =>
    simp only [slots, List.mapM_map]
    rfl
  | multiParametrizationTranslator slots => rfl

theorem map_fst_spread (translator : ParametrizationTranslator) {vector : List R}
    (h : vector.length = translator.slots.length) :
    (translator.spread vector).map Prod.fst = translator.names := by
  have hslot (slot : Slot × R) :
      (slot.1.map fun name => (name, slot.2)).map Prod.fst = slot.1 := by
    simp [Function.comp_def]
  simp only [spread, List.map_flatMap, hslot, names]
  rw [List.flatMap_def]
  exact congrArg List.flatten (List.map_fst_zip (Nat.le_of_eq h.symm))

theorem mem_spread {translator : ParametrizationTranslator} {vector : List R} {name : String}
    {value : R} : (name, value) ∈ translator.spread vector ↔
      ∃ slot ∈ translator.slots.zip vector, name ∈ slot.1 ∧ value = slot.2 := by
  simp only [spread, List.mem_flatMap, List.mem_map, Prod.mk.injEq]
  constructor
  · rintro ⟨slot, hslot, name', hname, rfl, rfl⟩
    exact ⟨slot, hslot, hname, rfl⟩
  · rintro ⟨slot, hslot, hname, rfl⟩
    exact ⟨slot, hslot, name, hname, rfl, rfl⟩

/-- What has been spread over slots that all have names is read back. -/
theorem mapM_head {p : Parametrization R} {slots : List Slot} {vector : List R}
    (hlength : vector.length = slots.length) (hne : ∀ names ∈ slots, names ≠ [])
    (hvalues : ∀ slot ∈ slots.zip vector, ∀ name ∈ slot.1, p.getParameter name = some slot.2) :
    (slots.mapM fun names => names.head?.bind p.getParameter) = some vector := by
  induction slots generalizing vector with
  | nil =>
    obtain rfl := List.length_eq_zero_iff.mp hlength
    rfl
  | cons names slots ih =>
    cases vector with
    | nil => cases hlength
    | cons value vector =>
      obtain ⟨name, rest, rfl⟩ := List.exists_cons_of_ne_nil (hne names List.mem_cons_self)
      have hfirst : p.getParameter name = some value :=
        hvalues _ List.mem_cons_self name List.mem_cons_self
      have hrest := ih (Nat.succ.inj hlength)
        (fun names hnames => hne names (List.mem_cons_of_mem _ hnames))
        (fun slot hslot => hvalues slot (List.mem_cons_of_mem _ hslot))
      simp [hfirst, hrest]

/-- A slot without a name cannot be read. -/
theorem ne_nil_of_mapM_head {p : Parametrization R} {slots : List Slot} {vector : List R}
    (h : (slots.mapM fun names => names.head?.bind p.getParameter) = some vector) :
    ∀ names ∈ slots, names ≠ [] := by
  induction slots generalizing vector with
  | nil => simp
  | cons names slots ih =>
    simp only [List.mapM_cons, Option.bind_eq_bind, Option.bind_eq_some_iff] at h
    obtain ⟨value, ⟨name, hhead, -⟩, rest, hrest, -⟩ := h
    intro names' hnames'
    rcases List.mem_cons.mp hnames' with rfl | hmem
    · rintro rfl
      cases hhead
    · exact ih hrest names' hmem

end ParametrizationTranslator
end Gripperz.Parametrizations
