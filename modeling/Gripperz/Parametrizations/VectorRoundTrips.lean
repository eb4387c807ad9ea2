import Mathlib.Algebra.Ring.Int.Defs
import Gripperz.Parametrizations.ParametrizationTranslator

/-! # Vectors and parametrizations

A vector can be made into a parametrization of its own or be applied to one that has more names.
Slots that share no name are set to the entries of the vector one by one.
-/
namespace Gripperz.Parametrizations

variable {R : Type}

open Parametrization

namespace VectorParametrizationTranslator

/-- A new parametrization, to which the vector is applied. -/
def vectorToParametrization [Zero R] (parameterNameList : List String) (vector : List R) :
    Option (Parametrization R) :=
  applyVectorToParametrization parameterNameList (.ofNames parameterNameList) vector

end VectorParametrizationTranslator

namespace MultiParametrizationTranslator

/-- The names of all slots, in order. -/
def getParameterNameList (slots : List Slot) : List String :=
  slots.foldl (fun names slot => slot.foldl (fun names name => names ++ [name]) names) []

/-- A new parametrization, to which the vector is applied. -/
def vectorToParametrization [Zero R] (slots : List Slot) (vector : List R) :
    Option (Parametrization R) :=
  applyVectorToParametrization slots (.ofNames (getParameterNameList slots)) vector

theorem getParameterNameList_eq (slots : List Slot) :
    getParameterNameList slots = slots.flatten := by
  have hslot (names slot : List String) :
      slot.foldl (fun names name => names ++ [name]) names = names ++ slot := by
    induction slot generalizing names with
    | nil => simp
    | cons name slot ih => rw [List.foldl_cons, ih, List.append_assoc, List.singleton_append]
  have hslots (names : List String) : slots.foldl
      (fun names slot => slot.foldl (fun names name => names ++ [name]) names) names =
        names ++ slots.flatten := by
    induction slots generalizing names with
    | nil => simp
    | cons slot slots ih =>
      rw [List.foldl_cons, ih, hslot, List.append_assoc, List.flatten_cons]
  exact hslots []

end MultiParametrizationTranslator

namespace ParametrizationTranslator
variable (translator : ParametrizationTranslator)

def vectorToParametrization [Zero R] :
    ParametrizationTranslator → List R → Option (Parametrization R)
  | vectorParametrizationTranslator parameterNameList =>
    VectorParametrizationTranslator.vectorToParametrization parameterNameList
  | multiParametrizationTranslator slots =>
    MultiParametrizationTranslator.vectorToParametrization slots

/-- Distinct names, or slots that have names and share none. -/
def Proper : ParametrizationTranslator → Prop
  | vectorParametrizationTranslator parameterNameList => parameterNameList.Nodup
  | multiParametrizationTranslator slots =>
    (∀ names ∈ slots, names ≠ []) ∧ slots.Pairwise List.Disjoint

/-- A new parametrization has the names of the translator. -/
theorem vectorToParametrization_eq [Zero R] (vector : List R) :
    translator.vectorToParametrization vector =
      translator.applyVectorToParametrization (.ofNames translator.names) vector := by
  cases translator with
  | vectorParametrizationTranslator parameterNameList =>
    have hnames : (vectorParametrizationTranslator parameterNameList).names =
        parameterNameList := by
      rw [names, slots, ← List.flatMap_def, List.flatMap_singleton']
    rw [hnames]
    rfl
  | multiParametrizationTranslator slots =>
    rw [vectorToParametrization, MultiParametrizationTranslator.vectorToParametrization,
      MultiParametrizationTranslator.getParameterNameList_eq]
    rfl

variable {translator}

theorem Proper.ne_nil (h : translator.Proper) : ∀ names ∈ translator.slots, names ≠ [] := by
  cases translator with
  | vectorParametrizationTranslator parameterNameList => simp [slots]
  | multiParametrizationTranslator slots => exact h.1

theorem Proper.disjoint (h : translator.Proper) : translator.slots.Pairwise List.Disjoint := by
  cases translator with
  | vectorParametrizationTranslator parameterNameList =>
    rw [slots, List.pairwise_map]
    exact List.Pairwise.imp (fun hne => by simpa using hne.symm) h
  | multiParametrizationTranslator slots => exact h.2

/-- Spread over slots that share no name, a vector gives no name two values. -/
theorem agree_spread (h : translator.slots.Pairwise List.Disjoint) {vector : List R}
    (hlength : vector.length = translator.slots.length) : Agree (translator.spread vector) := by
  rw [Agree, spread, List.pairwise_flatMap]
  constructor
  · intro slot _
    rw [List.pairwise_map]
    exact List.pairwise_of_forall fun _ _ _ => rfl
  · rw [← List.map_fst_zip (Nat.le_of_eq hlength.symm)] at h
    apply (List.pairwise_map.mp h).imp
    intro slot slot' hdisjoint first hfirst second hsecond hsame
    obtain ⟨name, hname, rfl⟩ := List.mem_map.mp hfirst
    obtain ⟨name', hname', rfl⟩ := List.mem_map.mp hsecond
    obtain rfl : name = name' := hsame
    exact absurd hname' (hdisjoint hname)

/-- What a vector does to a parametrization that has all names. -/
theorem applyVectorToParametrization_spec (h : translator.slots.Pairwise List.Disjoint)
    {p : Parametrization R} {vector : List R}
    (hnames : ∀ name ∈ translator.names, p.hasParameter name = true)
    (hlength : vector.length = translator.slots.length) :
    ∃ q, translator.applyVectorToParametrization p vector = some q ∧
      q.parameterNameList = p.parameterNameList ∧
      (∀ slot ∈ translator.slots.zip vector, ∀ name ∈ slot.1,
        q.getParameter name = some slot.2) ∧
      ∀ name ∉ translator.names, q.getParameter name = p.getParameter name := by
  have hfst := translator.map_fst_spread hlength
  obtain ⟨q, hq, hlist, hset, hkept⟩ := setParameters_of_agree (agree_spread h hlength)
    (fun name hname => hnames name (hfst ▸ hname))
  rw [hfst] at hkept
  refine ⟨q, (translator.applyVectorToParametrization_eq p hlength).trans hq, hlist, ?_, hkept⟩
  exact fun slot hslot name hname => hset (name, slot.2) (mem_spread.mpr ⟨slot, hslot, hname, rfl⟩)

theorem hasParameter_ofNames [Zero R] {nameList : List String} {name : String}
    (h : name ∈ nameList) : (ofNames nameList : Parametrization R).hasParameter name = true := by
  have hlist := parameterNameList_ofList (nameList.map fun name => (name, (0 : R)))
  apply (Parametrization.keys _ name).mp
  rw [ofNames, hlist, List.mem_eraseDups]
  simpa using h

/-- A parametrization in which the names of each slot share a value is read. -/
theorem exists_read {p : Parametrization R} {slots : List Slot}
    (hne : ∀ names ∈ slots, names ≠ [])
    (hshared : ∀ names ∈ slots, ∃ value, ∀ name ∈ names, p.getParameter name = some value) :
    ∃ vector, (slots.mapM fun names => names.head?.bind p.getParameter) = some vector ∧
      vector.length = slots.length ∧
      ∀ slot ∈ slots.zip vector, ∀ name ∈ slot.1, p.getParameter name = some slot.2 := by
  induction slots with
  | nil => exact ⟨[], rfl, rfl, by simp⟩
  | cons names slots ih =>
    obtain ⟨vector, hread, hlength, hvalues⟩ := ih
      (fun names hnames => hne names (List.mem_cons_of_mem _ hnames))
      (fun names hnames => hshared names (List.mem_cons_of_mem _ hnames))
    obtain ⟨value, hvalue⟩ := hshared names List.mem_cons_self
    obtain ⟨name, rest, rfl⟩ := List.exists_cons_of_ne_nil (hne names List.mem_cons_self)
    have hfirst : p.getParameter name = some value := hvalue name List.mem_cons_self
    refine ⟨value :: vector, by simp [hfirst, hread], by simp [hlength], ?_⟩
    rw [List.zip_cons_cons]
    exact List.forall_mem_cons.mpr ⟨hvalue, hvalues⟩

/-- What is read from a parametrization with a shared value in each slot changes nothing in it. -/
theorem applyVectorToParametrization_read (h : translator.Proper) {p : Parametrization R}
    (hshared : ∀ names ∈ translator.slots,
      ∃ value, ∀ name ∈ names, p.getParameter name = some value) :
    ∃ vector, translator.parametrizationToVector p = some vector ∧
      translator.applyVectorToParametrization p vector = some p := by
  obtain ⟨vector, hread, hlength, hvalues⟩ := exists_read h.ne_nil hshared
  have hnames : ∀ name ∈ translator.names, p.hasParameter name = true := by
    intro name hname
    obtain ⟨slot, hslot, hmem⟩ := List.mem_flatten.mp hname
    obtain ⟨value, hvalue⟩ := hshared slot hslot
    exact Option.isSome_iff_exists.mpr ⟨value, hvalue name hmem⟩
  obtain ⟨q, hq, hlist, hset, hkept⟩ := applyVectorToParametrization_spec h.disjoint hnames hlength
  refine ⟨vector, (translator.parametrizationToVector_eq p).trans hread, hq.trans ?_⟩
  congr 1
  apply Parametrization.ext hlist
  intro name
  by_cases hname : name ∈ translator.names
  · rw [← translator.map_fst_spread hlength] at hname
    obtain ⟨⟨name, value⟩, hmem, rfl⟩ := List.mem_map.mp hname
    obtain ⟨slot, hslot, hin, rfl⟩ := mem_spread.mp hmem
    rw [hset slot hslot name hin, hvalues slot hslot name hin]
  · exact hkept name hname

/-- Vectors are read back from the parametrizations they are made into, set the values of their
slots and no others, and change nothing where they were read. -/
theorem vectors_round_trip [Zero R] (translator : ParametrizationTranslator)
    (proper : translator.Proper) (vector : List R)
    (hlength : vector.length = translator.slots.length) :
    (∃ p, translator.vectorToParametrization vector = some p ∧
      translator.parametrizationToVector p = some vector) ∧
    (∀ p : Parametrization R, (∀ name ∈ translator.names, p.hasParameter name = true) →
      ∃ q, translator.applyVectorToParametrization p vector = some q ∧
        q.parameterNameList = p.parameterNameList ∧
        (∀ (i : ℕ) slot, translator.slots[i]? = some slot →
          ∀ name ∈ slot, q.getParameter name = vector[i]?) ∧
        ∀ name ∉ translator.names, q.getParameter name = p.getParameter name) ∧
    ∀ p : Parametrization R,
      (∀ names ∈ translator.slots, ∃ value, ∀ name ∈ names, p.getParameter name = some value) →
      ∃ read, translator.parametrizationToVector p = some read ∧
        translator.applyVectorToParametrization p read = some p := by
  refine ⟨?_, ?_, fun p hshared => applyVectorToParametrization_read proper hshared⟩
  · have hnames : ∀ name ∈ translator.names,
        (ofNames translator.names : Parametrization R).hasParameter name = true :=
      fun name hname => hasParameter_ofNames hname
    obtain ⟨q, hq, -, hset, -⟩ := applyVectorToParametrization_spec proper.disjoint hnames hlength
    refine ⟨q, (translator.vectorToParametrization_eq vector).trans hq, ?_⟩
    rw [translator.parametrizationToVector_eq]
    exact mapM_head hlength proper.ne_nil hset
  · intro p hnames
    obtain ⟨q, hq, hlist, hset, hkept⟩ :=
      applyVectorToParametrization_spec proper.disjoint hnames hlength
    refine ⟨q, hq, hlist, ?_, hkept⟩
    intro i slot hslot name hname
    have hi : i < vector.length := hlength ▸ (List.getElem?_eq_some_iff.mp hslot).1
    have hpair : (slot, vector[i]) ∈ translator.slots.zip vector := by
      apply List.mem_of_getElem? (i := i)
      rw [List.getElem?_zip_eq_some]
      exact ⟨hslot, List.getElem?_eq_getElem hi⟩
    rw [hset _ hpair name hname, List.getElem?_eq_getElem hi]

/-- Two entries for three names. -/
theorem vectors_round_trip_shared :
    let translator : ParametrizationTranslator :=
      .multiParametrizationTranslator [["a"], ["b", "c"]]
    (∃ p, translator.vectorToParametrization [(1 : ℤ), 2] = some p ∧
      translator.parametrizationToVector p = some [(1 : ℤ), 2]) ∧
    ∃ q, translator.applyVectorToParametrization (.ofNames ["a", "b", "c", "d"]) [(1 : ℤ), 2] =
        some q ∧ q.getParameter "c" = some 2 ∧ q.getParameter "d" = some 0 := by
  intro translator
  have hproper : translator.Proper := ⟨by decide, by simp [List.Disjoint]⟩
  obtain ⟨hback, happlied, -⟩ := vectors_round_trip translator hproper [(1 : ℤ), 2] rfl
  obtain ⟨q, hq, -, hset, hkept⟩ := happlied (.ofNames ["a", "b", "c", "d"]) (by decide)
  refine ⟨hback, q, hq, hset 1 ["b", "c"] rfl "c" (by decide), ?_⟩
  exact (hkept "d" (by decide)).trans (by decide)

end ParametrizationTranslator
end Gripperz.Parametrizations
