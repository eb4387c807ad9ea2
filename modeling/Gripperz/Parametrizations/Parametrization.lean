import Mathlib.Data.List.Induction
import Mathlib.Data.List.Nodup
import Mathlib.Logic.Function.Basic

/-! # Parametrizations

Named values. A parametrization has a map and, for the order in which parameters were added, a
list of the names in it.
-/
namespace Gripperz.Parametrizations

structure Parametrization (R : Type) where
  parameterNameList : List String
  parameters : String → Option R
  nodup : parameterNameList.Nodup
  keys : ∀ name, name ∈ parameterNameList ↔ (parameters name).isSome

namespace Parametrization
variable {R : Type}

/-- The default constructor. -/
def empty : Parametrization R where
  parameterNameList := []
  parameters := fun _ => none
  nodup := List.nodup_nil
  keys := fun _ => by simp

def hasParameter (p : Parametrization R) (name : String) : Bool := (p.parameters name).isSome

/-- `map::at` raises an exception without the parameter. -/
def getParameter (p : Parametrization R) (name : String) : Option R := p.parameters name

/-- A parameter that exists already is left as it is. -/
def addParameter (name : String) (value : R) (p : Parametrization R) : Parametrization R :=
  if h : p.hasParameter name then p
  else
    { parameterNameList := p.parameterNameList ++ [name]
      parameters := Function.update p.parameters name (some value)
      nodup := by
        have hnew : name ∉ p.parameterNameList := fun hmem => h ((p.keys name).mp hmem)
        rw [List.nodup_append_comm]
        exact List.nodup_cons.mpr ⟨hnew, p.nodup⟩
      keys := by
        intro name'
        by_cases heq : name' = name
        · simp [heq]
        · simp [heq, p.keys] }

/-- `map::at` raises an exception without the parameter. -/
def setParameter (name : String) (value : R) (p : Parametrization R) :
    Option (Parametrization R) :=
  if h : p.hasParameter name then
    some
      { p with
        parameters := Function.update p.parameters name (some value)
        keys := by
          intro name'
          by_cases heq : name' = name
          · have hold : (p.parameters name).isSome := h
            simp [heq, p.keys, hold]
          · simp [heq, p.keys] }
  else none

/-- The names with their values, in order. -/
def getParameterList (p : Parametrization R) : Option (List (String × R)) :=
  p.parameterNameList.mapM fun name => (p.getParameter name).map fun value => (name, value)

/-- Parameters are added one after the other. -/
def addParameters (list : List (String × R)) (p : Parametrization R) : Parametrization R :=
  list.foldl (fun p parameter => p.addParameter parameter.1 parameter.2) p

/-- `Parametrization(list)`. -/
def ofList (list : List (String × R)) : Parametrization R := empty.addParameters list

/-- `Parametrization(nameList)`. -/
def ofNames [Zero R] (nameList : List String) : Parametrization R :=
  ofList (nameList.map fun name => (name, 0))

theorem ext {p q : Parametrization R} (hnames : p.parameterNameList = q.parameterNameList)
    (hvalues : ∀ name, p.getParameter name = q.getParameter name) : p = q := by
  have hparameters : p.parameters = q.parameters := funext hvalues
  cases p
  cases q
  simp_all

theorem getParameter_isSome {p : Parametrization R} {name : String} :
    (p.getParameter name).isSome ↔ name ∈ p.parameterNameList := (p.keys name).symm

/-! ## Setting -/

section Setting
variable {p q : Parametrization R} {name : String} {value : R}

theorem setParameter_isSome : (p.setParameter name value).isSome ↔ p.hasParameter name := by
  unfold setParameter
  split <;> simp_all

theorem parameterNameList_setParameter (h : p.setParameter name value = some q) :
    q.parameterNameList = p.parameterNameList := by
  unfold setParameter at h
  split at h
  · obtain rfl := Option.some.inj h
    rfl
  · cases h

theorem getParameter_setParameter (h : p.setParameter name value = some q) (name' : String) :
    q.getParameter name' = if name' = name then some value else p.getParameter name' := by
  unfold setParameter at h
  split at h
  · obtain rfl := Option.some.inj h
    exact Function.update_apply _ _ _ _
  · cases h

theorem hasParameter_setParameter (h : p.setParameter name value = some q) (name' : String) :
    q.hasParameter name' = p.hasParameter name' := by
  rw [Bool.eq_iff_iff]
  have hp := p.keys name'
  have hq := q.keys name'
  rw [parameterNameList_setParameter h] at hq
  exact hq.symm.trans hp

end Setting

/-! ## Lists -/

section Lists
variable {p : Parametrization R}

/-- The list has the names in order, each with its value. -/
theorem getParameterList_spec {list : List (String × R)} (h : p.getParameterList = some list) :
    list.map Prod.fst = p.parameterNameList ∧
      ∀ parameter ∈ list, p.getParameter parameter.1 = some parameter.2 := by
  have hnames (names : List String) (list : List (String × R))
      (h : (names.mapM fun name => (p.getParameter name).map fun value => (name, value)) =
        some list) : list.map Prod.fst = names ∧
        ∀ parameter ∈ list, p.getParameter parameter.1 = some parameter.2 := by
    induction names generalizing list with
    | nil =>
      obtain rfl := Option.some.inj h
      simp
    | cons name names ih =>
      simp only [List.mapM_cons, Option.bind_eq_bind, Option.bind_eq_some_iff] at h
      obtain ⟨parameter, hparameter, rest, hrest, hlist⟩ := h
      obtain ⟨value, hvalue, rfl⟩ := Option.map_eq_some_iff.mp hparameter
      obtain rfl := Option.some.inj hlist
      obtain ⟨hfst, hall⟩ := ih rest hrest
      simp [hfst, hvalue]
      simpa using hall
  exact hnames p.parameterNameList list h

/-- Every name in the list has a value. -/
theorem exists_getParameterList (p : Parametrization R) :
    ∃ list, p.getParameterList = some list := by
  have hnames (names : List String) (h : ∀ name ∈ names, (p.getParameter name).isSome) :
      ∃ list, (names.mapM fun name =>
        (p.getParameter name).map fun value => (name, value)) = some list := by
    induction names with
    | nil => exact ⟨[], rfl⟩
    | cons name names ih =>
      obtain ⟨value, hvalue⟩ := Option.isSome_iff_exists.mp (h name List.mem_cons_self)
      obtain ⟨list, hlist⟩ := ih fun name hname => h name (List.mem_cons_of_mem _ hname)
      exact ⟨(name, value) :: list, by simp [hvalue, hlist]⟩
  exact hnames p.parameterNameList fun name hname => getParameter_isSome.mpr hname

theorem addParameter_of_not_mem {name : String} (h : name ∉ p.parameterNameList) (value : R) :
    (p.addParameter name value).parameterNameList = p.parameterNameList ++ [name] ∧
      ∀ name', (p.addParameter name value).getParameter name' =
        if name' = name then some value else p.getParameter name' := by
  have hnew : p.hasParameter name = false := by
    rw [Bool.eq_false_iff]
    exact fun hold => h ((p.keys name).mpr hold)
  have hadd : p.addParameter name value = _ := dif_neg (by simp [hnew])
  rw [hadd]
  exact ⟨rfl, fun name' => Function.update_apply _ _ _ _⟩

/-- New parameters with distinct names are appended. -/
theorem addParameters_spec {list : List (String × R)}
    (hnodup : (p.parameterNameList ++ list.map Prod.fst).Nodup) :
    (p.addParameters list).parameterNameList = p.parameterNameList ++ list.map Prod.fst ∧
      (∀ parameter ∈ list, (p.addParameters list).getParameter parameter.1 = some parameter.2) ∧
      ∀ name ∉ list.map Prod.fst,
        (p.addParameters list).getParameter name = p.getParameter name := by
  induction list generalizing p with
  | nil => simp [addParameters]
  | cons parameter list ih =>
    have hnew : parameter.1 ∉ p.parameterNameList := by
      intro hmem
      exact (List.nodup_append.mp hnodup).2.2 _ hmem _ List.mem_cons_self rfl
    have hlast : parameter.1 ∉ list.map Prod.fst :=
      (List.nodup_cons.mp (List.nodup_append.mp hnodup).2.1).1
    obtain ⟨hnames, hvalues⟩ := addParameter_of_not_mem hnew parameter.2
    obtain ⟨hlist, hset, hkept⟩ := ih (p := p.addParameter parameter.1 parameter.2) (by
      rw [hnames, List.append_assoc]
      exact hnodup)
    refine ⟨?_, ?_, ?_⟩
    · rw [addParameters, List.foldl_cons]
      exact hlist.trans (by simp [hnames])
    · intro parameter' hmem
      rcases List.mem_cons.mp hmem with rfl | hmem
      · exact (hkept _ hlast).trans ((hvalues _).trans (if_pos rfl))
      · exact hset parameter' hmem
    · intro name hname
      rw [List.map_cons, List.mem_cons, not_or] at hname
      exact (hkept name hname.2).trans ((hvalues name).trans (if_neg hname.1))

/-- A parametrization is that of its list. -/
theorem ofList_getParameterList {list : List (String × R)} (h : p.getParameterList = some list) :
    ofList list = p := by
  obtain ⟨hnames, hvalues⟩ := getParameterList_spec h
  have hnodup : ((empty : Parametrization R).parameterNameList ++ list.map Prod.fst).Nodup := by
    rw [hnames]
    exact p.nodup
  obtain ⟨hlist, hset, hkept⟩ := addParameters_spec hnodup
  apply ext
  · exact hlist.trans hnames
  · intro name
    by_cases hname : name ∈ list.map Prod.fst
    · obtain ⟨parameter, hmem, rfl⟩ := List.mem_map.mp hname
      exact (hset parameter hmem).trans (hvalues parameter hmem).symm
    · have hnone : p.getParameter name = none := by
        rw [hnames] at hname
        exact Option.not_isSome_iff_eq_none.mp fun hsome => hname (getParameter_isSome.mp hsome)
      exact (hkept name hname).trans hnone.symm

/-! ## Repeated names -/

theorem addParameter_of_mem {name : String} (h : name ∈ p.parameterNameList) (value : R) :
    p.addParameter name value = p := dif_pos ((p.keys name).mp h)

theorem ofList_concat (list : List (String × R)) (parameter : String × R) :
    ofList (list ++ [parameter]) = (ofList list).addParameter parameter.1 parameter.2 := by
  rw [ofList, addParameters, List.foldl_append]
  rfl

/-- Each name is listed once, where it is met first. -/
theorem parameterNameList_ofList (list : List (String × R)) :
    (ofList list).parameterNameList = (list.map Prod.fst).eraseDups := by
  induction list using List.reverseRecOn with
  | nil => rfl
  | append_singleton list parameter ih =>
    have hmem : parameter.1 ∈ (ofList list).parameterNameList ↔
        parameter.1 ∈ list.map Prod.fst := by
      rw [ih, List.mem_eraseDups]
    rw [ofList_concat, List.map_append, List.eraseDups_append]
    by_cases hold : parameter.1 ∈ list.map Prod.fst
    · have hnothing : [parameter.1].removeAll (list.map Prod.fst) = [] := by
        simp only [List.removeAll, List.filter_cons, List.filter_nil]
        simp [hold]
      rw [addParameter_of_mem (hmem.mpr hold), ih, List.map_singleton, hnothing,
        List.eraseDups_nil, List.append_nil]
    · have hall : [parameter.1].removeAll (list.map Prod.fst) = [parameter.1] := by
        simp only [List.removeAll, List.filter_cons, List.filter_nil]
        simp [hold]
      rw [(addParameter_of_not_mem (mt hmem.mp hold) parameter.2).1, ih, List.map_singleton, hall,
        List.eraseDups_cons]
      rfl

/-- A name has the value it is met with first. -/
theorem getParameter_ofList (list : List (String × R)) (name : String) :
    (ofList list).getParameter name =
      (list.find? fun parameter => parameter.1 = name).map Prod.snd := by
  induction list using List.reverseRecOn with
  | nil => rfl
  | append_singleton list parameter ih =>
    rw [ofList_concat, List.find?_append]
    by_cases hold : parameter.1 ∈ (ofList list).parameterNameList
    · rw [addParameter_of_mem hold, ih]
      cases hfound : list.find? fun parameter => parameter.1 = name with
      | some first => rfl
      | none =>
        have hne : parameter.1 ≠ name := by
          rintro rfl
          rw [parameterNameList_ofList, List.mem_eraseDups, List.mem_map] at hold
          obtain ⟨other, hother, hsame⟩ := hold
          exact (List.find?_eq_none.mp hfound other hother) (by simpa using hsame)
        simp [hne]
    · rw [(addParameter_of_not_mem hold parameter.2).2, ih]
      split
      · rename_i hname
        have hnone : (list.find? fun parameter => parameter.1 = name) = none := by
          rw [List.find?_eq_none]
          intro other hother hsame
          rw [parameterNameList_ofList, List.mem_eraseDups] at hold
          apply hold
          rw [← hname, ← of_decide_eq_true hsame]
          exact List.mem_map_of_mem hother
        rw [hnone, Option.none_or]
        simp [hname]
      · rename_i hname
        have hother : ([parameter].find? fun parameter => parameter.1 = name) = none := by
          simp [Ne.symm hname]
        rw [hother, Option.or_none]

end Lists

end Parametrization
end Gripperz.Parametrizations
