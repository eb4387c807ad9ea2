import Gripperz.Library.Objects
import Gripperz.Parametrizations.Parametrization

/-! # The list and the map of a parametrization

The methods update two containers one after the other. The list stays the list of the keys of the
map, and parameters are taken over from another parametrization in the order of its list.
-/
namespace Gripperz.Parametrizations
open Library

variable {R : Type}

@[ext] structure Containers (R : Type) where
  parameterNameList : List String
  parameters : String → Option R

namespace Containers

def empty : Containers R := ⟨[], fun _ => none⟩

/-- `map::insert`, and whether there was no such key yet. -/
def insert (map : String → Option R) (p : String × R) : (String → Option R) × Bool :=
  if (map p.1).isSome then (map, false) else (Function.update map p.1 (some p.2), true)

def hasParameter (c : Containers R) (name : String) : Bool := (c.parameters name).isSome

/-- `addParameter`. -/
def add (c : Containers R) (p : String × R) : Containers R :=
  let insertion_result := insert c.parameters p
  if insertion_result.2 then ⟨c.parameterNameList ++ [p.1], insertion_result.1⟩
  else ⟨c.parameterNameList, insertion_result.1⟩

/-- `_parameters[name] = value`, of a key that is in the map. -/
def assign (c : Containers R) (p : String × R) : Containers R :=
  { c with parameters := Function.update c.parameters p.1 (some p.2) }

def addParameter (p : String × R) : Action (Containers R) Unit := modify fun c => c.add p

/-- `map::at` raises an exception without the key. -/
def setParameter (p : String × R) : Action (Containers R) Unit := do
  if (← get).hasParameter p.1 then modify fun c => c.assign p else Action.raise "map::at"

/-- `map::at` raises an exception without the key. -/
def getParameterList : Action (Containers R) (List (String × R)) := do
  let c ← get
  match c.parameterNameList.mapM fun name => (c.parameters name).map fun value => (name, value) with
  | some list => pure list
  | none => Action.raise "map::at"

/-- `Parametrization(list)`. -/
def ofList (list : List (String × R)) : Containers R := list.foldl add empty

/-- `Parametrization(nameList)`. -/
def ofNames [Zero R] (nameList : List String) : Containers R :=
  nameList.foldl (fun c name => c.add (name, 0)) empty

/-- A copy is a new object. -/
def clone (this : Ptr) : Action (Heap (Containers R)) Unit := do
  match (← get).get this with
  | none => Action.crash
  | some c => Action.make c

/-- The list is copied before the first parameter is added. -/
def merge (this parametrization : Ptr) : Action (Heap (Containers R)) Unit := do
  let list ← Action.callOn parametrization getParameterList
  Action.callOn this <| list.forM fun p => do
    if !(← get).hasParameter p.1 then addParameter p else pure ()

/-- The list is copied before the first parameter is changed. -/
def patch (this parametrization : Ptr) : Action (Heap (Containers R)) Unit := do
  let list ← Action.callOn parametrization getParameterList
  Action.callOn this <| list.forM fun p => do
    if !(← get).hasParameter p.1 then addParameter p else setParameter p

/-! ## The list is that of the keys -/

structure InStep (c : Containers R) : Prop where
  nodup : c.parameterNameList.Nodup
  keys : ∀ name, name ∈ c.parameterNameList ↔ (c.parameters name).isSome

theorem inStep_empty : (empty : Containers R).InStep := ⟨List.nodup_nil, by simp [empty]⟩

theorem add_of_has {c : Containers R} {p : String × R} (h : c.hasParameter p.1 = true) :
    c.add p = c := by
  have hold : (c.parameters p.1).isSome = true := h
  rw [add, insert, if_pos hold]
  rfl

theorem add_of_not_has {c : Containers R} {p : String × R} (h : ¬ c.hasParameter p.1 = true) :
    c.add p = ⟨c.parameterNameList ++ [p.1], Function.update c.parameters p.1 (some p.2)⟩ := by
  have hnew : ¬ (c.parameters p.1).isSome = true := h
  rw [add, insert, if_neg hnew]
  rfl

namespace InStep
variable {c : Containers R} {p : String × R}

theorem has_iff (h : c.InStep) {name : String} :
    c.hasParameter name = true ↔ name ∈ c.parameterNameList := (h.keys name).symm

theorem add (h : c.InStep) (p : String × R) : (c.add p).InStep := by
  by_cases hold : c.hasParameter p.1 = true
  · rwa [add_of_has hold]
  · rw [add_of_not_has hold]
    have hnew : p.1 ∉ c.parameterNameList := mt h.has_iff.mpr hold
    constructor
    · rw [List.nodup_append_comm]
      exact List.nodup_cons.mpr ⟨hnew, h.nodup⟩
    · intro name
      by_cases heq : name = p.1
      · simp [heq]
      · simp [heq, h.keys]

theorem assign (h : c.InStep) (hold : c.hasParameter p.1 = true) : (c.assign p).InStep := by
  refine ⟨h.nodup, fun name => ?_⟩
  by_cases heq : name = p.1
  · subst heq
    simpa [Containers.assign] using h.has_iff.mp hold
  · simp [Containers.assign, heq, h.keys]

theorem foldl_add (h : c.InStep) (list : List (String × R)) :
    (list.foldl Containers.add c).InStep := by
  induction list generalizing c with
  | nil => exact h
  | cons p list ih => exact ih (h.add p)

/-- Containers in step are those of a parametrization. -/
def parametrization (h : c.InStep) : Parametrization R :=
  ⟨c.parameterNameList, c.parameters, h.nodup, h.keys⟩

end InStep

/-- What the list of a parametrization is. -/
theorem getParameterList_eq {c : Containers R} (h : c.InStep) :
    ∃ list, getParameterList c = .ok list c ∧ list.map Prod.fst = c.parameterNameList ∧
      ∀ p ∈ list, c.parameters p.1 = some p.2 := by
  obtain ⟨list, hlist⟩ := h.parametrization.exists_getParameterList
  obtain ⟨hnames, hvalues⟩ := Parametrization.getParameterList_spec hlist
  refine ⟨list, ?_, hnames, hvalues⟩
  have hmapM : (c.parameterNameList.mapM fun name =>
      (c.parameters name).map fun value => (name, value)) = some list := hlist
  change (match c.parameterNameList.mapM fun name =>
      (c.parameters name).map fun value => (name, value) with
    | some list => (pure list : Action (Containers R) (List (String × R)))
    | none => Action.raise "map::at") c = _
  rw [hmapM]
  rfl

/-! ## Taking parameters over -/

/-- One round of `merge`. -/
def mergeOne (c : Containers R) (p : String × R) : Containers R :=
  if !c.hasParameter p.1 then c.add p else c

/-- One round of `patch`. -/
def patchOne (c : Containers R) (p : String × R) : Containers R :=
  if !c.hasParameter p.1 then c.add p else c.assign p

/-- A parameter is taken over: a new one is appended, and `prefer` chooses between the value there
is and that of the argument. -/
structure TakesOver (prefer : Option R → R → Option R)
    (take : Containers R → String × R → Containers R) : Prop where
  isSome : ∀ old value, (prefer old value).isSome
  again : ∀ old value, prefer (prefer old value) value = prefer old value
  names : ∀ c p, (take c p).parameterNameList =
    if c.hasParameter p.1 then c.parameterNameList else c.parameterNameList ++ [p.1]
  values : ∀ c p name, (take c p).parameters name =
    if name = p.1 then prefer (c.parameters name) p.2 else c.parameters name

theorem takesOver_mergeOne :
    TakesOver (fun old value => old.or (some value)) (mergeOne (R := R)) where
  isSome old value := by cases old <;> rfl
  again old value := by cases old <;> rfl
  names c p := by
    by_cases hold : c.hasParameter p.1 = true
    · simp [mergeOne, hold]
    · simp [mergeOne, hold, add_of_not_has hold]
  values c p name := by
    by_cases hold : c.hasParameter p.1 = true
    · obtain ⟨value, hvalue⟩ := Option.isSome_iff_exists.mp hold
      by_cases heq : name = p.1
      · simp [mergeOne, hold, heq, hvalue]
      · simp [mergeOne, hold, heq]
    · have hnone : c.parameters p.1 = none := Option.not_isSome_iff_eq_none.mp hold
      by_cases heq : name = p.1
      · simp [mergeOne, hold, add_of_not_has hold, heq, hnone]
      · simp [mergeOne, hold, add_of_not_has hold, heq]

theorem takesOver_patchOne :
    TakesOver (fun _ value => some value) (patchOne (R := R)) where
  isSome _ _ := rfl
  again _ _ := rfl
  names c p := by
    by_cases hold : c.hasParameter p.1 = true
    · simp [patchOne, hold, assign]
    · simp [patchOne, hold, add_of_not_has hold]
  values c p name := by
    by_cases hold : c.hasParameter p.1 = true
    · simp [patchOne, hold, assign, Function.update_apply]
    · simp [patchOne, hold, add_of_not_has hold, Function.update_apply]

namespace TakesOver
variable {prefer : Option R → R → Option R} {take : Containers R → String × R → Containers R}
  {c : Containers R} {list : List (String × R)}

theorem inStep (h : TakesOver prefer take) (hc : c.InStep) (p : String × R) :
    (take c p).InStep := by
  have hnames := h.names c p
  constructor
  · by_cases hold : c.hasParameter p.1 = true
    · rw [hnames, if_pos hold]
      exact hc.nodup
    · rw [hnames, if_neg hold, List.nodup_append_comm]
      exact List.nodup_cons.mpr ⟨mt hc.has_iff.mpr hold, hc.nodup⟩
  · intro name
    rw [hnames, h.values]
    by_cases hold : c.hasParameter p.1 = true
    · have hmem := hc.has_iff.mp hold
      by_cases heq : name = p.1
      · subst heq
        simp [hold, hmem, h.isSome]
      · simp [hold, heq, hc.keys]
    · by_cases heq : name = p.1
      · simp [hold, heq, h.isSome]
      · simp [hold, heq, hc.keys]

/-- All parameters of a list are taken over, the new ones in the order of the list. -/
theorem foldl_spec (h : TakesOver prefer take) (hc : c.InStep)
    (hnodup : (list.map Prod.fst).Nodup) :
    (list.foldl take c).InStep ∧
      (list.foldl take c).parameterNameList = c.parameterNameList ++
        (list.map Prod.fst).filter (fun name => name ∉ c.parameterNameList) ∧
      (∀ p ∈ list, (list.foldl take c).parameters p.1 = prefer (c.parameters p.1) p.2) ∧
      ∀ name ∉ list.map Prod.fst, (list.foldl take c).parameters name = c.parameters name := by
  induction list generalizing c with
  | nil => simpa using hc
  | cons p list ih =>
    rw [List.map_cons, List.nodup_cons] at hnodup
    obtain ⟨hinStep, hnames, hset, hkept⟩ := ih (h.inStep hc p) hnodup.2
    rw [List.foldl_cons]
    refine ⟨hinStep, ?_, ?_, ?_⟩
    · rw [hnames, h.names, List.map_cons]
      by_cases hold : c.hasParameter p.1 = true
      · have hmem := hc.has_iff.mp hold
        simp [hold, hmem]
      · have hnew := mt hc.has_iff.mpr hold
        have hrest : (list.map Prod.fst).filter
            (fun name => name ∉ c.parameterNameList ++ [p.1]) =
            (list.map Prod.fst).filter fun name => name ∉ c.parameterNameList := by
          apply List.filter_congr
          intro name hname
          have hne : name ≠ p.1 := fun heq => hnodup.1 (heq ▸ hname)
          simp [hne]
        rw [if_neg hold, hrest, List.filter_cons_of_pos (by simpa using hnew), List.append_assoc,
          List.singleton_append]
    · refine List.forall_mem_cons.mpr ⟨?_, ?_⟩
      · rw [hkept p.1 hnodup.1, h.values, if_pos rfl]
      · intro p' hp'
        have hne : p'.1 ≠ p.1 := fun heq => hnodup.1 (heq ▸ List.mem_map_of_mem hp')
        rw [hset p' hp', h.values, if_neg hne]
    · intro name hname
      rw [List.map_cons, List.mem_cons, not_or] at hname
      rw [hkept name hname.2, h.values, if_neg hname.1]

end TakesOver

/-- The names of a parametrization, followed by the new names of another. -/
def joinedNames (p q : Containers R) : List String :=
  p.parameterNameList ++ q.parameterNameList.filter fun name => name ∉ p.parameterNameList

/-- The values of the receiver have precedence. -/
def mergedWith (p q : Containers R) : Containers R :=
  ⟨p.joinedNames q, fun name => (p.parameters name).or (q.parameters name)⟩

/-- The values of the argument have precedence. -/
def patchedWith (p q : Containers R) : Containers R :=
  ⟨p.joinedNames q, fun name => (q.parameters name).or (p.parameters name)⟩

section
variable {p q : Containers R} {list : List (String × R)}

theorem TakesOver.foldl_eq {prefer : Option R → R → Option R}
    {take : Containers R → String × R → Containers R} (h : TakesOver prefer take)
    (hp : p.InStep) (hq : q.InStep) (hnames : list.map Prod.fst = q.parameterNameList)
    (hvalues : ∀ x ∈ list, q.parameters x.1 = some x.2) :
    list.foldl take p = ⟨p.joinedNames q, fun name =>
      (q.parameters name).elim (p.parameters name) (prefer (p.parameters name))⟩ := by
  obtain ⟨-, hjoined, hset, hkept⟩ := h.foldl_spec hp (hnames.symm ▸ hq.nodup)
  apply Containers.ext
  · rw [hjoined, hnames, joinedNames]
  · funext name
    by_cases hname : name ∈ list.map Prod.fst
    · obtain ⟨x, hx, rfl⟩ := List.mem_map.mp hname
      simp [hset x hx, hvalues x hx]
    · have hnone : q.parameters name = none := by
        rw [hnames, hq.keys] at hname
        exact Option.not_isSome_iff_eq_none.mp hname
      simp [hkept name hname, hnone]

theorem foldl_mergeOne (hp : p.InStep) (hq : q.InStep)
    (hnames : list.map Prod.fst = q.parameterNameList)
    (hvalues : ∀ x ∈ list, q.parameters x.1 = some x.2) :
    list.foldl mergeOne p = p.mergedWith q := by
  rw [takesOver_mergeOne.foldl_eq hp hq hnames hvalues, mergedWith]
  congr 1
  funext name
  cases q.parameters name <;> simp

theorem foldl_patchOne (hp : p.InStep) (hq : q.InStep)
    (hnames : list.map Prod.fst = q.parameterNameList)
    (hvalues : ∀ x ∈ list, q.parameters x.1 = some x.2) :
    list.foldl patchOne p = p.patchedWith q := by
  rw [takesOver_patchOne.foldl_eq hp hq hnames hvalues, patchedWith]
  congr 1
  funext name
  cases q.parameters name <;> simp

theorem joinedNames_joined (hq : ∀ name ∈ q.parameterNameList, name ∈ p.parameterNameList) :
    p.joinedNames q = p.parameterNameList := by
  have hnone : (q.parameterNameList.filter fun name => name ∉ p.parameterNameList) = [] := by
    simpa [List.filter_eq_nil_iff] using hq
  rw [joinedNames, hnone, List.append_nil]

theorem mem_joinedNames {name : String} (h : name ∈ q.parameterNameList) :
    name ∈ p.joinedNames q := by
  by_cases hold : name ∈ p.parameterNameList
  · exact List.mem_append_left _ hold
  · exact List.mem_append_right _ (by simp [h, hold])

theorem mergedWith_self (p : Containers R) : p.mergedWith p = p := by
  rw [mergedWith, joinedNames_joined fun _ h => h]
  simp

theorem patchedWith_self (p : Containers R) : p.patchedWith p = p := by
  rw [patchedWith, joinedNames_joined fun _ h => h]
  simp

theorem mergedWith_again (p q : Containers R) : (p.mergedWith q).mergedWith q = p.mergedWith q := by
  rw [mergedWith, joinedNames_joined (p := p.mergedWith q) fun _ => mem_joinedNames]
  simp [mergedWith, Option.or_assoc]

theorem patchedWith_again (p q : Containers R) :
    (p.patchedWith q).patchedWith q = p.patchedWith q := by
  rw [patchedWith, joinedNames_joined (p := p.patchedWith q) fun _ => mem_joinedNames]
  simp [patchedWith, ← Option.or_assoc]

end

/-! ## Containers with their invariant -/

section
variable (p : Parametrization R)

/-- The containers of a parametrization. -/
def of : Containers R := ⟨p.parameterNameList, p.parameters⟩

theorem of_addParameter (name : String) (value : R) :
    of (p.addParameter name value) = (of p).add (name, value) := by
  unfold Parametrization.addParameter
  by_cases hold : p.hasParameter name = true
  · rw [dif_pos hold, add_of_has (c := of p) (p := (name, value)) hold]
  · rw [dif_neg hold, add_of_not_has (c := of p) (p := (name, value)) hold]
    rfl

theorem of_setParameter (name : String) (value : R) :
    setParameter (name, value) (of p) = match p.setParameter name value with
      | some q => .ok () (of q)
      | none => .error (.raised "map::at") (of p) := by
  change (if (of p).hasParameter name then modify fun c => c.assign (name, value)
    else Action.raise "map::at" : Action (Containers R) Unit) (of p) = _
  unfold Parametrization.setParameter
  by_cases hold : p.hasParameter name = true
  · rw [dif_pos hold, if_pos (show (of p).hasParameter name = true from hold)]
    rfl
  · rw [dif_neg hold, if_neg (show ¬ (of p).hasParameter name = true from hold)]
    rfl

theorem of_addParameters (list : List (String × R)) :
    of (p.addParameters list) = list.foldl add (of p) := by
  induction list generalizing p with
  | nil => rfl
  | cons parameter list ih =>
    rw [List.foldl_cons, ← of_addParameter]
    exact ih _

/-- The constructors make the containers of the parametrizations of the same lists. -/
theorem of_ofList (list : List (String × R)) : of (.ofList list) = ofList list :=
  of_addParameters .empty list

theorem of_ofNames [Zero R] (nameList : List String) :
    of (.ofNames nameList : Parametrization R) = ofNames nameList := by
  rw [Parametrization.ofNames, of_ofList, ofList, List.foldl_map]
  rfl

end

end Containers
end Gripperz.Parametrizations
