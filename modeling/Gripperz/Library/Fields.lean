import Mathlib.Data.List.Induction

/-! # Fields of a record

Records with a field under each of some names. A list of assignments leaves in a field the last
value it assigns to it. Read back, the fields are the values assigned when no name is given two
values, and only then.
-/
namespace Gripperz.Library

/-- Values are read under some names exactly when there is one under each. -/
theorem isSome_mapM {ν R : Type*} {read : ν → Option R} {names : List ν} :
    (names.mapM read).isSome = true ↔ ∀ name ∈ names, (read name).isSome = true := by
  induction names with
  | nil => exact iff_of_true rfl nofun
  | cons name names ih =>
    rw [List.forall_mem_cons, ← ih, List.mapM_cons]
    cases read name with
    | none => simp
    | some value => cases names.mapM read <;> simp

/-- Reading and writing the fields of an `α`. -/
structure Fields (α ν R : Type*) where
  get : α → ν → R
  set : α → ν → R → α
  get_set_self : ∀ a name value, get (set a name value) name = value
  get_set_of_ne : ∀ a name name' value, name' ≠ name → get (set a name value) name' = get a name'

namespace Fields
variable {α ν R : Type*} (fields : Fields α ν R)

/-- One assignment after the other. -/
def assign (a : α) (list : List (ν × R)) : α :=
  list.foldl (fun a assignment => fields.set a assignment.1 assignment.2) a

theorem assign_append (a : α) (list list' : List (ν × R)) :
    fields.assign a (list ++ list') = fields.assign (fields.assign a list) list' :=
  List.foldl_append

/-- What every assignment leaves alone. -/
theorem assign_frame {β : Type*} (rest : α → β)
    (frame : ∀ a name value, rest (fields.set a name value) = rest a) (a : α)
    (list : List (ν × R)) : rest (fields.assign a list) = rest a := by
  induction list generalizing a with
  | nil => rfl
  | cons assignment list ih => exact (ih _).trans (frame a assignment.1 assignment.2)

variable [DecidableEq ν]

/-- The last value that is assigned to a field. -/
def last (list : List (ν × R)) (name : ν) : Option R := list.reverse.lookup name

theorem last_append_singleton (list : List (ν × R)) (name name' : ν) (value : R) :
    last (list ++ [(name, value)]) name' =
      if name' = name then some value else last list name' := by
  rw [last, List.reverse_append, List.reverse_singleton, List.singleton_append, List.lookup_cons]
  by_cases h : name' = name
  · simp [h]
  · have hne : (name' == name) = false := by simp [h]
    simp [hne, h, last]

theorem get_assign (a : α) (list : List (ν × R)) (name : ν) :
    fields.get (fields.assign a list) name = (last list name).getD (fields.get a name) := by
  induction list using List.reverseRecOn with
  | nil => rfl
  | append_singleton list assignment ih =>
    rw [assign_append, last_append_singleton]
    change fields.get (fields.set (fields.assign a list) assignment.1 assignment.2) name = _
    by_cases h : name = assignment.1
    · rw [if_pos h, h, fields.get_set_self]
      rfl
    · rw [if_neg h, fields.get_set_of_ne _ _ _ _ h, ih]

theorem last_eq_none_iff {list : List (ν × R)} {name : ν} :
    last list name = none ↔ name ∉ list.map Prod.fst := by
  induction list using List.reverseRecOn with
  | nil => simp [last]
  | append_singleton list assignment ih =>
    rw [last_append_singleton]
    by_cases h : name = assignment.1
    · simp [h]
    · simp [h, ih]

theorem mem_of_last {list : List (ν × R)} {name : ν} {value : R} (h : last list name = some value) :
    (name, value) ∈ list := by
  induction list using List.reverseRecOn with
  | nil => cases h
  | append_singleton list assignment ih =>
    rw [last_append_singleton] at h
    by_cases hname : name = assignment.1
    · rw [if_pos hname] at h
      obtain rfl := Option.some.inj h
      simp [hname]
    · rw [if_neg hname] at h
      exact List.mem_append_left _ (ih h)

/-- Each field is left as it is assigned when all that are assigned to it agree. -/
theorem get_assign_iff (a : α) (list : List (ν × R)) :
    (∀ assignment ∈ list, fields.get (fields.assign a list) assignment.1 = assignment.2) ↔
      ∀ first ∈ list, ∀ second ∈ list, first.1 = second.1 → first.2 = second.2 := by
  constructor
  · intro h first hfirst second hsecond hname
    rw [← h first hfirst, ← h second hsecond, hname]
  · intro hagree assignment hmem
    rw [get_assign]
    cases hlast : last list assignment.1 with
    | none => exact absurd (List.mem_map_of_mem hmem) (last_eq_none_iff.mp hlast)
    | some value => exact hagree _ (mem_of_last hlast) assignment hmem rfl

/-- Reading the fields that were assigned gives back the values assigned to them. -/
theorem map_get_assign_iff (a : α) {names : List ν} {values : List R}
    (hlength : values.length = names.length) :
    names.map (fields.get (fields.assign a (names.zip values))) = values ↔
      ∀ first ∈ names.zip values, ∀ second ∈ names.zip values,
        first.1 = second.1 → first.2 = second.2 := by
  rw [← get_assign_iff fields a]
  generalize fields.get (fields.assign a (names.zip values)) = got
  induction names generalizing values with
  | nil =>
    obtain rfl := List.length_eq_zero_iff.mp hlength
    simp
  | cons name names ih =>
    cases values with
    | nil => cases hlength
    | cons value values =>
      simp only [List.map_cons, List.cons.injEq, List.zip_cons_cons, List.forall_mem_cons,
        ih (Nat.succ.inj hlength)]

end Fields
end Gripperz.Library
