import Mathlib.Data.List.Basic

/-! # Property trees

A tree whose nodes have data and, in order, children under keys; keys may occur more than once.
A path is a list of keys that leads from a node to the first child with each key.
-/
namespace Gripperz.Library

inductive PTree (K D : Type) where
  | node (data : D) (children : List (K × PTree K D))

namespace PTree
variable {K D : Type}

def data : PTree K D → D
  | node data _ => data

def children : PTree K D → List (K × PTree K D)
  | node _ children => children

def leaf (value : D) : PTree K D := node value []

/-- A node with nothing in it. -/
def empty [Inhabited D] : PTree K D := node default []

def putValue (value : D) (t : PTree K D) : PTree K D := node value t.children

variable [DecidableEq K]

/-- The first child with a key. -/
def find (key : K) (t : PTree K D) : Option (PTree K D) :=
  (t.children.find? fun child => child.1 = key).map Prod.snd

/-- `get_child_optional`. -/
def getChild : List K → PTree K D → Option (PTree K D)
  | [], t => some t
  | key :: path, t => (t.find key).bind (getChild path)

/-- The data at a path. -/
def get (path : List K) (t : PTree K D) : Option D := (t.getChild path).map data

/-- Rewrite the first child with a key, a new one at the end if there is none. -/
def edit [Inhabited D] (key : K) (f : PTree K D → PTree K D) (t : PTree K D) : PTree K D :=
  let rec go : List (K × PTree K D) → List (K × PTree K D)
    | [] => [(key, f empty)]
    | child :: rest => if child.1 = key then (key, f child.2) :: rest else child :: go rest
  node t.data (go t.children)

/-- `put`: the data at a path, which is made if it is not there. -/
def put [Inhabited D] : List K → D → PTree K D → PTree K D
  | [], value, t => t.putValue value
  | key :: path, value, t => t.edit key (put path value)

/-- `add_child`: a child under the last key of a path, which is made if it is not there. -/
def addChild [Inhabited D] : List K → K → PTree K D → PTree K D → PTree K D
  | [], key, t, child => node t.data (t.children ++ [(key, child)])
  | step :: path, key, t, child => t.edit step fun t => addChild path key t child

/-! ## Reading what was written -/

section
variable [Inhabited D] {t : PTree K D} {key key' : K} {f : PTree K D → PTree K D}

omit [DecidableEq K] [Inhabited D] in
@[simp] theorem data_node (value : D) (children : List (K × PTree K D)) :
    (node value children).data = value := rfl

omit [DecidableEq K] [Inhabited D] in
@[simp] theorem data_leaf (value : D) : (leaf value : PTree K D).data = value := rfl

omit [DecidableEq K] [Inhabited D] in
@[simp] theorem children_node (value : D) (children : List (K × PTree K D)) :
    (node value children).children = children := rfl

theorem find_go_self (children : List (K × PTree K D)) :
    ((edit.go key f children).find? fun child => child.1 = key).map Prod.snd =
      some (f (((children.find? fun child => child.1 = key).map Prod.snd).getD empty)) := by
  induction children with
  | nil => simp [edit.go]
  | cons child rest ih =>
    unfold edit.go
    split
    · rename_i h
      simp [h]
    · rename_i h
      simpa [h] using ih

theorem find_go_of_ne (h : key' ≠ key) (children : List (K × PTree K D)) :
    (edit.go key f children).find? (fun child => child.1 = key') =
      children.find? fun child => child.1 = key' := by
  induction children with
  | nil => simp [edit.go, Ne.symm h]
  | cons child rest ih =>
    unfold edit.go
    split
    · rename_i hkey
      simp [hkey, Ne.symm h]
    · by_cases hchild : child.1 = key'
      · simp [hchild]
      · simpa [hchild] using ih

@[simp] theorem find_edit_self : (t.edit key f).find key = some (f ((t.find key).getD empty)) :=
  find_go_self t.children

theorem find_edit_of_ne (h : key' ≠ key) : (t.edit key f).find key' = t.find key' :=
  congrArg (Option.map Prod.snd) (find_go_of_ne h t.children)

omit [Inhabited D] in
@[simp] theorem getChild_singleton : t.getChild [key] = t.find key := by
  simp [getChild]

theorem find_put_self (path : List K) (value : D) (t : PTree K D) :
    (t.put (key :: path) value).find key = some (((t.find key).getD empty).put path value) :=
  find_edit_self

theorem find_put_of_ne (h : key' ≠ key) (path : List K) (value : D) (t : PTree K D) :
    (t.put (key :: path) value).find key' = t.find key' := find_edit_of_ne h

theorem find_addChild_of_ne (h : key' ≠ key) (child : PTree K D) :
    (t.addChild [] key child).find key' = t.find key' := by
  simp [addChild, find, Ne.symm h]

theorem find_addChild_self (h : t.find key = none) (child : PTree K D) :
    (t.addChild [] key child).find key = some child := by
  have hnone : t.children.find? (fun child => child.1 = key) = none := by
    simpa [find] using h
  simp [addChild, find, hnone]

/-! A tree whose children are known is rewritten child by child. -/

theorem put_node (key : K) (path : List K) (value data : D) (children : List (K × PTree K D)) :
    (node data children).put (key :: path) value =
      node data (edit.go key (put path value) children) := rfl

theorem put_nil (value data : D) (children : List (K × PTree K D)) :
    (node data children).put [] value = node value children := rfl

theorem go_nil : edit.go key f [] = [(key, f empty)] := rfl

theorem go_cons (child : K × PTree K D) (rest : List (K × PTree K D)) :
    edit.go key f (child :: rest) =
      if child.1 = key then (key, f child.2) :: rest else child :: edit.go key f rest := rfl

/-! ## Lists of children -/

variable {α : Type}

theorem find_put_under {s : PTree K D} (h : t.find key = some s) (path : List K) (value : D) :
    (t.put (key :: path) value).find key = some (s.put path value) := by
  rw [find_put_self, h, Option.getD_some]

theorem find_addChild_under {s : PTree K D} (h : t.find key = some s) (path : List K)
    (child : PTree K D) :
    (t.addChild (key :: path) key' child).find key = some (s.addChild path key' child) := by
  rw [addChild, find_edit_self, h, Option.getD_some]

theorem find_foldl_edit {s : PTree K D} (h : t.find key = some s) (g : α → PTree K D → PTree K D)
    (list : List α) :
    (list.foldl (fun t x => t.edit key (g x)) t).find key =
      some (list.foldl (fun s x => g x s) s) := by
  induction list generalizing t s with
  | nil => exact h
  | cons x list ih =>
    apply ih
    rw [find_edit_self, h, Option.getD_some]

theorem find_foldl_under {s : PTree K D} (h : t.find key = some s) (path : List K)
    (child : α → PTree K D) (list : List α) :
    (list.foldl (fun t x => addChild (key :: path) key' t (child x)) t).find key =
      some (list.foldl (fun t x => addChild path key' t (child x)) s) :=
  find_foldl_edit h (fun x t => addChild path key' t (child x)) list

theorem find_foldl_of_ne {step : K} (h : key ≠ step) (path : List K) (child : α → PTree K D)
    (list : List α) :
    (list.foldl (fun t x => addChild (step :: path) key' t (child x)) t).find key =
      t.find key := by
  induction list generalizing t with
  | nil => rfl
  | cons x list ih => rw [List.foldl_cons, ih, addChild, find_edit_of_ne h]

theorem foldl_addChild (child : α → PTree K D) (list : List α) :
    list.foldl (fun t x => addChild [] key t (child x)) t =
      node t.data (t.children ++ list.map fun x => (key, child x)) := by
  induction list generalizing t with
  | nil =>
    cases t
    simp
  | cons x list ih =>
    rw [List.foldl_cons, ih]
    simp [addChild]

/-- A node that is there only for the children that there are. -/
def group (key : K) (child : α → PTree K D) (list : List α) : Option (PTree K D) :=
  if list = [] then none else some (node default (list.map fun x => (key, child x)))

omit [DecidableEq K] in
theorem map_eq_of_group_eq {child : α → PTree K D} {list list' : List α}
    (h : group key child list = group key child list') : list.map child = list'.map child := by
  cases list with
  | nil =>
    cases list' with
    | nil => rfl
    | cons y ys => cases h
  | cons x xs =>
    cases list' with
    | nil => cases h
    | cons y ys =>
      rw [group, if_neg (List.cons_ne_nil x xs), group, if_neg (List.cons_ne_nil y ys),
        Option.some_inj, node.injEq] at h
      have hchildren := congrArg (List.map Prod.snd) h.2
      rwa [List.map_map, List.map_map] at hchildren

theorem find_foldl_addChild (h : t.find key = none) (child : α → PTree K D) (list : List α) :
    (list.foldl (fun t x => addChild [key] key' t (child x)) t).find key =
      group key' child list := by
  cases list with
  | nil => exact h
  | cons x list =>
    have hfirst : (addChild [key] key' t (child x)).find key =
        some (node default [(key', child x)]) := by
      simp only [addChild, find_edit_self, h, Option.getD_none]
      rfl
    rw [List.foldl_cons]
    refine (find_foldl_edit hfirst (fun x t => addChild [] key' t (child x)) list).trans ?_
    rw [foldl_addChild, group, if_neg (List.cons_ne_nil x list)]
    rfl

end
end PTree
end Gripperz.Library
