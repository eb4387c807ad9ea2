import Gripperz.Library.NumberText
import Gripperz.Library.PropertyTree

/-! # Named values

Parameters and quality indices are kept in a tree in the same way: a child for each, with the
name as an attribute and the value as its data.
-/
namespace Gripperz.Loaders
open Library

variable {R σ : Type} (number : NumberText R)

/-- `readParameter` and `readIndex`. -/
def readNamedValue (tree : PTree String String) : Option (String × R) :=
  (tree.get ["<xmlattr>", "name"]).bind fun name =>
    (number.read tree.data).map fun value => (name, value)

def writeNamedValue (p : String × R) : PTree String String :=
  (PTree.empty.put ["<xmlattr>", "name"] p.1).putValue (number.text p.2)

/-- The children under a key are read and added one after the other. -/
def readNamedValues (key : String) (add : σ → String × R → σ) (init : σ)
    (tree : PTree String String) : Option σ :=
  tree.children.foldlM
    (fun s node => if node.1 = key then (readNamedValue number node.2).map (add s) else some s)
    init

def writeNamedValues (key : String) (list : List (String × R)) : PTree String String :=
  list.foldl (fun tree p => tree.addChild [] key (writeNamedValue number p)) PTree.empty

theorem readNamedValue_writeNamedValue (p : String × R) :
    readNamedValue number (writeNamedValue number p) = some p := by
  have hname : (writeNamedValue number p).get ["<xmlattr>", "name"] = some p.1 := rfl
  have hdata : (writeNamedValue number p).data = number.text p.2 := rfl
  simp [readNamedValue, hname, hdata, number.read_text]

theorem children_writeNamedValues (key : String) (list : List (String × R)) :
    (writeNamedValues number key list).children =
      list.map fun p => (key, writeNamedValue number p) := by
  have hfold : writeNamedValues number key list =
      .node "" ([] ++ list.map fun p => (key, writeNamedValue number p)) :=
    PTree.foldl_addChild (writeNamedValue number) list
  rw [hfold]
  rfl

/-- What has been written is added again, in order. -/
theorem readNamedValues_writeNamedValues (key : String) (add : σ → String × R → σ) (init : σ)
    (list : List (String × R)) :
    readNamedValues number key add init (writeNamedValues number key list) =
      some (list.foldl add init) := by
  rw [readNamedValues, children_writeNamedValues]
  induction list generalizing init with
  | nil => rfl
  | cons p list ih =>
    simp only [List.map_cons, List.foldlM_cons, if_true, readNamedValue_writeNamedValue,
      List.foldl_cons]
    exact ih (add init p)

/-- The names and values of the children under a key, if all of them can be read. -/
def namedValues (key : String) (tree : PTree String String) : Option (List (String × R)) :=
  (tree.children.filter fun node => node.1 = key).mapM fun node => readNamedValue number node.2

theorem namedValues_writeNamedValues (key : String) (list : List (String × R)) :
    namedValues number key (writeNamedValues number key list) = some list := by
  rw [namedValues, children_writeNamedValues]
  induction list with
  | nil => rfl
  | cons p list ih =>
    rw [List.map_cons, List.filter_cons, if_pos (decide_eq_true rfl), List.mapM_cons, ih,
      readNamedValue_writeNamedValue]
    rfl

/-- Reading is adding up the values that are there. -/
theorem readNamedValues_eq (key : String) (add : σ → String × R → σ) (init : σ)
    (tree : PTree String String) : readNamedValues number key add init tree =
      (namedValues number key tree).map fun list => list.foldl add init := by
  rw [readNamedValues, namedValues]
  generalize tree.children = children
  induction children generalizing init with
  | nil => rfl
  | cons node children ih =>
    rw [List.foldlM_cons, List.filter_cons]
    by_cases hkey : node.1 = key
    · rw [if_pos hkey, if_pos (decide_eq_true hkey), List.mapM_cons]
      cases readNamedValue number node.2 with
      | none => rfl
      | some value =>
        refine (ih (add init value)).trans ?_
        cases (children.filter fun node => node.1 = key).mapM fun node =>
          readNamedValue number node.2 <;> rfl
    · rw [if_neg hkey, if_neg (by simpa using hkey)]
      exact ih init

end Gripperz.Loaders
