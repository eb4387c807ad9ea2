import Gripperz.Library.NumberText
import Gripperz.Library.PropertyTree
import Gripperz.Math.Q

/-! # Numbers and vectors in trees

A reader either has a result or stops with an error. A vector is written as its coordinates
with a blank on each side.
-/
namespace Gripperz.Util
open Library Math

/-- What stops a reader. -/
inductive LoadError where
  /-- `ptree_bad_path`: no node has the path. -/
  | noSuchNode (path : String)
  /-- `boost::bad_lexical_cast`: the text is not a number. -/
  | badLexicalCast (text : String)
  /-- `RW_THROW`. -/
  | thrown (text : String)
  /-- An index past the end of a vector. -/
  | outOfRange
  deriving DecidableEq, Repr

/-- The value there is, or else the error. -/
def required {α : Type} (error : LoadError) : Option α → Except LoadError α
  | some value => .ok value
  | none => .error error

/-- `get_child`. -/
def getChild (key : String) (tree : PTree String String) : Except LoadError (PTree String String) :=
  required (.noSuchNode key) (tree.getChild [key])

namespace XMLHelpers
variable {R : Type} (number : NumberFormat R)

/-- Nothing, when a second word follows the number. -/
def toDouble (str : String) : Except LoadError (Option R) :=
  match words str.toList with
  | [] => .error (.badLexicalCast "")
  | word :: rest =>
    (required (.badLexicalCast (String.ofList word)) (number.read (String.ofList word))).map
      fun x => if rest = [] then some x else none

/-- A text that has to be a number. -/
def expectDouble (str : String) : Except LoadError R :=
  (toDouble number str).bind
    (required (.thrown ("Number expected. Got \"" ++ str ++ "\" ")))

def readArray (tree : PTree String String) : Except LoadError (List R) :=
  (words tree.data.toList).mapM fun word => expectDouble number (String.ofList word)

def readDouble (tree : PTree String String) : Except LoadError R :=
  expectDouble number tree.data

def readQ (tree : PTree String String) : Except LoadError (Q R) :=
  (readArray number tree).map Q.fromStdVector

def QToString (q : Q R) : String :=
  String.ofList (' ' :: q.coords.flatMap fun x => (number.text x).toList ++ [' '])

end XMLHelpers

/-- `q(i)`. -/
def coordinate {R : Type} (q : Q R) (i : ℕ) : Except LoadError R :=
  required .outOfRange q.coords[i]?

/-- `q(i) *= factor`. -/
def multiply {R : Type} [Mul R] (i : ℕ) (factor : R) (q : Q R) : Except LoadError (Q R) :=
  (coordinate q i).map fun x => q.set i (x * factor)

/-! ## Reading what was written -/

@[simp] theorem required_some {α : Type} (error : LoadError) (value : α) :
    required error (some value) = .ok value := rfl

@[simp] theorem required_none {α : Type} (error : LoadError) :
    required error (none : Option α) = .error error := rfl

theorem required_eq_ok {α : Type} {error : LoadError} {option : Option α} {value : α} :
    required error option = .ok value ↔ option = some value := by
  cases option with
  | none => simp
  | some x => simp

theorem getChild_of_some {key : String} {tree child : PTree String String}
    (h : tree.getChild [key] = some child) : getChild key tree = .ok child := by
  rw [getChild, h, required_some]

theorem mapError_eq_ok {α : Type} {f : LoadError → LoadError} {x : Except LoadError α} {a : α} :
    x.mapError f = .ok a ↔ x = .ok a := by
  cases x with
  | error error => simp [Except.mapError]
  | ok a => simp [Except.mapError]

theorem ok_bind {α β : Type} (a : α) (f : α → Except LoadError β) : (Except.ok a >>= f) = f a := rfl

theorem bind_eq_ok {α β : Type} {x : Except LoadError α} {f : α → Except LoadError β} {b : β} :
    (x >>= f) = .ok b ↔ ∃ a, x = .ok a ∧ f a = .ok b := by
  cases x with
  | error error => simp [bind, Except.bind]
  | ok a => simp [bind, Except.bind]

theorem mapM_eq_ok {α : Type} {f : α → Except LoadError α} (list : List α) :
    list.mapM f = .ok list ↔ ∀ x ∈ list, f x = .ok x := by
  induction list with
  | nil => simp [pure, Except.pure]
  | cons x list ih =>
    rw [List.mapM_cons, bind_eq_ok, List.forall_mem_cons, ← ih]
    constructor
    · rintro ⟨y, hy, h⟩
      obtain ⟨ys, hys, heq⟩ := bind_eq_ok.mp h
      cases heq
      exact ⟨hy, hys⟩
    · rintro ⟨hx, hlist⟩
      exact ⟨x, hx, by rw [hlist]; rfl⟩

namespace XMLHelpers
variable {R : Type} (number : NumberFormat R)

theorem expectDouble_of_isWord {word : List Char} (h : IsWord word) :
    expectDouble number (String.ofList word) =
      required (.badLexicalCast (String.ofList word)) (number.read (String.ofList word)) := by
  rw [expectDouble, toDouble, String.toList_ofList, words_of_isWord h]
  cases hread : number.read (String.ofList word) with
  | none => simp [hread, Except.map, Except.bind]
  | some x => simp [hread, Except.map, Except.bind]

theorem words_QToString (q : Q R) :
    words (QToString number q).toList = q.coords.map fun x => (number.text x).toList := by
  have hword : ∀ word ∈ q.coords.map fun x => (number.text x).toList, IsWord word := by
    intro word hmem
    obtain ⟨x, -, rfl⟩ := List.mem_map.mp hmem
    exact number.isWord x
  have hsplit := words_spaced hword (show isSpace ' ' = true by decide)
  rw [List.flatMap_map] at hsplit
  rw [QToString, String.toList_ofList, hsplit]

/-- A vector comes back when, and only when, each of its coordinates does. -/
theorem readQ_QToString_iff {tree : PTree String String} {q : Q R}
    (h : tree.data = QToString number q) :
    readQ number tree = .ok q ↔ ∀ x ∈ q.coords, number.read (number.text x) = some x := by
  have hword (x : R) : expectDouble number (String.ofList (number.text x).toList) = .ok x ↔
      number.read (number.text x) = some x := by
    rw [expectDouble_of_isWord number (number.isWord x), String.ofList_toList, required_eq_ok]
  have harray : readArray number tree = .ok q.coords ↔
      ∀ x ∈ q.coords, number.read (number.text x) = some x := by
    rw [readArray, h, words_QToString, List.mapM_map, mapM_eq_ok]
    exact forall₂_congr fun x _ => hword x
  rw [← harray, readQ]
  cases readArray number tree with
  | error error => simp [Except.map]
  | ok list =>
    cases q with
    | mk coords => simp [Except.map, Q.fromStdVector]

end XMLHelpers

namespace XMLHelpers
variable {R : Type} (number : NumberText R)

theorem expectDouble_text (x : R) : expectDouble number (number.text x) = .ok x := by
  have hread := expectDouble_of_isWord number.toNumberFormat (number.isWord x)
  rw [String.ofList_toList] at hread
  rw [hread, number.read_text, required_some]

theorem readDouble_text {tree : PTree String String} {x : R} (h : tree.data = number.text x) :
    readDouble number tree = .ok x := by
  rw [readDouble, h, expectDouble_text]

theorem readQ_QToString {tree : PTree String String} {q : Q R}
    (h : tree.data = QToString number q) : readQ number tree = .ok q :=
  (readQ_QToString_iff number.toNumberFormat h).mpr fun x _ => number.read_text x

end XMLHelpers

section
variable {R : Type} [Field R]

theorem multiply_of_lt {i : ℕ} {q : Q R} (h : i < q.size) (factor : R) :
    multiply i factor q = .ok (q.set i (q.get i * factor)) := by
  have hget : q.coords[i]? = some (q.get i) := by
    rw [Q.get, List.getD_eq_getElem?_getD, List.getElem?_eq_getElem h, Option.getD_some]
  rw [multiply, coordinate, hget]
  rfl

/-- Two coordinates that are scaled and scaled back. -/
theorem multiply_inverse {i j : ℕ} {q : Q R} {factor inverse : R} (hij : i ≠ j) (hi : i < q.size)
    (hj : j < q.size) (h : factor * inverse = 1) :
    ∃ scaled,
      ((multiply i factor q).bind (multiply j factor)) = .ok scaled ∧
        ((multiply i inverse scaled).bind (multiply j inverse)) = .ok q := by
  refine ⟨(q.set i (q.get i * factor)).set j (q.get j * factor), ?_, ?_⟩
  · rw [multiply_of_lt hi, Except.bind, multiply_of_lt (by simpa using hj), Q.get_set_ne _ _ hij]
  · rw [multiply_of_lt (by simpa using hi), Except.bind, multiply_of_lt (by simpa using hj)]
    congr 1
    have hback (x : R) : x * factor * inverse = x := by rw [mul_assoc, h, mul_one]
    rw [Q.get_set_ne _ _ hij, Q.get_set_self _ _ (by simpa using hj), Q.get_set_ne _ _ hij.symm,
      Q.get_set_self _ _ hi, hback, hback]
    cases q with
    | mk coords =>
      simp only [Q.set, Q.get, Q.mk.injEq, Q.size] at *
      apply List.ext_getElem
      · simp
      · intro k hk hk'
        simp only [List.getElem_set, List.getD_eq_getElem?_getD]
        by_cases hkj : j = k
        · subst hkj
          simp [hk']
        · by_cases hki : i = k
          · subst hki
            simp [hkj, hk']
          · simp [hkj, hki]

end
end Gripperz.Util
