import Mathlib.Data.List.Basic

/-! # Words of a text

Texts are split at blanks, as an input stream splits them.
-/
namespace Gripperz.Library

/-- `std::isspace`: a space, a tab or a line break of any kind. -/
def isSpace (c : Char) : Bool := c.toNat = 32 || (9 ≤ c.toNat && c.toNat ≤ 13)

/-- A word has characters, and no blank among them. -/
structure IsWord (word : List Char) : Prop where
  ne : word ≠ []
  solid : ∀ c ∈ word, isSpace c = false

/-- The words of a text, of which the first has begun. -/
def wordsFrom : List Char → List Char → List (List Char)
  | word, [] => if word = [] then [] else [word]
  | word, c :: rest =>
    if isSpace c then
      if word = [] then wordsFrom [] rest else word :: wordsFrom [] rest
    else wordsFrom (word ++ [c]) rest

def words (text : List Char) : List (List Char) := wordsFrom [] text

/-- `trim`: without the blanks at both ends. -/
def trim (text : String) : String :=
  String.ofList ((text.toList.dropWhile isSpace).reverse.dropWhile isSpace).reverse

theorem wordsFrom_append {word : List Char} (h : ∀ c ∈ word, isSpace c = false)
    (begun rest : List Char) : wordsFrom begun (word ++ rest) = wordsFrom (begun ++ word) rest := by
  induction word generalizing begun with
  | nil => simp
  | cons c word ih =>
    have hc : isSpace c = false := h c List.mem_cons_self
    rw [List.cons_append, wordsFrom, hc]
    simp only [Bool.false_eq_true, if_false]
    rw [ih fun c' hc' => h c' (List.mem_cons_of_mem _ hc')]
    simp

theorem words_of_isWord {word : List Char} (h : IsWord word) : words word = [word] := by
  have hsplit := wordsFrom_append h.solid [] []
  rw [List.append_nil, List.nil_append] at hsplit
  rw [words, hsplit, wordsFrom, if_neg h.ne]

theorem words_append_blank {word : List Char} (h : IsWord word) {blank : Char}
    (hblank : isSpace blank = true) (rest : List Char) :
    words (word ++ blank :: rest) = word :: words rest := by
  rw [words, wordsFrom_append h.solid, List.nil_append, wordsFrom, if_pos hblank, if_neg h.ne]
  rfl

/-- Words between blanks are the words of the text. -/
theorem words_spaced {list : List (List Char)} (h : ∀ word ∈ list, IsWord word) {blank : Char}
    (hblank : isSpace blank = true) :
    words (blank :: list.flatMap fun word => word ++ [blank]) = list := by
  have hrest : words (list.flatMap fun word => word ++ [blank]) = list := by
    induction list with
    | nil => rfl
    | cons word list ih =>
      rw [List.flatMap_cons, List.append_assoc, List.singleton_append,
        words_append_blank (h word List.mem_cons_self) hblank,
        ih fun word' hword' => h word' (List.mem_cons_of_mem _ hword')]
  rw [words, wordsFrom, if_pos hblank, if_pos rfl]
  exact hrest

/-- Words with a blank between any two are the words of the text. -/
theorem words_intercalate {list : List (List Char)} (h : ∀ word ∈ list, IsWord word) {blank : Char}
    (hblank : isSpace blank = true) : words ([blank].intercalate list) = list := by
  induction list with
  | nil => rfl
  | cons word list ih =>
    have hrest := ih fun word' hword' => h word' (List.mem_cons_of_mem _ hword')
    cases list with
    | nil => rw [List.intercalate_singleton, words_of_isWord (h word List.mem_cons_self)]
    | cons word' list =>
      rw [List.intercalate_cons_cons, List.append_assoc, List.singleton_append,
        words_append_blank (h word List.mem_cons_self) hblank, hrest]

end Gripperz.Library
