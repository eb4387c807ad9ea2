import Gripperz.Library.StdSort
import Mathlib.Data.List.TakeWhile

/-! # Multimaps

The entries are ordered by their keys, and a new one goes behind those with its key. To a user
a multimap is the list of the values of each key.
-/
namespace Gripperz.Library

/-- `std::multimap`. -/
structure Multimap (K V : Type) [LinearOrder K] where
  entries : List (K × V)
  sorted : entries.Pairwise fun a b => a.1 ≤ b.1

namespace Multimap
variable {K V : Type} [LinearOrder K]

def empty : Multimap K V := ⟨[], .nil⟩

/-- The entries before the upper bound of a key, and those from it on. -/
def upTo (key : K) (entries : List (K × V)) : List (K × V) :=
  entries.takeWhile fun entry => entry.1 ≤ key

def after (key : K) (entries : List (K × V)) : List (K × V) :=
  entries.dropWhile fun entry => entry.1 ≤ key

theorem upTo_append_after (key : K) (entries : List (K × V)) :
    upTo key entries ++ after key entries = entries := List.takeWhile_append_dropWhile

theorem le_of_mem_upTo {key : K} {entries : List (K × V)} {entry : K × V}
    (h : entry ∈ upTo key entries) : entry.1 ≤ key := by
  simpa using List.mem_takeWhile_imp h

/-- Behind the first larger key all are larger. -/
theorem lt_of_mem_after {key : K} {entries : List (K × V)} {entry : K × V}
    (hsorted : entries.Pairwise fun a b => a.1 ≤ b.1) (h : entry ∈ after key entries) :
    key < entry.1 := by
  induction entries with
  | nil => cases h
  | cons first rest ih =>
    obtain ⟨hfirst, hrest⟩ := List.pairwise_cons.mp hsorted
    rw [after, List.dropWhile_cons] at h
    split at h
    · exact ih hrest h
    · rename_i hlt
      have hlt' : key < first.1 := by simpa using hlt
      rcases List.mem_cons.mp h with rfl | hmem
      · exact hlt'
      · exact hlt'.trans_le (hfirst entry hmem)

/-- `insert`: at the upper bound of the key. -/
def insert (key : K) (value : V) (m : Multimap K V) : Multimap K V where
  entries := upTo key m.entries ++ (key, value) :: after key m.entries
  sorted := by
    have hsorted := m.sorted
    rw [← upTo_append_after key m.entries, List.pairwise_append] at hsorted
    obtain ⟨hbefore, hbehind, hacross⟩ := hsorted
    rw [List.pairwise_append, List.pairwise_cons]
    refine ⟨hbefore, ⟨fun entry hmem => (lt_of_mem_after m.sorted hmem).le, hbehind⟩, ?_⟩
    intro entry hmem entry' hmem'
    rcases List.mem_cons.mp hmem' with rfl | hmem'
    · exact le_of_mem_upTo hmem
    · exact hacross entry hmem entry' hmem'

/-- `equal_range`: from the lower bound of a key to its upper bound. -/
def equalRange (key : K) (m : Multimap K V) : List (K × V) :=
  upTo key (m.entries.dropWhile fun entry => entry.1 < key)

/-- The values of a key, in the order in which they were inserted. -/
def values (m : Multimap K V) (key : K) : List V :=
  (m.entries.filter fun entry => entry.1 = key).map Prod.snd

/-! ## The values of the keys -/

theorem equalRange_eq_filter (key : K) (m : Multimap K V) :
    m.equalRange key = m.entries.filter fun entry => entry.1 = key := by
  obtain ⟨entries, hsorted⟩ := m
  rw [equalRange]
  induction entries with
  | nil => rfl
  | cons first rest ih =>
    obtain ⟨hfirst, hrest⟩ := List.pairwise_cons.mp hsorted
    rcases lt_trichotomy first.1 key with hlt | heq | hgt
    · rw [List.dropWhile_cons_of_pos (by simpa using hlt),
        List.filter_cons_of_neg (by simpa using hlt.ne)]
      exact ih hrest
    · have hall : rest.dropWhile (fun entry => entry.1 < key) = rest := by
        cases rest with
        | nil => rfl
        | cons second rest =>
          have hle := hfirst second List.mem_cons_self
          exact List.dropWhile_cons_of_neg (by simpa [← heq] using hle)
      have htail := ih hrest
      rw [hall] at htail
      rw [List.dropWhile_cons_of_neg (by simp [heq]), upTo,
        List.takeWhile_cons_of_pos (by simp [heq]), List.filter_cons_of_pos (by simpa using heq)]
      exact congrArg _ htail
    · have hnone : rest.filter (fun entry => entry.1 = key) = [] := by
        rw [List.filter_eq_nil_iff]
        intro entry hmem
        simpa using (hgt.trans_le (hfirst entry hmem)).ne'
      rw [List.dropWhile_cons_of_neg (by simpa using hgt.le), upTo,
        List.takeWhile_cons_of_neg (by simpa using hgt),
        List.filter_cons_of_neg (by simpa using hgt.ne'), hnone]

@[simp] theorem values_empty (key : K) : (empty : Multimap K V).values key = [] := rfl

theorem values_insert (m : Multimap K V) (key key' : K) (value : V) :
    (m.insert key value).values key' =
      m.values key' ++ if key = key' then [value] else [] := by
  have hsplit :=
    congrArg (List.filter fun entry => entry.1 = key') (upTo_append_after key m.entries)
  rw [List.filter_append] at hsplit
  rw [values, values, ← hsplit, insert, List.filter_append, List.filter_cons]
  split_ifs with hkey
  · have hnone : (after key m.entries).filter (fun entry => entry.1 = key') = [] := by
      rw [List.filter_eq_nil_iff]
      intro entry hmem
      have hkey' : key = key' := by simpa using hkey
      simpa [← hkey'] using (lt_of_mem_after m.sorted hmem).ne'
    simp [hnone]
  all_goals simp_all

omit [LinearOrder K] in
theorem map_map_snd_filter [DecidableEq K] (entries : List (K × V)) (key : K) :
    ((entries.filter fun entry => entry.1 = key).map Prod.snd).map (fun value => (key, value)) =
      entries.filter fun entry => entry.1 = key := by
  rw [List.map_map]
  refine (List.map_congr_left fun entry hmem => ?_).trans (List.map_id _)
  have hkey : entry.1 = key := by simpa using (List.mem_filter.mp hmem).2
  exact Prod.ext hkey.symm rfl

/-- The entries of a key are made of its values. -/
theorem filter_eq_map_values (m : Multimap K V) (key : K) :
    m.entries.filter (fun entry => entry.1 = key) = (m.values key).map fun value => (key, value) :=
  (map_map_snd_filter m.entries key).symm

/-- Two sorted lists with the same entries of each key are the same. -/
theorem eq_of_filter_eq {entries entries' : List (K × V)}
    (hsorted : entries.Pairwise fun a b => a.1 ≤ b.1)
    (hsorted' : entries'.Pairwise fun a b => a.1 ≤ b.1)
    (h : ∀ key, entries.filter (fun entry => entry.1 = key) =
      entries'.filter fun entry => entry.1 = key) : entries = entries' := by
  induction entries generalizing entries' with
  | nil =>
    symm
    rw [List.eq_nil_iff_forall_not_mem]
    intro entry hmem
    have hfound : entry ∈ entries'.filter fun other => other.1 = entry.1 := by simpa using hmem
    rw [← h entry.1] at hfound
    cases hfound
  | cons first rest ih =>
    cases entries' with
    | nil =>
      have hfound := h first.1
      simp at hfound
    | cons first' rest' =>
      obtain ⟨hfirst, hrest⟩ := List.pairwise_cons.mp hsorted
      obtain ⟨hfirst', hrest'⟩ := List.pairwise_cons.mp hsorted'
      -- Each of the two is among the entries of its key in the other list.
      have hmem : first ∈ first' :: rest' := by
        have hfound : first ∈ (first :: rest).filter fun entry => entry.1 = first.1 := by simp
        rw [h first.1] at hfound
        exact (List.mem_filter.mp hfound).1
      have hmem' : first' ∈ first :: rest := by
        have hfound : first' ∈ (first' :: rest').filter fun entry => entry.1 = first'.1 := by simp
        rw [← h first'.1] at hfound
        exact (List.mem_filter.mp hfound).1
      have hkey : first.1 = first'.1 := by
        apply le_antisymm
        · rcases List.mem_cons.mp hmem' with heq | hmem'
          · rw [heq]
          · exact hfirst first' hmem'
        · rcases List.mem_cons.mp hmem with heq | hmem
          · rw [heq]
          · exact hfirst' first hmem
      have hheads := h first.1
      rw [List.filter_cons_of_pos (by simp), List.filter_cons_of_pos (by simp [hkey]),
        List.cons.injEq] at hheads
      obtain ⟨rfl, -⟩ := hheads
      congr 1
      refine ih hrest hrest' fun key => ?_
      have htail := h key
      rw [List.filter_cons, List.filter_cons] at htail
      split at htail
      · exact (List.cons.inj htail).2
      · exact htail

/-! ## Insertions one after the other -/

def insertAll (list : List (K × V)) (m : Multimap K V) : Multimap K V :=
  list.foldl (fun m entry => m.insert entry.1 entry.2) m

theorem values_insertAll (list : List (K × V)) (m : Multimap K V) (key : K) :
    (insertAll list m).values key =
      m.values key ++ (list.filter fun entry => entry.1 = key).map Prod.snd := by
  induction list generalizing m with
  | nil => simp [insertAll]
  | cons entry list ih =>
    refine (ih (m.insert entry.1 entry.2)).trans ?_
    rw [values_insert, List.append_assoc, List.filter_cons]
    split_ifs with hkey hkey'
    · rfl
    · simp_all
    · simp_all
    · rfl

/-- What was inserted, sorted by the keys, with equal keys in the order of their insertion. -/
theorem entries_insertAll (list : List (K × V)) :
    (insertAll list empty).entries = (StdSort.stable Prod.fst).sort list := by
  have hsorted : ((StdSort.stable Prod.fst).sort list).Pairwise fun a b => a.1 ≤ b.1 :=
    ((StdSort.stable Prod.fst).sorted list).imp fun hle => not_lt.mp hle
  refine eq_of_filter_eq (insertAll list empty).sorted hsorted fun key => ?_
  rw [filter_eq_map_values, values_insertAll, values_empty, List.nil_append, map_map_snd_filter]
  exact (StdSort.filter_stable Prod.fst list key).symm

end Multimap
end Gripperz.Library
