import Gripperz.Library.Multimap
import Mathlib.Data.String.Basic

/-! # Shard containers

Parts of a program are found by the names of their classes. Where a class has several shards,
the qualifier decides; a single shard is taken whatever its qualifier. So a shard that was
found may be lost when others are added.
-/
namespace Gripperz.Shards
open Library

variable {A : Type}

structure Shard (A : Type) where
  cls : String
  qualifier : String
  object : A

inductive ShardException where
  /-- `unresolved_shard_exception`. -/
  | unresolved (cls : String)
  /-- `ambiguous_shard_exception`. -/
  | ambiguous (cls : String)
  deriving DecidableEq, Repr

structure ShardContainer (A : Type) where
  shards : Multimap String (Shard A)

namespace ShardContainer

def empty : ShardContainer A := ⟨.empty⟩

def addShard (shard : Shard A) (container : ShardContainer A) : ShardContainer A :=
  ⟨container.shards.insert shard.cls shard⟩

/-- The qualifier that is looked for. -/
def hasId (qual : String) (entry : String × Shard A) : Bool := entry.2.qualifier = qual

def getShard (container : ShardContainer A) (cls qual : String) :
    Except ShardException (Shard A) :=
  match container.shards.equalRange cls with
  | [] => .error (.unresolved cls)
  | [entry] => .ok entry.2
  | range =>
    if qual ≠ "" ∧ range.countP (hasId qual) = 1 then
      match range.find? (hasId qual) with
      | some entry => .ok entry.2
      | none => .error (.unresolved cls)
    else .error (.ambiguous cls)

def getShards (container : ShardContainer A) : List (String × Shard A) := container.shards.entries

/-- Shards that are added one after the other. -/
def addShards (list : List (Shard A)) (container : ShardContainer A) : ShardContainer A :=
  list.foldl (fun container shard => container.addShard shard) container

/-! ## The shards of a class -/

def ofClass (cls : String) (list : List (Shard A)) : List (Shard A) :=
  list.filter fun shard => shard.cls = cls

def qualified (qual : String) (list : List (Shard A)) : List (Shard A) :=
  list.filter fun shard => shard.qualifier = qual

/-- What a request comes to, among the shards of the class. -/
def resolve (cls qual : String) : List (Shard A) → Except ShardException (Shard A)
  | [] => .error (.unresolved cls)
  | [shard] => .ok shard
  | list =>
    match qualified qual list with
    | [shard] => if qual = "" then .error (.ambiguous cls) else .ok shard
    | _ => .error (.ambiguous cls)

theorem resolve_cons_cons (cls qual : String) (first second : Shard A) (rest : List (Shard A)) :
    resolve cls qual (first :: second :: rest) =
      match qualified qual (first :: second :: rest) with
      | [shard] => if qual = "" then .error (.ambiguous cls) else .ok shard
      | _ => .error (.ambiguous cls) := rfl

theorem shards_addShards (list : List (Shard A)) (container : ShardContainer A) :
    (addShards list container).shards =
      Multimap.insertAll (list.map fun shard => (shard.cls, shard)) container.shards := by
  induction list generalizing container with
  | nil => rfl
  | cons shard list ih => exact ih (container.addShard shard)

theorem values_addShards (list : List (Shard A)) (container : ShardContainer A) (cls : String) :
    (addShards list container).shards.values cls =
      container.shards.values cls ++ ofClass cls list := by
  rw [shards_addShards, Multimap.values_insertAll, List.filter_map, List.map_map]
  congr 1
  exact List.map_id _

/-- The container lists its shards by their classes, and those of a class as they were added. -/
theorem getShards_addShards (list : List (Shard A)) :
    (addShards list empty).getShards =
      (StdSort.stable Prod.fst).sort (list.map fun shard => (shard.cls, shard)) := by
  rw [getShards, shards_addShards]
  exact Multimap.entries_insertAll _

theorem getShard_eq_resolve (container : ShardContainer A) (cls qual : String) :
    container.getShard cls qual = resolve cls qual (container.shards.values cls) := by
  have hcount (list : List (Shard A)) : (list.map fun shard => (cls, shard)).countP (hasId qual) =
      (qualified qual list).length := by
    rw [List.countP_map, List.countP_eq_length_filter]
    rfl
  have hfind (list : List (Shard A)) : (list.map fun shard => (cls, shard)).find? (hasId qual) =
      (qualified qual list).head?.map fun shard => (cls, shard) := by
    rw [List.find?_map, qualified, List.head?_filter]
    rfl
  rw [getShard, Multimap.equalRange_eq_filter, Multimap.filter_eq_map_values]
  match container.shards.values cls with
  | [] => rfl
  | [shard] => rfl
  | first :: second :: rest =>
    change (if _ then _ else _) = _
    rw [← List.map_cons, hcount, hfind, resolve_cons_cons]
    match qualified qual (first :: second :: rest) with
    | [] => simp
    | [shard] => by_cases hqual : qual = "" <;> simp [hqual]
    | _ :: _ :: _ => simp

/-! ## Requests after additions -/

section
variable {cls qual : String} {shard : Shard A} {list : List (Shard A)}

theorem resolve_eq_ok_iff : resolve cls qual list = .ok shard ↔
    list = [shard] ∨ 2 ≤ list.length ∧ qual ≠ "" ∧ qualified qual list = [shard] := by
  match list with
  | [] => simp [resolve]
  | [other] => simp [resolve]
  | first :: second :: rest =>
    rw [resolve_cons_cons]
    match qualified qual (first :: second :: rest) with
    | [] => simp
    | [other] => by_cases hqual : qual = "" <;> simp [hqual]
    | _ :: _ :: _ => simp

theorem resolve_eq_unresolved_iff :
    resolve cls qual list = .error (.unresolved cls) ↔ list = [] := by
  match list with
  | [] => simp [resolve]
  | [other] => simp [resolve]
  | first :: second :: rest =>
    rw [resolve_cons_cons]
    match qualified qual (first :: second :: rest) with
    | [] => simp
    | [other] => by_cases hqual : qual = "" <;> simp [hqual]
    | _ :: _ :: _ => simp

/-- Two shards of one class and qualifier cannot be told from each other. -/
theorem resolve_of_two (h : 2 ≤ (qualified qual list).length) :
    resolve cls qual list = .error (.ambiguous cls) := by
  have hlength : 2 ≤ list.length := h.trans (List.length_filter_le _ _)
  match list, hlength with
  | first :: second :: rest, _ =>
    rw [resolve_cons_cons]
    match hqualified : qualified qual (first :: second :: rest) with
    | [] => rfl
    | [other] => simp [hqualified] at h
    | _ :: _ :: _ => rfl

theorem resolve_cases (cls qual : String) (list : List (Shard A)) :
    (∃ shard, resolve cls qual list = .ok shard) ∨
      resolve cls qual list = .error (.unresolved cls) ∨
      resolve cls qual list = .error (.ambiguous cls) := by
  match list with
  | [] => exact .inr (.inl rfl)
  | [shard] => exact .inl ⟨shard, rfl⟩
  | first :: second :: rest =>
    rw [resolve_cons_cons]
    match qualified qual (first :: second :: rest) with
    | [] => exact .inr (.inr rfl)
    | [shard] => by_cases hqual : qual = "" <;> simp [hqual]
    | _ :: _ :: _ => exact .inr (.inr rfl)

theorem resolve_ok_of_perm {list' : List (Shard A)} (hperm : list.Perm list')
    (h : resolve cls qual list = .ok shard) : resolve cls qual list' = .ok shard := by
  rw [resolve_eq_ok_iff] at h ⊢
  refine h.imp ?_ ?_
  · rintro rfl
    exact hperm.symm.eq_singleton
  · rintro ⟨htwo, hqual, hqualified⟩
    have hfilter : (qualified qual list').Perm [shard] :=
      hqualified ▸ hperm.symm.filter _
    exact ⟨hperm.length_eq ▸ htwo, hqual, hfilter.eq_singleton⟩

theorem resolve_perm {list' : List (Shard A)} (hperm : list.Perm list') :
    resolve cls qual list = resolve cls qual list' := by
  rcases resolve_cases cls qual list' with ⟨shard, h⟩ | h | h
  · rw [h]
    exact resolve_ok_of_perm hperm.symm h
  · rw [h]
    rw [resolve_eq_unresolved_iff] at h ⊢
    exact (h ▸ hperm).eq_nil
  · rw [h]
    rcases resolve_cases cls qual list with ⟨shard, h'⟩ | h' | h'
    · rw [resolve_ok_of_perm hperm h'] at h
      cases h
    · rw [resolve_eq_unresolved_iff] at h'
      rw [resolve_eq_unresolved_iff.mpr (h' ▸ hperm.symm).eq_nil] at h
      cases h
    · exact h'

theorem qualified_append (qual : String) (list list' : List (Shard A)) :
    qualified qual (list ++ list') = qualified qual list ++ qualified qual list' :=
  List.filter_append list list'

theorem mem_qualified_of_ok (h : resolve cls qual list = .ok shard)
    (hqualifier : shard.qualifier = qual) : shard ∈ qualified qual list := by
  rcases resolve_eq_ok_iff.mp h with rfl | ⟨-, -, hqualified⟩
  · simp [qualified, hqualifier]
  · simp [hqualified]

/-- A request that found a shard, when other shards of the class come after. -/
theorem resolve_append_of_ok (h : resolve cls qual list = .ok shard) (more : List (Shard A)) :
    resolve cls qual (list ++ more) = .ok shard ↔
      more = [] ∨ qual ≠ "" ∧ shard.qualifier = qual ∧ qualified qual more = [] := by
  have hqualifier {other : Shard A} {list : List (Shard A)} (heq : qualified qual list = [other]) :
      other.qualifier = qual := by
    have hmem : other ∈ qualified qual list := heq ▸ List.mem_singleton_self other
    simpa using (List.mem_filter.mp hmem).2
  rw [resolve_eq_ok_iff, qualified_append]
  rcases resolve_eq_ok_iff.mp h with rfl | ⟨htwo, hqual, hqualified⟩
  · by_cases hown : shard.qualifier = qual
    · have hfirst : qualified qual [shard] = [shard] := by simp [qualified, hown]
      cases more with
      | nil => simp
      | cons other more => simp [hfirst, hown]
    · have hfirst : qualified qual [shard] = [] := by simp [qualified, hown]
      have hnot : qualified qual more ≠ [shard] := fun heq => hown (hqualifier heq)
      simp [hfirst, hown, hnot]
  · have hnot : list ++ more ≠ [shard] := by
      intro heq
      have hlength := congrArg List.length heq
      simp only [List.length_append, List.length_singleton] at hlength
      omega
    have hlength : 2 ≤ (list ++ more).length := by
      rw [List.length_append]
      omega
    simp only [hqualified, hnot, hlength, hqual, hqualifier hqualified, List.singleton_append,
      List.cons.injEq, true_and, false_or, not_false_eq_true, ne_eq]
    constructor
    · exact .inr
    · rintro (rfl | hmore)
      · rfl
      · exact hmore

end

/-- A class with one shard is resolved, and one with several if the qualifier is that of only
one of them. The order in which the shards were added does not matter. -/
theorem getShard_addShards (list : List (Shard A)) (cls qual : String) :
    (∀ shard, (addShards list empty).getShard cls qual = .ok shard ↔
      ofClass cls list = [shard] ∨
      2 ≤ (ofClass cls list).length ∧ qual ≠ "" ∧ qualified qual (ofClass cls list) = [shard]) ∧
    ((addShards list empty).getShard cls qual = .error (.unresolved cls) ↔
      ofClass cls list = []) ∧
    ∀ list', list.Perm list' →
      (addShards list' empty).getShard cls qual = (addShards list empty).getShard cls qual := by
  have hget (list : List (Shard A)) : (addShards list empty).getShard cls qual =
      resolve cls qual (ofClass cls list) := by
    rw [getShard_eq_resolve, values_addShards]
    rfl
  rw [hget]
  refine ⟨fun shard => resolve_eq_ok_iff, resolve_eq_unresolved_iff, ?_⟩
  intro list' hperm
  rw [hget]
  exact resolve_perm (hperm.symm.filter _)

/-- A shard that was found is found after other additions if and only if none of them is of the
class, or the shard was found by its own qualifier and none of them has it. With a second
shard of its qualifier the request is ambiguous, whatever is added afterwards. -/
theorem getShard_addShards_of_ok {container : ShardContainer A} {cls qual : String}
    {shard : Shard A} (hfound : container.getShard cls qual = .ok shard) (more : List (Shard A)) :
    ((addShards more container).getShard cls qual = .ok shard ↔
      (∀ other ∈ more, other.cls ≠ cls) ∨
      qual ≠ "" ∧ shard.qualifier = qual ∧
        ∀ other ∈ more, other.cls = cls → other.qualifier ≠ qual) ∧
    (shard.qualifier = qual → (∃ other ∈ more, other.cls = cls ∧ other.qualifier = qual) →
      (addShards more container).getShard cls qual = .error (.ambiguous cls)) := by
  rw [getShard_eq_resolve] at hfound ⊢
  rw [values_addShards]
  generalize container.shards.values cls = values at hfound ⊢
  have hnone : ofClass cls more = [] ↔ ∀ other ∈ more, other.cls ≠ cls := by
    simp [ofClass]
  have hother : qualified qual (ofClass cls more) = [] ↔
      ∀ other ∈ more, other.cls = cls → other.qualifier ≠ qual := by
    rw [qualified, List.filter_eq_nil_iff]
    simp [ofClass]
  rw [← hnone, ← hother]
  constructor
  · exact resolve_append_of_ok hfound (ofClass cls more)
  · rintro hqualifier ⟨other, hmem, hcls, hqual⟩
    apply resolve_of_two
    rw [qualified_append, List.length_append]
    have hfirst := List.length_pos_of_mem (mem_qualified_of_ok hfound hqualifier)
    have hmem' : other ∈ qualified qual (ofClass cls more) := by
      simp [qualified, ofClass, hmem, hcls, hqual]
    have hsecond := List.length_pos_of_mem hmem'
    omega

theorem getShard_addShards_of_ok_name :
    (addShards [⟨"int", "age", "9"⟩]
        (addShards [⟨"string", "name", "Adam"⟩, ⟨"string", "species", "cat"⟩] empty)).getShard
      "string" "name" = .ok ⟨"string", "name", "Adam"⟩ := by
  have hfound :
      (addShards [⟨"string", "name", "Adam"⟩, ⟨"string", "species", "cat"⟩] empty).getShard
        "string" "name" = .ok ⟨"string", "name", "Adam"⟩ := by
    rw [getShard_eq_resolve, values_addShards]
    rfl
  exact ((getShard_addShards_of_ok hfound [⟨"int", "age", "9"⟩]).1).mpr (.inl (by decide))

end ShardContainer
end Gripperz.Shards
