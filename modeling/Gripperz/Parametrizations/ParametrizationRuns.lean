import Mathlib.Algebra.Ring.Int.Defs
import Gripperz.Parametrizations.Containers

/-! # Runs of calls on shared parametrizations

Parametrizations are made and copied, and changed through pointers, in any order; a call may be
given the object it is made on. All of them stay in step.
-/
namespace Gripperz.Parametrizations.Containers
open Library

variable {R : Type}

inductive Call (R : Type) where
  | construct
  | constructList (list : List (String × R))
  | constructNames (nameList : List String)
  | clone (this : Ptr)
  | addParameter (this : Ptr) (p : String × R)
  | setParameter (this : Ptr) (p : String × R)
  | merge (this parametrization : Ptr)
  | patch (this parametrization : Ptr)

def Call.run [Zero R] : Call R → Action (Heap (Containers R)) Unit
  | construct => Action.make empty
  | constructList list => Action.make (ofList list)
  | constructNames nameList => Action.make (ofNames nameList)
  | clone this => Containers.clone this
  | addParameter this p => Action.callOn this (Containers.addParameter p)
  | setParameter this p => Action.callOn this (Containers.setParameter p)
  | merge this parametrization => Containers.merge this parametrization
  | patch this parametrization => Containers.patch this parametrization

/-- The parametrizations after a run of calls, from none. An exception does not end the run. -/
inductive Reached [Zero R] : Heap (Containers R) → Prop where
  | start : Reached ⟨[]⟩
  | call {heap heap' : Heap (Containers R)} (before : Reached heap) (call : Call R)
      (hafter : call.run.after heap = some heap') : Reached heap'

/-! ## Calls on shared parametrizations -/

section
variable {heap : Heap (Containers R)} {this other : Ptr} {p q : Containers R}

/-- The list is read, and its parameters are taken over in rounds. -/
theorem rounds_eq {round : String × R → Action (Containers R) Unit}
    {take : Containers R → String × R → Containers R} {list : List (String × R)}
    (hround : ∀ x c, round x c = .ok () (take c x)) (hthis : heap.get this = some p)
    (hother : heap.get other = some q) (hlist : getParameterList q = .ok list q) :
    (do
      let list ← Action.callOn other getParameterList
      Action.callOn this (list.forM round) : Action (Heap (Containers R)) Unit) heap =
      .ok () (heap.set this (list.foldl take p)) := by
  have hread := Action.callOn_eq_ok hother hlist
  rw [Heap.set_get hother] at hread
  change EStateM.bind _ _ heap = _
  rw [EStateM.bind, hread]
  exact Action.callOn_eq_ok hthis (Action.forM_eq_ok hround list p)

theorem merge_eq (hthis : heap.get this = some p) (hother : heap.get other = some q)
    (hp : p.InStep) (hq : q.InStep) :
    merge this other heap = .ok () (heap.set this (p.mergedWith q)) := by
  obtain ⟨list, hlist, hnames, hvalues⟩ := getParameterList_eq hq
  have hround (x : String × R) (c : Containers R) : (do
      if !(← get).hasParameter x.1 then addParameter x else pure () :
        Action (Containers R) Unit) c = .ok () (mergeOne c x) := by
    change (if !c.hasParameter x.1 then addParameter x else pure () :
      Action (Containers R) Unit) c = _
    rw [mergeOne]
    split <;> rfl
  rw [merge, rounds_eq hround hthis hother hlist, foldl_mergeOne hp hq hnames hvalues]

theorem patch_eq (hthis : heap.get this = some p) (hother : heap.get other = some q)
    (hp : p.InStep) (hq : q.InStep) :
    patch this other heap = .ok () (heap.set this (p.patchedWith q)) := by
  obtain ⟨list, hlist, hnames, hvalues⟩ := getParameterList_eq hq
  have hround (x : String × R) (c : Containers R) : (do
      if !(← get).hasParameter x.1 then addParameter x else setParameter x :
        Action (Containers R) Unit) c = .ok () (patchOne c x) := by
    change (if !c.hasParameter x.1 then addParameter x else setParameter x :
      Action (Containers R) Unit) c = _
    rw [patchOne]
    by_cases hold : c.hasParameter x.1 = true
    · have hset : setParameter x c = .ok () (c.assign x) := by
        change (if c.hasParameter x.1 then modify fun c => c.assign x else Action.raise "map::at" :
          Action (Containers R) Unit) c = _
        rw [if_pos hold]
        rfl
      simpa [hold] using hset
    · simp only [hold]
      rfl
  rw [patch, rounds_eq hround hthis hother hlist, foldl_patchOne hp hq hnames hvalues]

theorem inStep_mergedWith (hp : p.InStep) (hq : q.InStep) : (p.mergedWith q).InStep := by
  obtain ⟨list, -, hnames, hvalues⟩ := getParameterList_eq hq
  rw [← foldl_mergeOne hp hq hnames hvalues]
  exact (takesOver_mergeOne.foldl_spec hp (hnames.symm ▸ hq.nodup)).1

theorem inStep_patchedWith (hp : p.InStep) (hq : q.InStep) : (p.patchedWith q).InStep := by
  obtain ⟨list, -, hnames, hvalues⟩ := getParameterList_eq hq
  rw [← foldl_patchOne hp hq hnames hvalues]
  exact (takesOver_patchOne.foldl_spec hp (hnames.symm ▸ hq.nodup)).1

/-- What is behind the pointers after an update: the argument may be the receiver. -/
theorem get_set_cases (hthis : heap.get this = some p) (hother : heap.get other = some q)
    (joined : Containers R) : (heap.set this joined).get this = some joined ∧
      ((heap.set this joined).get other = some q ∨
        (heap.set this joined).get other = some joined) := by
  refine ⟨Heap.get_set_self hthis joined, ?_⟩
  by_cases hsame : other = this
  · exact Or.inr (hsame ▸ Heap.get_set_self hthis joined)
  · exact Or.inl ((Heap.get_set_of_ne hsame joined).trans hother)

theorem merge_again (hthis : heap.get this = some p) (hother : heap.get other = some q)
    (hp : p.InStep) (hq : q.InStep) :
    merge this other (heap.set this (p.mergedWith q)) =
      .ok () (heap.set this (p.mergedWith q)) := by
  have hjoined := inStep_mergedWith hp hq
  obtain ⟨hthis', hother' | hother'⟩ := get_set_cases hthis hother (p.mergedWith q)
  · rw [merge_eq hthis' hother' hjoined hq, mergedWith_again, Heap.set_set]
  · rw [merge_eq hthis' hother' hjoined hjoined, mergedWith_self, Heap.set_set]

theorem patch_again (hthis : heap.get this = some p) (hother : heap.get other = some q)
    (hp : p.InStep) (hq : q.InStep) :
    patch this other (heap.set this (p.patchedWith q)) =
      .ok () (heap.set this (p.patchedWith q)) := by
  have hjoined := inStep_patchedWith hp hq
  obtain ⟨hthis', hother' | hother'⟩ := get_set_cases hthis hother (p.patchedWith q)
  · rw [patch_eq hthis' hother' hjoined hq, patchedWith_again, Heap.set_set]
  · rw [patch_eq hthis' hother' hjoined hjoined, patchedWith_self, Heap.set_set]

end

/-! ## What all calls keep -/

section
variable {heap : Heap (Containers R)}

/-- A method that leaves containers in step, whether it returns or raises an exception. -/
def Keeps {α : Type} (method : Action (Containers R) α) : Prop :=
  ∀ c : Containers R, c.InStep → method.Ends (fun _ => InStep) (fun _ => InStep) c

theorem keeps_addParameter (p : String × R) : Keeps (addParameter p) := by
  intro c hc
  exact (Action.ends_modify _).mpr (hc.add p)

theorem keeps_setParameter (p : String × R) : Keeps (setParameter p) := by
  intro c hc
  rw [setParameter, Action.ends_bind, Action.ends_get]
  by_cases hold : c.hasParameter p.1 = true
  · rw [if_pos hold, Action.ends_modify]
    exact hc.assign hold
  · rw [if_neg hold, Action.ends_raise]
    exact hc

theorem keeps_getParameterList : Keeps (getParameterList (R := R)) := by
  intro c hc
  obtain ⟨list, hlist, -⟩ := getParameterList_eq hc
  exact (Action.ends_of_ok hlist).mpr hc

theorem keeps_ite {α : Type} {t : Containers R → Bool} {yes no : Action (Containers R) α}
    (hyes : Keeps yes) (hno : Keeps no) : Keeps (do if t (← get) then yes else no) := by
  intro c hc
  rw [Action.ends_bind, Action.ends_get]
  by_cases htest : t c = true
  · rw [if_pos htest]
    exact hyes c hc
  · rw [if_neg htest]
    exact hno c hc

/-- One call leaves all parametrizations in step. -/
theorem Call.keeps [Zero R] (call : Call R) (h : ∀ c ∈ heap.objects, c.InStep) :
    call.run.Ends (fun _ heap' => ∀ c ∈ heap'.objects, c.InStep)
      (fun _ heap' => ∀ c ∈ heap'.objects, c.InStep) heap := by
  have hrounds (this other : Ptr) {round : String × R → Action (Containers R) Unit}
      (hround : ∀ p, Keeps (round p)) : (do
        let list ← Action.callOn other getParameterList
        Action.callOn this (list.forM round) : Action (Heap (Containers R)) Unit).Ends
          (fun _ heap' => ∀ c ∈ heap'.objects, c.InStep)
          (fun _ heap' => ∀ c ∈ heap'.objects, c.InStep) heap := by
    rw [Action.ends_bind]
    refine (Action.ends_callOn keeps_getParameterList h).imp ?_ fun _ _ h' => h'
    intro list heap' h'
    exact Action.ends_callOn (fun c hc => Action.ends_forM hround list hc) h'
  cases call with
  | construct => exact Action.ends_make inStep_empty h
  | constructList list => exact Action.ends_make (inStep_empty.foldl_add list) h
  | constructNames nameList =>
    rw [run, ofNames, ← List.foldl_map (f := fun name => (name, (0 : R))) (g := add)]
    exact Action.ends_make (inStep_empty.foldl_add _) h
  | clone this =>
    rw [run, Containers.clone, Action.ends_bind, Action.ends_get]
    cases hget : heap.get this with
    | none => exact h
    | some c => exact Action.ends_make (h c (List.mem_of_getElem? hget)) h
  | addParameter this p => exact Action.ends_callOn (keeps_addParameter p) h
  | setParameter this p => exact Action.ends_callOn (keeps_setParameter p) h
  | merge this other =>
    exact hrounds this other fun p => keeps_ite (t := fun c => !c.hasParameter p.1)
      (keeps_addParameter p) fun c hc => (Action.ends_pure ()).mpr hc
  | patch this other =>
    exact hrounds this other fun p => keeps_ite (t := fun c => !c.hasParameter p.1)
      (keeps_addParameter p) (keeps_setParameter p)

/-- In every reached heap, all parametrizations are in step. -/
theorem Reached.inStep [Zero R] (h : Reached heap) : ∀ c ∈ heap.objects, c.InStep := by
  induction h with
  | start => simp
  | call before call hafter ih =>
    exact (Action.forall_after_iff call.run).mpr
      ((call.keeps ih).imp (fun _ _ h' => h') fun _ _ h' _ => h') _ hafter

end

/-- Through any run of calls, the list names the keys of the map, each once, and is read without an
exception. The argument of a merge gives way to the receiver, and that of a patch has precedence;
doing either again changes nothing. -/
theorem reached_in_step [Zero R] {heap : Heap (Containers R)} (reached : Reached heap) :
    (∀ c ∈ heap.objects, c.parameterNameList.Nodup ∧
      (∀ name, name ∈ c.parameterNameList ↔ (c.parameters name).isSome) ∧
      ∃ list, getParameterList c = .ok list c ∧ list.map Prod.fst = c.parameterNameList ∧
        ∀ p ∈ list, c.parameters p.1 = some p.2) ∧
    ∀ this other p q, heap.get this = some p → heap.get other = some q →
      (∃ joined, joined.parameterNameList = p.parameterNameList ++
          q.parameterNameList.filter (fun name => name ∉ p.parameterNameList) ∧
        (∀ name, joined.parameters name = (p.parameters name).or (q.parameters name)) ∧
        merge this other heap = .ok () (heap.set this joined) ∧
        merge this other (heap.set this joined) = .ok () (heap.set this joined)) ∧
      ∃ joined, joined.parameterNameList = p.parameterNameList ++
          q.parameterNameList.filter (fun name => name ∉ p.parameterNameList) ∧
        (∀ name, joined.parameters name = (q.parameters name).or (p.parameters name)) ∧
        patch this other heap = .ok () (heap.set this joined) ∧
        patch this other (heap.set this joined) = .ok () (heap.set this joined) := by
  have hall := reached.inStep
  constructor
  · intro c hc
    exact ⟨(hall c hc).nodup, (hall c hc).keys, getParameterList_eq (hall c hc)⟩
  · intro this other p q hthis hother
    have hp := hall p (List.mem_of_getElem? hthis)
    have hq := hall q (List.mem_of_getElem? hother)
    exact ⟨⟨p.mergedWith q, rfl, fun _ => rfl, merge_eq hthis hother hp hq,
        merge_again hthis hother hp hq⟩,
      p.patchedWith q, rfl, fun _ => rfl, patch_eq hthis hother hp hq,
        patch_again hthis hother hp hq⟩

/-- Two parametrizations with a name in common. -/
def pair : Heap (Containers ℤ) := ⟨[ofList [("a", 1), ("b", 2)], ofList [("b", 3), ("c", 4)]]⟩

theorem reached_in_step_pair : ∃ joined : Containers ℤ,
    patch 0 1 pair = .ok () (pair.set 0 joined) ∧ joined.parameterNameList = ["a", "b", "c"] ∧
      joined.parameters "b" = some 3 := by
  have hfirst : Reached (⟨[ofList [("a", 1), ("b", 2)]]⟩ : Heap (Containers ℤ)) :=
    Reached.start.call (.constructList [("a", 1), ("b", 2)]) rfl
  have hpair : Reached pair := hfirst.call (.constructList [("b", 3), ("c", 4)]) rfl
  obtain ⟨joined, hnames, hvalues, hpatch, -⟩ := ((reached_in_step hpair).2 0 1 _ _ rfl rfl).2
  exact ⟨joined, hpatch, hnames.trans (by decide), (hvalues "b").trans (by decide)⟩

end Gripperz.Parametrizations.Containers
