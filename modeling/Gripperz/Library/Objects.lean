import Gripperz.Library.Failures
import Gripperz.Library.Heap

/-! # Methods of objects

A method is a call on the state of an object. It is called by a pointer to the object.
-/
namespace Gripperz.Library.Action
variable {α β : Type}

/-- There is no object behind a null pointer. -/
def callOn (ptr : Ptr) (method : Action α β) : Action (Heap α) β := do
  match (← get).get ptr with
  | none => crash
  | some object => method.within (fun _ => object) fun heap object => heap.set ptr object

/-- A new object. -/
def make (object : α) : Action (Heap α) Unit := modify fun heap => (heap.alloc object).2

variable {heap : Heap α} {ptr : Ptr} {object object' : α} {method : Action α β} {b : β}

theorem callOn_of_get (hget : heap.get ptr = some object) :
    callOn ptr method heap =
      method.within (fun _ => object) (fun heap object => heap.set ptr object) heap := by
  change (match heap.get ptr with
    | none => (crash : Action (Heap α) β)
    | some object => method.within (fun _ => object) fun heap object => heap.set ptr object)
      heap = _
  rw [hget]

theorem callOn_eq_ok (hget : heap.get ptr = some object) (h : method object = .ok b object') :
    callOn ptr method heap = .ok b (heap.set ptr object') := by
  rw [callOn_of_get hget, within, h]

/-- What a method keeps of its object, a call keeps of all objects. -/
theorem ends_callOn {P : α → Prop}
    (keeps : ∀ object, P object → method.Ends (fun _ => P) (fun _ => P) object)
    (hall : ∀ object ∈ heap.objects, P object) :
    (callOn ptr method).Ends (fun _ heap' => ∀ object ∈ heap'.objects, P object)
      (fun _ heap' => ∀ object ∈ heap'.objects, P object) heap := by
  have hset (object : α) (hobject : P object) :
      ∀ other ∈ (heap.set ptr object).objects, P other := by
    intro other hother
    rcases List.mem_or_eq_of_mem_set hother with hold | rfl
    · exact hall other hold
    · exact hobject
  rw [callOn, ends_bind, ends_get]
  cases hget : heap.get ptr with
  | none => exact hall
  | some object =>
    rw [ends_within]
    exact (keeps object (hall object (List.mem_of_getElem? hget))).imp
      (fun _ object' => hset object') fun _ object' => hset object'

theorem ends_make {P : α → Prop} {fails : Failure → Heap α → Prop} (hobject : P object)
    (hall : ∀ object ∈ heap.objects, P object) :
    (make object).Ends (fun _ heap' => ∀ object ∈ heap'.objects, P object) fails heap := by
  rw [make, ends_modify]
  exact List.forall_mem_append.mpr ⟨hall, List.forall_mem_singleton.mpr hobject⟩

/-- Calls for the elements of a list that all return. -/
theorem forM_eq_ok {I σ : Type} {f : I → Action σ PUnit} {g : σ → I → σ}
    (h : ∀ i s, f i s = .ok ⟨⟩ (g s i)) (list : List I) (s : σ) :
    list.forM f s = .ok ⟨⟩ (list.foldl g s) := by
  induction list generalizing s with
  | nil => rfl
  | cons i list ih =>
    change EStateM.bind (f i) (fun _ => list.forM f) s = _
    rw [EStateM.bind, h]
    exact ih (g s i)

/-- What each call keeps, the calls for the elements of a list keep. -/
theorem ends_forM {I σ : Type} {P : σ → Prop} {f : I → Action σ PUnit}
    (keeps : ∀ i s, P s → (f i).Ends (fun _ => P) (fun _ => P) s) (list : List I) {s : σ}
    (hs : P s) : Ends (fun _ => P) (fun _ => P) (list.forM f) s := by
  induction list generalizing s with
  | nil => exact hs
  | cons i list ih =>
    change Ends _ _ (f i >>= fun _ => list.forM f) s
    rw [ends_bind]
    exact (keeps i s hs).imp (fun _ _ => ih) fun _ _ h => h

end Gripperz.Library.Action
