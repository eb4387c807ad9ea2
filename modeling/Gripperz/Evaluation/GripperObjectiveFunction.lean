import Gripperz.Library.Failures
import Gripperz.Library.Heap

/-! # The last gripper and its quality

The objective function builds a gripper, has it evaluated and extracts the objectives from the
quality. It keeps the last gripper and the last quality. The builder, the evaluation manager, the
extractor and the callback are parameters: they work on the rest of the world, and may raise
exceptions. A builder makes a new gripper each time.
-/
namespace Gripperz.Evaluation
open Library

variable {Gr σ R : Type}

/-- What the objective function works on: `_quality` of each gripper that was built, the members
of the function and the rest of the world. The evaluations, each with the quality the manager
returned, are written down and never read. -/
structure Objects (σ : Type) where
  qualities : Heap Ptr
  lastGripper : Option Ptr
  lastQuality : Option Ptr
  evaluated : List (Ptr × Ptr)
  world : σ

/-- A builder returns a null pointer, or a gripper and the quality that it is made with. -/
structure GripperObjectiveFunction (Gr σ R : Type) where
  builder : List R → Action σ (Option (Gr × Ptr))
  manager : Gr → Action σ Ptr
  extractor : Ptr → Action σ (List R)
  callback : Option (Ptr → Action σ Unit)

namespace Objects

/-- No gripper has been evaluated yet. -/
def new (qualities : Heap Ptr) (world : σ) : Objects σ := ⟨qualities, none, none, [], world⟩

def getLastGripper (s : Objects σ) : Option Ptr := s.lastGripper

def getLastGripperQuality (s : Objects σ) : Option Ptr := s.lastQuality

/-- A new gripper. -/
def build (quality : Ptr) : Action (Objects σ) Ptr := do
  let s ← get
  modify fun s => { s with qualities := (s.qualities.alloc quality).2 }
  return (s.qualities.alloc quality).1

def inWorld {α : Type} (x : Action σ α) : Action (Objects σ) α :=
  x.within world fun s world => { s with world := world }

/-- The last quality is the one obtained by evaluating the last gripper, and that gripper's
quality; there is none as long as there is no gripper. -/
def Paired (s : Objects σ) : Prop :=
  match s.getLastGripper with
  | none => s.getLastGripperQuality = none
  | some gripper => ∃ quality, s.getLastGripperQuality = some quality ∧
      s.qualities.get gripper = some quality ∧ (gripper, quality) ∈ s.evaluated

/-- What has been evaluated has been built. -/
def Valid (s : Objects σ) : Prop :=
  ∀ evaluation ∈ s.evaluated, evaluation.1 < s.qualities.objects.length

end Objects

namespace GripperObjectiveFunction

/-- The first `try` block of `evaluate`. -/
def generate (f : GripperObjectiveFunction Gr σ R) (x : List R) :
    Action (Objects σ) (Option (Gr × Ptr)) :=
  Action.rethrow "Exception during gripper generation! " do
    match ← Objects.inWorld (f.builder x) with
    | none =>
      modify fun s => { s with lastGripper := none }
      return none
    | some (gripper, quality) =>
      let ptr ← Objects.build quality
      modify fun s => { s with lastGripper := some ptr }
      return some (gripper, ptr)

/-- The second `try` block of `evaluate`. -/
def assess (f : GripperObjectiveFunction Gr σ R) (gripper : Gr) (ptr : Ptr) :
    Action (Objects σ) (List R) :=
  Action.rethrow "Exception during gripper evaluation! " do
    let q ← Objects.inWorld (f.manager gripper)
    modify fun s => { s with evaluated := (ptr, q) :: s.evaluated }
    modify fun s => { s with lastQuality := some q }
    modify fun s => { s with qualities := s.qualities.set ptr q }
    Objects.inWorld (f.extractor q)

/-- `evaluate`; the assertion fails for a null pointer. -/
def evaluate (f : GripperObjectiveFunction Gr σ R) (x : List R) :
    Action (Objects σ) (List R) := do
  match ← f.generate x with
  | none => Action.crash
  | some (gripper, ptr) =>
    let results ← f.assess gripper ptr
    match f.callback with
    | none => return results
    | some callback =>
      Objects.inWorld (callback ptr)
      return results

/-- The builder makes a gripper, and its evaluation raises an exception. -/
def EvaluationFails (f : GripperObjectiveFunction Gr σ R) (x : List R) (s : Objects σ) : Prop :=
  (f.builder x).Ends
    (fun built world => ∃ gripper, built = some gripper ∧
      (f.manager gripper.1).Ends (fun _ _ => False) (fun failure _ => failure ≠ .crashed) world)
    (fun _ _ => False) s.world

/-- After each call, returned or raised, the last gripper and the last quality are paired. -/
def StaysPaired (f : GripperObjectiveFunction Gr σ R) (xs : List (List R)) (s : Objects σ) :
    Prop :=
  ∀ call ∈ Action.calls f.evaluate xs s, ∀ s',
    (f.evaluate call.1).after call.2 = some s' → s'.Paired

variable {f : GripperObjectiveFunction Gr σ R} {x : List R} {s : Objects σ}

end GripperObjectiveFunction

/-! ## What one call writes -/

namespace Objects
variable {s : Objects σ}

/-- A gripper has been built. -/
def built (s : Objects σ) (quality : Ptr) (world : σ) : Objects σ :=
  { s with qualities := (s.qualities.alloc quality).2,
           lastGripper := some (s.qualities.alloc quality).1, world := world }

/-- A gripper has been evaluated. -/
def assessed (s : Objects σ) (gripper quality : Ptr) (world : σ) : Objects σ :=
  { s with qualities := s.qualities.set gripper quality, lastQuality := some quality,
           evaluated := (gripper, quality) :: s.evaluated, world := world }

@[simp] theorem built_world (quality : Ptr) (world : σ) :
    (s.built quality world).world = world := rfl

theorem valid_built (h : s.Valid) (quality : Ptr) (world : σ) : (s.built quality world).Valid := by
  intro evaluation hmem
  have hlength : (s.built quality world).qualities.objects.length =
      s.qualities.objects.length + 1 := List.length_append
  rw [hlength]
  exact Nat.lt_succ_of_lt (h evaluation hmem)

theorem valid_assessed (h : s.Valid) (quality : Ptr) (world world' : σ) (q : Ptr) :
    ((s.built quality world).assessed (s.qualities.alloc quality).1 q world').Valid := by
  intro evaluation hmem
  simp only [assessed, Heap.set, List.length_set]
  rcases List.mem_cons.mp hmem with rfl | hmem
  · simp [built, Heap.alloc]
  · exact valid_built h quality world evaluation hmem

/-- A gripper that has just been evaluated is paired with its quality. -/
theorem paired_assessed (quality : Ptr) (world world' : σ) (q : Ptr) :
    ((s.built quality world).assessed (s.qualities.alloc quality).1 q world').Paired :=
  ⟨q, rfl, Heap.get_set_self (Heap.get_alloc_self s.qualities quality) q, List.mem_cons_self⟩

/-- A gripper that has just been built was not evaluated. -/
theorem not_paired_built (h : s.Valid) (quality : Ptr) (world : σ) :
    ¬ (s.built quality world).Paired := by
  rintro ⟨q, -, -, hmem⟩
  exact absurd (h _ hmem) (Nat.lt_irrefl _)

end Objects

namespace GripperObjectiveFunction
variable {f : GripperObjectiveFunction Gr σ R} {x : List R} {s : Objects σ}

theorem ends_inWorld {α : Type} {post : α → Objects σ → Prop} {fails : Failure → Objects σ → Prop}
    (call : Action σ α) :
    (Objects.inWorld call).Ends post fails s ↔
      call.Ends (fun a world => post a { s with world := world })
        (fun failure world => fails failure { s with world := world }) s.world :=
  Action.ends_within _ _ call

theorem ends_generate {post : Option (Gr × Ptr) → Objects σ → Prop}
    {fails : Failure → Objects σ → Prop} :
    (f.generate x).Ends post fails s ↔
      (f.builder x).Ends
        (fun made world => match made with
          | none => post none { s with lastGripper := none, world := world }
          | some (gripper, quality) =>
            post (some (gripper, (s.qualities.alloc quality).1)) (s.built quality world))
        (fun failure world => fails (failure.prefixed "Exception during gripper generation! ")
          { s with world := world }) s.world := by
  rw [generate, Action.ends_rethrow, Action.ends_bind, ends_inWorld]
  apply Action.ends_congr
  · intro made world
    cases made with
    | none => rfl
    | some made => rfl
  · exact fun failure world => Iff.rfl

theorem ends_assess {gripper : Gr} {ptr : Ptr} {post : List R → Objects σ → Prop}
    {fails : Failure → Objects σ → Prop} :
    (f.assess gripper ptr).Ends post fails s ↔
      (f.manager gripper).Ends
        (fun q world => (f.extractor q).Ends
          (fun results world => post results (s.assessed ptr q world))
          (fun failure world => fails (failure.prefixed "Exception during gripper evaluation! ")
            (s.assessed ptr q world)) world)
        (fun failure world => fails (failure.prefixed "Exception during gripper evaluation! ")
          { s with world := world }) s.world := by
  simp only [assess, Action.ends_rethrow, Action.ends_bind, ends_inWorld, Action.ends_modify]
  rfl

theorem ends_evaluate {post : List R → Objects σ → Prop} {fails : Failure → Objects σ → Prop} :
    (f.evaluate x).Ends post fails s ↔
      (f.generate x).Ends
        (fun built s' => match built with
          | none => fails .crashed s'
          | some (gripper, ptr) => (f.assess gripper ptr).Ends
            (fun results s' => match f.callback with
              | none => post results s'
              | some callback => (callback ptr).Ends
                (fun _ world => post results { s' with world := world })
                (fun failure world => fails failure { s' with world := world }) s'.world)
            fails s') fails s := by
  rw [evaluate, Action.ends_bind]
  apply Action.ends_congr
  · intro built s'
    cases built with
    | none => rfl
    | some built =>
      rw [Action.ends_bind]
      cases f.callback with
      | none => rfl
      | some callback => simp only [Action.ends_bind, ends_inWorld, Action.ends_pure]
  · exact fun failure world => Iff.rfl

/-! ## One call -/

/-- A call leaves a state with `P` when failing builds keep `P`, evaluated grippers have it, and so
have those whose evaluation raises an exception. -/
theorem forall_after {P : Objects σ → Prop}
    (unbuilt : ∀ world, P { s with world := world })
    (unassessed : f.EvaluationFails x s → ∀ quality world, P (s.built quality world))
    (assessed : ∀ quality world q world', P ((s.built quality world).assessed
      (s.qualities.alloc quality).1 q world')) :
    ∀ s', (f.evaluate x).after s = some s' → P s' := by
  rw [Action.forall_after_iff, ends_evaluate, ends_generate]
  cases hbuilder : f.builder x s.world with
  | error failure world =>
    rw [Action.ends_of_error hbuilder]
    exact fun _ => unbuilt world
  | ok made world =>
    rw [Action.ends_of_ok hbuilder]
    cases made with
    | none => exact fun hcrash => absurd rfl hcrash
    | some made =>
      simp only [ends_assess, Objects.built_world]
      cases hmanager : f.manager made.1 world with
      | error failure world' =>
        rw [Action.ends_of_error hmanager]
        intro hraised
        refine unassessed ?_ made.2 world'
        rw [EvaluationFails, Action.ends_of_ok hbuilder]
        refine ⟨made, rfl, ?_⟩
        rw [Action.ends_of_error hmanager]
        exact fun hcrash => hraised (Failure.prefixed_eq_crashed.mpr hcrash)
      | ok q world' =>
        rw [Action.ends_of_ok hmanager]
        cases hextractor : f.extractor q world' with
        | error failure last =>
          rw [Action.ends_of_error hextractor]
          exact fun _ => assessed made.2 world q last
        | ok results world' =>
          rw [Action.ends_of_ok hextractor]
          cases f.callback with
          | none => exact assessed made.2 world q world'
          | some callback =>
            apply Action.ends_of_forall
            · exact fun _ last => assessed made.2 world q last
            · exact fun _ last _ => assessed made.2 world q last

theorem valid_after (h : s.Valid) : ∀ s', (f.evaluate x).after s = some s' → s'.Valid :=
  forall_after (fun _ => h) (fun _ quality world => Objects.valid_built h quality world)
    fun quality world q world' => Objects.valid_assessed h quality world world' q

/-- The pair stays one when the evaluation of a gripper that was built raises no exception. -/
theorem paired_after (hpaired : s.Paired) (h : ¬ f.EvaluationFails x s) :
    ∀ s', (f.evaluate x).after s = some s' → s'.Paired :=
  forall_after (fun _ => hpaired) (fun hfails => absurd hfails h)
    fun quality world q world' => Objects.paired_assessed quality world world' q

/-- A gripper whose evaluation raises an exception is left without its quality. -/
theorem not_paired_after (hvalid : s.Valid) (h : f.EvaluationFails x s) :
    ∃ s', (f.evaluate x).after s = some s' ∧ ¬ s'.Paired := by
  rw [Action.exists_after_iff, ends_evaluate, ends_generate]
  apply Action.Ends.imp h
  · rintro _ world ⟨made, rfl, hmanager⟩
    simp only [ends_assess]
    apply hmanager.imp
    · exact fun _ _ hreturned => hreturned.elim
    · intro failure world' hraised
      exact ⟨mt Failure.prefixed_eq_crashed.mp hraised,
        Objects.not_paired_built hvalid made.2 world'⟩
  · exact fun _ _ hfails => hfails.elim

/-! ## Every run -/

/-- Over a run, the last gripper and the last quality are paired after each call exactly when no
gripper that was built raises an exception in its evaluation. -/
theorem staysPaired_iff (f : GripperObjectiveFunction Gr σ R) (xs : List (List R))
    (qualities : Heap Ptr) (world : σ) :
    f.StaysPaired xs (.new qualities world) ↔
      ∀ call ∈ Action.calls f.evaluate xs (.new qualities world),
        ¬ f.EvaluationFails call.1 call.2 := by
  have hvalid : (Objects.new qualities world).Valid := by
    intro evaluation hmem
    cases hmem
  have hkeeps (x : List R) (s s' : Objects σ) (hs : s.Valid)
      (hafter : (f.evaluate x).after s = some s') : s'.Valid := valid_after hs s' hafter
  have hholds (x : List R) (s s' : Objects σ) (_ : s.Valid) (hgood : ¬ f.EvaluationFails x s)
      (hpaired : s.Paired) (hafter : (f.evaluate x).after s = some s') : s'.Paired :=
    paired_after hpaired hgood s' hafter
  have hbreaks (x : List R) (s : Objects σ) (hs : s.Valid) (hbad : ¬ ¬ f.EvaluationFails x s) :
      ∃ s', (f.evaluate x).after s = some s' ∧ ¬ s'.Paired :=
    not_paired_after hs (not_not.mp hbad)
  exact Action.forall_calls_iff hkeeps hholds hbreaks xs hvalid rfl

/-! ## Two grippers -/

namespace Sample

/-- Grippers are vectors, and the second cannot be evaluated. -/
def objective : GripperObjectiveFunction (List ℕ) Unit ℕ where
  builder x := pure (some (x, 0))
  manager gripper := if gripper = [2] then Action.raise "no grasps" else pure 1
  extractor q := pure [q]
  callback := none

end Sample

/-- After the second gripper failed, the last quality is that of the first. -/
theorem not_staysPaired : ¬ Sample.objective.StaysPaired [[1], [2]] (.new ⟨[]⟩ ()) := by
  intro h
  have hlast := h _ (List.mem_cons_of_mem _ (List.mem_singleton_self _)) _ rfl
  obtain ⟨q, hquality, -, hevaluated⟩ := hlast
  cases hquality
  exact absurd hevaluated (by decide)

end GripperObjectiveFunction
end Gripperz.Evaluation
