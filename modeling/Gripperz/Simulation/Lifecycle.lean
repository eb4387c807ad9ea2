import Gripperz.Simulation.Moves

/-! # The life of a target

What may happen to a target from the moment it is handed to a thread: it is skipped,
collides, or is set up and goes through the stages of a grasp until the grasp is ended. A
structure for each stage holds what was read on the way there.
-/
namespace Gripperz.Simulation
open Math Grasps Library

variable {ι R G V S : Type} [Field R] [LinearOrder R] [Group G] [AddCommGroup V] [Module R V]
  [DistribMulAction G V]

/-- What a run does not change of the object. -/
structure Scene (R S : Type) where
  hand : Device R S
  objects : List String
  tcp : String
  forceSimulateAll : Bool

def GraspTaskSimulator.scene (sim : GraspTaskSimulator ι R G V S) : Scene R S :=
  ⟨sim.hand, sim.objects, sim.tcp, sim.forceSimulateAll⟩

/-- The status a target is left with by an event that decides how it came out. -/
def Happening.final : Happening R G V → Option TestStatus
  | .skipped status | .collided status | .finished _ _ status => some status
  | _ => none

def Happening.isFinal (e : Happening R G V) : Bool := e.final.isSome

/-! ## Stages -/

section Stages
variable (wc : WorkCell R G V S) (scene : Scene R S)

/-- A setup without collision. -/
structure Setup where
  cache : TaskCache R G V
  nstate : S
  free : wc.inCollision nstate = false

/-- The hand has reached its approach pose. -/
structure Approach extends Setup wc where
  reached : S

/-- The hand has closed, on an object if it has no suction cup. -/
structure Grasp extends Approach wc where
  closed : S
  touching : scene.hand.suctionCup = none →
    (wc.getObjectContacts scene.hand scene.objects closed).object ≠ none

/-- The hand has been lifted, with an object if it has no suction cup. -/
structure Lift extends Grasp wc scene where
  object : String
  raised : S
  holding : scene.hand.suctionCup = none →
    (wc.getObjectContacts scene.hand scene.objects raised).object = some object

variable {wc}

/-- The pose of the first object for the hand. -/
def objectPose (wc : WorkCell R G V S) (scene : Scene R S) (state : S) : Transform3D G V :=
  (wc.frameTframe scene.tcp (scene.objects.headD "") state)⁻¹

def Setup.events (s : Setup wc) : List (Happening R G V) :=
  [.taken s.cache, .setUp (objectPose wc scene s.nstate)]

def Approach.events (s : Approach wc) : List (Happening R G V) :=
  s.toSetup.events scene ++ [.approached (objectPose wc scene s.reached)]

variable {scene}

def Grasp.events (s : Grasp wc scene) : List (Happening R G V) :=
  s.toApproach.events scene ++
    [.grasped (wc.calcGraspQuality scene.hand scene.objects s.closed)
      (wc.getObjectContacts scene.hand scene.objects s.closed).contacts]

def Lift.events (s : Lift wc scene) : List (Happening R G V) :=
  s.toGrasp.events ++
    [.lifted (wc.calcGraspQuality scene.hand scene.objects s.raised)
      (wc.frameTframe scene.tcp s.object s.closed)⁻¹ (wc.frameTframe scene.tcp s.object s.raised)⁻¹]

end Stages

/-! ## The rules -/

section Rules
variable (wc : WorkCell R G V S) (scene : Scene R S) (promise : Promise)

/-- The statuses of a lifted grasp, regraded or not. -/
inductive Regraded : TestStatus → Prop where
  | success : Regraded .success
  | slipped : Regraded .objectSlipped
  | interference : Regraded .interference

/-- The ends of a grasp without a lift. -/
inductive Cut : Counter → TestStatus → Prop where
  | aborted {k : Counter} {status : TestStatus} (h : Call.Abortion k status) : Cut k status
  | missed : Cut .failed .objectMissed
  | dropped : Cut .failed .objectDropped

/-- A target is dealt. -/
inductive Opens : List (Happening R G V) → Stage S → Prop where
  | skipped (cache : TaskCache R G V) (status : TestStatus) :
      Opens [.taken cache, .skipped status] .newGrasp
  | collided (cache : TaskCache R G V) {status : TestStatus}
      (h : status = .collisionObjectInitially ∨ status = .collisionEnvironmentInitially) :
      Opens [.taken cache, .collided status] .newGrasp
  | setUp (s : Setup wc) : Opens (s.events scene) .approach

/-- A grasp goes on. -/
inductive GoesOn : Stage S → List (Happening R G V) → Stage S → Prop where
  | still {st : Stage S} : GoesOn st [] st
  | abort {st : Stage S} {k : Counter} {status : TestStatus} (h : Call.Abortion k status)
      (once : promise.once → st ≠ .newGrasp) : GoesOn st [.finished k status status] .newGrasp
  | approach (reached : S) : GoesOn .approach [.approached (objectPose wc scene reached)] .grasping
  | miss : GoesOn .grasping [.finished .failed .objectMissed .objectMissed] .newGrasp
  | grasp (closed : S) (touching : scene.hand.suctionCup = none →
        (wc.getObjectContacts scene.hand scene.objects closed).object ≠ none) :
      GoesOn .grasping
        [.grasped (wc.calcGraspQuality scene.hand scene.objects closed)
          (wc.getObjectContacts scene.hand scene.objects closed).contacts] (.lifting closed)
  | drop {closed : S} :
      GoesOn (.lifting closed) [.finished .failed .objectDropped .objectDropped] .newGrasp
  | lift {closed : S} (object : String) (raised : S) (holding : scene.hand.suctionCup = none →
        (wc.getObjectContacts scene.hand scene.objects raised).object = some object)
      {k : Counter} {status final : TestStatus}
      (lifted : Call.Lifted scene.hand.suctionCup k status)
      (regraded : Regraded final) (graded : promise.graded → final = status) :
      GoesOn (.lifting closed)
        [.lifted (wc.calcGraspQuality scene.hand scene.objects raised)
          (wc.frameTframe scene.tcp object closed)⁻¹ (wc.frameTframe scene.tcp object raised)⁻¹,
          .finished k status final] .newGrasp

/-- The rules of the simulator. -/
def lifecycle : Rules (Stage S) (Happening R G V) where
  idle := .newGrasp
  Opens := Opens wc scene
  GoesOn := GoesOn wc scene promise

/-! ## The lives the rules allow -/

/-- The events up to a stage in which the grasp goes on. -/
inductive Open : Stage S → List (Happening R G V) → Prop where
  | approach (s : Setup wc) : Open .approach (s.events scene)
  | grasping (s : Approach wc) : Open .grasping (s.events scene)
  | lifting (s : Grasp wc scene) : Open (.lifting s.closed) s.events

/-- The events of a target that has been disposed of. -/
inductive Ended : List (Happening R G V) → Prop where
  | skipped (cache : TaskCache R G V) (status : TestStatus) :
      Ended [.taken cache, .skipped status]
  | collided (cache : TaskCache R G V) {status : TestStatus}
      (h : status = .collisionObjectInitially ∨ status = .collisionEnvironmentInitially) :
      Ended [.taken cache, .collided status]
  | cut {st : Stage S} {es : List (Happening R G V)} {k : Counter} {status : TestStatus}
      (h : Open wc scene st es) (cut : Cut k status) : Ended (es ++ [.finished k status status])
  | lifted (l : Lift wc scene) {k : Counter} {status final : TestStatus}
      (lifted : Call.Lifted scene.hand.suctionCup k status) (regraded : Regraded final)
      (graded : promise.graded → final = status) : Ended (l.events ++ [.finished k status final])
  | again {es : List (Happening R G V)} {k : Counter} {status : TestStatus} (h : Ended es)
      (again : ¬ promise.once) (aborted : Call.Abortion k status) :
      Ended (es ++ [.finished k status status])

variable {wc scene promise}

section
omit [LinearOrder R] [Module R V]

/-- A life is one grasp in progress or one that has been disposed of. -/
theorem life_cases {st : Stage S} {es : List (Happening R G V)}
    (h : (lifecycle wc scene promise).Life st es) :
    Open wc scene st es ∨ (st = .newGrasp ∧ Ended wc scene promise es) := by
  induction h with
  | opened h =>
    cases h with
    | skipped cache status => exact Or.inr ⟨rfl, .skipped cache status⟩
    | collided cache h => exact Or.inr ⟨rfl, .collided cache h⟩
    | setUp s => exact Or.inl (.approach s)
  | goesOn _ h ih =>
    cases h with
    | still => simpa using ih
    | abort h once =>
      right
      apply And.intro rfl
      rcases ih with ih | ⟨hst, ih⟩
      · exact .cut ih (.aborted h)
      · exact .again ih (fun hp => once hp hst) h
    | approach reached =>
      rcases ih with ih | ih
      · cases ih with
        | approach s => exact Or.inl (.grasping { s with reached := reached })
      · cases ih.1
    | miss =>
      rcases ih with ih | ih
      · exact Or.inr ⟨rfl, .cut ih .missed⟩
      · cases ih.1
    | grasp closed touching =>
      rcases ih with ih | ih
      · cases ih with
        | grasping s => exact Or.inl (.lifting { s with closed := closed, touching := touching })
      · cases ih.1
    | drop =>
      rcases ih with ih | ih
      · exact Or.inr ⟨rfl, .cut ih .dropped⟩
      · cases ih.1
    | lift object raised holding lifted regraded graded =>
      rcases ih with ih | ih
      · cases ih with
        | lifting s =>
          have hend := Ended.lifted
            { s with object := object, raised := raised, holding := holding } lifted regraded graded
          exact Or.inr ⟨rfl, by simpa [Lift.events] using hend⟩
      · cases ih.1

theorem ended_of_life {es : List (Happening R G V)}
    (h : (lifecycle wc scene promise).Life .newGrasp es) : Ended wc scene promise es := by
  rcases life_cases h with h | h
  · cases h
  · exact h.2

theorem open_of_life {st : Stage S} {es : List (Happening R G V)}
    (h : (lifecycle wc scene promise).Life st es) (hst : st ≠ .newGrasp) :
    Open wc scene st es := by
  rcases life_cases h with h | h
  · exact h
  · exact absurd h.1 hst

end

/-! ## Ends -/

section
omit [LinearOrder R] [Module R V]

theorem isFinal_of_open {st : Stage S} {es : List (Happening R G V)} (h : Open wc scene st es) :
    ∀ e ∈ es, e.isFinal = false := by
  cases h with
  | approach s => simp [Setup.events, Happening.isFinal, Happening.final]
  | grasping s => simp [Approach.events, Setup.events, Happening.isFinal, Happening.final]
  | lifting s =>
    simp [Grasp.events, Approach.events, Setup.events, Happening.isFinal, Happening.final]

theorem isFinal_of_lift (l : Lift wc scene) : ∀ e ∈ l.events, e.isFinal = false := by
  simp [Lift.events, Grasp.events, Approach.events, Setup.events, Happening.isFinal,
    Happening.final]

/-- A target that has been disposed of has an end. -/
theorem ended_isFinal {es : List (Happening R G V)} (h : Ended wc scene promise es) :
    ∃ e ∈ es, e.isFinal = true := by
  cases h with
  | skipped cache status => simp [Happening.isFinal, Happening.final]
  | collided cache h => simp [Happening.isFinal, Happening.final]
  | cut h cut => simp [Happening.isFinal, Happening.final]
  | lifted l lifted regraded graded => simp [Happening.isFinal, Happening.final]
  | again h again aborted => simp [Happening.isFinal, Happening.final]

/-- Without a second end, the only end is the last event. -/
theorem ended_last {es : List (Happening R G V)} (h : Ended wc scene promise es)
    (once : promise.once ∨ es.countP Happening.isFinal ≤ 1) :
    ∃ before last, es = before ++ [last] ∧ last.isFinal = true ∧
      ∀ e ∈ before, e.isFinal = false := by
  cases h with
  | skipped cache status =>
    exact ⟨[.taken cache], _, rfl, rfl, by simp [Happening.isFinal, Happening.final]⟩
  | collided cache h =>
    exact ⟨[.taken cache], _, rfl, rfl, by simp [Happening.isFinal, Happening.final]⟩
  | cut h cut => exact ⟨_, _, rfl, rfl, isFinal_of_open h⟩
  | lifted l lifted regraded graded => exact ⟨_, _, rfl, rfl, isFinal_of_lift l⟩
  | @again es k status h again aborted =>
    have hpos := List.countP_pos_iff.mpr (ended_isFinal h)
    have hone : [(.finished k status status : Happening R G V)].countP Happening.isFinal = 1 := rfl
    have hle := once.resolve_left again
    rw [List.countP_append, hone] at hle
    omega

end

/-! ## Lifted grasps -/

theorem not_lifted_of_cut {k : Counter} {status : TestStatus} (h : Cut k status) :
    ¬ Regraded status := by
  intro hr
  cases h with
  | aborted h => cases h <;> cases hr
  | missed => cases hr
  | dropped => cases hr

theorem regraded_of_lifted {suctionCup : Option (SuctionCup S)} {k : Counter}
    {status : TestStatus} (h : Call.Lifted suctionCup k status) : Regraded status := by
  cases h with
  | success => exact .success
  | slipped h => exact .slipped

omit [LinearOrder R] [Module R V] in
/-- A grasp that is given the status of a lifted one has passed every stage, in order and
before anything else happened to the target. -/
theorem stages_of_finished {es : List (Happening R G V)} (h : Ended wc scene promise es)
    {k : Counter} {status final : TestStatus} (he : Happening.finished k status final ∈ es)
    (hs : Regraded status ∨ Regraded final) :
    ∃ (l : Lift wc scene) (more : List (Happening R G V)),
      es = l.events ++ .finished k status final :: more := by
  induction h with
  | skipped cache status => simp at he
  | collided cache h => simp at he
  | cut h cut =>
    rcases List.mem_append.mp he with he | he
    · exact absurd (isFinal_of_open h _ he) (by simp [Happening.isFinal, Happening.final])
    · simp only [List.mem_singleton, Happening.finished.injEq] at he
      obtain ⟨rfl, rfl, rfl⟩ := he
      exact absurd (hs.elim id id) (not_lifted_of_cut cut)
  | lifted l lifted regraded graded =>
    rcases List.mem_append.mp he with he | he
    · exact absurd (isFinal_of_lift l _ he) (by simp [Happening.isFinal, Happening.final])
    · simp only [List.mem_singleton, Happening.finished.injEq] at he
      obtain ⟨rfl, rfl, rfl⟩ := he
      exact ⟨l, [], rfl⟩
  | @again es k' status' h again aborted ih =>
    rcases List.mem_append.mp he with he | he
    · obtain ⟨l, more, hmore⟩ := ih he
      exact ⟨l, more ++ [.finished k' status' status'], by simp [hmore]⟩
    · simp only [List.mem_singleton, Happening.finished.injEq] at he
      obtain ⟨rfl, rfl, rfl⟩ := he
      exact absurd (hs.elim id id) (not_lifted_of_cut (.aborted aborted))

end Rules
end Gripperz.Simulation
