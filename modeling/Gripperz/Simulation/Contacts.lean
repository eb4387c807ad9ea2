import Gripperz.Library.Largest
import Gripperz.Simulation.Dealing

/-! # The contacts of a lifted object

Of the objects that touch the hand, the one with the most contacts is found, with these contacts
and the bodies of the hand they are with. So where a lift is judged there is a body to measure the
slippage by, and the contacts have an average.
-/
namespace Gripperz.Simulation
open Math Grasps Library

namespace WorkCell
variable {R G V S : Type} (wc : WorkCell R G V S) (hand : Device R S) (state : S)

/-! ## The contacts of one object -/

/-- The readings of the sensor of an object that are of bodies of the hand, in order. -/
def handReadings (object : String) : List (String × Contact3D R V) :=
  ((wc.getBodies object state).zip (wc.getContacts object state)).filterMap fun reading =>
    reading.1.bind fun body => if hand.hasFrame body state then some (body, reading.2) else none

/-- A reading as it is kept, with the friction between the object and the body. -/
def keptContact (object : String) (reading : String × Contact3D R V) : Contact3D R V :=
  { reading.2 with mu := wc.friction object reading.1 }

/-- A body is noted the first time it is read. -/
def noteBody (bodies : List String) (reading : String × Contact3D R V) : List String :=
  if reading.1 ∈ bodies then bodies else bodies ++ [reading.1]

/-- A loop over readings that passes over null and foreign bodies. -/
theorem foldl_readings (object : String)
    (step : List (Contact3D R V) × List String → Option String × Contact3D R V →
      List (Contact3D R V) × List String)
    (null : ∀ res contact, step res (none, contact) = res)
    (read : ∀ res body contact, step res (some body, contact) =
      if hand.hasFrame body state then
        (res.1 ++ [wc.keptContact object (body, contact)], noteBody res.2 (body, contact))
      else res)
    (readings : List (Option String × Contact3D R V))
    (res : List (Contact3D R V) × List String) :
    readings.foldl step res =
      (res.1 ++ (readings.filterMap fun reading => reading.1.bind fun body =>
          if hand.hasFrame body state then some (body, reading.2) else none).map
            (wc.keptContact object),
        (readings.filterMap fun reading => reading.1.bind fun body =>
          if hand.hasFrame body state then some (body, reading.2) else none).foldl
            noteBody res.2) := by
  induction readings generalizing res with
  | nil => simp
  | cons reading readings ih =>
    obtain ⟨body, contact⟩ := reading
    rw [List.foldl_cons, ih]
    cases body with
    | none => simp [null]
    | some body => by_cases hbody : hand.hasFrame body state <;> simp [read, hbody]

theorem objectContacts_eq (object : String) : wc.objectContacts hand state object =
    ((wc.handReadings hand state object).map (wc.keptContact object),
      (wc.handReadings hand state object).foldl noteBody []) :=
  wc.foldl_readings hand state object _ (fun _ _ => rfl) (fun _ _ _ => rfl) _ _

theorem foldl_noteBody (readings : List (String × Contact3D R V)) (bodies : List String)
    (hnodup : bodies.Nodup) :
    (readings.foldl noteBody bodies).Nodup ∧ ∀ body, body ∈ readings.foldl noteBody bodies ↔
      body ∈ bodies ∨ body ∈ readings.map Prod.fst := by
  induction readings generalizing bodies with
  | nil => simp [hnodup]
  | cons reading readings ih =>
    by_cases hmem : reading.1 ∈ bodies
    · obtain ⟨hnodup', hiff⟩ := ih bodies hnodup
      rw [List.foldl_cons, noteBody, if_pos hmem]
      refine ⟨hnodup', fun body => ?_⟩
      rw [hiff body, List.map_cons, List.mem_cons]
      constructor
      · rintro (h | h)
        · exact Or.inl h
        · exact Or.inr (Or.inr h)
      · rintro (h | rfl | h)
        · exact Or.inl h
        · exact Or.inl hmem
        · exact Or.inr h
    · have hnodup₁ : (bodies ++ [reading.1]).Nodup := by
        refine List.nodup_append.mpr ⟨hnodup, by simp, ?_⟩
        rintro body hbody _ hnew rfl
        exact hmem (List.mem_singleton.mp hnew ▸ hbody)
      obtain ⟨hnodup', hiff⟩ := ih _ hnodup₁
      rw [List.foldl_cons, noteBody, if_neg hmem]
      refine ⟨hnodup', fun body => ?_⟩
      rw [hiff body, List.mem_append, List.mem_singleton, List.map_cons, List.mem_cons, or_assoc]

/-! ## The contacts of the best object -/

/-- An object with the most contacts, with these and the bodies they are with. -/
structure IsBest (objects : List String) (object : String) (gobj : GraspedObject R V) : Prop where
  mem : object ∈ objects
  most : ∀ other ∈ objects,
    (wc.handReadings hand state other).length ≤ (wc.handReadings hand state object).length
  contacts : gobj.contacts =
    (wc.handReadings hand state object).map (wc.keptContact object)
  contacts_ne_nil : gobj.contacts ≠ []
  bodies_ne_nil : gobj.bodies ≠ []
  bodies_nodup : gobj.bodies.Nodup
  mem_bodies : ∀ body,
    body ∈ gobj.bodies ↔ body ∈ (wc.handReadings hand state object).map Prod.fst

/-- What is found of an object. -/
def found (object : String) : GraspedObject R V :=
  ⟨some object, (wc.objectContacts hand state object).1, (wc.objectContacts hand state object).2⟩

/-- The objects with a contact. -/
def touching (objects : List String) : List (GraspedObject R V) :=
  (objects.map (wc.found hand state)).filter fun o => 0 < o.contacts.length

theorem length_found (object : String) : (wc.found hand state object).contacts.length =
    (wc.handReadings hand state object).length := by
  rw [found, objectContacts_eq, List.length_map]

theorem mem_touching {objects : List String} {o : GraspedObject R V} :
    o ∈ wc.touching hand state objects ↔
      ∃ object ∈ objects, wc.handReadings hand state object ≠ [] ∧
        wc.found hand state object = o := by
  simp only [touching, List.mem_filter, List.mem_map, decide_eq_true_eq]
  constructor
  · rintro ⟨⟨object, hobject, rfl⟩, hpos⟩
    rw [length_found] at hpos
    exact ⟨object, hobject, List.ne_nil_of_length_pos hpos, rfl⟩
  · rintro ⟨object, hobject, hne, rfl⟩
    refine ⟨⟨object, hobject, rfl⟩, ?_⟩
    rw [length_found]
    exact List.length_pos_of_ne_nil hne

theorem getObjectContacts_eq (objects : List String) : wc.getObjectContacts hand objects state =
    match wc.touching hand state objects with
    | [] => ⟨none, [], []⟩
    | first :: rest => largestAfter (fun o => o.contacts.length) first rest := rfl

theorem isBest_found {objects : List String} {object : String} (hobject : object ∈ objects)
    (hne : wc.handReadings hand state object ≠ [])
    (hmost : ∀ other ∈ objects,
      (wc.handReadings hand state other).length ≤ (wc.handReadings hand state object).length) :
    wc.IsBest hand state objects object (wc.found hand state object) := by
  obtain ⟨hnodup, hmem⟩ := foldl_noteBody (wc.handReadings hand state object) [] List.nodup_nil
  have hbodies : (wc.found hand state object).bodies =
      (wc.handReadings hand state object).foldl noteBody [] := by
    rw [found, objectContacts_eq]
  have hcontacts : (wc.found hand state object).contacts =
      (wc.handReadings hand state object).map (wc.keptContact object) := by
    rw [found, objectContacts_eq]
  have hiff : ∀ body, body ∈ (wc.found hand state object).bodies ↔
      body ∈ (wc.handReadings hand state object).map Prod.fst := by
    intro body
    rw [hbodies, hmem body]
    simp
  refine ⟨hobject, hmost, hcontacts, ?_, ?_, hbodies ▸ hnodup, hiff⟩
  · rw [hcontacts]
    simpa using hne
  · obtain ⟨reading, hreading⟩ := List.exists_mem_of_ne_nil _ hne
    exact List.ne_nil_of_mem ((hiff reading.1).mpr (List.mem_map_of_mem hreading))

/-- The object that is found is a best one. -/
theorem isBest_of_object {objects : List String} {object : String}
    (h : (wc.getObjectContacts hand objects state).object = some object) :
    wc.IsBest hand state objects object (wc.getObjectContacts hand objects state) := by
  rw [getObjectContacts_eq] at h ⊢
  cases htouching : wc.touching hand state objects with
  | nil =>
    rw [htouching] at h
    cases h
  | cons first rest =>
    rw [htouching] at h
    simp only at h ⊢
    have hbest := largestAfter_mem (fun o : GraspedObject R V => o.contacts.length) first rest
    have hlargest :=
      size_le_largestAfter (fun o : GraspedObject R V => o.contacts.length) first rest
    rw [← htouching] at hbest hlargest
    obtain ⟨best, hmem, hne, hfound⟩ := (wc.mem_touching hand state).mp hbest
    rw [← hfound] at h hlargest ⊢
    cases h
    apply wc.isBest_found hand state hmem hne
    intro other hother
    by_cases hnil : wc.handReadings hand state other = []
    · rw [hnil]
      exact Nat.zero_le _
    · have hle := hlargest _ ((wc.mem_touching hand state).mpr ⟨other, hother, hnil, rfl⟩)
      rwa [length_found, length_found] at hle

/-- No object is found when none touches the hand. -/
theorem object_eq_none_iff (objects : List String) :
    (wc.getObjectContacts hand objects state).object = none ↔
      ∀ object ∈ objects, wc.handReadings hand state object = [] := by
  have hnil : wc.touching hand state objects = [] ↔
      ∀ object ∈ objects, wc.handReadings hand state object = [] := by
    rw [List.eq_nil_iff_forall_not_mem]
    constructor
    · intro h object hobject
      by_contra hne
      exact h _ ((wc.mem_touching hand state).mpr ⟨object, hobject, hne, rfl⟩)
    · intro h o ho
      obtain ⟨object, hobject, hne, -⟩ := (wc.mem_touching hand state).mp ho
      exact hne (h object hobject)
  rw [← hnil, getObjectContacts_eq]
  cases htouching : wc.touching hand state objects with
  | nil => simp
  | cons first rest =>
    have hbest := largestAfter_mem (fun o : GraspedObject R V => o.contacts.length) first rest
    rw [← htouching] at hbest
    obtain ⟨object, -, -, hfound⟩ := (wc.mem_touching hand state).mp hbest
    simp only [reduceCtorEq, iff_false]
    rw [← hfound]
    exact Option.some_ne_none object

end WorkCell

/-! ## The lift -/

namespace Call
variable {ι R G V S : Type} [Field R] [LinearOrder R] [Group G] [AddCommGroup V] [Module R V]
  [DistribMulAction G V] (wc : WorkCell R G V S) (grader : Grader R G V) (input : StepInput R S)

/-- The slippage, if there is a first body and the contacts have an average. -/
def slippageChecked (object : String) (gobj : GraspedObject R V) (c : Call ι R G V S) :
    Option R :=
  match gobj.bodies.head? with
  | none => none
  | some gripperBody =>
    if gobj.contacts.length = 0 then none
    else some (c.slippage wc input object gripperBody gobj.contacts)

/-- The judgement of a lift, given up where it would read past the end of a list or divide by
zero. -/
def judgeLiftChecked (c : Call ι R G V S) : Option (Call ι R G V S) :=
  let gobj := wc.getObjectContacts c.sim.hand c.sim.objects input.state
  match c.sim.hand.suctionCup, gobj.object with
  | some scup, _ =>
    if scup.isClosed input.state then
      if gobj.contacts.length = 0 then none
      else some (c.lift wc grader input (scup.contactBody input.state) .success .success 1)
    else some (c.drop wc grader input)
  | none, none => some (c.drop wc grader input)
  | none, some object =>
    (c.slippageChecked wc input object gobj).map fun slippage =>
      if 1 / 2 < liftResult slippage then
        c.lift wc grader input object .success .success (liftResult slippage)
      else c.lift wc grader input object .slipped .objectSlipped (liftResult slippage)

def stepLiftingChecked (c : Call ι R G V S) : Option (Call ι R G V S) :=
  if c.own.currentState = .lifting ∧ c.isLifted wc input = true then
    let c := { c with own := { c.own with restCount := c.own.restCount + 1 } }
    if 5 < c.own.restCount then c.judgeLiftChecked wc grader input else some c
  else some c

variable {wc input}

omit [LinearOrder R] in
theorem slippageChecked_eq {object : String} {gobj : GraspedObject R V} (c : Call ι R G V S)
    (hbodies : gobj.bodies ≠ []) (hcontacts : gobj.contacts ≠ []) :
    c.slippageChecked wc input object gobj =
      some (c.slippage wc input object (gobj.bodies.headD "") gobj.contacts) := by
  obtain ⟨body, bodies, hcons⟩ := List.exists_cons_of_ne_nil hbodies
  have hlength : ¬ gobj.contacts.length = 0 := fun h => hcontacts (List.length_eq_zero_iff.mp h)
  simp [slippageChecked, hcons, hlength]

theorem judgeLiftChecked_eq (c : Call ι R G V S) (hsuction : c.sim.hand.suctionCup = none) :
    c.judgeLiftChecked wc grader input = some (c.judgeLift wc grader input) := by
  unfold judgeLiftChecked judgeLift
  simp only [hsuction]
  cases hobject : (wc.getObjectContacts c.sim.hand c.sim.objects input.state).object with
  | none => rfl
  | some object =>
    have hbest := wc.isBest_of_object c.sim.hand input.state hobject
    simp only [c.slippageChecked_eq hbest.bodies_ne_nil hbest.contacts_ne_nil, Option.map_some]

/-- With a hand that is no suction cup, the object found is one with the most contacts, and comes
with all of these and with the bodies they are with; none is found when nothing touches the hand.
So the state `LIFTING` neither reads past the end of the bodies nor divides by zero. -/
theorem lifting_safe (wc : WorkCell R G V S) (input : StepInput R S) (c : Call ι R G V S)
    (hsuction : c.sim.hand.suctionCup = none) :
    (∀ object,
      (wc.getObjectContacts c.sim.hand c.sim.objects input.state).object = some object →
      wc.IsBest c.sim.hand input.state c.sim.objects object
        (wc.getObjectContacts c.sim.hand c.sim.objects input.state)) ∧
    ((wc.getObjectContacts c.sim.hand c.sim.objects input.state).object = none ↔
      ∀ object ∈ c.sim.objects, wc.handReadings c.sim.hand input.state object = []) ∧
    c.stepLiftingChecked wc grader input = some (c.stepLifting wc grader input) := by
  refine ⟨fun _ => wc.isBest_of_object c.sim.hand input.state,
    wc.object_eq_none_iff c.sim.hand input.state c.sim.objects, ?_⟩
  unfold stepLiftingChecked stepLifting
  split
  · simp only
    split
    · exact judgeLiftChecked_eq grader _ hsuction
    · rfl
  · rfl

end Call

/-! ## Two objects in the hand -/

namespace Sample

/-- A hand of one finger. -/
def fingerHand : Device ℚ Bool := { hand with hasFrame := fun frame _ => frame == "finger" }

/-- One object touches the table twice, the other the finger twice, the table and a body that is
not known. -/
def touchedCell : WorkCell ℚ ℤˣ ℚ Bool :=
  { cell with
    rigidBodies := ["tray", "part"]
    getContacts := fun object _ =>
      if object = "part" then [⟨1, 0, 0, 0⟩, ⟨2, 0, 0, 0⟩, ⟨3, 0, 0, 0⟩, ⟨4, 0, 0, 0⟩]
      else [⟨1, 0, 0, 0⟩, ⟨2, 0, 0, 0⟩]
    getBodies := fun object _ =>
      if object = "part" then [some "finger", none, some "table", some "finger"]
      else [some "table", some "table"] }

/-- A thread that has lifted the objects and finds the hand still for the sixth time. -/
def liftingCall : Call Bool ℚ ℤˣ ℚ Bool where
  thread := true
  sim := { world.sim with hand := fingerHand, objects := touchedCell.rigidBodies }
  own := { World.newSimState false with currentState := .lifting, restCount := 5 }

end Sample

theorem lifting_safe_part :
    (Sample.touchedCell.getObjectContacts Sample.liftingCall.sim.hand
      Sample.liftingCall.sim.objects false).object = some "part" ∧
    Sample.touchedCell.IsBest Sample.liftingCall.sim.hand false Sample.liftingCall.sim.objects
      "part" (Sample.touchedCell.getObjectContacts Sample.liftingCall.sim.hand
        Sample.liftingCall.sim.objects false) ∧
    Sample.liftingCall.stepLiftingChecked Sample.touchedCell .basic (Sample.callback 3 false) =
      some
        (Sample.liftingCall.stepLifting Sample.touchedCell .basic (Sample.callback 3 false)) := by
  have hobject : (Sample.touchedCell.getObjectContacts Sample.liftingCall.sim.hand
      Sample.liftingCall.sim.objects false).object = some "part" := by decide
  have hsafe := Call.lifting_safe .basic Sample.touchedCell (Sample.callback 3 false)
    Sample.liftingCall rfl
  exact ⟨hobject, hsafe.1 "part" hobject, hsafe.2.2⟩

end Gripperz.Simulation
