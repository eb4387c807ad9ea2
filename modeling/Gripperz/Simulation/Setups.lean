import Gripperz.Simulation.Alike

/-! # Setting up a grasp

A grasp is set up in the home state, or in what the setups that collided before it in the same
loop have left. Where a later setting overwrites an earlier one, these leave no trace, and the
setup depends on the target alone.
-/
namespace Gripperz.Simulation
open Math Grasps Library

variable {ι κ R G V S : Type} [DecidableEq ι] [DecidableEq κ] [DecidableEq G] [DecidableEq V]
  [Field R] [LinearOrder R] [Group G] [AddCommGroup V] [Module R V] [DistribMulAction G V]

/-- In a state every frame has one transform and the hand one configuration. -/
structure WorkCell.Overwrites (wc : WorkCell R G V S) (hand : Device R S) : Prop where
  same : ∀ frame t t' state,
    wc.setTransform frame t (wc.setTransform frame t' state) = wc.setTransform frame t state
  apart : ∀ frame frame' t t' state, frame ≠ frame' →
    wc.setTransform frame t (wc.setTransform frame' t' state) =
      wc.setTransform frame' t' (wc.setTransform frame t state)
  setQ : ∀ q q' state, hand.setQ q (hand.setQ q' state) = hand.setQ q state
  setQ_setTransform : ∀ q frame t state,
    hand.setQ q (wc.setTransform frame t state) = wc.setTransform frame t (hand.setQ q state)

namespace WorkCell
variable {wc : WorkCell R G V S} {hand : Device R S}

/-- The objects are put to their transforms in the home state. -/
def putBack (wc : WorkCell R G V S) (home : S) (objects : List String) (state : S) : S :=
  objects.foldl (fun state object =>
    wc.setTransform object (wc.getTransform object home) state) state

omit [DecidableEq G] [DecidableEq V] [Field R] [LinearOrder R] [Group G] [AddCommGroup V]
  [Module R V] [DistribMulAction G V] in
theorem putBack_cons (home : S) (object : String) (objects : List String) (state : S) :
    wc.putBack home (object :: objects) state =
      wc.putBack home objects (wc.setTransform object (wc.getTransform object home) state) := rfl

namespace Overwrites
omit [DecidableEq G] [DecidableEq V] [Field R] [LinearOrder R] [Group G] [AddCommGroup V]
  [Module R V] [DistribMulAction G V]

theorem putBack_setQ (h : wc.Overwrites hand) (home : S) (objects : List String) (q : Q R)
    (state : S) :
    wc.putBack home objects (hand.setQ q state) = hand.setQ q (wc.putBack home objects state) := by
  induction objects generalizing state with
  | nil => rfl
  | cons object objects ih => rw [putBack_cons, putBack_cons, ← h.setQ_setTransform, ih]

/-- An object that is put back anyway may have been put back before. -/
theorem putBack_put (h : wc.Overwrites hand) (home : S) {objects : List String} {object : String}
    (hmem : object ∈ objects) (state : S) :
    wc.putBack home objects (wc.setTransform object (wc.getTransform object home) state) =
      wc.putBack home objects state := by
  induction objects generalizing state with
  | nil => cases hmem
  | cons first objects ih =>
    rw [putBack_cons, putBack_cons]
    by_cases hsame : object = first
    · rw [hsame, h.same]
    · rw [h.apart _ _ _ _ _ (Ne.symm hsame)]
      exact ih ((List.mem_cons.mp hmem).resolve_left hsame) _

theorem putBack_putBack (h : wc.Overwrites hand) (home : S) {objects some : List String}
    (hsub : ∀ object ∈ some, object ∈ objects) (state : S) :
    wc.putBack home objects (wc.putBack home some state) = wc.putBack home objects state := by
  induction some generalizing state with
  | nil => rfl
  | cons object some ih =>
    rw [putBack_cons, ih fun o ho => hsub o (List.mem_cons_of_mem _ ho),
      h.putBack_put home (hsub object List.mem_cons_self)]

/-- A frame that is set afterwards may have been set before. -/
theorem set_putBack (h : wc.Overwrites hand) (home : S) (objects : List String) (frame : String)
    (t t' : Transform3D G V) (state : S) :
    wc.setTransform frame t (wc.putBack home objects (wc.setTransform frame t' state)) =
      wc.setTransform frame t (wc.putBack home objects state) := by
  induction objects generalizing state with
  | nil => exact h.same frame t t' state
  | cons object objects ih =>
    rw [putBack_cons, putBack_cons]
    by_cases hsame : object = frame
    · rw [hsame, h.same]
    · rw [h.apart _ _ _ _ _ hsame, ih]

end Overwrites
end WorkCell

namespace Call
variable {wc : WorkCell R G V S}

/-- Setups from these states come out the same. -/
def SetsUpAlike (wc : WorkCell R G V S) (hand : Device R S) (mbase : String)
    (objects : List String) (home state state' : S) : Prop :=
  ∀ base q, hand.setQ q (wc.setTransform mbase base (wc.putBack home objects state')) =
    hand.setQ q (wc.setTransform mbase base (wc.putBack home objects state))

omit [DecidableEq ι] [DecidableEq G] [DecidableEq V] [Field R] [LinearOrder R] [Module R V] in
theorem setupState_eq (c : Call ι R G V S) (nstate : S) :
    c.setupState wc nstate = c.sim.hand.setQ c.own.openQ (wc.setTransform c.sim.mbase
      ((wc.worldTframe (wc.parent c.sim.mbase c.own.homeState) c.own.homeState)⁻¹ *
        c.own.wTmbase_initTarget)
      (wc.putBack c.own.homeState c.sim.objects nstate)) := rfl

omit [DecidableEq ι] [DecidableEq G] [DecidableEq V] [Field R] [LinearOrder R] [Module R V] in
/-- After a setup the next one comes out as from the state before. -/
theorem SetsUpAlike.setupState (c : Call ι R G V S) (overwrites : wc.Overwrites c.sim.hand)
    {state state' : S}
    (h : SetsUpAlike wc c.sim.hand c.sim.mbase c.sim.objects c.own.homeState state state') :
    SetsUpAlike wc c.sim.hand c.sim.mbase c.sim.objects c.own.homeState state
      (c.setupState wc state') := by
  intro base q
  rw [setupState_eq, overwrites.putBack_setQ, ← overwrites.setQ_setTransform, overwrites.setQ,
    overwrites.set_putBack, overwrites.putBack_putBack _ fun _ => id]
  exact h base q

end Call
end Gripperz.Simulation
