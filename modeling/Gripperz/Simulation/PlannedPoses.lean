import Gripperz.Grasps.PlannedGrasps
import Gripperz.Simulation.Poses

/-! # Where the gripper goes

The planner tests a pose of the tool in the world; the simulator computes poses of the base,
from a subtask's offset and the tool as it is attached. In a work cell that moves frames as
they should be moved both are about the same pose.
-/
namespace Gripperz.Simulation
open Math Grasps BasicParallelGripperGraspPlanner

variable {ι R G V S : Type} [Field R] [LinearOrder R] [Group G] [AddCommGroup V] [Module R V]
  [DistribMulAction G V]

/-! ## Frames -/

/-- Poses of frames, relative to the world and to each other. -/
structure WorkCell.Kinematic (wc : WorkCell R G V S) : Prop where
  world : ∀ state, wc.worldTframe "WORLD" state = 1
  frameTframe : ∀ frame frame' state, wc.frameTframe frame frame' state =
    (wc.worldTframe frame state)⁻¹ * wc.worldTframe frame' state

/-- A frame that is placed in its parent. -/
def WorkCell.Movable (wc : WorkCell R G V S) (frame : String) : Prop :=
  ∀ pose state, wc.worldTframe frame (wc.setTransform frame pose state) =
    wc.worldTframe (wc.parent frame state) state * pose

/-- The tool is rigidly attached to the base. -/
def WorkCell.Carries (wc : WorkCell R G V S) (base tcp : String) : Prop :=
  ∃ baseTtcp, ∀ state, wc.worldTframe tcp state = wc.worldTframe base state * baseTtcp

section
variable {wc : WorkCell R G V S} {base tcp : String}

omit [Field R] [LinearOrder R] [Module R V] in
theorem worldTframe_moveTo (hbase : wc.Movable base) (pose : Transform3D G V) (state : S) :
    wc.worldTframe base (moveTo wc base pose state) = pose := by
  rw [moveTo, hbase, mul_inv_cancel_left]

omit [Field R] [LinearOrder R] [Module R V] in
/-- Moving the base brings the tool to the pose asked for. -/
theorem worldTframe_moveFrameW (hwc : wc.Kinematic) (hbase : wc.Movable base)
    (hcarries : wc.Carries base tcp) (wTtcp : Transform3D G V) (state : S) :
    wc.worldTframe tcp (moveFrameW wc wTtcp tcp base state) = wTtcp := by
  obtain ⟨baseTtcp, hrigid⟩ := hcarries
  have hmoved : wc.worldTframe base (moveFrameW wc wTtcp tcp base state) =
      wTtcp * wc.frameTframe tcp base state := worldTframe_moveTo hbase _ state
  rw [hrigid, hmoved, hwc.frameTframe, hrigid state]
  simp [mul_assoc]

end

/-! ## Targets and trials -/

section
variable {wc : WorkCell R G V S} {spatial : Spatial R G V}
  {planner : BasicParallelGripperGraspPlanner R G V S} {kept : List (Trial R G V S)}
  {plan : Planning R G V S}

omit [LinearOrder R] in
/-- A planned target is that of a trial, which also tells its subtask and its status. -/
theorem trial_of_owns (h : planner.Accounts wc spatial kept plan) {subtask : SubTaskPtr R G V}
    {p : TargetPtr G V} (howns : Owns plan.grasps subtask p) :
    ∃ t, kept[p.target.result]? = some t ∧ p.target.pose = t.sample.transform ∧
      subtask.subTask = planner.subTaskOf wc spatial (t, p.target.result) ∧
      (heap plan p.target.result).testStatus = verdict t := by
  have hloaded := howns.loaded
  have htarget := howns.target
  rw [h.grasps] at hloaded
  cases haddress : subtask.address with
  | zero =>
    have hsetup : subtask.subTask.targets = [] := by
      rw [haddress] at hloaded
      exact (congrArg GraspSubTask.targets (Option.some.inj hloaded)).symm
    rw [hsetup] at htarget
    simp at htarget
  | succ i =>
    have hat : (kept.zipIdx.map (planner.subTaskOf wc spatial))[i]? = some subtask.subTask := by
      rw [haddress] at hloaded
      exact hloaded
    rw [List.getElem?_map, List.getElem?_zipIdx] at hat
    cases hkept : kept[i]? with
    | none => simp [hkept] at hat
    | some t =>
      have hsubtask : subtask.subTask = planner.subTaskOf wc spatial (t, i) := by
        simpa [hkept] using hat.symm
      have htargets : subtask.subTask.targets = [⟨t.sample.transform, i⟩] := by
        rw [hsubtask, targets_subTaskOf]
      have hp : p.target = ⟨t.sample.transform, i⟩ := by
        rw [htargets] at htarget
        exact List.mem_singleton.mp (List.mem_of_getElem? htarget)
      rw [hp]
      refine ⟨t, hkept, rfl, hsubtask, ?_⟩
      simp [heap, h.results, hkept, testStatus_resultOf]

end

/-- A target that the planner has recorded as free of collision. -/
structure PlannedFree (plan : Planning R G V S) (p : TargetPtr G V) : Prop where
  target : p ∈ targetPtrs plan.grasps
  free : (heap plan p.target.result).testStatus = .unInitialized

/-- The poses of a thread for a target of a subtask agree with what has been tested. -/
structure Agrees (wc : WorkCell R G V S) (mbase tcp : String) (subtask : GraspSubTask R G V)
    (tested : S) (own : SimState R G V S) : Prop where
  approach : ∀ state, wc.worldTframe mbase state = own.wTmbase_approachTarget →
    wc.worldTframe tcp state = wc.worldTframe tcp tested
  start : own.wTtcp_initTarget = wc.worldTframe tcp tested * subtask.approach⁻¹
  init : ∀ state, wc.worldTframe mbase state = own.wTmbase_initTarget →
    wc.worldTframe tcp state = own.wTtcp_initTarget
  retract : own.wTmbase_retractTarget =
    ⟨own.wTmbase_approachTarget.R, own.wTmbase_approachTarget.P + subtask.retract.P⟩

/-- What was tested free of collision is where the simulator's poses lead. -/
def Reached (wc : WorkCell R G V S) (planner : BasicParallelGripperGraspPlanner R G V S)
    (plan : Planning R G V S) (mbase : String) (p : TargetPtr G V) (own : SimState R G V S) :
    Prop :=
  ∃ t subtask, plan.log[p.target.result]? = some t ∧ planner.inCollision t.state = false ∧
    Owns plan.grasps subtask p ∧
    Agrees wc mbase planner.td.gripperTCP subtask.subTask t.state own

section
variable {wc : WorkCell R G V S} {spatial : Spatial R G V}
  {planner : BasicParallelGripperGraspPlanner R G V S} {plan : Planning R G V S}
  {mbase tcp : String}

omit [Field R] [LinearOrder R] [Module R V] in
theorem frameTframe_of_carries (hwc : wc.Kinematic) {baseTtcp : Transform3D G V}
    (hrigid : ∀ state, wc.worldTframe tcp state = wc.worldTframe mbase state * baseTtcp)
    (state : S) : wc.frameTframe mbase tcp state = baseTtcp := by
  rw [hwc.frameTframe, hrigid state, inv_mul_cancel_left]

omit [LinearOrder R] in
/-- Poses computed from the offset of the object agree with a test at the same pose. -/
theorem agrees_of_posed (hwc : wc.Kinematic) (hattached : wc.Carries mbase tcp)
    {target : Transform3D G V} {result : ResultPtr} {own : SimState R G V S} {tested : S}
    (htested : wc.worldTframe tcp tested = planner.wTobj wc * target)
    (hposed : PosedFor wc mbase tcp (planner.freeSubTask wc spatial target result)
      ⟨target, result⟩ own) :
    Agrees wc mbase tcp (planner.freeSubTask wc spatial target result) tested own := by
  set subtask := planner.freeSubTask wc spatial target result
  obtain ⟨baseTtcp, hrigid⟩ := hattached
  have hbase := frameTframe_of_carries hwc hrigid own.homeState
  have hstart : own.wTtcp_initTarget = wc.worldTframe tcp tested * subtask.approach⁻¹ := by
    rw [hposed.start, htested]
    have hworld : wc.worldTframe subtask.refFrame own.homeState = 1 := hwc.world own.homeState
    rw [hworld, one_mul]
    rfl
  constructor
  · intro state hstate
    calc wc.worldTframe tcp state = own.wTmbase_approachTarget * baseTtcp := by
          rw [hrigid, hstate]
      _ = own.wTtcp_initTarget * subtask.approach := by
          rw [hposed.approach, hbase, inv_mul_cancel_right]
      _ = wc.worldTframe tcp tested := by rw [hstart, inv_mul_cancel_right]
  · exact hstart
  · intro state hstate
    rw [hrigid, hstate, hposed.init, hbase, inv_mul_cancel_right]
  · exact hposed.retract

omit [LinearOrder R] in
/-- The poses for a target that was planned free of collision lead where it was tested. -/
theorem reached_of_posed {n fuel : ℕ} (hplan : planner.planGrasps wc spatial n fuel = some plan)
    (hwc : wc.Kinematic) (hmovable : wc.Movable planner.td.gripperMovable)
    (hcarries : wc.Carries planner.td.gripperMovable planner.td.gripperTCP)
    (hattached : wc.Carries mbase planner.td.gripperTCP) {p : TargetPtr G V}
    (hfree : PlannedFree plan p) {own : SimState R G V S} {subtask : SubTaskPtr R G V}
    (howns : Owns plan.grasps subtask p)
    (hposed : PosedFor wc mbase planner.td.gripperTCP subtask.subTask p.target own) :
    Reached wc planner plan mbase p own := by
  obtain ⟨kept, haccounts, ⟨rest, hrest⟩⟩ := planner.accounts_planGrasps wc spatial hplan
  obtain ⟨t, hkept, hpose, hsubtask, hstatus⟩ := trial_of_owns haccounts howns
  have hlog : plan.log[p.target.result]? = some t := by
    rw [← hrest, List.getElem?_append_left (List.getElem?_eq_some_iff.mp hkept).1]
    exact hkept
  have hnot : t.collided = false := by
    have hverdict := hstatus.symm.trans hfree.free
    cases hcol : t.collided with
    | false => rfl
    | true => simp [verdict, hcol] at hverdict
  obtain ⟨htest, state, hstate⟩ := haccounts.tested t (List.mem_of_getElem? hlog)
  have htcp : wc.worldTframe planner.td.gripperTCP t.state = planner.wTobj wc * p.target.pose := by
    rw [hstate, worldTframe_moveFrameW hwc hmovable hcarries, hpose]
  have hsub : subtask.subTask =
      planner.freeSubTask wc spatial p.target.pose p.target.result := by
    rw [hsubtask, hpose]
    simp [subTaskOf, hnot]
  refine ⟨t, subtask, hlog, htest ▸ hnot, howns, ?_⟩
  rw [hsub] at hposed ⊢
  exact agrees_of_posed hwc hattached htcp hposed

end

/-- For every target planned free of collision, and every run of any number of threads, the
poses that are set when the target is taken lead where the planner has tested it, and so do
those of the thread that is at work on it. -/
theorem planned_poses_reached [DecidableEq ι] (wc : WorkCell R G V S) (spatial : Spatial R G V)
    (planner : BasicParallelGripperGraspPlanner R G V S) (grader : Grader R G V) {n fuel : ℕ}
    {plan : Planning R G V S} (hplan : planner.planGrasps wc spatial n fuel = some plan)
    (hwc : wc.Kinematic) (hmovable : wc.Movable planner.td.gripperMovable)
    (hcarries : wc.Carries planner.td.gripperMovable planner.td.gripperTCP)
    {dhand : Device R S} (hdevice : wc.findDevice planner.td.gripperID = some dhand)
    {mbase : String} (hbase : dhand.movableFrame = some mbase)
    (hattached : wc.Carries mbase planner.td.gripperTCP) (below : Transform3D G V)
    (initState : S) {w₀ w : World ι R G V S}
    (run : World.Run wc grader (fun _ _ => True) (w₀.launch wc plan.grasps below initState) w) :
    (∀ t input round p c, (w.call t).Round wc grader input round →
      round.1.getNextTarget = (some p, c) → PlannedFree plan p →
      Reached wc planner plan mbase p (c.setPoses wc p).own) ∧
    ∀ t p, (w.threads t).currentState ≠ .newGrasp → (w.threads t).target = some p →
      PlannedFree plan p → Reached wc planner plan mbase p (w.threads t) := by
  obtain ⟨kept, haccounts, -⟩ := planner.accounts_planGrasps wc spatial hplan
  have hID : plan.grasps.gripperID = planner.td.gripperID := by
    rw [haccounts.grasps]
    rfl
  have htcp : plan.grasps.tcpID = planner.td.gripperTCP := by
    rw [haccounts.grasps]
    rfl
  have hposed : Posed wc plan.grasps mbase planner.td.gripperTCP w := by
    have hlaunch := posed_launch (hID ▸ hdevice) hbase below initState w₀
    rw [htcp] at hlaunch
    exact posed_run run hlaunch
  constructor
  · intro t input round p c hround hnext hfree
    obtain ⟨subtask, howns, hp⟩ := hposed.toPoised.round hround hnext
    exact reached_of_posed hplan hwc hmovable hcarries hattached hfree howns hp
  · intro t p hbusy htarget hfree
    have hne : plan.grasps.targets ≠ [] := by
      intro hempty
      have hmem := hfree.target
      rw [targetPtrs, taskEntries_eq_nil hempty] at hmem
      cases hmem
    obtain ⟨subtask, howns, hp⟩ := hposed.busy hne t p hbusy htarget
    exact reached_of_posed hplan hwc hmovable hcarries hattached hfree howns hp

/-! ## A small plan -/

namespace Sample

/-- A work cell on a line whose state is the pose of the base. The tool is two units ahead of
it, the one object is turned around. -/
def kinematicCell : WorkCell ℚ ℤˣ ℚ (Transform3D ℤˣ ℚ) :=
  let worldTframe : String → Transform3D ℤˣ ℚ → Transform3D ℤˣ ℚ := fun frame base =>
    if frame = "base" then base
    else if frame = "tcp" then base * ⟨1, 2⟩
    else if frame = "part" then ⟨-1, 5⟩
    else 1
  { rigidBodies := ["part"]
    findDevice := fun _ => some
      { base := "base", isRigidDevice := true, movableFrame := some "base", suctionCup := none,
        getQ := fun _ => ⟨[]⟩, setQ := fun _ state => state, bounds := (⟨[0]⟩, ⟨[1]⟩),
        motorForceLimits := ⟨[]⟩, isResting := fun _ => true, hasFrame := fun _ _ => true }
    hasFrame := fun _ => true
    worldTframe := worldTframe
    frameTframe := fun frame frame' state => (worldTframe frame state)⁻¹ * worldTframe frame' state
    parent := fun _ _ => "WORLD"
    getTransform := worldTframe
    setTransform := fun frame pose base => if frame = "base" then pose else base
    inCollision := fun _ => false
    collidingFrames := fun _ => []
    getContacts := fun _ _ => []
    getBodies := fun _ _ => []
    friction := fun _ _ => 0
    graspMeasures := fun _ _ _ => (1, 1, 1)
    norm2 := fun v => |v| }

def spatial : Spatial ℚ ℤˣ ℚ where
  sin := id
  sqrt := id
  coord := fun v _ => v
  x := 1
  y := 1
  z := 1
  axis := fun _ => 1
  angle := fun _ => 0
  rpy := fun _ _ => 0
  variance := fun _ => 0

/-- A planner with one stored sample that finds everything free of collision. -/
def planner : BasicParallelGripperGraspPlanner ℚ ℤˣ ℚ (Transform3D ℤˣ ℚ) where
  td :=
    { interferenceLimit := 0, wrenchLimit := 0, stressLimit := 0, volumeLimit := 0,
      interferenceObjects := [], prefilteringDistance := ⟨[]⟩, coverageDistance := ⟨[]⟩,
      teachDistance := ⟨[]⟩, targetObject := ⟨"part", "part"⟩, targetFrame := "part",
      gripperID := "gripper", gripperDevice := ⟨"gripper", (⟨[0]⟩, ⟨[1]⟩), fun _ state => state⟩,
      gripperTCP := "tcp", gripperMovable := "base", controllerID := "controller",
      gripperDynamicDevice := "gripper", hints := [], alignmentFilteringDistance := 0 }
  state := 1
  ssamples := [⟨⟨-1, 3⟩, 1⟩]
  inCollision := fun _ => false
  sample := fun _ => ⟨1, 1⟩

def plan : Planning ℚ ℤˣ ℚ (Transform3D ℤˣ ℚ) :=
  (planner.planGrasps kinematicCell spatial 1 2).get (by decide +kernel)

/-- The one target of the plan. -/
def plannedTarget : TargetPtr ℤˣ ℚ := ⟨(1, 0), ⟨⟨-1, 3⟩, 0⟩⟩

/-- A simulator before the plan is loaded. -/
def unloaded : World Unit ℚ ℤˣ ℚ (Transform3D ℤˣ ℚ) where
  sim :=
    { requestSimulationStop := true, autoSaveInterval := 1, stat := fun _ => 0,
      counters := fun _ => 0, nrOfExperiments := 0, lastSaveTaskIndex := 0,
      totalNrOfExperiments := 0, objects := [], dhand := none,
      hand := ⟨"", true, none, none, fun _ => ⟨[]⟩, fun _ state => state, (⟨[]⟩, ⟨[]⟩), ⟨[]⟩,
        fun _ => true, fun _ _ => true⟩,
      motorForceLimits := ⟨[]⟩, mbase := "", tcp := "", initState := 1, currentTask := none,
      currentTarget := none, gtask := plan.grasps, taskQueue := [], wallTimeLimit := 60,
      simTimeLimit := 60, storeTimedStatePaths := false, forceSimulateAll := false,
      timedStatePaths := [], results := heap plan, log := [] }
  threads := fun _ => World.newSimState 1

/-- The first callback takes the target and sets the hand up for it. -/
def taken : Option (World Unit ℚ ℤˣ ℚ (Transform3D ℤˣ ℚ)) :=
  World.performAll kinematicCell .basic (fun _ _ => True) 3 [.stepCB () ⟨1, 0, 0, false⟩]
    (unloaded.launch kinematicCell plan.grasps 1 1)

end Sample

theorem planned_poses_reached_one : ∃ w, Sample.taken = some w ∧
    (w.threads ()).target = some Sample.plannedTarget ∧
    PlannedFree Sample.plan Sample.plannedTarget ∧
    Reached Sample.kinematicCell Sample.planner Sample.plan "base" Sample.plannedTarget
      (w.threads ()) := by
  have hsome : Sample.taken.isSome := by decide +kernel
  obtain ⟨w, hw⟩ := Option.isSome_iff_exists.mp hsome
  have hshown : Sample.taken.map (fun w => ((w.threads ()).target, (w.threads ()).currentState)) =
      some (some Sample.plannedTarget, .approach) := by decide +kernel
  rw [hw, Option.map_some, Option.some.injEq, Prod.mk.injEq] at hshown
  have hfree : PlannedFree Sample.plan Sample.plannedTarget := by
    constructor <;> decide +kernel
  have hcarries : Sample.kinematicCell.Carries "base" "tcp" := ⟨⟨1, 2⟩, fun _ => rfl⟩
  have hbusy : (w.threads ()).currentState ≠ .newGrasp := by
    rw [hshown.2]
    decide
  refine ⟨w, hw, hshown.1, hfree, ?_⟩
  apply (planned_poses_reached Sample.kinematicCell Sample.spatial Sample.planner .basic
    (Option.some_get _).symm ⟨fun _ => rfl, fun _ _ _ => rfl⟩ (fun pose _ => (one_mul pose).symm)
    hcarries rfl rfl hcarries 1 1 (World.run_of_performAll hw)).2 () _ hbusy hshown.1 hfree

end Gripperz.Simulation
