import Gripperz.Evaluation.IndexGripperQualityExtractor
import Gripperz.Library.Failures
import Gripperz.Math.CombineObjectives
import Gripperz.Tools.LoadedGripper

/-! # The tool that generates grippers

The tool draws parameters at random, has the gripper evaluated with them, and saves it if the
objectives combine to a positive quality. It changes the one gripper it has loaded, again and
again; a file is never written twice.
-/
namespace Gripperz.Tools
open Library Parametrizations Math Models Loaders Evaluation

variable {σ R : Type} [Field R] [LinearOrder R]

namespace GenerateGrippers

/-- What the options of the command line come to. There are limits for each parameter. -/
structure Configuration (R : Type) where
  ngrippers : ℤ
  ntries : ℤ
  name : String
  indexCalculators : List String
  weights : List R
  method : String
  parameters : List String
  limitsLow : List R
  limitsHigh : List R
  length_low : limitsLow.length = parameters.length
  length_high : limitsHigh.length = parameters.length

/-- The gripper of the tool, the files it has saved grippers to, the counters and the rest of the
world. -/
structure Session (σ R : Type) where
  gripper : LoadedGripper R
  files : String → Option (String × PTree String String)
  n : ℕ
  tries : ℕ
  world : σ

def inWorld {α : Type} (x : Action σ α) : Action (Session σ R) α :=
  x.within Session.world fun s world => { s with world := world }

variable (number : NumberText R) (powers : Powers R) (conf : Configuration R)
  (ran : R → R → Action σ R) (evaluateGripper : LoadedGripper R → Action σ (GripperQualityImpl R))

def generateParameterValues : Action σ (List R) :=
  (conf.limitsLow.zip conf.limitsHigh).mapM fun limits => ran limits.1 limits.2

/-- `setParameter` raises an exception for a parameter that does not exist. -/
def modifyParameters (parameters : List String) (values : List R) :
    Action (Session σ R) Unit := do
  let gripper := (← get).gripper
  match gripper.parametrization.setParameters (parameters.zip values) with
  | none => Action.raise "map::at"
  | some p => modify fun s => { s with gripper := gripper.setParametrization p }

/-- `evaluate_gripper`: what the manager finds, and the combined quality. -/
def evaluateQuality (method : CombineObjectives R) (gripper : LoadedGripper R) :
    Action σ (GripperQualityImpl R) := do
  let quality ← evaluateGripper gripper
  match IndexGripperQualityExtractor.extract conf.indexCalculators quality.toGripperQuality with
  | none => Action.raise "map::at"
  | some objectives =>
    let q ← Action.ofExcept (method.combine powers objectives)
    return quality.setIndex "Q" q

def filename (n : ℕ) : String := conf.name ++ "_" ++ toString n ++ ".grp.xml"

/-- `MasterGripperLoader::save`; a generator that is missing cannot be written. -/
def save (filename : String) : Action (Session σ R) Unit := do
  match MasterGripperLoader.write number (.parametrized (← get).gripper) with
  | some (trunk, .parametrized gripper) =>
    modify fun s =>
      { s with gripper := gripper, files := Function.update s.files filename (some trunk) }
  | _ => Action.crash

/-- The body of the loop. -/
def tryGripper (method : CombineObjectives R) : Action (Session σ R) Unit := do
  let values ← inWorld (generateParameterValues conf ran)
  modifyParameters conf.parameters values
  let quality ← inWorld (evaluateQuality powers conf evaluateGripper method (← get).gripper)
  modify fun s => { s with gripper := s.gripper.setQuality quality }
  match quality.getIndex "Q" with
  | none => Action.raise "map::at"
  | some q =>
    if 0 < q then
      save number (filename conf (← get).n)
      modify fun s => { s with n := s.n + 1 }
    modify fun s => { s with tries := s.tries + 1 }

def again (s : Session σ R) : Bool := s.n < conf.ngrippers ∧ s.tries < conf.ntries

/-- `main` with a gripper that has been loaded. -/
def main (fuel : ℕ) : Action (Session σ R) Bool := do
  let method ← Action.ofExcept (CombineObjectivesFactory.make conf.method conf.weights)
  Action.doWhile (tryGripper number powers conf ran evaluateGripper method) (again conf) fuel

/-! ## One try -/

/-- Between the limits, where the first is not above the second. -/
def Between (low high value : R) : Prop := low ≤ high → low ≤ value ∧ value ≤ high

/-- The values of a try, the parametrization with these, the quality that is found and what its
objectives combine to. -/
structure Trial (R : Type) where
  values : List R
  parametrization : Parametrization R
  quality : GripperQualityImpl R
  q : R

/-- The gripper of a try. -/
def Trial.gripper (base : LoadedGripper R) (trial : Trial R) : LoadedGripper R :=
  (base.setParametrization trial.parametrization).setQuality trial.quality

/-- The try has been made: values were drawn, set in the gripper that was loaded, and the gripper
was evaluated with these. -/
structure Tried (method : CombineObjectives R) (base : LoadedGripper R) (trial : Trial R) :
    Prop where
  drawn : List.Forall₂ (fun limits value => Between limits.1 limits.2 value)
    (conf.limitsLow.zip conf.limitsHigh) trial.values
  set : base.parametrization.setParameters (conf.parameters.zip trial.values) =
    some trial.parametrization
  found : ∃ previous world quality world' objectives,
    evaluateGripper ((base.setParametrization trial.parametrization).setQuality previous) world =
      .ok quality world' ∧
    IndexGripperQualityExtractor.extract conf.indexCalculators quality.toGripperQuality =
      some objectives ∧
    method.combine powers objectives = .ok trial.q ∧
    trial.quality = quality.setIndex "Q" trial.q

/-- The tries whose grippers are saved. -/
def positive (trials : List (Trial R)) : List (Trial R) := trials.filter fun trial => 0 < trial.q

/-- After some tries the files with the first numbers have the grippers of positive quality, in
order, and the others are as they were. -/
structure Generated (method : CombineObjectives R) (s₀ : Session σ R) (trials : List (Trial R))
    (s : Session σ R) : Prop where
  tried : ∀ trial ∈ trials, Tried powers conf evaluateGripper method s₀.gripper trial
  tries : s.tries = trials.length
  n : s.n = (positive trials).length
  saved : ∀ k trial, (positive trials)[k]? = some trial →
    ∃ trunk object, s.files (filename conf k) = some trunk ∧
      MasterGripperLoader.read number trunk.2 = some object ∧
      SameGripper (.parametrized (trial.gripper s₀.gripper)) object
  others : ∀ name, (∀ k < s.n, name ≠ filename conf k) → s.files name = s₀.files name

/-- The gripper is the loaded one with other values of the parameters that are drawn, and another
quality. -/
def Modified (base gripper : LoadedGripper R) : Prop :=
  ∃ p quality, gripper = (base.setParametrization p).setQuality quality ∧
    ∀ values : List R, values.length = conf.parameters.length →
      p.setParameters (conf.parameters.zip values) =
        base.parametrization.setParameters (conf.parameters.zip values)

variable {number powers conf ran evaluateGripper} {method : CombineObjectives R}
  {s₀ s : Session σ R} {trials : List (Trial R)}

theorem Generated.of_eq {s' : Session σ R}
    (h : Generated number powers conf evaluateGripper method s₀ trials s)
    (hfiles : s'.files = s.files) (hn : s'.n = s.n) (htries : s'.tries = s.tries) :
    Generated number powers conf evaluateGripper method s₀ trials s' where
  tried := h.tried
  tries := htries.trans h.tries
  n := hn.trans h.n
  saved := hfiles ▸ h.saved
  others := hfiles ▸ hn ▸ h.others

omit [Field R] in
/-- Numbers drawn between limits. -/
theorem ends_mapM_ran
    (hran : ∀ low high world, (ran low high).Ends (fun value _ => Between low high value)
      (fun _ _ => True) world) (limits : List (R × R)) (world : σ) :
    Action.Ends (fun values _ => List.Forall₂ (fun limits value => Between limits.1 limits.2 value)
      limits values) (fun _ _ => True) (limits.mapM fun limits => ran limits.1 limits.2) world := by
  induction limits generalizing world with
  | nil => exact .nil
  | cons limit limits ih =>
    rw [List.mapM_cons, Action.ends_bind]
    refine (hran limit.1 limit.2 world).imp ?_ fun _ _ => id
    intro value world' hvalue
    rw [Action.ends_bind]
    refine (ih world').imp ?_ fun _ _ => id
    intro values world'' hvalues
    exact .cons hvalue hvalues

omit [Field R] [LinearOrder R] in
theorem ends_save {name : String} (hwritable : LoadedGripper.Writable s.gripper) :
    (save number name).Ends
      (fun _ s' => ∃ trunk object,
        s' = { s with files := Function.update s.files name (some trunk) } ∧
        MasterGripperLoader.read number trunk.2 = some object ∧
        SameGripper (.parametrized s.gripper) object) (fun _ _ => False) s := by
  obtain ⟨trunk, object, hwrite, hread, hsame⟩ := hwritable.write number
  simp only [save, Action.ends_bind, Action.ends_get, hwrite, Action.ends_modify]
  exact ⟨trunk, object, rfl, hread, hsame⟩

omit [Field R] [LinearOrder R] in
theorem ends_modifyParameters {parameters : List String} {values : List R} :
    (modifyParameters parameters values).Ends
      (fun _ s' => ∃ p, s.gripper.parametrization.setParameters (parameters.zip values) = some p ∧
        s' = { s with gripper := s.gripper.setParametrization p }) (fun _ s' => s' = s) s := by
  simp only [modifyParameters, Action.ends_bind, Action.ends_get]
  cases hset : s.gripper.parametrization.setParameters (parameters.zip values) with
  | none => simp
  | some p => exact ⟨p, rfl, rfl⟩

omit [LinearOrder R] in
theorem ends_evaluateQuality {gripper : LoadedGripper R} {world : σ} :
    (evaluateQuality powers conf evaluateGripper method gripper).Ends
      (fun quality _ => ∃ found world' objectives q,
        evaluateGripper gripper world = .ok found world' ∧
        IndexGripperQualityExtractor.extract conf.indexCalculators found.toGripperQuality =
          some objectives ∧
        method.combine powers objectives = .ok q ∧ quality = found.setIndex "Q" q)
      (fun _ _ => True) world := by
  rw [evaluateQuality, Action.ends_bind, Action.ends_iff]
  refine ⟨?_, fun _ _ _ => trivial⟩
  intro found world' hfound
  cases hextract : IndexGripperQualityExtractor.extract conf.indexCalculators
      found.toGripperQuality with
  | none => trivial
  | some objectives =>
    simp only [Action.ends_bind, Action.ends_ofExcept]
    cases hcombine : method.combine powers objectives with
    | error message => trivial
    | ok q => exact ⟨found, world', objectives, q, hfound, hextract, hcombine, rfl⟩

/-- A try that is not saved leaves the files alone. -/
theorem Generated.skip {s' : Session σ R} {trial : Trial R}
    (h : Generated number powers conf evaluateGripper method s₀ trials s)
    (htried : Tried powers conf evaluateGripper method s₀.gripper trial) (hq : ¬ 0 < trial.q)
    (hfiles : s'.files = s.files) (hn : s'.n = s.n) (htries : s'.tries = s.tries + 1) :
    Generated number powers conf evaluateGripper method s₀ (trials ++ [trial]) s' := by
  have hpositive : positive (trials ++ [trial]) = positive trials := by simp [positive, hq]
  refine ⟨?_, ?_, ?_, ?_, ?_⟩
  · exact List.forall_mem_append.mpr ⟨h.tried, by simpa using htried⟩
  · rw [htries, h.tries, List.length_append, List.length_singleton]
  · rw [hn, h.n, hpositive]
  · rw [hpositive, hfiles]
    exact h.saved
  · rw [hfiles, hn]
    exact h.others

/-- A try that is saved adds the next file. -/
theorem Generated.save {s' : Session σ R} {trial : Trial R}
    (h : Generated number powers conf evaluateGripper method s₀ trials s)
    (htried : Tried powers conf evaluateGripper method s₀.gripper trial) (hq : 0 < trial.q)
    {trunk : String × PTree String String} {object : FileGripper R}
    (hread : MasterGripperLoader.read number trunk.2 = some object)
    (hsame : SameGripper (.parametrized (trial.gripper s₀.gripper)) object)
    (hfiles : s'.files = Function.update s.files (filename conf s.n) (some trunk))
    (hn : s'.n = s.n + 1) (htries : s'.tries = s.tries + 1) :
    Generated number powers conf evaluateGripper method s₀ (trials ++ [trial]) s' := by
  have hpositive : positive (trials ++ [trial]) = positive trials ++ [trial] := by
    simp [positive, hq]
  refine ⟨?_, ?_, ?_, ?_, ?_⟩
  · exact List.forall_mem_append.mpr ⟨h.tried, by simpa using htried⟩
  · rw [htries, h.tries, List.length_append, List.length_singleton]
  · rw [hn, h.n, hpositive, List.length_append, List.length_singleton]
  · intro k trial' hk
    rw [hpositive] at hk
    by_cases hlast : k = s.n
    · subst hlast
      rw [h.n, List.getElem?_concat_length] at hk
      obtain rfl := Option.some.inj hk
      exact ⟨trunk, object, by rw [hfiles, Function.update_self], hread, hsame⟩
    · have hlt : k < (positive trials).length := by
        have hle := List.getElem?_eq_some_iff.mp hk |>.1
        rw [List.length_append, List.length_singleton, ← h.n] at hle
        rw [← h.n]
        omega
      rw [List.getElem?_append_left hlt] at hk
      have hne : filename conf k ≠ filename conf s.n :=
        fun heq => hlast (append_toString_injective heq)
      rw [hfiles, Function.update_of_ne hne]
      exact h.saved k trial' hk
  · intro name hname
    rw [hfiles, Function.update_of_ne (hname s.n (hn ▸ Nat.lt_succ_self _))]
    exact h.others name fun k hk => hname k (hn ▸ Nat.lt_succ_of_lt hk)

theorem ends_tryGripper
    (hran : ∀ low high world, (ran low high).Ends (fun value _ => Between low high value)
      (fun _ _ => True) world)
    (hwritable : LoadedGripper.Writable s₀.gripper) (hmodified : Modified conf s₀.gripper s.gripper)
    (h : Generated number powers conf evaluateGripper method s₀ trials s) :
    (tryGripper number powers conf ran evaluateGripper method).Ends
      (fun _ s' => Modified conf s₀.gripper s'.gripper ∧ s'.tries = s.tries + 1 ∧
        s'.n ≤ s.n + 1 ∧ ∃ trial,
          Generated number powers conf evaluateGripper method s₀ (trials ++ [trial]) s')
      (fun _ s' => Generated number powers conf evaluateGripper method s₀ trials s') s := by
  obtain ⟨p₀, previous, hgripper, hresets⟩ := hmodified
  rw [tryGripper, Action.ends_bind, inWorld, Action.ends_within]
  refine (ends_mapM_ran hran _ s.world).imp ?_ fun _ world _ => h.of_eq rfl rfl rfl
  intro values world hdrawn
  have hlength : values.length = conf.parameters.length := by
    rw [← hdrawn.length_eq, List.length_zip, conf.length_low, conf.length_high, Nat.min_self]
  rw [Action.ends_bind]
  refine ends_modifyParameters.imp ?_ ?_
  · intro _ s₁ hs₁
    obtain ⟨p, hset, rfl⟩ := hs₁
    have hbase :
        s₀.gripper.parametrization.setParameters (conf.parameters.zip values) = some p := by
      rw [← hresets values hlength, ← hset, hgripper]
      simp
    have hmade : s.gripper.setParametrization p =
        (s₀.gripper.setParametrization p).setQuality previous := by
      rw [hgripper]
      simp
    simp only [Action.ends_bind, Action.ends_get, inWorld, Action.ends_within]
    refine ends_evaluateQuality.imp ?_ fun _ _ _ => h.of_eq rfl rfl rfl
    intro quality world' hquality
    obtain ⟨found, world'', objectives, q, hfound, hextract, hcombine, rfl⟩ := hquality
    set quality := found.setIndex "Q" q
    have hq : quality.getIndex "Q" = some q :=
      GripperQuality.getIndex_setIndex_self found.toGripperQuality "Q" q
    have htried : Tried powers conf evaluateGripper method s₀.gripper ⟨values, p, quality, q⟩ :=
      ⟨hdrawn, hbase, previous, world, found, world'', objectives, hmade ▸ hfound, hextract,
        hcombine, rfl⟩
    have htrial : (s.gripper.setParametrization p).setQuality quality =
        (s₀.gripper.setParametrization p).setQuality quality := by
      rw [hmade, ParametrizedGripper.setQuality_setQuality]
    have hagain : Modified conf s₀.gripper ((s.gripper.setParametrization p).setQuality quality) :=
      ⟨p, quality, htrial, fun values' hlength' =>
        Parametrization.setParameters_again hlength hlength' hbase⟩
    simp only [Action.ends_modify, hq]
    split
    · rename_i hpositive
      simp only [Action.ends_bind, Action.ends_get, Action.ends_modify]
      refine (ends_save ?_).imp ?_ fun _ _ => False.elim
      · exact hmade ▸ ((hwritable.setParametrization p).setQuality previous).setQuality quality
      · rintro _ _ ⟨trunk, object, rfl, hread, hsame⟩
        have hsaved : SameGripper (.parametrized
            (Trial.gripper s₀.gripper ⟨values, p, quality, q⟩)) object := by
          rw [Trial.gripper, ← htrial]
          exact hsame
        exact ⟨hagain, rfl, Nat.le_refl _, _,
          h.save htried hpositive hread hsaved rfl rfl rfl⟩
    · rename_i hpositive
      exact ⟨hagain, rfl, Nat.le_succ _, _, h.skip htried hpositive rfl rfl rfl⟩
  · rintro _ _ rfl
    exact h.of_eq rfl rfl rfl

/-! ## The whole run -/

/-- A run makes tries until there are grippers enough or tries enough, and at least one. Its files
have the grippers of positive quality, in order and with consecutive numbers. Each is the gripper
that was loaded in all but its quality and the parameters that are drawn; these are within their
limits, and nothing of the tries before is left in it. So it is with the files when the run is cut
off by an exception. -/
theorem main_generates (number : NumberText R) (powers : Powers R) (conf : Configuration R)
    {ran : R → R → Action σ R} (evaluateGripper : LoadedGripper R → Action σ (GripperQualityImpl R))
    {method : CombineObjectives R}
    (hmethod : CombineObjectivesFactory.make conf.method conf.weights = .ok method)
    (hran : ∀ low high world, (ran low high).Ends (fun value _ => Between low high value)
      (fun _ _ => True) world)
    {gripper : LoadedGripper R} (hwritable : LoadedGripper.Writable gripper)
    (files : String → Option (String × PTree String String)) (world : σ) {fuel : ℕ}
    (hfuel : conf.ntries.toNat < fuel) :
    let s₀ : Session σ R := ⟨gripper, files, 0, 0, world⟩
    (main number powers conf ran evaluateGripper fuel).Ends
      (fun ended s => ended = true ∧
        (∃ trials, Generated number powers conf evaluateGripper method s₀ trials s) ∧
        (conf.ngrippers ≤ s.n ∨ conf.ntries ≤ s.tries) ∧
        (s.n : ℤ) ≤ max 1 conf.ngrippers ∧ 0 < s.tries ∧ (s.tries : ℤ) ≤ max 1 conf.ntries)
      (fun _ s => ∃ trials, Generated number powers conf evaluateGripper method s₀ trials s)
      s₀ := by
  intro s₀
  simp only [main, Action.ends_bind, Action.ends_ofExcept, hmethod]
  let Inv (s : Session σ R) : Prop := Modified conf gripper s.gripper ∧
    (∃ trials, Generated number powers conf evaluateGripper method s₀ trials s) ∧
    (again conf s = true ∨ s.n = 0 ∧ s.tries = 0)
  have hstart : Inv s₀ := by
    refine ⟨⟨gripper.parametrization, gripper.data.quality, ?_, fun _ _ => rfl⟩, ⟨[], ?_⟩,
      Or.inr ⟨rfl, rfl⟩⟩
    · simp [s₀]
    · exact ⟨by simp, rfl, rfl, by simp [positive], fun _ _ => rfl⟩
  refine Action.ends_doWhile Inv (fun s => (conf.ntries - s.tries).toNat) ?_ hstart ?_
  · rintro s ⟨hmodified, ⟨trials, h⟩, hhead⟩
    refine (ends_tryGripper hran hwritable hmodified h).imp ?_ fun _ s' h' => ⟨trials, h'⟩
    rintro _ s' ⟨hmodified', htries, hn, trial, h'⟩
    have hbounds :
        (s.n : ℤ) + 1 ≤ max 1 conf.ngrippers ∧ (s.tries : ℤ) + 1 ≤ max 1 conf.ntries := by
      rcases hhead with hagain | ⟨hn₀, htries₀⟩
      · simp only [again, decide_eq_true_eq] at hagain
        omega
      · omega
    split
    · rename_i hagain
      refine ⟨⟨hmodified', ⟨_, h'⟩, Or.inl hagain⟩, ?_⟩
      simp only [again, decide_eq_true_eq] at hagain
      omega
    · rename_i hagain
      simp only [again, decide_eq_true_eq] at hagain
      refine ⟨⟨_, h'⟩, ?_, ?_, ?_, ?_⟩
      all_goals omega
  · simpa [s₀] using hfuel

namespace Sample

/-- One gripper is wanted, and two may be tried. -/
def configuration : Configuration ℚ where
  ngrippers := 1
  ntries := 2
  name := "gripper"
  indexCalculators := ["success"]
  weights := [1]
  method := "sum"
  parameters := ["stroke"]
  limitsLow := [2]
  limitsHigh := [5]
  length_low := rfl
  length_high := rfl

def loaded : LoadedGripper ℚ := .basicParametrizedGripper
  { name := "gripper", deviceId := "", dynamicDeviceId := "", TCPFrameId := "", movableFrameId := ""
    graspControllerId := "", leftFingerId := "", rightFingerId := "", quality := .make
    parametrization := .ofNames ["tcpoffset", "stroke", "jawdist", "force"] }

/-- The first gripper does not succeed, and the others do. -/
def manager (_ : LoadedGripper ℚ) : Action ℕ (GripperQualityImpl ℚ) := do
  let world ← get
  set (world + 1)
  return GripperQualityImpl.make.setIndex "success" world

end Sample

theorem main_generates_two :
    let number := NumberText.ofEncodable ℚ
    let powers : Powers ℚ := ⟨fun x _ => x, id⟩
    let s₀ : Session ℕ ℚ := ⟨Sample.loaded, fun _ => none, 0, 0, 0⟩
    (main number powers Sample.configuration (fun low _ => pure low) Sample.manager 3).Ends
      (fun ended s => ended = true ∧
        (∃ trials, Generated number powers Sample.configuration Sample.manager ⟨.sum, [1]⟩ s₀
          trials s) ∧
        (1 ≤ (s.n : ℤ) ∨ 2 ≤ (s.tries : ℤ)) ∧ (s.n : ℤ) ≤ max 1 1 ∧ 0 < s.tries ∧
        (s.tries : ℤ) ≤ max 1 2)
      (fun _ s => ∃ trials,
        Generated number powers Sample.configuration Sample.manager ⟨.sum, [1]⟩ s₀ trials s)
      s₀ := by
  have hran (low high : ℚ) (world : ℕ) : (pure low : Library.Action ℕ ℚ).Ends
      (fun value _ => Between low high value) (fun _ _ => True) world := fun hle => ⟨le_rfl, hle⟩
  have hwritable : LoadedGripper.Writable Sample.loaded :=
    fun hgeometry => Bool.noConfusion hgeometry
  exact main_generates (NumberText.ofEncodable ℚ) ⟨fun x _ => x, id⟩ Sample.configuration
    Sample.manager rfl hran hwritable (fun _ => none) 0 (by decide)

end GenerateGrippers
end Gripperz.Tools
