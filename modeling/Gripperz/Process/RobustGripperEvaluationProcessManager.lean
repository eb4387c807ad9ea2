import Gripperz.Library.Retry
import Gripperz.Loaders.GripperXMLLoader
import Gripperz.Math.Types
import Gripperz.Models.MapGripperBuilder

/-! # Evaluation in a subprocess

The manager passes the parameters of the gripper to a program on its command line, and reads the
quality from the file that the program saves. It runs the program again while there is no file.
-/
namespace Gripperz.Process
open Library Math Models Util Loaders

/-- The files, and what else a command changes. A document that cannot be parsed is there all the
same. -/
structure Disk (σ : Type) where
  files : String → Option (Except String (PTree String String))
  rest : σ

namespace Disk
variable {σ : Type}

/-- `boost::filesystem::exists`. -/
def «exists» (filename : String) (disk : Disk σ) : Bool := (disk.files filename).isSome

/-- The file has these contents, or is not there. -/
def setFile (filename : String) (contents : Option (Except String (PTree String String)))
    (disk : Disk σ) : Disk σ :=
  { disk with files := Function.update disk.files filename contents }

/-- `boost::filesystem::remove`. -/
def remove (filename : String) (disk : Disk σ) : Disk σ := disk.setFile filename none

theorem setFile_same {filename : String} {disk : Disk σ}
    {contents : Option (Except String (PTree String String))}
    (h : disk.files filename = contents) : disk.setFile filename contents = disk := by
  rw [setFile, ← h, Function.update_eq_self]

theorem remove_setFile (filename : String)
    (contents : Option (Except String (PTree String String))) (disk : Disk σ) :
    (disk.setFile filename contents).remove filename = disk.remove filename := by
  rw [remove, remove, setFile, setFile, setFile, Function.update_idem]

theorem files_remove (filename : String) (disk : Disk σ) :
    (disk.remove filename).files filename = none := Function.update_self _ _ _

theorem exists_eq_false {filename : String} {disk : Disk σ} :
    disk.exists filename = false ↔ disk.files filename = none := by
  rw [«exists», Option.isSome_eq_false_iff, Option.isNone_iff_eq_none]

/-- `GripperXMLLoader::load`. -/
def load {R : Type} [Field R] (number : NumberText R) (filename : String) (disk : Disk σ) :
    Except LoadError (FileOldGripper R) :=
  match disk.files filename with
  | none => .error (.thrown (filename ++ ": cannot open file"))
  | some (.error message) => .error (.thrown message)
  | some (.ok tree) => GripperXMLLoader.load number tree

end Disk

/-- `InterruptReturnCode`. -/
def interruptReturnCode : ℤ := 2

structure RobustGripperEvaluationProcessManager where
  dwcPath : String
  tdPath : String
  samplesPath : String
  cores : ℕ
  ntries : ℕ
  tmpName : String
  executable : String

namespace RobustGripperEvaluationProcessManager
variable {R σ : Type} (manager : RobustGripperEvaluationProcessManager)

/-- The command for some values of the parameters. -/
def command (parameterString : String) : String :=
  manager.executable ++ " -c " ++ toString manager.cores ++ " -g " ++ toString 100 ++ " -r " ++
    toString 0 ++ " -p 0 1 2 3 4 5 6 7 8 9 10 11 " ++ " -v \"" ++ parameterString ++ "\"" ++
    " --dwc " ++ manager.dwcPath ++ " --td " ++ manager.tdPath ++
    (if manager.samplesPath = "" then "" else " --samples " ++ manager.samplesPath) ++
    " --name " ++ manager.tmpName ++ " 1>/dev/null 2>/dev/null"

/-- The parameters as text. -/
def parameterString (stream : NumberFormat R) (gripper : FileOldGripper R) : String :=
  let builder : MapGripperBuilder (GripperQuality R) R := ⟨gripper, ParameterName.all⟩
  Types.toString stream (builder.gripperToVector gripper) " "

def filename : String := manager.tmpName ++ ".grp.xml"

/-- The loop is left with a file or when it is interrupted. -/
def done (result : ℤ × Disk σ) : Bool :=
  result.2.exists manager.filename || result.1 == interruptReturnCode

/-- A file that is there before is removed. -/
def clear (disk : Disk σ) : Disk σ :=
  if disk.exists manager.filename then disk.remove manager.filename else disk

/-- `evaluateGripper`, with what `system` does; the gripper is null when it is of another class. -/
def evaluateGripper [Field R] (number : NumberText R) (stream : NumberFormat R)
    (system : String → Disk σ → ℤ × Disk σ) (gripper : Option (FileOldGripper R))
    (disk : Disk σ) : Except LoadError (GripperQuality R) × Disk σ :=
  match gripper with
  | none => (.error (.thrown "Gripper class not supported"), disk)
  | some gripper =>
    let cmd := manager.command (parameterString stream gripper)
    let last := retry (system cmd) manager.done manager.ntries (manager.clear disk)
    if last.1 = interruptReturnCode then
      (.error (.thrown "Evaluation interrupted (ctrl+c)"), last.2)
    else ((last.2.load number manager.filename).map fun gripper => gripper.quality, last.2)

theorem clear_eq (disk : Disk σ) : manager.clear disk = disk.remove manager.filename := by
  unfold clear
  split
  · rfl
  · rename_i hnone
    rw [Bool.not_eq_true, Disk.exists_eq_false] at hnone
    exact (Disk.setFile_same hnone).symm

theorem done_eq_false {result : ℤ × Disk σ} :
    manager.done result = false ↔
      result.2.files manager.filename = none ∧ result.1 ≠ interruptReturnCode := by
  rw [done, Bool.or_eq_false_iff, Disk.exists_eq_false, beq_eq_false_iff_ne]

/-- How a call ends is decided by its last run of the program. -/
inductive Concluded [Field R] (number : NumberText R) (last : ℤ × Disk σ) :
    Except LoadError (GripperQuality R) → Prop where
  | interrupted (code : last.1 = interruptReturnCode) :
      Concluded number last (.error (.thrown "Evaluation interrupted (ctrl+c)"))
  | loaded (code : last.1 ≠ interruptReturnCode) {contents : Except String (PTree String String)}
      (file : last.2.files manager.filename = some contents) :
      Concluded number last
        ((last.2.load number manager.filename).map fun gripper => gripper.quality)
  | missing (code : last.1 ≠ interruptReturnCode)
      (file : last.2.files manager.filename = none) :
      Concluded number last (.error (.thrown (manager.filename ++ ": cannot open file")))

/-- Whatever file was left by an earlier call, a call ends the same way. It runs the program at
most `ntries + 1` times: again only while no run leaves a file or is interrupted, and it fails for
want of a file only after all of them. -/
theorem evaluateGripper_spec [Field R] (number : NumberText R) (stream : NumberFormat R)
    (system : String → Disk σ → ℤ × Disk σ) (gripper : FileOldGripper R) (disk : Disk σ) :
    let result := manager.evaluateGripper number stream system (some gripper) disk
    let run := attempts (system (manager.command (parameterString stream gripper)))
      (disk.remove manager.filename)
    (∀ stale, manager.evaluateGripper number stream system (some gripper)
      (disk.setFile manager.filename stale) = result) ∧
    ∃ k ≤ manager.ntries, result.2 = (run k).2 ∧ manager.Concluded number (run k) result.1 ∧
      (∀ j < k, (run j).1 ≠ interruptReturnCode ∧ (run j).2.files manager.filename = none) ∧
      ((run k).1 ≠ interruptReturnCode → (run k).2.files manager.filename = none →
        k = manager.ntries) := by
  intro result run
  constructor
  · intro stale
    simp only [result, evaluateGripper, clear_eq, Disk.remove_setFile]
  · obtain ⟨k, hle, hretry, hbefore, hlast⟩ := retry_spec
      (system (manager.command (parameterString stream gripper))) manager.done manager.ntries
      (disk.remove manager.filename)
    have hresult : result = if (run k).1 = interruptReturnCode then
          (.error (.thrown "Evaluation interrupted (ctrl+c)"), (run k).2)
        else (((run k).2.load number manager.filename).map fun gripper => gripper.quality,
          (run k).2) := by
      simp only [result, evaluateGripper, clear_eq, hretry]
      rfl
    refine ⟨k, hle, ?_, ?_, ?_, ?_⟩
    · rw [hresult]
      split <;> rfl
    · rw [hresult]
      split
      · rename_i hcode
        exact .interrupted hcode
      · rename_i hcode
        cases hfile : (run k).2.files manager.filename with
        | none =>
          have hload : (run k).2.load number manager.filename =
              .error (.thrown (manager.filename ++ ": cannot open file")) := by
            rw [Disk.load, hfile]
          rw [hload]
          exact .missing hcode hfile
        | some contents => exact .loaded hcode hfile
    · intro j hj
      exact (manager.done_eq_false.mp (hbefore j hj)).symm
    · intro hcode hfile
      apply hlast.resolve_left
      rw [Bool.not_eq_true, done_eq_false]
      exact ⟨hfile, hcode⟩

end RobustGripperEvaluationProcessManager
end Gripperz.Process
