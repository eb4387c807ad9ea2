import Gripperz.Evaluation.GripperEvaluator
import Gripperz.Grasps.GraspSource
import Gripperz.Simulation.Outcome

/-! # The evaluation of grippers

The manager has the grasps of its source simulated and evaluates the gripper by them. It
is used for one gripper after the other; the source keeps its grasps, and the results they
share with their copies, from one evaluation to the next.
-/
namespace Gripperz.Process
open Grasps Simulation Models

variable {Gr R G V : Type}

/-- The parts of the manager: planning and simulation are those of the gripper registered
with the context. -/
structure StandardGripperEvaluationProcessManager (Gr R G V : Type) where
  graspSource : GraspSource Gr R G V
  simulator : Gr → Outcome R G V
  evaluator : Gr → GraspTask R G V → Results R G V → GripperQuality R × Results R G V

/-- One evaluation: the grasps that were simulated, and the results before the simulation,
after it and after the evaluation. -/
structure Evaluated (Gr R G V : Type) where
  gripper : Gr
  quality : GripperQuality R
  grasps : GraspTask R G V
  generated : Results R G V
  simulated : Results R G V
  evaluated : Results R G V

namespace StandardGripperEvaluationProcessManager

/-- `evaluateGripper`: the evaluation and what the source keeps. Without grasps the
simulator is given a null pointer. -/
def evaluateGripper (manager : StandardGripperEvaluationProcessManager Gr R G V) (gripper : Gr)
    (cache : Option (Cache R G V)) : Option (Evaluated Gr R G V × Cache R G V) :=
  (manager.graspSource.getGrasps gripper cache).map fun got =>
    let simulated := simulate (manager.simulator gripper) got.1 got.2.results
    let evaluated := manager.evaluator gripper got.1 simulated
    (⟨gripper, evaluated.1, got.1, got.2.results, simulated, evaluated.2⟩,
      { got.2 with results := evaluated.2 })

/-- One gripper after the other. -/
def evaluateGrippers (manager : StandardGripperEvaluationProcessManager Gr R G V) :
    List Gr → Option (Cache R G V) → Option (List (Evaluated Gr R G V))
  | [], _ => some []
  | gripper :: grippers, cache =>
    (manager.evaluateGripper gripper cache).bind fun evaluation =>
      (manager.evaluateGrippers grippers (some evaluation.2)).map fun rest => evaluation.1 :: rest

end StandardGripperEvaluationProcessManager
end Gripperz.Process
