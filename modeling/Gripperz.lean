import Gripperz.Optimization.CoordinateDescentOptimizer
import Gripperz.Optimization.PowellOptimizer
import Gripperz.Optimization.SimplexOptimizer
import Gripperz.Optimization.SimulatedAnnealingOptimizer
import Gripperz.Math.ObjectiveFunction
import Gripperz.Optimization.Optimizer
import Gripperz.Optimization.OptimizationManager
import Gripperz.Optimization.ConstrainedOptimization
import Gripperz.Grasps.Types
import Gripperz.Simulation.GraspTaskSimulator
import Gripperz.Simulation.StepCB
import Gripperz.Simulation.Moves
import Gripperz.Simulation.Lifecycle
import Gripperz.Simulation.Runs
import Gripperz.Simulation.Dealing
import Gripperz.Simulation.Results
import Gripperz.Simulation.Finalising
import Gripperz.Simulation.Statistics
import Gripperz.Simulation.Stages
import Gripperz.Library.Thinning
import Gripperz.Math.KDTreeQ
import Gripperz.Evaluation.Alignment
import Gripperz.Evaluation.BoundedIndices
import Gripperz.Evaluation.Calculators
import Gripperz.Evaluation.Coverage
import Gripperz.Evaluation.GripperEvaluator
import Gripperz.Grasps.GraspSource
import Gripperz.Process.StandardGripperEvaluationProcessManager
import Gripperz.Process.OptimizationPipeline
import Gripperz.Evaluation.OldGripperEvaluator
import Gripperz.Process.Isolation
import Gripperz.Simulation.Simulated
import Gripperz.Evaluation.ThinnedPoints
import Gripperz.Evaluation.PointFilter
import Gripperz.Evaluation.Representatives
import Gripperz.Evaluation.Agreement
import Gripperz.Evaluation.CoverageRatio
import Gripperz.Context.TaskDescription
import Gripperz.Library.Budget
import Gripperz.Optimization.EvaluationBudget
import Gripperz.Grasps.BasicParallelGripperGraspPlanner
import Gripperz.Grasps.PlannedGrasps
import Gripperz.Simulation.Poses
import Gripperz.Simulation.PlannedPoses
import Gripperz.Library.Heap
import Gripperz.Parametrizations.Parametrization
import Gripperz.Parametrizations.ParametrizationTranslator
import Gripperz.Models.ParametrizedGripper
import Gripperz.Models.PrototypeGripperBuilder
import Gripperz.Library.NumberText
import Gripperz.Library.PropertyTree
import Gripperz.Loaders.NamedValues
import Gripperz.Loaders.ParametrizationLoader
import Gripperz.Loaders.GripperLoader
import Gripperz.Loaders.GripperFiles
import Gripperz.Util.XMLHelpers
import Gripperz.Loaders.TaskDescriptionLoader
import Gripperz.Loaders.TaskDescriptionFiles
import Gripperz.Grasps.GraspGridFilter
import Gripperz.Grasps.GridTermination
import Gripperz.Grasps.RobustnessGraspFilter
import Gripperz.Library.Rounds
import Gripperz.Library.Spanning
import Gripperz.Optimization.PowellDirections
import Gripperz.Library.Hulls
import Gripperz.Optimization.SimplexContainment
import Gripperz.Library.WeightedMeans
import Gripperz.Math.CombineObjectives
import Gripperz.Library.Largest
import Gripperz.Simulation.Contacts
import Gripperz.Simulation.Access
import Gripperz.Simulation.Equipment
import Gripperz.Simulation.Loading
import Gripperz.Simulation.Timeouts
import Gripperz.Evaluation.FingerStress
import Gripperz.Geometry.BeamSection
import Gripperz.Geometry.EndCorrection
import Gripperz.Evaluation.FingerSections
import Gripperz.Models.FingerMaterial
import Gripperz.Evaluation.RatioIndices
import Gripperz.Grasps.SortingFilter
import Gripperz.Loaders.RepeatedParameters
import Gripperz.Loaders.GripperXMLLoader
import Gripperz.Evaluation.SavedGrippers
import Gripperz.Library.Failures
import Gripperz.Process.MissingGrasps
import Gripperz.Evaluation.GripperObjectiveFunction
import Gripperz.Geometry.CreateMesh
import Gripperz.Models.GeometryChange
import Gripperz.Library.Extremes
import Gripperz.Geometry.BoundingBoxes
import Gripperz.Parametrizations.VectorRoundTrips
import Gripperz.Parametrizations.ParametrizationRuns
import Gripperz.Library.Logged
import Gripperz.Optimization.SimplexLengths
import Gripperz.Library.Objects
import Gripperz.Parametrizations.Containers
import Gripperz.Library.Rounding
import Gripperz.Library.FloatFormat
import Gripperz.Library.FloatNumbers
import Gripperz.Library.DecimalText
import Gripperz.Util.StreamedNumbers
import Gripperz.Library.Countdown
import Gripperz.Simulation.Driven
import Gripperz.Simulation.Termination
import Gripperz.Simulation.Alike
import Gripperz.Simulation.Setups
import Gripperz.Simulation.Solo
import Gripperz.Simulation.ForceLimits
import Gripperz.Simulation.Schedules
import Gripperz.Library.Fields
import Gripperz.Models.MapGripperBuilder
import Gripperz.Library.Retry
import Gripperz.Process.RobustGripperEvaluationProcessManager
import Gripperz.Process.GripperEvaluate
import Gripperz.Models.ModifiedGripper
import Gripperz.Tools.GenerateGrippers
import Gripperz.Util.SixDigits
import Gripperz.Grasps.SurfaceSampleFiles
import Gripperz.Shards.ShardContainer
import Gripperz.Optimization.StatefulFunctions
import Gripperz.Tools.OptimizeGripper
import Gripperz.Tools.MakeEvaluator
