import Gripperz.Library.Fields
import Gripperz.Models.OldGripper

/-! # Grippers of the old class from vectors

A builder sets the parameters in its list, one after the other, in a copy of its prototype. The
list may name a parameter more than once.
-/
namespace Gripperz.Models
open Library

/-- Names of the parameters. -/
inductive ParameterName where
  | length | width | depth | chfDepth | chfAngle | cutDepth | cutAngle | cutTilt | tcpOffset
  | jawdist | stroke | force
  deriving DecidableEq, Repr

namespace ParameterName

/-- The parameters of a builder that is given none, in the order of their numbers. -/
def all : List ParameterName :=
  [length, width, depth, chfDepth, chfAngle, cutDepth, cutAngle, cutTilt, tcpOffset, jawdist,
    stroke, force]

/-- `static_cast<ParameterName>`. For a number without a parameter `parameterNameToString` raises
an exception. -/
def ofId (id : ℤ) : Except String ParameterName :=
  match id with
  | .ofNat n =>
    match all[n]? with
    | some name => .ok name
    | none => .error "Should not have got here"
  | .negSucc _ => .error "Should not have got here"

end ParameterName

structure MapGripperBuilder (Q R : Type) where
  prototype : OldGripper Q R
  parameters : List ParameterName

namespace MapGripperBuilder
variable {Q R : Type}

def applyParameter (gripper : OldGripper Q R) (name : ParameterName) (value : R) :
    OldGripper Q R :=
  match name with
  | .length => { gripper with length := value }
  | .width => { gripper with width := value }
  | .depth => { gripper with depth := value }
  | .chfDepth => { gripper with chfdepth := value }
  | .chfAngle => { gripper with chfangle := value }
  | .cutDepth => { gripper with cutdepth := value }
  | .cutAngle => { gripper with cutangle := value }
  | .cutTilt => { gripper with cuttilt := value }
  | .tcpOffset => { gripper with tcpoffset := value }
  | .force => { gripper with force := value }
  | .stroke => { gripper with stroke := value }
  | .jawdist => { gripper with jawdist := value }

def fetchParameter (gripper : OldGripper Q R) : ParameterName → R
  | .length => gripper.length
  | .width => gripper.width
  | .depth => gripper.depth
  | .chfDepth => gripper.chfdepth
  | .chfAngle => gripper.chfangle
  | .cutDepth => gripper.cutdepth
  | .cutAngle => gripper.cutangle
  | .cutTilt => gripper.cuttilt
  | .tcpOffset => gripper.tcpoffset
  | .force => gripper.force
  | .stroke => gripper.stroke
  | .jawdist => gripper.jawdist

/-- The loop over the parameters, in a copy of the prototype. -/
def applyParameters (prototype : OldGripper Q R) (list : List (ParameterName × R)) :
    OldGripper Q R :=
  list.foldl (fun gripper parameter => applyParameter gripper parameter.1 parameter.2) prototype

def vectorToGripper (builder : MapGripperBuilder Q R) (params : List R) :
    Except String (OldGripper Q R) :=
  if params.length ≠ builder.parameters.length then .error "Parameters vector size mismatch!"
  else .ok (applyParameters builder.prototype (builder.parameters.zip params))

def gripperToVector (builder : MapGripperBuilder Q R) (gripper : OldGripper Q R) : List R :=
  builder.parameters.map (fetchParameter gripper)

/-! ## What a builder changes -/

/-- The twelve parameters as fields. -/
def fields : Fields (OldGripper Q R) ParameterName R where
  get := fetchParameter
  set := applyParameter
  get_set_self gripper name value := by cases name <;> rfl
  get_set_of_ne gripper name name' value hne := by
    cases name <;> cases name' <;> first | rfl | exact absurd rfl hne

/-- What is no parameter: the data of every gripper and the size of the base. -/
def remainder (gripper : OldGripper Q R) : GripperData Q × R × R × R :=
  (gripper.toGripperData, gripper.basex, gripper.basey, gripper.basez)

theorem remainder_applyParameters (prototype : OldGripper Q R) (list : List (ParameterName × R)) :
    remainder (applyParameters prototype list) = remainder prototype := by
  apply fields.assign_frame remainder
  intro gripper name value
  cases name <;> rfl

/-- A gripper is what its parameters are, and the rest of it. -/
theorem ext_of_fetchParameter {gripper gripper' : OldGripper Q R}
    (hparameters : ∀ name, fetchParameter gripper name = fetchParameter gripper' name)
    (hrest : remainder gripper = remainder gripper') : gripper = gripper' := by
  have hlength : gripper.length = gripper'.length := hparameters .length
  have hwidth : gripper.width = gripper'.width := hparameters .width
  have hdepth : gripper.depth = gripper'.depth := hparameters .depth
  have hchfDepth : gripper.chfdepth = gripper'.chfdepth := hparameters .chfDepth
  have hchfAngle : gripper.chfangle = gripper'.chfangle := hparameters .chfAngle
  have hcutDepth : gripper.cutdepth = gripper'.cutdepth := hparameters .cutDepth
  have hcutAngle : gripper.cutangle = gripper'.cutangle := hparameters .cutAngle
  have hcutTilt : gripper.cuttilt = gripper'.cuttilt := hparameters .cutTilt
  have htcpOffset : gripper.tcpoffset = gripper'.tcpoffset := hparameters .tcpOffset
  have hjawdist : gripper.jawdist = gripper'.jawdist := hparameters .jawdist
  have hstroke : gripper.stroke = gripper'.stroke := hparameters .stroke
  have hforce : gripper.force = gripper'.force := hparameters .force
  obtain ⟨hdata, hbasex, hbasey, hbasez⟩ :
      gripper.toGripperData = gripper'.toGripperData ∧ gripper.basex = gripper'.basex ∧
        gripper.basey = gripper'.basey ∧ gripper.basez = gripper'.basez := by
    simpa [remainder] using hrest
  cases gripper
  cases gripper'
  simp_all

theorem zip_map_fetchParameter (names : List ParameterName) (gripper : OldGripper Q R) :
    names.zip (names.map (fetchParameter gripper)) =
      names.map fun name => (name, fetchParameter gripper name) := by
  induction names with
  | nil => rfl
  | cons name names ih => rw [List.map_cons, List.zip_cons_cons, ih, List.map_cons]

/-- The vector of a gripper gives its parameters back. -/
theorem fetchParameter_of_gripperToVector (prototype gripper : OldGripper Q R)
    (names : List ParameterName) {name : ParameterName} (h : name ∈ names) :
    fetchParameter (applyParameters prototype (names.zip (names.map (fetchParameter gripper))))
      name = fetchParameter gripper name := by
  rw [zip_map_fetchParameter]
  have hvalue (assignment : ParameterName × R)
      (hmem : assignment ∈ names.map fun name => (name, fetchParameter gripper name)) :
      assignment.2 = fetchParameter gripper assignment.1 := by
    obtain ⟨name', -, rfl⟩ := List.mem_map.mp hmem
    rfl
  refine (fields.get_assign_iff prototype _).mpr ?_ (name, fetchParameter gripper name) ?_
  · intro first hmem second hmem' hname
    rw [hvalue first hmem, hvalue second hmem', hname]
  · exact List.mem_map_of_mem h

/-- A vector of the right length, and no other, is built into a gripper: each parameter has the
last value the vector gives it and everything else is as in the prototype. The gripper has the
vector it was built from exactly when repeated parameters were given equal values. The vector of
any gripper builds one with the same vector; a builder of all parameters builds the gripper itself
if what is no parameter is as in the prototype. -/
theorem vectorToGripper_round_trips (builder : MapGripperBuilder Q R) :
    (∀ params, (∃ gripper, builder.vectorToGripper params = .ok gripper) ↔
      params.length = builder.parameters.length) ∧
    (∀ params gripper, builder.vectorToGripper params = .ok gripper →
      (∀ name, fetchParameter gripper name =
        (Fields.last (builder.parameters.zip params) name).getD
          (fetchParameter builder.prototype name)) ∧
      remainder gripper = remainder builder.prototype ∧
      (builder.gripperToVector gripper = params ↔
        ∀ first ∈ builder.parameters.zip params, ∀ second ∈ builder.parameters.zip params,
          first.1 = second.1 → first.2 = second.2)) ∧
    ∀ gripper, ∃ copy, builder.vectorToGripper (builder.gripperToVector gripper) = .ok copy ∧
      builder.gripperToVector copy = builder.gripperToVector gripper ∧
      ((∀ name, name ∈ builder.parameters) → remainder gripper = remainder builder.prototype →
        copy = gripper) := by
  refine ⟨?_, ?_, ?_⟩
  · intro params
    unfold vectorToGripper
    by_cases hlength : params.length = builder.parameters.length
    · simp [hlength]
    · simp [hlength]
  · intro params gripper hbuilt
    unfold vectorToGripper at hbuilt
    split at hbuilt
    · cases hbuilt
    · rename_i hlength
      obtain rfl := Except.ok.inj hbuilt
      refine ⟨fun name => fields.get_assign builder.prototype _ name,
        remainder_applyParameters builder.prototype _, ?_⟩
      exact fields.map_get_assign_iff builder.prototype (not_not.mp hlength)
  · intro gripper
    have hparameters (name : ParameterName) (hname : name ∈ builder.parameters) :=
      fetchParameter_of_gripperToVector builder.prototype gripper builder.parameters hname
    refine ⟨_, if_neg (by simp [gripperToVector]), List.map_congr_left hparameters, ?_⟩
    intro hall hrest
    apply ext_of_fetchParameter
    · exact fun name => hparameters name (hall name)
    · exact (remainder_applyParameters builder.prototype _).trans hrest.symm

end MapGripperBuilder
end Gripperz.Models
