/-
# How a device verifies a frame

To verify a frame a device turns to its models, to its machine, and to the output by which
controllers ask for traces.  The models come into it at four places: the electrical one is fed, the
thermal one is fed and may stop the motor, the electrical one is asked for its word, and traces are
asked for.  Each of them has a name here, and what is left is an equation, in which the device
changes by the verdict of its machine and by two fields of its own.  So whoever compares two frames,
two devices or two kinds of models has to compare them at these places and nowhere else.

The main results are

* `Device.sampleModels_eq`, `Device.flagTrace_eq`: the stages before and behind the verdict;
* `Device.verifyState_eq`: the whole.
-/
import Mathlib.Tactic.Lemma
import MotorBoard.Device.Cycle

namespace MotorBoard

/-- A trace that was asked for. -/
structure TraceRequest where
  reason : String
  level : UInt8
  delay : UInt32
deriving DecidableEq, Repr

/-- The models when traces were asked for, the oldest of them last in the list. -/
def Models.requested {μ : Type} (models : Models μ) (requests : List TraceRequest) (w : μ) : μ :=
  requests.foldr (fun r w => models.motorFlagPublish r.reason r.level r.delay w) w

namespace Device

section Places

variable {μ : Type} (models : Models μ) (status prev : StatusFrame) (d : Device) (w : μ)

/-- The models when the electrical one was fed. -/
def fed : μ :=
  if d.hasMotorModel then
    models.motorCheckPublish (models.motorSample (d.sampleOf status prev) w)
  else w

/-- Whether the thermal model, when it was fed, stops the motor. -/
def heated : Bool × μ :=
  if d.hasHeatingModel then
    let w := models.heatingUpdate (d.sampleOf status prev) d.actuatorInfo
      (StatusFrame.celsius status.boardTemperature)
      (d.cycle.cycleDuration status.timestamp prev.timestamp) w
    if d.mayHalt then models.heatingOverheated w else (false, w)
  else (false, w)

/-- The word of the electrical model, where it is wanted. -/
def modelOk : Bool × μ :=
  if d.hasMotorModel && d.actuator.state.isEnabled && !d.config.disableMotorModelChecking then
    models.motorVerify w
  else (true, w)

/-- The sample that the device keeps. -/
def sampleKept : TraceSample :=
  if d.hasMotorModel || d.hasHeatingModel then d.sampleOf status prev else d.traceSample

end Places

/-- The traces that a device asks for when it looks at its machine. -/
def traceRequests (d : Device) : List TraceRequest :=
  if d.hasMotorModel && (d.cycle.lockoutEntered || d.publishMotorTrace.command != 0) then
    if d.cycle.lockoutEntered then [⟨"Safety Lockout", 2, 100⟩]
    else [⟨"Publishing manually triggered", 0, 100⟩]
  else []

/-- The output of traces when the device has looked at it. -/
def traceAnswered (d : Device) : DigitalOut :=
  { d.publishMotorTrace with
    command := if d.hasMotorModel then 0 else d.publishMotorTrace.command }

/-- The device behind a verdict of its machine, whose actuator shows the output. -/
def judged (sample : TraceSample) (output : DigitalOut) (cycle : CycleMachine) (d : Device) :
    Device :=
  { d with
    traceSample := sample
    publishMotorTrace := output
    cycle := cycle
    actuator := { d.actuator with state := { d.actuator.state with halted := cycle.halted } } }

section Stages

variable {μ : Type} (models : Models μ) (status prev : StatusFrame) (d : Device) (w : μ)

/-- The models are fed one after the other, and a device that has one keeps the sample. -/
theorem sampleModels_eq : d.sampleModels models status prev w =
    match d.heated models status prev (d.fed models status prev w) with
    | (hot, w) => (hot, { d with traceSample := d.sampleKept status prev }, w) := by
  have hmay (sample : TraceSample) : { d with traceSample := sample }.mayHalt = d.mayHalt := rfl
  rw [sampleModels, heated, fed, sampleKept]
  split
  · simp only [hmay]
    split
    · split <;> rfl
    · rfl
  · next hnone =>
    rw [Bool.or_eq_true, not_or] at hnone
    rw [if_neg hnone.2, if_neg hnone.1]

/-- A device with an electrical model takes what controllers ask for off the output.  Where it asks
for no trace there is nothing on it. -/
theorem flagTrace_eq : d.flagTrace models w =
    ({ d with publishMotorTrace := d.traceAnswered }, models.requested d.traceRequests w) := by
  rw [flagTrace, traceRequests, traceAnswered]
  dsimp only
  split
  · next hasked =>
    rw [Bool.and_eq_true] at hasked
    rw [if_pos hasked.1]
    split <;> rfl
  · next hasked =>
    have hcommand : (if d.hasMotorModel then 0 else d.publishMotorTrace.command) =
        d.publishMotorTrace.command := by
      split
      · next hmotor =>
        simp only [hmotor, Bool.true_and, Bool.or_eq_true, not_or,
          bne_iff_ne, ne_eq, Decidable.not_not] at hasked
        exact hasked.2.symm
      · rfl
    rw [hcommand]
    rfl

/-- **A frame is verified in three stages**: the models are fed, the machine comes to a verdict, and
traces are asked for. -/
theorem verifyState_eq : d.verifyState models status prev w =
    match d.heated models status prev (d.fed models status prev w) with
    | (hot, w) =>
      match d.cycle.verify status hot (d.modelOk models) w with
      | (fault, cycle, w) =>
        (fault, d.judged (d.sampleKept status prev) d.traceAnswered cycle,
          models.requested { d with cycle := cycle }.traceRequests w) := by
  rw [verifyState, sampleModels_eq]
  dsimp only
  rw [flagTrace_eq]
  rfl

end Stages

end Device

end MotorBoard
