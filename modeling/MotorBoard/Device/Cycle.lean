/-
# One cycle of a board

In each cycle the device packs a command frame and unpacks the status frame that the
board answers with.  Packing turns the effort that a controller asks for into a current
within bounds.  Unpacking turns the raw readings into the state of the actuator, feeds
the motor models and verifies the frame.  Neither of them waits for a lock: what cannot
be handed over in this cycle is handed over in a later one.
-/
import MotorBoard.Device.Basic

namespace MotorBoard

/-!
The lesser and the greater of two numbers.  A not-a-number gives way to the other one, and
of two equal ones the second is taken, which shows with zeros of different sign.
-/

namespace Bound

/-- The lesser of two numbers. -/
def lesser (a b : Float) : Float := if a.isNaN || b ≤ a then b else a

/-- The greater of two numbers. -/
def greater (a b : Float) : Float := if a.isNaN || a ≤ b then b else a

end Bound

namespace Device

variable {μ : Type} (models : Models μ)

/-- Clears the sticky errors and resets the models that are attached. -/
def clearErrorFlags (d : Device) (w : μ) : Device × μ :=
  let w := if d.hasMotorModel then models.motorReset w else w
  let w := if d.hasHeatingModel then models.heatingReset w else w
  ({ d with cycle := d.cycle.clearErrorFlags }, w)

/-- Hands a changed calibration offset to the collector, if the store can be had at
once. -/
def handOffZeroOffset (d : Device) : Device :=
  let z := d.actuator.state.zeroOffset
  if z.sameValue d.cachedZeroOffset then d
  else
    match d.store.tryUpdate fun c => { c with zeroOffset := z } with
    | (.acquired, store) =>
      { d with store := store, cachedZeroOffset := z, calibration := .controllerCalibration }
    | (_, store) => { d with store := store }

/-- What is left when the cycle dies while it hands over an offset: the store is poisoned, and
the cycle was not a reset. -/
def dieInHandOff (d : Device) : Device :=
  { d with
    store := { d.store with lock := .poisoned }
    cycle := { d.cycle with resetting := false } }

/-- The current that makes an effort. -/
def currentFor (d : Device) (effort : Float) : Float := effort / d.reduction / d.torqueConstant

/-- A current within the bounds of the device; one that is no finite number counts as
zero. -/
def limitCurrent (d : Device) (current : Float) : Float :=
  let current := if current.isFinite then current else 0.0
  Bound.greater (Bound.lesser current d.maxCurrent) (-d.maxCurrent)

/-- The current in steps of the converter, cut off at the bounds of the field. -/
def currentSteps (d : Device) (current : Float) : Int16 :=
  (current / d.currentScale).toModel.toInt16

/-- The mode of the command: on only when a controller wants it, no halt is asked for and
no error is set. -/
def commandMode (d : Device) (halt reset : Bool) : UInt8 :=
  let mode :=
    if d.actuator.command.enable && !halt && !d.cycle.hasError then Mode.enable ||| Mode.current
    else Mode.off
  if reset then mode ||| Mode.safetyReset else mode

/-- The command frame for the state of the device. -/
def commandFrame (d : Device) (halt reset : Bool) : CommandFrame where
  mode := d.commandMode halt reset
  digitalOut := d.digitalOut.command
  programmedPwm := 0
  programmedCurrent :=
    d.currentSteps (d.limitCurrent (d.currentFor d.actuator.command.effort))

/-- Notes the effort and the current asked for. -/
def noteCommand (d : Device) : Device :=
  let effort := d.actuator.command.effort
  { d with actuator := { d.actuator with state := { d.actuator.state with
      lastCommandedEffort := effort
      lastCommandedCurrent := d.currentFor effort } } }

/-- Builds the command of this cycle.  A halt takes the effort away; a reset clears the
errors and tells the board to leave a lockout. -/
def pack (halt reset : Bool) (d : Device) (w : μ) : Bytes × Device × μ :=
  let d :=
    if halt then
      { d with actuator := { d.actuator with
          command := { d.actuator.command with effort := 0.0 } } }
    else d
  let (d, w) := if reset then d.clearErrorFlags models w else (d, w)
  let d := { d with cycle := { d.cycle with resetting := reset } }
  let d := d.handOffZeroOffset.noteCommand
  ((d.commandFrame halt reset).encode, d, w)

/-- Takes note of a status frame that cannot be read. -/
def checksumFault (d : Device) : Device :=
  { d with
    store := (d.store.tryUpdate Collected.countChecksumError).2
    cycle := d.cycle.recordChecksumError
    actuator := { d.actuator with state := { d.actuator.state with halted := true } } }

/-- Encoder ticks as an angle. -/
def toRadians (d : Device) (ticks : Float) : Float :=
  ticks / d.actuatorInfo.pulsesPerRevolution.toFloat * 2.0 * 3.141592653589793

/-- The state of the actuator that a frame tells of. -/
def deriveState (d : Device) (status prev : StatusFrame) (timestamp : Float) : ActuatorState :=
  let effortScale := d.currentScale * d.torqueConstant * d.reduction
  let velocity := Cycle.encoderVelocity status.encoderCount status.timestamp prev.encoderCount
    prev.timestamp
  { d.actuator.state with
    timestamp := timestamp
    deviceId := d.slave.position
    encoderCount := status.encoderCount
    position := d.toRadians status.encoderCount.toFloat - d.actuator.state.zeroOffset.value
    encoderVelocity := velocity
    velocity := d.toRadians velocity
    calibrationReading := Mode.has status.calibrationReading Calibration.sensor
    calibrationRisingEdgeValid := Mode.has status.calibrationReading Calibration.risingEdge
    calibrationFallingEdgeValid := Mode.has status.calibrationReading Calibration.fallingEdge
    lastCalibrationRisingEdge := d.toRadians status.lastRisingEdge.toFloat
    lastCalibrationFallingEdge := d.toRadians status.lastFallingEdge.toFloat
    isEnabled := Mode.has status.mode Mode.enable
    lastExecutedCurrent := status.programmedCurrent.toFloat * d.currentScale
    lastMeasuredCurrent := status.measuredCurrent.toFloat * d.currentScale
    lastExecutedEffort := status.programmedCurrent.toFloat * effortScale
    lastMeasuredEffort := status.measuredCurrent.toFloat * effortScale
    numEncoderErrors := status.numEncoderErrors
    motorVoltage := status.motorVoltage.toFloat * d.voltageScale
    maxEffort := d.maxCurrent * d.reduction * d.torqueConstant }

/-- The sample of this cycle for the models.  The supply voltage is that of the frame
before. -/
def sampleOf (d : Device) (status prev : StatusFrame) : TraceSample :=
  let state := d.actuator.state
  { timestamp := state.timestamp
    enabled := state.isEnabled
    supplyVoltage := prev.supplyVoltage.toFloat * d.voltageScale
    measuredMotorVoltage := state.motorVoltage
    programmedPwm := status.programmedPwm.toFloat / StatusFrame.fullPwm.toFloat
    executedCurrent := status.programmedCurrent.toFloat * d.currentScale
    measuredCurrent := state.lastMeasuredCurrent
    velocity := state.velocity
    encoderPosition := state.position
    encoderErrorCount := state.numEncoderErrors.toUInt32 }

/-- Whether an overheated motor may be stopped. -/
def mayHalt (d : Device) : Bool :=
  match d.heatingSettings with
  | some h => !h.disableHalt
  | none => true

/-- Feeds the models that are attached; true when the motor is to be stopped because it is
too hot. -/
def sampleModels (status prev : StatusFrame) (d : Device) (w : μ) : Bool × Device × μ :=
  if d.hasMotorModel || d.hasHeatingModel then
    let sample := d.sampleOf status prev
    let d := { d with traceSample := sample }
    let w :=
      if d.hasMotorModel then models.motorCheckPublish (models.motorSample sample w) else w
    if d.hasHeatingModel then
      let w := models.heatingUpdate sample d.actuatorInfo
        (StatusFrame.celsius status.boardTemperature)
        (d.cycle.cycleDuration status.timestamp prev.timestamp) w
      if d.mayHalt then
        let (hot, w) := models.heatingOverheated w
        (hot, d, w)
      else (false, d, w)
    else (false, d, w)
  else (false, d, w)

/-- Asks for a motor trace after a lockout began, or when a controller wants one. -/
def flagTrace (d : Device) (w : μ) : Device × μ :=
  let lockout := d.cycle.lockoutEntered
  if d.hasMotorModel && (lockout || d.publishMotorTrace.command != 0) then
    let w :=
      if lockout then models.motorFlagPublish "Safety Lockout" 2 100 w
      else models.motorFlagPublish "Publishing manually triggered" 0 100 w
    ({ d with publishMotorTrace := { d.publishMotorTrace with command := 0 } }, w)
  else (d, w)

/-- Feeds the models and verifies a frame.  The electrical model has a say while the
bridge is on, unless its word is not wanted. -/
def verifyState (status prev : StatusFrame) (d : Device) (w : μ) :
    Option CycleFault × Device × μ :=
  let (overheated, d, w) := d.sampleModels models status prev w
  let asked :=
    d.hasMotorModel && d.actuator.state.isEnabled && !d.config.disableMotorModelChecking
  let modelOk : μ → Bool × μ := fun w => if asked then models.motorVerify w else (true, w)
  let (fault, cycle, w) := d.cycle.verify status overheated modelOk w
  let (d, w) := { d with cycle := cycle }.flagTrace models w
  let d := { d with actuator := { d.actuator with state := { d.actuator.state with
    halted := d.cycle.halted } } }
  (fault, d, w)

/-- Takes in a status frame that can be read. -/
def absorb (status prev : StatusFrame) (d : Device) (w : μ) : Option CycleFault × Device × μ :=
  let (timestamp, cycle) := d.cycle.accumulateTime status.timestamp prev.timestamp
  let d := { d with
    cycle := cycle
    digitalOut := { d.digitalOut with state := status.digitalOut } }
  let d := { d with actuator := { d.actuator with state := d.deriveState status prev timestamp } }
  d.verifyState models status prev w

/-- Takes in the status frame of this cycle next to that of the cycle before, which is all
zeros in the first cycle.  Frames that are too short or do not sum to zero are a fault of
their own. -/
def unpack (this prev : Bytes) (d : Device) (w : μ) : Option CycleFault × Device × μ :=
  match StatusFrame.decode this, StatusFrame.decode prev with
  | .ok status, .ok prevStatus =>
    if Checksum.verifies (this.take StatusFrame.size) then d.absorb models status prevStatus w
    else (some .statusChecksum, d.checksumFault, w)
  | _, _ => (some .statusChecksum, d.checksumFault, w)

/-- Attaches the electrical model.  It comes with an output by which a controller can ask
for a trace, which has the name of the actuator in its own. -/
def attachMotorModel (d : Device) (r : Registry) : Except Error Unit × Device × Registry :=
  if d.actuator.name = "" then (.error .notInitialized, d, r)
  else
    let name := d.actuator.name ++ "_publish_motor_trace"
    match r.registerDigitalOut name with
    | (.ok (), r) =>
      (.ok (), { d with publishMotorTrace := { name := name }, hasMotorModel := true }, r)
    | (.error e, r) => (.error e, d, r)

/-- Asks the electrical model for a trace; false without one. -/
def publishTrace (reason : String) (level : UInt8) (delay : UInt32) (d : Device) (w : μ) :
    Bool × μ :=
  if d.hasMotorModel then (true, models.motorFlagPublish reason level delay w) else (false, w)

end Device

end MotorBoard
