/-
# What controllers see of a board

Controllers work with actuators and digital outputs.  Every name can be claimed once per
kind on a ring.
-/
import MotorBoard.Bytes.Binary
import MotorBoard.Error

namespace MotorBoard

/-- What is known of an actuator after a cycle. -/
structure ActuatorState where
  /-- Seconds since the first cycle. -/
  timestamp : Float := 0.0
  /-- The ring position of the board. -/
  deviceId : UInt16 := 0
  encoderCount : Int32 := 0
  /-- In radians, from the zero offset on. -/
  position : Float := 0.0
  /-- In ticks per second. -/
  encoderVelocity : Float := 0.0
  /-- In radians per second. -/
  velocity : Float := 0.0
  /-- The calibration offset, which a controller may set. -/
  zeroOffset : Binary64 := .zero
  calibrationReading : Bool := false
  calibrationRisingEdgeValid : Bool := false
  calibrationFallingEdgeValid : Bool := false
  lastCalibrationRisingEdge : Float := 0.0
  lastCalibrationFallingEdge : Float := 0.0
  isEnabled : Bool := false
  halted : Bool := false
  lastCommandedCurrent : Float := 0.0
  lastExecutedCurrent : Float := 0.0
  lastMeasuredCurrent : Float := 0.0
  lastCommandedEffort : Float := 0.0
  lastExecutedEffort : Float := 0.0
  lastMeasuredEffort : Float := 0.0
  maxEffort : Float := 0.0
  motorVoltage : Float := 0.0
  numEncoderErrors : UInt16 := 0

/-- What a controller asks of an actuator. -/
structure ActuatorCommand where
  enable : Bool := false
  /-- The torque on the joint's side of the gear. -/
  effort : Float := 0.0

/-- An actuator. -/
structure Actuator where
  name : String := ""
  state : ActuatorState := {}
  command : ActuatorCommand := {}

/-- A digital output. -/
structure DigitalOut where
  name : String := ""
  command : UInt8 := 0
  /-- What the board read back. -/
  state : UInt8 := 0
deriving DecidableEq, Repr

/-- The names claimed on a ring. -/
structure Registry where
  actuators : List String := []
  digitalOuts : List String := []
deriving DecidableEq, Repr

namespace Registry

/-- Claims the name of an actuator. -/
def registerActuator (name : String) (r : Registry) : Except Error Unit × Registry :=
  if name ∈ r.actuators then (.error (.duplicateName s!"actuator {name}"), r)
  else (.ok (), { r with actuators := name :: r.actuators })

/-- Claims the name of a digital output. -/
def registerDigitalOut (name : String) (r : Registry) : Except Error Unit × Registry :=
  if name ∈ r.digitalOuts then (.error (.duplicateName s!"digital out {name}"), r)
  else (.ok (), { r with digitalOuts := name :: r.digitalOuts })

/-- Whether the name of an actuator is claimed. -/
def hasActuator (name : String) (r : Registry) : Bool := r.actuators.contains name

/-- Whether the name of a digital output is claimed. -/
def hasDigitalOut (name : String) (r : Registry) : Bool := r.digitalOuts.contains name

end Registry

end MotorBoard
