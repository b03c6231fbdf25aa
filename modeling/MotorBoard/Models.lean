/-
# Motor models

Two models follow a motor from cycle to cycle: an electrical one, which notices when the
motor no longer does what it is told, and a thermal one, which notices when it gets too
hot.  How they work is not the business of a board's driver, which only feeds and asks
them.  All their state is in one type.
-/
import MotorBoard.Record.ActuatorInfo
import MotorBoard.Record.HeatingConfig

namespace MotorBoard

/-- One cycle of a motor. -/
structure TraceSample where
  timestamp : Float := 0.0
  enabled : Bool := false
  supplyVoltage : Float := 0.0
  measuredMotorVoltage : Float := 0.0
  /-- The duty ratio, from minus one to one. -/
  programmedPwm : Float := 0.0
  executedCurrent : Float := 0.0
  measuredCurrent : Float := 0.0
  velocity : Float := 0.0
  encoderPosition : Float := 0.0
  encoderErrorCount : UInt32 := 0

/-- The heating settings that all boards of a process share. -/
structure HeatingSettings where
  /-- An overheated motor goes on. -/
  disableHalt : Bool := false
  /-- Temperatures saved by an earlier run are taken over. -/
  loadSaveFiles : Bool := true
  /-- Where temperatures are saved. -/
  saveDirectory : String := ""
deriving DecidableEq, Repr

namespace HeatingSettings

/-- The settings in readable form. -/
def describe (h : HeatingSettings) : String :=
  "MotorHeatingModelCommon \x7b disable_halt: " ++ toString h.disableHalt
    ++ ", load_save_files: " ++ toString h.loadSaveFiles
    ++ ", save_directory: " ++ Text.quoted h.saveDirectory ++ ", .. \x7d"

end HeatingSettings

/-- The two models of a motor, with a state in `μ`. -/
structure Models (μ : Type) where
  /-- Feeds a sample to the electrical model. -/
  motorSample : TraceSample → μ → μ
  /-- Publishes a trace that was asked for, once its delay has passed. -/
  motorCheckPublish : μ → μ
  /-- Whether the motor behaves like the electrical model. -/
  motorVerify : μ → Bool × μ
  /-- Asks for a trace: the reason, a level, a delay in cycles. -/
  motorFlagPublish : String → UInt8 → UInt32 → μ → μ
  motorReset : μ → μ
  /-- Builds the thermal model for an actuator name, a hardware identity and a directory. -/
  heatingBuild : HeatingParameters → String → String → String → μ → μ
  /-- Takes over a saved temperature. -/
  heatingLoad : μ → Except Error Unit × μ
  /-- Starts the thermal model. -/
  heatingStart : μ → Except Error Unit × μ
  /-- Feeds the thermal model: a sample, the actuator, the ambient temperature, and the
  seconds since the last sample. -/
  heatingUpdate : TraceSample → ActuatorInfo → Float → Float → μ → μ
  /-- Whether the winding is too hot. -/
  heatingOverheated : μ → Bool × μ
  heatingReset : μ → μ

end MotorBoard
