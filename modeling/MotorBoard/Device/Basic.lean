/-
# The driver of one board

A device is what the driver knows of a board: its settings, what it read from the board,
the state of its cycle, the handles of the controllers, and the state that it shares with
collector and reports, which are the mailbox and the store.
-/
import MotorBoard.Cycle.Machine
import MotorBoard.Diagnostics.Collected
import MotorBoard.Eeprom.Programmer
import MotorBoard.Hardware
import MotorBoard.Mailbox.Channel
import MotorBoard.Models
import MotorBoard.Record.ConfigInfo

namespace MotorBoard

/-- Whether the firmware of a board keeps a calibration offset. -/
inductive AppRam where
  | present
  | missing
  | notApplicable
deriving DecidableEq, Repr

namespace AppRam

/-- The name of a setting. -/
def name : AppRam → String
  | present => "Present"
  | missing => "Missing"
  | notApplicable => "NotApplicable"

/-- The setting with a name. -/
def ofName? (s : String) : Option AppRam :=
  [present, missing, notApplicable].find? fun a => a.name == s

end AppRam

/-- Where the calibration offset comes from. -/
inductive CalibrationStatus where
  | noCalibration
  /-- A controller set it in this run. -/
  | controllerCalibration
  /-- It was kept on the board. -/
  | savedCalibration
deriving DecidableEq, Repr

namespace CalibrationStatus

/-- The name of a source. -/
def name : CalibrationStatus → String
  | noCalibration => "NoCalibration"
  | controllerCalibration => "ControllerCalibration"
  | savedCalibration => "SavedCalibration"

end CalibrationStatus

/-- The settings of a device. -/
structure DeviceConfig where
  mailbox : MailboxLimits := {}
  eeprom : EepromLimits := {}
  cyclic : CycleLimits := {}
  appRam : AppRam := .missing
  /-- A motor that does not follow its model goes on. -/
  disableMotorModelChecking : Bool := false
  /-- Firmware known not to work is refused. -/
  strictFirmwareCheck : Bool := true
deriving DecidableEq, Repr

namespace DeviceConfig

/-- Settings that make no sense are refused. -/
def validate (c : DeviceConfig) : Except Error Unit := do
  c.mailbox.validate
  c.eeprom.validate
  c.cyclic.validate

end DeviceConfig

/-- What the driver knows of a board. -/
structure Device where
  config : DeviceConfig
  slave : Slave
  /-- The shared heating settings, where there are any. -/
  heatingSettings : Option HeatingSettings
  mailbox : Mailbox := Mailbox.fresh
  store : CollectedStore := CollectedStore.fresh
  cycle : CycleMachine
  actuator : Actuator := {}
  digitalOut : DigitalOut := {}
  /-- The output by which a controller asks for a motor trace. -/
  publishMotorTrace : DigitalOut := {}
  actuatorInfo : ActuatorInfo := ActuatorInfo.blank
  configInfo : ConfigInfo := {}
  /-- The greatest current that is commanded. -/
  maxCurrent : Float := 0.0
  /-- The offset that was handed to the collector last. -/
  cachedZeroOffset : Binary64 := .zero
  calibration : CalibrationStatus := .noCalibration
  /-- Whether an electrical model is attached. -/
  hasMotorModel : Bool := false
  /-- Whether a thermal model is attached. -/
  hasHeatingModel : Bool := false
  traceSample : TraceSample := {}

namespace Device

/-- A device that was not brought up yet. -/
def create (config : DeviceConfig) (slave : Slave) (heating : Option HeatingSettings) :
    Except Error Device := do
  config.validate
  return {
    config := config
    slave := slave
    heatingSettings := heating
    cycle := { limits := config.cyclic } }

/-- Amperes in a step of the current converter. -/
def currentScale (d : Device) : Float := d.configInfo.nominalCurrentScale.value

/-- Volts in a step of the voltage converter. -/
def voltageScale (d : Device) : Float := d.configInfo.nominalVoltageScale.value

/-- The gear between motor and joint. -/
def reduction (d : Device) : Float := d.actuatorInfo.reduction.value

/-- Torque in an ampere. -/
def torqueConstant (d : Device) : Float := d.actuatorInfo.torqueConstant.value

/-- The greatest board temperature seen, in degrees Celsius. -/
def maxBoardTemperature (d : Device) : Float := StatusFrame.celsius d.cycle.maxBoardTemperature

/-- The greatest bridge temperature seen, in degrees Celsius. -/
def maxBridgeTemperature (d : Device) : Float := StatusFrame.celsius d.cycle.maxBridgeTemperature

/-- The way to the board's local bus. -/
def channel {σ : Type} (d : Device) (link : Link σ) : Channel σ :=
  ⟨link, d.slave, d.config.mailbox⟩

end Device

namespace Channel

/-- The channel as a transport for the programmer. -/
def transport {σ : Type} (c : Channel σ) : Transport (Mailbox × σ) :=
  ⟨c.read, c.write, c.wait⟩

end Channel

end MotorBoard
