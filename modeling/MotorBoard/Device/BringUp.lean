/-
# Bringing up a board

Before its first cycle a board is asked what it is.  Its firmware has to be known to
work, its factory configuration is read, and so is the record of its actuator, which has
to be valid and of a known version.  Then the thermal model is set up, if the board asks
for one; the name of the actuator is claimed; and an offset that the board kept is taken
over.
-/
import MotorBoard.Device.Cycle
import MotorBoard.Device.Collect

namespace MotorBoard

/-- All that a bring-up works on. -/
structure Stage (σ μ : Type) where
  device : Device
  /-- The names claimed on the ring. -/
  registry : Registry
  /-- The state of the motor models. -/
  world : μ
  bus : σ

namespace Stage

variable {σ μ : Type}

/-- Device and bus. -/
def deviceAndBus : Part (Stage σ μ) (Device × σ) where
  get s := (s.device, s.bus)
  put p s := { s with device := p.1, bus := p.2 }

/-- Changes the device. -/
def changeDevice (f : Device → Device) : Call (Stage σ μ) Unit :=
  Call.modify fun s => { s with device := f s.device }

/-- Changes the names claimed on the ring, which may be refused. -/
def claim (f : Registry → Except Error Unit × Registry) : Call (Stage σ μ) Unit := do
  let result ← Call.update fun s =>
    let (result, registry) := f s.registry
    (result, { s with registry := registry })
  Call.ofExcept result

/-- Changes the state of the models. -/
def changeWorld {α : Type} (f : μ → α × μ) : Call (Stage σ μ) α :=
  Call.update fun s =>
    let (a, world) := f s.world
    (a, { s with world := world })

end Stage

namespace Device

variable {σ μ : Type} (link : Link σ) (models : Models μ)

/-- Whether the firmware of a slave is known to work. -/
def firmwareSupported (s : Slave) : Bool :=
  let r := s.revision
  if s.product = Product.wg005 then r.firmwareMajor == 1 && 7 ≤ r.firmwareMinor
  else !(r.firmwareMajor == 0 && r.firmwareMinor < 4)

/-- Refuses firmware that is known not to work, if the settings want that. -/
def checkFirmware (d : Device) : Except Error Unit :=
  if firmwareSupported d.slave || !d.config.strictFirmwareCheck then .ok ()
  else
    .error (.unsupportedFirmware d.slave.revision.firmwareMajor d.slave.revision.firmwareMinor)

/-- Takes the name of the actuator over. -/
def adoptName (name : String) (d : Device) : Device :=
  { d with
    actuator := { d.actuator with name := name }
    digitalOut := { d.digitalOut with name := name } }

/-- Sets up the thermal model, if the board has a valid record that asks for it and there
are settings for it.  A saved temperature that cannot be had is no failure. -/
def startHeating : Call (Stage σ μ) Unit := do
  let config ← Call.within Stage.deviceAndBus (overProgrammer link (·.readHeatingConfig))
  let s ← Call.get
  match s.device.heatingSettings with
  | none => return ()
  | some settings =>
    if config.verifyCrc && config.enforce then
      Stage.changeWorld fun w => ((), models.heatingBuild config.parameters s.device.actuator.name
        s.device.slave.hardwareId settings.saveDirectory w)
      if settings.loadSaveFiles then
        let _ ← Stage.changeWorld models.heatingLoad
      Call.ofExcept (← Stage.changeWorld models.heatingStart)
      Stage.changeDevice fun d => { d with hasHeatingModel := true }
    else return ()

/-- Claims the name of the board: as an actuator, unless the board has none, and as a
digital output. -/
def claimNames : Call (Stage σ μ) Unit := do
  let s ← Call.get
  if s.device.slave.product ≠ Product.wg021 then
    Stage.claim (Registry.registerActuator s.device.actuator.name)
  Stage.claim (Registry.registerDigitalOut s.device.actuator.name)

/-- The device with an offset that the board kept. -/
def adoptOffset (z : Binary64) (d : Device) : Device :=
  { d with
    actuator := { d.actuator with state := { d.actuator.state with zeroOffset := z } }
    cachedZeroOffset := z
    calibration := .savedCalibration
    store := (d.store.update fun c =>
      ((), { c with zeroOffset := z, cachedZeroOffset := z })).2 }

/-- Takes over the offset that the board kept, if there is one. -/
def restoreCalibration : Call (Stage σ μ) Unit := do
  match ← Call.attempt (Call.within Stage.deviceAndBus (readAppRam link)) with
  | .ok (some z) => Stage.changeDevice (adoptOffset z)
  | _ => return ()

/-- The part of a bring-up that a programmed board goes through. -/
def bringUpProgrammed (claim : Bool) (info : ActuatorInfo) (boardMax : Float) :
    Call (Stage σ μ) Unit := do
  Stage.changeDevice (adoptName info.name)
  startHeating link models
  if claim then claimNames
  let s ← Call.get
  if s.device.config.appRam = .present then restoreCalibration link
  Stage.changeDevice fun d =>
    { d with maxCurrent := Bound.lesser boardMax info.maxCurrent.value }

/-- Brings up a board.  With `claim` its name is claimed on the ring.  With
`allowUnprogrammed` a board without a valid record is accepted as it is, so that it can be
programmed, and so is a record of another version. -/
def bringUp (claim allowUnprogrammed : Bool) : Call (Stage σ μ) Unit := do
  let s ← Call.get
  Call.ofExcept s.device.checkFirmware
  let raw ← Call.within Stage.deviceAndBus
    (overChannel link fun c => c.read ConfigInfo.address ConfigInfo.size)
  let config ← Call.ofExcept (ConfigInfo.decode raw)
  Stage.changeDevice fun d => { d with configInfo := config }
  let info ← Call.within Stage.deviceAndBus (overProgrammer link (·.readActuatorInfo))
  Stage.changeDevice fun d => { d with actuatorInfo := info }
  if !info.verifyCrc then
    if allowUnprogrammed then
      Stage.changeDevice fun d => { d with maxCurrent := config.boardMaxCurrent }
    else Call.fail (.notProgrammed s.device.slave.position)
  else if (info.major ≠ 0 ∨ info.minor ≠ 2) ∧ !allowUnprogrammed then
    Call.fail (.unsupportedVersion "actuator info" info.major info.minor)
  else bringUpProgrammed link models claim info config.boardMaxCurrent

end Device

end MotorBoard
