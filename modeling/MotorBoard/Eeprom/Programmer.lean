/-
# Reading and writing the memory chip

The programmer reaches the chip through the local bus.  It fills the page buffer, starts
the transfer engine, polls the engine until it is idle, and takes the answer out of the
buffer.  After a write it also polls the status of the chip, which goes on writing for
some time.  How often it polls is set by its limits.

All it needs is reads and writes of the local bus and a pause.  So it works over any
transport that has them.
-/
import MotorBoard.Call
import MotorBoard.Eeprom.SpiCommand
import MotorBoard.Record.ActuatorInfo
import MotorBoard.Record.HeatingConfig

namespace MotorBoard

/-- The limits of the programmer. -/
structure EepromLimits where
  /-- How often the transfer engine is asked whether it is idle. -/
  spiReadyAttempts : Nat := 10
  /-- How often the chip is asked whether a write is complete. -/
  eepromReadyAttempts : Nat := 20
  /-- The pause between two polls, in microseconds. -/
  pollIntervalUs : Nat := 100
  /-- More polls than this make a write slow, which is worth a warning only. -/
  slowWriteWarning : Nat := 10
deriving DecidableEq, Repr

namespace EepromLimits

/-- Limits that make no sense are refused. -/
def validate (l : EepromLimits) : Except Error Unit :=
  if l.spiReadyAttempts = 0 ∨ l.eepromReadyAttempts = 0 then
    .error (.invalidParameter "EEPROM poll attempts must be non-zero")
  else .ok ()

end EepromLimits

/-- Access to a local bus, with a state in `τ`. -/
structure Transport (τ : Type) where
  /-- Reads so many bytes at an address. -/
  read : UInt16 → Nat → Call τ Bytes
  /-- Writes bytes at an address. -/
  write : UInt16 → Bytes → Call τ Unit
  /-- Waits for a number of microseconds. -/
  wait : Nat → Call τ Unit

/-- The programmer of a board's memory chip. -/
structure Programmer (τ : Type) where
  transport : Transport τ
  limits : EepromLimits

namespace Programmer

/-- The size of a page on chips with large pages. -/
def pageSize : Nat := 264

/-- The number of pages. -/
def pageCount : UInt16 := 4096

/-- Where the page buffer stands on the local bus. -/
def bufferAddress : UInt16 := 0xF400

variable {τ : Type} (p : Programmer τ)

/-- The pause between two polls. -/
def pause : Call τ Unit := p.transport.wait p.limits.pollIntervalUs

/-- Refuses lengths and pages that do not exist. -/
def requireBounds (page : UInt16) (length : Nat) : Except Error Unit :=
  if pageSize < length then
    .error (.invalidParameter s!"EEPROM length {length} > {pageSize}")
  else if pageCount ≤ page then
    .error (.invalidParameter s!"EEPROM page {page} > {pageCount - 1}")
  else .ok ()

/-- Reads the register of the engine. -/
def readSpiCommand : Call τ SpiCommand := do
  let raw ← p.transport.read SpiCommand.address SpiCommand.size
  Call.ofExcept (SpiCommand.decode raw)

/-- Polls the engine at most so many times until it is idle. -/
def pollIdle : Nat → Call τ Unit
  | 0 => Call.fail (.spiEeprom "timed out waiting for SPI state machine")
  | attempts + 1 => do
    let stat ← p.readSpiCommand
    if stat.busy then
      p.pause
      pollIdle attempts
    else return ()

/-- Waits until the engine is idle. -/
def awaitIdle : Call τ Unit := p.pollIdle p.limits.spiReadyAttempts

/-- Polls the engine at most so many times until it has finished an operation, which it
has to show unchanged. -/
def pollFinished (operation : UInt8) : Nat → Call τ Unit
  | 0 => Call.fail (.spiEeprom "state machine stayed busy")
  | attempts + 1 => do
    let stat ← p.readSpiCommand
    if stat.operation ≠ operation then
      let got := Text.hex 1 stat.operation.toNat
      let expected := Text.hex 1 operation.toNat
      Call.fail (.spiEeprom s!"operation readback 0x{got}, expected 0x{expected}")
    else if stat.busy then
      p.pause
      pollFinished operation attempts
    else return ()

/-- Starts a command on the idle engine and waits until it is finished. -/
def sendSpiCommand (cmd : SpiCommand) : Call τ Unit := do
  p.awaitIdle
  p.transport.write SpiCommand.address cmd.encode
  p.pollFinished cmd.operation p.limits.spiReadyAttempts

/-- Reads the first bytes of a page.  Chips with small pages leave the end of the buffer
as it was; so the buffer is filled with zeros before. -/
def readPage (page : UInt16) (length : Nat) : Call τ Bytes := do
  if length = 0 then Call.fail (.invalidParameter "EEPROM read length 0")
  else
    Call.ofExcept (requireBounds page length)
    p.transport.write bufferAddress (Bytes.zeros pageSize)
    p.sendSpiCommand (.read page)
    let data ← p.transport.read bufferAddress length
    return data.padTo length 0

/-- Reads the status byte of the chip.  It arrives while the second byte goes out, and so
it stands in the second byte of the buffer. -/
def readStatus : Call τ UInt8 := do
  p.transport.write bufferAddress [ChipStatus.opcode, 0]
  p.sendSpiCommand (.arbitrary 2)
  let reply ← p.transport.read bufferAddress 2
  match reply[1]? with
  | some status => return status
  | none => Call.fail (.spiEeprom s!"status reply has {reply.length} bytes, expected 2")

/-- Polls the chip until it is ready, where so many polls are left and so many were made
before.  There is always one poll. -/
def pollReady (left tries : Nat) : Call τ Unit := do
  let status ← p.readStatus
  if ChipStatus.isReady status then return ()
  else
    match left with
    | 0 => Call.fail (.eeprom s!"still busy after {tries + 1} polls")
    | left' + 1 =>
      p.pause
      pollReady left' (tries + 1)

/-- Waits until the chip has completed a write. -/
def awaitReady : Call τ Unit := p.pollReady (p.limits.eepromReadyAttempts - 1) 0

/-- Writes a page; a short one is filled up with ones. -/
def writePage (page : UInt16) (data : Bytes) : Call τ Unit := do
  Call.ofExcept (requireBounds page data.length)
  p.awaitIdle
  p.transport.write bufferAddress (data.padTo pageSize 0xFF)
  p.sendSpiCommand (.write page)
  p.awaitReady

/-- Reads the actuator record. -/
def readActuatorInfo : Call τ ActuatorInfo := do
  let page ← p.readPage ActuatorInfo.page ActuatorInfo.size
  Call.ofExcept (ActuatorInfo.ofPage page)

/-- Reads the heating record. -/
def readHeatingConfig : Call τ HeatingConfig := do
  let page ← p.readPage HeatingConfig.page HeatingConfig.size
  Call.ofExcept (HeatingConfig.ofPage page)

/-- Stores an actuator record, which has to carry a valid check. -/
def programActuatorInfo (info : ActuatorInfo) : Call τ Unit :=
  if info.verifyCrc then p.writePage ActuatorInfo.page info.bytes
  else Call.fail (.crcMismatch "actuator info")

/-- Stores a heating record, which has to carry a valid check. -/
def programHeatingConfig (config : HeatingConfig) : Call τ Unit :=
  if config.verifyCrc then p.writePage HeatingConfig.page config.bytes
  else Call.fail (.crcMismatch "motor heating model config")

end Programmer

end MotorBoard
