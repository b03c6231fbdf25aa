/-
# What can go wrong, and how it reads

An operation on a board fails for one of the causes listed here.  Each cause carries what
its message needs, and all messages are built in one place.
-/
import MotorBoard.Text.Messages

namespace MotorBoard

/-- The state of a slave on the ring, which the master alone changes. -/
inductive BusState where
  | init
  | preOp
  | boot
  | safeOp
  | op
deriving DecidableEq, Repr, Inhabited

namespace BusState

/-- The name of a state. -/
def name : BusState → String
  | init => "Init"
  | preOp => "PreOp"
  | boot => "Boot"
  | safeOp => "SafeOp"
  | op => "Op"

/-- The state with a name. -/
def ofName? (s : String) : Option BusState :=
  [init, preOp, boot, safeOp, op].find? fun state => state.name == s

/-- The mailboxes work once the sync managers are set up. -/
def allowsMailbox : BusState → Bool
  | safeOp => true
  | op => true
  | _ => false

end BusState

/-- Why an operation on a board failed. -/
inductive Error where
  /-- The slave is in a state without mailboxes. -/
  | invalidBusState (state : BusState)
  /-- Frames were lost more often than allowed. -/
  | packetLoss (what : String)
  /-- Nobody, or not everybody, acted on a telegram. -/
  | workingCounter (what : String)
  /-- More than one device acted on a telegram meant for one. -/
  | multipleResponders (count : UInt16)
  /-- A mailbox result or header does not sum to zero. -/
  | checksumMismatch
  /-- The board did not act in time. -/
  | timeout (what : String)
  /-- A lock was left behind by a caller that died. -/
  | lockFailed (name : String)
  /-- A lost mailbox result was not posted again. -/
  | repeatRequest (what : String)
  /-- The transfer engine in front of the memory chip misbehaved. -/
  | spiEeprom (what : String)
  /-- The memory chip itself misbehaved. -/
  | eeprom (what : String)
  /-- A record to be stored carries a wrong check. -/
  | crcMismatch (what : String)
  /-- A record has a layout that is not known. -/
  | unsupportedVersion (what : String) (major minor : UInt16)
  /-- The firmware of the board is known not to work. -/
  | unsupportedFirmware (major minor : UInt8)
  /-- The board at this ring position carries no valid record. -/
  | notProgrammed (position : UInt16)
  /-- A name is taken already. -/
  | duplicateName (what : String)
  /-- A caller asked for something that cannot be done. -/
  | invalidParameter (what : String)
  /-- More bytes than a mailbox holds. -/
  | bufferOverflow
  /-- The board was not brought up yet. -/
  | notInitialized
deriving DecidableEq, Repr

namespace Error

/-- The name of a cause. -/
def name : Error → String
  | invalidBusState _ => "InvalidBusState"
  | packetLoss _ => "PacketLoss"
  | workingCounter _ => "WorkingCounter"
  | multipleResponders _ => "MultipleResponders"
  | checksumMismatch => "ChecksumMismatch"
  | timeout _ => "Timeout"
  | lockFailed _ => "LockFailed"
  | repeatRequest _ => "RepeatRequest"
  | spiEeprom _ => "SpiEeprom"
  | eeprom _ => "Eeprom"
  | crcMismatch _ => "CrcMismatch"
  | unsupportedVersion _ _ _ => "UnsupportedVersion"
  | unsupportedFirmware _ _ => "UnsupportedFirmware"
  | notProgrammed _ => "NotProgrammed"
  | duplicateName _ => "DuplicateName"
  | invalidParameter _ => "InvalidParameter"
  | bufferOverflow => "BufferOverflow"
  | notInitialized => "NotInitialized"

/-- The text that tells a reader what went wrong. -/
def message : Error → String
  | invalidBusState state => s!"cannot use mailbox in bus state {state.name}"
  | packetLoss what => s!"too much packet loss: {what}"
  | workingCounter what => s!"working counter error: {what}"
  | multipleResponders count =>
    s!"more than one device ({count.toNat}) responded to an addressed request"
  | checksumMismatch => "checksum error reading mailbox data"
  | timeout what => s!"timed out: {what}"
  | lockFailed name => s!"could not acquire {name} lock"
  | repeatRequest what => s!"mailbox repeat request failed: {what}"
  | spiEeprom what => s!"SPI EEPROM error: {what}"
  | eeprom what => s!"EEPROM error: {what}"
  | crcMismatch what => s!"CRC mismatch in {what}"
  | unsupportedVersion what major minor =>
    s!"unsupported {what} version {major.toNat}.{minor.toNat}"
  | unsupportedFirmware major minor =>
    s!"unsupported firmware revision {major.toNat}.{Text.decimal 2 minor.toNat}"
  | notProgrammed position => s!"device #{Text.decimal 2 position.toNat} is not programmed"
  | duplicateName what => s!"{what} is already registered"
  | invalidParameter what => s!"invalid parameter: {what}"
  | bufferOverflow => "buffer overflow"
  | notInitialized => "device not initialized"

end Error

/-- Refuses a string shorter than the record it should hold. -/
def requireLength (length size : Nat) (what : String) : Except Error Unit :=
  if length < size then
    .error (.invalidParameter s!"{what} needs {size} bytes, got {length}")
  else .ok ()

section

variable {length size : Nat} {what : String}

theorem requireLength_of_le (h : size ≤ length) : requireLength length size what = .ok () :=
  if_neg (Nat.not_lt.2 h)

theorem requireLength_of_lt (h : length < size) : requireLength length size what =
    .error (.invalidParameter s!"{what} needs {size} bytes, got {length}") :=
  if_pos h

end

end MotorBoard
