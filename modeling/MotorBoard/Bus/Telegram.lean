/-
# Telegrams

A frame on the ring carries telegrams, each of them one read or one write of a slave's
memory.  A slave that acts on a telegram raises its working counter by one, and so a
telegram comes back with the number of slaves that acted on it.
-/
import MotorBoard.Bytes.Basic

namespace MotorBoard

/-- How a telegram names its slave. -/
inductive Addressing where
  /-- By the configured station address. -/
  | station
  /-- By the position on the ring. -/
  | position
deriving DecidableEq, Repr

/-- What a telegram asks for. -/
inductive Direction where
  | read
  | write
deriving DecidableEq, Repr

/-- One read or write of a slave's memory. -/
structure Telegram where
  direction : Direction
  addressing : Addressing
  /-- The station address or the ring position. -/
  slave : UInt16
  /-- The offset in the slave's memory. -/
  address : UInt16
  /-- The bytes to be written, or room for the bytes to be read. -/
  data : Bytes
  /-- How many slaves acted on it. -/
  workingCounter : UInt16 := 0
deriving DecidableEq, Repr

namespace Telegram

/-- A read of `length` bytes, not yet sent. -/
def read (addressing : Addressing) (slave address : UInt16) (length : Nat) : Telegram where
  direction := .read
  addressing := addressing
  slave := slave
  address := address
  data := Bytes.zeros length

/-- A write, not yet sent. -/
def write (addressing : Addressing) (slave address : UInt16) (data : Bytes) : Telegram where
  direction := .write
  addressing := addressing
  slave := slave
  address := address
  data := data

/-- Whether it is a read. -/
def isRead (t : Telegram) : Bool := t.direction == .read

/-- The telegram as it is sent again after its frame was lost. -/
def rewound (t : Telegram) : Telegram := { t with workingCounter := 0 }

end Telegram

end MotorBoard
