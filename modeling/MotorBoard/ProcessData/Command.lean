/-
# The command frame

Once per cycle the master sends a record of eight bytes: a mode, the digital output, the
programmed duty ratio and current, a pad byte, and a trailing checksum.
-/
import MotorBoard.Checksum
import MotorBoard.Error

namespace MotorBoard

/-! The bits of the mode byte, which command and status share.  No bit means off. -/

namespace Mode

/-- The mode of a board that drives nothing. -/
def off : UInt8 := 0

/-- The bridge is switched on. -/
def enable : UInt8 := 0x01

/-- The current loop is closed. -/
def current : UInt8 := 0x02

/-- Asks to leave a safety lockout. -/
def safetyReset : UInt8 := 0x10

/-- The board is in a safety lockout. -/
def safetyLockout : UInt8 := 0x20

/-- Whether a mode byte has a bit. -/
def has (mode bit : UInt8) : Bool := mode &&& bit == bit

end Mode

/-- The record that the master sends in each cycle. -/
structure CommandFrame where
  mode : UInt8 := 0
  digitalOut : UInt8 := 0
  programmedPwm : Int16 := 0
  programmedCurrent : Int16 := 0
deriving DecidableEq, Repr

namespace CommandFrame

/-- The size of a command frame. -/
def size : Nat := 8

/-- The bytes of a frame, checksum included. -/
def encode (c : CommandFrame) : Bytes :=
  Checksum.sealed
    ([c.mode, c.digitalOut] ++ Bytes.ofInt16 c.programmedPwm ++ Bytes.ofInt16 c.programmedCurrent
      ++ Bytes.zeros 1)

/-- The frame at the start of some bytes.  The checksum is not looked at. -/
def decode (b : Bytes) : Except Error CommandFrame := do
  requireLength b.length size "command record"
  return {
    mode := b.byteAt 0
    digitalOut := b.byteAt 1
    programmedPwm := b.int16At 2
    programmedCurrent := b.int16At 4 }

@[simp] theorem length_encode (c : CommandFrame) : c.encode.length = size := by
  simp [encode, size, Bytes.zeros]

end CommandFrame

end MotorBoard
