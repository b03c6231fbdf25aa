/-
# The factory configuration

A block of the local bus tells how the board was built: its identity, the gains of its
current loop and the scales of its converters.
-/
import MotorBoard.Bytes.Binary
import MotorBoard.Bytes.Basic
import MotorBoard.Error

namespace MotorBoard

/-- The factory configuration of a board. -/
structure ConfigInfo where
  productId : UInt32 := 0
  revision : UInt32 := 0
  serialNumber : UInt32 := 0
  currentLoopKp : UInt8 := 0
  currentLoopKi : UInt8 := 0
  /-- The greatest current, in steps of the current converter. -/
  absoluteCurrentLimit : UInt16 := 0
  /-- Amperes in a step of the current converter. -/
  nominalCurrentScale : Binary32 := .zero
  /-- Volts in a step of the voltage converter. -/
  nominalVoltageScale : Binary32 := .zero
  configurationStatus : UInt8 := 0
  safetyConfig : UInt8 := 0
  watchdogLimit : UInt16 := 0
deriving DecidableEq, Repr

namespace ConfigInfo

/-- The size of the block. -/
def size : Nat := 32

/-- Where the block stands on the local bus. -/
def address : UInt16 := 0x0080

/-- The bytes of the block; the last four are not used. -/
def encode (c : ConfigInfo) : Bytes :=
  Bytes.ofWord32 c.productId ++ Bytes.ofWord32 c.revision ++ Bytes.ofWord32 c.serialNumber
    ++ [c.currentLoopKp, c.currentLoopKi] ++ Bytes.ofWord16 c.absoluteCurrentLimit
    ++ Bytes.ofWord32 c.nominalCurrentScale.bits ++ Bytes.ofWord32 c.nominalVoltageScale.bits
    ++ [c.configurationStatus, c.safetyConfig] ++ Bytes.ofWord16 c.watchdogLimit
    ++ Bytes.zeros 4

/-- The block at the start of some bytes. -/
def decode (b : Bytes) : Except Error ConfigInfo := do
  requireLength b.length size "config info"
  return {
    productId := b.word32At 0
    revision := b.word32At 4
    serialNumber := b.word32At 8
    currentLoopKp := b.byteAt 12
    currentLoopKi := b.byteAt 13
    absoluteCurrentLimit := b.word16At 14
    nominalCurrentScale := ⟨b.word32At 16⟩
    nominalVoltageScale := ⟨b.word32At 20⟩
    configurationStatus := b.byteAt 24
    safetyConfig := b.byteAt 25
    watchdogLimit := b.word16At 26 }

@[simp] theorem length_encode (c : ConfigInfo) : c.encode.length = size := by
  simp [encode, size, Bytes.zeros]

/-- The greatest current of the board, in amperes. -/
def boardMaxCurrent (c : ConfigInfo) : Float :=
  c.absoluteCurrentLimit.toFloat * c.nominalCurrentScale.value

end ConfigInfo

end MotorBoard
