/-
# The status frame

Once per cycle the board answers with a record of forty-four bytes.  It tells what the
board was told, what it measured, when, and where the encoder stands, and it ends in a
pad byte and a trailing checksum.
-/
import MotorBoard.ProcessData.Command

namespace MotorBoard

/-! The bits of the calibration byte. -/

namespace Calibration

/-- The limit sensor is on. -/
def sensor : UInt8 := 0x01

/-- The sensor was seen going on. -/
def risingEdge : UInt8 := 0x02

/-- The sensor was seen going off. -/
def fallingEdge : UInt8 := 0x04

end Calibration

/-- The record that a board sends in each cycle. -/
structure StatusFrame where
  mode : UInt8 := 0
  digitalOut : UInt8 := 0
  programmedPwm : Int16 := 0
  programmedCurrent : Int16 := 0
  measuredCurrent : Int16 := 0
  /-- Microseconds, counted around. -/
  timestamp : UInt32 := 0
  encoderCount : Int32 := 0
  encoderIndexPos : Int32 := 0
  numEncoderErrors : UInt16 := 0
  encoderStatus : UInt8 := 0
  calibrationReading : UInt8 := 0
  /-- The encoder count where the sensor last went on. -/
  lastRisingEdge : Int32 := 0
  /-- The encoder count where the sensor last went off. -/
  lastFallingEdge : Int32 := 0
  boardTemperature : UInt16 := 0
  bridgeTemperature : UInt16 := 0
  supplyVoltage : UInt16 := 0
  motorVoltage : Int16 := 0
  packetCount : UInt16 := 0
deriving DecidableEq, Repr

namespace StatusFrame

/-- The size of a status frame. -/
def size : Nat := 44

/-- The duty ratio that stands for one. -/
def fullPwm : Int16 := 0x4000

/-- The bytes of a frame, checksum included. -/
def encode (s : StatusFrame) : Bytes :=
  Checksum.sealed
    ([s.mode, s.digitalOut]
      ++ Bytes.ofInt16 s.programmedPwm ++ Bytes.ofInt16 s.programmedCurrent
      ++ Bytes.ofInt16 s.measuredCurrent ++ Bytes.ofWord32 s.timestamp
      ++ Bytes.ofInt32 s.encoderCount ++ Bytes.ofInt32 s.encoderIndexPos
      ++ Bytes.ofWord16 s.numEncoderErrors ++ [s.encoderStatus, s.calibrationReading]
      ++ Bytes.ofInt32 s.lastRisingEdge ++ Bytes.ofInt32 s.lastFallingEdge
      ++ Bytes.ofWord16 s.boardTemperature ++ Bytes.ofWord16 s.bridgeTemperature
      ++ Bytes.ofWord16 s.supplyVoltage ++ Bytes.ofInt16 s.motorVoltage
      ++ Bytes.ofWord16 s.packetCount ++ Bytes.zeros 1)

/-- The frame at the start of some bytes.  The checksum is not looked at. -/
def decode (b : Bytes) : Except Error StatusFrame := do
  requireLength b.length size "status record"
  return {
    mode := b.byteAt 0
    digitalOut := b.byteAt 1
    programmedPwm := b.int16At 2
    programmedCurrent := b.int16At 4
    measuredCurrent := b.int16At 6
    timestamp := b.word32At 8
    encoderCount := b.int32At 12
    encoderIndexPos := b.int32At 16
    numEncoderErrors := b.word16At 20
    encoderStatus := b.byteAt 22
    calibrationReading := b.byteAt 23
    lastRisingEdge := b.int32At 24
    lastFallingEdge := b.int32At 28
    boardTemperature := b.word16At 32
    bridgeTemperature := b.word16At 34
    supplyVoltage := b.word16At 36
    motorVoltage := b.int16At 38
    packetCount := b.word16At 40 }

@[simp] theorem length_encode (s : StatusFrame) : s.encode.length = size := by
  simp [encode, size, Bytes.zeros]

/-- A raw temperature in degrees Celsius.  The reading is signed, and a degree has 128
steps. -/
def celsius (raw : UInt16) : Float := 0.0078125 * .ofModel (.ofInt16 raw.toInt16)

end StatusFrame

end MotorBoard
