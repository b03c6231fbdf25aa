/-
# The calibration record

Boards with application memory keep the calibration offset of their joint there, over
restarts of the master.  The record has a version and a check, which covers all bytes
before it as they were read, the unused ones too.
-/
import MotorBoard.Bytes.Image
import MotorBoard.Crc32
import MotorBoard.Error

namespace MotorBoard

/-- The record with the calibration offset. -/
structure UserConfig where
  version : UInt8
  /-- Seven bytes without a use, which the check covers all the same. -/
  reserved : Image 7
  zeroOffset : Binary64
  crc : UInt32
deriving DecidableEq

namespace UserConfig

/-- The size of the record. -/
def size : Nat := 20

/-- Where the record stands on the local bus. -/
def address : UInt16 := 0x00C0

/-- The version of valid records. -/
def currentVersion : UInt8 := 1

/-- The bytes that the check covers. -/
def body (u : UserConfig) : Bytes :=
  [u.version] ++ u.reserved.bytes ++ Bytes.ofWord64 u.zeroOffset.bits

/-- The bytes of the record. -/
def encode (u : UserConfig) : Bytes := u.body ++ Bytes.ofWord32 u.crc

/-- The record at the start of some bytes. -/
def decode (b : Bytes) : Except Error UserConfig := do
  requireLength b.length size "user config ram"
  return {
    version := b.byteAt 0
    reserved := Image.ofBytes 7 0 (b.slice 1 7)
    zeroOffset := ⟨b.word64At 8⟩
    crc := b.word32At 16 }

/-- The check that the body asks for. -/
def expectedCrc (u : UserConfig) : UInt32 := Crc32.compute u.body

/-- A valid record with an offset. -/
def make (zeroOffset : Binary64) : UserConfig :=
  let u : UserConfig := ⟨currentVersion, Image.filled 7 0, zeroOffset, 0⟩
  { u with crc := u.expectedCrc }

/-- The offset of a valid record. -/
def validZeroOffset (u : UserConfig) : Option Binary64 :=
  if u.version = currentVersion ∧ u.expectedCrc = u.crc then some u.zeroOffset else none

@[simp] theorem length_encode (u : UserConfig) : u.encode.length = size := by
  simp [encode, body, size, u.reserved.length_bytes]

end UserConfig

end MotorBoard
