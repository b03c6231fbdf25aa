/-
# The diagnostics block

A block of the local bus holds measurements of the board about itself and counts of what
went wrong.  The counts have eight bits and go around.
-/
import MotorBoard.Bytes.Basic
import MotorBoard.Error

namespace MotorBoard

/-- How often the bridge was switched off, by cause. -/
structure SafetyCounts where
  undervoltage : UInt8 := 0
  overCurrent : UInt8 := 0
  boardOverTemp : UInt8 := 0
  bridgeOverTemp : UInt8 := 0
  operateDisable : UInt8 := 0
  watchdogDisable : UInt8 := 0
deriving DecidableEq, Repr

/-- The diagnostics block of a board. -/
structure DiagnosticsInfo where
  offsetCurrentA : Int16 := 0
  offsetCurrentB : Int16 := 0
  supplyCurrentIn : Int16 := 0
  supplyCurrentOut : UInt16 := 0
  pdoIrqCount : UInt8 := 0
  mailboxIrqCount : UInt8 := 0
  timeoutErrors : UInt8 := 0
  checksumErrors : UInt8 := 0
  safetyCounts : SafetyCounts := {}
deriving DecidableEq, Repr

namespace DiagnosticsInfo

/-- The size of the block. -/
def size : Nat := 20

/-- Where the block stands on the local bus. -/
def address : UInt16 := 0x0200

/-- The bytes of the block; two of them are not used. -/
def encode (d : DiagnosticsInfo) : Bytes :=
  Bytes.ofInt16 d.offsetCurrentA ++ Bytes.ofInt16 d.offsetCurrentB
    ++ Bytes.ofInt16 d.supplyCurrentIn ++ Bytes.ofWord16 d.supplyCurrentOut
    ++ [0, d.pdoIrqCount, d.mailboxIrqCount, 0, d.timeoutErrors, d.checksumErrors]
    ++ [d.safetyCounts.undervoltage, d.safetyCounts.overCurrent, d.safetyCounts.boardOverTemp,
      d.safetyCounts.bridgeOverTemp, d.safetyCounts.operateDisable,
      d.safetyCounts.watchdogDisable]

/-- The block at the start of some bytes. -/
def decode (b : Bytes) : Except Error DiagnosticsInfo := do
  requireLength b.length size "diagnostics info"
  return {
    offsetCurrentA := b.int16At 0
    offsetCurrentB := b.int16At 2
    supplyCurrentIn := b.int16At 4
    supplyCurrentOut := b.word16At 6
    pdoIrqCount := b.byteAt 9
    mailboxIrqCount := b.byteAt 10
    timeoutErrors := b.byteAt 12
    checksumErrors := b.byteAt 13
    safetyCounts := {
      undervoltage := b.byteAt 14
      overCurrent := b.byteAt 15
      boardOverTemp := b.byteAt 16
      bridgeOverTemp := b.byteAt 17
      operateDisable := b.byteAt 18
      watchdogDisable := b.byteAt 19 } }

@[simp] theorem length_encode (d : DiagnosticsInfo) : d.encode.length = size := by
  simp [encode, size]

end DiagnosticsInfo

end MotorBoard
