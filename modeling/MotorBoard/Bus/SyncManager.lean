/-
# Sync managers

A sync manager guards one mailbox of the slave.  Its register block tells whether the
mailbox is full, and for the mailbox of results it carries a request bit and an
acknowledge bit: toggling the request asks the board to post its last result once more,
and the board then makes the two bits equal.
-/
import MotorBoard.Bus.Link
import MotorBoard.Slave

namespace MotorBoard

/-- The register block of one sync manager. -/
structure SyncManager where
  /-- Where the mailbox starts in the slave's memory. -/
  startAddress : UInt16
  /-- The size of the mailbox. -/
  length : UInt16
  control : UInt8
  status : UInt8
  activate : UInt8
  /-- What the board's side controls. -/
  boardControl : UInt8
deriving DecidableEq, Repr

namespace SyncManager

/-- The size of a register block. -/
def size : Nat := 8

/-- Where the first register block starts. -/
def base : UInt16 := 0x0800

/-- The status bit of a full mailbox. -/
def fullBit : UInt8 := 0x08

/-- The activate bit that switches the sync manager on. -/
def enableBit : UInt8 := 0x01

/-- The activate bit that asks for the last result once more. -/
def requestBit : UInt8 := 0x02

/-- The board's bit that acknowledges such a request. -/
def ackBit : UInt8 := 0x02

/-- Where the register block of sync manager `num` starts. -/
def baseAddress (num : UInt8) : UInt16 := base + 8 * num.toUInt16

/-- The address of its status register. -/
def statusAddress (num : UInt8) : UInt16 := baseAddress num + 5

/-- The address of its activate register. -/
def activateAddress (num : UInt8) : UInt16 := baseAddress num + 6

/-- Whether a status register says that the mailbox is full. -/
def isFull (status : UInt8) : Bool := status &&& fullBit != 0

/-- Whether the mailbox is full. -/
def mailboxFull (sm : SyncManager) : Bool := isFull sm.status

/-- The request bit. -/
def repeatRequest (sm : SyncManager) : Bool := sm.activate &&& requestBit != 0

/-- The acknowledge bit. -/
def repeatAck (sm : SyncManager) : Bool := sm.boardControl &&& ackBit != 0

/-- The registers in their order. -/
def encode (sm : SyncManager) : Bytes :=
  Bytes.ofWord16 sm.startAddress ++ Bytes.ofWord16 sm.length ++
    [sm.control, sm.status, sm.activate, sm.boardControl]

/-- The register block at the start of some bytes. -/
def decode (b : Bytes) : Except Error SyncManager := do
  requireLength b.length size "sync manager"
  return {
    startAddress := b.word16At 0
    length := b.word16At 2
    control := b.byteAt 4
    status := b.byteAt 5
    activate := b.byteAt 6
    boardControl := b.byteAt 7 }

@[simp] theorem length_encode (sm : SyncManager) : sm.encode.length = size := by
  simp [encode, size]

/-- The block with the request bit turned over. -/
def toggleRequest (sm : SyncManager) : SyncManager :=
  { sm with activate := sm.activate ^^^ requestBit }

/-- Reads the register block of a slave's sync manager. -/
def read {σ : Type} (link : Link σ) (slave : Slave) (num : UInt8) : Call σ SyncManager := do
  let raw ← link.readMemory .station slave.station (baseAddress num) size
  Call.ofExcept (decode raw)

/-- Writes the activate register alone; the others belong to the master. -/
def writeActivate {σ : Type} (sm : SyncManager) (link : Link σ) (slave : Slave) (num : UInt8) :
    Call σ Unit :=
  link.writeMemory .station slave.station (activateAddress num) [sm.activate]

end SyncManager

end MotorBoard
