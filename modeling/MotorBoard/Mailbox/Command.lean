/-
# Mailbox commands

A board's local bus is reached through two mailboxes in the slave's memory.  A command
goes into the first one: a header of five bytes and, for a write, the payload with its
trailing checksum.  The header packs the length less one, a sequence number and the
direction into one word and sums to zero by itself.  The result of a read comes back in
the second mailbox, as payload and trailing checksum without a header.
-/
import MotorBoard.Bus.Telegram
import MotorBoard.Checksum
import MotorBoard.Error

namespace MotorBoard

namespace Mailbox

/-- The size of either mailbox. -/
def size : Nat := 512

/-- Where the mailbox of commands starts. -/
def commandAddress : UInt16 := 0x1400

/-- The last byte of the mailbox of commands.  Writing it makes the mailbox full. -/
def commandLast : UInt16 := 0x15FF

/-- Where the mailbox of results starts. -/
def resultAddress : UInt16 := 0x2400

/-- The last byte of the mailbox of results.  Reading it makes the mailbox empty. -/
def resultLast : UInt16 := 0x25FF

/-- The sync manager of the mailbox of commands. -/
def commandManager : UInt8 := 0

/-- The sync manager of the mailbox of results. -/
def resultManager : UInt8 := 1

/-- The size of a command's header. -/
def headerSize : Nat := 5

/-- The longest payload of a write: header, payload and checksum fill the mailbox. -/
def maxWriteLength : Nat := size - headerSize - 1

/-- The longest result that a read may ask for. -/
def maxReadLength : Nat := size - 2

/-- The sequence number after another one: one to seven in turn, never zero. -/
def nextSequence (current : UInt8) : UInt8 := current % 7 + 1

end Mailbox

/-- The header of a mailbox command. -/
structure CommandHeader where
  /-- The address on the local bus. -/
  address : UInt16
  /-- The length of the payload or of the result. -/
  length : Nat
  sequence : UInt8
  direction : Direction
deriving DecidableEq, Repr

namespace CommandHeader

/-- The bits of the word that hold the length less one. -/
def lengthMask : UInt16 := 0x0FFF

/-- The bits of a sequence number. -/
def sequenceMask : UInt16 := 0x7

/-- The bit of the word that marks a write. -/
def writeFlag : UInt16 := 0x8000

/-- The greatest length in a direction. -/
def limit : Direction → Nat
  | .read => Mailbox.maxReadLength
  | .write => Mailbox.maxWriteLength

/-- The name of a direction in messages. -/
def directionName : Direction → String
  | .read => "Read"
  | .write => "Write"

/-- A header, unless the length is out of bounds. -/
def build (address : UInt16) (length : Nat) (direction : Direction) (sequence : UInt8) :
    Except Error CommandHeader :=
  if length = 0 ∨ limit direction < length then
    .error (.invalidParameter
      s!"mailbox {directionName direction} length {length} outside 1..={limit direction}")
  else .ok ⟨address, length, sequence &&& 7, direction⟩

/-- The bit of a direction. -/
def directionBit : Direction → UInt16
  | .read => 0
  | .write => writeFlag

/-- The word with length, sequence number and direction.  The length less one wraps at
sixteen bits. -/
def word (h : CommandHeader) : UInt16 :=
  let length : UInt16 := UInt16.ofNat h.length - 1
  let sequence : UInt16 := h.sequence.toUInt16 &&& sequenceMask
  (length &&& lengthMask) ||| (sequence <<< 12) ||| directionBit h.direction

/-- The five bytes of a header. -/
def encode (h : CommandHeader) : Bytes :=
  Checksum.sealed (Bytes.ofWord16 h.address ++ Bytes.ofWord16 h.word)

/-- The header at the start of some bytes, unless it does not sum to zero. -/
def decode (b : Bytes) : Except Error CommandHeader := do
  requireLength b.length Mailbox.headerSize "mailbox header"
  if Checksum.verifies (b.take Mailbox.headerSize) then
    let w := b.word16At 2
    return {
      address := b.word16At 0
      length := (w &&& lengthMask).toNat + 1
      sequence := ((w >>> 12) &&& sequenceMask).toUInt8
      direction := if w &&& writeFlag = 0 then .read else .write }
  else throw .checksumMismatch

@[simp] theorem length_encode (h : CommandHeader) : h.encode.length = Mailbox.headerSize := by
  simp [encode, Mailbox.headerSize]

end CommandHeader

/-- A mailbox command: a header and, for a write, a payload. -/
structure MailboxCommand where
  header : CommandHeader
  payload : Bytes
deriving DecidableEq, Repr

namespace MailboxCommand

/-- The command that reads from the local bus. -/
def read (address : UInt16) (length : Nat) (sequence : UInt8) : Except Error MailboxCommand := do
  return ⟨← CommandHeader.build address length .read sequence, []⟩

/-- The command that writes to the local bus. -/
def write (address : UInt16) (data : Bytes) (sequence : UInt8) : Except Error MailboxCommand := do
  return ⟨← CommandHeader.build address data.length .write sequence, data⟩

/-- The bytes of a command. -/
def encode (c : MailboxCommand) : Bytes :=
  match c.header.direction with
  | .read => c.header.encode
  | .write => c.header.encode ++ Checksum.sealed c.payload

end MailboxCommand

end MotorBoard
