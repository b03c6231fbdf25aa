/-
# The transfer engine of the memory chip

A small engine moves bytes between the page buffer and the board's memory chip.  Its
register of three bytes holds a page number, an operation, a start bit and a busy bit.
-/
import MotorBoard.Bytes.Basic
import MotorBoard.Error

namespace MotorBoard

/-- What the engine can do. -/
inductive SpiOperation where
  /-- Copies a page of the chip into the buffer. -/
  | read
  /-- Copies the buffer into a page of the chip. -/
  | write
  /-- Sends the buffer to the chip and keeps what the chip answers. -/
  | arbitrary
deriving DecidableEq, Repr

namespace SpiOperation

/-- The number of an operation. -/
def code : SpiOperation → UInt8
  | read => 0
  | write => 1
  | arbitrary => 3

/-- The name of an operation. -/
def name : SpiOperation → String
  | read => "Read"
  | write => "Write"
  | arbitrary => "Arbitrary"

/-- The operation with a number. -/
def ofCode? (n : UInt8) : Option SpiOperation :=
  if n = 0 then some read else if n = 1 then some write else if n = 3 then some arbitrary else none

end SpiOperation

/-- The register of the engine. -/
structure SpiCommand where
  /-- The page, or the length less one of an arbitrary transfer. -/
  page : UInt16 := 0
  operation : UInt8 := 0
  start : Bool := false
  busy : Bool := false
deriving DecidableEq, Repr

namespace SpiCommand

/-- The size of the register. -/
def size : Nat := 3

/-- Where the register stands on the local bus. -/
def address : UInt16 := 0x0230

/-- Where the byte with operation and flags stands on the local bus. -/
def controlAddress : UInt16 := 0x0232

/-- The bits of the operation. -/
def operationMask : UInt8 := 0x0F

/-- The bit that starts a transfer. -/
def startBit : UInt8 := 0x10

/-- The bit of a transfer under way. -/
def busyBit : UInt8 := 0x20

/-- The command that starts an operation. -/
def build (page : UInt16) (op : SpiOperation) : SpiCommand := ⟨page, op.code, true, false⟩

/-- Starts reading a page. -/
def read (page : UInt16) : SpiCommand := build page .read

/-- Starts writing a page. -/
def write (page : UInt16) : SpiCommand := build page .write

/-- Starts an arbitrary transfer of so many bytes. -/
def arbitrary (length : Nat) : SpiCommand := build (UInt16.ofNat (length - 1)) .arbitrary

/-- The operation, if there is one with this number. -/
def operation? (c : SpiCommand) : Option SpiOperation := SpiOperation.ofCode? c.operation

/-- The byte with operation and flags. -/
def control (c : SpiCommand) : UInt8 :=
  (c.operation &&& operationMask) ||| (if c.start then startBit else 0)
    ||| (if c.busy then busyBit else 0)

/-- The bytes of the register. -/
def encode (c : SpiCommand) : Bytes := Bytes.ofWord16 c.page ++ [c.control]

/-- The register at the start of some bytes. -/
def decode (b : Bytes) : Except Error SpiCommand := do
  requireLength b.length size "SPI command"
  let control := b.byteAt 2
  return {
    page := b.word16At 0
    operation := control &&& operationMask
    start := control &&& startBit != 0
    busy := control &&& busyBit != 0 }

@[simp] theorem length_encode (c : SpiCommand) : c.encode.length = size := by
  simp [encode, size]

end SpiCommand

/-! The memory chip's own status byte. -/

namespace ChipStatus

/-- The command byte that asks for the status. -/
def opcode : UInt8 := 0xD7

/-- Set on chips with pages of 256 bytes. -/
def smallPages : UInt8 := 0x01

/-- Set when no write is under way. -/
def ready : UInt8 := 0x80

/-- Whether a status byte says that the chip is ready. -/
def isReady (status : UInt8) : Bool := status &&& ready == ready

/-- Whether a status byte tells of small pages. -/
def hasSmallPages (status : UInt8) : Bool := status &&& smallPages == smallPages

end ChipStatus

end MotorBoard
