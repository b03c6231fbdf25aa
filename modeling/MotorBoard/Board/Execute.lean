/-
# How the board executes commands

A full mailbox of commands makes the board act.  It checks the header, and for a write the
payload; it reads or writes its local bus; and after a read it posts the result.  A write
to the control byte of the transfer engine starts the engine.  Ranges outside of the
local bus kill the board in the middle of what it does.
-/
import MotorBoard.Board.Basic
import MotorBoard.Call
import MotorBoard.Eeprom.Programmer

namespace MotorBoard

namespace Board

/-- Whether a range of so many bytes has a cell. -/
def covers (start length cell : Nat) : Bool := start ≤ cell && cell < start + length

/-- A value without which the board cannot go on. -/
def orDie {α : Type} : Option α → Call Board α
  | some a => pure a
  | none => Call.stop .died

/-- Reads the local bus. -/
def loadBus (start length : Nat) : Call Board Bytes := do
  let b ← Call.get
  orDie (b.localBus.load? start length)

/-- Writes to the local bus. -/
def storeBus (start : Nat) (data : Bytes) : Call Board Unit := do
  let b ← Call.get
  let bus ← orDie (b.localBus.store? start data)
  Call.set { b with localBus := bus }

/-- What the chip answers to a transfer of its status: whether a write is under way, which
it forgets after so many looks, and whether its pages are small. -/
def chipStatus (b : Board) : UInt8 :=
  (if 0 < b.chipBusy then 0 else ChipStatus.ready)
    ||| (if b.pageSize = 264 then 0 else ChipStatus.smallPages)

/-- Moves bytes between chip and buffer.  A transfer has the size of the chip's pages. -/
def transfer (cmd : SpiCommand) : Call Board Unit := do
  let b ← Call.get
  let buffer := Programmer.bufferAddress.toNat
  match cmd.operation? with
  | some .read =>
    if b.pageSize ≤ 264 then
      storeBus buffer ((b.pages cmd.page).bytes.take b.pageSize)
    else Call.stop .died
  | some .write =>
    if b.pageSize ≤ 264 then
      let data ← loadBus buffer b.pageSize
      Call.modify fun b =>
        { (b.setPage cmd.page ((b.pages cmd.page).overwrite 0 data)) with
          chipBusy := b.chipBusyPolls }
    else Call.stop .died
  | some .arbitrary =>
    if b.localBus.get buffer = ChipStatus.opcode then
      storeBus (buffer + 1) [b.chipStatus]
      Call.modify fun b => { b with chipBusy := b.chipBusy - 1 }
    else return ()
  | none => return ()

/-- What the engine shows as its operation after a transfer. -/
def echo (b : Board) (cmd : SpiCommand) : UInt8 :=
  let op := cmd.operation &&& SpiCommand.operationMask
  if b.corruptEcho then op ^^^ 0x04 else op

/-- Runs the engine.  Afterwards it shows its operation and is busy for a while. -/
def runSpi (cmd : SpiCommand) : Call Board Unit := do
  transfer cmd
  let b ← Call.get
  storeBus SpiCommand.controlAddress.toNat [b.echo cmd]
  Call.modify fun b => { b with spiBusy := b.spiBusyPolls }

/-- Executes a write.  One that covers the control byte of the engine may start it. -/
def writeBus (address : UInt16) (data : Bytes) : Call Board Unit := do
  storeBus address.toNat data
  if covers address.toNat data.length SpiCommand.controlAddress.toNat then
    let raw ← loadBus SpiCommand.address.toNat SpiCommand.size
    match SpiCommand.decode raw with
    | .ok cmd => if cmd.start then runSpi cmd
    | .error _ => return ()

/-- Executes a read.  One that covers the control byte of a busy engine shows it busy and
brings the end of that nearer. -/
def readBus (address : UInt16) (length : Nat) : Call Board Bytes := do
  let data ← loadBus address.toNat length
  let b ← Call.get
  let control := SpiCommand.controlAddress.toNat
  if covers address.toNat length control && 0 < b.spiBusy then
    Call.set { b with spiBusy := b.spiBusy - 1 }
    return data.modify (control - address.toNat) (· ||| SpiCommand.busyBit)
  else return data

/-- Posts a result. -/
def post (result : Bytes) : Call Board Unit := do
  let b ← Call.get
  let memory ← orDie (b.memory.store? Mailbox.resultAddress.toNat result)
  Call.set { b with memory := memory, resultFull := true }

/-- A result with the lowest bit of its first byte turned over. -/
def corrupted (result : Bytes) : Bytes := result.modify 0 (· ^^^ 0x01)

/-- Keeps a result for requests to repeat it and posts it, corrupted if that is due. -/
def answer (result : Bytes) : Call Board Unit := do
  let b ← Call.get
  Call.set { b with lastResult := result, corruptNext := false }
  post (if b.corruptNext then corrupted result else result)

/-- The payload that a header announces, trailing checksum included. -/
def payload (b : Board) (h : CommandHeader) : Bytes :=
  b.memory.range (Mailbox.commandAddress.toNat + Mailbox.headerSize) (h.length + 1)

/-- Executes the command with a header. -/
def executeHeader (h : CommandHeader) : Call Board Unit := do
  Call.modify fun b => { b with commands := b.commands + 1 }
  let b ← Call.get
  match h.direction with
  | .write =>
    let payload := b.payload h
    if Checksum.verifies payload then writeBus h.address (payload.take h.length) else return ()
  | .read =>
    let data ← readBus h.address h.length
    answer (Checksum.sealed data)

/-- Executes what stands in the mailbox of commands, if its header is valid. -/
def execute : Call Board Unit := do
  let b ← Call.get
  match CommandHeader.decode (b.memory.range Mailbox.commandAddress.toNat Mailbox.headerSize) with
  | .ok h => executeHeader h
  | .error _ => return ()

end Board

end MotorBoard
