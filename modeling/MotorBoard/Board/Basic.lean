/-
# A simulated board

The simulated board has what the driver can tell about a real one: the memory of the slave
with its two mailboxes and their sync managers, the local bus behind them, and a memory
chip behind a page buffer.  It can be set to misbehave, and faults can be queued that hit
single frames on the ring.
-/
import MotorBoard.Board.Memory
import MotorBoard.Bus.SyncManager
import MotorBoard.Bytes.Image
import MotorBoard.Mailbox.Command

namespace MotorBoard

/-- What goes wrong with a frame. -/
inductive Fault where
  /-- The frame never reaches the board. -/
  | loseRequest
  /-- The board acts on the frame, but it never comes back. -/
  | loseResponse
  /-- All telegrams come back with this working counter. -/
  | workingCounter (n : UInt16)
deriving DecidableEq, Repr

/-- Which frames a fault can hit. -/
inductive Trigger where
  | anyFrame
  /-- Frames that read a mailbox result, more of it than one byte. -/
  | resultRead
  /-- Frames that write into the mailbox of commands. -/
  | commandWrite
deriving DecidableEq, Repr

namespace Trigger

/-- Whether a frame is of this kind. -/
def matchesFrame (t : Trigger) (telegrams : List Telegram) : Bool :=
  match t with
  | anyFrame => true
  | resultRead =>
    telegrams.any fun t => t.isRead && t.address == Mailbox.resultAddress && 1 < t.data.length
  | commandWrite => telegrams.any fun t => !t.isRead && t.address == Mailbox.commandAddress

end Trigger

/-- A simulated board. -/
structure Board where
  station : UInt16
  position : UInt16
  /-- The memory of the slave, the registers left out. -/
  memory : Memory 0x3000 := Memory.blank _
  localBus : Memory 0x10000 := Memory.blank _
  /-- The pages of the memory chip. -/
  pages : UInt16 → Image 264 := fun _ => Image.filled 264 0xFF
  /-- The mailbox of commands is full. -/
  commandFull : Bool := false
  /-- The mailbox of results is full. -/
  resultFull : Bool := false
  /-- The last result as it was before any corruption. -/
  lastResult : Bytes := []
  repeatRequest : Bool := false
  repeatAck : Bool := false
  /-- The faults that are still to come, oldest first. -/
  faults : List (Trigger × Fault) := []
  /-- How many looks at the transfer engine will still find it busy. -/
  spiBusy : Nat := 0
  /-- How many looks at the memory chip will still find it busy. -/
  chipBusy : Nat := 0
  /-- The next result will be posted with a bit turned over. -/
  corruptNext : Bool := false
  /-- Frames sent to the board, the lost ones too. -/
  frames : Nat := 0
  /-- Commands with a valid header that were executed. -/
  commands : Nat := 0
  /-- The board posts its last result again when it is asked to. -/
  supportsRepeat : Bool := true
  /-- How long the transfer engine stays busy after a transfer. -/
  spiBusyPolls : Nat := 0
  /-- How long the memory chip stays busy after a write. -/
  chipBusyPolls : Nat := 0
  /-- The transfer engine shows a wrong operation. -/
  corruptEcho : Bool := false
  /-- Commands stay in their mailbox and are not executed. -/
  holdCommands : Bool := false
  /-- The size of the chip's pages. -/
  pageSize : Nat := 264
  /-- A board that is not there answers nothing. -/
  present : Bool := true

namespace Board

/-- Whether a telegram is meant for the board. -/
def isAddressed (b : Board) (t : Telegram) : Bool :=
  match t.addressing with
  | .station => t.slave == b.station
  | .position => t.slave == b.position

/-- Queues a fault a number of times; each of them hits one of the frames that it can hit. -/
def inject (trigger : Trigger) (fault : Fault) (times : Nat) (b : Board) : Board :=
  { b with faults := b.faults ++ List.replicate times (trigger, fault) }

/-- The first fault in a queue that can hit a frame, and the queue without it. -/
def nextFault (telegrams : List Telegram) :
    List (Trigger × Fault) → Option Fault × List (Trigger × Fault)
  | [] => (none, [])
  | (trigger, fault) :: rest =>
    if trigger.matchesFrame telegrams then (some fault, rest)
    else
      let r := nextFault telegrams rest
      (r.1, (trigger, fault) :: r.2)

/-- Turns over a bit of the next result. -/
def corruptNextResult (b : Board) : Board := { b with corruptNext := true }

/-- Puts a stale result into the mailbox of results. -/
def postGarbage (b : Board) : Board :=
  { b with
    memory := b.memory.write Mailbox.resultAddress.toNat [0xDE, 0xAD, 0xBE, 0xEF]
    resultFull := true }

/-- Writes to the local bus from the side of the board, inside its bounds. -/
def poke? (address : UInt16) (data : Bytes) (b : Board) : Option Board :=
  (b.localBus.store? address.toNat data).map fun m => { b with localBus := m }

/-- Reads the local bus from the side of the board, inside its bounds. -/
def peek? (address : UInt16) (length : Nat) (b : Board) : Option Bytes :=
  b.localBus.load? address.toNat length

/-- The board with one page of its chip replaced. -/
def setPage (page : UInt16) (im : Image 264) (b : Board) : Board :=
  { b with pages := fun p => if p = page then im else b.pages p }

/-- Fills a page of the chip; the rest of it is erased.  More than a page is refused. -/
def fillPage? (page : UInt16) (data : Bytes) (b : Board) : Option Board :=
  if data.length ≤ 264 then some (b.setPage page (Image.ofBytes 264 0xFF data)) else none

/-- The sync manager of the mailbox of commands. -/
def commandManager (b : Board) : SyncManager where
  startAddress := Mailbox.commandAddress
  length := UInt16.ofNat Mailbox.size
  control := 0x26
  status := if b.commandFull then SyncManager.fullBit else 0
  activate := SyncManager.enableBit
  boardControl := 0

/-- The sync manager of the mailbox of results. -/
def resultManager (b : Board) : SyncManager where
  startAddress := Mailbox.resultAddress
  length := UInt16.ofNat Mailbox.size
  control := 0x22
  status := if b.resultFull then SyncManager.fullBit else 0
  activate :=
    if b.repeatRequest then SyncManager.enableBit ||| SyncManager.requestBit
    else SyncManager.enableBit
  boardControl := if b.repeatAck then SyncManager.ackBit else 0

/-- The registers of both sync managers. -/
def registers (b : Board) : Bytes := b.commandManager.encode ++ b.resultManager.encode

end Board

end MotorBoard
