/-
# How the board acts on frames

The board acts on the telegrams of a frame one after the other.  A read of the last byte
of a result empties its mailbox, and a write of the last byte of a command fills its
mailbox, which makes the board execute it.  The mailboxes refuse what does not fit their
condition.  A ring with the board on it and a clock makes a link.
-/
import MotorBoard.Board.Execute
import MotorBoard.Bus.Link

namespace MotorBoard

namespace Board

/-- Whether an address lies in the mailbox of results. -/
def inResults (address : Nat) : Bool := covers Mailbox.resultAddress.toNat Mailbox.size address

/-- Whether an address lies in the mailbox of commands. -/
def inCommands (address : Nat) : Bool := covers Mailbox.commandAddress.toNat Mailbox.size address

/-- Whether an address lies in the registers of the sync managers. -/
def inRegisters (address : Nat) : Bool :=
  covers SyncManager.base.toNat (2 * SyncManager.size) address

/-- Reads from the mailbox of results, which has to be full.  Taking its last byte empties
it. -/
def readResult (start length : Nat) : Call Board (Option Bytes) := do
  let b ← Call.get
  if b.resultFull then
    let data ← orDie (b.memory.load? start length)
    if covers start length Mailbox.resultLast.toNat then Call.set { b with resultFull := false }
    return some data
  else return none

/-- Reads from the registers of the sync managers; what reaches behind them is refused. -/
def readRegisters (b : Board) (start length : Nat) : Option Bytes :=
  let offset := start - SyncManager.base.toNat
  if offset + length ≤ 2 * SyncManager.size then some (b.registers.slice offset length) else none

/-- Reads the memory of the slave. -/
def read (address : UInt16) (length : Nat) : Call Board (Option Bytes) := do
  let start := address.toNat
  if inResults start then readResult start length
  else if inCommands start then return none
  else
    let b ← Call.get
    if inRegisters start then return b.readRegisters start length
    else return b.memory.load? start length

/-- Executes the command that has just filled its mailbox, which is empty afterwards. -/
def accept : Call Board Unit := do
  Call.modify fun b => { b with commandFull := true }
  let b ← Call.get
  if b.holdCommands then return ()
  else
    execute
    Call.modify fun b => { b with commandFull := false }

/-- Writes into the mailbox of commands, which has to be empty. -/
def writeCommand (start : Nat) (data : Bytes) : Call Board Bool := do
  let b ← Call.get
  if b.commandFull || Mailbox.commandAddress.toNat + Mailbox.size < start + data.length then
    return false
  else
    Call.set { b with memory := b.memory.write start data }
    if covers start data.length Mailbox.commandLast.toNat then accept
    return true

/-- Takes a request bit in.  When it was turned over, a board that can do so posts its last
result again and acknowledges. -/
def setRequest (request : Bool) : Call Board Unit := do
  let b ← Call.get
  if request = b.repeatRequest then return ()
  else
    Call.set { b with repeatRequest := request }
    if b.supportsRepeat then
      post b.lastResult
      Call.modify fun b => { b with repeatAck := request }

/-- Writes to the registers of the sync managers.  Only the activate register of the
mailbox of results does anything. -/
def writeRegisters (start : Nat) (data : Bytes) : Call Board Unit :=
  let activate := (SyncManager.activateAddress Mailbox.resultManager).toNat
  if activate < start then return ()
  else
    match data[activate - start]? with
    | some byte => setRequest (byte &&& SyncManager.requestBit != 0)
    | none => return ()

/-- Writes to the memory of the slave. -/
def write (address : UInt16) (data : Bytes) : Call Board Bool := do
  let start := address.toNat
  if inCommands start then writeCommand start data
  else if inResults start then return false
  else if inRegisters start then
    writeRegisters start data
    return true
  else
    let b ← Call.get
    match b.memory.store? start data with
    | some memory =>
      Call.set { b with memory := memory }
      return true
    | none => return false

/-- Acts on a telegram.  What the board does not take stays as it is. -/
def act (t : Telegram) : Call Board Telegram := do
  let b ← Call.get
  if b.present && b.isAddressed t then
    match t.direction with
    | .read =>
      match ← read t.address t.data.length with
      | some data => return { t with data := data, workingCounter := t.workingCounter + 1 }
      | none => return t
    | .write =>
      if ← write t.address t.data then return { t with workingCounter := t.workingCounter + 1 }
      else return t
  else return t

/-- Acts on the telegrams of a frame one after the other. -/
def actAll : List Telegram → Call Board (List Telegram)
  | [] => pure []
  | t :: rest => do
    let t' ← act t
    let rest' ← actAll rest
    return t' :: rest'

/-- What comes of a frame that reached the board, given the fault that hits it. -/
def deliver (fault : Option Fault) (telegrams : List Telegram) : Exchange :=
  match fault with
  | none => .returned telegrams
  | some (.workingCounter n) =>
    .returned (telegrams.map fun t => { t with workingCounter := n })
  | some _ => .lost telegrams

/-- Takes a frame.  The first fault in the queue that can hit it is used up. -/
def exchange (telegrams : List Telegram) (b : Board) : Exchange × Board :=
  let (fault, faults) := nextFault telegrams b.faults
  let b := { b with frames := b.frames + 1, faults := faults }
  if fault = some .loseRequest then (.lost telegrams, b)
  else
    match actAll telegrams b with
    | (.ok ts, b) => (deliver fault ts, b)
    | (.error _, b) => (.died, b)

end Board

/-- A ring with one board, and a clock that moves only in pauses. -/
structure Ring where
  board : Board
  /-- Microseconds. -/
  clock : Nat := 0

namespace Ring

/-- The link to a ring.  Polls change nothing on the board, and every poll that a fault hits
uses this fault up, so the ring has settled after as many polls as there are faults. -/
def link : Link Ring where
  exchange ts r :=
    let (e, board) := r.board.exchange ts
    (e, { r with board := board })
  pause us r := { r with clock := r.clock + us }
  clock r := r.clock
  settling r := r.board.faults.length

end Ring

end MotorBoard
