/-
# Reading and writing the local bus

A channel is the way to one board's local bus.  A read clears a stale result, puts a
command into the first mailbox, waits until the second one is full, and fetches the
result from there.  A write puts a command with its payload and waits until the first
mailbox is empty again, which is the only sign that the board has executed it.

Frames get lost.  A lost command is simply sent again, since a full mailbox refuses it.
A lost result cannot be fetched again, because the board takes it for consumed as soon as
it has been read.  So the board is asked to post its last result once more, by turning
over a bit of the sync manager and waiting until the board has done the same with its
own bit.
-/
import MotorBoard.Bus.SyncManager
import MotorBoard.Mailbox.Command
import MotorBoard.Mailbox.Limits
import MotorBoard.Mailbox.State

namespace MotorBoard

/-- The way to one board's local bus, over a ring whose state is in `σ`. -/
structure Channel (σ : Type) where
  link : Link σ
  slave : Slave
  limits : MailboxLimits

namespace Channel

variable {σ : Type} (c : Channel σ)

/-- The pause between two polls. -/
def pause : Call σ Unit := c.link.wait c.limits.pollIntervalUs

/-- How often a wait that begins now polls at most. -/
def pollLimit : Call σ Nat := return c.limits.pollLimit (← c.link.untilSettled)

/-- Fails in a bus state without mailboxes. -/
def requireMailbox : Call σ Unit :=
  if c.slave.state.allowsMailbox then pure () else Call.fail (.invalidBusState c.slave.state)

/-- Looks at both sync managers after a failure; what is found changes nothing. -/
def diagnose : Call σ Unit := do
  let _ ← Call.attempt (SyncManager.read c.link c.slave Mailbox.commandManager)
  let _ ← Call.attempt (SyncManager.read c.link c.slave Mailbox.resultManager)

/-- The frame that takes a stale result away by reading its first and last byte. -/
def clearFrame : List Telegram :=
  [.read .station c.slave.station Mailbox.resultAddress 1,
   .read .station c.slave.station Mailbox.resultLast 1]

/-- Takes a stale result away.  The board never does so by itself. -/
def clear : Call σ Unit := do
  let d ← c.link.send c.clearFrame c.limits.clearAttempts
  if !d.returned then
    c.pause
    Call.fail (.packetLoss "clearing read mailbox")
  else if d.counter 0 ≠ d.counter 1 then
    Call.fail (.workingCounter
      s!"read mailbox working counters are inconsistent, {d.counter 0}, {d.counter 1}")
  else if d.counter 0 = 0 ∨ d.counter 0 = 1 then
    return ()
  else
    Call.fail (.multipleResponders (d.counter 0))

/-- Whether a transfer of `length` bytes is split into its data and the last byte of the
mailbox, rather than moving the whole mailbox. -/
def splits (length : Nat) : Bool := length + c.limits.telegramOverhead < Mailbox.size

/-- The frame that puts a command: the command and the last byte of the mailbox, which
makes it full, or the whole mailbox. -/
def commandFrame (command : Bytes) : List Telegram :=
  if c.splits command.length then
    [.write .station c.slave.station Mailbox.commandAddress command,
     .write .station c.slave.station Mailbox.commandLast [0]]
  else
    [.write .station c.slave.station Mailbox.commandAddress (command.padTo Mailbox.size 0)]

/-- Puts a command.  A refusal of a frame that was sent again means that the first one
arrived and only its answer was lost. -/
def put (command : Bytes) : Call σ Unit := do
  let d ← c.link.send (c.commandFrame command) c.limits.writeAttempts
  if !d.returned then
    c.pause
    Call.fail (.packetLoss "mailbox write")
  else if c.splits command.length ∧ d.counter 0 ≠ d.counter 1 then
    Call.fail (.workingCounter "write mailbox working counters are inconsistent")
  else if d.counter 0 = 1 then
    return ()
  else if d.counter 0 = 0 then
    if d.sends ≤ 1 then
      c.pause
      Call.fail (.workingCounter "initial mailbox write refused")
    else return ()
  else
    Call.fail (.multipleResponders (d.counter 0))

/-- The end of a wait without success, after `waited` microseconds. -/
def waitFailure (manager : UInt8) (full answered : Bool) (waited : Nat) : Error :=
  let wanted := if full then "full" else "empty"
  if answered then .timeout s!"mailbox {manager} not {wanted} after {waited / 1000} ms"
  else .packetLoss s!"no sync manager {manager} status read in {waited / 1000} ms"

/-- Polls until a mailbox is full, or empty; `start` is when the wait began and `answered`
tells whether any poll got an answer yet. -/
def poll (manager : UInt8) (full : Bool) (start : Nat) : Nat → Bool → Call σ Unit
  | 0, _ => Call.stop .stalled
  | polls + 1, answered => do
    let status ← Call.attempt
      (c.link.readMemory .station c.slave.station (SyncManager.statusAddress manager) 1)
    let reached :=
      match status with
      | .ok raw => SyncManager.isFull (raw.byteAt 0) == full
      | .error _ => false
    let answered := answered || status.isOk
    if reached then return ()
    let now ← c.link.now
    if c.limits.timeoutUs ≤ now - start then
      Call.fail (waitFailure manager full answered (now - start))
    else
      c.pause
      poll manager full start polls answered

/-- Waits until a mailbox is full, or empty. -/
def await (manager : UInt8) (full : Bool) : Call σ Unit := do
  let start ← c.link.now
  c.poll manager full start (← c.pollLimit) false

/-- Polls until the board acknowledges that it posted its last result again; `before` is
the request bit before it was turned over. -/
def pollRepeat (before : Bool) (start : Nat) : Nat → Call σ Unit
  | 0 => Call.stop .stalled
  | polls + 1 => do
    let sm ← SyncManager.read c.link c.slave Mailbox.resultManager
    if sm.repeatRequest = sm.repeatAck then
      if sm.mailboxFull then return ()
      else Call.fail (.repeatRequest "got repeat response, but read mailbox is still empty")
    else if sm.repeatRequest = before then
      Call.fail (.repeatRequest
        "syncman repeat request was changed while waiting for response")
    else
      let now ← c.link.now
      if c.limits.timeoutUs ≤ now - start then
        Call.fail (.repeatRequest s!"not acknowledged after {(now - start) / 1000} ms")
      else
        c.pause
        pollRepeat before start polls

/-- Asks the board to post its last result once more and waits until it has done so. -/
def repeatRequest : Call σ Unit := do
  let sm ← SyncManager.read c.link c.slave Mailbox.resultManager
  if sm.repeatRequest ≠ sm.repeatAck then
    Call.fail (.repeatRequest "syncman repeat request and ack do not match")
  else
    sm.toggleRequest.writeActivate c.link c.slave Mailbox.resultManager
    let start ← c.link.now
    c.pollRepeat sm.repeatRequest start (← c.pollLimit)

/-- The frame that fetches a result: the result and the last byte of the mailbox, which
makes it empty, or the whole mailbox. -/
def resultFrame (length : Nat) : List Telegram :=
  if c.splits length then
    [.read .station c.slave.station Mailbox.resultAddress length,
     .read .station c.slave.station Mailbox.resultLast 1]
  else
    [.read .station c.slave.station Mailbox.resultAddress Mailbox.size]

/-- Asks for the result once more and counts that. -/
def countedRepeat : Call (MailboxState × σ) Unit := do
  let result ← Call.attempt (Call.within .second c.repeatRequest)
  Call.within .first (Call.modify (MailboxState.countRetry !result.isOk))
  Call.ofExcept result

/-- Fetches a result of `length` bytes with a frame, at most so many times; `dropped` is
how many frames were lost before. -/
def fetchFrom (length : Nat) :
    Nat → List Telegram → Nat → Call (MailboxState × σ) Bytes
  | 0, _, dropped => do
    Call.within .second c.diagnose
    Call.fail (.packetLoss
      s!"no mailbox response after {c.limits.readTries} tries, {dropped} dropped packets")
  | tries + 1, frame, dropped => do
    let d ← Call.within .second (c.link.send frame c.limits.maxDropped)
    if c.splits length ∧ d.counter 0 ≠ d.counter 1 then
      Call.fail (.workingCounter "read mailbox working counters are inconsistent")
    else if d.counter 0 = 0 then
      if d.dropped = 0 then
        Call.fail (.workingCounter "status mailbox read refused without packet loss")
      else
        c.countedRepeat
        fetchFrom length tries d.telegrams (dropped + d.dropped)
    else if d.counter 0 = 1 then
      return d.data.take length
    else
      Call.within .second c.diagnose
      Call.fail (.multipleResponders (d.counter 0))

/-- Fetches a result of `length` bytes. -/
def fetch (length : Nat) : Call (MailboxState × σ) Bytes :=
  c.fetchFrom length c.limits.readTries (c.resultFrame length) 0

/-- The command with the next sequence number, which is used up unless the command itself
is out of bounds. -/
def nextCommand (build : UInt8 → Except Error MailboxCommand) :
    Call (MailboxState × σ) MailboxCommand := do
  Call.within .second c.requireMailbox
  let state ← Call.within .first Call.get
  let sequence := Mailbox.nextSequence state.sequence
  let command ← Call.ofExcept (build sequence)
  Call.within .first (Call.modify fun s => { s with sequence := sequence })
  return command

/-- A read under the lock. -/
def readHeld (address : UInt16) (length : Nat) : Call (MailboxState × σ) Bytes := do
  let command ← c.nextCommand (MailboxCommand.read address length)
  Call.within .second do
    c.clear
    c.put command.encode
    c.await Mailbox.resultManager true
  let result ← c.fetch (length + 1)
  if Checksum.verifies result then return result.take length
  else Call.fail .checksumMismatch

/-- A write under the lock. -/
def writeHeld (address : UInt16) (data : Bytes) : Call (MailboxState × σ) Unit := do
  let command ← c.nextCommand (MailboxCommand.write address data)
  Call.within .second do
    match ← Call.attempt (c.put command.encode) with
    | .ok () => c.await Mailbox.commandManager false
    | .error e =>
      c.diagnose
      Call.fail e

/-- Reads `length` bytes of the local bus. -/
def read (address : UInt16) (length : Nat) : Call (Mailbox × σ) Bytes :=
  Guarded.locked
    (Call.onFailure (fun s => (s.1.countReadError, s.2)) (c.readHeld address length))

/-- Writes bytes to the local bus. -/
def write (address : UInt16) (data : Bytes) : Call (Mailbox × σ) Unit :=
  Guarded.locked
    (Call.onFailure (fun s => (s.1.countWriteError, s.2)) (c.writeHeld address data))

/-- Waits for a number of microseconds. -/
def wait (us : Nat) : Call (Mailbox × σ) Unit := Call.within .second (c.link.wait us)

end Channel

end MotorBoard
