/-
# What a mailbox remembers

Between two calls a mailbox keeps the last sequence number and counts of what went wrong.
Both stand behind one lock, which a call holds from its start to its end.
-/
import MotorBoard.Guarded

namespace MotorBoard

/-- What went wrong in a mailbox so far. -/
structure MailboxCounters where
  writeErrors : UInt32 := 0
  readErrors : UInt32 := 0
  lockErrors : UInt32 := 0
  /-- How often a lost result was asked for again. -/
  retries : UInt32 := 0
  /-- How often that failed. -/
  retryErrors : UInt32 := 0
deriving DecidableEq, Repr

/-- What a mailbox remembers. -/
structure MailboxState where
  /-- The sequence number of the last command; zero before the first. -/
  sequence : UInt8 := 0
  counters : MailboxCounters := {}
deriving DecidableEq, Repr

namespace MailboxState

/-- The state after a change of the counters. -/
def count (f : MailboxCounters → MailboxCounters) (s : MailboxState) : MailboxState :=
  { s with counters := f s.counters }

/-- One more failed read. -/
def countReadError : MailboxState → MailboxState :=
  count fun c => { c with readErrors := c.readErrors + 1 }

/-- One more failed write. -/
def countWriteError : MailboxState → MailboxState :=
  count fun c => { c with writeErrors := c.writeErrors + 1 }

/-- One more request for a lost result, failed or not. -/
def countRetry (failed : Bool) : MailboxState → MailboxState :=
  count fun c =>
    { c with
      retries := c.retries + 1
      retryErrors := if failed then c.retryErrors + 1 else c.retryErrors }

instance : CountsLockErrors MailboxState where
  countLockError := count fun c => { c with lockErrors := c.lockErrors + 1 }

end MailboxState

/-- The state of a mailbox behind its lock. -/
abbrev Mailbox := Guarded MailboxState

namespace Mailbox

/-- A mailbox that was not used yet. -/
def fresh : Mailbox := { name := "mailbox", value := {} }

/-- A copy of the counters, taken under the lock. -/
def counters (m : Mailbox) : Except Error MailboxCounters × Mailbox :=
  m.update fun s => (s.counters, s)

end Mailbox

end MotorBoard
