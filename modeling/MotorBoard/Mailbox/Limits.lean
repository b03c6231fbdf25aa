/-
# How patient a mailbox is

The limits of a mailbox say how often a frame is sent again, how long a caller polls, and
when a transfer is worth splitting.
-/
import MotorBoard.Error

namespace MotorBoard

/-- The limits of a mailbox. -/
structure MailboxLimits where
  /-- The longest wait for a sync manager to change, in milliseconds. -/
  timeoutMs : Nat := 100
  /-- The pause between two polls, in microseconds. -/
  pollIntervalUs : Nat := 100
  /-- How often the frame that clears the result is sent. -/
  clearAttempts : Nat := 15
  /-- How often a result is asked for, each time with `maxDropped` lost frames. -/
  readTries : Nat := 10
  maxDropped : Nat := 10
  /-- How often a command is sent. -/
  writeAttempts : Nat := 10
  /-- How many bytes a split transfer has to save. -/
  telegramOverhead : Nat := 50
deriving DecidableEq, Repr

namespace MailboxLimits

/-- Limits that make no sense are refused. -/
def validate (l : MailboxLimits) : Except Error Unit :=
  if l.timeoutMs = 0 then .error (.invalidParameter "mailbox timeout must be non-zero")
  else if l.clearAttempts = 0 ∨ l.readTries = 0 ∨ l.maxDropped = 0 ∨ l.writeAttempts = 0 then
    .error (.invalidParameter "mailbox retry counts must be non-zero")
  else .ok ()

/-- The longest wait in microseconds. -/
def timeoutUs (l : MailboxLimits) : Nat := 1000 * l.timeoutMs

/-- How often a wait polls at most, on a ring that settles after `settling` polls.  With
pauses the clock sets the limit: as many polls as fit into the longest wait, both ends
included.  Without pauses the first poll of the settled ring is the last that can tell
anything new. -/
def pollLimit (l : MailboxLimits) (settling : Nat) : Nat :=
  if l.pollIntervalUs = 0 then settling + 1
  else (l.timeoutUs + l.pollIntervalUs - 1) / l.pollIntervalUs + 1

end MailboxLimits

end MotorBoard
