/-
# A transport from a script

On the bench the programmer can be run without any board.  A script holds the answers to
its calls in their order; it writes down the calls and adds up the pauses.
-/
import MotorBoard.Eeprom.Programmer

namespace MotorBoard

/-- A call to the transport. -/
inductive TransportCall where
  | read (address : UInt16) (length : Nat)
  | write (address : UInt16) (data : Bytes)
deriving DecidableEq, Repr

/-- The answers that are left, and what happened so far. -/
structure Script where
  replies : List (Except Error Bytes)
  /-- The calls so far, latest first. -/
  calls : List TransportCall := []
  /-- The pauses so far, in microseconds. -/
  slept : Nat := 0

namespace Script

/-- The next answer to a call.  Behind the end every call fails. -/
def next (c : TransportCall) : Call Script Bytes := fun s =>
  let s := { s with calls := c :: s.calls }
  match s.replies with
  | [] => (.error (.failed (.packetLoss "end")), s)
  | .ok data :: rest => (.ok data, { s with replies := rest })
  | .error e :: rest => (.error (.failed e), { s with replies := rest })

/-- The script as a transport. -/
def transport : Transport Script where
  read address length := next (.read address length)
  write address data := do
    let _ ← next (.write address data)
  wait us := Call.modify fun s => { s with slept := s.slept + us }

end Script

end MotorBoard
