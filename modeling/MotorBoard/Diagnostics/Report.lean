/-
# Reports about a board

A report shows how a board fares: a level, a summary, and all counters.  Each condition
found is merged into it.  The level is that of the worst conditions, and the summary
lists all of these and only these.
-/
import MotorBoard.Cycle.Machine
import MotorBoard.Diagnostics.Collected
import MotorBoard.Mailbox.State

namespace MotorBoard

/-- How bad a condition is. -/
inductive Level where
  | ok
  | warn
  | error
deriving DecidableEq, Repr

namespace Level

/-- The place of a level from good to bad. -/
def rank : Level → Nat
  | ok => 0
  | warn => 1
  | error => 2

/-- The name of a level. -/
def name : Level → String
  | ok => "Ok"
  | warn => "Warn"
  | error => "Error"

end Level

/-- A condition that a report names if it holds. -/
structure Condition where
  holds : Bool
  level : Level
  message : String
deriving DecidableEq, Repr

/-- A level with the messages of all conditions at that level. -/
structure Summary where
  level : Level := .ok
  text : String := "OK"
deriving DecidableEq, Repr

namespace Summary

/-- Takes a condition in.  A worse one replaces the summary, and one that is as bad is
added to it. -/
def merge (level : Level) (message : String) (s : Summary) : Summary :=
  if s.level.rank < level.rank then ⟨level, message⟩
  else if level = s.level ∧ level ≠ .ok then { s with text := s.text ++ "; " ++ message }
  else s

/-- The summary of all conditions that hold, taken in one after the other. -/
def ofConditions (cs : List Condition) : Summary :=
  (cs.filter (·.holds)).foldl (fun s c => s.merge c.level c.message) {}

end Summary

/-- A report about a board. -/
structure Report where
  name : String
  hardwareId : String
  summary : Summary
  mailbox : MailboxCounters
  collected : Collected
  cycle : CycleFlags
  /-- The current into the whole board, in amperes. -/
  supplyCurrent : Option Float
  /-- The current into the bridge alone, where that is measured. -/
  bridgeSupplyCurrent : Option Float
  configuredOffsetA : Float
  configuredOffsetB : Float

end MotorBoard
