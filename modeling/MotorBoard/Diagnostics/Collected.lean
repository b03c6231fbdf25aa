/-
# What was collected from a board

A collection reads the safety status and the diagnostics block of a board and adds the
growth of their eight bit counts to totals that do not go around.  The same store hands
the calibration offset from the cycle, which knows it, to the collector, which writes it
to the board.
-/
import MotorBoard.Cycle.Machine
import MotorBoard.Guarded
import MotorBoard.Bytes.Binary
import MotorBoard.Record.DiagnosticsInfo
import MotorBoard.Record.SafetyStatus

namespace MotorBoard

/-- How often the bridge was switched off since the first collection, in all and by
cause. -/
structure SafetyTotals where
  safetyDisable : UInt32 := 0
  undervoltage : UInt32 := 0
  overCurrent : UInt32 := 0
  boardOverTemp : UInt32 := 0
  bridgeOverTemp : UInt32 := 0
  operateDisable : UInt32 := 0
  watchdogDisable : UInt32 := 0
deriving DecidableEq, Repr

namespace SafetyTotals

/-- Adds the growth of every count from an old sample to a new one. -/
def add (t : SafetyTotals) (newStatus oldStatus : SafetyStatus) (new old : SafetyCounts) :
    SafetyTotals where
  safetyDisable := t.safetyDisable + Cycle.counterDelta newStatus.count oldStatus.count
  undervoltage := t.undervoltage + Cycle.counterDelta new.undervoltage old.undervoltage
  overCurrent := t.overCurrent + Cycle.counterDelta new.overCurrent old.overCurrent
  boardOverTemp := t.boardOverTemp + Cycle.counterDelta new.boardOverTemp old.boardOverTemp
  bridgeOverTemp := t.bridgeOverTemp + Cycle.counterDelta new.bridgeOverTemp old.bridgeOverTemp
  operateDisable := t.operateDisable + Cycle.counterDelta new.operateDisable old.operateDisable
  watchdogDisable :=
    t.watchdogDisable + Cycle.counterDelta new.watchdogDisable old.watchdogDisable

end SafetyTotals

/-- What was collected from a board so far. -/
structure Collected where
  /-- Nothing was collected yet. -/
  first : Bool := true
  /-- The last collection succeeded. -/
  valid : Bool := false
  status : SafetyStatus := {}
  info : DiagnosticsInfo := {}
  totals : SafetyTotals := {}
  lockErrors : UInt32 := 0
  /-- Status frames that could not be read. -/
  checksumErrors : UInt32 := 0
  /-- The offset that a controller set last. -/
  zeroOffset : Binary64 := .zero
  /-- The offset that was written to the board last. -/
  cachedZeroOffset : Binary64 := .zero
deriving DecidableEq, Repr

namespace Collected

/-- Takes a sample in. -/
def update (status : SafetyStatus) (info : DiagnosticsInfo) (c : Collected) : Collected :=
  { c with
    first := false
    totals := c.totals.add status c.status info.safetyCounts c.info.safetyCounts
    status := status
    info := info }

/-- Takes note whether a collection succeeded. -/
def mark (valid : Bool) (c : Collected) : Collected := { c with first := false, valid := valid }

/-- Whether an offset waits to be written to the board. -/
def offsetPending (c : Collected) : Bool := !c.zeroOffset.sameValue c.cachedZeroOffset

/-- One more status frame that could not be read. -/
def countChecksumError (c : Collected) : Collected :=
  { c with checksumErrors := c.checksumErrors + 1 }

instance : CountsLockErrors Collected where
  countLockError c := { c with lockErrors := c.lockErrors + 1 }

end Collected

/-- The store that cycle, collector and reports share. -/
abbrev CollectedStore := Guarded Collected

namespace CollectedStore

/-- A store with nothing in it. -/
def fresh : CollectedStore := { name := "diagnostics", value := {} }

end CollectedStore

end MotorBoard
