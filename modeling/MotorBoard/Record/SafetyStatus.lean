/-
# The safety status

Three bytes of the local bus tell why the board has switched its bridge off: the causes
at this moment, the causes at the moment it went into lockout, and how often that
happened, counted around in eight bits.
-/
import MotorBoard.Bytes.Basic
import MotorBoard.Error

namespace MotorBoard

/-! The causes for which a board switches its bridge off, one bit each. -/

namespace SafetyCause

/-- The bridge is off. -/
def disabled : UInt8 := 0x01

/-- A disable that came with the operation of the board itself. -/
def operational : UInt8 := 0x20

/-- The bits with a name, from the lowest on. -/
def names : List (UInt8 × String) :=
  [(0x01, "DISABLED"), (0x02, "UNDERVOLTAGE"), (0x04, "OVER_CURRENT"), (0x08, "BOARD_OVER_TEMP"),
   (0x10, "HBRIDGE_OVER_TEMP"), (0x20, "OPERATIONAL"), (0x40, "WATCHDOG")]

/-- The names of the causes in a byte; a byte without any bit says that the bridge is on.
The highest bit has no name. -/
def describe (causes : UInt8) : String :=
  if causes = 0 then "ENABLED"
  else
    ", ".intercalate ((names.filter fun n => causes &&& n.1 != 0).map Prod.snd)

end SafetyCause

/-- Why the bridge of a board is off. -/
structure SafetyStatus where
  /-- The causes at this moment. -/
  causes : UInt8 := 0
  /-- The causes when the board last went into lockout. -/
  held : UInt8 := 0
  /-- How often the bridge was switched off. -/
  count : UInt8 := 0
deriving DecidableEq, Repr

namespace SafetyStatus

/-- The size of the record. -/
def size : Nat := 3

/-- Where the record stands on the local bus. -/
def address : UInt16 := 0x00A1

/-- The bytes of the record. -/
def encode (s : SafetyStatus) : Bytes := [s.causes, s.held, s.count]

/-- The record at the start of some bytes. -/
def decode (b : Bytes) : Except Error SafetyStatus := do
  requireLength b.length size "safety disable status"
  return ⟨b.byteAt 0, b.byteAt 1, b.byteAt 2⟩

end SafetyStatus

end MotorBoard
