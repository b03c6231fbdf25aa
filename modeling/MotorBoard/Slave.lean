/-
# A slave on the ring

A board is known to the master by its station address and its position on the ring, and
by what its identity registers say: the product, the serial number and a revision number
that packs the revisions of firmware and circuit board.
-/
import MotorBoard.Error

namespace MotorBoard

/-! The product codes of the boards. -/

namespace Product

/-- The motor controller board of the first series. -/
def wg005 : UInt32 := 6805005

/-- The motor controller board of the second series. -/
def wg006 : UInt32 := 6805006

/-- The input and output board. -/
def wg021 : UInt32 := 6805021

end Product

/-- The revisions of firmware and circuit board. -/
structure Revision where
  firmwareMajor : UInt8
  firmwareMinor : UInt8
  /-- Zero for the first circuit board. -/
  boardMajor : UInt8
  boardMinor : UInt8
deriving DecidableEq, Repr

namespace Revision

/-- Unpacks a revision number.  The number counts circuit boards from one. -/
def ofNumber (n : UInt32) : Revision where
  firmwareMajor := (n >>> 8).toUInt8
  firmwareMinor := n.toUInt8
  boardMajor := (n >>> 24).toUInt8 - 1
  boardMinor := (n >>> 16).toUInt8

/-- The letter of the circuit board, `A` for the first; the count wraps at eight bits. -/
def letter (r : Revision) : Char := Char.ofNat ((0x41 : UInt8) + r.boardMajor).toNat

end Revision

/-- A slave as its master knows it. -/
structure Slave where
  /-- The configured address. -/
  station : UInt16
  /-- The place on the ring. -/
  position : UInt16
  product : UInt32
  serial : UInt32
  /-- The packed revision number. -/
  revisionNumber : UInt32
  state : BusState := .init
deriving DecidableEq, Repr

namespace Slave

/-- The revisions of the board. -/
def revision (s : Slave) : Revision := Revision.ofNumber s.revisionNumber

/-- The identity under which the state of a board is saved: the product code followed by
the serial number with at least five digits. -/
def hardwareId (s : Slave) : String :=
  toString s.product.toNat ++ Text.decimal 5 s.serial.toNat

end Slave

end MotorBoard
