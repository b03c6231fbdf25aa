/-
# The 32-bit cyclic redundancy check of the stored records

Records that a board keeps carry a reflected 32-bit cyclic redundancy check with
polynomial `0xEDB88320`, started from all ones and inverted at the end.  It is written
here as the plain shift register: one bit step, eight of them for a byte, and a fold over
the bytes.
-/
import MotorBoard.Bytes.Basic

namespace MotorBoard

namespace Crc32

/-- The generator polynomial, lowest power in the highest bit. -/
def polynomial : UInt32 := 0xEDB88320

/-- One bit step of the register: a bit that falls out at the bottom adds the polynomial. -/
def shift (r : UInt32) : UInt32 :=
  if r &&& 1 == 1 then (r >>> 1) ^^^ polynomial else r >>> 1

/-- The register after eight bit steps. -/
def shift8 (r : UInt32) : UInt32 :=
  shift (shift (shift (shift (shift (shift (shift (shift r)))))))

/-- The register after one byte. -/
def feed (r : UInt32) (b : UInt8) : UInt32 := shift8 (r ^^^ b.toUInt32)

/-- The register after a string of bytes. -/
def register (data : Bytes) : UInt32 := data.foldl feed 0xFFFFFFFF

/-- The check of a string of bytes. -/
def compute (data : Bytes) : UInt32 := register data ^^^ 0xFFFFFFFF

/-- The check of the first `n` bytes, or of all of them where there are fewer. -/
def ofPrefix (data : Bytes) (n : Nat) : UInt32 := compute (data.take n)

end Crc32

end MotorBoard
