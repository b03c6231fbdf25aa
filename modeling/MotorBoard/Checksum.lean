/-
# The rotating checksum

Mailbox and process data buffers end in a byte chosen so that the whole buffer sums to
zero.  The sum starts from a seed and, for every byte, rotates right by one bit and adds
the byte without carry.  The seed keeps a buffer of zeros from verifying.  The main
result is

* `Checksum.verifies_append_trailing`: a buffer followed by its own trailing byte
  verifies, and no other last byte does.
-/
import MotorBoard.Bytes.Basic

namespace MotorBoard

namespace Checksum

/-- The sum of an empty buffer. -/
def seed : UInt8 := 0x42

/-- A byte rotated right by one bit: the lowest bit moves to the top. -/
def rotateRight (v : UInt8) : UInt8 := (v >>> 1) ||| (v <<< 7)

/-- One byte more in a running sum. -/
def step (sum byte : UInt8) : UInt8 := rotateRight sum ^^^ byte

/-- The sum of a buffer. -/
def compute (data : Bytes) : UInt8 := data.foldl step seed

/-- The byte that makes a buffer verify when it is put behind it. -/
def trailing (data : Bytes) : UInt8 := rotateRight (compute data)

/-- A buffer verifies when it sums to zero, its last byte included. -/
def verifies (data : Bytes) : Bool := compute data == 0

/-- A buffer with its trailing byte. -/
def sealed (data : Bytes) : Bytes := data ++ [trailing data]

@[simp] theorem length_sealed (data : Bytes) : (sealed data).length = data.length + 1 := by
  simp [sealed]

theorem compute_append_byte (data : Bytes) (b : UInt8) :
    compute (data ++ [b]) = trailing data ^^^ b := by
  simp [compute, trailing, step]

theorem verifies_append_trailing (data : Bytes) (b : UInt8) :
    verifies (data ++ [b]) = true ↔ b = trailing data := by
  rw [verifies, compute_append_byte, beq_iff_eq]
  constructor
  · intro h
    have h' := congrArg (trailing data ^^^ ·) h
    simpa [← UInt8.xor_assoc] using h'
  · rintro rfl
    simp

end Checksum

end MotorBoard
