/-
# Images of stored pages

A page of the board's memory chip and the records kept on such pages are strings of a
known length.  They keep their bytes as read, so that a check is always taken over the
very bytes that are stored.
-/
import MotorBoard.Bytes.Field

namespace MotorBoard

/-- A string of exactly `n` bytes. -/
structure Image (n : Nat) where
  /-- The bytes. -/
  bytes : Bytes
  length_bytes : bytes.length = n
deriving DecidableEq

namespace Image

variable {n : Nat}

/-- The image with the same byte everywhere. -/
def filled (n : Nat) (b : UInt8) : Image n := ⟨List.replicate n b, List.length_replicate⟩

instance : Inhabited (Image n) := ⟨filled n 0⟩

/-- The first `n` bytes of a longer string, filled up with `b` where it is shorter. -/
def ofBytes (n : Nat) (b : UInt8) (s : Bytes) : Image n := ⟨s.padTo n b, s.length_padTo n b⟩

/-- The image with `new` written from offset `i` on, if it fits. -/
def overwrite? (im : Image n) (i : Nat) (new : Bytes) : Option (Image n) :=
  if h : i + new.length ≤ n then
    some ⟨Field.overwrite ⟨i, new.length⟩ im.bytes new, by
      rw [Field.length_overwrite _ _ _ (by rw [im.length_bytes]; exact h), im.length_bytes]⟩
  else none

/-- The image with `new` written from offset `i` on; one that would not fit changes
nothing. -/
def overwrite (im : Image n) (i : Nat) (new : Bytes) : Image n := (im.overwrite? i new).getD im

/-- The image with a field written. -/
def put (im : Image n) (f : Field) (new : Bytes) : Image n := im.overwrite f.offset new

/-- The image with a text field written. -/
def putText (im : Image n) (f : Field) (s : String) : Image n :=
  im.put f (Text.encodeField f.size s)

/-- The number in a two byte field. -/
def word16 (im : Image n) (f : Field) : UInt16 := im.bytes.word16At f.offset

/-- The number in a four byte field. -/
def word32 (im : Image n) (f : Field) : UInt32 := im.bytes.word32At f.offset

/-- The number in an eight byte floating point field. -/
def binary64 (im : Image n) (f : Field) : Binary64 := ⟨im.bytes.word64At f.offset⟩

/-- The text in a text field. -/
def text (im : Image n) (f : Field) : String :=
  Text.decodeLossy (Text.untilNul (im.bytes.slice f.offset f.size))

end Image

end MotorBoard
