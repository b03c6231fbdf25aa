/-
# Fields of a record

A record is a string of bytes of fixed size, and a field is a place in it.  Where a field
lies outside of the string there is nothing to read or to write, so the operations here
are partial; on a string of the record's size they succeed for every field of the record.
-/
import MotorBoard.Bytes.Binary
import MotorBoard.Text.Utf8

namespace MotorBoard

/-- A place in a record. -/
structure Field where
  /-- The offset of its first byte. -/
  offset : Nat
  /-- The number of its bytes. -/
  size : Nat
deriving DecidableEq, Repr

namespace Field

/-- The field of `size` bytes right behind another one. -/
def after (f : Field) (size : Nat) : Field := ⟨f.offset + f.size, size⟩

/-- The offset right behind the field. -/
def stop (f : Field) : Nat := f.offset + f.size

/-- The first `n` bytes from the start of the field on. -/
def read? (f : Field) (n : Nat) (b : Bytes) : Option Bytes :=
  if f.offset + n ≤ b.length then some (b.slice f.offset n) else none

/-- All bytes of the field. -/
def bytes? (f : Field) (b : Bytes) : Option Bytes := f.read? f.size b

/-- The first byte of the field. -/
def byte? (f : Field) (b : Bytes) : Option UInt8 := b[f.offset]?

/-- The number in the first two bytes from the start of the field on. -/
def word16? (f : Field) (b : Bytes) : Option UInt16 := (f.read? 2 b).map (Bytes.word16At · 0)

/-- The number in the first four bytes from the start of the field on. -/
def word32? (f : Field) (b : Bytes) : Option UInt32 := (f.read? 4 b).map (Bytes.word32At · 0)

/-- The number in the first eight bytes from the start of the field on. -/
def word64? (f : Field) (b : Bytes) : Option UInt64 := (f.read? 8 b).map (Bytes.word64At · 0)

/-- The text of the field up to its first zero byte, or up to its end. -/
def text? (f : Field) (b : Bytes) : Option String :=
  (f.bytes? b).map fun raw => Text.decodeLossy (Text.untilNul raw)

/-- The string with `new` in the place that starts where the field starts. -/
def overwrite (f : Field) (b new : Bytes) : Bytes :=
  b.take f.offset ++ new ++ b.drop (f.offset + new.length)

/-- Writes the whole field: refused unless the new bytes have its size and it lies inside. -/
def write? (f : Field) (b new : Bytes) : Option Bytes :=
  if new.length = f.size ∧ f.stop ≤ b.length then some (f.overwrite b new) else none

/-- Writes the first byte of the field. -/
def writeByte? (f : Field) (b : Bytes) (v : UInt8) : Option Bytes :=
  if f.offset < b.length then some (f.overwrite b [v]) else none

/-- Writes a text, cut and filled up to the size of the field. -/
def writeText? (f : Field) (b : Bytes) (s : String) : Option Bytes :=
  f.write? b (Text.encodeField f.size s)

theorem length_overwrite (f : Field) (b new : Bytes) (h : f.offset + new.length ≤ b.length) :
    (f.overwrite b new).length = b.length := by
  simp only [overwrite, List.length_append, List.length_take, List.length_drop]
  omega

end Field

end MotorBoard
