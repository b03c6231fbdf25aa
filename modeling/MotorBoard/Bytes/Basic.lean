/-
# Byte strings and little-endian numbers

Everything that a board keeps or sends is a string of bytes, and every number in it is
written least significant byte first.  This file has the two maps between numbers and
their bytes, for any width, and the fixed-width words read at an offset of a longer
string.
-/

namespace MotorBoard

/-- A string of bytes, as it stands in a record, a telegram or a memory. -/
abbrev Bytes := List UInt8

namespace Bytes

/-- The `n` low bytes of a number, least significant first. -/
def ofNat : Nat → Nat → Bytes
  | 0, _ => []
  | n + 1, v => UInt8.ofNat v :: ofNat n (v / 256)

/-- The number with the given bytes, least significant first. -/
def toNat : Bytes → Nat
  | [] => 0
  | b :: r => b.toNat + 256 * toNat r

@[simp] theorem length_ofNat (n v : Nat) : (ofNat n v).length = n := by
  induction n generalizing v with
  | zero => rfl
  | succ n ih => simp [ofNat, ih]

/-- The `n` bytes from offset `i` on; fewer where the string ends before. -/
def slice (b : Bytes) (i n : Nat) : Bytes := (b.drop i).take n

/-- The byte at offset `i`; zero behind the end. -/
def byteAt (b : Bytes) (i : Nat) : UInt8 := b.getD i 0

/-- The 16-bit word at offset `i`. -/
def word16At (b : Bytes) (i : Nat) : UInt16 := UInt16.ofNat (toNat (slice b i 2))

/-- The 32-bit word at offset `i`. -/
def word32At (b : Bytes) (i : Nat) : UInt32 := UInt32.ofNat (toNat (slice b i 4))

/-- The 64-bit word at offset `i`. -/
def word64At (b : Bytes) (i : Nat) : UInt64 := UInt64.ofNat (toNat (slice b i 8))

/-- The signed 16-bit number at offset `i`. -/
def int16At (b : Bytes) (i : Nat) : Int16 := (word16At b i).toInt16

/-- The signed 32-bit number at offset `i`. -/
def int32At (b : Bytes) (i : Nat) : Int32 := (word32At b i).toInt32

/-- The two bytes of a 16-bit word. -/
def ofWord16 (w : UInt16) : Bytes := ofNat 2 w.toNat

/-- The four bytes of a 32-bit word. -/
def ofWord32 (w : UInt32) : Bytes := ofNat 4 w.toNat

/-- The eight bytes of a 64-bit word. -/
def ofWord64 (w : UInt64) : Bytes := ofNat 8 w.toNat

/-- The two bytes of a signed 16-bit number. -/
def ofInt16 (v : Int16) : Bytes := ofWord16 v.toUInt16

/-- The four bytes of a signed 32-bit number. -/
def ofInt32 (v : Int32) : Bytes := ofWord32 v.toUInt32

@[simp] theorem length_ofWord16 (w : UInt16) : (ofWord16 w).length = 2 := length_ofNat ..
@[simp] theorem length_ofWord32 (w : UInt32) : (ofWord32 w).length = 4 := length_ofNat ..
@[simp] theorem length_ofWord64 (w : UInt64) : (ofWord64 w).length = 8 := length_ofNat ..
@[simp] theorem length_ofInt16 (v : Int16) : (ofInt16 v).length = 2 := length_ofNat ..
@[simp] theorem length_ofInt32 (v : Int32) : (ofInt32 v).length = 4 := length_ofNat ..

/-- `n` zero bytes. -/
def zeros (n : Nat) : Bytes := List.replicate n 0

/-- The string cut or filled up with `b` to exactly `n` bytes. -/
def padTo (n : Nat) (b : UInt8) (s : Bytes) : Bytes :=
  s.take n ++ List.replicate (n - s.length) b

@[simp] theorem length_padTo (n : Nat) (b : UInt8) (s : Bytes) : (padTo n b s).length = n := by
  simp only [padTo, List.length_append, List.length_take, List.length_replicate]
  omega

end Bytes

end MotorBoard
