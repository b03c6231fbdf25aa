/-
# Floating point numbers by their bits

Boards store numbers in the two binary interchange formats.  A number that is only
copied from one record to another keeps every bit, also the payload of a not-a-number,
which arithmetic would not keep.  So records hold bit patterns, and a value is taken
from the pattern where a computation starts.
-/

open Float.Model

namespace MotorBoard

/-- A double precision number, held by its 64 bits. -/
structure Binary64 where
  /-- Sign, exponent and fraction, most significant first. -/
  bits : UInt64
deriving DecidableEq, Repr, Inhabited

namespace Binary64

/-- Positive zero. -/
def zero : Binary64 := ⟨0⟩

/-- The number that the bits stand for. -/
def value (x : Binary64) : Float := Float.ofBits x.bits

/-- The bits of a computed number. -/
def ofFloat (v : Float) : Binary64 := ⟨v.toBits⟩

/-- Equality of the numbers: the two zeros are equal, and a not-a-number equals nothing. -/
def sameValue (x y : Binary64) : Bool := x.value == y.value

end Binary64

/-- A single precision number, held by its 32 bits. -/
structure Binary32 where
  /-- Sign, exponent and fraction, most significant first. -/
  bits : UInt32
deriving DecidableEq, Repr, Inhabited

namespace Binary32

/-- Positive zero. -/
def zero : Binary32 := ⟨0⟩

/-- The number that the bits stand for, widened to double precision, which is exact. -/
def value (x : Binary32) : Float :=
  .ofModel (.pack (match UnpackedFloat.unpack .binary32 x.bits.toBitVec with
    | .finite sign mantissa exponent _ => .round .binary64 sign mantissa exponent
    | other => other))

end Binary32

end MotorBoard
