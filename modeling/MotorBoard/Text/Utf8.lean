/-
# Text as bytes

Names are stored as UTF-8.  What a board returns need not be well formed, so reading is
lossy: it runs an automaton over the bytes and writes one replacement character for every
longest piece that starts like a character but cannot go on as one.  Between characters
the automaton owes nothing; inside one it knows how many bytes are missing and between
which bounds the next one has to lie, which leaves out overlong forms, surrogates and
numbers above `U+10FFFF`.
-/
import MotorBoard.Bytes.Basic

namespace MotorBoard

namespace Text

/-- The bytes of a text. -/
def encode (s : String) : Bytes := s.toList.flatMap String.utf8EncodeChar

/-- The character that stands for what could not be read. -/
def replacement : Char := '\uFFFD'

/-- A character begun but not finished. -/
structure Unfinished where
  /-- How many bytes are missing. -/
  missing : Nat
  /-- The least value of the next byte. -/
  low : UInt8
  /-- The greatest value of the next byte. -/
  high : UInt8
  /-- The bits read so far. -/
  code : Nat
deriving DecidableEq, Repr

/-- A byte between characters: what it writes, and what it leaves unfinished. -/
def enter (b : UInt8) : List Char × Option Unfinished :=
  if b < 0x80 then ([Char.ofNat b.toNat], none)
  else if b < 0xC2 then ([replacement], none)
  else if b < 0xE0 then ([], some ⟨1, 0x80, 0xBF, b.toNat % 0x20⟩)
  else if b < 0xF0 then
    ([], some ⟨2, if b == 0xE0 then 0xA0 else 0x80, if b == 0xED then 0x9F else 0xBF,
      b.toNat % 0x10⟩)
  else if b < 0xF5 then
    ([], some ⟨3, if b == 0xF0 then 0x90 else 0x80, if b == 0xF4 then 0x8F else 0xBF,
      b.toNat % 0x08⟩)
  else ([replacement], none)

/-- One byte more, inside a character or between two.  A byte that cannot go on with the
character begun has that piece replaced and is then read afresh. -/
def step : Option Unfinished → UInt8 → List Char × Option Unfinished
  | none, b => enter b
  | some u, b =>
    if u.low ≤ b ∧ b ≤ u.high then
      let code := u.code * 0x40 + b.toNat % 0x40
      if u.missing ≤ 1 then ([Char.ofNat code], none)
      else ([], some ⟨u.missing - 1, 0x80, 0xBF, code⟩)
    else (replacement :: (enter b).1, (enter b).2)

/-- The automaton from a given state to the end of the bytes. -/
def decodeFrom (pending : Option Unfinished) : Bytes → List Char
  | [] => if pending.isSome then [replacement] else []
  | b :: r => (step pending b).1 ++ decodeFrom (step pending b).2 r

/-- The text of some bytes, with a replacement character for each piece that is no text. -/
def decodeLossy (b : Bytes) : String := String.ofList (decodeFrom none b)

/-- The bytes before the first zero byte; all of them where there is none. -/
def untilNul (b : Bytes) : Bytes := b.takeWhile (· != 0)

/-- A text in a field of `n` bytes: cut to `n - 1` bytes and filled up with zero bytes, so
that at least one zero byte ends it. -/
def encodeField (n : Nat) (s : String) : Bytes :=
  let t := (encode s).take (n - 1)
  t ++ Bytes.zeros (n - t.length)

@[simp] theorem length_encodeField (n : Nat) (s : String) : (encodeField n s).length = n := by
  simp only [encodeField, Bytes.zeros, List.length_append, List.length_take,
    List.length_replicate]
  omega

end Text

end MotorBoard
