/-
# Frames in readable form

A recorded frame is shown as one line: its telegrams in their order, each with command,
slave, address, length, working counter and data.  Longer data is shown by its checksum.
Polling sends the same frame over and over, so equal lines in a row are counted.
`Trace.expand_runs` says that this loses nothing.
-/
import MotorBoard.Bench.Tap
import MotorBoard.Crc32

namespace MotorBoard

namespace Telegram

/-- The short name of what a telegram does. -/
def mnemonic (t : Telegram) : String :=
  match t.addressing, t.direction with
  | .station, .read => "Nprd"
  | .station, .write => "Npwr"
  | .position, .read => "Aprd"
  | .position, .write => "Apwr"

end Telegram

namespace Trace

/-- A number in hexadecimal, lower case, with at least `width` digits. -/
def hex (width n : Nat) : String := Text.zeroPadded width (Nat.toDigits 16 n)

/-- Bytes in hexadecimal, two digits each. -/
def hexBytes (b : Bytes) : String := String.join (b.map fun x => hex 2 x.toNat)

/-- Data as a line shows it: the bytes, or their checksum when there are more than
sixteen. -/
def shownData (b : Bytes) : String :=
  if 16 < b.length then "#" ++ hex 8 (Crc32.compute b).toNat else hexBytes b

/-- A telegram as a line shows it. -/
def shownTelegram (t : Telegram) : String :=
  " ".intercalate [t.mnemonic, hex 4 t.slave.toNat, hex 4 t.address.toNat,
    toString t.data.length, toString t.workingCounter.toNat, shownData t.data]

/-- The line of a frame. -/
def line (r : FrameRecord) : String :=
  (if r.returned then "" else "lost: ") ++ " | ".intercalate (r.telegrams.map shownTelegram)

variable {α : Type} [DecidableEq α]

/-- One more element in front of counted elements. -/
def consRun (a : α) : List (Nat × α) → List (Nat × α)
  | [] => [(1, a)]
  | (n, b) :: rest => if a = b then (n + 1, b) :: rest else (1, a) :: (n, b) :: rest

/-- The elements of a list with equal neighbours counted together. -/
def runs (l : List α) : List (Nat × α) := l.foldr consRun []

omit [DecidableEq α] in
/-- The list with these counted elements. -/
def expand (l : List (Nat × α)) : List α := l.flatMap fun p => List.replicate p.1 p.2

theorem expand_consRun (a : α) (l : List (Nat × α)) : expand (consRun a l) = a :: expand l := by
  match l with
  | [] => rfl
  | (n, b) :: rest =>
    by_cases h : a = b
    · simp [consRun, expand, h, List.replicate_succ]
    · simp [consRun, expand, h]

theorem expand_runs (l : List α) : expand (runs l) = l := by
  induction l with
  | nil => rfl
  | cons a l ih => rw [runs, List.foldr_cons, expand_consRun, ← runs, ih]

/-- The lines of the frames that a bench recorded, in the order of time. -/
def lines (b : Bench) : List (Nat × String) := runs (b.records.reverse.map line)

end Trace

end MotorBoard
