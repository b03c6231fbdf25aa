/-
# Memories

A memory has a fixed number of cells, one byte each, counted from zero.  Ranges that do
not lie inside can be neither loaded nor stored.  The main results say what a cell holds
after a store:

* `Memory.get_write`: the new byte inside the range, and the old one elsewhere.
-/
import MotorBoard.Bytes.Basic

namespace MotorBoard

/-- A memory of `n` cells. -/
structure Memory (n : Nat) where
  cells : Vector UInt8 n

namespace Memory

variable {n : Nat}

/-- A memory with zeros everywhere. -/
def blank (n : Nat) : Memory n := ⟨Vector.replicate n 0⟩

/-- The byte in a cell; zero beyond the end. -/
def get (m : Memory n) (i : Nat) : UInt8 := (m.cells[i]?).getD 0

/-- The memory with one cell changed; no change beyond the end. -/
def put (m : Memory n) (i : Nat) (b : UInt8) : Memory n := ⟨m.cells.setIfInBounds i b⟩

/-- The memory with bytes written from a cell on. -/
def write (m : Memory n) (i : Nat) : Bytes → Memory n
  | [] => m
  | b :: r => (m.put i b).write (i + 1) r

/-- The bytes of a range. -/
def range (m : Memory n) (start length : Nat) : Bytes :=
  (List.range' start length).map m.get

/-- The bytes of a range that lies inside. -/
def load? (m : Memory n) (start length : Nat) : Option Bytes :=
  if start + length ≤ n then some (m.range start length) else none

/-- The memory with bytes written to a range that lies inside. -/
def store? (m : Memory n) (start : Nat) (data : Bytes) : Option (Memory n) :=
  if start + data.length ≤ n then some (m.write start data) else none

@[simp] theorem length_range (m : Memory n) (start length : Nat) :
    (m.range start length).length = length := by
  simp [range]

theorem get_put (m : Memory n) (i j : Nat) (b : UInt8) :
    (m.put i b).get j = if i = j ∧ i < n then b else m.get j := by
  simp only [put, get, Vector.getElem?_setIfInBounds]
  by_cases hij : i = j
  · subst hij
    by_cases hi : i < n <;> simp [hi]
  · simp [hij]

theorem get_write (m : Memory n) (i j : Nat) (data : Bytes) (h : i + data.length ≤ n) :
    (m.write i data).get j =
      if i ≤ j ∧ j < i + data.length then data.byteAt (j - i) else m.get j := by
  induction data generalizing m i with
  | nil =>
    rw [write, if_neg (by rw [List.length_nil]; omega)]
  | cons b r ih =>
    rw [List.length_cons] at h
    rw [write, ih _ _ (by omega), get_put, List.length_cons]
    by_cases hij : i = j
    · subst hij
      have h1 : ¬ (i + 1 ≤ i ∧ i < i + 1 + r.length) := by omega
      have h2 : i < n := by omega
      rw [if_neg h1]
      simp [h2, Bytes.byteAt]
    · by_cases hin : i + 1 ≤ j ∧ j < i + 1 + r.length
      · have h1 : i ≤ j ∧ j < i + (r.length + 1) := by omega
        obtain ⟨k, rfl⟩ : ∃ k, j = i + 1 + k := ⟨j - (i + 1), by omega⟩
        have h2 : i + 1 + k - i = k + 1 := by omega
        have h3 : i + 1 + k - (i + 1) = k := by omega
        rw [if_pos hin, if_pos h1, h2, h3]
        simp [Bytes.byteAt]
      · have h1 : ¬ (i ≤ j ∧ j < i + (r.length + 1)) := by omega
        rw [if_neg hin, if_neg h1, if_neg (fun h => hij h.1)]

end Memory

end MotorBoard
