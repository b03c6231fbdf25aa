/-
# Ranges of a memory

The bytes of a range are those in its cells, so what a write does to single cells says what
it does to ranges.  The main results are

* `Memory.range_write_self`: the range that was written holds the new bytes;
* `Memory.range_write_of_disjoint`: a range apart from it holds the old ones.
-/
import MotorBoard.Board.Memory
import MotorBoard.Proofs.Bytes

namespace MotorBoard

namespace Memory

variable {n : Nat}

@[simp] lemma get_blank (i : Nat) : (blank n).get i = 0 := by
  rw [get, blank, Vector.getElem?_replicate]
  split <;> rfl

lemma getElem_range (m : Memory n) {start length i : Nat}
    (h : i < (m.range start length).length) :
    (m.range start length)[i] = m.get (start + i) := by
  simp [range]

/-- A string of bytes is a range when its bytes are in the cells of the range. -/
lemma eq_range_iff (m : Memory n) (start : Nat) (data : Bytes) :
    data = m.range start data.length ↔
      ∀ i, i < data.length → data.byteAt i = m.get (start + i) := by
  constructor
  · intro h i hi
    have hi' : i < (m.range start data.length).length := by rwa [length_range]
    rw [Bytes.byteAt, List.getD_eq_getElem _ _ hi, List.getElem_of_eq h hi]
    exact getElem_range m hi'
  · intro h
    refine List.ext_getElem (length_range ..).symm fun i hi _ => ?_
    have hd := h i hi
    rw [Bytes.byteAt, List.getD_eq_getElem _ _ hi] at hd
    rw [hd, getElem_range]

lemma byteAt_range (m : Memory n) (start : Nat) {length i : Nat} (h : i < length) :
    (m.range start length).byteAt i = m.get (start + i) := by
  have hrange := (eq_range_iff m start (m.range start length)).1 (by rw [length_range])
  exact hrange i (by rwa [length_range])

lemma range_congr {k : Nat} {m : Memory n} {m' : Memory k} {start length : Nat}
    (h : ∀ i, start ≤ i → i < start + length → m'.get i = m.get i) :
    m'.range start length = m.range start length := by
  refine List.ext_getElem (by simp) fun i hi _ => ?_
  rw [length_range] at hi
  rw [getElem_range, getElem_range]
  exact h _ (by omega) (by omega)

/-- A write is read back. -/
theorem range_write_self (m : Memory n) (start : Nat) (data : Bytes)
    (h : start + data.length ≤ n) : (m.write start data).range start data.length = data := by
  refine Eq.symm ((eq_range_iff _ _ _).2 fun i hi => ?_)
  have hin : start ≤ start + i ∧ start + i < start + data.length := by omega
  rw [get_write _ _ _ _ h, if_pos hin, Nat.add_sub_cancel_left]

/-- A write leaves the ranges apart from it alone. -/
theorem range_write_of_disjoint (m : Memory n) {start start' length : Nat} {data : Bytes}
    (h : start + data.length ≤ n)
    (hd : start + data.length ≤ start' ∨ start' + length ≤ start) :
    (m.write start data).range start' length = m.range start' length := by
  refine range_congr fun i h₁ h₂ => ?_
  rw [get_write _ _ _ _ h, if_neg (by omega)]

/-- The beginning of a range. -/
lemma take_range (m : Memory n) {start length k : Nat} (h : k ≤ length) :
    (m.range start length).take k = m.range start k := by
  refine List.ext_getElem (by simp [h]) fun i hi _ => ?_
  rw [List.getElem_take, getElem_range, getElem_range]

/-- The end of a range. -/
lemma drop_range (m : Memory n) (start length k : Nat) :
    (m.range start (k + length)).drop k = m.range (start + k) length := by
  refine List.ext_getElem (by simp) fun i hi _ => ?_
  rw [List.getElem_drop, getElem_range, getElem_range, Nat.add_assoc]

/-- The bytes at the start of a longer range. -/
lemma range_of_prefix (m : Memory n) {start length : Nat} {data : Bytes} {k : Nat}
    (h : m.range start length = data) (hk : k ≤ length) : m.range start k = data.take k := by
  rw [← h, take_range m hk]

end Memory

end MotorBoard
