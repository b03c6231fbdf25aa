/-
# Bytes at their offsets

What a record writes at an offset is read there again.  The facts below are those that
codecs and mailboxes share.  The main results are

* `Bytes.toNat_ofNat`: reading back the bytes of a number gives the number modulo the
  width;
* `Bytes.ofNat_toNat`: writing the number of some bytes gives these bytes back;
* `Bytes.slice_append`: bytes are found at the offset at which they were put;
* `Bytes.ofWord16_word16At`: writing the word that was read gives these bytes back;
* `Bytes.slice_append_of_le`, `Bytes.slice_append_slice_of_eq`: strings taken apart and put
  together;
* `Bytes.slice_set_ne`, `Bytes.slice_set_apart`: which slices a changed byte is in.
-/
import Mathlib.Algebra.Group.Nat.Defs
import Mathlib.Data.List.GetD
import MotorBoard.Bytes.Basic

namespace MotorBoard

namespace Bytes

theorem toNat_ofNat (n v : Nat) : toNat (ofNat n v) = v % 256 ^ n := by
  induction n generalizing v with
  | zero => simp [ofNat, toNat, Nat.mod_one]
  | succ n ih =>
    have hp : 256 ^ (n + 1) = 256 * 256 ^ n := by rw [Nat.pow_succ, Nat.mul_comm]
    rw [ofNat, toNat, ih, UInt8.toNat_ofNat', hp, Nat.mod_mul]

theorem ofNat_toNat (b : Bytes) : ofNat b.length (toNat b) = b := by
  induction b with
  | nil => rfl
  | cons c r ih =>
    have hc := c.toNat_lt
    have h1 : (c.toNat + 256 * toNat r) / 256 = toNat r := by omega
    have h2 : UInt8.ofNat (c.toNat + 256 * toNat r) = c := by
      apply UInt8.toNat.inj
      rw [UInt8.toNat_ofNat']
      omega
    rw [List.length_cons, ofNat, toNat, h1, h2, ih]

/-- The word in the two bytes of a word. -/
@[simp] lemma ofNat_toNat_ofWord16 (w : UInt16) : UInt16.ofNat (toNat (ofWord16 w)) = w := by
  have hlt : w.toNat < 256 ^ 2 := w.toNat_lt
  rw [ofWord16, toNat_ofNat, Nat.mod_eq_of_lt hlt, UInt16.ofNat_toNat]

@[simp] lemma ofNat_toNat_ofWord32 (w : UInt32) : UInt32.ofNat (toNat (ofWord32 w)) = w := by
  have hlt : w.toNat < 256 ^ 4 := w.toNat_lt
  rw [ofWord32, toNat_ofNat, Nat.mod_eq_of_lt hlt, UInt32.ofNat_toNat]

@[simp] lemma ofNat_toNat_ofWord64 (w : UInt64) : UInt64.ofNat (toNat (ofWord64 w)) = w := by
  have hlt : w.toNat < 256 ^ 8 := w.toNat_lt
  rw [ofWord64, toNat_ofNat, Nat.mod_eq_of_lt hlt, UInt64.ofNat_toNat]

/-- Bytes are found at the offset where those before them end. -/
theorem slice_append (l m r : Bytes) {n : Nat} (hn : m.length = n) :
    slice (l ++ m ++ r) l.length n = m := by
  rw [slice, List.append_assoc, List.drop_left]
  exact List.take_left' hn

/-- The number in some bytes fits into their width. -/
lemma toNat_lt (b : Bytes) : toNat b < 256 ^ b.length := by
  induction b with
  | nil => decide
  | cons c r ih =>
    have hc := c.toNat_lt
    rw [toNat, List.length_cons, Nat.pow_succ]
    omega

section Slice

variable {b : Bytes} {i n : Nat}

lemma length_slice (h : i + n ≤ b.length) : (b.slice i n).length = n := by
  simp only [slice, List.length_take, List.length_drop]
  omega

/-- Two slices side by side are one. -/
lemma slice_append_slice (b : Bytes) (i m n : Nat) :
    b.slice i m ++ b.slice (i + m) n = b.slice i (m + n) := by
  rw [slice, slice, slice, ← List.drop_drop, List.take_add]

lemma toNat_slice_lt (h : i + n ≤ b.length) : toNat (b.slice i n) < 256 ^ n := by
  have hlt := toNat_lt (b.slice i n)
  rwa [length_slice h] at hlt

/-- Writing the number that was read gives back the bytes that it was read from. -/
lemma ofNat_toNat_slice (h : i + n ≤ b.length) : ofNat n (toNat (b.slice i n)) = b.slice i n := by
  have hback := ofNat_toNat (b.slice i n)
  rwa [length_slice h] at hback

theorem ofWord16_word16At (h : i + 2 ≤ b.length) : ofWord16 (b.word16At i) = b.slice i 2 := by
  rw [ofWord16, word16At, UInt16.toNat_ofNat_of_lt' (toNat_slice_lt h), ofNat_toNat_slice h]

lemma ofWord32_word32At (h : i + 4 ≤ b.length) : ofWord32 (b.word32At i) = b.slice i 4 := by
  rw [ofWord32, word32At, UInt32.toNat_ofNat_of_lt' (toNat_slice_lt h), ofNat_toNat_slice h]

lemma ofWord64_word64At (h : i + 8 ≤ b.length) : ofWord64 (b.word64At i) = b.slice i 8 := by
  rw [ofWord64, word64At, UInt64.toNat_ofNat_of_lt' (toNat_slice_lt h), ofNat_toNat_slice h]

/-- A string of the right length is neither cut nor filled up. -/
lemma padTo_self {s : Bytes} (h : s.length = n) (c : UInt8) : padTo n c s = s := by
  rw [padTo, ← h, List.take_length, Nat.sub_self, List.replicate_zero, List.append_nil]

end Slice

/-! Strings that were put together are taken apart from the front. -/

section Apart

variable {l m r : Bytes} {i n : Nat} {c : UInt8}

@[simp] theorem slice_append_of_le (h : l.length ≤ i) :
    slice (l ++ r) i n = slice r (i - l.length) n := by
  rw [slice, slice, List.drop_append, List.drop_eq_nil_of_le h, List.nil_append]

@[simp] lemma slice_cons_succ : slice (c :: r) (i + 1) n = slice r i n := rfl

@[simp] lemma slice_zero_append (h : m.length = n) : slice (m ++ r) 0 n = m := List.take_left' h

@[simp] lemma slice_zero_self (h : m.length = n) : slice m 0 n = m :=
  List.take_of_length_le (Nat.le_of_eq h)

@[simp] lemma byteAt_append_of_le (h : l.length ≤ i) :
    byteAt (l ++ r) i = byteAt r (i - l.length) := by
  rw [byteAt, byteAt, List.getD_append_right _ _ _ _ h]

@[simp] lemma byteAt_cons_zero : byteAt (c :: r) 0 = c := rfl

@[simp] lemma byteAt_cons_succ : byteAt (c :: r) (i + 1) = byteAt r i := rfl

end Apart

/-! Bytes that were read are put together again. -/

section Together

variable {b : Bytes} {i j m n : Nat}

lemma byteAt_cons_slice (h : i < b.length) (hj : j = i + 1) :
    b.byteAt i :: b.slice j n = b.slice i (n + 1) := by
  rw [hj, slice, slice, List.drop_eq_getElem_cons h, List.take_succ_cons, byteAt,
    List.getD_eq_getElem _ _ h]

lemma singleton_byteAt (h : i < b.length) : [b.byteAt i] = b.slice i 1 :=
  byteAt_cons_slice (n := 0) h rfl

lemma byteAt_eq_slice (b : Bytes) (i : Nat) : b.byteAt i = byteAt (b.slice i 1) 0 := by
  simp [byteAt, slice, List.getD_eq_getElem?_getD]

/-- Two slices of which one begins where the other ends are one. -/
theorem slice_append_slice_of_eq (hj : j = i + m) :
    b.slice i m ++ b.slice j n = b.slice i (m + n) := by
  rw [hj, slice_append_slice]

lemma ofInt16_int16At (h : i + 2 ≤ b.length) : ofInt16 (b.int16At i) = b.slice i 2 := by
  rw [ofInt16, int16At, UInt16.toUInt16_toInt16, ofWord16_word16At h]

lemma ofInt32_int32At (h : i + 4 ≤ b.length) : ofInt32 (b.int32At i) = b.slice i 4 := by
  rw [ofInt32, int32At, UInt32.toUInt32_toInt32, ofWord32_word32At h]

end Together

/-! One byte of a string is changed. -/

section Change

variable {b : Bytes} {i j n : Nat} {v : UInt8}

/-- A slice that lies apart from the change is as before. -/
theorem slice_set_apart (h : i < j ∨ j + n ≤ i) : slice (b.set i v) j n = b.slice j n := by
  rw [slice, slice, List.drop_set]
  split
  · rfl
  · rw [List.take_set, List.set_eq_of_length_le]
    simp only [List.length_take]
    omega

/-- A slice around the change is another one. -/
theorem slice_set_ne (hlo : j ≤ i) (hhi : i < j + n) (hi : i < b.length) (hv : v ≠ b.byteAt i) :
    slice (b.set i v) j n ≠ b.slice j n := by
  intro h
  have hbyte := congrArg (·[i - j]?) h
  have hat : j + (i - j) = i := by omega
  simp only [slice, List.getElem?_take, List.getElem?_drop, hat] at hbyte
  rw [if_pos (by omega), if_pos (by omega), List.getElem?_set_self hi] at hbyte
  rw [byteAt, List.getD_eq_getElem?_getD, ← hbyte] at hv
  exact hv rfl

lemma word32At_set_apart (h : i < j ∨ j + 4 ≤ i) :
    word32At (b.set i v) j = b.word32At j := by
  rw [word32At, word32At, slice_set_apart h]

lemma word32At_set_ne (hlo : j ≤ i) (hhi : i < j + 4) (hlen : j + 4 ≤ b.length)
    (hv : v ≠ b.byteAt i) : word32At (b.set i v) j ≠ b.word32At j := by
  intro h
  have hslice := congrArg ofWord32 h
  rw [ofWord32_word32At (by rwa [List.length_set]), ofWord32_word32At hlen] at hslice
  exact slice_set_ne hlo hhi (by omega) hv hslice

end Change

/-- Changing one byte of a string leaves the others as they are. -/
lemma byteAt_modify {b : Bytes} {i j : Nat} {f : UInt8 → UInt8} (hj : j < b.length) :
    byteAt (b.modify i f) j = if i = j then f (b.byteAt j) else b.byteAt j := by
  have hj' : j < (b.modify i f).length := by rwa [List.length_modify]
  rw [byteAt, byteAt, List.getD_eq_getElem _ _ hj', List.getD_eq_getElem _ _ hj,
    List.getElem_modify]

end Bytes

/-- A count in a word goes up by one as long as it does not go around. -/
lemma Word32.toNat_add_one {x : UInt32} (hx : x.toNat + 1 < 2 ^ 32) :
    (x + 1).toNat = x.toNat + 1 := by
  rw [UInt32.toNat_add, UInt32.toNat_one, Nat.mod_eq_of_lt hx]

end MotorBoard
