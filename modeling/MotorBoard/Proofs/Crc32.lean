/-
# What the cyclic redundancy check detects

A bit step of the register can be undone: the bit that falls out at the bottom is the one that
adds the polynomial, and the polynomial is what reaches the top of the register, where a plain
shift leaves a zero.  So the register loses nothing on its way through a string, and a string
in which a single byte was changed has another check, wherever the byte stands.

A record carries its check behind the bytes that it covers, and it may go on behind the check.
The main results are

* `Crc32.shift_injective`, `Crc32.lossless_feed`: the register loses nothing;
* `Crc32.fitsAt_set_iff`: which changes of one byte a check in a string does not see.
-/
import Mathlib.Data.UInt
import MotorBoard.Crc32
import MotorBoard.Proofs.Bytes
import MotorBoard.Proofs.Checksum

namespace MotorBoard

namespace Crc32

/-- The check value of the code, which is that of the nine digits. -/
example : compute [0x31, 0x32, 0x33, 0x34, 0x35, 0x36, 0x37, 0x38, 0x39] = 0xCBF43926 := by
  decide +kernel

/-! The register. -/

lemma low_bit_iff (r : UInt32) : (r &&& 1 == 1) = true ↔ r.toNat % 2 = 1 := by
  have hand : (r &&& 1).toNat = r.toNat % 2 := by
    rw [UInt32.toNat_and]
    exact Nat.and_one_is_mod _
  rw [beq_iff_eq, ← UInt32.toNat_inj, hand]
  rfl

lemma toNat_shiftRight_one (r : UInt32) : (r >>> 1).toNat = r.toNat / 2 := by
  rw [UInt32.toNat_shiftRight]
  exact Nat.shiftRight_eq_div_pow _ 1

/-- A shift leaves the top bit clear, and the polynomial sets it. -/
lemma shiftRight_xor_polynomial_ne (r s : UInt32) : (r >>> 1) ^^^ polynomial ≠ s >>> 1 := by
  intro h
  have hclear (t : UInt32) : (t >>> 1).toNat.testBit 31 = false := by
    have ht := t.toNat_lt
    rw [toNat_shiftRight_one]
    exact Nat.testBit_lt_two_pow (by omega)
  have htop := congrArg (fun w : UInt32 => w.toNat.testBit 31) h
  simp only [UInt32.toNat_xor, Nat.testBit_xor, hclear] at htop
  exact absurd htop (by decide)

/-- The bit that fell out can be told from the result, and with it the register is known. -/
theorem shift_injective : Function.Injective shift := by
  intro r s h
  have hwhole : r.toNat % 2 = s.toNat % 2 → r >>> 1 = s >>> 1 → r = s := by
    intro hlow hhigh
    have hhalf := congrArg UInt32.toNat hhigh
    rw [toNat_shiftRight_one, toNat_shiftRight_one] at hhalf
    rw [← UInt32.toNat_inj]
    omega
  simp only [shift, low_bit_iff] at h
  split at h <;> split at h
  · exact hwhole (by omega) ((UInt32.xor_left_inj _).1 h)
  · exact absurd h (shiftRight_xor_polynomial_ne r s)
  · exact absurd h.symm (shiftRight_xor_polynomial_ne s r)
  · exact hwhole (by omega) h

lemma shift8_injective : Function.Injective shift8 := by
  intro r s h
  iterate 8 replace h := shift_injective h
  exact h

theorem lossless_feed : Lossless feed where
  left b := by
    intro r s h
    exact (UInt32.xor_left_inj _).1 (shift8_injective h)
  right r := by
    intro a b h
    have hword : a.toUInt32 = b.toUInt32 := (UInt32.xor_right_inj _).1 (shift8_injective h)
    have hvalue := congrArg UInt32.toNat hword
    rw [UInt8.toNat_toUInt32, UInt8.toNat_toUInt32] at hvalue
    exact UInt8.toNat_inj.1 hvalue

/-! The check. -/

lemma compute_inj {a b : Bytes} : compute a = compute b ↔ register a = register b :=
  UInt32.xor_left_inj _

section Change

variable {data : Bytes} {i n : Nat} {v : UInt8}

/-- Every change of one byte in a prefix changes its check. -/
lemma ofPrefix_set_ne (hn : i < n) (hi : i < data.length) (hv : v ≠ data.byteAt i) :
    ofPrefix (data.set i v) n ≠ ofPrefix data n := by
  have hin : i < (data.take n).length := by
    rw [List.length_take]
    omega
  have hbyte : Bytes.byteAt (data.take n) i = data.byteAt i := by
    rw [Bytes.byteAt, Bytes.byteAt, List.getD_eq_getElem _ _ hin, List.getD_eq_getElem _ _ hi,
      List.getElem_take]
  rw [ofPrefix, ofPrefix, List.take_set, ne_eq, compute_inj]
  exact lossless_feed.foldl_set_ne _ hin (hbyte ▸ hv)

/-- What stands behind a prefix has nothing to do with its check. -/
lemma ofPrefix_set (v : UInt8) (hn : n ≤ i) : ofPrefix (data.set i v) n = ofPrefix data n := by
  rw [ofPrefix, ofPrefix, List.take_set_of_le hn]

/-- A string has the check of the first `p` bytes behind them. -/
def FitsAt (p : Nat) (b : Bytes) : Prop := b.word32At p = ofPrefix b p

/-- When one byte is changed, a check goes on fitting exactly if the byte stands behind it. -/
theorem fitsAt_set_iff {p : Nat} (hfits : FitsAt p data) (hp : p + 4 ≤ data.length)
    (hi : i < data.length) (hv : v ≠ data.byteAt i) : FitsAt p (data.set i v) ↔ p + 4 ≤ i := by
  rw [FitsAt] at hfits ⊢
  rcases Nat.lt_or_ge i p with hcovered | hbehind
  · -- the check is as it was, and what it covers is not
    rw [Bytes.word32At_set_apart (.inl hcovered), hfits]
    exact iff_of_false (ofPrefix_set_ne hcovered hi hv).symm (by omega)
  · rw [ofPrefix_set v hbehind, ← hfits]
    rcases Nat.lt_or_ge i (p + 4) with hinside | hafter
    · exact iff_of_false (Bytes.word32At_set_ne hbehind hinside hp hv) (by omega)
    · exact iff_of_true (Bytes.word32At_set_apart (.inr hafter)) hafter

end Change

end Crc32

end MotorBoard
