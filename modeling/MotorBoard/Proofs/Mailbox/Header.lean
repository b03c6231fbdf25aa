/-
# Headers of mailbox commands

A header packs the length less one, a sequence number and the direction into the bits of
one word.  The fields do not overlap, so the word is a sum, and the board reads back from
it what the host has packed.  The main results are

* `CommandHeader.decode_encode`: a header that fits into its word is read back;
* `CommandHeader.build_ok`, `CommandHeader.build_eq`: which headers can be built.
-/
import Mathlib.Data.Nat.Bitwise
import MotorBoard.Mailbox.Command
import MotorBoard.Proofs.Bytes
import MotorBoard.Proofs.Checksum

namespace MotorBoard

namespace CommandHeader

/-- A header whose fields fit into their bits. -/
structure Fits (h : CommandHeader) : Prop where
  pos : 1 ≤ h.length
  length : h.length ≤ 4096
  sequence : h.sequence.toNat < 8

/-- The number that the direction adds to the word. -/
private lemma directionBit_toNat (d : Direction) :
    (directionBit d).toNat = 2 ^ 15 * (if d = .write then 1 else 0) := by
  cases d <;> rfl

/-- The fields do not overlap, so the word is a sum. -/
lemma word_toNat {h : CommandHeader} (hf : h.Fits) :
    h.word.toNat =
      2 ^ 15 * (if h.direction = .write then 1 else 0) +
        (2 ^ 12 * h.sequence.toNat + (h.length - 1)) := by
  have h₁ := hf.pos
  have h₂ := hf.length
  have h₃ := hf.sequence
  have hn : (UInt16.ofNat h.length).toNat = h.length := UInt16.toNat_ofNat_of_lt' (by
    show h.length < 2 ^ 16
    omega)
  have hl : (UInt16.ofNat h.length - 1).toNat = h.length - 1 := by
    rw [UInt16.toNat_sub_of_le _ _ (UInt16.le_iff_toNat_le.2 (hn.symm ▸ h₁)), hn]
    rfl
  have hlen : ((UInt16.ofNat h.length - 1) &&& lengthMask).toNat = h.length - 1 := by
    rw [UInt16.toNat_and, hl]
    show (h.length - 1) &&& (2 ^ 12 - 1) = _
    rw [Nat.and_two_pow_sub_one_eq_mod, Nat.mod_eq_of_lt (by omega)]
  have hseq : ((h.sequence.toUInt16 &&& sequenceMask) <<< 12).toNat =
      2 ^ 12 * h.sequence.toNat := by
    have hm : (h.sequence.toUInt16 &&& sequenceMask).toNat = h.sequence.toNat := by
      rw [UInt16.toNat_and, UInt8.toNat_toUInt16]
      show h.sequence.toNat &&& (2 ^ 3 - 1) = _
      rw [Nat.and_two_pow_sub_one_eq_mod, Nat.mod_eq_of_lt (by omega)]
    rw [UInt16.toNat_shiftLeft, hm, Nat.shiftLeft_eq, Nat.mul_comm, Nat.mod_eq_of_lt]
    · rfl
    · show 2 ^ 12 * h.sequence.toNat < 2 ^ 16
      omega
  have hlow : 2 ^ 12 * h.sequence.toNat ||| (h.length - 1) =
      2 ^ 12 * h.sequence.toNat + (h.length - 1) :=
    (Nat.two_pow_add_eq_or_of_lt (by omega) _).symm
  rw [word, UInt16.toNat_or, UInt16.toNat_or, hlen, hseq, directionBit_toNat, Nat.or_comm,
    Nat.or_comm (h.length - 1), hlow, ← Nat.two_pow_add_eq_or_of_lt (by omega)]

lemma toNat_and_lengthMask (w : UInt16) : (w &&& lengthMask).toNat = w.toNat % 2 ^ 12 := by
  rw [UInt16.toNat_and]
  exact Nat.and_two_pow_sub_one_eq_mod _ 12

lemma toNat_shift_and_sequenceMask (w : UInt16) :
    ((w >>> 12) &&& sequenceMask).toUInt8.toNat = w.toNat / 2 ^ 12 % 2 ^ 3 := by
  have hm : ((w >>> 12) &&& sequenceMask).toNat = w.toNat / 2 ^ 12 % 2 ^ 3 := by
    rw [UInt16.toNat_and, UInt16.toNat_shiftRight]
    exact Nat.and_two_pow_sub_one_eq_mod (w.toNat >>> 12) 3 ▸ Nat.shiftRight_eq_div_pow _ 12 ▸ rfl
  rw [UInt16.toNat_toUInt8, hm, Nat.mod_eq_of_lt (by omega)]

lemma and_writeFlag_eq_zero (w : UInt16) : w &&& writeFlag = 0 ↔ w.toNat < 2 ^ 15 := by
  have hw := w.toNat_lt
  have ht : (w &&& writeFlag).toNat = (w.toNat.testBit 15).toNat * 2 ^ 15 := by
    rw [UInt16.toNat_and]
    exact Nat.and_two_pow w.toNat 15
  rw [← UInt16.toNat_inj, ht, Nat.testBit_eq_decide_div_mod_eq]
  by_cases h : w.toNat / 2 ^ 15 % 2 = 1
  · simp only [h, decide_true, Bool.toNat_true]
    constructor
    · exact fun h' => absurd h' (by decide)
    · intro h'
      omega
  · simp only [h, decide_false, Bool.toNat_false]
    constructor
    · intro _
      omega
    · exact fun _ => rfl

/-- The board reads back the header that the host has packed. -/
theorem decode_encode {h : CommandHeader} (hf : h.Fits) : decode h.encode = .ok h := by
  have h₁ := hf.pos
  have h₂ := hf.length
  have h₃ := hf.sequence
  have hw := word_toNat hf
  have haddress : h.encode.word16At 0 = h.address := by
    simp [encode, Checksum.sealed, Bytes.word16At]
  have hword : h.encode.word16At 2 = h.word := by
    simp [encode, Checksum.sealed, Bytes.word16At]
  have htake : h.encode.take Mailbox.headerSize = h.encode :=
    List.take_of_length_le (Nat.le_of_eq (length_encode h))
  have hlength : (h.word &&& lengthMask).toNat + 1 = h.length := by
    rw [toNat_and_lengthMask, hw]
    omega
  have hsequence : ((h.word >>> 12) &&& sequenceMask).toUInt8 = h.sequence := by
    apply UInt8.toNat.inj
    rw [toNat_shift_and_sequenceMask, hw]
    omega
  have hdirection : (if h.word &&& writeFlag = 0 then Direction.read else .write) =
      h.direction := by
    cases hd : h.direction with
    | read =>
      rw [if_pos ((and_writeFlag_eq_zero _).2 _)]
      rw [hw, hd, if_neg (by decide)]
      omega
    | write =>
      rw [if_neg fun h' => _]
      intro h'
      have hlt := (and_writeFlag_eq_zero _).1 h'
      rw [hw, hd, if_pos rfl] at hlt
      omega
  rw [decode, requireLength_of_le (length_encode h).ge, htake, haddress, hword]
  simp only [hlength, hsequence, hdirection]
  exact if_pos (Checksum.verifies_sealed _)

theorem build_ok {address : UInt16} {length : Nat} {direction : Direction} {sequence : UInt8}
    {h : CommandHeader} (hb : build address length direction sequence = .ok h) :
    (1 ≤ length ∧ length ≤ limit direction) ∧
      h = ⟨address, length, sequence &&& 7, direction⟩ := by
  rw [build] at hb
  split at hb
  · cases hb
  · next hl =>
    refine ⟨?_, (Except.ok.inj hb).symm⟩
    omega

theorem build_eq {address : UInt16} {length : Nat} {direction : Direction}
    (hl : 1 ≤ length ∧ length ≤ limit direction) (sequence : UInt8) :
    build address length direction sequence = .ok ⟨address, length, sequence &&& 7, direction⟩ :=
  if_neg (by omega)

/-- A header within the limits of its direction fits. -/
lemma fits_of_le_limit {address : UInt16} {length : Nat} {direction : Direction}
    {sequence : UInt8} (hl : 1 ≤ length ∧ length ≤ limit direction) :
    Fits ⟨address, length, sequence &&& 7, direction⟩ where
  pos := hl.1
  length := by
    refine hl.2.trans ?_
    cases direction <;> decide
  sequence := by
    show (sequence &&& 7).toNat < 8
    rw [UInt8.toNat_and]
    exact Nat.lt_of_le_of_lt Nat.and_le_right (by decide)

end CommandHeader

/-- The command of a write fits into its mailbox. -/
lemma MailboxCommand.length_encode_le {address : UInt16} {data : Bytes} {sequence : UInt8}
    (hl : data.length ≤ Mailbox.maxWriteLength) :
    (MailboxCommand.encode ⟨⟨address, data.length, sequence, .write⟩, data⟩).length ≤
      Mailbox.size := by
  have h₁ : Mailbox.maxWriteLength = 506 := rfl
  have h₂ : Mailbox.headerSize = 5 := rfl
  have h₃ : Mailbox.size = 512 := rfl
  simp only [encode, List.length_append, CommandHeader.length_encode, Checksum.length_sealed]
  omega

/-- The result of a read, with its checksum, does not fill its mailbox. -/
lemma Mailbox.length_result_lt {length : Nat} (hl : length ≤ Mailbox.maxReadLength) :
    length + 1 < Mailbox.size := by
  have h₁ : Mailbox.maxReadLength = 510 := rfl
  have h₂ : Mailbox.size = 512 := rfl
  omega

end MotorBoard
