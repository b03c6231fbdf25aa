/-
# Headers and their bytes

The word of a header has room for twelve bits of length, three of a sequence number and one of
direction, and no bit is left over.  So any two words that stand before a byte that makes them sum
to zero are the words of a header, and that header is encoded as just these bytes: headers whose
fields fit and strings of five bytes that verify are the same in two forms.  The length is kept less
one, and the length that fills its bits is 4096, far beyond the lengths that a mailbox carries.

The main results are

* `CommandHeader.word_ofWords`: the fields hold all that is in the word;
* `CommandHeader.decode_eq_ok_iff`, `CommandHeader.encode_decode`: what can be decoded, and that
  nothing is lost;
* `CommandHeader.decode_encode_iff`: which headers are read back;
* `CommandHeader.bijOn_encode`: headers and their encodings are in bijection;
* `CommandHeader.codec_bijective`: the codec as a whole.
-/
import Mathlib.Data.Set.Function
import MotorBoard.Proofs.Mailbox.Header

namespace MotorBoard

namespace CommandHeader

/-- The header with the fields that are in the bits of a word. -/
def ofWords (address w : UInt16) : CommandHeader where
  address := address
  length := (w &&& lengthMask).toNat + 1
  sequence := ((w >>> 12) &&& sequenceMask).toUInt8
  direction := if w &&& writeFlag = 0 then .read else .write

lemma fits_ofWords (address w : UInt16) : (ofWords address w).Fits where
  pos := Nat.le_add_left _ _
  length := by
    show (w &&& lengthMask).toNat + 1 ≤ 4096
    rw [toNat_and_lengthMask]
    omega
  sequence := by
    show ((w >>> 12) &&& sequenceMask).toUInt8.toNat < 8
    rw [toNat_shift_and_sequenceMask]
    omega

/-- No bit of the word is lost in the fields. -/
theorem word_ofWords (address w : UInt16) : (ofWords address w).word = w := by
  have hw := w.toNat_lt
  have hdirection : (if (ofWords address w).direction = .write then 1 else 0) =
      w.toNat / 2 ^ 15 := by
    by_cases hread : w &&& writeFlag = 0
    · have hlow := (and_writeFlag_eq_zero w).1 hread
      simp only [ofWords, if_pos hread, reduceCtorEq, if_false]
      omega
    · have hhigh := mt (and_writeFlag_eq_zero w).2 hread
      simp only [ofWords, if_neg hread, if_true]
      omega
  rw [← UInt16.toNat_inj, word_toNat (fits_ofWords address w), hdirection]
  simp only [ofWords, toNat_and_lengthMask, toNat_shift_and_sequenceMask]
  omega

/-- A header is decoded from bytes that are long enough and sum to zero, and from no others. -/
theorem decode_eq_ok_iff {b : Bytes} {h : CommandHeader} :
    decode b = .ok h ↔
      (Mailbox.headerSize ≤ b.length ∧ Checksum.verifies (b.take Mailbox.headerSize) = true) ∧
        h = ofWords (b.word16At 0) (b.word16At 2) := by
  rw [decode, requireLength]
  by_cases hlength : b.length < Mailbox.headerSize
  · rw [if_pos hlength]
    refine iff_of_false (fun hdecode => ?_) fun hdecodes => Nat.not_le.2 hlength hdecodes.1.1
    cases hdecode
  · rw [if_neg hlength]
    show (if Checksum.verifies (b.take Mailbox.headerSize) = true
      then Except.ok (ofWords (b.word16At 0) (b.word16At 2))
      else Except.error Error.checksumMismatch) = .ok h ↔ _
    split
    · next hsum => simp [hsum, Nat.not_lt.1 hlength, eq_comm]
    · next hsum => simp [hsum]

lemma exists_decode_iff {b : Bytes} :
    (∃ h, decode b = .ok h) ↔
      Mailbox.headerSize ≤ b.length ∧ Checksum.verifies (b.take Mailbox.headerSize) = true := by
  constructor
  · rintro ⟨h, hdecode⟩
    exact (decode_eq_ok_iff.1 hdecode).1
  · intro hverifies
    exact ⟨_, decode_eq_ok_iff.2 ⟨hverifies, rfl⟩⟩

lemma fits_of_decode {b : Bytes} {h : CommandHeader} (hdecode : decode b = .ok h) : h.Fits := by
  obtain ⟨-, rfl⟩ := decode_eq_ok_iff.1 hdecode
  exact fits_ofWords _ _

/-- Encoding what was decoded gives back the bytes that it was decoded from. -/
theorem encode_decode {b : Bytes} {h : CommandHeader} (hdecode : decode b = .ok h) :
    h.encode = b.take Mailbox.headerSize := by
  obtain ⟨⟨hlength, hsum⟩, rfl⟩ := decode_eq_ok_iff.1 hdecode
  have hsize : Mailbox.headerSize = 5 := rfl
  have hwords : Bytes.ofWord16 (b.word16At 0) ++ Bytes.ofWord16 (b.word16At 2) = b.take 4 := by
    rw [Bytes.ofWord16_word16At (by omega), Bytes.ofWord16_word16At (by omega)]
    exact b.slice_append_slice 0 2 2
  have haddress : (ofWords (b.word16At 0) (b.word16At 2)).address = b.word16At 0 := rfl
  rw [encode, haddress, word_ofWords, hwords]
  exact Checksum.sealed_take (by omega) hsum

/-- The headers that are read back are those whose fields fit. -/
theorem decode_encode_iff {h : CommandHeader} : decode h.encode = .ok h ↔ h.Fits :=
  ⟨fits_of_decode, decode_encode⟩

/-- **Headers whose fields fit, and strings of five bytes that verify**, are encoded and decoded
one into the other. -/
theorem bijOn_encode :
    Set.BijOn encode {h | h.Fits}
      {b | b.length = Mailbox.headerSize ∧ Checksum.verifies b = true} := by
  refine ⟨?_, ?_, ?_⟩
  · intro h _
    exact ⟨length_encode h, Checksum.verifies_sealed _⟩
  · intro h hfits h' hfits' hsame
    have hback := decode_encode hfits
    rw [hsame, decode_encode hfits'] at hback
    exact (Except.ok.inj hback).symm
  · rintro b ⟨hlength, hsum⟩
    have htake : b.take Mailbox.headerSize = b := List.take_of_length_le hlength.le
    obtain ⟨h, hdecode⟩ := exists_decode_iff.2 ⟨hlength.ge, by rwa [htake]⟩
    exact ⟨h, fits_of_decode hdecode, (encode_decode hdecode).trans htake⟩

lemma exists_build_iff {address : UInt16} {length : Nat} {direction : Direction}
    {sequence : UInt8} :
    (∃ h, build address length direction sequence = .ok h) ↔
      1 ≤ length ∧ length ≤ limit direction := by
  constructor
  · rintro ⟨h, hbuild⟩
    exact (build_ok hbuild).1
  · intro hlength
    exact ⟨_, build_eq hlength sequence⟩

/-- **The codec of headers is a bijection.**  Every header that can be built, which is every one
with a length in the bounds of its direction, is read back.  Bytes can be decoded exactly when there
are five of them that sum to zero, and then encoding the header gives them back.  So the headers
whose fields fit, the one with the greatest length included, and the strings of five bytes that
verify are in bijection, and no two of them share an encoding. -/
theorem codec_bijective :
    (limit .write = 506 ∧ limit .read = 510) ∧
    (∀ (address : UInt16) (length : Nat) (direction : Direction) (sequence : UInt8),
      ((∃ h, build address length direction sequence = .ok h) ↔
        1 ≤ length ∧ length ≤ limit direction) ∧
      ∀ h, build address length direction sequence = .ok h → decode h.encode = .ok h) ∧
    (∀ b : Bytes,
      ((∃ h, decode b = .ok h) ↔ 5 ≤ b.length ∧ Checksum.verifies (b.take 5) = true) ∧
      ∀ h, decode b = .ok h → h.Fits ∧ h.encode = b.take 5) ∧
    Set.BijOn encode {h | (1 ≤ h.length ∧ h.length ≤ 4096) ∧ h.sequence.toNat < 8}
      {b | b.length = 5 ∧ Checksum.verifies b = true} := by
  refine ⟨⟨rfl, rfl⟩, ?_, ?_, ?_⟩
  · intro address length direction sequence
    refine ⟨exists_build_iff, fun h hbuild => ?_⟩
    obtain ⟨hlength, rfl⟩ := build_ok hbuild
    exact decode_encode (fits_of_le_limit hlength)
  · intro b
    exact ⟨exists_decode_iff, fun h hdecode => ⟨fits_of_decode hdecode, encode_decode hdecode⟩⟩
  · have hfits : {h : CommandHeader | (1 ≤ h.length ∧ h.length ≤ 4096) ∧ h.sequence.toNat < 8} =
        {h | h.Fits} := by
      ext h
      exact ⟨fun ⟨⟨hpos, hlength⟩, hsequence⟩ => ⟨hpos, hlength, hsequence⟩,
        fun hf => ⟨⟨hf.pos, hf.length⟩, hf.sequence⟩⟩
    rw [hfits]
    exact bijOn_encode

/-- The longest read that can be asked for, with a sequence number that is cut to its three bits;
and a header of the greatest length of all, with bytes behind it. -/
theorem codec_bijective_longest :
    (∃ h, build 0x0230 510 .read 11 = .ok h ∧ decode h.encode = .ok h) ∧
      ∃ h : CommandHeader, h.length = 4096 ∧
        decode [0xFF, 0xFF, 0xFF, 0xFF, 0x12, 0x01] = .ok h ∧
        h.encode = [0xFF, 0xFF, 0xFF, 0xFF, 0x12] := by
  obtain ⟨-, hbuilt, hdecoded, -⟩ := codec_bijective
  refine ⟨⟨_, rfl, (hbuilt 0x0230 510 .read 11).2 _ rfl⟩, ?_⟩
  have hdecode : decode [0xFF, 0xFF, 0xFF, 0xFF, 0x12, 0x01] = .ok ⟨0xFFFF, 4096, 7, .write⟩ := by
    decide +kernel
  exact ⟨_, rfl, hdecode, ((hdecoded _).2 _ hdecode).2⟩

end CommandHeader

end MotorBoard
