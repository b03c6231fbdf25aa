/-
# Records in which a byte has changed

A record that carries its checks is read again from a chip or from a memory that may have lost a
byte.  A check fits no more when the byte is one that it covers, or one of its own.  The actuator
record has two checks, of which the large one covers the small one and its bytes; but one of them is
enough, and the small one does not cover what stands behind it.  So a change of the first 256 bytes
is noticed, and a change of the others is not.  The two other records have one check at their end,
which leaves no byte out.

The record of the offset is decoded into fields and encoded again before its check is taken.  That
gives the bytes that were read, so the check sees each of them.

The main results are

* `ActuatorInfo.verifyCrc_changed_iff`, `HeatingConfig.verifyCrc_changed`,
  `UserConfig.validZeroOffset_changed`: one byte of each record;
* `Crc32.one_byte_changed`: all three.
-/
import MotorBoard.Proofs.Crc32
import MotorBoard.Proofs.Record.Checks

namespace MotorBoard

open Crc32

/-- A byte inside of an image can be overwritten. -/
lemma Image.exists_overwrite?_byte {n i : Nat} (im : Image n) (hi : i < n) (v : UInt8) :
    ∃ changed, im.overwrite? i [v] = some changed ∧ changed.bytes = im.bytes.set i v := by
  refine ⟨_, dif_pos hi, ?_⟩
  have hin : i < im.bytes.length := by rw [im.length_bytes]; exact hi
  show im.bytes.take i ++ [v] ++ im.bytes.drop (i + 1) = im.bytes.set i v
  rw [List.set_eq_take_append_cons_drop, if_pos hin, List.append_assoc, List.singleton_append]

namespace ActuatorInfo

lemma verifyCrc_iff (a : ActuatorInfo) :
    a.verifyCrc = true ↔ FitsAt 260 a.bytes ∨ FitsAt 252 a.bytes := by
  rw [verifyCrc, Bool.or_eq_true, beq_iff_eq, beq_iff_eq]
  rfl

lemma fitsAt_generateCrc (a : ActuatorInfo) :
    FitsAt 260 a.generateCrc.bytes ∧ FitsAt 252 a.generateCrc.bytes :=
  ⟨a.putSmallCrc.image.word32_put_check (by decide), a.smallCrcFits_generateCrc⟩

/-- A record with its checks in which a byte has changed is valid exactly if the byte is behind the
small check. -/
theorem verifyCrc_changed_iff (a : ActuatorInfo) {changed : ActuatorInfo} {i : Nat} {v : UInt8}
    (hi : i < size) (hv : v ≠ a.generateCrc.bytes.byteAt i)
    (hchanged : changed.bytes = a.generateCrc.bytes.set i v) :
    changed.verifyCrc = true ↔ 256 ≤ i := by
  have hsize : size = 264 := rfl
  have hlength : a.generateCrc.bytes.length = 264 := a.generateCrc.image.length_bytes
  obtain ⟨hlarge, hsmall⟩ := a.fitsAt_generateCrc
  rw [verifyCrc_iff, hchanged, fitsAt_set_iff hlarge (by omega) (by omega) hv,
    fitsAt_set_iff hsmall (by omega) (by omega) hv]
  omega

end ActuatorInfo

namespace HeatingConfig

lemma fitsAt_generateCrc (h : HeatingConfig) : FitsAt 252 h.generateCrc.bytes :=
  h.image.word32_put_check (by decide)

/-- A record with its check in which a byte has changed is not valid. -/
theorem verifyCrc_changed (h : HeatingConfig) {changed : HeatingConfig} {i : Nat} {v : UInt8}
    (hi : i < size) (hv : v ≠ h.generateCrc.bytes.byteAt i)
    (hchanged : changed.bytes = h.generateCrc.bytes.set i v) : changed.verifyCrc = false := by
  have hsize : size = 256 := rfl
  have hlength : h.generateCrc.bytes.length = 256 := h.generateCrc.image.length_bytes
  have hfits := fitsAt_set_iff h.fitsAt_generateCrc (by omega) (by omega) hv
  rw [← hchanged] at hfits
  rw [verifyCrc, beq_eq_false_iff_ne]
  exact hfits.not.2 (by omega)

end HeatingConfig

namespace UserConfig

variable {b : Bytes} {u : UserConfig}

/-- Bytes enough for a record are decoded into one. -/
lemma exists_decode (h : size ≤ b.length) : ∃ u, decode b = .ok u := by
  obtain ⟨u, hu, -⟩ := roundTrips.encode_decode b h
  exact ⟨u, hu⟩

/-- The check of a record that was decoded is taken over the bytes that were read. -/
lemma body_decode (hsize : size ≤ b.length) (h : decode b = .ok u) :
    u.body = b.take 16 ∧ u.crc = b.word32At 16 := by
  obtain ⟨u', hu', hencode⟩ := roundTrips.encode_decode b hsize
  obtain rfl := Except.ok.inj (hu'.symm.trans h)
  constructor
  · have hlength : u'.body.length = 16 := by simp [body, u'.reserved.length_bytes]
    have htake := congrArg (List.take 16) hencode
    rwa [encode, List.take_left' hlength, List.take_take] at htake
  · rw [decode, requireLength_of_le hsize] at h
    obtain rfl := Except.ok.inj h
    rfl

/-- Without a check that fits the bytes there is no offset. -/
lemma validZeroOffset_eq_none (hsize : size ≤ b.length) (h : decode b = .ok u)
    (hfits : ¬ FitsAt 16 b) : u.validZeroOffset = none := by
  obtain ⟨hbody, hcrc⟩ := body_decode hsize h
  refine if_neg fun hvalid => hfits ?_
  rw [FitsAt, ← hcrc, ← hvalid.2, expectedCrc, hbody, ofPrefix]

lemma fitsAt_make (z : Binary64) : FitsAt 16 (make z).encode := by
  obtain ⟨hbody, hcrc⟩ := body_decode (length_encode _).ge (decode_encode (make z))
  rw [FitsAt, ← hcrc, ofPrefix, ← hbody]
  rfl

/-- A record of an offset in which a byte has changed can be decoded and holds no offset. -/
theorem validZeroOffset_changed (z : Binary64) {i : Nat} {v : UInt8} (hi : i < size)
    (hv : v ≠ (make z).encode.byteAt i) :
    ∃ u, decode ((make z).encode.set i v) = .ok u ∧ u.validZeroOffset = none := by
  have hsize : size = 20 := rfl
  have hlength : (make z).encode.length = size := length_encode _
  have hlength' : ((make z).encode.set i v).length = size := by rw [List.length_set, hlength]
  obtain ⟨u, hu⟩ := exists_decode hlength'.ge
  have hfits := fitsAt_set_iff (fitsAt_make z) (by omega) (by omega) hv
  exact ⟨u, hu, validZeroOffset_eq_none hlength'.ge hu (hfits.not.2 (by omega))⟩

end UserConfig

/-- **One byte of a record has changed.**  An actuator record and a heating record with their checks
are valid as they are, and an offset is read back from its record, whatever its bits.  A changed
byte of an actuator record is noticed exactly in the first 256 bytes; of a heating record it is
noticed everywhere, and so it is in the record of an offset. -/
theorem Crc32.one_byte_changed :
    (∀ a : ActuatorInfo, a.generateCrc.verifyCrc = true ∧
      ∀ (i : Nat) (v : UInt8), i < 264 → v ≠ a.generateCrc.bytes.byteAt i →
        ∃ changed, a.generateCrc.overwrite? i [v] = some changed ∧
          changed.bytes = a.generateCrc.bytes.set i v ∧ (changed.verifyCrc = true ↔ 256 ≤ i)) ∧
    (∀ h : HeatingConfig, h.generateCrc.verifyCrc = true ∧
      ∀ (i : Nat) (v : UInt8), i < 256 → v ≠ h.generateCrc.bytes.byteAt i →
        ∃ changed, h.generateCrc.overwrite? i [v] = some changed ∧
          changed.bytes = h.generateCrc.bytes.set i v ∧ changed.verifyCrc = false) ∧
    ∀ z : Binary64,
      (∃ u, UserConfig.decode (UserConfig.make z).encode = .ok u ∧ u.validZeroOffset = some z) ∧
      ∀ (i : Nat) (v : UInt8), i < 20 → v ≠ (UserConfig.make z).encode.byteAt i →
        ∃ u, UserConfig.decode ((UserConfig.make z).encode.set i v) = .ok u ∧
          u.validZeroOffset = none := by
  refine ⟨fun a => ⟨a.verifyCrc_generateCrc, ?_⟩, fun h => ⟨h.verifyCrc_generateCrc, ?_⟩, ?_⟩
  · intro i v hi hv
    obtain ⟨im, him, hbytes⟩ := a.generateCrc.image.exists_overwrite?_byte hi v
    exact ⟨⟨im⟩, congrArg (Option.map ActuatorInfo.mk) him, hbytes,
      a.verifyCrc_changed_iff hi hv hbytes⟩
  · intro i v hi hv
    obtain ⟨im, him, hbytes⟩ := h.generateCrc.image.exists_overwrite?_byte hi v
    exact ⟨⟨im⟩, congrArg (Option.map HeatingConfig.mk) him, hbytes,
      h.verifyCrc_changed hi hv hbytes⟩
  · intro z
    exact ⟨⟨_, UserConfig.decode_encode _, UserConfig.validZeroOffset_make z⟩,
      fun i v hi hv => UserConfig.validZeroOffset_changed z hi hv⟩

/-- Bytes in front of and behind the small check of an actuator record, the first byte of a heating
record, and the last byte of the record of an offset. -/
theorem Crc32.one_byte_changed_blank :
    (∃ changed, ActuatorInfo.blank.generateCrc.overwrite? 251 [1] = some changed ∧
      ¬ changed.verifyCrc = true) ∧
    (∃ changed, ActuatorInfo.blank.generateCrc.overwrite? 256 [1] = some changed ∧
      changed.verifyCrc = true) ∧
    (∃ changed, (HeatingConfig.make {} true).generateCrc.overwrite? 0 [2] = some changed ∧
      changed.verifyCrc = false) ∧
    ∃ u, UserConfig.decode ((UserConfig.make ⟨0⟩).encode.set 19 1) = .ok u ∧
      u.validZeroOffset = none := by
  obtain ⟨hactuator, hheating, hoffset⟩ := one_byte_changed
  refine ⟨?_, ?_, ?_, (hoffset ⟨0⟩).2 19 1 (by decide) (by decide +kernel)⟩
  · obtain ⟨changed, hchanged, -, hvalid⟩ :=
      (hactuator .blank).2 251 1 (by decide) (by decide +kernel)
    exact ⟨changed, hchanged, hvalid.not.2 (by decide)⟩
  · obtain ⟨changed, hchanged, -, hvalid⟩ :=
      (hactuator .blank).2 256 1 (by decide) (by decide +kernel)
    exact ⟨changed, hchanged, hvalid.2 (by decide)⟩
  · obtain ⟨changed, hchanged, -, hvalid⟩ :=
      (hheating (.make {} true)).2 0 2 (by decide) (by decide +kernel)
    exact ⟨changed, hchanged, hvalid⟩

end MotorBoard
