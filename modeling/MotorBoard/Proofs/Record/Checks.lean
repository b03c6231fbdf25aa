/-
# Records that carry a check

A record is made valid by writing a check into it that fits the bytes in front of the check.
The check does not cover itself, so it fits what it was written into as well.

The main results are

* `Image.word32_put_check`: a check that was written fits;
* `ActuatorInfo.verifyCrc_generateCrc`, `HeatingConfig.verifyCrc_generateCrc`: the records of the
  memory chip;
* `UserConfig.decode_encode`, `UserConfig.validZeroOffset_make`: the record of the offset.
-/
import MotorBoard.Proofs.Record.Fields
import MotorBoard.Proofs.Record.RoundTrips
import MotorBoard.Record.ActuatorInfo
import MotorBoard.Record.HeatingConfig
import MotorBoard.Record.UserConfig

namespace MotorBoard

namespace Image

variable {n : Nat} (im : Image n) {f : Field}

/-- A check that was written fits what it was written into. -/
theorem word32_put_check (h : f.offset + 4 ≤ n) :
    (im.put f (Bytes.ofWord32 (Crc32.ofPrefix im.bytes f.offset))).word32 f =
      Crc32.ofPrefix (im.put f (Bytes.ofWord32 (Crc32.ofPrefix im.bytes f.offset))).bytes
        f.offset := by
  rw [word32_put im _ h, Crc32.ofPrefix, Crc32.ofPrefix,
    take_put im (by rwa [Bytes.length_ofWord32])]

end Image

namespace ActuatorInfo

/-- A large check that was filled in fits. -/
lemma largeCrc_putLargeCrc (a : ActuatorInfo) :
    a.putLargeCrc.largeCrc = a.putLargeCrc.expectedLargeCrc :=
  a.image.word32_put_check (by decide)

/-- A record whose large check was filled in is valid. -/
lemma verifyCrc_putLargeCrc (a : ActuatorInfo) : a.putLargeCrc.verifyCrc = true := by
  rw [verifyCrc, Bool.or_eq_true]
  exact .inl (beq_iff_eq.2 a.largeCrc_putLargeCrc)

/-- An actuator record with its checks is valid. -/
theorem verifyCrc_generateCrc (a : ActuatorInfo) : a.generateCrc.verifyCrc = true :=
  a.putSmallCrc.verifyCrc_putLargeCrc

/-- Whether the small check of a record fits. -/
def SmallCrcFits (a : ActuatorInfo) : Prop := a.smallCrc = a.expectedSmallCrc

instance (a : ActuatorInfo) : Decidable a.SmallCrcFits := inferInstanceAs (Decidable (_ = _))

lemma SmallCrcFits.verifyCrc {a : ActuatorInfo} (h : a.SmallCrcFits) : a.verifyCrc = true := by
  rw [ActuatorInfo.verifyCrc, Bool.or_eq_true]
  exact .inr (beq_iff_eq.2 h)

/-- The small check and what it covers stand in the first 256 bytes. -/
lemma smallCrcFits_congr {a b : ActuatorInfo} (h : a.bytes.take 256 = b.bytes.take 256) :
    a.SmallCrcFits ↔ b.SmallCrcFits := by
  have hfield : a.smallCrc = b.smallCrc := by
    show UInt32.ofNat (Bytes.toNat (a.bytes.slice 252 4)) =
      UInt32.ofNat (Bytes.toNat (b.bytes.slice 252 4))
    rw [Bytes.slice, Bytes.slice, List.take_drop, List.take_drop, h]
  have hcovered : a.bytes.take 252 = b.bytes.take 252 := by
    have h' := congrArg (List.take 252) h
    rwa [List.take_take, List.take_take] at h'
  rw [SmallCrcFits, SmallCrcFits, hfield, expectedSmallCrc, expectedSmallCrc, Crc32.ofPrefix,
    Crc32.ofPrefix, smallCrcField, hcovered]

/-- The small check is not touched when the large one is filled in. -/
lemma take_putLargeCrc (a : ActuatorInfo) : a.putLargeCrc.bytes.take 256 = a.bytes.take 256 := by
  have hin : largeCrcField.offset + (Bytes.ofWord32 a.expectedLargeCrc).length ≤ 264 := by
    rw [Bytes.length_ofWord32]
    decide
  have h := a.image.take_put hin
  have h' := congrArg (List.take 256) h
  rwa [List.take_take, List.take_take] at h'

/-- Both checks of a record fit that was given its checks. -/
lemma smallCrcFits_generateCrc (a : ActuatorInfo) : a.generateCrc.SmallCrcFits :=
  (smallCrcFits_congr a.putSmallCrc.take_putLargeCrc).2 (a.image.word32_put_check (by decide))

end ActuatorInfo

/-- A heating record with its check is valid. -/
theorem HeatingConfig.verifyCrc_generateCrc (h : HeatingConfig) : h.generateCrc.verifyCrc = true :=
  beq_iff_eq.2 (h.image.word32_put_check (by decide))

namespace UserConfig

/-- A record is read back from its bytes. -/
theorem decode_encode (u : UserConfig) : decode u.encode = .ok u :=
  roundTrips.decode_encode u trivial

/-- The record that is made for an offset is valid and holds it. -/
theorem validZeroOffset_make (z : Binary64) : (make z).validZeroOffset = some z :=
  if_pos ⟨rfl, rfl⟩

end UserConfig

end MotorBoard
