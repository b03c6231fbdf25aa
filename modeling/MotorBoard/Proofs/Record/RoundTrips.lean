/-
# Records and their bytes

A record has a place for each of its fields, and the places do not overlap.  So a record is read
back from its bytes as it was, down to mode bits without a name and to the payload of a
not-a-number.  In the other direction a few bytes belong to no field: pad bytes, which are written
as zeros, and the trailing byte of a frame, which is written as the checksum asks for.  All others
come back as they were read.

The register of the transfer engine has four bits for an operation and two without a use.

The main results are

* `RoundTrips`: what it means that records and their bytes are turned into each other;
* `RoundTrips.of_fields`: it is enough to look at the fields;
* `records_round_trip`: the frames of a cycle, the registers and the blocks of the local bus.
-/
import MotorBoard.Bus.SyncManager
import MotorBoard.Eeprom.SpiCommand
import MotorBoard.ProcessData.Status
import MotorBoard.Proofs.Bytes
import MotorBoard.Proofs.Checksum
import MotorBoard.Record.ConfigInfo
import MotorBoard.Record.DiagnosticsInfo
import MotorBoard.Record.SafetyStatus
import MotorBoard.Record.UserConfig

namespace MotorBoard

/-- Records that fit into `size` bytes and their bytes are turned into each other.  What is `tidy`
about bytes is what is left of them when they are decoded and encoded again. -/
structure RoundTrips {α : Type} (encode : α → Bytes) (decode : Bytes → Except Error α)
    (Fits : α → Prop) (size : Nat) (what : String) (tidy : Bytes → Bytes) : Prop where
  length_encode : ∀ r, (encode r).length = size
  decode_encode : ∀ r, Fits r → decode (encode r) = .ok r
  encode_decode : ∀ b, size ≤ b.length → ∃ r, decode b = .ok r ∧ encode r = tidy b
  refused : ∀ b, b.length < size →
    decode b = .error (.invalidParameter s!"{what} needs {size} bytes, got {b.length}")

/-- Decoding is looking at the length and reading the fields; so only the fields are left to look
at. -/
theorem RoundTrips.of_fields {α : Type} {encode : α → Bytes} {decode : Bytes → Except Error α}
    {Fits : α → Prop} {size : Nat} {what : String} {tidy : Bytes → Bytes} {fields : Bytes → α}
    (hdecode : ∀ b, decode b = (requireLength b.length size what).bind fun _ => .ok (fields b))
    (hlength : ∀ r, (encode r).length = size) (hread : ∀ r, Fits r → fields (encode r) = r)
    (hwrite : ∀ b, size ≤ b.length → encode (fields b) = tidy b) :
    RoundTrips encode decode Fits size what tidy where
  length_encode := hlength
  decode_encode r hr := by
    rw [hdecode, requireLength_of_le (Nat.le_of_eq (hlength r).symm)]
    exact congrArg Except.ok (hread r hr)
  encode_decode b h := by
    refine ⟨fields b, ?_, hwrite b h⟩
    rw [hdecode, requireLength_of_le h]
    rfl
  refused b h := by
    rw [hdecode, requireLength_of_lt h]
    rfl

open Bytes

/-! The frames of a cycle. -/

lemma CommandFrame.roundTrips :
    RoundTrips encode decode (fun _ => True) size "command record"
      fun b => Checksum.sealed (b.take 6 ++ zeros 1) := by
  refine .of_fields (fun _ => rfl) length_encode (fun c _ => ?_) fun b (h : 8 ≤ b.length) => ?_
  · simp [encode, Checksum.sealed, int16At, word16At, ofInt16]
  · simp (disch := omega) only [encode, singleton_byteAt, byteAt_cons_slice, ofInt16_int16At,
      slice_append_slice_of_eq, Nat.reduceAdd]
    rfl

lemma StatusFrame.roundTrips :
    RoundTrips encode decode (fun _ => True) size "status record"
      fun b => Checksum.sealed (b.take 42 ++ zeros 1) := by
  refine .of_fields (fun _ => rfl) length_encode (fun s _ => ?_) fun b (h : 44 ≤ b.length) => ?_
  · simp [encode, Checksum.sealed, int16At, int32At, word16At, word32At, ofInt16, ofInt32]
  · simp (disch := omega) only [encode, singleton_byteAt, byteAt_cons_slice, ofInt16_int16At,
      ofInt32_int32At, ofWord16_word16At, ofWord32_word32At, slice_append_slice_of_eq,
      Nat.reduceAdd]
    rfl

/-! The registers. -/

lemma SyncManager.roundTrips :
    RoundTrips encode decode (fun _ => True) size "sync manager" fun b => b.take 8 := by
  refine .of_fields (fun _ => rfl) length_encode (fun sm _ => ?_) fun b (h : 8 ≤ b.length) => ?_
  · simp [encode, word16At]
  · simp (disch := omega) only [encode, singleton_byteAt, byteAt_cons_slice, ofWord16_word16At,
      slice_append_slice_of_eq, Nat.reduceAdd]
    rfl

namespace SpiCommand

/-- The bits of operation and flags do not overlap. -/
lemma control_bits {c : SpiCommand} (h : c.operation < 16) :
    c.control &&& operationMask = c.operation ∧ (c.control &&& startBit != 0) = c.start ∧
      (c.control &&& busyBit != 0) = c.busy := by
  obtain ⟨page, operation, start, busy⟩ := c
  have hbits : ∀ n : Fin 16, ∀ start busy : Bool,
      control ⟨0, UInt8.ofNat n, start, busy⟩ &&& operationMask = UInt8.ofNat n ∧
        (control ⟨0, UInt8.ofNat n, start, busy⟩ &&& startBit != 0) = start ∧
          (control ⟨0, UInt8.ofNat n, start, busy⟩ &&& busyBit != 0) = busy := by
    decide
  have hoperation := hbits ⟨operation.toNat, h⟩ start busy
  rwa [UInt8.ofNat_toNat] at hoperation

/-- Of a control byte that is read, the bits without a use are lost. -/
lemma control_read (page : UInt16) (v : UInt8) :
    control ⟨page, v &&& operationMask, v &&& startBit != 0, v &&& busyBit != 0⟩ = v &&& 0x3F := by
  have hbits : ∀ n : Fin 256,
      control ⟨0, UInt8.ofFin n &&& operationMask, UInt8.ofFin n &&& startBit != 0,
        UInt8.ofFin n &&& busyBit != 0⟩ = UInt8.ofFin n &&& 0x3F := by
    decide +kernel
  exact hbits v.toFin

lemma roundTrips :
    RoundTrips encode decode (fun c => c.operation < 16) size "SPI command"
      fun b => b.take 2 ++ [b.byteAt 2 &&& 0x3F] := by
  refine .of_fields (fun _ => rfl) length_encode (fun c hc => ?_) fun b (h : 3 ≤ b.length) => ?_
  · have hcontrol : c.encode.byteAt 2 = c.control := rfl
    obtain ⟨hoperation, hstart, hbusy⟩ := control_bits hc
    simp only [hcontrol, hoperation, hstart, hbusy]
    simp [encode, word16At]
  · rw [encode, control_read, ofWord16_word16At (by omega)]
    rfl

end SpiCommand

/-! The blocks of the local bus. -/

lemma ConfigInfo.roundTrips :
    RoundTrips encode decode (fun _ => True) size "config info"
      fun b => b.take 28 ++ zeros 4 := by
  refine .of_fields (fun _ => rfl) length_encode (fun c _ => ?_) fun b (h : 32 ≤ b.length) => ?_
  · simp [encode, word16At, word32At]
  · simp (disch := omega) only [encode, singleton_byteAt, byteAt_cons_slice, ofWord16_word16At,
      ofWord32_word32At, slice_append_slice_of_eq, Nat.reduceAdd]
    rfl

lemma SafetyStatus.roundTrips :
    RoundTrips encode decode (fun _ => True) size "safety disable status" fun b => b.take 3 := by
  refine .of_fields (fun _ => rfl) (fun _ => rfl) (fun _ _ => rfl) fun b (h : 3 ≤ b.length) => ?_
  simp (disch := omega) only [encode, singleton_byteAt, byteAt_cons_slice]
  rfl

lemma DiagnosticsInfo.roundTrips :
    RoundTrips encode decode (fun _ => True) size "diagnostics info"
      fun b => b.take 8 ++ [0] ++ b.slice 9 2 ++ [0] ++ b.slice 12 8 := by
  refine .of_fields (fun _ => rfl) length_encode (fun d _ => ?_) fun b (h : 20 ≤ b.length) => ?_
  · simp [encode, int16At, word16At, ofInt16]
  · -- The counts stand one by one in the record, so their slices are taken apart for once.
    have hirqs : b.slice 9 2 = [b.byteAt 9, b.byteAt 10] := by
      simp (disch := omega) only [singleton_byteAt, byteAt_cons_slice]
    have hcounts : b.slice 12 8 = [b.byteAt 12, b.byteAt 13] ++ [b.byteAt 14, b.byteAt 15,
        b.byteAt 16, b.byteAt 17, b.byteAt 18, b.byteAt 19] := by
      simp (disch := omega) only [singleton_byteAt, byteAt_cons_slice, slice_append_slice_of_eq,
        Nat.reduceAdd]
    have hcurrents : b.take 8 = b.slice 0 8 := rfl
    rw [hcurrents, hirqs, hcounts]
    simp (disch := omega) only [encode, ofInt16_int16At, ofWord16_word16At,
      slice_append_slice_of_eq, Nat.reduceAdd, List.append_assoc, List.cons_append,
      List.nil_append]

/-- An image is made again from its own bytes. -/
lemma Image.ofBytes_bytes {n : Nat} (im : Image n) (b : UInt8) : ofBytes n b im.bytes = im := by
  obtain ⟨bytes, hlength⟩ := im
  rw [ofBytes, mk.injEq, Bytes.padTo_self hlength]

lemma UserConfig.roundTrips :
    RoundTrips encode decode (fun _ => True) size "user config ram" fun b => b.take 20 := by
  refine .of_fields (fun _ => rfl) length_encode (fun u _ => ?_) fun b (h : 20 ≤ b.length) => ?_
  · have hreserved := u.reserved.length_bytes
    simp [encode, body, word32At, word64At, hreserved, Image.ofBytes_bytes]
  · have hreserved : (Image.ofBytes 7 0 (b.slice 1 7)).bytes = b.slice 1 7 :=
      padTo_self (length_slice (by omega)) 0
    simp (disch := omega) only [encode, body, hreserved, singleton_byteAt, ofWord32_word32At,
      ofWord64_word64At, slice_append_slice_of_eq, Nat.reduceAdd]
    rfl

/-! All of them. -/

/-- **Records and their bytes are turned into each other.**  Nothing of a record is lost in its
bytes.  Of the bytes those are lost that no field holds: pad bytes become zeros, the last byte of a
frame becomes the one that makes the frame verify, and two bits of the engine's register become
zeros.  The unused bytes of the record with the offset are a field of it, and so is its check. -/
theorem records_round_trip :
    (RoundTrips CommandFrame.encode CommandFrame.decode (fun _ => True) 8 "command record"
        (fun b => Checksum.sealed (b.take 6 ++ [0])) ∧
      RoundTrips StatusFrame.encode StatusFrame.decode (fun _ => True) 44 "status record"
        (fun b => Checksum.sealed (b.take 42 ++ [0])) ∧
      RoundTrips SyncManager.encode SyncManager.decode (fun _ => True) 8 "sync manager"
        (fun b => b.take 8) ∧
      RoundTrips ConfigInfo.encode ConfigInfo.decode (fun _ => True) 32 "config info"
        (fun b => b.take 28 ++ [0, 0, 0, 0]) ∧
      RoundTrips UserConfig.encode UserConfig.decode (fun _ => True) 20 "user config ram"
        (fun b => b.take 20) ∧
      RoundTrips SafetyStatus.encode SafetyStatus.decode (fun _ => True) 3 "safety disable status"
        (fun b => b.take 3) ∧
      RoundTrips DiagnosticsInfo.encode DiagnosticsInfo.decode (fun _ => True) 20
        "diagnostics info"
        (fun b => b.take 8 ++ [0] ++ b.slice 9 2 ++ [0] ++ b.slice 12 8) ∧
      RoundTrips SpiCommand.encode SpiCommand.decode (fun c => c.operation < 16) 3 "SPI command"
        (fun b => b.take 2 ++ [b.byteAt 2 &&& 0x3F])) ∧
    (∀ c : CommandFrame, Checksum.verifies c.encode = true) ∧
    ∀ s : StatusFrame, Checksum.verifies s.encode = true :=
  ⟨⟨CommandFrame.roundTrips, StatusFrame.roundTrips, SyncManager.roundTrips,
    ConfigInfo.roundTrips, UserConfig.roundTrips, SafetyStatus.roundTrips,
    DiagnosticsInfo.roundTrips, SpiCommand.roundTrips⟩,
    fun _ => Checksum.verifies_sealed _, fun _ => Checksum.verifies_sealed _⟩

/-- The register with the largest operation comes back; with the unused bits set it comes back
without them; and two bytes are no register. -/
theorem records_round_trip_register :
    (15 : UInt8) < 16 ∧
    SpiCommand.decode (SpiCommand.encode ⟨0x1234, 15, true, false⟩) =
      .ok ⟨0x1234, 15, true, false⟩ ∧
    (∃ c, SpiCommand.decode [0x34, 0x12, 0xEF] = .ok c ∧ c.encode = [0x34, 0x12, 0x2F]) ∧
    SpiCommand.decode [0x34, 0x12] =
      .error (.invalidParameter "SPI command needs 3 bytes, got 2") := by
  obtain ⟨⟨-, -, -, -, -, -, -, hregister⟩, -⟩ := records_round_trip
  exact ⟨by decide, hregister.decode_encode _ (by decide), hregister.encode_decode _ (by decide),
    hregister.refused _ (by decide)⟩

end MotorBoard
