/-
# Fields that are written and read

What is written to a field is read there, and what stands apart from the field is read as before.

The main results are

* `Field.slice_overwrite`, `Field.slice_overwrite_apart`: the two laws of a field in a string;
* `Image.slice_put`, `Image.slice_put_apart`: the same in an image;
* `Field.text?_writeText?`: a text that was written to a field.
-/
import MotorBoard.Bytes.Image
import MotorBoard.Proofs.Bytes
import MotorBoard.Proofs.Text.Fields

namespace MotorBoard

namespace Field

variable {f : Field} {b new : Bytes}

theorem slice_overwrite (h : f.offset + new.length ≤ b.length) :
    Bytes.slice (f.overwrite b new) f.offset new.length = new := by
  have hlen : (b.take f.offset).length = f.offset := List.length_take_of_le (by omega)
  have hslice := Bytes.slice_append (b.take f.offset) new (b.drop (f.offset + new.length)) rfl
  rwa [hlen] at hslice

theorem slice_overwrite_apart {i n : Nat} (h : f.offset + new.length ≤ b.length)
    (hapart : i + n ≤ f.offset ∨ f.offset + new.length ≤ i) :
    Bytes.slice (f.overwrite b new) i n = b.slice i n := by
  have hlen : (b.take f.offset).length = f.offset := List.length_take_of_le (by omega)
  rw [Bytes.slice, Bytes.slice, overwrite, List.append_assoc]
  obtain hbefore | hbehind := hapart
  · rw [List.drop_append_of_le_length (by omega), List.take_append_of_le_length]
    · rw [List.drop_take, List.take_take, Nat.min_eq_left (by omega)]
    · rw [List.length_drop, hlen]
      omega
  · rw [List.drop_append, List.drop_append, List.drop_eq_nil_of_le (by omega),
      List.drop_eq_nil_of_le (by omega), List.drop_drop, hlen, List.nil_append, List.nil_append]
    congr 2
    omega

/-- Writing what stands there changes nothing. -/
lemma overwrite_slice {n : Nat} (h : f.offset + n ≤ b.length) :
    f.overwrite b (b.slice f.offset n) = b := by
  rw [overwrite, Bytes.length_slice h, Bytes.slice, ← List.drop_drop, List.append_assoc,
    List.take_append_drop, List.take_append_drop]

/-- A text that is written to a field is read as the field shows it. -/
theorem text?_writeText? (s : String) (h : f.stop ≤ b.length) :
    (f.writeText? b s).bind f.text? = some (Text.shown f.size s) := by
  have hsize : (Text.encodeField f.size s).length = f.size := Text.length_encodeField ..
  have hin : f.offset + (Text.encodeField f.size s).length ≤ b.length := by rwa [hsize]
  have hread := slice_overwrite hin
  rw [hsize] at hread
  rw [writeText?, write?, if_pos ⟨hsize, h⟩, Option.bind_some, text?, bytes?, read?,
    if_pos (by rwa [length_overwrite _ _ _ hin]), hread, Option.map_some,
    Text.decodeLossy_encodeField]

end Field

namespace Image

variable {n : Nat} (im : Image n) {f : Field} {new : Bytes}

lemma eq_of_bytes {im im' : Image n} (h : im.bytes = im'.bytes) : im = im' := by
  cases im
  cases im'
  exact (mk.injEq ..).mpr h

lemma bytes_put (h : f.offset + new.length ≤ n) :
    (im.put f new).bytes = f.overwrite im.bytes new := by
  rw [put, overwrite, overwrite?, dif_pos h]
  rfl

theorem slice_put (h : f.offset + new.length ≤ n) :
    (im.put f new).bytes.slice f.offset new.length = new := by
  rw [bytes_put im h, Field.slice_overwrite (by rwa [im.length_bytes])]

theorem slice_put_apart {i m : Nat} (h : f.offset + new.length ≤ n)
    (hapart : i + m ≤ f.offset ∨ f.offset + new.length ≤ i) :
    (im.put f new).bytes.slice i m = im.bytes.slice i m := by
  rw [bytes_put im h, Field.slice_overwrite_apart (by rwa [im.length_bytes]) hapart]

/-- What stands in front of a field is not touched when the field is written. -/
lemma take_put (h : f.offset + new.length ≤ n) :
    (im.put f new).bytes.take f.offset = im.bytes.take f.offset :=
  im.slice_put_apart (i := 0) h (.inl (Nat.le_of_eq (Nat.zero_add _)))

/-- A word that was written to a field is read there. -/
lemma word32_put (w : UInt32) (h : f.offset + 4 ≤ n) :
    (im.put f (Bytes.ofWord32 w)).word32 f = w := by
  have hin : f.offset + (Bytes.ofWord32 w).length ≤ n := by rwa [Bytes.length_ofWord32]
  have hslice := im.slice_put hin
  rw [Bytes.length_ofWord32] at hslice
  rw [word32, Bytes.word32At, hslice, Bytes.ofNat_toNat_ofWord32]

/-- Writing the word that is read there changes nothing. -/
lemma put_word32 (h : f.offset + 4 ≤ n) : im.put f (Bytes.ofWord32 (im.word32 f)) = im := by
  have hin : f.offset + 4 ≤ im.bytes.length := by rwa [im.length_bytes]
  have hbytes : (im.put f (Bytes.ofWord32 (im.word32 f))).bytes = im.bytes := by
    rw [im.bytes_put (by rwa [Bytes.length_ofWord32]), word32, Bytes.ofWord32_word32At hin,
      Field.overwrite_slice hin]
  exact eq_of_bytes hbytes

end Image

end MotorBoard
