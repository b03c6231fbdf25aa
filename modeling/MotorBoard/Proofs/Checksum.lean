/-
# What the checksum detects

The running sum loses nothing: rotating a byte and adding another one can both be undone.
So two different sums stay different whatever comes behind them, and a buffer in which a
single byte was changed sums to something else.  The same argument serves every sum that is
run over a string of bytes in this way.

Changes of several bytes can cancel.  Rotating goes through sums without carry, so the sums of two
buffers of one length differ by the differences of their bytes, each rotated as often as the sum was
after it, whatever the seed and the bytes are.

The main results are

* `Lossless.foldl_append_cons_inj`, `Lossless.foldl_set_ne`: sums that lose nothing;
* `Checksum.verifies_sealed`: a buffer with its trailing byte verifies;
* `Checksum.verifies_append_cons_iff`: of all the buffers that differ in one byte only one
  verifies;
* `Checksum.compute_xor_compute`: by what the sums of two buffers differ;
* `Checksum.missed_iff`: which changes of a buffer the checksum misses.
-/
import Mathlib.Data.List.GetD
import Mathlib.Logic.Function.Iterate
import MotorBoard.Checksum

namespace MotorBoard

/-- A step of a running sum that loses nothing: different sums stay different, and so do the sums
of different bytes. -/
structure Lossless {σ : Type} (step : σ → UInt8 → σ) : Prop where
  left : ∀ b, Function.Injective (step · b)
  right : ∀ s, Function.Injective (step s)

namespace Lossless

variable {σ : Type} {step : σ → UInt8 → σ}

/-- Different sums stay different whatever comes behind them. -/
lemma foldl_injective (h : Lossless step) (data : Bytes) :
    Function.Injective fun s => data.foldl step s := by
  induction data with
  | nil => exact fun _ _ hs => hs
  | cons b r ih => exact fun _ _ hs => h.left b (ih hs)

/-- Strings that agree but for one byte have the same sum only if they agree there, too. -/
theorem foldl_append_cons_inj (h : Lossless step) (s : σ) {l r : Bytes} {a b : UInt8} :
    (l ++ a :: r).foldl step s = (l ++ b :: r).foldl step s ↔ a = b := by
  simp only [List.foldl_append, List.foldl_cons]
  exact (h.foldl_injective r).eq_iff.trans (h.right _).eq_iff

/-- Every change of one byte changes the sum. -/
theorem foldl_set_ne (h : Lossless step) (s : σ) {data : Bytes} {i : Nat} {v : UInt8}
    (hi : i < data.length) (hv : v ≠ data.byteAt i) :
    (data.set i v).foldl step s ≠ data.foldl step s := by
  rw [Bytes.byteAt, List.getD_eq_getElem _ _ hi] at hv
  have hsplit : data.foldl step s =
      (data.take i ++ data[i] :: data.drop (i + 1)).foldl step s := by
    rw [List.getElem_cons_drop, List.take_append_drop]
  rw [hsplit, List.set_eq_take_append_cons_drop, if_pos hi]
  exact (h.foldl_append_cons_inj s).not.2 hv

end Lossless

namespace Checksum

/-- A byte rotated left by one bit, which undoes `rotateRight`. -/
def rotateLeft (v : UInt8) : UInt8 := (v <<< 1) ||| (v >>> 7)

lemma rotateLeft_rotateRight (v : UInt8) : rotateLeft (rotateRight v) = v := by
  have h : ∀ n : Fin 256, rotateLeft (rotateRight (UInt8.ofFin n)) = UInt8.ofFin n := by
    decide +kernel
  exact h v.toFin

lemma rotateRight_injective : Function.Injective rotateRight :=
  Function.LeftInverse.injective rotateLeft_rotateRight

lemma step_left_injective (b : UInt8) : Function.Injective (step · b) := by
  intro s t h
  have h' : step s b ^^^ b = step t b ^^^ b := congrArg (· ^^^ b) h
  simp only [step, UInt8.xor_assoc, UInt8.xor_self, UInt8.xor_zero] at h'
  exact rotateRight_injective h'

lemma step_right_injective (s : UInt8) : Function.Injective (step s) := by
  intro a b h
  have h' : rotateRight s ^^^ step s a = rotateRight s ^^^ step s b :=
    congrArg (rotateRight s ^^^ ·) h
  simpa only [step, ← UInt8.xor_assoc, UInt8.xor_self, UInt8.zero_xor] using h'

lemma lossless_step : Lossless step := ⟨step_left_injective, step_right_injective⟩

lemma compute_append_cons_inj {l r : Bytes} {a b : UInt8} :
    compute (l ++ a :: r) = compute (l ++ b :: r) ↔ a = b :=
  lossless_step.foldl_append_cons_inj seed

@[simp] theorem verifies_sealed (data : Bytes) : verifies (sealed data) = true :=
  (verifies_append_trailing data _).2 rfl

/-- The last byte of a buffer that verifies is the trailing byte of what stands before it. -/
lemma sealed_take {b : Bytes} {n : Nat} (hn : n < b.length)
    (h : verifies (b.take (n + 1)) = true) : sealed (b.take n) = b.take (n + 1) := by
  rw [List.take_succ_eq_append_getElem hn] at h ⊢
  rw [sealed, (verifies_append_trailing _ _).1 h]

/-- Of all the buffers that differ in one byte only one verifies. -/
theorem verifies_append_cons_iff {l r : Bytes} {a b : UInt8}
    (h : verifies (l ++ a :: r) = true) : verifies (l ++ b :: r) = true ↔ b = a := by
  rw [verifies, beq_iff_eq] at h
  rw [verifies, beq_iff_eq, ← h, compute_append_cons_inj]

/-! Differences between buffers. -/

/-- The two parts of a rotated byte share no bit. -/
lemma rotateRight_eq_xor (v : UInt8) : rotateRight v = (v >>> 1) ^^^ (v <<< 7) := by
  have h : ∀ n : Fin 256,
      rotateRight (UInt8.ofFin n) = (UInt8.ofFin n >>> 1) ^^^ (UInt8.ofFin n <<< 7) := by
    decide +kernel
  exact h v.toFin

lemma rotateRight_xor (v w : UInt8) :
    rotateRight (v ^^^ w) = rotateRight v ^^^ rotateRight w := by
  rw [rotateRight_eq_xor, rotateRight_eq_xor, rotateRight_eq_xor, UInt8.shiftRight_xor,
    UInt8.shiftLeft_xor]
  ac_rfl

lemma iterate_rotateRight_xor (n : Nat) (v w : UInt8) :
    rotateRight^[n] (v ^^^ w) = rotateRight^[n] v ^^^ rotateRight^[n] w := by
  induction n generalizing v w with
  | zero => rfl
  | succ n ih => rw [Function.iterate_succ_apply, rotateRight_xor, ih]; rfl

/-- What the differences between two buffers add up to: that of the bytes at offset `i` has been
rotated once for every byte behind them. -/
def residue (a c : Bytes) : UInt8 :=
  ((List.range a.length).map fun i =>
    rotateRight^[a.length - 1 - i] (a.byteAt i ^^^ c.byteAt i)).foldr (· ^^^ ·) 0

lemma residue_cons (x y : UInt8) (a c : Bytes) :
    residue (x :: a) (y :: c) = rotateRight^[a.length] (x ^^^ y) ^^^ residue a c := by
  have hbehind : (fun i => rotateRight^[(x :: a).length - 1 - i]
        (Bytes.byteAt (x :: a) i ^^^ Bytes.byteAt (y :: c) i)) ∘ Nat.succ =
      fun i => rotateRight^[a.length - 1 - i] (a.byteAt i ^^^ c.byteAt i) := by
    funext i
    have hcount : a.length + 1 - 1 - (i + 1) = a.length - 1 - i := by omega
    exact congrArg (fun n => rotateRight^[n] (a.byteAt i ^^^ c.byteAt i)) hcount
  rw [residue, List.length_cons, List.range_succ_eq_map, List.map_cons, List.map_map,
    List.foldr_cons, ← List.length_cons (a := x), hbehind]
  rfl

/-- Running sums over buffers of one length differ by what the sums before them differed by, rotated
through the whole length, and by what the differences of the bytes add up to. -/
lemma foldl_step_xor {a c : Bytes} (h : a.length = c.length) (s t : UInt8) :
    a.foldl step s ^^^ c.foldl step t = rotateRight^[a.length] (s ^^^ t) ^^^ residue a c := by
  induction a generalizing c s t with
  | nil =>
    obtain rfl := List.length_eq_zero_iff.1 h.symm
    exact UInt8.xor_zero.symm
  | cons x a ih =>
    cases c with
    | nil => cases h
    | cons y c =>
      have hstep : step s x ^^^ step t y = rotateRight (s ^^^ t) ^^^ (x ^^^ y) := by
        rw [step, step, rotateRight_xor]
        ac_rfl
      rw [List.foldl_cons, List.foldl_cons, ih (Nat.succ.inj h), hstep, iterate_rotateRight_xor,
        UInt8.xor_assoc, residue_cons, List.length_cons, Function.iterate_succ_apply]

theorem compute_xor_compute {a c : Bytes} (h : a.length = c.length) :
    compute a ^^^ compute c = residue a c := by
  have hzero (n : Nat) : rotateRight^[n] 0 = 0 := Function.iterate_fixed rfl n
  rw [compute, compute, foldl_step_xor h, UInt8.xor_self, hzero, UInt8.zero_xor]

lemma compute_zeros (n : Nat) : compute (Bytes.zeros n) = rotateRight^[n] seed := by
  rw [compute]
  generalize seed = s
  induction n generalizing s with
  | zero => rfl
  | succ n ih =>
    rw [Bytes.zeros, List.replicate_succ, List.foldl_cons, Function.iterate_succ_apply, ← ih, step,
      UInt8.xor_zero, Bytes.zeros]

/-- The seed never rotates to zero. -/
lemma verifies_zeros (n : Nat) : verifies (Bytes.zeros n) = false := by
  have hzero : rotateRight^[n] 0 = 0 := Function.iterate_fixed rfl n
  rw [verifies, beq_eq_false_iff_ne, compute_zeros, ← hzero]
  exact (rotateRight_injective.iterate n).ne (by decide)

/-- **What the checksum misses.**  Behind a buffer there is one byte with which it verifies, its
trailing byte.  A buffer that verifies goes on verifying in another form of the same length exactly
if the differences, each rotated once for every byte behind it, add up to zero.  So no change of a
single byte is missed, and a buffer of zeros does not verify, however long it is. -/
theorem missed_iff :
    (∀ (d : Bytes) (b : UInt8), verifies (d ++ [b]) = true ↔ b = trailing d) ∧
    (∀ a c : Bytes, a.length = c.length → verifies a = true →
      (verifies c = true ↔ residue a c = 0)) ∧
    (∀ (a : Bytes) (i : Nat) (v : UInt8), verifies a = true → i < a.length → v ≠ a.byteAt i →
      verifies (a.set i v) = false) ∧
    ∀ n, verifies (Bytes.zeros n) = false := by
  refine ⟨verifies_append_trailing, ?_, ?_, verifies_zeros⟩
  · intro a c hlength ha
    rw [verifies, beq_iff_eq] at ha
    have hsum := compute_xor_compute hlength
    rw [ha, UInt8.zero_xor] at hsum
    rw [verifies, beq_iff_eq, hsum]
  · intro a i v ha hi hv
    rw [verifies, beq_iff_eq] at ha
    rw [verifies, beq_eq_false_iff_ne, ← ha]
    exact lossless_step.foldl_set_ne seed hi hv

/-- Two changes side by side that cancel, one of them alone, and a pair in other places that does
not cancel. -/
theorem missed_iff_neighbours :
    verifies (((sealed [0x10, 0x20, 0x30]).set 0 0x12).set 1 0x21) = true ∧
    verifies ((sealed [0x10, 0x20, 0x30]).set 0 0x12) = false ∧
    ¬ verifies (((sealed [0x10, 0x20, 0x30]).set 0 0x12).set 2 0x31) = true := by
  obtain ⟨-, hforms, hbyte, -⟩ := missed_iff
  have hsealed : verifies (sealed [0x10, 0x20, 0x30]) = true := by decide
  refine ⟨?_, hbyte _ 0 0x12 hsealed (by decide) (by decide), ?_⟩
  · exact (hforms _ (((sealed _).set 0 0x12).set 1 0x21) (by decide) hsealed).2 (by decide)
  · exact (hforms _ (((sealed _).set 0 0x12).set 2 0x31) (by decide) hsealed).not.2 (by decide)

end Checksum

end MotorBoard
