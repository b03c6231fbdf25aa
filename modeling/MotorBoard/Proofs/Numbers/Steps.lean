/-
# Numbers that count steps

A raw reading is a whole number of steps, and a step is a power of two.  The number that such a
reading stands for is exact: sixteen bits leave room enough in a mantissa of fifty-three, and the
product with a power of two moves nothing but the exponent.  So readings and the numbers that they
stand for are ordered alike.

The main results are

* `Number.Counts.le_iff`: numbers of steps are ordered as the steps are;
* `Number.counts_ofInt16`, `Number.Counts.step_mul`: a whole number, and its product with a step;
* `StatusFrame.celsius_le_iff`: temperatures are ordered as their raw readings are, with a sign.
-/
import MotorBoard.ProcessData.Status
import MotorBoard.Proofs.Numbers.Zeros

open Float.Model
open Float.Model.UnpackedFloat (Sign ExtendedMantissa packComponents)

namespace MotorBoard

namespace Number

/-! A mantissa at its full length. -/

/-- A number moved up until it has fifty-three bits. -/
def top (a : Nat) : Nat := a <<< (52 - a.log2)

lemma log2_shiftLeft {a : Nat} (ha : 0 < a) (k : Nat) : (a <<< k).log2 = a.log2 + k := by
  induction k with
  | zero => rfl
  | succ k ih =>
    have hpos : a <<< k ≠ 0 := by
      rw [Nat.shiftLeft_eq]
      positivity
    rw [Nat.shiftLeft_succ, Nat.log2_two_mul hpos, ih, Nat.add_assoc]

lemma top_pos {a : Nat} (ha : 0 < a) : 0 < top a := by
  rw [top, Nat.shiftLeft_eq]
  positivity

lemma log2_top {a : Nat} (ha : 0 < a) (hfew : a.log2 ≤ 52) : (top a).log2 = 52 := by
  rw [top, log2_shiftLeft ha]
  omega

/-- The longer one of two numbers is the greater one. -/
lemma lt_of_log2_lt {a b : Nat} (hb : 0 < b) (h : a.log2 < b.log2) : a < b :=
  calc
    a < 2 ^ (a.log2 + 1) := Nat.lt_log2_self
    _ ≤ 2 ^ b.log2 := Nat.pow_le_pow_right (by decide) h
    _ ≤ b := Nat.log2_self_le hb.ne'

lemma compare_shiftLeft (a b k : Nat) : compare (a <<< k) (b <<< k) = compare a b := by
  have hpos : 0 < 2 ^ k := Nat.two_pow_pos k
  rw [Nat.shiftLeft_eq, Nat.shiftLeft_eq]
  obtain hlt | rfl | hgt := Nat.lt_trichotomy a b
  · rw [compare_lt_iff_lt.2 hlt, compare_lt_iff_lt.2 (Nat.mul_lt_mul_of_pos_right hlt hpos)]
  · rw [compare_eq_iff_eq.2 rfl, compare_eq_iff_eq.2 rfl]
  · rw [compare_gt_iff_gt.2 hgt, compare_gt_iff_gt.2 (Nat.mul_lt_mul_of_pos_right hgt hpos)]

/-- Numbers are ordered by their lengths, and those of one length by their mantissas. -/
lemma compare_top {a b : Nat} (ha : 0 < a) (hb : 0 < b) (e : Int) :
    (compare ((a.log2 : Int) + e) (b.log2 + e)).then (compare (top a) (top b)) = compare a b := by
  obtain hlt | heq | hgt := Nat.lt_trichotomy a.log2 b.log2
  · rw [compare_lt_iff_lt.2 (by omega), compare_lt_iff_lt.2 (lt_of_log2_lt hb hlt)]
    rfl
  · rw [heq, compare_eq_iff_eq.2 rfl, top, top, heq]
    exact compare_shiftLeft a b _
  · rw [compare_gt_iff_gt.2 (by omega), compare_gt_iff_gt.2 (lt_of_log2_lt ha hgt)]
    rfl

/-- A mantissa that was moved up is moved back without loss. -/
lemma shiftRight_shiftLeft (m k : Nat) :
    (⟨m <<< k, false, false⟩ : ExtendedMantissa) >>> k = ⟨m, false, false⟩ := by
  induction k generalizing m with
  | zero => rfl
  | succ k ih =>
    have hone : ExtendedMantissa.shiftRightOne ⟨2 * m, false, false⟩ = ⟨m, false, false⟩ := by
      simp [ExtendedMantissa.shiftRightOne]
    have hsplit : m <<< (k + 1) = (2 * m) <<< k := by
      rw [Nat.shiftLeft_eq, Nat.shiftLeft_eq, Nat.pow_succ]
      ring
    show ExtendedMantissa.shiftRightOne
      ((⟨m <<< (k + 1), false, false⟩ : ExtendedMantissa) >>> k) = _
    rw [hsplit, ih, hone]

/-- A mantissa of full length is not rounded, when it is moved to its exponent. -/
lemma shiftToTargetExponent_full {m : Nat} (hfull : m.log2 = 52) (k : Nat) {e : Int}
    (he : -1074 ≤ e) :
    UnpackedFloat.shiftToTargetExponent .binary64 (m <<< k) (e - k) .exact =
      (⟨m, false, false⟩, e) := by
  have hm : 0 < m := Nat.pos_of_ne_zero fun h => by rw [h] at hfull; cases hfull
  have htarget : Format.binary64.targetExponent (totalExponent (m <<< k) (e - k)) = e := by
    have hspec (t : Int) : Format.binary64.targetExponent t = max (t - 53) (-1074) := rfl
    rw [hspec, totalExponent, log2_shiftLeft hm, hfull]
    push_cast
    omega
  have hamount : (e - (e - k)).toNat = k := by omega
  rw [UnpackedFloat.shiftToTargetExponent, htarget, UnpackedFloat.shiftToExponent, hamount]
  exact Prod.ext (shiftRight_shiftLeft m k) (by show e - k + k = e; omega)

lemma roundWithAccuracy_full {m : Nat} (hfull : m.log2 = 52) (hm : 0 < m) (k : Nat) {e : Int}
    (he : -1074 ≤ e) (sign : Sign) :
    UnpackedFloat.roundWithAccuracy .binary64 sign (m <<< k) (e - k) .exact =
      .finite sign m e hm := by
  have hagain : UnpackedFloat.shiftToTargetExponent .binary64 m e .exact =
      (⟨m, false, false⟩, e) := by
    have hzero := shiftToTargetExponent_full hfull 0 he
    rwa [Nat.shiftLeft_zero, Nat.cast_zero, Int.sub_zero] at hzero
  have hrounded : (⟨m, false, false⟩ : ExtendedMantissa).roundedMantissa = m := rfl
  rw [UnpackedFloat.roundWithAccuracy, shiftToTargetExponent_full hfull k he]
  dsimp only
  rw [hrounded, hagain]
  exact dif_neg hm.ne'

/-- What has a full mantissa is packed without its first bit. -/
lemma pack_full {m : Nat} (hfull : m.log2 = 52) (hm : 0 < m) {e : Int} (he : -1074 ≤ e)
    (he' : e ≤ 971) (sign : Sign) :
    UnpackedFloat.pack .binary64 (.finite sign m e hm) =
      packComponents .binary64 sign (BitVec.ofNat 11 (e + 1075).toNat) (BitVec.ofNat 52 m) := by
  have hbias : (e + (Format.binary64.exponentBias : Int) +
      (Format.binary64.mantissaBitsWithoutImplicit : Int)).toNat = (e + 1075).toNat := by
    show (e + 1023 + 52).toNat = _
    rw [Int.add_assoc]
    rfl
  have hroom : ¬ 2 ^ Format.binary64.exponentBits ≤ (e + 1075).toNat + 1 := by
    show ¬ 2 ^ 11 ≤ _
    omega
  rw [UnpackedFloat.pack, hbias, if_neg hroom, if_pos (by rw [hfull]; rfl)]

/-- The first bit comes back when the rest is unpacked. -/
lemma toNat_implicit {m : Nat} (hfull : m.log2 = 52) : (1#1 ++ BitVec.ofNat 52 m).toNat = m := by
  have hm : m ≠ 0 := fun h => by rw [h] at hfull; cases hfull
  obtain ⟨hlow, hhigh⟩ := (Nat.log2_eq_iff hm).1 hfull
  have hrest := Nat.two_pow_add_eq_or_of_lt (BitVec.ofNat 52 m).isLt 1
  rw [Nat.mul_one, BitVec.toNat_ofNat] at hrest
  have hone : (1#1).toNat <<< 52 = 2 ^ 52 := rfl
  rw [BitVec.toNat_append, hone, BitVec.toNat_ofNat, ← hrest]
  omega

/-- What has a full mantissa is unpacked as it was packed. -/
lemma parts_pack_full {m : Nat} (hfull : m.log2 = 52) (hm : 0 < m) {e : Int} (he : -1074 ≤ e)
    (he' : e ≤ 971) (sign : Sign) :
    parts (.ofModel (pack (.finite sign m e hm))) = .finite sign m e hm := by
  have hparts : parts (.ofModel (pack (.finite sign m e hm))) =
    UnpackedFloat.unpack .binary64 (UnpackedFloat.pack .binary64 (.finite sign m e hm)) := rfl
  have hexponent : (BitVec.ofNat 11 (e + 1075).toNat).toNat = (e + 1075).toNat := by
    rw [BitVec.toNat_ofNat, Nat.mod_eq_of_lt (by omega)]
  rw [hparts, pack_full hfull hm he he', UnpackedFloat.unpack]
  simp only [UnpackedFloat.unpackExponent_packComponents,
    UnpackedFloat.unpackMantissa_packComponents, UnpackedFloat.unpackSign_packComponents,
    Sign.ofBitVec_toBitVec]
  rw [if_neg, if_neg]
  · have hbias : (Format.binary64.exponentBias : Int) = 1023 := rfl
    simp only [hexponent, toNat_implicit hfull, hbias, UnpackedFloat.finite.injEq, true_and]
    omega
  · intro h
    have hzero := congrArg BitVec.toNat h
    rw [hexponent] at hzero
    simp at hzero
    omega
  · intro h
    have hones := congrArg BitVec.toNat h
    rw [hexponent] at hones
    simp at hones
    omega

/-! Numbers of steps. -/

/-- Some number is so many steps, where a step is two to the power of `e + 52`. -/
inductive Counts (e : Int) : Int → UnpackedFloat → Prop
  | none : Counts e 0 (.zero .positive)
  | up {a : Nat} (ha : 0 < a) : a.log2 ≤ 52 →
      Counts e a (.finite .positive (top a) (a.log2 + e) (top_pos ha))
  | down {a : Nat} (ha : 0 < a) : a.log2 ≤ 52 →
      Counts e (-a) (.finite .negative (top a) (a.log2 + e) (top_pos ha))

namespace Counts

variable {e n k : Int} {x y : UnpackedFloat}

/-- **Numbers of steps are ordered as the steps are.** -/
theorem le_iff (hx : Counts e n x) (hy : Counts e k y) : x.le y = true ↔ n ≤ k := by
  cases hx with
  | none =>
    cases hy with
    | none => exact iff_of_true rfl le_rfl
    | up ha _ => exact iff_of_true rfl (by omega)
    | down ha _ => exact iff_of_false Bool.false_ne_true (by omega)
  | @up a ha _ =>
    cases hy with
    | none => exact iff_of_false Bool.false_ne_true (by omega)
    | @up b hb _ =>
      rw [UnpackedFloat.le, UnpackedFloat.compare, compare_top ha hb, Option.any_some,
        Nat.isLE_compare]
      omega
    | down hb _ => exact iff_of_false Bool.false_ne_true (by omega)
  | @down a ha _ =>
    cases hy with
    | none => exact iff_of_true rfl (by omega)
    | up hb _ => exact iff_of_true rfl (by omega)
    | @down b hb _ =>
      rw [UnpackedFloat.le, UnpackedFloat.compare, compare_top ha hb, Option.any_some,
        Ordering.isLE_swap, Nat.isGE_compare]
      omega

end Counts

/-- A whole number is moved up, and nothing of it is lost. -/
lemma round_whole {a : Nat} (ha : 0 < a) (hfew : a.log2 ≤ 52) (sign : Sign) :
    UnpackedFloat.round .binary64 sign a 0 =
      .finite sign (top a) ((a.log2 : Int) + -52) (top_pos ha) := by
  have htarget : Format.binary64.targetExponent (totalExponent a 0) = (a.log2 : Int) + -52 := by
    have hspec (t : Int) : Format.binary64.targetExponent t = max (t - 53) (-1074) := rfl
    rw [hspec, totalExponent]
    omega
  have hmoved : UnpackedFloat.decreaseExponent a 0 ((a.log2 : Int) + -52) =
      (top a, (a.log2 : Int) + -52) := by
    have hamount : (0 - ((a.log2 : Int) + -52)).toNat = 52 - a.log2 := by omega
    rw [UnpackedFloat.decreaseExponent, hamount, ← top]
    exact Prod.ext rfl (by dsimp only; omega)
  have hfull := roundWithAccuracy_full (log2_top ha hfew) (top_pos ha) 0
    (show -1074 ≤ (a.log2 : Int) + -52 by omega) sign
  rw [Nat.shiftLeft_zero, Nat.cast_zero, Int.sub_zero] at hfull
  rw [UnpackedFloat.round, htarget, hmoved]
  exact hfull

/-- A number that a reading of sixteen bits stands for counts ones. -/
theorem counts_ofInt16 (n : Int16) :
    Counts (-52) n.toInt (parts (.ofModel (.ofInt16 n))) := by
  have hlow := n.le_toInt
  have hhigh := n.toInt_lt
  have hparts : parts (.ofModel (.ofInt16 n)) = parts (.ofModel (pack
    (UnpackedFloat.normalize .binary64 n.toInt 0 .positive))) := rfl
  rw [hparts, UnpackedFloat.normalize]
  generalize n.toInt = z at *
  have hfew {a : Nat} (ha : 0 < a) (h : a < 2 ^ 16) : a.log2 ≤ 52 :=
    Nat.le_of_lt (lt_of_lt_of_le ((Nat.log2_lt ha.ne').2 h) (by decide))
  split
  · next hcompare =>
    rw [compare_lt_iff_lt] at hcompare
    obtain ⟨a, rfl⟩ := Int.exists_eq_neg_ofNat hcompare.le
    have ha : 0 < a := by omega
    have hlog := hfew ha (by omega)
    rw [Int.neg_neg, Int.toNat_natCast, round_whole ha hlog,
      parts_pack_full (log2_top ha hlog) _ (by omega) (by omega)]
    exact .down ha hlog
  · next hcompare =>
    rw [compare_eq_iff_eq] at hcompare
    rw [hcompare, parts_zero]
    exact .none
  · next hcompare =>
    rw [compare_gt_iff_gt] at hcompare
    obtain ⟨a, rfl⟩ := Int.eq_ofNat_of_zero_le hcompare.le
    have ha : 0 < a := by omega
    have hlog := hfew ha (by omega)
    rw [Int.toNat_natCast, round_whole ha hlog,
      parts_pack_full (log2_top ha hlog) _ (by omega) (by omega)]
    exact .up ha hlog

/-- A step of a temperature, a hundred and twenty-eighth. -/
lemma parts_step : parts 0.0078125 = .finite .positive (2 ^ 52) (-59) (Nat.two_pow_pos 52) := by
  have hpacked : (0.0078125 : Float) =
    .ofModel (pack (.finite .positive (2 ^ 52) (-59) (Nat.two_pow_pos 52))) := by decide +kernel
  rw [hpacked]
  exact parts_pack_full (by decide +kernel) _ (by decide) (by decide) _

/-- A product with the step of a temperature has the exponent changed and nothing else. -/
lemma parts_step_mul {x : Float} {sign : Sign} {m : Nat} {e : Int} {hm : 0 < m}
    (hx : parts x = .finite sign m e hm) (hfull : m.log2 = 52) (he : -1067 ≤ e) (he' : e ≤ 971) :
    parts (0.0078125 * x) = .finite sign m (e + -7) hm := by
  have hsign : Sign.positive * sign = sign := by cases sign <;> rfl
  have hproduct : parts (0.0078125 * x) = parts (.ofModel (pack
    (UnpackedFloat.mul .binary64 (parts 0.0078125) (parts x)))) := rfl
  have hexponent : -59 + e = e + -7 - ((52 : Nat) : Int) := by omega
  rw [hproduct, parts_step, hx, UnpackedFloat.mul, hsign, Nat.mul_comm, ← Nat.shiftLeft_eq,
    hexponent, roundWithAccuracy_full hfull hm 52 (by omega),
    parts_pack_full hfull hm (by omega) (by omega)]

/-- What counted ones counts steps of a temperature then. -/
theorem Counts.step_mul {x : Float} {n : Int} (h : Counts (-52) n (parts x)) :
    Counts (-59) n (parts (0.0078125 * x)) := by
  generalize hparts : parts x = p at h
  have hexponent (a : Nat) : (a.log2 : Int) + -52 + -7 = a.log2 + -59 := by omega
  cases h with
  | none =>
    have hproduct : parts (0.0078125 * x) = parts (.ofModel (pack
      (UnpackedFloat.mul .binary64 (parts 0.0078125) (parts x)))) := rfl
    rw [hproduct, parts_step, hparts, UnpackedFloat.mul, parts_zero]
    exact .none
  | @up a ha hfew =>
    have hproduct := parts_step_mul hparts (log2_top ha hfew) (by omega) (by omega)
    rw [hproduct]
    simp only [hexponent]
    exact .up ha hfew
  | @down a ha hfew =>
    have hproduct := parts_step_mul hparts (log2_top ha hfew) (by omega) (by omega)
    rw [hproduct]
    simp only [hexponent]
    exact .down ha hfew

end Number

open Number

namespace StatusFrame

/-- A temperature counts the steps of its raw reading. -/
lemma counts_celsius (raw : UInt16) : Counts (-59) raw.toInt16.toInt (parts (celsius raw)) :=
  (counts_ofInt16 raw.toInt16).step_mul

/-- **Temperatures are ordered as their raw readings are**, which have a sign. -/
theorem celsius_le_iff (a b : UInt16) : celsius a ≤ celsius b ↔ a.toInt16 ≤ b.toInt16 := by
  rw [le_iff, (counts_celsius a).le_iff (counts_celsius b), Int16.le_iff_toInt_le]

end StatusFrame

end MotorBoard
