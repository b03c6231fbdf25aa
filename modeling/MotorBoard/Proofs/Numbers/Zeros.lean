/-
# Zeros, signs and bounds

What the driver computes with passes through divisions by constants that may be anything: zero,
infinite, or no numbers.  Three kinds of numbers are told apart here by what they unpack to: a
zero of either sign, something below zero, and something that is no number.  A zero that is
divided is a zero or no number; a number changes its kind with its sign; and of two numbers on
different sides of zero it is plain which is the lesser one.

The main results are

* `Number.parts_neg`: a number is negated by its sign alone;
* `Number.Void.div`, `Number.Void.toInt16`: what becomes of a zero;
* `Number.IsZero.within`: a zero between the bounds `-m` and `m`, where `m` may be negative.
-/
import Mathlib
import MotorBoard.Device.Cycle

open Float.Model
open Float.Model.UnpackedFloat (Sign packComponents unpack_packedZero unpack_packedNaN)

namespace MotorBoard

namespace Number

/-- What a number unpacks to. -/
def parts (x : Float) : UnpackedFloat := x.toModel.unpack

/-- A zero of either sign. -/
def IsZero (x : Float) : Prop := ∃ sign, parts x = .zero sign

/-- A zero, or no number at all. -/
def Void (x : Float) : Prop := IsZero x ∨ parts x = .notANumber

lemma isZero_literal : IsZero 0.0 := ⟨.positive, rfl⟩

lemma parts_zero (sign : Sign) : parts (.ofModel (pack (.zero sign))) = .zero sign :=
  unpack_packedZero

lemma parts_notANumber : parts (.ofModel (pack .notANumber)) = .notANumber :=
  @unpack_packedNaN .binary64

/-! Signs. -/

/-- The exponent and the fraction that a finite number is packed with do not depend on its
sign. -/
lemma exists_pack_finite {spec : Format} (m : Nat) (e : Int) (hm : 0 < m) :
    ∃ exponent fraction, ∀ sign, UnpackedFloat.pack spec (.finite sign m e hm) =
      packComponents spec sign exponent fraction := by
  unfold UnpackedFloat.pack
  dsimp only
  split
  · exact ⟨_, _, fun _ => rfl⟩
  · split <;> exact ⟨_, _, fun _ => rfl⟩

lemma unpack_packComponents_neg {spec : Format} (sign : Sign)
    (exponent : BitVec spec.exponentBits) (fraction : BitVec spec.mantissaBitsWithoutImplicit) :
    UnpackedFloat.unpack spec (packComponents spec (-sign) exponent fraction) =
      (UnpackedFloat.unpack spec (packComponents spec sign exponent fraction)).neg := by
  simp only [UnpackedFloat.unpack, UnpackedFloat.unpackExponent_packComponents,
    UnpackedFloat.unpackMantissa_packComponents, UnpackedFloat.unpackSign_packComponents,
    Sign.ofBitVec_toBitVec]
  split
  · split <;> rfl
  · split
    · split <;> rfl
    · rfl

/-- **A number is negated by its sign alone.** -/
theorem parts_neg (x : Float) : parts (-x) = (parts x).neg := by
  have hself : UnpackedFloat.pack .binary64 (parts x) = x.toModel.toBits.toBitVec :=
    UnpackedFloat.pack_unpack_of_valid x.toModel.valid
  have hparts : parts x = UnpackedFloat.unpack .binary64 (UnpackedFloat.pack .binary64 (parts x)) :=
    congrArg (UnpackedFloat.unpack .binary64) hself.symm
  have hneg : parts (-x) =
    UnpackedFloat.unpack .binary64 (UnpackedFloat.pack .binary64 (parts x).neg) := rfl
  rw [hneg]
  conv => rhs; rw [hparts]
  cases parts x with
  | notANumber => rw [UnpackedFloat.neg, UnpackedFloat.pack, unpack_packedNaN]; rfl
  | infinity sign => exact unpack_packComponents_neg sign _ _
  | zero sign => exact unpack_packComponents_neg sign _ _
  | finite sign m e hm =>
    obtain ⟨exponent, fraction, hpack⟩ := @exists_pack_finite .binary64 m e hm
    rw [UnpackedFloat.neg, hpack, hpack]
    exact unpack_packComponents_neg sign _ _

/-! What becomes of a zero. -/

/-- A zero that is divided by anything is a zero or no number, and what is no number stays so. -/
theorem Void.div {x : Float} (h : Void x) (y : Float) : Void (x / y) := by
  have hparts : parts (x / y) =
    parts (.ofModel (pack (UnpackedFloat.div .binary64 (parts x) (parts y)))) := rfl
  rw [Void, IsZero, hparts]
  rcases h with ⟨sign, hx⟩ | hx
  · rw [hx]
    cases parts y with
    | notANumber => exact .inr parts_notANumber
    | zero _ => exact .inr parts_notANumber
    | infinity s => exact .inl ⟨sign / s, parts_zero _⟩
    | finite s _ _ _ => exact .inl ⟨sign / s, parts_zero _⟩
  · rw [hx]
    exact .inr parts_notANumber

/-- As an integer it is zero. -/
theorem Void.toInt16 {x : Float} (h : Void x) : x.toModel.toInt16 = 0 := by
  have hparts : x.toModel.toInt16 = (parts x).toInt16 := rfl
  rw [hparts]
  rcases h with ⟨sign, hx⟩ | hx <;> rw [hx] <;> rfl

/-- What is no finite number gives way to zero. -/
lemma Void.finite {x : Float} (h : Void x) : IsZero (if x.isFinite then x else 0.0) := by
  have hfinite : x.isFinite = (parts x).isFinite := rfl
  rw [hfinite]
  rcases h with ⟨sign, hx⟩ | hx
  · rw [hx]
    exact ⟨sign, hx⟩
  · rw [hx]
    exact isZero_literal

/-- What equals zero is a zero. -/
lemma isZero_of_beq {x : Float} (h : (x == 0.0) = true) : IsZero x := by
  have hbeq : (x == 0.0) = (parts x).beq (.zero .positive) := rfl
  rw [hbeq, UnpackedFloat.beq_iff_ne_notANumber_and_eq] at h
  obtain ⟨-, -, hx | ⟨hx, -⟩ | ⟨hx, -⟩⟩ := h <;> exact ⟨_, hx⟩

/-! A zero between two bounds. -/

lemma lt_iff (x y : Float) : x < y ↔ (parts x).lt (parts y) = true := by
  have hlt : x < y ↔ decide (x.toModel < y.toModel) = true := Iff.rfl
  rw [hlt, decide_eq_true_iff]
  exact Iff.rfl

lemma le_iff (x y : Float) : x ≤ y ↔ (parts x).le (parts y) = true := by
  have hle : x ≤ y ↔ decide (x.toModel ≤ y.toModel) = true := Iff.rfl
  rw [hle, decide_eq_true_iff]
  exact Iff.rfl

lemma lesser_eq (x y : Float) : Bound.lesser x y =
    if (parts x).isNaN || (parts y).le (parts x) then y else x := by
  have hle : decide (y ≤ x) = (parts y).le (parts x) :=
    Bool.eq_iff_iff.2 (decide_eq_true_iff.trans (le_iff y x))
  rw [Bound.lesser, hle]
  rfl

lemma greater_eq (x y : Float) : Bound.greater x y =
    if (parts x).isNaN || (parts x).le (parts y) then y else x := by
  have hle : decide (x ≤ y) = (parts x).le (parts y) :=
    Bool.eq_iff_iff.2 (decide_eq_true_iff.trans (le_iff x y))
  rw [Bound.greater, hle]
  rfl

/-- What is below zero, by its parts. -/
lemma lt_zero_iff (m : Float) : m < 0.0 ↔
    parts m = .infinity .negative ∨ ∃ k e hk, parts m = .finite .negative k e hk := by
  rw [lt_iff, show parts 0.0 = .zero .positive from rfl]
  rcases parts m with (_ | _) | _ | _ | ⟨_ | _, k, e, hk⟩
  case finite.negative => exact iff_of_true rfl (.inr ⟨k, e, hk, rfl⟩)
  all_goals simp [UnpackedFloat.lt, UnpackedFloat.compare]

/-- **A zero between two bounds.**  Between `-m` and `m` it stays a zero; but where `m` is below
zero, the bounds have changed their places, and what comes out is the upper one. -/
theorem IsZero.within {x : Float} (h : IsZero x) (m : Float) :
    (m < 0.0 → Bound.greater (Bound.lesser x m) (-m) = -m) ∧
      (¬ m < 0.0 → IsZero (Bound.greater (Bound.lesser x m) (-m))) := by
  obtain ⟨sign, hx⟩ := h
  have hneg := parts_neg m
  constructor
  · intro hm
    have hlesser : Bound.lesser x m = m := by
      rw [lesser_eq, hx]
      obtain hm | ⟨_, _, _, hm⟩ := (lt_zero_iff m).1 hm <;> rw [hm] <;> rfl
    rw [hlesser, greater_eq, hneg]
    obtain hm | ⟨_, _, _, hm⟩ := (lt_zero_iff m).1 hm <;> rw [hm] <;> rfl
  · intro hm
    rw [lt_zero_iff] at hm
    rcases hparts : parts m with (_ | _) | _ | s | ⟨_ | _, k, e, hk⟩ <;> rw [hparts] at hneg
    case infinity.negative => exact absurd (.inl hparts) hm
    case finite.negative => exact absurd (.inr ⟨k, e, hk, hparts⟩) hm
    case zero =>
      have hlesser : Bound.lesser x m = m := by rw [lesser_eq, hx, hparts]; rfl
      have hgreater : Bound.greater m (-m) = -m := by rw [greater_eq, hparts, hneg]; rfl
      rw [hlesser, hgreater]
      exact ⟨-s, hneg⟩
    all_goals
      have hlesser : Bound.lesser x m = x := by rw [lesser_eq, hx, hparts]; rfl
      have hgreater : Bound.greater x (-m) = x := by rw [greater_eq, hx, hneg]; rfl
      rw [hlesser, hgreater]
      exact ⟨sign, hx⟩

end Number

end MotorBoard
