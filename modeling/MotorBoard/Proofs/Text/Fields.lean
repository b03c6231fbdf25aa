/-
# What a text field shows

A text is cut to the bytes of its field, and the cut does not look where characters end.  What is
read again are the characters that came in as a whole, up to the first of them that is a zero.  Of a
character that was cut only its first bytes are left; they begin a character and do not go on as
one, so a single replacement character is read for them.  Behind a zero they are not read at all.

The main results are

* `Text.spells_utf8EncodeChar`: the automaton reads every character from its bytes;
* `Text.decodeFrom_encodeChars`, `Text.decodeLossy_encode`: so it reads every text from its bytes;
* `Text.LongestFit.decodeFrom_take`: what it reads of a text that was cut;
* `Text.decodeLossy_encodeField`: what a field shows of a text.
-/
import Mathlib.Data.List.Infix
import Mathlib.Data.List.TakeWhile
import MotorBoard.Bytes.Field
import MotorBoard.Text.Utf8

namespace MotorBoard

namespace Text

/-! The bytes of a character. -/

/-- From a state of the automaton some bytes spell a character, and the last of them writes it. -/
inductive Spells : Option Unfinished → Bytes → Char → Prop
  | last {u b c} (h : step u b = ([c], none)) : Spells u [b] c
  | more {u b v r c} (h : step u b = ([], some v)) (hr : Spells (some v) r c) : Spells u (b :: r) c

namespace Spells

variable {u : Option Unfinished} {bs : Bytes} {c : Char}

lemma decodeFrom_append (h : Spells u bs c) (r : Bytes) :
    decodeFrom u (bs ++ r) = c :: decodeFrom none r := by
  induction h with
  | last h => simp [decodeFrom, h]
  | more h _ ih => simpa [decodeFrom, h] using ih

/-- A character that is begun and not finished is read as one replacement character. -/
lemma decodeFrom_take (h : Spells u bs c) {k : Nat} (hk : k < bs.length)
    (hbegun : u.isSome = true ∨ 0 < k) : decodeFrom u (bs.take k) = [replacement] := by
  induction h generalizing k with
  | last h =>
    obtain rfl : k = 0 := Nat.lt_one_iff.1 hk
    rw [List.take_zero, decodeFrom, if_pos (hbegun.resolve_right (Nat.lt_irrefl 0))]
  | more h hr ih =>
    cases k with
    | zero => rw [List.take_zero, decodeFrom, if_pos (hbegun.resolve_right (Nat.lt_irrefl 0))]
    | succ k => simpa [decodeFrom, h] using ih (Nat.lt_of_succ_lt_succ hk) (.inl rfl)

end Spells

/-! The first byte of a character tells how many are to follow, and it bounds the second one where
not all of them would do. -/

lemma enter_ascii {n : Nat} (h : n < 128) :
    enter (UInt8.ofNat n) = ([Char.ofNat n], none) := by
  have hall : ∀ n : Fin 128, enter (UInt8.ofNat n) = ([Char.ofNat n], none) := by decide
  exact hall ⟨n, h⟩

lemma enter_lead2 {n : Nat} (hlow : 2 ≤ n) (h : n < 32) :
    enter (UInt8.ofNat (n + 192)) = ([], some ⟨1, 0x80, 0xBF, n⟩) := by
  have hall : ∀ n : Fin 32, 2 ≤ n.1 →
      enter (UInt8.ofNat (n + 192)) = ([], some ⟨1, 0x80, 0xBF, n⟩) := by decide
  exact hall ⟨n, h⟩ hlow

lemma enter_lead3 {n : Nat} (h : n < 16) :
    enter (UInt8.ofNat (n + 224)) =
      ([], some ⟨2, if n = 0 then 0xA0 else 0x80, if n = 13 then 0x9F else 0xBF, n⟩) := by
  have hall : ∀ n : Fin 16, enter (UInt8.ofNat (n + 224)) =
      ([], some ⟨2, if n.1 = 0 then 0xA0 else 0x80, if n.1 = 13 then 0x9F else 0xBF, n⟩) := by
    decide
  exact hall ⟨n, h⟩

lemma enter_lead4 {n : Nat} (h : n < 5) :
    enter (UInt8.ofNat (n + 240)) =
      ([], some ⟨3, if n = 0 then 0x90 else 0x80, if n = 4 then 0x8F else 0xBF, n⟩) := by
  have hall : ∀ n : Fin 5, enter (UInt8.ofNat (n + 240)) =
      ([], some ⟨3, if n.1 = 0 then 0x90 else 0x80, if n.1 = 4 then 0x8F else 0xBF, n⟩) := by
    decide
  exact hall ⟨n, h⟩

section Tail

variable {u : Unfinished} {n : Nat}

/-- A byte within the bounds brings six bits more. -/
lemma step_tail (h : n < 64) (hlow : u.low.toNat ≤ n + 128) (hhigh : n + 128 ≤ u.high.toNat) :
    step (some u) (UInt8.ofNat (n + 128)) =
      if u.missing ≤ 1 then ([Char.ofNat (u.code * 64 + n)], none)
      else ([], some ⟨u.missing - 1, 0x80, 0xBF, u.code * 64 + n⟩) := by
  have hnat : (UInt8.ofNat (n + 128)).toNat = n + 128 := by
    rw [UInt8.toNat_ofNat']
    omega
  have hin : u.low ≤ UInt8.ofNat (n + 128) ∧ UInt8.ofNat (n + 128) ≤ u.high := by
    rw [UInt8.le_iff_toNat_le, UInt8.le_iff_toNat_le, hnat]
    exact ⟨hlow, hhigh⟩
  have hbits : (n + 128) % 0x40 = n := by omega
  rw [step, if_pos hin, hnat, hbits]

lemma step_more {m : Nat} (hm : u.missing = m + 2) (h : n < 64) (hlow : u.low.toNat ≤ n + 128)
    (hhigh : n + 128 ≤ u.high.toNat) :
    step (some u) (UInt8.ofNat (n + 128)) = ([], some ⟨m + 1, 0x80, 0xBF, u.code * 64 + n⟩) := by
  rw [step_tail h hlow hhigh, if_neg (by omega), hm]
  rfl

/-- Once the character has begun as its number asks for, any byte of its six last bits ends it. -/
lemma step_last {code v : Nat} (hv : code * 64 + v % 64 = v) :
    step (some ⟨1, 0x80, 0xBF, code⟩) (UInt8.ofNat (v % 64 + 128)) = ([Char.ofNat v], none) := by
  have hlow : 128 ≤ v % 64 + 128 := Nat.le_add_left ..
  have hhigh : v % 64 + 128 ≤ 191 := by omega
  rw [step_tail (by omega) hlow hhigh, if_pos (Nat.le_refl 1), hv]

end Tail

/-- The bytes of a character spell it. -/
theorem spells_utf8EncodeChar (c : Char) : Spells none (String.utf8EncodeChar c) c := by
  have hback : Char.ofNat c.val.toNat = c := c.ofNat_toNat
  have hvalid : c.val.toNat < 0xD800 ∨ 0xDFFF < c.val.toNat ∧ c.val.toNat < 0x110000 := c.valid
  rw [String.utf8EncodeChar]
  generalize c.val.toNat = v at hback hvalid
  subst hback
  split_ifs with h1 h2 h3
  · exact .last (enter_ascii (by omega))
  · exact .more (enter_lead2 (by omega) (by omega)) (.last (step_last (by omega)))
  · -- The bounds of the second byte leave out overlong forms and surrogates.
    have hlow : (if v / 4096 % 16 = 0 then 0xA0 else 0x80 : UInt8).toNat ≤ v / 64 % 64 + 128 := by
      split <;> simp; omega
    have hhigh : v / 64 % 64 + 128 ≤ (if v / 4096 % 16 = 13 then 0x9F else 0xBF : UInt8).toNat := by
      split <;> simp <;> omega
    have hcode : (v / 4096 % 16 * 64 + v / 64 % 64) * 64 + v % 64 = v := by omega
    exact .more (enter_lead3 (by omega))
      (.more (step_more rfl (by omega) hlow hhigh) (.last (step_last hcode)))
  · -- Here they leave out overlong forms and what no character has for its number.
    have hlow : (if v / 262144 % 8 = 0 then 0x90 else 0x80 : UInt8).toNat ≤
        v / 4096 % 64 + 128 := by
      split <;> simp; omega
    have hhigh : v / 4096 % 64 + 128 ≤
        (if v / 262144 % 8 = 4 then 0x8F else 0xBF : UInt8).toNat := by
      split <;> simp <;> omega
    have hthird : v / 64 % 64 + 128 ≤ 191 := by omega
    have hcode : ((v / 262144 % 8 * 64 + v / 4096 % 64) * 64 + v / 64 % 64) * 64 + v % 64 = v := by
      omega
    exact .more (enter_lead4 (by omega)) (.more (step_more rfl (by omega) hlow hhigh)
      (.more (step_more rfl (by omega) (Nat.le_add_left ..) hthird) (.last (step_last hcode))))

/-- There is a zero in the bytes of no character but one. -/
lemma zero_mem_utf8EncodeChar {c : Char} : 0 ∈ String.utf8EncodeChar c ↔ c = '\x00' := by
  have hzero (n : Nat) : (0 : UInt8) = UInt8.ofNat n ↔ n % 256 = 0 := by
    rw [← UInt8.toNat_inj, UInt8.toNat_ofNat']
    exact eq_comm
  have hnul : c = '\x00' ↔ c.val.toNat = 0 := by
    rw [Char.ext_iff, ← UInt32.toNat_inj]
    rfl
  rw [hnul, String.utf8EncodeChar]
  split_ifs <;> simp only [List.mem_cons, List.not_mem_nil, or_false, hzero] <;> omega

/-! The bytes of some characters. -/

/-- The bytes of some characters. -/
def encodeChars (cs : List Char) : Bytes := cs.flatMap String.utf8EncodeChar

@[simp] lemma encodeChars_nil : encodeChars [] = [] := rfl

@[simp] lemma encodeChars_cons (c : Char) (cs : List Char) :
    encodeChars (c :: cs) = String.utf8EncodeChar c ++ encodeChars cs := rfl

@[simp] lemma encodeChars_append (l r : List Char) :
    encodeChars (l ++ r) = encodeChars l ++ encodeChars r := List.flatMap_append

lemma length_encodeChars_cons (c : Char) (cs : List Char) :
    (encodeChars (c :: cs)).length = c.utf8Size + (encodeChars cs).length := by
  rw [encodeChars_cons, List.length_append, String.length_utf8EncodeChar]

lemma length_encodeChars_le {l r : List Char} (h : l <+: r) :
    (encodeChars l).length ≤ (encodeChars r).length := by
  obtain ⟨t, rfl⟩ := h
  rw [encodeChars_append, List.length_append]
  exact Nat.le_add_right ..

/-- The automaton reads characters from their bytes, whatever comes behind. -/
theorem decodeFrom_encodeChars (cs : List Char) (r : Bytes) :
    decodeFrom none (encodeChars cs ++ r) = cs ++ decodeFrom none r := by
  induction cs with
  | nil => rfl
  | cons c cs ih =>
    rw [encodeChars_cons, List.append_assoc, (spells_utf8EncodeChar c).decodeFrom_append, ih,
      List.cons_append]

/-- A text is read from its bytes. -/
theorem decodeLossy_encode (s : String) : decodeLossy (encode s) = s := by
  have hread := decodeFrom_encodeChars s.toList []
  rw [List.append_nil, decodeFrom, if_neg (by simp), List.append_nil] at hread
  rw [decodeLossy, encode, ← encodeChars, hread, String.ofList_toList]

/-! The bytes in front of a zero. -/

lemma untilNul_append {l : Bytes} (h : 0 ∉ l) (r : Bytes) :
    untilNul (l ++ r) = l ++ untilNul r :=
  List.takeWhile_append_of_pos fun _ hb => bne_iff_ne.2 fun h0 => h (h0 ▸ hb)

@[simp] lemma untilNul_zeros (n : Nat) : untilNul (Bytes.zeros n) = [] := by
  cases n <;> rfl

/-- What is read of characters and of bytes behind them ends at the first zero. -/
lemma decodeFrom_untilNul (cs : List Char) (r : Bytes) :
    decodeFrom none (untilNul (encodeChars cs ++ r)) =
      cs.takeWhile (· != '\x00') ++
        if '\x00' ∈ cs then [] else decodeFrom none (untilNul r) := by
  induction cs with
  | nil => simp
  | cons c cs ih =>
    by_cases hc : c = '\x00'
    · subst hc
      rfl
    · have hkept : List.takeWhile (· != '\x00') (c :: cs) = c :: cs.takeWhile (· != '\x00') :=
        List.takeWhile_cons_of_pos (bne_iff_ne.2 hc)
      have hmem : '\x00' ∈ c :: cs ↔ '\x00' ∈ cs := by
        rw [List.mem_cons, or_iff_right (Ne.symm hc)]
      rw [encodeChars_cons, List.append_assoc,
        untilNul_append (fun h => hc (zero_mem_utf8EncodeChar.1 h)),
        (spells_utf8EncodeChar c).decodeFrom_append, ih, hkept, List.cons_append]
      simp only [hmem]

/-- The first bytes of a character, and not all of them, are read as one replacement character. -/
lemma decodeFrom_piece {c : Char} {r : List Char} {j : Nat}
    (hj : j < (String.utf8EncodeChar c).length) (m : Nat) :
    decodeFrom none (untilNul ((encodeChars (c :: r)).take j ++ Bytes.zeros m)) =
      if 0 < j then [replacement] else [] := by
  rw [encodeChars_cons, List.take_append_of_le_length (Nat.le_of_lt hj)]
  split
  · next hpos =>
    have hnul : c ≠ '\x00' := by
      rintro rfl
      exact absurd hj (Nat.not_lt.2 hpos)
    have hnonzero : 0 ∉ (String.utf8EncodeChar c).take j := fun h0 =>
      hnul (zero_mem_utf8EncodeChar.1 (List.mem_of_mem_take h0))
    rw [untilNul_append hnonzero, untilNul_zeros, List.append_nil,
      (spells_utf8EncodeChar c).decodeFrom_take hj (.inr hpos)]
  · next hzero =>
    obtain rfl : j = 0 := Nat.eq_zero_of_not_pos hzero
    rw [List.take_zero, List.nil_append, untilNul_zeros]
    rfl

/-! Characters that fit into some bytes. -/

/-- The longest prefix of some characters that fits into `k` bytes. -/
structure LongestFit (k : Nat) (cs p : List Char) : Prop where
  isPrefix : p <+: cs
  fits : (encodeChars p).length ≤ k
  longest : ∀ q, q <+: cs → (encodeChars q).length ≤ k → q <+: p

/-- The end of the first `k` bytes lies inside of a character. -/
def CutsInside (k : Nat) (cs : List Char) : Prop :=
  ∃ l c r, cs = l ++ c :: r ∧ (encodeChars l).length < k ∧ k < (encodeChars (l ++ [c])).length

/-- The characters that come first and fit into `k` bytes. -/
def fitting : Nat → List Char → List Char
  | _, [] => []
  | k, c :: r => if c.utf8Size ≤ k then c :: fitting (k - c.utf8Size) r else []

lemma longestFit_fitting (k : Nat) (cs : List Char) : LongestFit k cs (fitting k cs) := by
  induction cs generalizing k with
  | nil => exact ⟨List.nil_prefix, Nat.zero_le k, fun _ hq _ => hq⟩
  | cons c r ih =>
    rw [fitting]
    split
    · next hc =>
      obtain ⟨hfirst, hfits, hlongest⟩ := ih (k - c.utf8Size)
      refine ⟨(List.prefix_cons_inj c).2 hfirst, ?_, fun q hq hqk => ?_⟩
      · rw [length_encodeChars_cons]
        omega
      · obtain rfl | ⟨q, rfl, hqr⟩ := List.prefix_cons_iff.1 hq
        · exact List.nil_prefix
        · rw [length_encodeChars_cons] at hqk
          exact (List.prefix_cons_inj c).2 (hlongest q hqr (by omega))
    · next hc =>
      refine ⟨List.nil_prefix, Nat.zero_le k, fun q hq hqk => ?_⟩
      obtain rfl | ⟨q, rfl, -⟩ := List.prefix_cons_iff.1 hq
      · exact List.nil_prefix
      · rw [length_encodeChars_cons] at hqk
        omega

namespace LongestFit

variable {k : Nat} {cs p : List Char}

/-- The next character does not fit any more. -/
lemma next_lt {c : Char} {r : List Char} (h : LongestFit k cs p) (hcs : cs = p ++ c :: r) :
    k < (encodeChars (p ++ [c])).length := by
  by_contra hfits
  have hlonger : p ++ [c] <+: cs := ⟨r, by rw [hcs, List.append_assoc]; rfl⟩
  have hlength := (h.longest _ hlonger (Nat.le_of_not_lt hfits)).length_le
  rw [List.length_append] at hlength
  exact Nat.not_succ_le_self _ hlength

/-- The cut is inside of a character if some bytes are left behind the characters that fit, and
there are more characters. -/
lemma cutsInside_iff (h : LongestFit k cs p) :
    CutsInside k cs ↔ (encodeChars p).length < k ∧ p ≠ cs := by
  constructor
  · rintro ⟨l, c, r, hcs, hlow, hhigh⟩
    have hl : l <+: p := h.longest l ⟨c :: r, hcs.symm⟩ (Nat.le_of_lt hlow)
    -- A prefix longer than `l` has the character `c`, which does not fit.
    have hlp : l = p := by
      by_contra hne
      obtain ⟨t, rfl⟩ := hl
      obtain ⟨rest, hrest⟩ := h.isPrefix
      rw [hcs, List.append_assoc, List.append_cancel_left_eq] at hrest
      cases t with
      | nil => exact hne (List.append_nil l).symm
      | cons d t =>
        obtain rfl : d = c := (List.cons.inj hrest).1
        have hlonger : l ++ [d] <+: l ++ d :: t := ⟨t, List.append_assoc ..⟩
        exact absurd (Nat.le_trans (length_encodeChars_le hlonger) h.fits) (Nat.not_le.2 hhigh)
    subst hlp
    exact ⟨hlow, fun heq => by simp [heq] at hcs⟩
  · rintro ⟨hlow, hne⟩
    obtain ⟨rest, hcs⟩ := h.isPrefix
    cases rest with
    | nil => exact absurd (by simpa using hcs) hne
    | cons c r => exact ⟨p, c, r, hcs.symm, hlow, h.next_lt hcs.symm⟩

/-- What is read of a text that was cut and filled up with zeros. -/
theorem decodeFrom_take (h : LongestFit k cs p) (m : Nat) [Decidable (CutsInside k cs)] :
    decodeFrom none (untilNul ((encodeChars cs).take k ++ Bytes.zeros m)) =
      p.takeWhile (· != '\x00') ++
        if '\x00' ∉ p ∧ CutsInside k cs then [replacement] else [] := by
  obtain ⟨rest, hcs⟩ := h.isPrefix
  have hcut : CutsInside k cs ↔ (encodeChars p).length < k ∧ rest ≠ [] := by
    rw [h.cutsInside_iff, ← hcs, ne_eq, List.self_eq_append_right]
  have htake : (encodeChars cs).take k =
      encodeChars p ++ (encodeChars rest).take (k - (encodeChars p).length) := by
    rw [← hcs, encodeChars_append, List.take_append, List.take_of_length_le h.fits]
  rw [htake, List.append_assoc, decodeFrom_untilNul]
  by_cases hnul : '\x00' ∈ p
  · rw [if_pos hnul, if_neg fun hn => hn.1 hnul]
  · simp only [hnul, if_false, not_false_eq_true, true_and, hcut]
    cases rest with
    | nil => simp [decodeFrom]
    | cons c r =>
      have hfits := h.fits
      have hlt := h.next_lt hcs.symm
      rw [encodeChars_append, List.length_append, encodeChars_cons, encodeChars_nil,
        List.append_nil] at hlt
      rw [decodeFrom_piece (by omega)]
      simp only [Nat.sub_pos_iff_lt, ne_eq, reduceCtorEq, not_false_eq_true, and_true]

end LongestFit

instance (k : Nat) (cs : List Char) : Decidable (CutsInside k cs) :=
  decidable_of_iff _ (longestFit_fitting k cs).cutsInside_iff.symm

/-! What a field shows. -/

/-- What a field of `n` bytes shows of a text: the characters that fit in front of a last zero, up
to one that is a zero itself; and a replacement character if there is none and the cut is inside of
the next character. -/
def shown (n : Nat) (s : String) : String :=
  let p := fitting (n - 1) s.toList
  .ofList (p.takeWhile (· != '\x00') ++
    if '\x00' ∉ p ∧ CutsInside (n - 1) s.toList then [replacement] else [])

/-- A field shows of a text what it is said to show. -/
theorem decodeLossy_encodeField (n : Nat) (s : String) :
    decodeLossy (untilNul (encodeField n s)) = shown n s :=
  congrArg String.ofList ((longestFit_fitting (n - 1) s.toList).decodeFrom_take _)

example : decodeLossy (untilNul (encodeField 6 "shoulder_pan")) = "shoul" := by decide

/-- Of the last character only the first byte is left. -/
example : decodeLossy (untilNul (encodeField 4 "ab€")) = "ab\uFFFD" := by decide

end Text

end MotorBoard
