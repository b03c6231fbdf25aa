/-
# Sending a frame until it comes back

A frame that is lost is sent again with the telegrams that were left to the sender.  So
what is known of a sent frame is a condition `I` that every loss keeps, and what is known
of a frame that came back is a condition `A` that a single exchange establishes from `I`.
Both may depend on the number of frames lost so far, which is what budgets for losses
speak of.

The telegrams change on their way, but only in their working counters and in the bytes
that they read: `Telegram.Same` says that two telegrams ask for the same.  The main result
is

* `Link.send_triple`: what an exchange does, a frame that is sent again and again does.
-/
import Mathlib.Data.List.Forall2
import MotorBoard.Bus.Link
import MotorBoard.Proofs.Call.Triple

namespace MotorBoard

namespace Telegram

/-- The telegram with another working counter. -/
def withCounter (n : UInt16) (t : Telegram) : Telegram := { t with workingCounter := n }

/-- Two telegrams that ask for the same.  They may differ in their working counters and in
the bytes that they have read. -/
structure Same (t u : Telegram) : Prop where
  direction : u.direction = t.direction
  addressing : u.addressing = t.addressing
  slave : u.slave = t.slave
  address : u.address = t.address
  length : u.data.length = t.data.length
  /-- The bytes to be written. -/
  data : t.direction = .write → u.data = t.data

namespace Same

lemma refl (t : Telegram) : Same t t := ⟨rfl, rfl, rfl, rfl, rfl, fun _ => rfl⟩

lemma trans {t u v : Telegram} (h : Same t u) (h' : Same u v) : Same t v where
  direction := h'.direction.trans h.direction
  addressing := h'.addressing.trans h.addressing
  slave := h'.slave.trans h.slave
  address := h'.address.trans h.address
  length := h'.length.trans h.length
  data ht := (h'.data (h.direction.trans ht)).trans (h.data ht)

lemma withCounter {t u : Telegram} (h : Same t u) (n : UInt16) : Same t (u.withCounter n) :=
  ⟨h.direction, h.addressing, h.slave, h.address, h.length, h.data⟩

end Same

/-- What a telegram asks for, without the bytes that it moves. -/
def request (t : Telegram) : Telegram :=
  { t with data := Bytes.zeros t.data.length, workingCounter := 0 }

lemma Same.request {t u : Telegram} (h : Same t u) : u.request = t.request := by
  rw [Telegram.request, Telegram.request, h.direction, h.addressing, h.slave, h.address, h.length]

end Telegram

/-- Two frames whose telegrams ask for the same one by one. -/
abbrev SameFrame : List Telegram → List Telegram → Prop := List.Forall₂ Telegram.Same

namespace SameFrame

lemma refl (ts : List Telegram) : SameFrame ts ts :=
  List.forall₂_same.2 fun t _ => Telegram.Same.refl t

lemma map_withCounter {ts us : List Telegram} (h : SameFrame ts us) (n : UInt16) :
    SameFrame ts (us.map (Telegram.withCounter n)) :=
  List.forall₂_map_right_iff.2 (h.imp fun _ _ h => h.withCounter n)

lemma map_rewound {ts us : List Telegram} (h : SameFrame ts us) :
    SameFrame ts (us.map Telegram.rewound) :=
  h.map_withCounter 0

lemma trans {ts us vs : List Telegram} (h : SameFrame ts us) (h' : SameFrame us vs) :
    SameFrame ts vs := by
  induction h generalizing vs with
  | nil =>
    cases h'
    exact .nil
  | cons h _ ih =>
    cases h' with
    | cons h' hs' => exact .cons (h.trans h') (ih hs')

end SameFrame

/-- What a frame asks for. -/
def requests (ts : List Telegram) : List Telegram := ts.map Telegram.request

lemma SameFrame.requests {ts us : List Telegram} (h : SameFrame ts us) :
    requests us = requests ts := by
  induction h with
  | nil => rfl
  | cons h _ ih => exact congrArg₂ List.cons h.request ih

lemma requests_rewound (ts : List Telegram) :
    requests (ts.map Telegram.rewound) = requests ts :=
  List.map_map.trans rfl

@[simp] lemma length_requests (ts : List Telegram) : (requests ts).length = ts.length :=
  List.length_map ..

lemma length_of_requests {ts us : List Telegram} (h : requests us = requests ts) :
    us.length = ts.length := by
  simpa using congrArg List.length h

namespace Exchange

variable {σ : Type}

/-- An exchange whose frame came back in `R`, was lost in `L`, or killed the bus in `D`. -/
def Ends (R L : List Telegram → σ → Prop) (D : σ → Prop) : Exchange × σ → Prop
  | (.returned ts, s) => R ts s
  | (.lost ts, s) => L ts s
  | (.died, s) => D s

end Exchange

namespace Link

open Call

variable {σ : Type} (link : Link σ)

/-- What became of a frame after at most `n` attempts, with `j` frames lost before. -/
inductive Sent (I A : Nat → List Telegram → σ → Prop) (j n : Nat) : Delivery → σ → Prop
  | returned {k : Nat} {ts : List Telegram} {s : σ} (hk : k < n) (h : A (j + k) ts s) :
    Sent I A j n ⟨true, ts, k + 1⟩ s
  | lost {ts : List Telegram} {s : σ} (h : I (j + n) ts s) : Sent I A j n ⟨false, ts, n⟩ s

/-- A frame more that was lost at the beginning. -/
lemma Sent.succ {I A : Nat → List Telegram → σ → Prop} {j n : Nat} {d : Delivery} {s : σ}
    (h : Sent I A (j + 1) n d s) : Sent I A j (n + 1) { d with sends := d.sends + 1 } s := by
  cases h with
  | @returned k _ _ hk h =>
    have hj : j + (k + 1) = j + 1 + k := by omega
    exact .returned (Nat.succ_lt_succ hk) (hj ▸ h)
  | lost h =>
    have hj : j + (n + 1) = j + 1 + n := by omega
    exact .lost (hj ▸ h)

/-- The rule for frames that are sent until they come back. -/
theorem send_triple {I A : Nat → List Telegram → σ → Prop} {D : Stop → σ → Prop}
    (step : ∀ j ts s, I j ts s →
      Exchange.Ends (A j) (fun ts' s' => I (j + 1) (ts'.map Telegram.rewound) s') (D .died)
        (link.exchange ts s))
    (n j : Nat) (ts : List Telegram) :
    Triple (I j ts) (link.send ts n) (Sent I A j n) D := by
  -- each attempt that is lost leaves one attempt fewer and one loss more
  induction n generalizing j ts with
  | zero => exact .pure _ fun s hs => .lost hs
  | succ n ih =>
    have once : Triple (I j ts) (link.sendOnce ts)
        (fun d s => d.sends = 1 ∧
          if d.returned then A j d.telegrams s else I (j + 1) d.telegrams s) D := by
      intro s hs
      have h := step j ts s hs
      rw [sendOnce]
      revert h
      rcases link.exchange ts s with ⟨ts' | ts' | _, s'⟩
      · exact fun h => ⟨rfl, h⟩
      · exact fun h => ⟨rfl, h⟩
      · exact id
    refine once.bind fun d => Triple.lift fun hd => .ite (fun hr => .pure _ fun s hs => ?_)
      fun hr => ?_
    · obtain ⟨r, ts', k⟩ := d
      subst hd hr
      exact .returned (k := 0) (by omega) hs
    · simp only [if_neg hr]
      exact (ih (j + 1) d.telegrams).map fun d' s h => h.succ

end Link

end MotorBoard
