/-
# What a write to the local bus stores

Apart from the control byte of the transfer engine the execution of a write is a plain
store.  The board stores the payload in one step, so at no time is there a part of it, and
storing the same bytes once more makes no difference.

The main results are

* `Board.executes_plain`: what the execution of a plain write does;
* `Channel.write_triple`, `Channel.write_returns`: a plain write under the lock;
* `Channel.write_sound`: a write stores its bytes, or fails with all or none of them stored,
  and changes nothing else.
-/
import MotorBoard.Proofs.Mailbox.Executing

namespace MotorBoard

open Call Board

namespace Board

/-- A memory in which some bytes were stored, and nothing else was changed. -/
structure Stored {n : Nat} (old : Memory n) (address : Nat) (data : Bytes) (new : Memory n) :
    Prop where
  range : new.range address data.length = data
  rest : ∀ j, ¬ (address ≤ j ∧ j < address + data.length) → new.get j = old.get j

/-- Storing the same bytes once more makes no difference. -/
lemma Stored.of_write {n : Nat} {old new : Memory n} {address : Nat} {data : Bytes}
    (hin : address + data.length ≤ n) (h : new = old ∨ Stored old address data new) :
    Stored old address data (new.write address data) where
  range := Memory.range_write_self _ _ _ hin
  rest j hj := by
    rw [Memory.get_write _ _ _ _ hin, if_neg hj]
    obtain rfl | h := h
    · rfl
    · exact h.rest j hj

/-- What is known while a write is under way. -/
def Writing (b₀ : Board) (address : Nat) (data : Bytes) (b : Board) : Prop :=
  b.pages = b₀.pages ∧
    (b.localBus = b₀.localBus ∨ Stored b₀.localBus address data b.localBus)

/-- A write apart from the control byte of the transfer engine stores its bytes, and it kills
the board only if the range reaches behind the local bus. -/
theorem executes_plain (b₀ : Board) (station : UInt16) {address : UInt16} {data : Bytes}
    (hc : covers address.toNat data.length SpiCommand.controlAddress.toNat = false) :
    Executes b₀ station address data
      (fun st => st.pages = b₀.pages ∧
        (st.localBus = b₀.localBus ∨ Stored b₀.localBus address.toNat data st.localBus))
      (fun st => st.pages = b₀.pages ∧ Stored b₀.localBus address.toNat data st.localBus)
      (fun st => (st.pages = b₀.pages ∧
        (st.localBus = b₀.localBus ∨ Stored b₀.localBus address.toNat data st.localBus)) ∧
          ¬ address.toNat + data.length ≤ 0x10000) where
  weaken _ hK := ⟨hK.1, .inr hK.2⟩
  step b _ _ hW := by
    rw [writeBus_plain hc]
    refine (storeBus_ends address.toNat data b).imp ?_ ?_
    · rintro _ b' ⟨hin, rfl⟩
      exact ⟨hW.1, .of_write hin hW.2⟩
    · rintro _ b' ⟨rfl, hout⟩
      exact ⟨hW, by omega⟩

end Board

namespace Channel

variable {σ : Type} {c : Channel σ} {board : σ → Board} {b₀ : Board}

/-- What a write does under its lock, a lock that is poisoned included. -/
theorem write_triple (h : c.link.Carries board) (b₀ : Board) (ha : b₀.Answers c.slave.station)
    (address : UInt16) (data : Bytes)
    (hc : covers address.toNat data.length SpiCommand.controlAddress.toNat = false) :
    Triple (fun t : Mailbox × σ => b₀.Meets (Writing b₀ address.toNat data) (board t.2))
      (c.write address data)
      (fun _ t => (board t.2).pages = b₀.pages ∧
        Stored b₀.localBus address.toNat data (board t.2).localBus)
      fun _ t => Writing b₀ address.toNat data (board t.2) := by
  refine (write_executes h (executes_plain b₀ c.slave.station hc)).mono (fun _ => id) ?_ ?_
  · exact fun _ t ht => ht.2.2 ha
  · rintro e t (⟨-, hd, -⟩ | ⟨-, ht⟩)
    · exact hd
    · exact ht.2

/-- A write to a board in order returns, unless the lock was poisoned. -/
theorem write_returns (h : c.link.Carries board) {address : UInt16} {data : Bytes} {m : Mailbox}
    {s : σ} (hm : m.lock ≠ .poisoned) (hready : c.Ready (board s))
    (hl : 1 ≤ data.length ∧ data.length ≤ Mailbox.maxWriteLength)
    (hin : address.toNat + data.length ≤ 0x10000)
    (hc : covers address.toNat data.length SpiCommand.controlAddress.toNat = false) :
    ∃ m' s', c.write address data (m, s) = (.ok (), m', s') := by
  have hx := executes_plain (board s) c.slave.station hc
  exact write_executes_returns h (hx.stop_mono fun _ hd => hd.2 hin) hm hready hl ⟨rfl, .inl rfl⟩

/-- Whatever state an answering board is in and whatever faults hit the frames: a write that
is reported as done has stored its bytes, and one that fails has stored all of them or none.
Nothing else that the board stores is changed. -/
theorem write_sound (h : c.link.Carries board) {address : UInt16} {data : Bytes}
    {m m' : Mailbox} {s s' : σ} {r : Except Stop Unit} (ha : (board s).Answers c.slave.station)
    (hc : covers address.toNat data.length SpiCommand.controlAddress.toNat = false)
    (hr : c.write address data (m, s) = (r, m', s')) :
    (r = .ok () → Stored (board s).localBus address.toNat data (board s').localBus) ∧
      (∀ e, r = .error e → (board s').localBus = (board s).localBus ∨
        Stored (board s).localBus address.toNat data (board s').localBus) ∧
      (board s').pages = (board s).pages := by
  have ht := write_triple h (board s) ha address data hc (m, s) ⟨.refl _, rfl, .inl rfl⟩
  rw [hr] at ht
  cases r with
  | ok u =>
    refine ⟨fun _ => ht.2, fun e he => ?_, ht.1⟩
    cases he
  | error e =>
    refine ⟨fun hu => ?_, fun _ _ => ht.2, ht.1⟩
    cases hu

/-- The answer to the first command is lost, and the command is put again. -/
theorem write_sound_answer_lost :
    let c : Channel Ring := ⟨Ring.link, ⟨1, 0, 0, 0, 0, .op⟩, {}⟩
    let b : Board := ({ station := 1, position := 0 } : Board).inject .commandWrite .loseResponse 1
    let data : Bytes := [1, 2, 3]
    ∃ m' r', c.write 0x10 data (Mailbox.fresh, ⟨b, 0⟩) = (.ok (), m', r') ∧
      Stored b.localBus 0x10 data r'.board.localBus ∧ r'.board.pages = b.pages := by
  intro c b data
  have hcarries : c.link.Carries Ring.board := Ring.carries
  have hready : c.Ready (Ring.board ⟨b, 0⟩) := by
    refine ⟨rfl, ⟨rfl, rfl⟩, ⟨rfl, rfl, rfl, rfl⟩, rfl, ?_, ?_, ?_, ?_, ?_, ?_⟩
    · exact (OnlyLosses.of_none rfl).inject rfl 1
    all_goals decide
  have hl : 1 ≤ data.length ∧ data.length ≤ Mailbox.maxWriteLength := by decide
  have hin : (0x10 : UInt16).toNat + data.length ≤ 0x10000 := by decide
  have hc : covers (0x10 : UInt16).toNat data.length SpiCommand.controlAddress.toNat = false := by
    decide
  obtain ⟨m', r', hr⟩ := write_returns hcarries (m := Mailbox.fresh) (by decide) hready hl hin hc
  have hs := write_sound hcarries ⟨rfl, rfl⟩ hc hr
  exact ⟨m', r', hr, hs.1 rfl, hs.2.2⟩

end Channel

end MotorBoard
