/-
# When pages can be read and written

On a board that answers and obeys, an access to a page can fail for three reasons only: the
mailbox cannot be had, the engine does not become idle in time, or the chip does not become
ready in time.  The first is a matter of the lock.  For the other two the programmer counts
its looks, and the board counts down with every look, so the limits of the one are compared
with the counts of the other.

There is one more way for an engine to be busy.  Its busy bit is one bit of a register that
lies on the local bus like any other, and a register that holds this bit itself is never
counted down.

The main results are

* `Programmer.readPage_returns_iff`, `Programmer.writePage_returns_iff`: when an access to a
  page succeeds, for each of the two;
* `Programmer.page_access_exact`: both, with what is read behind a write.
-/
import MotorBoard.Proofs.Eeprom.Readback

namespace MotorBoard

open Call Board

/-- A call that stops exactly when a condition fails gives a result exactly when it holds. -/
lemma Call.Triple.returns_iff {σ α : Type} {P : σ → Prop} {m : Call σ α} {q : Prop}
    {K : α → σ → Prop} (h : Triple P m (fun a s => q ∧ K a s) fun _ _ => ¬ q) {s : σ} (hs : P s) :
    (∃ a s', m s = (.ok a, s')) ↔ q := by
  have h' := h s hs
  constructor
  · rintro ⟨a, s', hm⟩
    exact (h.result hs hm).1
  · intro hq
    rcases hm : m s with ⟨e | a, s'⟩
    · rw [hm] at h'
      exact absurd hq h'
    · exact ⟨a, s', rfl⟩

/-- A poisoned lock refuses a write. -/
lemma Channel.write_needs_lock {σ : Type} (c : Channel σ) (address : UInt16) (data : Bytes) :
    Needs (fun t => t.1.lock = .poisoned) (c.write address data) False := by
  intro t ht
  rw [Channel.write, Guarded.locked, ht]
  trivial

namespace Programmer

variable {σ : Type} {c : Channel σ} {limits : EepromLimits} {board : σ → Board}

/-- The mailbox can be had, and the engine does not show itself busy for good. -/
structure Accessible (board : σ → Board) (t : Mailbox × σ) : Prop where
  lock : t.1.lock ≠ .poisoned
  resting : Resting (board t.2).stores

section Access

variable (h : c.link.Carries board) (hl : c.limits.validate = .ok ())
  (hm : c.slave.state.allowsMailbox = true) {t : Mailbox × σ}
  (hb : (board t.2).Undisturbed c.slave.station)

/-- Between two calls all is known of a board that is undisturbed. -/
lemma Accessible.calm (ho : Accessible board t) (hb : (board t.2).Undisturbed c.slave.station) :
    c.Calm board (board t.2) (Engine Resting (board t.2).spiBusy (board t.2).chipBusy) t :=
  ⟨ho.lock, .refl _, hb, ho.resting, rfl, rfl⟩

include h hl hm hb

/-- Reading a page needs the lock, and an engine that is not busy for good. -/
lemma readPage_needs {page : UInt16} {length : Nat} :
    Needs (fun t' => t' = t) ((overMailbox c limits).readPage page length)
      (Accessible board t) := by
  have hzeros : 1 ≤ (Bytes.zeros pageSize).length ∧ (Bytes.zeros pageSize).length ≤ 264 := by
    rw [Bytes.zeros, List.length_replicate]
    decide
  refine .of_not fun hno => Triple.ite (fun _ => Needs.fail _) fun _ => ?_
  refine Triple.bind (Q := fun _ t' => t' = t) (.ofExcept (fun _ _ _ => id) fun _ _ _ _ => trivial)
    fun _ => ?_
  by_cases hlock : t.1.lock = .poisoned
  · refine Needs.first ((c.write_needs_lock _ _).pre ?_)
    rintro _ rfl
    exact hlock
  · have hbusy : ¬ Resting (board t.2).stores := fun hr => hno ⟨hlock, hr⟩
    have hpatient := Channel.patient_of_validate hl
    have hkept : ∀ st, ¬ Resting st → ¬ Resting { st with
        localBus := st.localBus.write bufferAddress.toNat (Bytes.zeros pageSize) } :=
      fun _ => mt (resting_fill_iff hzeros.2).1
    have hwait : Needs (c.Calm board (board t.2) fun i => ¬ Resting i.stores)
        (overMailbox c limits).awaitIdle False := pollIdle_needs_resting h hpatient hm _
    -- the buffer is filled before the engine is looked at, which does not touch the register
    refine Triple.bind (Q := fun _ => c.Calm board (board t.2) fun i => ¬ Resting i.stores)
      (Triple.mono (P := c.Calm board (board t.2) (Engine (fun st => ¬ Resting st)
        (board t.2).spiBusy (board t.2).chipBusy))
        (fill_undisturbed h hpatient hm (K := fun st => ¬ Resting st) hzeros hkept) ?_
        (fun _ t' ht' => ht'.mono fun i hi => hi.stores) fun _ _ => False.elim)
        fun _ => Needs.first (Needs.first hwait)
    rintro _ rfl
    exact ⟨hlock, .refl _, hb, hbusy, rfl, rfl⟩

/-- Reading a page succeeds exactly when the mailbox can be had and the engine is idle in time,
before and after the transfer. -/
theorem readPage_returns_iff (he : (board t.2).corruptEcho = false)
    (hs : (board t.2).pageSize ≤ 264) {page : UInt16} (hpage : page < pageCount) {length : Nat}
    (hlength : 1 ≤ length ∧ length ≤ pageSize) :
    (∃ data t', (overMailbox c limits).readPage page length t = (.ok data, t')) ↔
      Accessible board t ∧ (board t.2).spiBusy < limits.spiReadyAttempts ∧
        (board t.2).spiBusyPolls < limits.spiReadyAttempts := by
  have hquiet : Triple (c.Calm board (board t.2)
      (Engine Resting (board t.2).spiBusy (board t.2).chipBusy))
      ((overMailbox c limits).readPage page length) _ _ :=
    readPage_undisturbed h (Channel.patient_of_validate hl) hm he hs hpage hlength
  constructor
  · rintro ⟨data, t', hr⟩
    have ho : Accessible board t := (readPage_needs h hl hm hb).result rfl hr
    exact ⟨ho, (hquiet.returns_iff (ho.calm hb)).1 ⟨data, t', hr⟩⟩
  · rintro ⟨ho, hpolls⟩
    exact (hquiet.returns_iff (ho.calm hb)).2 hpolls

/-- Writing a page succeeds exactly when the mailbox can be had, the engine is idle in time
before and after each transfer, and the chip is ready in time. -/
theorem writePage_returns_iff (hv : limits.validate = .ok ())
    (he : (board t.2).corruptEcho = false) (hs : (board t.2).pageSize ≤ 264) {page : UInt16}
    (hpage : page < pageCount) {data : Bytes} (hdata : data.length ≤ pageSize) :
    (∃ t', (overMailbox c limits).writePage page data t = (.ok (), t')) ↔
      Accessible board t ∧ (board t.2).spiBusy < limits.spiReadyAttempts ∧
        (board t.2).spiBusyPolls < limits.spiReadyAttempts ∧
        (board t.2).chipBusyPolls < limits.eepromReadyAttempts := by
  have hattempts : limits.eepromReadyAttempts ≠ 0 := by
    intro h0
    rw [EepromLimits.validate, if_pos (.inr h0)] at hv
    cases hv
  have hquiet : Triple (c.Calm board (board t.2)
      (Engine Resting (board t.2).spiBusy (board t.2).chipBusy))
      ((overMailbox c limits).writePage page data) _ _ :=
    writePage_undisturbed h (Channel.patient_of_validate hl) hm he hs hattempts hpage hdata
  constructor
  · rintro ⟨t', hw⟩
    obtain ⟨-, -, hcalm⟩ := (writePage_needs h hb.faultless hs).result rfl hw
    have ho : Accessible board t := ⟨hcalm.lock, hcalm.interior.stores⟩
    exact ⟨ho, (hquiet.returns_iff (ho.calm hb)).1 ⟨(), t', hw⟩⟩
  · rintro ⟨ho, hpolls⟩
    obtain ⟨⟨⟩, t', hw⟩ := (hquiet.returns_iff (ho.calm hb)).2 hpolls
    exact ⟨t', hw⟩

end Access

/-- As far as the chip's pages reach, what is kept is what was written. -/
lemma take_kept {size n : Nat} {data : Bytes} (hdata : data.length ≤ pageSize) (hn : n ≤ size)
    (hn' : n ≤ data.length) : (kept size data).take n = data.take n := by
  have hlen : n ≤ ((data.padTo pageSize 0xFF).take size).length := by
    rw [List.length_take, Bytes.length_padTo]
    omega
  rw [kept, List.take_append_of_le_length hlen, List.take_take, Nat.min_eq_left hn, Bytes.padTo,
    List.take_of_length_le hdata, List.take_append_of_le_length hn']

/-- **The limits of the programmer are exact.**  Let a board answer and execute what it is
told, with no fault to come.  A page of it can be read exactly when the page is accessible at
all and the engine is idle before the last look, both at the beginning and after the transfer.
It can be written exactly when moreover the chip is ready before the last poll.  And what was
written is read again. -/
theorem page_access_exact (h : c.link.Carries board) (hl : c.limits.validate = .ok ())
    (hv : limits.validate = .ok ()) (hm : c.slave.state.allowsMailbox = true) {t : Mailbox × σ}
    (hb : (board t.2).Undisturbed c.slave.station) (he : (board t.2).corruptEcho = false)
    (hs : (board t.2).pageSize ≤ 264) {page : UInt16} (hpage : page < pageCount) :
    (∀ length, 1 ≤ length → length ≤ pageSize →
      ((∃ data t', (overMailbox c limits).readPage page length t = (.ok data, t')) ↔
        Accessible board t ∧ (board t.2).spiBusy < limits.spiReadyAttempts ∧
          (board t.2).spiBusyPolls < limits.spiReadyAttempts)) ∧
    ∀ data : Bytes, data.length ≤ pageSize →
      ((∃ t', (overMailbox c limits).writePage page data t = (.ok (), t')) ↔
        Accessible board t ∧ (board t.2).spiBusy < limits.spiReadyAttempts ∧
          (board t.2).spiBusyPolls < limits.spiReadyAttempts ∧
          (board t.2).chipBusyPolls < limits.eepromReadyAttempts) ∧
      ∀ t', (overMailbox c limits).writePage page data t = (.ok (), t') →
        ∀ n, 1 ≤ n → n ≤ min (board t.2).pageSize data.length →
          ∃ t'', (overMailbox c limits).readPage page n t' = (.ok (data.take n), t'') := by
  constructor
  · intro length hpos hlength
    exact readPage_returns_iff h hl hm hb he hs hpage ⟨hpos, hlength⟩
  · intro data hdata
    constructor
    · exact writePage_returns_iff h hl hm hb hv he hs hpage hdata
    · intro t' hw n hpos hn
      obtain ⟨t'', hr⟩ := readPage_written h hb.faultless hs hpage hdata
        ⟨hpos, by omega⟩ hw
      rw [take_kept hdata (by omega) (by omega)] at hr
      exact ⟨t'', hr⟩

/-- Three bytes on a board whose engine and chip are both busy for a while, with limits that
are just large enough for that. -/
theorem page_access_exact_at_the_limit :
    let c : Channel Ring := ⟨Ring.link, ⟨1, 0, 0, 0, 0, .op⟩, {}⟩
    let limits : EepromLimits := { spiReadyAttempts := 3, eepromReadyAttempts := 5 }
    let b : Board :=
      { station := 1, position := 0, spiBusy := 2, spiBusyPolls := 1, chipBusyPolls := 4 }
    ∃ t' t'', (overMailbox c limits).writePage 7 [1, 2, 3] (Mailbox.fresh, ⟨b, 0⟩) = (.ok (), t') ∧
      (overMailbox c limits).readPage 7 2 t' = (.ok [1, 2], t'') := by
  intro c limits b
  have hb : b.Undisturbed c.slave.station := ⟨⟨rfl, rfl⟩, rfl, rfl, rfl, rfl⟩
  have ho : Accessible Ring.board (Mailbox.fresh, (⟨b, 0⟩ : Ring)) := ⟨by decide, .of_blank rfl⟩
  have hexact := @page_access_exact Ring c limits Ring.board Ring.carries rfl rfl rfl
    (Mailbox.fresh, ⟨b, 0⟩) hb rfl (by decide) 7 (by decide)
  obtain ⟨hw, hread⟩ := hexact.2 [1, 2, 3] (by decide)
  obtain ⟨t', ht'⟩ := hw.2 ⟨ho, by decide, by decide, by decide⟩
  obtain ⟨t'', hr⟩ := hread t' ht' 2 (by decide) (by decide)
  exact ⟨t', t'', ht', hr⟩

/-- Neither a board whose register holds the busy bit nor one behind a poisoned lock lets a
page be read, although both boards are undisturbed and their counts are below the limits. -/
theorem readPage_inaccessible :
    let c : Channel Ring := ⟨Ring.link, ⟨1, 0, 0, 0, 0, .op⟩, {}⟩
    let limits : EepromLimits := {}
    let bus := (Memory.blank 0x10000).write SpiCommand.controlAddress.toNat [SpiCommand.busyBit]
    let b : Board := { station := 1, position := 0 }
    let stuck : Board := { b with localBus := bus }
    let poisoned : Mailbox := { Mailbox.fresh with lock := .poisoned }
    (c.limits.validate = .ok () ∧ limits.validate = .ok () ∧
      c.slave.state.allowsMailbox = true ∧
      ∀ d ∈ [b, stuck], d.Undisturbed c.slave.station ∧ d.corruptEcho = false ∧
        d.pageSize ≤ 264 ∧ d.spiBusy < limits.spiReadyAttempts ∧
          d.spiBusyPolls < limits.spiReadyAttempts) ∧
    (¬ ∃ data t',
      (overMailbox c limits).readPage 7 4 (Mailbox.fresh, ⟨stuck, 0⟩) = (.ok data, t')) ∧
    ¬ ∃ data t', (overMailbox c limits).readPage 7 4 (poisoned, ⟨b, 0⟩) = (.ok data, t') := by
  intro c limits bus b stuck poisoned
  have hb : b.Undisturbed c.slave.station := ⟨⟨rfl, rfl⟩, rfl, rfl, rfl, rfl⟩
  have hstuck : stuck.Undisturbed c.slave.station := ⟨⟨rfl, rfl⟩, rfl, rfl, rfl, rfl⟩
  refine ⟨⟨rfl, rfl, rfl, fun d hd => ?_⟩, ?_, ?_⟩
  · obtain rfl | rfl : d = b ∨ d = stuck := by simpa using hd
    · exact ⟨hb, rfl, by decide, by decide, by decide⟩
    · exact ⟨hstuck, rfl, Nat.le_refl 264, Nat.zero_lt_succ _, Nat.zero_lt_succ _⟩
  · rintro ⟨data, t', hr⟩
    have ho : Accessible Ring.board (Mailbox.fresh, (⟨stuck, 0⟩ : Ring)) :=
      (readPage_needs (c := c) Ring.carries rfl rfl hstuck).result rfl hr
    have hshows : bus.get SpiCommand.controlAddress.toNat = SpiCommand.busyBit := by
      rw [Memory.get_write _ _ _ _ (by decide), if_pos (by decide), Nat.sub_self]
      rfl
    have hrests : bus.get SpiCommand.controlAddress.toNat &&& SpiCommand.busyBit = 0 := ho.resting
    rw [hshows] at hrests
    exact absurd hrests (by decide)
  · rintro ⟨data, t', hr⟩
    have ho : Accessible Ring.board (poisoned, (⟨b, 0⟩ : Ring)) :=
      (readPage_needs (c := c) Ring.carries rfl rfl hb).result rfl hr
    exact ho.lock rfl

end Programmer

end MotorBoard
