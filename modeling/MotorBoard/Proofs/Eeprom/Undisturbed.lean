/-
# How long the programmer is patient

On an undisturbed board the engine stays busy for as many looks as its setting says, and so
does the chip after a write.  The programmer gives up after a number of looks of its own.  So
what it is asked for succeeds exactly when engine and chip are ready before that, and what
the chip holds makes no difference.

An engine that works shows the operation that it was given.  The main results are

* `Programmer.sendSpiCommand_undisturbed`: a command for the engine;
* `Programmer.readPage_undisturbed`, `Programmer.writePage_undisturbed`: when reading and
  writing a page succeed.
-/
import MotorBoard.Proofs.Eeprom.Transfers
import MotorBoard.Proofs.Mailbox.Undisturbed

namespace MotorBoard

open Call Board

namespace SpiCommand

/-- The busy bit does not touch the operation. -/
lemma or_busyBit_and_operationMask (control : UInt8) :
    (control ||| busyBit) &&& operationMask = control &&& operationMask := by
  apply UInt8.toNat.inj
  have h : busyBit.toNat &&& operationMask.toNat = 0 := rfl
  rw [UInt8.toNat_and, UInt8.toNat_or, UInt8.toNat_and, Nat.and_or_distrib_right, h, Nat.or_zero]

lemma or_busyBit_and_busyBit (control : UInt8) :
    (control ||| busyBit) &&& busyBit = busyBit := by
  apply UInt8.toNat.inj
  rw [UInt8.toNat_and, UInt8.toNat_or]
  refine Nat.eq_of_testBit_eq fun i => ?_
  rw [Nat.testBit_and, Nat.testBit_or]
  cases busyBit.toNat.testBit i <;> simp

lemma decode_ok {b : Bytes} (h : size ≤ b.length) :
    decode b = .ok {
      page := b.word16At 0
      operation := b.byteAt 2 &&& operationMask
      start := b.byteAt 2 &&& startBit != 0
      busy := b.byteAt 2 &&& busyBit != 0 } := by
  rw [decode, requireLength_of_le h]
  rfl

/-- The control byte in a look at the register of an engine. -/
lemma byteAt_shown (i : Interior) :
    (i.shown address.toNat size).byteAt 2 =
      if 0 < i.spiBusy then i.stores.localBus.get controlAddress.toNat ||| busyBit
      else i.stores.localBus.get controlAddress.toNat := by
  have hrange := (Memory.eq_range_iff i.stores.localBus address.toNat
    (i.stores.localBus.range address.toNat size)).1 (by rw [Memory.length_range]) 2
      (by rw [Memory.length_range]; decide)
  have hcovers : covers address.toNat size controlAddress.toNat = true := rfl
  simp only [Interior.shown, hcovers, Bool.true_and, decide_eq_true_eq]
  split
  · rw [Bytes.byteAt_modify (by rw [Memory.length_range]; decide), if_pos (by decide), hrange]
    rfl
  · exact hrange

/-- What a look at the register of an engine shows that does not show itself busy. -/
lemma decode_shown {i : Interior}
    (hidle : i.stores.localBus.get controlAddress.toNat &&& busyBit = 0) :
    ∃ stat, decode (i.shown address.toNat size) = .ok stat ∧
      stat.busy = decide (0 < i.spiBusy) ∧
      stat.operation = i.stores.localBus.get controlAddress.toNat &&& operationMask := by
  have hlen : (i.shown address.toNat size).length = size := i.length_shown _ _
  have hbyte := byteAt_shown i
  refine ⟨_, decode_ok hlen.ge, ?_, ?_⟩
  · simp only [hbyte]
    split
    · next hb =>
      rw [or_busyBit_and_busyBit, decide_eq_true hb]
      rfl
    · next hb =>
      rw [hidle, decide_eq_false hb]
      rfl
  · simp only [hbyte]
    split
    · rw [or_busyBit_and_operationMask]
    · rfl

end SpiCommand

namespace Programmer

variable {σ : Type} {c : Channel σ} {limits : EepromLimits} {board : σ → Board} {b₀ : Board}

/-- The state of an engine whose next `n` looks find it busy, in front of a chip that is busy
for `m` looks, where `C` holds of the stores. -/
structure Engine (C : Stores → Prop) (n m : Nat) (i : Interior) : Prop where
  stores : C i.stores
  spiBusy : i.spiBusy = n
  chipBusy : i.chipBusy = m

/-- The engine does not show itself busy when it is not. -/
def Resting (st : Stores) : Prop :=
  st.localBus.get SpiCommand.controlAddress.toNat &&& SpiCommand.busyBit = 0

lemma Resting.of_blank {st : Stores} (h : st.localBus = Memory.blank _) : Resting st := by
  rw [Resting, h, Memory.get_blank]
  rfl

/-- The engine shows an operation at its end. -/
def Ended (op : SpiOperation) (st : Stores) : Prop :=
  st.localBus.get SpiCommand.controlAddress.toNat = op.code

lemma Ended.resting {op : SpiOperation} {st : Stores} (h : Ended op st) : Resting st := by
  rw [Resting, h]
  cases op <;> rfl

section Steps

variable (h : c.link.Carries board) (hl : Channel.Patient c.limits)
  (hm : c.slave.state.allowsMailbox = true) {C : Stores → Prop} (hC : ∀ st, C st → Resting st)
  {n m : Nat}

include h hl hm hC

/-- A look at the register of the engine. -/
lemma readSpiCommand_undisturbed :
    Triple (c.Calm board b₀ (Engine C n m)) (overMailbox c limits).readSpiCommand
      (fun stat t => (stat.busy = decide (0 < n) ∧ ∃ st, C st ∧ stat.operation =
          st.localBus.get SpiCommand.controlAddress.toNat &&& SpiCommand.operationMask) ∧
        c.Calm board b₀ (Engine C (n - 1) m) t) fun _ _ => False := by
  refine Triple.bind (c.read_undisturbed h hl hm (by decide) (by decide)
    (K := fun raw i => (∃ stat, SpiCommand.decode raw = .ok stat ∧ stat.busy = decide (0 < n) ∧
      ∃ st, C st ∧ stat.operation =
        st.localBus.get SpiCommand.controlAddress.toNat &&& SpiCommand.operationMask) ∧
      Engine C (n - 1) m i) ?_) fun raw => .ofExcept ?_ ?_
  · intro i hi
    obtain ⟨stat, hdecode, hbusy, hoperation⟩ := SpiCommand.decode_shown (hC _ hi.stores)
    rw [hi.spiBusy] at hbusy
    refine ⟨⟨stat, hdecode, hbusy, _, hi.stores, hoperation⟩, ?_⟩
    have hlooked : i.looked SpiCommand.address.toNat SpiCommand.size =
        { i with spiBusy := i.spiBusy - 1 } := if_pos rfl
    rw [hlooked]
    exact ⟨hi.stores, by rw [hi.spiBusy], hi.chipBusy⟩
  · intro stat hstat t ht
    obtain ⟨⟨stat', hdecode, hshows⟩, -⟩ := ht.interior
    obtain rfl : stat' = stat := Except.ok.inj (hdecode.symm.trans hstat)
    exact ⟨hshows, ht.mono fun _ hi => hi.2⟩
  · intro e he t ht
    obtain ⟨⟨stat', hdecode, -⟩, -⟩ := ht.interior
    cases hdecode.symm.trans he

omit hl hm hC in
/-- Behind a look at a busy engine the next ones decide. -/
lemma wait_again {p : Call (Mailbox × σ) Unit} {attempts : Nat} (hn : 0 < n)
    (hp : Triple (c.Calm board b₀ (Engine C (n - 1) m)) p
      (fun _ t => n - 1 < attempts ∧ c.Calm board b₀ (Engine C 0 m) t)
      fun _ _ => attempts ≤ n - 1) :
    Triple (c.Calm board b₀ (Engine C (n - 1) m))
      ((overMailbox c limits).pause >>= fun _ => p)
      (fun _ t => n < attempts + 1 ∧ c.Calm board b₀ (Engine C 0 m) t)
      fun _ _ => attempts + 1 ≤ n := by
  refine (c.wait_undisturbed h _).bind fun _ => hp.mono (fun _ => id) ?_ ?_
  · exact fun _ t ht => ⟨by omega, ht.2⟩
  · exact fun _ _ he => by omega

/-- Waiting for the engine succeeds exactly when it is idle before the last look. -/
lemma pollIdle_undisturbed (attempts : Nat) :
    Triple (c.Calm board b₀ (Engine C n m)) ((overMailbox c limits).pollIdle attempts)
      (fun _ t => n < attempts ∧ c.Calm board b₀ (Engine C 0 m) t) fun _ _ => attempts ≤ n := by
  induction attempts generalizing n with
  | zero => exact .fail _ fun _ _ => Nat.zero_le n
  | succ attempts ih =>
    refine (readSpiCommand_undisturbed h hl hm hC).unfailing.bind fun stat =>
      Triple.lift fun hstat => ?_
    rw [hstat.1]
    refine .ite (fun hb => ?busy) fun hb => ?idle
    case busy => exact wait_again h (of_decide_eq_true hb) ih
    case idle =>
      obtain rfl : n = 0 := by simpa using hb
      exact .pure _ fun t ht => ⟨Nat.succ_pos _, ht⟩

/-- Waiting for the end of an operation, which the engine shows. -/
lemma pollFinished_undisturbed {operation : UInt8}
    (hop : ∀ st, C st → st.localBus.get SpiCommand.controlAddress.toNat &&&
      SpiCommand.operationMask = operation) (attempts : Nat) :
    Triple (c.Calm board b₀ (Engine C n m))
      ((overMailbox c limits).pollFinished operation attempts)
      (fun _ t => n < attempts ∧ c.Calm board b₀ (Engine C 0 m) t) fun _ _ => attempts ≤ n := by
  induction attempts generalizing n with
  | zero => exact .fail _ fun _ _ => Nat.zero_le n
  | succ attempts ih =>
    refine (readSpiCommand_undisturbed h hl hm hC).unfailing.bind fun stat =>
      Triple.lift fun hstat => ?_
    obtain ⟨hbusy, st, hst, hoperation⟩ := hstat
    rw [if_neg (not_not.2 (hoperation.trans (hop st hst))), hbusy]
    refine .ite (fun hb => ?busy) fun hb => ?finished
    case busy => exact wait_again h (of_decide_eq_true hb) ih
    case finished =>
      obtain rfl : n = 0 := by simpa using hb
      exact .pure _ fun t ht => ⟨Nat.succ_pos _, ht⟩

end Steps

section Commands

variable (h : c.link.Carries board) (hl : Channel.Patient c.limits)
  (hm : c.slave.state.allowsMailbox = true) {C K : Stores → Prop} {n m : Nat}

/-- What a command for the engine does when it is executed once, on a board that was set up
like `b₀`: it leads from `C` to `K`, and leaves the chip busy for `m'` looks after `m`. -/
def Runs (b₀ : Board) (op : SpiOperation) (page : UInt16) (m m' : Nat) (C K : Stores → Prop) :
    Prop :=
  ∀ b, b₀.Alike b → C b.stores → b.chipBusy = m →
    K (b.started op page).stores ∧ (b.started op page).chipBusy = m'

/-- What the engine shows at the end of an operation, where its echo may be corrupted. -/
lemma control_started (b : Board) (op : SpiOperation) (page : UInt16) :
    (b.started op page).stores.localBus.get SpiCommand.controlAddress.toNat =
      if b.corruptEcho then op.code ^^^ 0x04 else op.code := by
  have hcode : op.code &&& SpiCommand.operationMask = op.code := by
    cases op <;> decide
  have hsame : ((b.commanded (.build page op)).transferred op page).corruptEcho = b.corruptEcho :=
    (alike_transferred op page _).corruptEcho
  rw [localBus_started, Memory.get_write _ _ _ _ (Nat.le_of_ble_eq_true rfl),
    if_pos ⟨Nat.le_refl _, by simp⟩, Nat.sub_self, echo, hsame]
  show (if b.corruptEcho then (op.code &&& SpiCommand.operationMask) ^^^ 0x04
    else op.code &&& SpiCommand.operationMask) = _
  rw [hcode]

/-- The engine shows what it was told to do, unless its echo is corrupted. -/
lemma ended_started (b : Board) (he : b.corruptEcho = false) (op : SpiOperation)
    (page : UInt16) : Ended op (b.started op page).stores := by
  rw [Ended, control_started, he, if_neg Bool.false_ne_true]

include h hl hm

/-- A command for the engine succeeds exactly when the engine is idle in time before and
after. -/
theorem sendSpiCommand_undisturbed (he : b₀.corruptEcho = false) (hs : b₀.pageSize ≤ 264)
    (hC : ∀ st, C st → Resting st) {op : SpiOperation} {page : UInt16} {m' : Nat}
    (hruns : Runs b₀ op page m m' C K) :
    Triple (c.Calm board b₀ (Engine C n m))
      ((overMailbox c limits).sendSpiCommand (.build page op))
      (fun _ t => (n < limits.spiReadyAttempts ∧ b₀.spiBusyPolls < limits.spiReadyAttempts) ∧
        c.Calm board b₀ (Engine (fun st => K st ∧ Ended op st) 0 m') t)
      fun _ _ => ¬ (n < limits.spiReadyAttempts ∧
        b₀.spiBusyPolls < limits.spiReadyAttempts) := by
  have hidle : Triple (c.Calm board b₀ (Engine C n m)) (overMailbox c limits).awaitIdle
      (fun _ t => n < limits.spiReadyAttempts ∧ c.Calm board b₀ (Engine C 0 m) t)
      fun _ _ => ¬ (n < limits.spiReadyAttempts ∧ b₀.spiBusyPolls < limits.spiReadyAttempts) :=
    (pollIdle_undisturbed h hl hm hC _).stop_mono fun _ _ hn hboth => Nat.not_le.2 hboth.1 hn
  have hstarted : Triple (c.Calm board b₀ (Engine C 0 m))
      (c.write SpiCommand.address (SpiCommand.build page op).encode)
      (fun _ => c.Calm board b₀ (Engine (fun st => K st ∧ Ended op st) b₀.spiBusyPolls m'))
      fun _ _ => False := by
    refine c.write_undisturbed h hl hm (by rw [SpiCommand.length_encode]; decide) ?_
    intro b halike hb
    have hfits : b.Fits op := .inr (halike.pageSize ▸ hs)
    rw [writeBus_start hfits]
    obtain ⟨hK, hm'⟩ := hruns b halike hb.stores hb.chipBusy
    refine ⟨⟨hK, ended_started b (halike.corruptEcho.trans he) op page⟩, ?_, hm'⟩
    exact (alike_transferred op page _).spiBusyPolls.trans halike.spiBusyPolls
  have hshows : ∀ st, K st ∧ Ended op st → st.localBus.get SpiCommand.controlAddress.toNat &&&
      SpiCommand.operationMask = op.code := by
    rintro st ⟨-, hst⟩
    rw [hst]
    cases op <;> rfl
  have hfinished : Triple
      (c.Calm board b₀ (Engine (fun st => K st ∧ Ended op st) b₀.spiBusyPolls m'))
      ((overMailbox c limits).pollFinished op.code limits.spiReadyAttempts) _ _ :=
    pollFinished_undisturbed h hl hm (fun _ hst => hst.2.resting) hshows limits.spiReadyAttempts
  refine hidle.bind fun _ => Triple.lift fun hn => hstarted.unfailing.bind fun _ =>
    hfinished.mono (fun _ => id) ?_ ?_
  · exact fun _ t ht => ⟨⟨hn, ht.1⟩, ht.2⟩
  · exact fun _ _ hk hboth => Nat.not_le.2 hboth.2 hk

omit h hl hm in
/-- A write to the page buffer does not touch the register of the engine. -/
lemma resting_fill_iff {st : Stores} {data : Bytes} (hd : data.length ≤ 264) :
    Resting { st with localBus := st.localBus.write bufferAddress.toNat data } ↔ Resting st := by
  have hb : bufferAddress.toNat = 0xF400 := rfl
  have hc : SpiCommand.controlAddress.toNat = 0x232 := rfl
  show (st.localBus.write bufferAddress.toNat data).get _ &&& _ = 0 ↔ _
  rw [Memory.get_write _ _ _ _ (by omega), if_neg (by omega), Resting]

omit h hl hm in
lemma Resting.fill {st : Stores} (hst : Resting st) {data : Bytes} (hd : data.length ≤ 264) :
    Resting { st with localBus := st.localBus.write bufferAddress.toNat data } :=
  (resting_fill_iff hd).2 hst

/-- Filling the page buffer. -/
lemma fill_undisturbed {data : Bytes} (hd : 1 ≤ data.length ∧ data.length ≤ 264)
    (hK : ∀ st, C st →
      K { st with localBus := st.localBus.write bufferAddress.toNat data }) :
    Triple (c.Calm board b₀ (Engine C n m)) (c.write bufferAddress data)
      (fun _ => c.Calm board b₀ (Engine K n m)) fun _ _ => False := by
  have hmax : (264 : Nat) ≤ Mailbox.maxWriteLength := by decide
  refine c.write_undisturbed h hl hm ⟨hd.1, hd.2.trans hmax⟩ fun b _ hb => ?_
  have hb' : bufferAddress.toNat = 0xF400 := rfl
  rw [writeBus_plain rfl, storeBus_eq (by omega)]
  exact ⟨hK _ hb.stores, hb.spiBusy, hb.chipBusy⟩

omit h hl hm in
/-- The chip's status tells whether it is busy. -/
lemma isReady_chipStatus (b : Board) :
    ChipStatus.isReady b.chipStatus = decide (b.chipBusy = 0) := by
  rw [chipStatus]
  by_cases hb : 0 < b.chipBusy
  · rw [if_pos hb, decide_eq_false (by omega)]
    split <;> rfl
  · rw [if_neg hb, decide_eq_true (by omega)]
    split <;> rfl

/-- The buffer holds a question for the chip's status. -/
def Asked (st : Stores) : Prop :=
  Resting st ∧ st.localBus.get bufferAddress.toNat = ChipStatus.opcode

/-- The buffer holds the status of a chip that is busy for `m` looks. -/
def Replied (m : Nat) (st : Stores) : Prop :=
  ChipStatus.isReady (st.localBus.get (bufferAddress.toNat + 1)) = decide (m = 0)

omit h hl hm in
/-- The transfer of the chip's status brings the end of a write nearer. -/
lemma runs_status (b₀ : Board) (page : UInt16) :
    Runs b₀ .arbitrary page m (m - 1) Asked (Replied m) := by
  intro b _ hasked hchip
  have hc : SpiCommand.controlAddress.toNat = 0x232 := rfl
  have hb : bufferAddress.toNat = 0xF400 := rfl
  have hlen : (SpiCommand.build page .arbitrary).encode.length = 3 := SpiCommand.length_encode _
  have haddress : SpiCommand.address.toNat = 0x230 := rfl
  have hop : (b.commanded (.build page .arbitrary)).localBus.get bufferAddress.toNat =
      ChipStatus.opcode := by
    rw [commanded, Memory.get_write _ _ _ _ (by omega), if_neg (by omega)]
    exact hasked.2
  have htransferred := transferred_status hop page
  refine ⟨?_, ?_⟩
  · rw [Replied, localBus_started, Memory.get_write _ _ _ _ (Nat.le_of_ble_eq_true rfl),
      if_neg (by rw [List.length_singleton]; omega), htransferred,
      Memory.get_write _ _ _ _ (Nat.le_of_ble_eq_true rfl), if_pos ⟨Nat.le_refl _, by simp⟩,
      Nat.sub_self]
    refine (isReady_chipStatus _).trans ?_
    rw [← hchip]
    rfl
  · rw [chipBusy_started, htransferred, ← hchip]
    rfl

/-- Asking the chip for its status. -/
lemma readStatus_undisturbed (he : b₀.corruptEcho = false) (hs : b₀.pageSize ≤ 264) :
    Triple (c.Calm board b₀ (Engine Resting 0 m)) (overMailbox c limits).readStatus
      (fun status t => (b₀.spiBusyPolls < limits.spiReadyAttempts ∧
        ChipStatus.isReady status = decide (m = 0)) ∧
        c.Calm board b₀ (Engine Resting 0 (m - 1)) t)
      fun _ _ => ¬ b₀.spiBusyPolls < limits.spiReadyAttempts := by
  have hfilled : Triple (c.Calm board b₀ (Engine Resting 0 m))
      (c.write bufferAddress [ChipStatus.opcode, 0])
      (fun _ => c.Calm board b₀ (Engine Asked 0 m)) fun _ _ => False := by
    refine fill_undisturbed h hl hm ⟨by decide, by decide⟩ fun st hst => ⟨hst.fill (by decide), ?_⟩
    show (st.localBus.write bufferAddress.toNat [ChipStatus.opcode, 0]).get _ = _
    rw [Memory.get_write _ _ _ _ (by decide), if_pos (by decide), Nat.sub_self]
    rfl
  have hsent : Triple (c.Calm board b₀ (Engine Asked 0 m))
      ((overMailbox c limits).sendSpiCommand (.arbitrary 2)) _ _ :=
    sendSpiCommand_undisturbed h hl hm he hs (fun _ hst => hst.1)
      (runs_status (m := m) b₀ (UInt16.ofNat (2 - 1)))
  have hreplied : Triple
      (c.Calm board b₀ (Engine (fun st => Replied m st ∧ Ended .arbitrary st) 0 (m - 1)))
      (c.read bufferAddress 2)
      (fun reply => c.Calm board b₀ fun i =>
        (∃ status, reply[1]? = some status ∧ ChipStatus.isReady status = decide (m = 0)) ∧
          Engine Resting 0 (m - 1) i) fun _ _ => False := by
    refine c.read_undisturbed h hl hm (by decide) (by decide) fun i hi =>
      ⟨⟨_, ?_, hi.stores.1⟩, ?_⟩
    · rfl
    · exact ⟨hi.stores.2.resting, hi.spiBusy, hi.chipBusy⟩
  refine hfilled.unfailing.bind fun _ => (hsent.stop_mono ?unsent).bind fun _ =>
    Triple.lift fun hk => hreplied.unfailing.bind fun reply => ?replied
  case unsent => exact fun _ _ hboth hk => hboth ⟨Nat.zero_lt_of_lt hk, hk⟩
  case replied =>
    intro t ht
    obtain ⟨⟨status, hreply, hready⟩, -⟩ := ht.interior
    rw [hreply]
    exact ⟨⟨hk.2, hready⟩, ht.mono fun _ hi => hi.2⟩

/-- Polling the chip succeeds exactly when it is ready at the last poll. -/
lemma pollReady_undisturbed (he : b₀.corruptEcho = false) (hs : b₀.pageSize ≤ 264)
    (left tries : Nat) :
    Triple (c.Calm board b₀ (Engine Resting 0 m)) ((overMailbox c limits).pollReady left tries)
      (fun _ t => (b₀.spiBusyPolls < limits.spiReadyAttempts ∧ m ≤ left) ∧
        c.Calm board b₀ (Engine Resting 0 0) t)
      fun _ _ => ¬ (b₀.spiBusyPolls < limits.spiReadyAttempts ∧ m ≤ left) := by
  have hready {status : UInt8} {m : Nat} (hs : ChipStatus.isReady status = decide (m = 0)) :
      ChipStatus.isReady status = true ↔ m = 0 := by
    rw [hs, decide_eq_true_iff]
  have hstatus (left m : Nat) : Triple (c.Calm board b₀ (Engine Resting 0 m))
      (overMailbox c limits).readStatus
      (fun status t => (b₀.spiBusyPolls < limits.spiReadyAttempts ∧
        ChipStatus.isReady status = decide (m = 0)) ∧
        c.Calm board b₀ (Engine Resting 0 (m - 1)) t)
      fun _ _ => ¬ (b₀.spiBusyPolls < limits.spiReadyAttempts ∧ m ≤ left) :=
    (readStatus_undisturbed h hl hm he hs).stop_mono fun _ _ hk hboth => hk hboth.1
  induction left generalizing m tries with
  | zero =>
    refine (hstatus 0 m).bind fun status => Triple.lift fun hshown =>
      .ite (fun hr => ?ready) fun hr => ?busy
    case ready =>
      obtain rfl := (hready hshown.2).1 hr
      exact .pure _ fun t ht => ⟨⟨hshown.1, Nat.le_refl 0⟩, ht⟩
    case busy =>
      exact .fail _ fun t ht hboth => hr ((hready hshown.2).2 (Nat.le_zero.1 hboth.2))
  | succ left ih =>
    refine (hstatus (left + 1) m).bind fun status => Triple.lift fun hshown =>
      .ite (fun hr => ?ready) fun hr => ?busy
    case ready =>
      obtain rfl := (hready hshown.2).1 hr
      exact .pure _ fun t ht => ⟨⟨hshown.1, Nat.zero_le _⟩, ht⟩
    case busy =>
      -- the chip was busy, and this poll has brought the end of that nearer
      have hpos : m ≠ 0 := fun h0 => hr ((hready hshown.2).2 h0)
      refine (c.wait_undisturbed h _).bind fun _ => (ih _).mono (fun _ => id) ?_ ?_
      · exact fun _ t ht => ⟨⟨ht.1.1, by omega⟩, ht.2⟩
      · exact fun _ _ hno hboth => hno ⟨hboth.1, by omega⟩

/-! Pages. -/

omit h hl hm in
/-- Transfers of pages bring no new end of a write nearer, and a write begins one. -/
lemma runs_page (b₀ : Board) (op : SpiOperation) (hop : op ≠ .arbitrary) (page : UInt16) :
    Runs b₀ op page m (if op = .write then b₀.chipBusyPolls else m) Resting fun _ => True := by
  intro b halike _ hchip
  refine ⟨trivial, ?_⟩
  rw [chipBusy_started]
  cases op with
  | read => exact hchip
  | write => exact halike.chipBusyPolls
  | arbitrary => exact absurd rfl hop

omit h hl hm in
lemma requireBounds_ok {page : UInt16} {length : Nat} (hpage : page < pageCount)
    (hlength : length ≤ pageSize) : requireBounds page length = .ok () := by
  rw [requireBounds, if_neg (Nat.not_lt.2 hlength), if_neg (UInt16.not_le.2 hpage)]

/-- Reading a page of an undisturbed board succeeds exactly when the engine is idle in time
before and after the transfer. -/
theorem readPage_undisturbed (he : b₀.corruptEcho = false) (hs : b₀.pageSize ≤ 264)
    {page : UInt16} (hpage : page < pageCount) {length : Nat}
    (hlength : 1 ≤ length ∧ length ≤ pageSize) :
    Triple (c.Calm board b₀ (Engine Resting n m)) ((overMailbox c limits).readPage page length)
      (fun _ t => (n < limits.spiReadyAttempts ∧ b₀.spiBusyPolls < limits.spiReadyAttempts) ∧
        c.Calm board b₀ (Engine Resting 0 m) t)
      fun _ _ => ¬ (n < limits.spiReadyAttempts ∧
        b₀.spiBusyPolls < limits.spiReadyAttempts) := by
  have hzeros : (Bytes.zeros pageSize).length = 264 := List.length_replicate
  have hmax : pageSize ≤ Mailbox.maxReadLength := by decide
  have hin : bufferAddress.toNat + length ≤ 0x10000 := by
    have h₁ : bufferAddress.toNat = 0xF400 := rfl
    have h₂ : pageSize = 264 := rfl
    omega
  have hfilled : Triple (c.Calm board b₀ (Engine Resting n m))
      (c.write bufferAddress (Bytes.zeros pageSize))
      (fun _ => c.Calm board b₀ (Engine Resting n m)) fun _ _ => False :=
    fill_undisturbed h hl hm (by omega) fun st hst => hst.fill hzeros.le
  have hsent : Triple (c.Calm board b₀ (Engine Resting n m))
      ((overMailbox c limits).sendSpiCommand (.read page)) _ _ :=
    sendSpiCommand_undisturbed h hl hm he hs (fun _ => id) (runs_page b₀ .read (by decide) page)
  have hread : Triple (c.Calm board b₀ (Engine (fun st => True ∧ Ended .read st) 0 m))
      (c.read bufferAddress length) (fun _ => c.Calm board b₀ (Engine Resting 0 m))
      fun _ _ => False :=
    c.read_undisturbed h hl hm ⟨hlength.1, hlength.2.trans hmax⟩ hin fun i hi =>
      ⟨hi.stores.2.resting, hi.spiBusy, hi.chipBusy⟩
  rw [readPage, if_neg (by omega), requireBounds_ok hpage hlength.2]
  refine Triple.bind (Q := fun _ => c.Calm board b₀ (Engine Resting n m)) (.pure _ fun _ => id)
    fun _ => ?_
  refine hfilled.unfailing.bind fun _ => hsent.bind fun _ => Triple.lift fun hboth =>
    hread.unfailing.bind fun data => ?_
  exact .pure _ fun t ht => ⟨hboth, ht⟩

/-- Writing a page of an undisturbed board succeeds exactly when the engine is idle in time
before and after each transfer, and the chip is ready at the last poll after the write.  The
chip is polled once at least, also where the limits allow no attempt. -/
lemma writePage_polled (he : b₀.corruptEcho = false) (hs : b₀.pageSize ≤ 264)
    {page : UInt16} (hpage : page < pageCount) {data : Bytes} (hdata : data.length ≤ pageSize) :
    Triple (c.Calm board b₀ (Engine Resting n m)) ((overMailbox c limits).writePage page data)
      (fun _ t => (n < limits.spiReadyAttempts ∧ b₀.spiBusyPolls < limits.spiReadyAttempts ∧
        b₀.chipBusyPolls ≤ limits.eepromReadyAttempts - 1) ∧
          c.Calm board b₀ (Engine Resting 0 0) t)
      fun _ _ => ¬ (n < limits.spiReadyAttempts ∧ b₀.spiBusyPolls < limits.spiReadyAttempts ∧
        b₀.chipBusyPolls ≤ limits.eepromReadyAttempts - 1) := by
  have hlen : (data.padTo pageSize 0xFF).length = 264 := Bytes.length_padTo ..
  have hidle : Triple (c.Calm board b₀ (Engine Resting n m)) (overMailbox c limits).awaitIdle
      (fun _ t => n < limits.spiReadyAttempts ∧ c.Calm board b₀ (Engine Resting 0 m) t)
      fun _ _ => limits.spiReadyAttempts ≤ n :=
    pollIdle_undisturbed h hl hm (fun _ => id) _
  have hfilled : Triple (c.Calm board b₀ (Engine Resting 0 m))
      (c.write bufferAddress (data.padTo pageSize 0xFF))
      (fun _ => c.Calm board b₀ (Engine Resting 0 m)) fun _ _ => False :=
    fill_undisturbed h hl hm (by omega) fun st hst => hst.fill hlen.le
  have hsent : Triple (c.Calm board b₀ (Engine Resting 0 m))
      ((overMailbox c limits).sendSpiCommand (.write page)) _ _ :=
    sendSpiCommand_undisturbed h hl hm he hs (fun _ => id) (runs_page b₀ .write (by decide) page)
  have hready : Triple
      (c.Calm board b₀ (Engine (fun st => True ∧ Ended .write st) 0 b₀.chipBusyPolls))
      (overMailbox c limits).awaitReady _ _ :=
    (pollReady_undisturbed h hl hm he hs _ _).pre fun t ht => ht.mono fun _ hi =>
      ⟨hi.stores.2.resting, hi.spiBusy, hi.chipBusy⟩
  rw [writePage, requireBounds_ok hpage hdata]
  refine Triple.bind (Q := fun _ => c.Calm board b₀ (Engine Resting n m)) (.pure _ fun _ => id)
    fun _ => ?_
  refine (hidle.stop_mono ?unidle).bind fun _ => Triple.lift fun hn =>
    hfilled.unfailing.bind fun _ => (hsent.stop_mono ?unsent).bind fun _ =>
    Triple.lift fun hk => hready.mono (fun _ => id) (fun _ t ht => ?ready) ?unready
  case unidle => exact fun _ _ hn hall => Nat.not_le.2 hall.1 hn
  case unsent => exact fun _ _ hno hall => hno ⟨Nat.zero_lt_of_lt hall.1, hall.2.1⟩
  case ready => exact ⟨⟨hn, hk.2, ht.1.2⟩, ht.2⟩
  case unready => exact fun _ _ hno hall => hno ⟨hk.2, hall.2.2⟩

/-- Writing a page of an undisturbed board, where the limits allow an attempt. -/
theorem writePage_undisturbed (he : b₀.corruptEcho = false) (hs : b₀.pageSize ≤ 264)
    (hattempts : limits.eepromReadyAttempts ≠ 0) {page : UInt16} (hpage : page < pageCount)
    {data : Bytes} (hdata : data.length ≤ pageSize) :
    Triple (c.Calm board b₀ (Engine Resting n m)) ((overMailbox c limits).writePage page data)
      (fun _ t => (n < limits.spiReadyAttempts ∧ b₀.spiBusyPolls < limits.spiReadyAttempts ∧
        b₀.chipBusyPolls < limits.eepromReadyAttempts) ∧
          c.Calm board b₀ (Engine Resting 0 0) t)
      fun _ _ => ¬ (n < limits.spiReadyAttempts ∧ b₀.spiBusyPolls < limits.spiReadyAttempts ∧
        b₀.chipBusyPolls < limits.eepromReadyAttempts) := by
  have hlast : b₀.chipBusyPolls ≤ limits.eepromReadyAttempts - 1 ↔
      b₀.chipBusyPolls < limits.eepromReadyAttempts := by omega
  have hpolled : Triple (c.Calm board b₀ (Engine Resting n m))
      ((overMailbox c limits).writePage page data) _ _ :=
    writePage_polled h hl hm he hs hpage hdata
  rwa [hlast] at hpolled

end Commands

end Programmer

end MotorBoard
