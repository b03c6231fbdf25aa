/-
# How the programmer drives the transfer engine

The programmer polls the engine until it is idle, starts a command, and polls again until
the engine shows that command finished.  Polls only read, and a read that gives bytes shows
that a board answers; so when a command is reported as finished, a board has executed it.
This holds whatever the polls have shown: a wrong operation or an engine that stays busy
only makes the programmer give up.

The chip's status travels through the same page buffer as the pages, but it never reaches a
page, nor anything else on the local bus.  The main results are

* `Programmer.sendSpiCommand_sequence`: a command for the engine, by what its execution
  does to the stores;
* `Programmer.awaitReady_sequence`: waiting for the chip keeps what does not speak of the
  engine's register and buffer.
-/
import MotorBoard.Device.Basic
import MotorBoard.Proofs.Board.Engine
import MotorBoard.Proofs.Mailbox.Sequence

namespace MotorBoard

open Call Board

namespace Board

variable (b₀ : Board) (station : UInt16) {J : Stores → Prop}

/-- A write to the page buffer. -/
lemma executes_fill (hJ : Stores.Apart J) {data : Bytes}
    (hd : data.length ≤ Programmer.pageSize) :
    Executes b₀ station Programmer.bufferAddress data J
      (fun st => J st ∧ st.buffer.take data.length = data) J where
  weaken _ hK := hK.1
  step b _ _ hW := by
    have hplain : covers Programmer.bufferAddress.toNat data.length
        SpiCommand.controlAddress.toNat = false := rfl
    rw [writeBus_plain hplain]
    refine (storeBus_ends Programmer.bufferAddress.toNat data b).imp ?_ ?_
    · rintro _ b' ⟨hin, rfl⟩
      refine ⟨hJ _ _ (.fill _ (Nat.le_refl _) (Nat.add_le_add_left hd _)) hW, ?_⟩
      exact (Memory.take_range _ hd).trans (Memory.range_write_self b.localBus _ _ hin)
    · rintro _ b' ⟨rfl, -⟩
      exact hW

/-- A transfer of the chip's status. -/
lemma executes_status (hJ : Stores.Apart J) (length : Nat) :
    Executes b₀ station SpiCommand.address (SpiCommand.arbitrary length).encode J J J where
  weaken _ := id
  step b _ _ hW :=
    (start_status_ends b length).imp (fun _ _ hsame => hJ _ _ hsame hW)
      fun _ _ hsame => hJ _ _ hsame hW

end Board

namespace Programmer

variable {σ : Type} {c : Channel σ} {limits : EepromLimits} {board : σ → Board} {b₀ : Board}
  {J : Stores → Prop}

/-- The programmer on a channel. -/
abbrev overMailbox (c : Channel σ) (limits : EepromLimits) : Programmer (Mailbox × σ) :=
  ⟨c.transport, limits⟩

/-- A stage of the programmer. -/
abbrev At (b₀ : Board) (c : Channel σ) (board : σ → Board) (J : Stores → Prop)
    (t : Mailbox × σ) : Prop :=
  b₀.Stage c.slave.station J (board t.2)

/-- A stop of the programmer. -/
abbrev StoppedAt (b₀ : Board) (c : Channel σ) (board : σ → Board) (S : Stores → Prop) (e : Stop)
    (t : Mailbox × σ) : Prop :=
  b₀.Stopped c.slave.station S e (board t.2)

/-- A failure between two calls. -/
lemma fail_sequence {α : Type} {Q : α → Mailbox × σ → Prop} (e : Error) :
    Triple (At b₀ c board J) (Call.fail e) Q (StoppedAt b₀ c board J) :=
  .fail e fun _ ht => ht.stopped (fun _ => id) _

/-- A look at the register of the engine. -/
lemma readSpiCommand_sequence (h : c.link.Carries board) :
    Triple (At b₀ c board J) (overMailbox c limits).readSpiCommand
      (fun _ t => b₀.Answers c.slave.station ∧ At b₀ c board J t) (StoppedAt b₀ c board J) := by
  refine (c.read_sequence h SpiCommand.address SpiCommand.size).bind fun raw => .ofExcept ?_ ?_
  · exact fun _ _ t ht => ⟨ht.1, ht.2.1⟩
  · exact fun _ _ t ht => ht.2.1.stopped (fun _ => id) _

/-- Polling the engine leaves everything as it is. -/
lemma pollIdle_sequence (h : c.link.Carries board) (attempts : Nat) :
    Triple (At b₀ c board J) ((overMailbox c limits).pollIdle attempts)
      (fun _ t => b₀.Answers c.slave.station ∧ At b₀ c board J t) (StoppedAt b₀ c board J) := by
  induction attempts with
  | zero => exact fail_sequence _
  | succ attempts ih =>
    refine (readSpiCommand_sequence h).bind fun stat => Triple.lift fun ha => .ite (fun _ => ?busy)
      fun _ => ?idle
    case busy => exact (c.wait_sequence h _).bind fun _ => ih
    case idle => exact .pure _ fun _ ht => ⟨ha, ht⟩

lemma awaitIdle_sequence (h : c.link.Carries board) :
    Triple (At b₀ c board J) (overMailbox c limits).awaitIdle
      (fun _ t => b₀.Answers c.slave.station ∧ At b₀ c board J t) (StoppedAt b₀ c board J) :=
  pollIdle_sequence h _

/-- Polling the engine for the end of an operation leaves everything as it is. -/
lemma pollFinished_sequence (h : c.link.Carries board) (operation : UInt8) (attempts : Nat) :
    Triple (At b₀ c board J) ((overMailbox c limits).pollFinished operation attempts)
      (fun _ t => b₀.Answers c.slave.station ∧ At b₀ c board J t) (StoppedAt b₀ c board J) := by
  induction attempts with
  | zero => exact fail_sequence _
  | succ attempts ih =>
    refine (readSpiCommand_sequence h).bind fun stat => Triple.lift fun ha =>
      .ite (fun _ => ?differs) fun _ => .ite (fun _ => ?busy) fun _ => ?finished
    case differs => exact fail_sequence _
    case busy => exact (c.wait_sequence h _).bind fun _ => ih
    case finished => exact .pure _ fun _ ht => ⟨ha, ht⟩

/-- A command for the engine that is reported as finished was executed. -/
theorem sendSpiCommand_sequence (h : c.link.Carries board) {cmd : SpiCommand}
    {W K D S : Stores → Prop}
    (hx : Executes b₀ c.slave.station SpiCommand.address cmd.encode W K D)
    (hJ : ∀ st, J st → W st) (hW : ∀ st, W st → S st) (hD : ∀ st, D st → S st) :
    Triple (At b₀ c board J) ((overMailbox c limits).sendSpiCommand cmd)
      (fun _ t => b₀.Answers c.slave.station ∧ At b₀ c board K t) (StoppedAt b₀ c board S) := by
  have hidle : Triple (At b₀ c board J) (overMailbox c limits).awaitIdle
      (fun _ t => b₀.Answers c.slave.station ∧ At b₀ c board J t) (StoppedAt b₀ c board S) :=
    (awaitIdle_sequence h).stop_mono fun _ _ ht => ht.mono fun st hst => hW st (hJ st hst)
  have hwritten : Triple (At b₀ c board J) (c.write SpiCommand.address cmd.encode)
      (fun _ => At b₀ c board K) (StoppedAt b₀ c board S) :=
    c.write_sequence h hx hJ hW hD
  have hfinished : Triple (At b₀ c board K)
      ((overMailbox c limits).pollFinished cmd.operation limits.spiReadyAttempts)
      (fun _ t => b₀.Answers c.slave.station ∧ At b₀ c board K t) (StoppedAt b₀ c board S) :=
    (pollFinished_sequence h _ _).stop_mono fun _ _ ht =>
      ht.mono fun st hst => hW st (hx.weaken st hst)
  exact hidle.bind fun _ => Triple.lift fun _ => hwritten.bind fun _ => hfinished

/-- Asking the chip for its status. -/
lemma readStatus_sequence (h : c.link.Carries board) (hJ : Stores.Apart J) :
    Triple (At b₀ c board J) (overMailbox c limits).readStatus
      (fun _ t => b₀.Answers c.slave.station ∧ At b₀ c board J t) (StoppedAt b₀ c board J) := by
  have hfilled : Triple (At b₀ c board J) (c.write bufferAddress [ChipStatus.opcode, 0])
      (fun _ => At b₀ c board fun st => J st ∧
        st.buffer.take 2 = [ChipStatus.opcode, 0]) (StoppedAt b₀ c board J) :=
    c.write_sequence h (executes_fill _ _ hJ (by decide)) (fun _ => id) (fun _ => id) fun _ => id
  have hsent : Triple
      (At b₀ c board fun st => J st ∧ st.buffer.take 2 = [ChipStatus.opcode, 0])
      ((overMailbox c limits).sendSpiCommand (.arbitrary 2))
      (fun _ t => b₀.Answers c.slave.station ∧ At b₀ c board J t) (StoppedAt b₀ c board J) :=
    sendSpiCommand_sequence h (executes_status _ _ hJ 2) (fun _ hst => hst.1) (fun _ => id)
      fun _ => id
  refine hfilled.bind fun _ => hsent.bind fun _ => Triple.lift fun _ =>
    (c.read_sequence h bufferAddress 2).bind fun reply => ?_
  cases reply[1]? with
  | some status => exact .pure _ fun _ ht => ⟨ht.1, ht.2.1⟩
  | none => exact (fail_sequence _).pre fun _ ht => ht.2.1

/-- Polling the chip. -/
lemma pollReady_sequence (h : c.link.Carries board) (hJ : Stores.Apart J) (left tries : Nat) :
    Triple (At b₀ c board J) ((overMailbox c limits).pollReady left tries)
      (fun _ t => b₀.Answers c.slave.station ∧ At b₀ c board J t) (StoppedAt b₀ c board J) := by
  induction left generalizing tries with
  | zero =>
    refine (readStatus_sequence h hJ).bind fun status => Triple.lift fun ha =>
      .ite (fun _ => ?ready) fun _ => ?busy
    case ready => exact .pure _ fun _ ht => ⟨ha, ht⟩
    case busy => exact fail_sequence _
  | succ left ih =>
    refine (readStatus_sequence h hJ).bind fun status => Triple.lift fun ha =>
      .ite (fun _ => ?ready) fun _ => ?busy
    case ready => exact .pure _ fun _ ht => ⟨ha, ht⟩
    case busy => exact (c.wait_sequence h _).bind fun _ => ih _

/-- Waiting for the chip to complete a write touches register and buffer only. -/
theorem awaitReady_sequence (h : c.link.Carries board) (hJ : Stores.Apart J) :
    Triple (At b₀ c board J) (overMailbox c limits).awaitReady
      (fun _ t => b₀.Answers c.slave.station ∧ At b₀ c board J t) (StoppedAt b₀ c board J) :=
  pollReady_sequence h hJ _ _

end Programmer

end MotorBoard
