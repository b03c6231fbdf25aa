/-
# Looking at registers and waiting for a mailbox

A look at the registers of the sync managers changes nothing on the board, and while fewer
frames get lost than a plain read is sent, a board that answers shows them.  So a wait that
ends well has seen the mailbox as it was waited for, and one that ends otherwise has not, or
too much went wrong with its frames.

Every rule below is about a board `b` that has come from a board `b₀` by frames, and about a
condition `J` that no look at the registers can change.  The main results are

* `Link.Carries.readRegisters_triple`: one look;
* `SyncManager.read_triple`: a look at a whole register block;
* `Channel.await_triple`: a wait for a mailbox to be full, or empty.
-/
import MotorBoard.Proofs.Board.Frames
import MotorBoard.Proofs.Mailbox.Working
import MotorBoard.Proofs.Record.RoundTrips

namespace MotorBoard

/-- A block of registers is read back. -/
lemma SyncManager.decode_encode (sm : SyncManager) : decode sm.encode = .ok sm :=
  roundTrips.decode_encode sm trivial

namespace Board

/-- All faults that are still to come are losses, and there are fewer than `k`. -/
structure Light (k : Nat) (b : Board) : Prop where
  losses : b.OnlyLosses
  few : b.faults.length < k

/-- A condition that does not speak of the frames sent nor of the faults to come. -/
def Blind (J : Board → Prop) : Prop := ∀ b fs, J b → J (b.reached fs)

/-- A frame that was lost `k` times has cost `k` faults. -/
lemma Underway.not_light {b₀ b : Board} {frame ts : List Telegram}
    {I : Nat → List Telegram → Board → Prop} {k : Nat}
    (h : Underway b₀ frame I b₀.faults.length (0 + k) ts b) : ¬ b₀.Light k := by
  intro hl
  have h₁ := h.faults
  have h₂ := hl.few
  omega

/-- A board that has come from `b₀` by frames and meets a condition. -/
def Meets (b₀ : Board) (J : Board → Prop) (b : Board) : Prop := b₀.Follows b ∧ J b

/-- What a look at registers shows: zeros if no board answers. -/
def look (station address : UInt16) (n : Nat) (b : Board) : Bytes :=
  if b.Answers station then b.registers.slice (address.toNat - SyncManager.base.toNat) n
  else Bytes.zeros n

/-- Whether the mailbox of a sync manager is full. -/
def mailboxFull (manager : UInt8) (b : Board) : Bool :=
  if manager = Mailbox.commandManager then b.commandFull else b.resultFull

/-- The status register tells whether the mailbox is full. -/
lemma registers_status {manager : UInt8} (hm : IsManager manager) (b : Board) :
    SyncManager.isFull
      ((b.registers.slice ((SyncManager.statusAddress manager).toNat - SyncManager.base.toNat)
        1).byteAt 0) = b.mailboxFull manager := by
  obtain rfl | rfl := hm
  · show SyncManager.isFull (if b.commandFull then SyncManager.fullBit else 0) = b.commandFull
    cases b.commandFull <;> rfl
  · show SyncManager.isFull (if b.resultFull then SyncManager.fullBit else 0) = b.resultFull
    cases b.resultFull <;> rfl

lemma registers_command (b : Board) :
    SyncManager.decode
      (b.registers.slice ((SyncManager.baseAddress Mailbox.commandManager).toNat -
        SyncManager.base.toNat) SyncManager.size) = .ok b.commandManager :=
  SyncManager.decode_encode b.commandManager

lemma registers_result (b : Board) :
    SyncManager.decode
      (b.registers.slice ((SyncManager.baseAddress Mailbox.resultManager).toNat -
        SyncManager.base.toNat) SyncManager.size) = .ok b.resultManager :=
  SyncManager.decode_encode b.resultManager

lemma resultManager_mailboxFull (b : Board) : b.resultManager.mailboxFull = b.resultFull := by
  show SyncManager.isFull (if b.resultFull then SyncManager.fullBit else 0) = b.resultFull
  cases b.resultFull <;> rfl

lemma resultManager_repeatRequest (b : Board) :
    b.resultManager.repeatRequest = b.repeatRequest := by
  show ((if b.repeatRequest then SyncManager.enableBit ||| SyncManager.requestBit
    else SyncManager.enableBit) &&& SyncManager.requestBit != 0) = b.repeatRequest
  cases b.repeatRequest <;> rfl

lemma resultManager_repeatAck (b : Board) : b.resultManager.repeatAck = b.repeatAck := by
  show ((if b.repeatAck then SyncManager.ackBit else 0) &&& SyncManager.ackBit != 0) = b.repeatAck
  cases b.repeatAck <;> rfl

/-- The activate register with the request bit turned over. -/
lemma resultManager_toggleRequest (b : Board) :
    (b.resultManager.toggleRequest.activate &&& SyncManager.requestBit != 0) =
      !b.repeatRequest := by
  show (((if b.repeatRequest then SyncManager.enableBit ||| SyncManager.requestBit
    else SyncManager.enableBit) ^^^ SyncManager.requestBit) &&& SyncManager.requestBit != 0) =
      !b.repeatRequest
  cases b.repeatRequest <;> rfl

end Board

open Call Board

variable {σ : Type} {link : Link σ} {board : σ → Board} {b₀ : Board} {station : UInt16}
  {J : Board → Prop}

/-- A look at registers keeps what is known.  It fails only if no board answers, or for
faults. -/
theorem Link.Carries.readRegisters_triple (h : link.Carries board) (hJ : Blind J) (b₀ : Board)
    (station : UInt16) {address : UInt16} {n : Nat} (hin : inRegisters address.toNat = true)
    (hn : address.toNat - SyncManager.base.toNat + n ≤ 2 * SyncManager.size) :
    Triple (fun s => b₀.Meets J (board s)) (link.readMemory .station station address n)
      (fun data s => b₀.Meets J (board s) ∧ data = (board s).look station address n)
      fun e s => e ≠ .died ∧ b₀.Meets J (board s) ∧
        ¬ (b₀.Answers station ∧ b₀.Light plainAttempts) := by
  -- on its way the telegram has a zero counter, and zeros unless a board has filled them in
  have hsend := h.send_triple b₀ [.read .station station address n]
    (I := fun _ ts b => J b ∧ ∃ t, ts = [t] ∧ t.workingCounter = 0 ∧
      (¬ b₀.Answers station → t.data = Bytes.zeros n))
    (A := fun _ us b => J b ∧ ∃ t, us = [t] ∧ t.data = b.look station address n ∧
      (b₀.Answers station → t.workingCounter = 1))
    (D := fun _ => False)
    (fun _ _ _ _ hI => ⟨hJ _ _ hI.1, hI.2⟩)
    (by
      rintro _ _ _ ⟨hJb, t, rfl, -, ht⟩
      exact ⟨hJb, _, rfl, rfl, ht⟩)
    (by
      rintro _ _ hsame b ⟨hb, hJb, t, rfl, hc, ht⟩
      by_cases ha : b₀.Answers station
      · have hba : b.Answers station := hb.answers_iff.2 ha
        rw [actAll_registers hsame hba hin hn]
        refine ⟨⟨hJb, _, rfl, ?_, fun _ => ?_⟩, hJb, _, rfl, rfl, fun h => absurd ha h⟩
        · rw [look, if_pos hba]
        · show t.workingCounter + 1 = 1
          rw [hc]
          rfl
      · have hba : ¬ b.Answers station := fun h => ha (hb.answers_iff.1 h)
        rw [actAll_silent (Names.same (by simp [Names, Telegram.read]) hsame) hba]
        refine ⟨⟨hJb, t, rfl, ?_, fun h => absurd h ha⟩, hJb, _, rfl, rfl, ht⟩
        rw [look, if_neg hba, ht ha])
    b₀.faults.length plainAttempts 0 [.read .station station address n]
  refine (hsend.pre fun s hs => ?_).stop_mono (fun _ _ he => he.2.elim) |>.bind fun d s hs => ?_
  · exact ⟨hs.1, hs.1.faults.length_le, .refl _, hs.2, _, rfl, rfl, fun _ => rfl⟩
  · cases hs with
    | lost hu =>
      exact ⟨Stop.failed_ne_died _, ⟨hu.follows, hu.holds.1⟩, fun hl => hu.not_light hl.2⟩
    | @returned k ts _ _ ha =>
      obtain ⟨us, ⟨hJb, t, rfl, hdata, hcount⟩, hfirst, hloss⟩ := ha.reply
      show Ends _ _ ((if Delivery.counter ⟨true, ts, k + 1⟩ 0 = 1 then pure (firstData ts)
        else if Delivery.counter ⟨true, ts, k + 1⟩ 0 = 0 then Call.fail _
        else Call.fail _ : Call σ Bytes) s)
      by_cases hc : Delivery.counter ⟨true, ts, k + 1⟩ 0 = 1
      · rw [if_pos hc]
        exact ⟨⟨ha.follows, hJb⟩, hfirst.trans hdata⟩
      · -- the counter of a board that answers is one, unless it was forged
        have hfail : ¬ (b₀.Answers station ∧ b₀.Light plainAttempts) := by
          rintro ⟨hans, hl⟩
          apply hc
          rw [hloss hl.losses]
          exact hcount hans
        rw [if_neg hc]
        split <;> exact ⟨Stop.failed_ne_died _, ⟨ha.follows, hJb⟩, hfail⟩

/-- A look at the registers of a sync manager. -/
theorem SyncManager.read_triple (h : link.Carries board) (hJ : Blind J) (b₀ : Board)
    (slave : Slave) {manager : UInt8} (hm : IsManager manager) :
    Triple (fun s => b₀.Meets J (board s)) (SyncManager.read link slave manager)
      (fun sm s => b₀.Meets J (board s) ∧
        (b₀.Answers slave.station → manager = Mailbox.resultManager →
          sm = (board s).resultManager))
      fun e s => e ≠ .died ∧ b₀.Meets J (board s) ∧
        ¬ (b₀.Answers slave.station ∧ b₀.Light Link.plainAttempts) := by
  have hin : inRegisters (SyncManager.baseAddress manager).toNat = true := by
    obtain rfl | rfl := hm <;> decide
  have hn : (SyncManager.baseAddress manager).toNat - SyncManager.base.toNat + SyncManager.size ≤
      2 * SyncManager.size := by
    obtain rfl | rfl := hm <;> decide
  refine (h.readRegisters_triple hJ b₀ slave.station hin hn).bind fun raw => .ofExcept ?_ ?_
  · rintro sm hsm s ⟨hs, rfl⟩
    refine ⟨hs, ?_⟩
    rintro ha rfl
    rw [look, if_pos (hs.1.answers_iff.2 ha), registers_result] at hsm
    exact (Except.ok.inj hsm).symm
  · rintro e he s ⟨hs, rfl⟩
    refine ⟨Stop.failed_ne_died _, hs, ?_⟩
    rintro ⟨ha, -⟩
    -- the registers of a board that answers can be read
    rw [look, if_pos (hs.1.answers_iff.2 ha)] at he
    obtain rfl | rfl := hm
    · rw [registers_command] at he
      cases he
    · rw [registers_result] at he
      cases he

namespace Channel

variable {c : Channel σ}

lemma now_triple {P : σ → Prop} {E : Stop → σ → Prop} :
    Triple P c.link.now (fun _ => P) E :=
  fun _ hs => hs

lemma pause_triple (h : c.link.Carries board) {P : Board → Prop} {E : Stop → σ → Prop} :
    Triple (fun s => P (board s)) c.pause (fun _ s => P (board s)) E :=
  .modify _ fun s hs => (h.pause _ s).symm ▸ hs

/-- A look that is not insisted upon. -/
lemma attempt_read_triple (h : c.link.Carries board) (hJ : Blind J) {manager : UInt8}
    (hm : IsManager manager) {E : Stop → σ → Prop}
    (hE : ∀ e s, e ≠ .died → b₀.Meets J (board s) → E e s) :
    Triple (fun s => b₀.Meets J (board s))
      (Call.attempt (SyncManager.read c.link c.slave manager)) (fun _ s => b₀.Meets J (board s))
      E := by
  refine ((SyncManager.read_triple h hJ b₀ c.slave hm).attempt.post fun r s hr => ?_).stop_mono
    fun e s he => hE e s he.1 he.2.1
  cases r with
  | ok sm => exact hr.1
  | error e => exact hr.2.1

/-- Looking around after a failure changes nothing. -/
lemma diagnose_triple (h : c.link.Carries board) (hJ : Blind J) {E : Stop → σ → Prop}
    (hE : ∀ e s, e ≠ .died → b₀.Meets J (board s) → E e s) :
    Triple (fun s => b₀.Meets J (board s)) c.diagnose (fun _ s => b₀.Meets J (board s)) E :=
  (attempt_read_triple h hJ isManager_command hE).bind fun _ =>
    (attempt_read_triple h hJ isManager_result hE).bind fun _ => .pure _ fun _ => id

/-- A mailbox is found as it was waited for.  Without a board it looks empty. -/
def Found (b₀ : Board) (station : UInt16) (manager : UInt8) (full : Bool) (b : Board) : Prop :=
  (b₀.Answers station → b.mailboxFull manager = full) ∧ (¬ b₀.Answers station → full = false)

/-- A mailbox that a wait would have found, had nothing gone wrong with its frames. -/
def Missed (b₀ : Board) (station : UInt16) (manager : UInt8) (full : Bool) (b : Board) : Prop :=
  b₀.Answers station ∧ b₀.Light Link.plainAttempts ∧ b.mailboxFull manager = full

/-- A wait that ends well has found the mailbox, and one that ends otherwise has not missed
it. -/
lemma poll_triple (h : c.link.Carries board) (hJ : Blind J) {manager : UInt8}
    (hm : IsManager manager) (full : Bool) (start n : Nat) (answered : Bool) :
    Triple
      (fun s => b₀.Meets J (board s) ∧
        (n = 0 → ¬ Missed b₀ c.slave.station manager full (board s)))
      (c.poll manager full start n answered)
      (fun _ s => b₀.Meets J (board s) ∧ Found b₀ c.slave.station manager full (board s))
      fun e s => e ≠ .died ∧ b₀.Meets J (board s) ∧
        ¬ Missed b₀ c.slave.station manager full (board s) := by
  have hin : inRegisters (SyncManager.statusAddress manager).toNat = true := by
    obtain rfl | rfl := hm <;> decide
  have hn : (SyncManager.statusAddress manager).toNat - SyncManager.base.toNat + 1 ≤
      2 * SyncManager.size := by
    obtain rfl | rfl := hm <;> decide
  induction n generalizing answered with
  | zero => exact .stop _ fun s hs => ⟨Stop.stalled_ne_died, hs.1, hs.2 rfl⟩
  | succ n ih =>
    have hlook := (h.readRegisters_triple hJ b₀ c.slave.station hin hn).attempt
    refine ((hlook.pre fun s hs => hs.1).stop_mono ?_).bind fun status =>
      .ite (fun hr => ?_) fun hr => ?_
    · rintro e s ⟨he, hs, hl⟩
      exact ⟨he, hs, fun hmiss => hl ⟨hmiss.1, hmiss.2.1⟩⟩
    · refine .pure _ fun s hs => ?_
      cases status with
      | error e => cases hr
      | ok raw =>
        obtain ⟨hs, rfl⟩ := hs
        have hr := beq_iff_eq.1 hr
        refine ⟨hs, fun ha => ?_, fun ha => ?_⟩
        · rwa [look, if_pos (hs.1.answers_iff.2 ha), registers_status hm] at hr
        · -- zeros look like an empty mailbox
          rw [look, if_neg fun h => ha (hs.1.answers_iff.1 h)] at hr
          exact hr.symm
    · -- the mailbox was not seen as it should be, and a further look finds the same
      refine Triple.pre (P := fun s => b₀.Meets J (board s) ∧
        ¬ Missed b₀ c.slave.station manager full (board s)) ?_ fun s hs => ?_
      · refine now_triple.bind fun now => .ite (fun _ => .fail_alive _ fun _ => id) fun _ => ?_
        exact (pause_triple h (P := fun b => b₀.Meets J b ∧
          ¬ Missed b₀ c.slave.station manager full b)).bind fun _ =>
            (ih _).pre fun s hs => ⟨hs.1, fun _ => hs.2⟩
      · cases status with
        | error e => exact ⟨hs.2.1, fun hmiss => hs.2.2 ⟨hmiss.1, hmiss.2.1⟩⟩
        | ok raw =>
          obtain ⟨hs, rfl⟩ := hs
          refine ⟨hs, ?_⟩
          rintro ⟨ha, -, hfull⟩
          apply hr
          rw [beq_iff_eq, look, if_pos (hs.1.answers_iff.2 ha), registers_status hm]
          exact hfull

/-- A wait polls once at least. -/
lemma pollLimit_pos (l : MailboxLimits) (settling : Nat) : l.pollLimit settling ≠ 0 := by
  rw [MailboxLimits.pollLimit]
  split <;> exact Nat.succ_ne_zero _

/-- A wait that ends well has found the mailbox, and one that ends otherwise has not missed
it. -/
theorem await_triple (h : c.link.Carries board) (hJ : Blind J) {manager : UInt8}
    (hm : IsManager manager) (full : Bool) :
    Triple (fun s => b₀.Meets J (board s)) (c.await manager full)
      (fun _ s => b₀.Meets J (board s) ∧ Found b₀ c.slave.station manager full (board s))
      fun e s => e ≠ .died ∧ b₀.Meets J (board s) ∧
        ¬ Missed b₀ c.slave.station manager full (board s) := by
  refine now_triple.bind fun start => ?_
  refine Triple.bind (Q := fun n s => b₀.Meets J (board s) ∧ n ≠ 0) ?_ fun n => ?_
  · exact fun s hs => ⟨hs, pollLimit_pos _ _⟩
  · exact (poll_triple h hJ hm full start n false).pre fun s hs => ⟨hs.1, fun h0 => absurd h0 hs.2⟩

end Channel

end MotorBoard
