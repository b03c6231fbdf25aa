/-
# Clearing a result and putting a command

The first frames of a transfer are sent again when they are lost, and both can stand that.
A result that is taken away twice is gone all the same.  A command that is put twice is
either executed twice, or refused the second time because the first one is still there.

So after a frame that clears the mailbox there is no result, and after one that puts a
command the board has either accepted this very command or had another one all the time.
The main results are

* `Channel.clear_triple`: what clearing leaves behind;
* `Channel.put_triple`: what putting leaves behind, for any command.
-/
import MotorBoard.Proofs.Mailbox.Polling

namespace MotorBoard

open Call Board

namespace Channel

variable {σ : Type} {c : Channel σ} {board : σ → Board} {b₀ : Board} {J K D : Board → Prop}

lemma clearFrame_takes (c : Channel σ) : TakesResult c.slave.station 1 c.clearFrame :=
  .split (by decide)

/-- A board that answers has no result. -/
def Cleared (b₀ : Board) (station : UInt16) (J : Board → Prop) (b : Board) : Prop :=
  J b ∧ (b₀.Answers station → b.resultFull = false)

/-- What the board makes of a frame that clears.  It counts itself if there was a result. -/
lemma actAll_clear_triple (hempty : ∀ b, J b → J { b with resultFull := false })
    {ts : List Telegram} (hsame : SameFrame c.clearFrame ts) :
    Triple (fun b => b₀.Follows b ∧ J b ∧ Telegram.AllCount 0 ts) (actAll ts)
      (fun us b => (Cleared b₀ c.slave.station J b ∧
          ∃ w, (w = 0 ∨ w = 1) ∧ Telegram.AllCount w us) ∧
        J b ∧ Telegram.AllCount 0 (us.map Telegram.rewound))
      fun _ _ => False := by
  rintro b ⟨hb, hJb, hc⟩
  by_cases ha : b₀.Answers c.slave.station
  · have hba : b.Answers c.slave.station := hb.answers_iff.2 ha
    cases hfull : b.resultFull with
    | true =>
      -- reading the last byte takes the result away
      obtain ⟨us, hus, -, hcount⟩ := actAll_takes c.clearFrame_takes hsame hba hfull
      rw [hus]
      exact ⟨⟨⟨hempty b hJb, fun _ => rfl⟩, 1, .inr rfl, hcount 0 hc⟩, hempty b hJb, .rewound _⟩
    | false =>
      rw [actAll_takes_empty c.clearFrame_takes hsame hba hfull]
      exact ⟨⟨⟨hJb, fun _ => hfull⟩, 0, .inl rfl, hc⟩, hJb, .rewound _⟩
  · rw [actAll_silent (c.clearFrame_takes.names.same hsame) fun h => ha (hb.answers_iff.1 h)]
    exact ⟨⟨⟨hJb, fun h => absurd h ha⟩, 0, .inl rfl, hc⟩, hJb, .rewound _⟩

/-- Clearing leaves no result behind, and it fails only if no board answers, or for
faults. -/
theorem clear_triple (h : c.link.Carries board) (hJ : Blind J)
    (hempty : ∀ b, J b → J { b with resultFull := false }) :
    Triple (fun s => b₀.Meets J (board s)) c.clear
      (fun _ s => b₀.Meets (Cleared b₀ c.slave.station J) (board s))
      fun e s => e ≠ .died ∧ b₀.Meets J (board s) ∧ ¬ b₀.Light c.limits.clearAttempts := by
  have hsend := h.send_triple b₀ c.clearFrame
    (I := fun _ ts b => J b ∧ Telegram.AllCount 0 ts)
    (A := fun _ us b => Cleared b₀ c.slave.station J b ∧
      ∃ w, (w = 0 ∨ w = 1) ∧ Telegram.AllCount w us)
    (D := fun _ => False)
    (fun _ _ _ _ hI => ⟨hJ _ _ hI.1, hI.2⟩)
    (fun _ _ _ hI => ⟨hI.1, .rewound _⟩)
    (fun _ _ hsame => actAll_clear_triple hempty hsame)
    b₀.faults.length c.limits.clearAttempts 0 c.clearFrame
  refine (hsend.pre fun s hs => ?_).stop_mono (fun _ _ he => he.2.elim) |>.bind fun d s hs => ?_
  · refine ⟨hs.1, hs.1.faults.length_le, .refl _, hs.2, ?_⟩
    simp [Telegram.AllCount, clearFrame, Telegram.read]
  · cases hs with
    | lost hu =>
      exact (pause_triple h (P := b₀.Meets J)).bind
        (fun _ => .fail_alive _ fun s hs => ⟨hs, hu.not_light⟩) s ⟨hu.follows, hu.holds.1⟩
    | @returned k ts _ _ ha =>
      obtain ⟨us, ⟨hcleared, w, hw, hcount⟩, -, hloss⟩ := ha.reply
      have hlen : ts.length = if True then 2 else 1 := (List.Forall₂.length_eq ha.same).symm
      -- without forged counters both are those of the board
      have hgood : b₀.OnlyLosses → Delivery.counter ⟨true, ts, k + 1⟩ 0 = w ∧
          (True → Delivery.counter ⟨true, ts, k + 1⟩ 1 = w) := by
        intro hl
        obtain rfl := hloss hl
        exact hcount.counters hlen _ _
      show Ends _ _ ((if Delivery.counter ⟨true, ts, k + 1⟩ 0 ≠ Delivery.counter ⟨true, ts, k + 1⟩ 1
          then Call.fail _
        else if Delivery.counter ⟨true, ts, k + 1⟩ 0 = 0 ∨ Delivery.counter ⟨true, ts, k + 1⟩ 0 = 1
          then pure ()
        else Call.fail _ : Call σ Unit) s)
      split
      · next hne =>
        refine ⟨Stop.failed_ne_died _, ⟨ha.follows, hcleared.1⟩, fun hl => hne ?_⟩
        exact (hgood hl.losses).1.trans ((hgood hl.losses).2 trivial).symm
      · split
        · exact ⟨ha.follows, hcleared⟩
        · next hne =>
          refine ⟨Stop.failed_ne_died _, ⟨ha.follows, hcleared.1⟩, fun hl => hne ?_⟩
          rw [(hgood hl.losses).1]
          exact hw

lemma commandFrame_puts (c : Channel σ) {command : Bytes} (hlen : command.length ≤ Mailbox.size) :
    PutsCommand c.slave.station command (c.commandFrame command) := by
  rw [commandFrame]
  split
  · next hs =>
    refine .split ?_
    simp only [splits, decide_eq_true_eq] at hs
    omega
  · exact .whole hlen

lemma length_commandFrame (c : Channel σ) (command : Bytes) :
    (c.commandFrame command).length = if c.splits command.length then 2 else 1 := by
  rw [commandFrame]
  split <;> rfl

lemma allCount_commandFrame (c : Channel σ) (command : Bytes) :
    Telegram.AllCount 0 (c.commandFrame command) := by
  rw [commandFrame]
  split <;> simp [Telegram.AllCount, Telegram.write]

section Put

variable {command : Bytes} (h : c.link.Carries board) (hJ : Blind J) (hKJ : ∀ b, K b → J b)
  (hlen : command.length ≤ Mailbox.size)
  (silent : ∀ b, ¬ b₀.Answers c.slave.station → J b → K b)
  (refused : ∀ b, b₀.Follows b → b.commandFull = true → J b → K b)
  (accepted : ∀ b m, b₀.Answers c.slave.station → b₀.Follows b → b.commandFull = false → J b →
    m.range Mailbox.commandAddress.toNat command.length = command →
    (∀ start n, Mailbox.commandAddress.toNat + Mailbox.size ≤ start →
      m.range start n = b.memory.range start n) →
    Ends (fun _ b' => K b') (fun _ b' => D b') (accept { b with memory := m }))

/-- The counters with which a call goes on after it has put a command. -/
def Counted (c : Channel σ) (command : Bytes) (d : Delivery) : Prop :=
  d.counter 0 = 1 ∧ (c.splits command.length → d.counter 1 = 1)

include hKJ hlen silent refused accepted

/-- What the board makes of a frame with a command.  A board that executes at once counts
itself. -/
lemma actAll_put_triple {ts : List Telegram} (hsame : SameFrame (c.commandFrame command) ts) :
    Triple (fun b => b₀.Follows b ∧ J b ∧ Telegram.AllCount 0 ts) (actAll ts)
      (fun us b => (K b ∧ (b₀.Answers c.slave.station → b₀.Settled → Telegram.AllCount 1 us)) ∧
        J b ∧ Telegram.AllCount 0 (us.map Telegram.rewound))
      fun _ b => D b := by
  have hputs := c.commandFrame_puts hlen
  rintro b ⟨hb, hJb, hc⟩
  by_cases ha : b₀.Answers c.slave.station
  · have hba : b.Answers c.slave.station := hb.answers_iff.2 ha
    cases hfull : b.commandFull with
    | true =>
      -- a board in order executes at once, so its mailbox is never full
      have hK := refused b hb hfull hJb
      rw [actAll_puts_full hputs hsame hba hfull]
      refine ⟨⟨hK, fun _ hs => ?_⟩, hJb, .rewound _⟩
      exact absurd hfull (by simp [(hb.settled hs).empty])
    | false =>
      obtain ⟨m, hm, hrest, hact⟩ := actAll_puts hputs hsame hba hfull
      have hacc := accepted b m ha hb hfull hJb hm hrest
      rw [hact, bind_apply]
      revert hacc
      rcases accept { b with memory := m } with ⟨e | _, b'⟩
      · -- the board has died while it executed the command
        exact id
      · intro hK
        exact ⟨⟨hK, fun _ _ => hc.succ (by simp [Telegram.acted])⟩, hKJ _ hK, .rewound _⟩
  · have hK := silent b ha hJb
    rw [actAll_silent (hputs.names.same hsame) fun h => ha (hb.answers_iff.1 h)]
    exact ⟨⟨hK, fun h => absurd h ha⟩, hJb, .rewound _⟩

include h hJ

/-- Sending a command until it comes back. -/
lemma send_command_triple :
    Triple (fun s => b₀.Meets J (board s))
      (c.link.send (c.commandFrame command) c.limits.writeAttempts)
      (fun d s =>
        if d.returned then
          b₀.Meets K (board s) ∧
            (b₀.Answers c.slave.station ∧ b₀.Settled ∧ b₀.Light c.limits.writeAttempts →
              c.Counted command d)
        else b₀.Meets J (board s) ∧ ¬ b₀.Light c.limits.writeAttempts)
      fun e s => e = .died ∧ D (board s) := by
  have hsend := h.send_triple b₀ (c.commandFrame command)
    (I := fun _ ts b => J b ∧ Telegram.AllCount 0 ts)
    (A := fun _ us b => K b ∧
      (b₀.Answers c.slave.station → b₀.Settled → Telegram.AllCount 1 us))
    (D := D)
    (fun _ _ _ _ hI => ⟨hJ _ _ hI.1, hI.2⟩)
    (fun _ _ _ hI => ⟨hI.1, .rewound _⟩)
    (fun _ _ hsame => actAll_put_triple hKJ hlen silent refused accepted hsame)
    b₀.faults.length c.limits.writeAttempts 0 (c.commandFrame command)
  refine (hsend.pre fun s hs => ?_).post fun d s hs => ?_
  · exact ⟨hs.1, hs.1.faults.length_le, .refl _, hs.2, c.allCount_commandFrame command⟩
  · cases hs with
    | lost hu =>
      exact ⟨⟨hu.follows, hu.holds.1⟩, hu.not_light⟩
    | @returned k ts _ _ ha =>
      obtain ⟨us, ⟨hK, hcount⟩, -, hloss⟩ := ha.reply
      refine ⟨⟨ha.follows, hK⟩, ?_⟩
      rintro ⟨hans, hset, hl⟩
      obtain rfl := hloss hl.losses
      have hframe := (List.Forall₂.length_eq ha.same).symm.trans (length_commandFrame c command)
      exact (hcount hans hset).counters hframe _ _

/-- Putting a command.  `J` holds before, and `K` holds once the board has seen the command:
either it has refused it, or it has accepted it. -/
theorem put_triple :
    Triple (fun s => b₀.Meets J (board s)) (c.put command)
      (fun _ s => b₀.Meets K (board s))
      fun e s => e = .died ∧ D (board s) ∨
        e ≠ .died ∧ b₀.Meets J (board s) ∧
          ¬ (b₀.Answers c.slave.station ∧ b₀.Settled ∧ b₀.Light c.limits.writeAttempts) := by
  have hsent := send_command_triple h hJ hKJ hlen silent refused accepted
  refine (hsent.stop_mono fun _ _ he => .inl he).bind fun d => .ite (fun hr => ?_) fun hr => ?_
  · -- every attempt was lost
    have hr' : d.returned = false := by simpa using hr
    simp only [hr', Bool.false_eq_true, if_false]
    refine (pause_triple h (P := fun b => b₀.Meets J b ∧ ¬ b₀.Light c.limits.writeAttempts)).bind
      fun _ => .fail _ fun s hs => .inr ⟨Stop.failed_ne_died _, hs.1, fun hgood => hs.2 hgood.2.2⟩
  · have hr' : d.returned = true := by simpa using hr
    simp only [hr', if_true]
    -- the counters of the board let the call go on
    have hfail : ∀ e : Error, ¬ c.Counted command d → ∀ s,
        (b₀.Meets K (board s) ∧
          (b₀.Answers c.slave.station ∧ b₀.Settled ∧ b₀.Light c.limits.writeAttempts →
            c.Counted command d)) →
        Stop.failed e = .died ∧ D (board s) ∨
          Stop.failed e ≠ .died ∧ b₀.Meets J (board s) ∧
            ¬ (b₀.Answers c.slave.station ∧ b₀.Settled ∧ b₀.Light c.limits.writeAttempts) := by
      intro e hbad s hs
      refine .inr ⟨Stop.failed_ne_died _, ⟨hs.1.1, hKJ _ hs.1.2⟩, fun hgood => ?_⟩
      exact hbad (hs.2 hgood)
    refine .ite (fun hne => .fail _ (hfail _ ?_)) fun _ => .ite (fun _ => .pure _ fun _ hs => hs.1)
      fun hne => .ite (fun _ => .ite (fun _ => ?_) fun _ => .pure _ fun _ hs => hs.1)
        fun _ => .fail _ (hfail _ fun h => hne h.1)
    · exact fun h => hne.2 (h.1.trans (h.2 hne.1).symm)
    · -- a frame that no board has taken is a failure, unless it was sent twice
      exact (pause_triple h (P := fun b => b₀.Meets K b ∧ _)).bind fun _ =>
        .fail _ (hfail _ fun h => hne h.1)

end Put

end Channel

end MotorBoard
