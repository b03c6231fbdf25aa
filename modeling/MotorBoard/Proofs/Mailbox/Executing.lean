/-
# Putting a write and waiting for it

The board executes a write when its command is put, in one step.  The command may be put
several times, because an answer was lost, and then it is executed several times.  What the
caller learns is less certain: a write may be reported as failed although its command was
executed.  But a write that a board has answered and that is reported as done has been
executed, because the mailbox of commands was seen empty after its command was put.

What an execution does depends on where the write goes; it may be a plain store, and it may
start the transfer engine.  So the rules below leave it to a condition on the stores of the
board, `Board.Executes`, and say what becomes of such a condition in the course of a call.
The main results are

* `Channel.writeHeld_executes`: putting a write and waiting for it, and what a failure
  means;
* `Channel.write_executes`: the same under the lock.
-/
import MotorBoard.Proofs.Mailbox.Reading

namespace MotorBoard

open Call Board

namespace Board

/-- What the execution of a write does to the stores of a board that answers and is set up
like `b₀`.  As long as `W` holds the write may be executed, once more or for the first time;
afterwards `K` holds, or `D` if the board has died of it. -/
structure Executes (b₀ : Board) (station address : UInt16) (data : Bytes)
    (W K D : Stores → Prop) : Prop where
  weaken : ∀ st, K st → W st
  step : ∀ b, b₀.Answers station → b₀.Alike b → W b.stores →
    Ends (fun _ b' => K b'.stores) (fun _ b' => D b'.stores) (writeBus address data b)

lemma Executes.stop_mono {b₀ : Board} {station address : UInt16} {data : Bytes}
    {W K D D' : Stores → Prop} (h : Executes b₀ station address data W K D)
    (hD : ∀ st, D st → D' st) : Executes b₀ station address data W K D' where
  weaken := h.weaken
  step b ha halike hW := (h.step b ha halike hW).imp (fun _ _ => id) fun _ _ => hD _

end Board

namespace Channel

variable {σ : Type} {c : Channel σ} {board : σ → Board} {b₀ : Board} {address : UInt16}
  {data : Bytes} {W K D : Stores → Prop}

/-- The write that a command asks for. -/
lemma write_ok {sequence : UInt8} {command : MailboxCommand}
    (hb : MailboxCommand.write address data sequence = .ok command) :
    (1 ≤ data.length ∧ data.length ≤ Mailbox.maxWriteLength) ∧
      command = ⟨⟨address, data.length, sequence &&& 7, .write⟩, data⟩ := by
  rw [MailboxCommand.write] at hb
  cases hh : CommandHeader.build address data.length .write sequence with
  | error e =>
    rw [hh] at hb
    cases hb
  | ok h =>
    obtain ⟨hl, rfl⟩ := CommandHeader.build_ok hh
    rw [hh] at hb
    exact ⟨hl, (Except.ok.inj hb).symm⟩

/-- The command of a write.  Once the board has seen it, the mailbox is full or the command
was executed. -/
lemma put_executes (h : c.link.Carries board)
    (hx : Executes b₀ c.slave.station address data W K D) {sequence : UInt8}
    {command : MailboxCommand} (hb : MailboxCommand.write address data sequence = .ok command) :
    Triple (fun s => b₀.Meets (fun b => W b.stores) (board s)) (c.put command.encode)
      (fun _ s => b₀.Meets (fun b => W b.stores ∧
        (b₀.Answers c.slave.station → b.commandFull = true ∨ K b.stores)) (board s))
      fun e s => e = .died ∧ D (board s).stores ∨
        e ≠ .died ∧ b₀.Meets (fun b => W b.stores) (board s) ∧ ¬ c.Ready b₀ := by
  obtain ⟨hl, rfl⟩ := write_ok hb
  have hfits : CommandHeader.Fits ⟨address, data.length, sequence &&& 7, .write⟩ :=
    CommandHeader.fits_of_le_limit hl
  refine (put_triple (D := fun b => D b.stores) h (fun _ _ hW => hW) (fun _ hb => hb.1)
    (MailboxCommand.length_encode_le hl.2) ?_ ?_ ?_).stop_mono ?_
  · exact fun b ha hW => ⟨hW, fun ha' => absurd ha' ha⟩
  · exact fun b _ hfull hW => ⟨hW, fun _ => .inl hfull⟩
  · intro b m ha hfollows _ hW hm _
    by_cases hold : b.holdCommands = true
    · rw [accept_held (b := { b with memory := m }) hold]
      exact ⟨hW, fun _ => .inl rfl⟩
    · have hold' : b.holdCommands = false := by simpa using hold
      have halike : b₀.Alike
          { b with memory := m, commandFull := true, commands := b.commands + 1 } :=
        { hfollows.toAlike with }
      have hstep := hx.step _ ha halike hW
      rw [accept_write (b := { b with memory := m }) hold' hfits rfl rfl hm, bind_apply]
      revert hstep
      rcases writeBus address data _ with ⟨e | _, b'⟩
      · exact id
      · exact fun hK => ⟨hx.weaken _ hK, fun _ => .inr hK⟩
  · rintro e s (hd | ⟨he, hs, hbad⟩)
    · exact .inl hd
    · exact .inr ⟨he, hs, fun hgood => hbad ⟨hgood.answers, hgood.settled,
        hgood.outlasts.losses, hgood.outlasts.write⟩⟩

/-- Putting a write and waiting for it.  When that ends well a board that answers has
executed the write; and it fails only if the length or the board is not in order, or if
there are too many faults. -/
theorem writeHeld_executes (h : c.link.Carries board)
    (hx : Executes b₀ c.slave.station address data W K D) :
    Triple (fun s : MailboxState × σ => b₀.Meets (fun b => W b.stores) (board s.2))
      (c.writeHeld address data)
      (fun _ s => b₀.Meets (fun b => W b.stores ∧
        (b₀.Answers c.slave.station → K b.stores)) (board s.2))
      fun e s => e = .died ∧ D (board s.2).stores ∨
        e ≠ .died ∧ b₀.Meets (fun b => W b.stores) (board s.2) ∧
          ¬ (c.Ready b₀ ∧ 1 ≤ data.length ∧ data.length ≤ Mailbox.maxWriteLength) := by
  have hnext := nextCommand_triple (c := c)
    (P := fun s => b₀.Meets (fun b => W b.stores) (board s)) (MailboxCommand.write address data)
  refine (hnext.stop_mono ?_).bind fun command => Triple.lift fun hb => ?_
  · rintro e s ⟨he, hs, hbad⟩
    refine .inr ⟨he, hs, fun hgood => hbad ⟨hgood.1.mailbox, fun sequence => ?_⟩⟩
    rw [MailboxCommand.write, CommandHeader.build_eq hgood.2]
    rfl
  · obtain ⟨sequence, hb⟩ := hb
    refine (Triple.second (P := fun s => b₀.Meets (fun b => W b.stores) (board s))
      (Q := fun _ s => b₀.Meets (fun b => W b.stores ∧
        (b₀.Answers c.slave.station → K b.stores)) (board s))
      (E := fun e s => e = .died ∧ D (board s).stores ∨
        e ≠ .died ∧ b₀.Meets (fun b => W b.stores) (board s) ∧ ¬ c.Ready b₀) ?_).stop_mono ?_
    · refine (put_executes h hx hb).attempt.bind fun r => ?_
      cases r with
      | ok u =>
        refine (await_triple h (J := fun b => W b.stores ∧
          (b₀.Answers c.slave.station → b.commandFull = true ∨ K b.stores)) (fun _ _ hs => hs)
          isManager_command false).mono (fun _ => id) ?_ ?_
        · rintro _ s ⟨⟨hfollows, hW, hseen⟩, hfound, -⟩
          -- the mailbox was seen empty, so the command was executed
          refine ⟨hfollows, hW, fun ha => (hseen ha).resolve_left ?_⟩
          have hempty : (board s).commandFull = false := hfound ha
          simp [hempty]
        · rintro e s ⟨he, ⟨hfollows, hW, -⟩, hmissed⟩
          refine .inr ⟨he, ⟨hfollows, hW⟩, fun hgood => hmissed ⟨hgood.answers,
            hgood.outlasts.light, ?_⟩⟩
          exact (hfollows.settled hgood.settled).empty
      | error e =>
        -- putting fails only out of order, and looking around changes nothing
        refine Triple.pre (P := fun s => ¬ c.Ready b₀ ∧
          b₀.Meets (fun b => W b.stores) (board s)) (Triple.lift fun hbad => ?_) ?_
        · refine (diagnose_triple h (J := fun b => W b.stores) (fun _ _ hs => hs)
            fun e s he hs => .inr ⟨he, hs, hbad⟩).bind fun _ => .fail _ fun s hs => ?_
          exact .inr ⟨Stop.failed_ne_died _, hs, hbad⟩
        · rintro s (⟨he, -⟩ | ⟨-, hs, hbad⟩)
          · cases he
          · exact ⟨hbad, hs⟩
    · rintro e s (hd | ⟨he, hs, hbad⟩)
      · exact .inl hd
      · exact .inr ⟨he, hs, fun hgood => hbad hgood.1⟩

/-- What a write does under its lock, a lock that is poisoned included. -/
theorem write_executes (h : c.link.Carries board)
    (hx : Executes b₀ c.slave.station address data W K D) :
    Triple (fun t : Mailbox × σ => b₀.Meets (fun b => W b.stores) (board t.2))
      (c.write address data)
      (fun _ t => b₀.Meets (fun b => W b.stores ∧
        (b₀.Answers c.slave.station → K b.stores)) (board t.2))
      fun e t => e = .died ∧ D (board t.2).stores ∨
        e ≠ .died ∧ b₀.Meets (fun b => W b.stores) (board t.2) := by
  refine Guarded.locked_triple (P := fun s => b₀.Meets (fun b => W b.stores) (board s))
    (Q := fun _ s => b₀.Meets (fun b => W b.stores ∧
      (b₀.Answers c.slave.station → K b.stores)) (board s))
    (E := fun e s => e = .died ∧ D (board s).stores ∨
      e ≠ .died ∧ b₀.Meets (fun b => W b.stores) (board s)) ?_
    fun _ _ hs => .inr ⟨Stop.failed_ne_died _, hs⟩
  refine ((writeHeld_executes h hx).stop_mono ?_).onFailure fun _ _ hs => hs
  rintro e s (hd | ⟨he, hs, -⟩)
  · exact .inl hd
  · exact .inr ⟨he, hs⟩

/-- A write to a board in order returns, unless the lock was poisoned. -/
lemma write_executes_returns (h : c.link.Carries board) {m : Mailbox} {s : σ}
    (hx : Executes (board s) c.slave.station address data W K fun _ => False)
    (hm : m.lock ≠ .poisoned) (hready : c.Ready (board s))
    (hl : 1 ≤ data.length ∧ data.length ≤ Mailbox.maxWriteLength) (hW : W (board s).stores) :
    ∃ m' s', c.write address data (m, s) = (.ok (), m', s') := by
  have ht := Guarded.unpoisoned_triple (((writeHeld_executes h hx).stop_mono ?_).onFailure
      (f := fun s => (s.1.countWriteError, s.2)) fun _ _ hs => hs)
    (P := fun t => (board s).Meets (fun b => W b.stores) (board t))
    (Q := fun _ t => (board s).Meets (fun b => W b.stores ∧
      ((board s).Answers c.slave.station → K b.stores)) (board t)) (E := fun _ _ => False)
  · obtain ⟨_, ⟨m', s'⟩, hr, -⟩ := ht.exists_result (s := (m, s)) ⟨hm, .refl _, hW⟩
    exact ⟨m', s', hr⟩
  · rintro e t (⟨-, hd⟩ | ⟨-, -, hbad⟩)
    · exact hd
    · exact hbad ⟨hready, hl⟩

end Channel

end MotorBoard
