/-
# How long a mailbox is patient

A board that is stuck answers nothing, or it answers just enough to keep a caller waiting.
All the same a read and a write come to an end.  Each frame is sent a bounded number of
times, a result is asked for a bounded number of times, and each wait is bounded by the
clock, as long as every pause takes the time that it should.

Nothing is supposed of the ring: the frames may come back with any contents or none, or the
bus may die.  What is supposed is that somebody counts the frames, and that the clock goes
on.  The main results are

* `Channel.poll_spends` and `Channel.pollRepeat_spends`: the two waits;
* `Channel.fetchFrom_spends`: the tries to fetch a result, each with a wait of its own;
* `Channel.patience`: how many frames a read and a write send at most.
-/
import Mathlib.Algebra.Order.Floor.Div
import MotorBoard.Bench.Tap
import MotorBoard.Mailbox.Channel
import MotorBoard.Proofs.Call.Spending

namespace MotorBoard

namespace MailboxLimits

variable (l : MailboxLimits)

/-- How many polls fit into the longest wait, both ends included. -/
def polls : Nat := 1000 * l.timeoutMs ⌈/⌉ l.pollIntervalUs + 1

/-- How many frames a request for a lost result sends at most: a look and a write, and then a
look with each poll. -/
def repeatFrames : Nat := 5 * (l.polls + 2)

/-- How many frames a read sends at most. -/
def readFrames : Nat :=
  l.clearAttempts + l.writeAttempts + 5 * l.polls +
    l.readTries * (l.maxDropped + l.repeatFrames) + 10

/-- How many frames a write sends at most. -/
def writeFrames : Nat := l.writeAttempts + max 10 (5 * l.polls)

variable {l}

/-- With pauses the ring may settle when it likes. -/
lemma pollLimit_eq (hpaused : 0 < l.pollIntervalUs) (settling : Nat) :
    l.pollLimit settling = l.polls := by
  rw [pollLimit, if_neg (Nat.ne_of_gt hpaused), timeoutUs, polls, Nat.ceilDiv_eq_add_pred_div]

/-- The pauses between the first poll and the last one take the longest wait. -/
lemma timeoutUs_le (hpaused : 0 < l.pollIntervalUs) :
    l.timeoutUs ≤ (l.polls - 1) * l.pollIntervalUs := by
  have hceil : 1000 * l.timeoutMs ≤ l.pollIntervalUs • (1000 * l.timeoutMs ⌈/⌉ l.pollIntervalUs) :=
    le_smul_ceilDiv hpaused
  rwa [smul_eq_mul, Nat.mul_comm l.pollIntervalUs] at hceil

end MailboxLimits

namespace Link

variable {σ : Type}

/-- The frames that a link sends are counted, and its clock goes on: no frame sets it back, and
a pause of so many microseconds takes them. -/
structure Metered (link : Link σ) (frames : σ → Nat) (interval : Nat) : Prop where
  exchange_frames : ∀ ts s, frames (link.exchange ts s).2 = frames s + 1
  pause_frames : ∀ us s, frames (link.pause us s) = frames s
  exchange_clock : ∀ ts s, link.clock s ≤ link.clock (link.exchange ts s).2
  pause_clock : ∀ s, link.clock s + interval ≤ link.clock (link.pause interval s)

/-- The readings of a link with its frames counted. -/
def gauge (link : Link σ) (frames : σ → Nat) : Gauge σ := ⟨link.clock, frames⟩

end Link

open Call

section Frames

variable {σ : Type} {link : Link σ} {frames : σ → Nat} {interval : Nat}

namespace Link

variable (h : link.Metered frames interval)

include h

lemma sendOnce_spends (ts : List Telegram) (s : σ) :
    Spends (link.gauge frames) 1 (link.sendOnce ts) s := by
  rintro _ rfl
  rename_i s
  have hwithin : (link.gauge frames).Within 1 s (link.exchange ts s).2 :=
    ⟨h.exchange_clock ts s, (h.exchange_frames ts s).le⟩
  rw [sendOnce]
  revert hwithin
  rcases link.exchange ts s with ⟨ts' | ts' | _, s'⟩
  · exact id
  · exact id
  · exact fun hwithin => ⟨by simp, hwithin⟩

/-- A frame that is sent again and again is sent no more often than that. -/
lemma send_spends (ts : List Telegram) (attempts : Nat) (s : σ) :
    Spends (link.gauge frames) attempts (link.send ts attempts) s := by
  induction attempts generalizing ts s with
  | zero => exact .pure _
  | succ attempts ih =>
    rw [send, Nat.add_comm]
    refine (sendOnce_spends h ts s).bind fun d t _ => .ite (fun _ => ?returned) fun _ => ?lost
    case returned => exact .pure d
    case lost =>
      have hrest := ih d.telegrams t
      exact hrest.bind_last fun d' _ => .pure { d' with sends := d'.sends + 1 }

/-- Whatever comes back, nothing is sent behind it. -/
lemma insist_spends (t : Telegram) (access : String) (s : σ) :
    Spends (link.gauge frames) plainAttempts (link.insist t access) s := by
  have hsend := send_spends h [t] plainAttempts s
  refine hsend.bind_last fun d u => .ite (fun _ => ?lost) fun _ => .ite (fun _ => ?one) fun _ =>
    .ite (fun _ => ?refused) fun _ => ?crowded
  case one => exact .pure _
  all_goals exact .fail _

lemma syncManager_spends (slave : Slave) (manager : UInt8) (s : σ) :
    Spends (link.gauge frames) plainAttempts (SyncManager.read link slave manager) s :=
  (insist_spends h _ _ s).bind_last fun _ _ => .ofExcept _

lemma writeActivate_spends (slave : Slave) (manager : UInt8) (sm : SyncManager) (s : σ) :
    Spends (link.gauge frames) plainAttempts (sm.writeActivate link slave manager) s :=
  (insist_spends h _ _ s).bind_last fun _ _ => .pure ()

/-- A pause sends nothing. -/
lemma pause_within (s : σ) :
    (link.gauge frames).Within 0 s (link.pause interval s) where
  clock := (Nat.le_add_right _ _).trans (h.pause_clock s)
  frames := (h.pause_frames interval s).le

end Link

namespace Channel

variable {c : Channel σ} (h : c.link.Metered frames c.limits.pollIntervalUs)

include h

/-- A pause sends nothing, and what comes behind it starts that much later. -/
lemma pause_bind_spends {α : Type} {f : Unit → Call σ α} {n : Nat} {s : σ}
    (hf : Spends (c.link.gauge frames) n (f ()) (c.link.pause c.limits.pollIntervalUs s)) :
    Spends (c.link.gauge frames) n (c.pause >>= f) s := by
  have hafter := Spends.after (Link.pause_within h s) hf
  rw [Nat.zero_add] at hafter
  intro t ht
  rw [ht]
  exact hafter _ rfl

/-- A failure after a pause. -/
lemma pause_fail_spends {α : Type} (e : Error) (n : Nat) (s : σ) :
    Spends (c.link.gauge frames) n (c.pause >>= fun _ => Call.fail e : Call σ α) s :=
  pause_bind_spends h (.fail e)

lemma diagnose_spends (s : σ) : Spends (c.link.gauge frames) 10 c.diagnose s := by
  have hlook (manager : UInt8) (t : σ) := (Link.syncManager_spends h c.slave manager t).attempt
  have hlast (t : σ) : Spends (c.link.gauge frames) 5 (do
      let _ ← Call.attempt (SyncManager.read c.link c.slave Mailbox.resultManager)) t :=
    (hlook Mailbox.resultManager t).bind_last fun _ _ => .pure _
  exact (hlook Mailbox.commandManager s).bind fun _ t _ => hlast t

lemma clear_spends (s : σ) :
    Spends (c.link.gauge frames) c.limits.clearAttempts c.clear s := by
  have hsend := Link.send_spends h c.clearFrame c.limits.clearAttempts s
  refine hsend.bind_last fun d t => .ite (fun _ => ?lost) fun _ => .ite (fun _ => ?differ) fun _ =>
    .ite (fun _ => ?cleared) fun _ => ?crowded
  case lost => exact pause_fail_spends h _ _ t
  case differ => exact .fail _
  case cleared => exact .pure ()
  case crowded => exact .fail _

lemma put_spends (command : Bytes) (s : σ) :
    Spends (c.link.gauge frames) c.limits.writeAttempts (c.put command) s := by
  have hsend := Link.send_spends h (c.commandFrame command) c.limits.writeAttempts s
  refine hsend.bind_last fun d t => .ite (fun _ => ?lost) fun _ => .ite (fun _ => ?differ) fun _ =>
    .ite (fun _ => ?put) fun _ => .ite (fun _ => ?refused) fun _ => ?crowded
  case lost => exact pause_fail_spends h _ _ t
  case differ => exact .fail _
  case put => exact .pure ()
  case refused =>
    -- a frame that was sent again may have been refused because the first one arrived
    exact .ite (fun _ => pause_fail_spends h _ _ t) fun _ => .pure ()
  case crowded => exact .fail _

variable {manager : UInt8} {full answered before : Bool} {start n : Nat} {s : σ}

omit h in
lemma now_bind {α : Type} (f : Nat → Call σ α) (s : σ) :
    (c.link.now >>= f) s = f (c.link.clock s) s := rfl

/-- One poll of a wait: a look, and when the time is not over yet, a pause and the rest. -/
lemma poll_step {k : Nat}
    (hrest : ∀ t answered', c.link.clock s ≤ c.link.clock t →
      c.link.clock t < start + c.limits.timeoutUs →
      Spends (c.link.gauge frames) k (c.poll manager full start n answered')
        (c.link.pause c.limits.pollIntervalUs t)) :
    Spends (c.link.gauge frames) (5 + k) (c.poll manager full start (n + 1) answered) s := by
  have hlook : Spends (c.link.gauge frames) 5 (Call.attempt (c.link.readMemory .station
      c.slave.station (SyncManager.statusAddress manager) 1)) s :=
    (Link.insist_spends h _ _ s).attempt
  refine hlook.bind fun status t ht => .ite (fun _ => ?reached) fun _ => .congr (now_bind _ t) ?_
  case reached => exact .pure ()
  refine .ite (fun _ => ?late) fun htime => ?again
  case late => exact .fail _
  case again => exact pause_bind_spends h (hrest t _ ht.clock (by omega))

/-- A wait polls until the clock has gone on by the longest wait, and `n` more pauses are
enough for that. -/
theorem poll_spends
    (htime : start + c.limits.timeoutUs ≤ c.link.clock s + n * c.limits.pollIntervalUs) :
    Spends (c.link.gauge frames) (5 * (n + 1)) (c.poll manager full start (n + 1) answered) s := by
  induction n generalizing answered s with
  | zero =>
    -- the time is over at the first look
    refine poll_step h (k := 0) fun t _ hst ht => ?_
    omega
  | succ n ih =>
    refine (poll_step h fun t _ hst _ => ih ?_).mono (by omega)
    have hpause := h.pause_clock t
    rw [Nat.succ_mul] at htime
    omega

lemma await_spends (hpaused : 0 < c.limits.pollIntervalUs) (s : σ) :
    Spends (c.link.gauge frames) (5 * c.limits.polls) (c.await manager full) s := by
  have hawait : c.await manager full s =
      c.poll manager full (c.link.clock s) (c.limits.pollLimit (c.link.settling s)) false s := rfl
  rw [MailboxLimits.pollLimit_eq hpaused] at hawait
  have htime := MailboxLimits.timeoutUs_le hpaused
  exact .congr hawait (poll_spends h (Nat.add_le_add_left htime _))

/-- One poll for the acknowledgement of a request. -/
lemma pollRepeat_step {k : Nat}
    (hrest : ∀ t, c.link.clock s ≤ c.link.clock t →
      c.link.clock t < start + c.limits.timeoutUs →
      Spends (c.link.gauge frames) k (c.pollRepeat before start n)
        (c.link.pause c.limits.pollIntervalUs t)) :
    Spends (c.link.gauge frames) (5 + k) (c.pollRepeat before start (n + 1)) s := by
  have hlook := Link.syncManager_spends h c.slave Mailbox.resultManager s
  refine hlook.bind fun sm t ht => .ite (fun _ => ?acknowledged) fun _ =>
    .ite (fun _ => ?changed) fun _ => .congr (now_bind _ t) ?_
  case acknowledged => exact .ite (fun _ => .pure ()) fun _ => .fail _
  case changed => exact .fail _
  refine .ite (fun _ => ?late) fun htime => ?again
  case late => exact .fail _
  case again => exact pause_bind_spends h (hrest t ht.clock (by omega))

theorem pollRepeat_spends
    (htime : start + c.limits.timeoutUs ≤ c.link.clock s + n * c.limits.pollIntervalUs) :
    Spends (c.link.gauge frames) (5 * (n + 1)) (c.pollRepeat before start (n + 1)) s := by
  induction n generalizing s with
  | zero =>
    refine pollRepeat_step h (k := 0) fun t hst ht => ?_
    omega
  | succ n ih =>
    refine (pollRepeat_step h fun t hst _ => ih ?_).mono (by omega)
    have hpause := h.pause_clock t
    rw [Nat.succ_mul] at htime
    omega

variable (hpaused : 0 < c.limits.pollIntervalUs)

include hpaused

lemma repeatRequest_spends (s : σ) :
    Spends (c.link.gauge frames) c.limits.repeatFrames c.repeatRequest s := by
  have hlook := Link.syncManager_spends h c.slave Mailbox.resultManager s
  have hwait (sm : SyncManager) (u : σ) :
      Spends (c.link.gauge frames) (5 * c.limits.polls) (do
        let start ← c.link.now
        c.pollRepeat sm.repeatRequest start (← c.pollLimit)) u := by
    have hpoll : (do
        let start ← c.link.now
        c.pollRepeat sm.repeatRequest start (← c.pollLimit)) u =
        c.pollRepeat sm.repeatRequest (c.link.clock u)
          (c.limits.pollLimit (c.link.settling u)) u := rfl
    rw [MailboxLimits.pollLimit_eq hpaused] at hpoll
    have htime := MailboxLimits.timeoutUs_le hpaused
    exact .congr hpoll (pollRepeat_spends h (Nat.add_le_add_left htime _))
  have hframes : c.limits.repeatFrames = 5 + (5 + 5 * c.limits.polls) := by
    rw [MailboxLimits.repeatFrames]
    omega
  rw [hframes]
  refine hlook.bind fun sm t _ => .ite (fun _ => ?underway) fun _ => ?asked
  case underway => exact .fail _
  case asked =>
    have hwrite := Link.writeActivate_spends h c.slave Mailbox.resultManager sm.toggleRequest t
    exact hwrite.bind fun _ u _ => hwait sm u

lemma countedRepeat_spends (s : MailboxState × σ) :
    Spends (c.link.gauge frames).beside c.limits.repeatFrames c.countedRepeat s := by
  have hrequest := (repeatRequest_spends h hpaused s.2).second (s := s).attempt
  refine hrequest.bind_last fun result t => ?_
  exact (Spends.first (by simp)).bind_free fun _ _ _ => .ofExcept _

/-- Each try sends its frame and perhaps asks for the result once more. -/
theorem fetchFrom_spends (length tries : Nat) (frame : List Telegram) (dropped : Nat)
    (s : MailboxState × σ) :
    Spends (c.link.gauge frames).beside
      (tries * (c.limits.maxDropped + c.limits.repeatFrames) + 10)
      (c.fetchFrom length tries frame dropped) s := by
  have hgives (e : Error) (t : MailboxState × σ) :
      Spends (c.link.gauge frames).beside 10
        (Call.within .second c.diagnose >>= fun _ => Call.fail e : Call _ Bytes) t :=
    (diagnose_spends h t.2).second.bind_last fun _ _ => .fail e
  induction tries generalizing frame dropped s with
  | zero =>
    rw [Nat.zero_mul, Nat.zero_add]
    exact hgives _ s
  | succ tries ih =>
    have hsend := (Link.send_spends h frame c.limits.maxDropped s.2).second (s := s)
    rw [Nat.succ_mul, Nat.add_comm (tries * _), Nat.add_assoc, Nat.add_assoc]
    refine hsend.bind fun d t _ => .ite (fun _ => ?differ) fun _ => .ite (fun _ => ?refused)
      fun _ => .ite (fun _ => ?brought) fun _ => ?crowded
    case differ => exact .fail _
    case refused =>
      refine .ite (fun _ => .fail _) fun _ => ?_
      exact (countedRepeat_spends h hpaused t).bind fun _ u _ => ih _ _ u
    case brought => exact .pure _
    case crowded => exact (hgives _ t).mono (by omega)

omit h hpaused in
lemma nextCommand_spends (build : UInt8 → Except Error MailboxCommand) (g : Gauge σ)
    (s : MailboxState × σ) : Spends g.beside 0 (c.nextCommand build) s := by
  have hstate : Spends g 0 c.requireMailbox s.2 := .ite (fun _ => .pure ()) fun _ => .fail _
  refine (hstate.second (s := s)).bind_free fun _ t _ => ?_
  refine (Spends.first (by simp)).bind_free fun state u _ => ?_
  refine (Spends.ofExcept _).bind_free fun command v _ => ?_
  exact (Spends.first (by simp)).bind_free fun _ _ _ => .pure _

lemma readHeld_spends (address : UInt16) (length : Nat) (s : MailboxState × σ) :
    Spends (c.link.gauge frames).beside c.limits.readFrames (c.readHeld address length) s := by
  have hask (command : Bytes) (t : σ) : Spends (c.link.gauge frames)
      (c.limits.clearAttempts + (c.limits.writeAttempts + 5 * c.limits.polls))
      (do
        c.clear
        c.put command
        c.await Mailbox.resultManager true) t :=
    (clear_spends h t).bind fun _ u _ =>
      (put_spends h command u).bind fun _ v _ => await_spends h hpaused v
  have hframes : c.limits.readFrames =
      c.limits.clearAttempts + (c.limits.writeAttempts + 5 * c.limits.polls) +
        (c.limits.readTries * (c.limits.maxDropped + c.limits.repeatFrames) + 10) := by
    rw [MailboxLimits.readFrames]
    omega
  rw [hframes]
  refine (nextCommand_spends _ _ s).bind_free fun command t _ => ?_
  refine ((hask command.encode t.2).second (s := t)).bind fun _ u _ => ?_
  refine (fetchFrom_spends h hpaused _ _ _ _ u).bind_last fun result v => ?_
  exact .ite (fun _ => .pure _) fun _ => .fail _

lemma writeHeld_spends (address : UInt16) (data : Bytes) (s : MailboxState × σ) :
    Spends (c.link.gauge frames).beside c.limits.writeFrames (c.writeHeld address data) s := by
  refine (nextCommand_spends _ _ s).bind_free fun command t _ => .second ?_
  refine (put_spends h _ t.2).attempt.bind fun result u _ => ?_
  cases result with
  | ok _ => exact (await_spends h hpaused u).mono (Nat.le_max_right _ _)
  | error e =>
    have hlooks := (diagnose_spends h u).mono (Nat.le_max_left 10 (5 * c.limits.polls))
    exact hlooks.bind_last fun _ _ => .fail e

end Channel

end Frames

/-- A read and a write come to an end whatever the ring does, and they send no more frames than
their limits say. -/
theorem Channel.patience {σ : Type} {link : Link σ} {frames : σ → Nat} (limits : MailboxLimits)
    (h : link.Metered frames limits.pollIntervalUs) (hpaused : 0 < limits.pollIntervalUs)
    (slave : Slave) (address : UInt16) (m : Mailbox) (s : σ) :
    let c : Channel σ := ⟨link, slave, limits⟩
    (∀ length, (c.read address length (m, s)).1 ≠ .error .stalled ∧
      frames (c.read address length (m, s)).2.2 ≤ frames s + limits.readFrames) ∧
    ∀ data, (c.write address data (m, s)).1 ≠ .error .stalled ∧
      frames (c.write address data (m, s)).2.2 ≤ frames s + limits.writeFrames := by
  intro c
  have hsame : ∀ f : MailboxState → MailboxState, ∀ t : MailboxState × σ,
      (link.gauge frames).beside.Within 0 t (f t.1, t.2) :=
    fun _ _ => ⟨Nat.le_refl _, Nat.le_refl _⟩
  constructor
  · intro length
    have hheld := readHeld_spends (c := c) h hpaused address length (m.value, s)
    obtain ⟨hends, hwithin⟩ := (Spends.locked (hheld.onFailure (hsame _))).result rfl
    exact ⟨hends, hwithin.frames⟩
  · intro data
    have hheld := writeHeld_spends (c := c) h hpaused address data (m.value, s)
    obtain ⟨hends, hwithin⟩ := (Spends.locked (hheld.onFailure (hsame _))).result rfl
    exact ⟨hends, hwithin.frames⟩

namespace Bench

lemma record_same (returned : Bool) (ts : List Telegram) (b : Bench) :
    (b.record returned ts).frames = b.frames ∧ (b.record returned ts).ring = b.ring := by
  rw [record]
  split <;> exact ⟨rfl, rfl⟩

/-- No frame moves the clock of the ring. -/
lemma pass_clock (ts : List Telegram) (edit : Option Edit) (r : Ring) :
    (pass ts edit r).2.clock = r.clock := by
  cases edit with
  | none => rfl
  | some e =>
    rw [pass]
    split
    · rfl
    · split <;> rfl

/-- The tap counts every frame, whatever it does to it. -/
lemma exchange_spec (ts : List Telegram) (b : Bench) :
    (exchange ts b).2.frames = b.frames + 1 ∧ (exchange ts b).2.ring.clock = b.ring.clock := by
  have hclock := pass_clock ts (b.edits.find? fun e => e.frame == b.frames) b.ring
  rw [exchange]
  revert hclock
  rcases pass ts (b.edits.find? fun e => e.frame == b.frames) b.ring with ⟨us | us | _, ring⟩
  · intro hclock
    obtain ⟨hframes, hring⟩ := record_same true us { b with ring := ring, frames := b.frames + 1 }
    exact ⟨hframes, hring ▸ hclock⟩
  · intro hclock
    obtain ⟨hframes, hring⟩ := record_same false us { b with ring := ring, frames := b.frames + 1 }
    exact ⟨hframes, hring ▸ hclock⟩
  · exact fun hclock => ⟨rfl, hclock⟩

/-- The clock of a bench moves in pauses alone, and by just as much. -/
lemma metered (interval : Nat) : link.Metered Bench.frames interval where
  exchange_frames ts b := (exchange_spec ts b).1
  pause_frames _ _ := rfl
  exchange_clock ts b := (exchange_spec ts b).2.ge
  pause_clock _ := Nat.le_refl _

end Bench

/-- A board that holds its command back for ever. -/
theorem Channel.patience_stuck :
    let c : Channel Bench := ⟨Bench.link, ⟨1, 0, 0, 0, 0, .op⟩, {}⟩
    let b : Bench := { ring := { board := { station := 1, position := 0, holdCommands := true } } }
    (c.read 0 4 (Mailbox.fresh, b)).1 ≠ .error .stalled ∧
      (c.read 0 4 (Mailbox.fresh, b)).2.2.frames ≤ 55290 :=
  (Channel.patience {} (Bench.metered _) (by decide) _ _ _ _).1 4

end MotorBoard
