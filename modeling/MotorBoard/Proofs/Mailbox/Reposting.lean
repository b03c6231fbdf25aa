/-
# A lost result is posted again and not computed again

A board takes a result for consumed as soon as it has been read, so when the frame that brought
it is lost, the board is asked for it once more.  It posts the copy that it has kept, and it
does not execute the command a second time.

While nothing but the frames that fetch a result is hit by faults, the stages before the fetch
go well: the mailbox is cleared, the command is executed once, and its result is found.  From
then on only frames are sent on which no board executes a command, however many they are and
whatever becomes of them.  The main results are

* `Channel.request_spared`: up to the fetch exactly one command is executed;
* `Channel.fetchFrom_executes_none`: a fetch executes none, under any faults;
* `Channel.read_executes_once`: a read executes one command, whether it ends well or not, and
  its counter grows by the requests for the result.
-/
import MotorBoard.Proofs.Mailbox.Counting
import MotorBoard.Proofs.Mailbox.Undisturbed

namespace MotorBoard

open Call Board

/-! Frames on which no command is executed. -/

namespace Board

/-- However a call on the board ends, the board has executed no more commands. -/
abbrev ExecutesNone {α : Type} (m : Call Board α) : Prop :=
  ∀ n, Keeps (fun b => b.commands = n) Anyhow m

lemma post_executes_none (result : Bytes) : ExecutesNone (post result) := by
  intro n
  refine Triple.get_bind fun b hb => ?_
  cases b.memory.store? Mailbox.resultAddress.toNat result with
  | none => exact .stop _ fun _ h _ => h ▸ hb
  | some m => exact .set _ fun _ _ => hb

lemma setRequest_executes_none (request : Bool) : ExecutesNone (setRequest request) := by
  intro n
  refine Triple.get_bind fun b hb => .ite (fun _ => ?same) fun _ => ?turned
  case same => exact .pure _ fun _ h => h ▸ hb
  case turned =>
    refine Triple.bind (Q := fun _ (b : Board) => b.commands = n) ?kept fun _ =>
      .ite (fun _ => ?posted) fun _ => ?waiting
    case kept => exact .set _ fun _ _ => hb
    case posted => exact (post_executes_none _ n).bind fun _ => Keeps.modify fun b hb => hb
    case waiting => exact .pure _ fun _ => id

/-- A frame on which no board executes a command, on its way or sent again. -/
def Harmless (frame : List Telegram) : Prop := ∀ ts, SameFrame frame ts → ExecutesNone (actAll ts)

variable {station : UInt16}

/-- A frame that a board which answers does not execute is harmless. -/
lemma harmless_of_answers {frame : List Telegram} (hn : Names station frame)
    (h : ∀ ts b, SameFrame frame ts → b.Answers station →
      Ends (fun _ b' => b'.commands = b.commands) (fun _ b' => b'.commands = b.commands)
        (actAll ts b)) : Harmless frame := by
  rintro ts hsame n b rfl
  by_cases ha : b.Answers station
  · exact (h ts b hsame ha).imp (fun _ _ => id) fun _ _ hb _ => hb
  · rw [actAll_silent (hn.same hsame) ha]
    exact rfl

lemma harmless_registers {address : UInt16} {n : Nat} (hin : inRegisters address.toNat = true)
    (hn : address.toNat - SyncManager.base.toNat + n ≤ 2 * SyncManager.size) :
    Harmless [.read .station station address n] := by
  have hnames : Names station [.read .station station address n] := by simp [Names, Telegram.read]
  refine harmless_of_answers hnames fun ts b hsame ha => ?_
  rw [actAll_registers hsame ha hin hn]
  exact rfl

lemma harmless_activate (byte : UInt8) :
    Harmless [.write .station station (SyncManager.activateAddress Mailbox.resultManager)
      [byte]] := by
  have hnames : Names station [.write .station station
      (SyncManager.activateAddress Mailbox.resultManager) [byte]] := by
    simp [Names, Telegram.write]
  refine harmless_of_answers hnames fun ts b hsame ha => ?_
  rw [actAll_activate hsame ha]
  exact (((setRequest_executes_none _ b.commands).bind fun _ => Keeps.pure _) b rfl).imp
    (fun _ _ => id) fun _ _ hb => hb trivial

lemma harmless_takes {n : Nat} {frame : List Telegram}
    (h : TakesResult station n frame) : Harmless frame := by
  refine harmless_of_answers h.names ?_
  intro ts b hsame ha
  by_cases hfull : b.resultFull = true
  · obtain ⟨us, hact, -, -⟩ := actAll_takes h hsame ha hfull
    rw [hact]
    exact rfl
  · rw [actAll_takes_empty h hsame ha (Bool.eq_false_iff.2 hfull)]
    exact rfl

end Board

variable {σ : Type} {board : σ → Board}

/-- However often a harmless frame is sent, no command is executed. -/
lemma Link.Carries.send_executes_none {link : Link σ} (h : link.Carries board)
    {frame ts : List Telegram} (hf : Harmless frame) (hsame : SameFrame frame ts) (k n : Nat) :
    Triple (fun s => (board s).commands = n) (link.send ts k)
      (fun d s => SameFrame frame d.telegrams ∧ (board s).commands = n)
      fun _ s => (board s).commands = n := by
  have hsend := link.send_triple
    (I := fun _ us s => SameFrame frame us ∧ (board s).commands = n)
    (A := fun _ us s => SameFrame frame us ∧ (board s).commands = n)
    (D := fun _ s => (board s).commands = n) (fun _ us s hs => ?_) k 0 ts
  · refine (hsend.pre fun s hs => ⟨hsame, hs⟩).post fun d s hd => ?_
    cases hd with
    | returned _ ha => exact ha
    | lost hi => exact hi
  · refine h.exchange_ends (R := fun us b => SameFrame frame us ∧ b.commands = n)
      (L := fun us b => SameFrame frame (us.map Telegram.rewound) ∧ b.commands = n)
      (D := fun b => b.commands = n)
      (Board.exchange_ends (fun fs _ _ => ⟨hs.1.map_rewound, hs.2⟩) fun fs _ => ?_)
    have hact := (hf us hs.1 n).and (actAll_same us)
    refine (hact ((board s).reached fs) ⟨hs.2, trivial⟩).imp ?_ fun _ _ he => he.1 trivial
    rintro vs b ⟨hb, hvs⟩
    have hvs := hs.1.trans hvs
    exact ⟨⟨hvs, hb⟩, fun _ => ⟨⟨hvs.map_rewound, hb⟩, fun _ w => ⟨hvs.map_withCounter w, hb⟩⟩⟩

namespace Channel

variable {c : Channel σ} (h : c.link.Carries board)

/-- However a call ends, no command was executed in it. -/
abbrev ExecutesNone {α τ : Type} (board : τ → Board) (m : Call τ α) : Prop :=
  ∀ n, Call.Keeps (fun s => (board s).commands = n) Anyhow m

include h

/-- However often harmless frames are sent, no command is executed. -/
lemma upholds_commands (n : Nat) :
    c.link.Upholds Harmless Anyhow fun s => (board s).commands = n where
  send ts k hts := (h.send_executes_none hts (.refl _) k n).mono (fun _ => id)
    (fun _ _ hd => hd.2) fun _ _ hs _ => hs
  pause us s hs := by rwa [h.pause]
  failed _ := trivial

omit h in
/-- Frames that ask for registers are harmless. -/
lemma Inquiry.harmless {ts : List Telegram} (hts : c.Inquiry ts) : Harmless ts := by
  cases hts with
  | look hm => obtain rfl | rfl := hm <;> exact harmless_registers (by decide) (by decide)
  | poll hm => obtain rfl | rfl := hm <;> exact harmless_registers (by decide) (by decide)
  | activate sm => exact harmless_activate sm.activate

lemma countedRepeat_executes_none :
    ExecutesNone (fun s : MailboxState × σ => board s.2) c.countedRepeat := by
  intro n
  have hrequest : Call.Keeps (fun s => (board s).commands = n) Anyhow c.repeatRequest :=
    (repeatRequest_works (Inquiry.look (c := c) isManager_result).harmless
      fun sm => (Inquiry.activate (c := c) sm).harmless).keeps (upholds_commands h n)
  exact (hrequest.second.attempt fun _ => trivial).bind fun result =>
    Call.Keeps.bind (.first (P := fun s => (board s).commands = n) _) fun _ => .ofExcept result

/-- A fetch executes no command, whatever faults hit its frames. -/
theorem fetchFrom_executes_none {length : Nat} (hn : length < Mailbox.size) (tries : Nat)
    {frame : List Telegram} (dropped : Nat) (hsame : SameFrame (c.resultFrame length) frame) :
    ExecutesNone (fun s : MailboxState × σ => board s.2)
      (c.fetchFrom length tries frame dropped) := by
  intro n
  have hdiagnose : Call.Keeps (fun s => (board s).commands = n) Anyhow c.diagnose :=
    (diagnose_works (Inquiry.look (c := c) isManager_command).harmless
      (Inquiry.look (c := c) isManager_result).harmless).keeps (upholds_commands h n)
  induction tries generalizing frame dropped with
  | zero => exact hdiagnose.second.bind fun _ => .fail _
  | succ tries ih =>
    have hsend := h.send_executes_none (harmless_takes (c.resultFrame_takes hn)) hsame
      c.limits.maxDropped n
    refine (hsend.second.stop_mono fun _ _ he _ => he).bind fun d => Triple.lift fun hd => ?_
    refine Call.Keeps.ite ?differ (.ite ?refused (.ite ?brought ?crowded))
    case differ => exact .fail _
    case refused =>
      exact .ite (.fail _) ((countedRepeat_executes_none h n).bind fun _ => ih _ hd)
    case brought => exact .pure _
    case crowded => exact hdiagnose.second.bind fun _ => .fail _

end Channel

/-! The stages before the fetch. -/

/-- All faults that are still to come hit frames that read a result. -/
def Board.OnResults (b : Board) : Prop := ∀ f ∈ b.faults, f.1 = .resultRead

namespace Board.OnResults

variable {b b' : Board}

/-- No other frame is hit. -/
lemma spares (h : b.OnResults) {ts : List Telegram}
    (hts : Trigger.resultRead.matchesFrame ts = false) : b.Spares ts := by
  have hnext : ∀ fs : List (Trigger × Fault), (∀ f ∈ fs, f.1 = .resultRead) →
      nextFault ts fs = (none, fs) := by
    intro fs hfs
    induction fs with
    | nil => rfl
    | cons f rest ih =>
      obtain ⟨hf, hrest⟩ := List.forall_mem_cons.1 hfs
      rw [nextFault, hf, if_neg (by simp [hts]), ih hrest]
      exact Prod.ext rfl (congrArg (· :: rest) (Prod.ext hf.symm rfl))
  exact hnext _ h

lemma follows (h : b.OnResults) (hf : b.Follows b') : b'.OnResults :=
  fun f hmem => h f (hf.faults.subset hmem)

end Board.OnResults

namespace Channel

variable {c : Channel σ} {b : Board} (h : c.link.Carries board)

section Request

variable (hl : Patient c.limits) (ha : b.Answers c.slave.station) (hf : b.OnResults)

include h ha hf

include hl in
/-- Clearing takes one frame, and it leaves no result. -/
lemma clear_spared :
    Triple (fun s => board s = b) c.clear
      (fun _ s => b.Follows (board s) ∧ (board s).commands = b.commands ∧
        (board s).commandFull = b.commandFull)
      fun _ _ => False := by
  have hspares : b.Spares c.clearFrame := hf.spares (by
    simp [Trigger.matchesFrame, clearFrame, Telegram.read, Bytes.zeros])
  have hzero : Telegram.AllCount 0 c.clearFrame := by
    simp [Telegram.AllCount, clearFrame, Telegram.read]
  obtain ⟨us, w, hact, hw, hcount⟩ : ∃ us w,
      actAll c.clearFrame (b.reached b.faults) =
        (.ok us, { b.reached b.faults with resultFull := false }) ∧
      (w = 0 ∨ w = 1) ∧ Telegram.AllCount w us := by
    by_cases hfull : b.resultFull = true
    · obtain ⟨us, hact, -, hcount⟩ :=
        actAll_takes (b := b.reached b.faults) c.clearFrame_takes (.refl _) ha hfull
      exact ⟨us, 1, hact, .inr rfl, hcount 0 hzero⟩
    · have hempty := Bool.eq_false_iff.2 hfull
      refine ⟨_, 0, (actAll_takes_empty (b := b.reached b.faults) c.clearFrame_takes (.refl _) ha
        hempty).trans ?_, .inl rfl, hzero⟩
      rw [← hempty]
      rfl
  have hlen : us.length = if True then 2 else 1 :=
    ((actAll_same c.clearFrame).result trivial hact).length_eq.symm
  obtain ⟨h₀, h₁⟩ := hcount.counters hlen true 1
  refine (h.send_spared hspares hact hl.clear).bind fun d => Triple.lift ?_
  rintro rfl
  rw [if_neg (by simp), if_neg (not_not.2 (h₀.trans (h₁ trivial).symm)), if_pos (by rwa [h₀])]
  refine .pure _ ?_
  rintro s hs
  rw [hs]
  refine ⟨?_, rfl, rfl⟩
  exact ((Follows.refl b).reached (.refl _)).trans (Steady.follows { Steady.refl _ with })

lemma readStatus_spared {manager : UInt8} (hm : IsManager manager) :
    Triple (fun s => board s = b)
      (c.link.readMemory .station c.slave.station (SyncManager.statusAddress manager) 1)
      (fun raw s => SyncManager.isFull (raw.byteAt 0) = b.mailboxFull manager ∧
        board s = b.reached b.faults) fun _ _ => False := by
  have hin : inRegisters (SyncManager.statusAddress manager).toNat = true := by
    obtain rfl | rfl := hm <;> decide
  have hn : (SyncManager.statusAddress manager).toNat - SyncManager.base.toNat + 1 ≤
      2 * SyncManager.size := by
    obtain rfl | rfl := hm <;> decide
  have hspares : b.Spares
      [.read .station c.slave.station (SyncManager.statusAddress manager) 1] := hf.spares (by
    simp [Trigger.matchesFrame, Telegram.read, Bytes.zeros])
  have hact := actAll_registers (b := b.reached b.faults) (.refl [.read .station c.slave.station
    (SyncManager.statusAddress manager) 1]) ha hin hn
  have hsend := h.send_spared hspares hact (n := Link.plainAttempts) (by decide)
  refine hsend.bind fun d => Triple.lift ?_
  rintro rfl
  rw [if_neg (by simp), if_pos (by rfl)]
  refine .pure _ fun s hs => ⟨?_, hs⟩
  have hraw : _ = b.mailboxFull manager := registers_status hm (b.reached b.faults)
  simpa only [Delivery.data, List.map_cons, List.head?_cons, Option.map_some,
    Option.getD_some] using hraw

/-- A wait for what is so already takes one frame. -/
lemma await_spared {manager : UInt8} (hm : IsManager manager) {full : Bool}
    (hfull : b.mailboxFull manager = full) :
    Triple (fun s => board s = b) (c.await manager full)
      (fun _ s => board s = b.reached b.faults) fun _ _ => False := by
  refine now_triple.bind fun start => ?_
  refine Triple.bind (Q := fun polls s => polls ≠ 0 ∧ board s = b)
    (fun s hs => ⟨pollLimit_pos _ _, hs⟩) fun polls => Triple.lift fun hpolls => ?_
  obtain ⟨polls, rfl⟩ := Nat.exists_eq_succ_of_ne_zero hpolls
  refine (readStatus_spared h ha hf hm).attempt.bind fun status => ?_
  cases status with
  | error e => exact fun s hs => hs.elim
  | ok raw =>
    refine Triple.lift fun hraw => .ite (fun _ => ?there) fun hne => ?elsewhere
    case there => exact .pure _ fun _ => id
    case elsewhere =>
      refine absurd ?_ hne
      rw [beq_iff_eq]
      exact hraw.trans hfull

include hl in
/-- The command of a read is executed as soon as it is put. -/
lemma put_read_spared (he : b.commandFull = false) (hold : b.holdCommands = false)
    {address : UInt16} {length : Nat} (hlength : 1 ≤ length ∧ length ≤ Mailbox.maxReadLength)
    (hin : address.toNat + length ≤ 0x10000) (sequence : UInt8) :
    Triple (fun s => board s = b)
      (c.put (CommandHeader.encode ⟨address, length, sequence &&& 7, .read⟩))
      (fun _ s => b.Follows (board s) ∧ (board s).commands = b.commands + 1 ∧
        (board s).resultFull = true) fun _ _ => False := by
  have hlen : (CommandHeader.encode ⟨address, length, sequence &&& 7, .read⟩).length =
      Mailbox.headerSize := CommandHeader.length_encode _
  have hsize : (CommandHeader.encode ⟨address, length, sequence &&& 7, .read⟩).length ≤
      Mailbox.size := hlen.trans_le (by decide)
  have haccept : ∀ b₁ : Board, b₁.holdCommands = false →
      b₁.memory.range Mailbox.commandAddress.toNat Mailbox.headerSize =
        CommandHeader.encode ⟨address, length, sequence &&& 7, .read⟩ →
      Ends (fun _ b' => b'.commands = b₁.commands + 1 ∧ b'.resultFull = true) (fun _ _ => False)
        (accept b₁) := by
    intro b₁ hold hm
    obtain ⟨n, -, hx⟩ :=
      accept_read_eq hold (CommandHeader.fits_of_le_limit hlength) rfl hlength.2 hin hm
    rw [hx]
    exact ⟨rfl, rfl⟩
  refine put_spared h hl ha he (hf.spares ((c.commandFrame_puts hsize).matchesFrame .resultRead))
    hsize (K := fun b' => b'.commands = b.commands + 1 ∧ b'.resultFull = true) fun m hm =>
      haccept { b.reached b.faults with memory := m } hold ?_
  rwa [hlen] at hm

include hl in
/-- Up to the fetch a read executes its command once. -/
theorem request_spared (he : b.commandFull = false) (hold : b.holdCommands = false)
    {address : UInt16} {length : Nat} (hlength : 1 ≤ length ∧ length ≤ Mailbox.maxReadLength)
    (hin : address.toNat + length ≤ 0x10000) (sequence : UInt8) :
    Triple (fun s => board s = b)
      (do
        c.clear
        c.put (CommandHeader.encode ⟨address, length, sequence &&& 7, .read⟩)
        c.await Mailbox.resultManager true)
      (fun _ s => (board s).commands = b.commands + 1) fun _ _ => False := by
  refine (clear_spared h hl ha hf).bind fun _ => Triple.of_eq fun s₁ hs₁ => ?_
  obtain ⟨hfollows₁, hcommands₁, hfull₁⟩ := hs₁
  have hput := put_read_spared h hl (hfollows₁.answers_iff.2 ha) (hf.follows hfollows₁)
    (hfull₁.trans he) (hfollows₁.holdCommands.trans hold) hlength hin sequence
  refine (hput.pre fun _ => congrArg board).bind fun _ => Triple.of_eq fun s₂ hs₂ => ?_
  obtain ⟨hfollows₂, hcommands₂, hfull₂⟩ := hs₂
  have hfollows := hfollows₁.trans hfollows₂
  refine (await_spared h (hfollows.answers_iff.2 ha) (hf.follows hfollows) isManager_result
    hfull₂).mono (fun _ => congrArg board) ?_ fun _ _ => id
  rintro _ s' hs'
  rw [hs', ← hcommands₁]
  exact hcommands₂

end Request

section Read

variable (hm : c.slave.state.allowsMailbox = true) {address : UInt16} {length : Nat}
  (hlength : 1 ≤ length ∧ length ≤ Mailbox.maxReadLength) (hin : address.toNat + length ≤ 0x10000)

include h hm hlength hin

/-- However a read ends, its command was executed once. -/
lemma readHeld_executes_once (hl : Patient c.limits) (ha : b.Answers c.slave.station)
    (hf : b.OnResults) (he : b.commandFull = false) (hold : b.holdCommands = false) :
    Triple (fun s : MailboxState × σ => board s.2 = b) (c.readHeld address length)
      (fun _ s => (board s.2).commands = b.commands + 1)
      fun _ s => (board s.2).commands = b.commands + 1 := by
  have hbuilds : ∀ sequence, (MailboxCommand.read address length sequence).isOk := by
    intro sequence
    rw [MailboxCommand.read, CommandHeader.build_eq hlength]
    rfl
  have hnext : Triple (fun s : MailboxState × σ => board s.2 = b) (c.nextCommand _) _ _ :=
    nextCommand_undisturbed hm hbuilds
  refine hnext.unfailing.bind fun command => Triple.lift ?_
  rintro ⟨sequence, hbuild⟩
  obtain ⟨-, rfl⟩ := read_ok hbuild
  have hrequest := request_spared h hl ha hf he hold hlength hin sequence
  refine hrequest.second.unfailing.bind fun _ => ?_
  have hfetch := fetchFrom_executes_none h (Mailbox.length_result_lt hlength.2) c.limits.readTries
    0 (.refl _) (b.commands + 1)
  refine (hfetch.stop_mono fun _ _ hs => hs trivial).bind fun result =>
    .ite (fun _ => .pure _ fun _ hs => hs) fun _ => .fail _ fun _ hs => hs

/-- **A lost result is posted again and not computed again.**  Where only frames that fetch a
result are hit by faults, a read makes the board execute exactly one command, whether it gives
bytes or not, and the board survives.  When the read returns, its counter has grown by the number
of requests for the result that it has sent.

Two things are taken for granted beside the board: the limits of the mailbox are valid, as those
of every mailbox are, and nobody has poisoned its lock, since the call behind a death fails before
it sends anything. -/
theorem read_executes_once {log : σ → FrameLog} (hlog : c.link.Logs log)
    (hl : c.limits.validate = .ok ()) {m m' : Mailbox} {s s' : σ} {r : Except Stop Bytes}
    (hlock : m.lock ≠ .poisoned) (ha : (board s).Answers c.slave.station)
    (he : (board s).commandFull = false) (hold : (board s).holdCommands = false)
    (hf : (board s).OnResults) (hr : c.read address length (m, s) = (r, m', s')) :
    r ≠ .error .died ∧ (board s').commands = (board s).commands + 1 ∧
      (Returned r →
        ∃ n, FrameLog.handshakes c.slave.station (log s') =
            FrameLog.handshakes c.slave.station (log s) + n ∧
          m'.value.counters.retries = m.value.counters.retries + UInt32.ofNat n) := by
  have hheld := Triple.onFailure (f := fun s => (s.1.countReadError, s.2))
    (readHeld_executes_once h hm hlength hin (patient_of_validate hl) ha hf he hold)
    fun _ _ hs => hs
  have hexecuted := Guarded.unpoisoned_triple (P := fun t => board t = board s)
    (Q := fun _ t => (board t).commands = (board s).commands + 1)
    (E := fun _ t => (board t).commands = (board s).commands + 1) hheld (m, s) ⟨hlock, rfl⟩
  have hanswered := read_answered_triple h (board s) address length (m, s) ⟨.refl _, rfl, rfl⟩
  have hcounted := fun hreturned => read_handshakes hlog hr hreturned
  rw [read] at hr hanswered
  rw [hr] at hexecuted hanswered
  refine ⟨?_, ?_, hcounted⟩
  · rintro rfl
    exact Nat.not_lt.2 hin (hanswered.2 rfl)
  · cases r <;> exact hexecuted

end Read

/-- The frame that brings the result is lost, and so is the one that brings it again.  The
command is executed once, and the requests for the result are counted. -/
theorem read_executes_once_lost_twice :
    let c : Channel LoggedRing := ⟨LoggedRing.link, ⟨1, 0, 0, 0, 0, .op⟩, {}⟩
    let b : Board :=
      ({ station := 1, position := 0 } : Board).inject .resultRead .loseResponse 2
    ∃ data m' r', c.read 0x10 2 (Mailbox.fresh, ⟨⟨b, 0⟩, []⟩) = (.ok data, m', r') ∧
      r'.board.commands = 1 ∧
      ∃ n, FrameLog.handshakes 1 r'.log = n ∧ m'.value.counters.retries = UInt32.ofNat n := by
  intro c b
  have hcarries : c.link.Carries LoggedRing.board := LoggedRing.carries
  have hready : c.Ready (LoggedRing.board ⟨⟨b, 0⟩, []⟩) := by
    refine ⟨rfl, ⟨rfl, rfl⟩, ⟨rfl, rfl, rfl, rfl⟩, rfl, ?_, ?_, ?_, ?_, ?_, ?_⟩
    · exact (OnlyLosses.of_none rfl).inject rfl 2
    all_goals decide
  have hl : 1 ≤ 2 ∧ 2 ≤ Mailbox.maxReadLength := by decide
  have hin : (0x10 : UInt16).toNat + 2 ≤ 0x10000 := by decide
  obtain ⟨data, m', r', hr⟩ := read_returns hcarries (m := Mailbox.fresh) (by decide) hready hl hin
  have hf : (LoggedRing.board ⟨⟨b, 0⟩, []⟩).OnResults := by
    intro f hf
    obtain rfl : f = (.resultRead, .loseResponse) := by
      simpa [LoggedRing.board, b, inject] using hf
    rfl
  obtain ⟨-, hcommands, hcounted⟩ := read_executes_once hcarries rfl hl hin
    LoggedRing.logs rfl (by decide) ⟨rfl, rfl⟩ rfl rfl hf hr
  obtain ⟨n, hn, hretries⟩ := hcounted ⟨by simp, by simp⟩
  refine ⟨data, m', r', hr, hcommands, n, ?_, ?_⟩
  · exact hn.trans (Nat.zero_add n)
  · exact hretries.trans (UInt32.zero_add _)

end Channel

end MotorBoard
