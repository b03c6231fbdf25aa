/-
# Boards that nobody can tell apart

A transfer that is split leaves other bytes behind in the mailbox of commands than one that
moves the whole mailbox.  Nobody ever looks at these bytes again: the board reads its command
as soon as it has come in, and the bytes behind it are not part of it.  So two boards are
twins when they are equal up to the memory of the slave, and there from the end of the mailbox
of commands on.

Twins that get frames which ask for the same stay twins, and the frames come back with the
same counters and with the same bytes as far as these were asked for.  Whether such a frame is
split makes no difference.  The main results are

* `Board.accept_read_twins`, `Board.accept_write_twins`: twins execute the same command alike;
* `Board.registers_alike`, `Board.activate_alike`, `Board.takes_alike`, `Board.puts_alike`:
  twins treat the four kinds of frames that the master of a mailbox sends alike;
* `Board.TreatedAlike.exchange`: so they answer them alike, whatever faults are to come.
-/
import MotorBoard.Proofs.Board.Commands
import MotorBoard.Proofs.Board.Frames
import MotorBoard.Proofs.Call.Agreement

namespace MotorBoard

namespace Board

open Call

/-- Two boards that differ at most in the memory of the slave, and there in no byte behind the
mailbox of commands. -/
inductive Twins (b : Board) : Board → Prop
  | mk (m : Memory 0x3000)
    (h : ∀ i, Mailbox.commandAddress.toNat + Mailbox.size ≤ i → m.get i = b.memory.get i) :
    Twins b { b with memory := m }

lemma Twins.refl (b : Board) : Twins b b := .mk b.memory fun _ _ => rfl

lemma Twins.exists_memory {b b' : Board} (h : Twins b b') :
    ∃ memory, b' = { b with memory := memory } := by
  obtain ⟨m, -⟩ := h
  exact ⟨m, rfl⟩

/-! The execution of a command. -/

section Execution

lemma orDie_twins {α : Type} (x : Option α) : Agree Twins Eq (orDie x) (orDie x) := by
  cases x with
  | none => exact .stop _
  | some a => exact .pure rfl

lemma loadBus_twins (start length : Nat) :
    Agree Twins Eq (loadBus start length) (loadBus start length) := by
  refine .get_bind ?_
  rintro b _ ⟨m, hm⟩
  exact orDie_twins _

lemma storeBus_twins (start : Nat) (data : Bytes) :
    Agree Twins Eq (storeBus start data) (storeBus start data) := by
  refine .get_bind ?_
  rintro b _ ⟨m, hm⟩
  exact (orDie_twins _).bind_eq fun bus => .set (.mk m hm)

lemma transfer_twins (cmd : SpiCommand) : Agree Twins Eq (transfer cmd) (transfer cmd) := by
  refine .get_bind ?_
  rintro b _ ⟨m, hm⟩
  rcases cmd.operation? with _ | _ | _ | _
  · exact .pure rfl
  · refine .ite .rfl (fun _ => ?_) fun _ => .stop _
    exact storeBus_twins _ _
  · refine .ite .rfl (fun _ => (loadBus_twins _ _).bind_eq fun data => ?_) fun _ => .stop _
    refine .modify ?_
    rintro b _ ⟨m, hm⟩
    exact .mk m hm
  · refine .ite .rfl (fun _ => (storeBus_twins _ _).bind_eq fun _ => ?_) fun _ => .pure rfl
    refine .modify ?_
    rintro b _ ⟨m, hm⟩
    exact .mk m hm

lemma runSpi_twins (cmd : SpiCommand) : Agree Twins Eq (runSpi cmd) (runSpi cmd) := by
  refine (transfer_twins cmd).bind_eq fun _ => .get_bind ?_
  rintro b _ ⟨m, hm⟩
  refine (storeBus_twins _ _).bind_eq fun _ => .modify ?_
  rintro b _ ⟨m, hm⟩
  exact .mk m hm

lemma writeBus_twins (address : UInt16) (data : Bytes) :
    Agree Twins Eq (writeBus address data) (writeBus address data) := by
  refine (storeBus_twins _ _).bind_eq fun _ => .ite .rfl (fun _ => ?control) fun _ => ?plain
  case plain => exact .pure rfl
  case control =>
    refine (loadBus_twins _ _).bind_eq fun raw => ?_
    cases SpiCommand.decode raw with
    | error e => exact .pure rfl
    | ok cmd => exact .ite .rfl (fun _ => runSpi_twins cmd) fun _ => .pure rfl

lemma readBus_twins (address : UInt16) (length : Nat) :
    Agree Twins Eq (readBus address length) (readBus address length) := by
  refine (loadBus_twins _ _).bind_eq fun data => .get_bind ?_
  rintro b _ ⟨m, hm⟩
  refine .ite .rfl (fun _ => ?busy) fun _ => ?plain
  case busy => exact (Agree.set (.mk m hm)).bind_eq fun _ => .pure rfl
  case plain => exact .pure rfl

/-- A result goes into its own mailbox, behind the bytes in which twins may differ. -/
lemma post_twins (result : Bytes) : Agree Twins Eq (post result) (post result) := by
  rintro b _ ⟨m, hm⟩
  by_cases hn : Mailbox.resultAddress.toNat + result.length ≤ 0x3000
  · rw [post_eq hn, post_eq hn]
    refine .ok rfl (.mk _ fun i hi => ?_)
    rw [Memory.get_write _ _ _ _ hn, Memory.get_write _ _ _ _ hn, hm i hi]
  · simp only [post, bind_apply, get_apply, Memory.store?, if_neg hn, orDie, stop_apply]
    exact .stop (.mk m hm)

lemma answer_twins (result : Bytes) : Agree Twins Eq (answer result) (answer result) := by
  refine .get_bind ?_
  rintro b _ ⟨m, hm⟩
  exact (Agree.set (.mk m hm)).bind_eq fun _ => post_twins _

lemma setRequest_twins (request : Bool) :
    Agree Twins Eq (setRequest request) (setRequest request) := by
  refine .get_bind ?_
  rintro b _ ⟨m, hm⟩
  refine .ite .rfl (fun _ => ?same) fun _ => ?turned
  case same => exact .pure rfl
  case turned =>
    refine (Agree.set (.mk m hm)).bind_eq fun _ => .ite .rfl (fun _ => ?posted) fun _ => ?waiting
    case waiting => exact .pure rfl
    case posted =>
      refine (post_twins _).bind_eq fun _ => .modify ?_
      rintro b _ ⟨m, hm⟩
      exact .mk m hm

/-- A command stands at the start of its mailbox. -/
def HoldsCommand (command : Bytes) (b : Board) : Prop :=
  b.memory.range Mailbox.commandAddress.toNat command.length = command

/-- A command that twins execute alike once it stands in both mailboxes. -/
def AcceptedAlike (command : Bytes) : Prop :=
  ∀ b b', Twins b b' → HoldsCommand command b → HoldsCommand command b' →
    SameEnd Twins Eq (accept b) (accept b')

/-- Twins that find the same header execute the command alike, or both hold it. -/
lemma accept_twins {h : CommandHeader} {rest : Bytes} (hf : h.Fits)
    (hx : ∀ b b', Twins b b' → HoldsCommand (h.encode ++ rest) b →
      HoldsCommand (h.encode ++ rest) b' →
      SameEnd Twins Eq (executeHeader h b) (executeHeader h b')) :
    AcceptedAlike (h.encode ++ rest) := by
  have hheader : ∀ b : Board, HoldsCommand (h.encode ++ rest) b →
      b.memory.range Mailbox.commandAddress.toNat Mailbox.headerSize = h.encode := by
    intro b hb
    rw [Memory.range_of_prefix _ hb (by simp)]
    exact List.take_left' (CommandHeader.length_encode h)
  rintro b _ ⟨m, hm⟩ hb hb'
  by_cases hold : b.holdCommands = true
  · rw [accept_held hold, accept_held (b := { b with memory := m }) hold]
    exact .ok rfl (.mk m hm)
  · have hold := Bool.eq_false_iff.2 hold
    rw [accept_executed hold hf (hheader _ hb),
      accept_executed (b := { b with memory := m }) hold hf (hheader _ hb')]
    refine SameEnd.bind (hx _ _ (.mk m hm) hb hb') fun _ _ _ => .modify ?_
    rintro b _ ⟨m, hm⟩
    exact .mk m hm

theorem accept_read_twins {h : CommandHeader} (hf : h.Fits) (hd : h.direction = .read) :
    AcceptedAlike h.encode := by
  have hexecute : Agree Twins Eq (executeHeader h) (executeHeader h) := by
    refine (Agree.modify ?_).bind_eq fun _ => .get_bind fun b b' _ => ?_
    · rintro b _ ⟨m, hm⟩
      exact .mk m hm
    · simp only [hd]
      exact (readBus_twins _ _).bind_eq fun _ => answer_twins _
  have h' : AcceptedAlike (h.encode ++ []) :=
    accept_twins hf fun b b' hbb' _ _ => hexecute b b' hbb'
  rwa [List.append_nil] at h'

theorem accept_write_twins {h : CommandHeader} {data : Bytes} (hf : h.Fits)
    (hd : h.direction = .write) (hl : h.length = data.length) :
    AcceptedAlike (h.encode ++ Checksum.sealed data) := by
  -- the checksum of the payload is right on both boards
  have hpayload : ∀ b : Board, HoldsCommand (h.encode ++ Checksum.sealed data) b →
      b.memory.range (Mailbox.commandAddress.toNat + Mailbox.headerSize) (data.length + 1) =
        Checksum.sealed data := by
    intro b hb
    have hlen : (h.encode ++ Checksum.sealed data).length =
        Mailbox.headerSize + (data.length + 1) := by simp
    rw [HoldsCommand, hlen] at hb
    rw [← Memory.drop_range, hb]
    exact List.drop_left' (CommandHeader.length_encode h)
  refine accept_twins hf ?_
  rintro b _ ⟨m, hm⟩ hb hb'
  rw [executeHeader_write hd hl (hpayload _ hb),
    executeHeader_write (b := { b with memory := m }) hd hl (hpayload _ hb')]
  exact writeBus_twins _ _ _ _ (.mk m hm)

end Execution

/-! The frames. -/

/-- Two frames that ask for the same: the first `n` bytes behind the same address, or nothing
back at all.  Their telegrams have all been acted on equally often. -/
structure Paired (frame frame' : List Telegram) (n : Nat) (ts ts' : List Telegram) : Prop where
  left : SameFrame frame ts
  right : SameFrame frame' ts'
  counters : ∃ w, Telegram.AllCount w ts ∧ Telegram.AllCount w ts'
  data : (firstData ts').take n = (firstData ts).take n

/-- Frames that were not sent yet. -/
lemma Paired.start {frame frame' : List Telegram} {n : Nat} (hc : Telegram.AllCount 0 frame)
    (hc' : Telegram.AllCount 0 frame') (hd : (firstData frame').take n = (firstData frame).take n) :
    Paired frame frame' n frame frame' :=
  ⟨.refl _, .refl _, ⟨0, hc, hc'⟩, hd⟩

/-- All bytes of the first telegrams are the same if that many were asked for. -/
lemma Paired.firstData_eq {frame frame' ts ts' : List Telegram} {n : Nat}
    (h : Paired frame frame' n ts ts') (hn : (firstData frame).length ≤ n)
    (hn' : (firstData frame').length ≤ n) : firstData ts' = firstData ts := by
  have hlen : ∀ {us vs : List Telegram}, SameFrame us vs →
      (firstData vs).length = (firstData us).length := by
    intro us vs huv
    cases huv with
    | nil => rfl
    | cons htu _ => exact htu.length
  have hd := h.data
  rwa [List.take_of_length_le ((hlen h.left).trans_le hn),
    List.take_of_length_le ((hlen h.right).trans_le hn')] at hd

lemma Paired.withCounter {frame frame' ts ts' : List Telegram} {n : Nat}
    (h : Paired frame frame' n ts ts') (w : UInt16) :
    Paired frame frame' n (ts.map (Telegram.withCounter w)) (ts'.map (Telegram.withCounter w)) where
  left := h.left.map_withCounter w
  right := h.right.map_withCounter w
  counters := ⟨w, by simp [Telegram.AllCount, Telegram.withCounter],
    by simp [Telegram.AllCount, Telegram.withCounter]⟩
  data := by
    rw [firstData_map_withCounter, firstData_map_withCounter]
    exact h.data

/-- Frames that twins treat alike, and so do the faults in their queues. -/
structure TreatedAlike (frame frame' : List Telegram) (n : Nat) : Prop where
  triggers : ∀ t : Trigger, t.matchesFrame frame' = t.matchesFrame frame
  conduct : ∀ ts ts', Paired frame frame' n ts ts' →
    Agree Twins (Paired frame frame' n) (actAll ts) (actAll ts')

section Frames

variable {station : UInt16} {frame frame' ts ts' : List Telegram} {n : Nat}

lemma Paired.map_acted (h : Paired frame frame' n ts ts') :
    Paired frame frame' n (ts.map Telegram.acted) (ts'.map Telegram.acted) where
  left := List.forall₂_map_right_iff.2 (h.left.imp fun _ _ h => h.withCounter _)
  right := List.forall₂_map_right_iff.2 (h.right.imp fun _ _ h => h.withCounter _)
  counters := by
    obtain ⟨w, hw, hw'⟩ := h.counters
    exact ⟨w + 1, hw.succ (by simp [Telegram.acted]), hw'.succ (by simp [Telegram.acted])⟩
  data := by
    have hfirst : ∀ us : List Telegram, firstData (us.map Telegram.acted) = firstData us := by
      intro us
      cases us <;> rfl
    rw [hfirst, hfirst]
    exact h.data

/-- The telegrams as the boards have left them, each counted once more. -/
lemma Paired.acted (h : Paired frame frame' n ts ts') {us us' : List Telegram}
    {b b' b₁ b₁' : Board} (hx : actAll ts b = (.ok us, b₁)) (hx' : actAll ts' b' = (.ok us', b₁'))
    (hc : ∀ w, Telegram.AllCount w ts → Telegram.AllCount (w + 1) us)
    (hc' : ∀ w, Telegram.AllCount w ts' → Telegram.AllCount (w + 1) us')
    (hd : (firstData us').take n = (firstData us).take n) : Paired frame frame' n us us' where
  left := h.left.trans ((actAll_same ts).result trivial hx)
  right := h.right.trans ((actAll_same ts').result trivial hx')
  counters := by
    obtain ⟨w, hw, hw'⟩ := h.counters
    exact ⟨w + 1, hc w hw, hc' w hw'⟩
  data := hd

/-- Twins that do not answer leave both frames as they are. -/
lemma Paired.silent (h : Paired frame frame' n ts ts') (hn : Names station frame)
    (hn' : Names station frame') {b b' : Board} (hb : Twins b b') (ha : ¬ b.Answers station) :
    SameEnd Twins (Paired frame frame' n) (actAll ts b) (actAll ts' b') := by
  obtain ⟨m, hm⟩ := hb
  rw [actAll_silent (hn.same h.left) ha,
    actAll_silent (b := { b with memory := m }) (hn'.same h.right) ha]
  exact .ok h (.mk m hm)

/-- Twins show the same registers. -/
theorem registers_alike {address : UInt16} (hin : inRegisters address.toNat = true)
    (hn : address.toNat - SyncManager.base.toNat + n ≤ 2 * SyncManager.size) :
    TreatedAlike [.read .station station address n] [.read .station station address n] n where
  triggers _ := rfl
  conduct := by
    rintro ts ts' h b b' hb
    by_cases ha : b.Answers station
    · obtain ⟨m, hm⟩ := hb
      have hx := actAll_registers h.left ha hin hn
      have hx' := actAll_registers (b := { b with memory := m }) h.right ha hin hn
      rw [hx, hx']
      refine .ok (h.acted hx hx' (fun _ hw => hw.succ (by simp [Telegram.acted]))
        (fun _ hw => hw.succ (by simp [Telegram.acted])) ?_) (.mk m hm)
      obtain ⟨-, hrest⟩ := h.left
      obtain ⟨-, hrest'⟩ := h.right
      rfl
    · exact h.silent (by simp [Names, Telegram.read]) (by simp [Names, Telegram.read]) hb ha

/-- Twins take the request bit in alike. -/
theorem activate_alike (byte : UInt8) :
    TreatedAlike
      [.write .station station (SyncManager.activateAddress Mailbox.resultManager) [byte]]
      [.write .station station (SyncManager.activateAddress Mailbox.resultManager) [byte]] 0 where
  triggers _ := rfl
  conduct := by
    rintro ts ts' h b b' hb
    by_cases ha : b.Answers station
    · have ha' : b'.Answers station := by
        obtain ⟨m, hm⟩ := hb
        exact ha
      rw [actAll_activate h.left ha, actAll_activate h.right ha']
      exact (setRequest_twins _ _ _ hb).bind fun _ _ _ => .pure h.map_acted
    · exact h.silent (by simp [Names, Telegram.write]) (by simp [Names, Telegram.write]) hb ha

/-- Twins give the same result away, whether it is taken whole or split. -/
theorem takes_alike (hf : TakesResult station n frame) (hf' : TakesResult station n frame')
    (ht : ∀ t : Trigger, t.matchesFrame frame' = t.matchesFrame frame) :
    TreatedAlike frame frame' n where
  triggers := ht
  conduct := by
    rintro ts ts' h b b' hb
    by_cases ha : b.Answers station
    · obtain ⟨m, hm⟩ := hb
      by_cases hfull : b.resultFull = true
      · obtain ⟨us, hx, hd, hc⟩ := actAll_takes hf h.left ha hfull
        obtain ⟨us', hx', hd', hc'⟩ :=
          actAll_takes (b := { b with memory := m }) hf' h.right ha hfull
        rw [hx, hx']
        refine .ok (h.acted hx hx' hc hc' ?_) (.mk m hm)
        rw [hd, hd']
        exact Memory.range_congr fun i hi _ => hm i (Nat.le_trans (by decide) hi)
      · have hempty := Bool.eq_false_iff.2 hfull
        rw [actAll_takes_empty hf h.left ha hempty,
          actAll_takes_empty (b := { b with memory := m }) hf' h.right ha hempty]
        exact .ok h (.mk m hm)
    · exact h.silent hf.names hf'.names hb ha

/-- Twins accept the same command, whether it is put whole or split, or both refuse it. -/
theorem puts_alike {command : Bytes} (hf : PutsCommand station command frame)
    (hf' : PutsCommand station command frame') (haccept : AcceptedAlike command) :
    TreatedAlike frame frame' 0 where
  triggers t := by rw [hf.matchesFrame, hf'.matchesFrame]
  conduct := by
    rintro ts ts' h b b' hb
    by_cases ha : b.Answers station
    · obtain ⟨m, hm⟩ := hb
      by_cases hfull : b.commandFull = true
      · rw [actAll_puts_full hf h.left ha hfull,
          actAll_puts_full (b := { b with memory := m }) hf' h.right ha hfull]
        exact .ok h (.mk m hm)
      · have hempty := Bool.eq_false_iff.2 hfull
        obtain ⟨m₁, hm₁, hrest₁, hx⟩ := actAll_puts hf h.left ha hempty
        obtain ⟨m₂, hm₂, hrest₂, hx'⟩ :=
          actAll_puts (b := { b with memory := m }) hf' h.right ha hempty
        have htwins : Twins { b with memory := m₁ } { b with memory := m₂ } := by
          refine .mk (b := { b with memory := m₁ }) m₂ fun i hi => ?_
          have hget : ∀ m m' : Memory 0x3000, m.range i 1 = m'.range i 1 → m.get i = m'.get i := by
            intro m m' h
            simpa [Memory.range] using h
          exact (hget _ _ (hrest₂ i 1 hi)).trans
            ((hm i hi).trans (hget _ _ (hrest₁ i 1 hi)).symm)
        rw [hx, hx']
        exact (haccept _ _ htwins hm₁ hm₂).bind fun _ _ _ => .pure h.map_acted
    · exact h.silent hf.names hf'.names hb ha

/-! The exchange. -/

/-- Two exchanges that end alike. -/
inductive SameExchange (frame frame' : List Telegram) (n : Nat) :
    Exchange × Board → Exchange × Board → Prop
  | returned {ts ts' : List Telegram} {b b' : Board} (h : Paired frame frame' n ts ts')
    (hb : Twins b b') : SameExchange frame frame' n (.returned ts, b) (.returned ts', b')
  | lost {ts ts' : List Telegram} {b b' : Board} (h : Paired frame frame' n ts ts')
    (hb : Twins b b') : SameExchange frame frame' n (.lost ts, b) (.lost ts', b')
  | died {b b' : Board} (hb : Twins b b') : SameExchange frame frame' n (.died, b) (.died, b')

lemma nextFault_congr (ht : ∀ t : Trigger, t.matchesFrame ts' = t.matchesFrame ts)
    (fs : List (Trigger × Fault)) : nextFault ts' fs = nextFault ts fs := by
  induction fs with
  | nil => rfl
  | cons e rest ih => rw [nextFault, nextFault, ht, ih]

/-- Twins answer frames alike that they treat alike, and the same fault hits both frames. -/
theorem TreatedAlike.exchange (h : TreatedAlike frame frame' n) (hp : Paired frame frame' n ts ts')
    {b b' : Board} (hb : Twins b b') :
    SameExchange frame frame' n (b.exchange ts) (b'.exchange ts') := by
  obtain ⟨m, hm⟩ := hb
  have hf : nextFault ts' b.faults = nextFault ts b.faults := nextFault_congr (fun t => by
    rw [hp.right.matchesFrame, hp.left.matchesFrame, h.triggers]) _
  rcases hx : nextFault ts b.faults with ⟨f, fs⟩
  rw [exchange_eq hx, exchange_eq (b := { b with memory := m }) (hf.trans hx)]
  have htwins : Twins (b.reached fs) (reached fs { b with memory := m }) := .mk m hm
  split
  · exact .lost hp htwins
  · have hact := h.conduct ts ts' hp _ _ htwins
    revert hact
    rcases actAll ts (b.reached fs) with ⟨e | us, b₁⟩ <;>
      rcases actAll ts' (reached fs { b with memory := m }) with ⟨e' | us', b₁'⟩ <;> rintro ⟨⟩
    · exact .died ‹_›
    · rename_i hp' hb'
      rcases f with _ | _ | _ | w
      · exact .returned hp' hb'
      · exact .lost hp' hb'
      · exact .lost hp' hb'
      · exact .returned (hp'.withCounter w) hb'

end Frames

end Board

end MotorBoard
