/-
# The frames of a mailbox and what the board does with them

The master of a mailbox sends four kinds of frames: one that reads registers, one that takes
a result, one that puts a command, and one that turns the request bit over.  Results and
commands travel either whole or split, and in both cases the last byte of the mailbox moves
with them.  A board that is not there, or not addressed, leaves every frame as it is.

The main results say what a board that answers does:

* `Board.actAll_registers`: it shows its registers and stays as it is;
* `Board.actAll_takes`, `Board.actAll_takes_empty`: it gives its result away, once;
* `Board.actAll_puts`, `Board.actAll_puts_full`: it accepts a command unless it has one;
* `Board.actAll_activate`: it takes the request bit in.
-/
import MotorBoard.Proofs.Board.Ranges
import MotorBoard.Proofs.Board.Wire

namespace MotorBoard

namespace Telegram

/-- The telegram after a slave has acted on it. -/
def acted (t : Telegram) : Telegram := { t with workingCounter := t.workingCounter + 1 }

/-- All telegrams of a frame have the same working counter. -/
def AllCount (n : UInt16) (ts : List Telegram) : Prop := ∀ t ∈ ts, t.workingCounter = n

lemma AllCount.rewound (ts : List Telegram) : AllCount 0 (ts.map Telegram.rewound) := by
  intro t ht
  obtain ⟨u, -, rfl⟩ := List.mem_map.1 ht
  rfl

lemma AllCount.succ {n : UInt16} {ts us : List Telegram} (h : AllCount n ts)
    (hus : us.map (·.workingCounter) = ts.map fun t => t.workingCounter + 1) :
    AllCount (n + 1) us := by
  intro u hu
  have hm : u.workingCounter ∈ us.map (·.workingCounter) := List.mem_map_of_mem hu
  rw [hus] at hm
  obtain ⟨t, ht, htu⟩ := List.mem_map.1 hm
  rw [← htu, h t ht]

/-- All telegrams that come back have this counter. -/
lemma AllCount.counter {n : UInt16} {ts : List Telegram} (h : AllCount n ts) {i : Nat}
    (hi : i < ts.length) (r : Bool) (k : Nat) : Delivery.counter ⟨r, ts, k⟩ i = n := by
  rw [Delivery.counter, List.getElem?_eq_getElem hi]
  exact h _ (List.getElem_mem hi)

/-- The counters that a call looks at when its frame is split, or is not. -/
lemma AllCount.counters {n : UInt16} {ts : List Telegram} (h : AllCount n ts) {p : Prop}
    [Decidable p] (hlen : ts.length = if p then 2 else 1) (r : Bool) (k : Nat) :
    Delivery.counter ⟨r, ts, k⟩ 0 = n ∧ (p → Delivery.counter ⟨r, ts, k⟩ 1 = n) := by
  refine ⟨h.counter ?_ r k, fun hp => h.counter ?_ r k⟩
  · rw [hlen]
    split <;> decide
  · rw [hlen, if_pos hp]
    decide

end Telegram

/-- Whether a fault can hit a frame does not depend on what changes on the way. -/
lemma SameFrame.matchesFrame {ts us : List Telegram} (h : SameFrame ts us) (t : Trigger) :
    t.matchesFrame us = t.matchesFrame ts := by
  have hany : ∀ f : Telegram → Bool, (∀ t u, Telegram.Same t u → f u = f t) →
      us.any f = ts.any f := by
    intro f hf
    induction h with
    | nil => rfl
    | cons htu _ ih => rw [List.any_cons, List.any_cons, hf _ _ htu, ih]
  cases t with
  | anyFrame => rfl
  | resultRead =>
    refine hany _ fun t u h => ?_
    rw [Telegram.isRead, Telegram.isRead, h.direction, h.address, h.length]
  | commandWrite =>
    refine hany _ fun t u h => ?_
    rw [Telegram.isRead, Telegram.isRead, h.direction, h.address]

/-- A frame that takes `n` bytes of a result and with them the last byte of its mailbox. -/
inductive TakesResult (station : UInt16) (n : Nat) : List Telegram → Prop
  | split (h : n < Mailbox.size) :
    TakesResult station n
      [.read .station station Mailbox.resultAddress n, .read .station station Mailbox.resultLast 1]
  | whole (h : n ≤ Mailbox.size) :
    TakesResult station n [.read .station station Mailbox.resultAddress Mailbox.size]

/-- A frame that puts a command and with it the last byte of its mailbox. -/
inductive PutsCommand (station : UInt16) (command : Bytes) : List Telegram → Prop
  | split (h : command.length < Mailbox.size) :
    PutsCommand station command
      [.write .station station Mailbox.commandAddress command,
       .write .station station Mailbox.commandLast [0]]
  | whole (h : command.length ≤ Mailbox.size) :
    PutsCommand station command
      [.write .station station Mailbox.commandAddress (command.padTo Mailbox.size 0)]

/-- A frame whose telegrams all name a station. -/
def Names (station : UInt16) (frame : List Telegram) : Prop :=
  ∀ t ∈ frame, t.addressing = .station ∧ t.slave = station

lemma Names.same {station : UInt16} {frame ts : List Telegram} (hn : Names station frame)
    (h : SameFrame frame ts) : Names station ts := by
  induction h with
  | nil => exact hn
  | cons htu _ ih =>
    have ht := hn _ List.mem_cons_self
    refine List.forall_mem_cons.2 ⟨⟨htu.addressing.trans ht.1, htu.slave.trans ht.2⟩, ih ?_⟩
    exact fun u hu => hn u (List.mem_cons_of_mem _ hu)

lemma TakesResult.names {station : UInt16} {n : Nat} {frame : List Telegram}
    (h : TakesResult station n frame) : Names station frame := by
  cases h <;> simp [Names, Telegram.read]

lemma PutsCommand.names {station : UInt16} {command : Bytes} {frame : List Telegram}
    (h : PutsCommand station command frame) : Names station frame := by
  cases h <;> simp [Names, Telegram.write]

/-- The faults that can hit a frame which takes more of a result than one byte. -/
lemma TakesResult.matchesFrame {station : UInt16} {n : Nat} {frame : List Telegram}
    (h : TakesResult station n frame) (hn : 1 < n) (t : Trigger) :
    t.matchesFrame frame = decide (t ≠ .commandWrite) := by
  have hlen : ∀ k, (Bytes.zeros k).length = k := fun _ => List.length_replicate
  cases h <;> cases t <;>
    simp [Trigger.matchesFrame, Telegram.read, Telegram.isRead, hlen, hn, Mailbox.size]

/-- The faults that can hit a frame which puts a command. -/
lemma PutsCommand.matchesFrame {station : UInt16} {command : Bytes} {frame : List Telegram}
    (h : PutsCommand station command frame) (t : Trigger) :
    t.matchesFrame frame = decide (t ≠ .resultRead) := by
  cases h <;> cases t <;> simp [Trigger.matchesFrame, Telegram.write, Telegram.isRead]

namespace Board

open Call

/-- The board is there and has this station address. -/
def Answers (station : UInt16) (b : Board) : Prop := b.present = true ∧ b.station = station

instance (station : UInt16) (b : Board) : Decidable (b.Answers station) :=
  inferInstanceAs (Decidable (_ ∧ _))

lemma Alike.answers_iff {b₀ b : Board} (h : Alike b₀ b) {station : UInt16} :
    b.Answers station ↔ b₀.Answers station := by
  rw [Answers, Answers, h.present, h.station]

section Telegrams

variable {station address : UInt16} {b : Board} {t : Telegram}

/-- The board acts on a telegram that names its station, and on no other such telegram. -/
private lemma addressed_iff (ht : t.addressing = .station) (hs : t.slave = station) :
    (b.present && b.isAddressed t) = true ↔ b.Answers station := by
  rw [isAddressed, ht, hs, Bool.and_eq_true, beq_iff_eq, Answers, eq_comm (a := station)]

lemma act_silent (ht : t.addressing = .station) (hs : t.slave = station)
    (h : ¬ b.Answers station) : act t b = (.ok t, b) := by
  have hn : (b.present && b.isAddressed t) = false :=
    Bool.eq_false_iff.2 fun h' => h ((addressed_iff ht hs).1 h')
  simp only [act, bind_apply, get_apply, hn]
  rfl

/-- A board that answers a read gives what it reads, or leaves the telegram as it is. -/
lemma act_read {n : Nat} (ht : (Telegram.read .station station address n).Same t)
    (h : b.Answers station) :
    act t b =
      match read address n b with
      | (.ok (some data), b') => (.ok { t.acted with data := data }, b')
      | (.ok none, b') => (.ok t, b')
      | (.error e, b') => (.error e, b') := by
  have hy := (addressed_iff (b := b) ht.addressing ht.slave).2 h
  have hn : t.data.length = n := ht.length.trans List.length_replicate
  have ha : t.address = address := ht.address
  have hd : t.direction = .read := ht.direction
  obtain ⟨direction, addressing, slave, address', data, counter⟩ := t
  subst hn ha hd
  simp only [act, bind_apply, get_apply, hy, if_true]
  rcases read address' data.length b with ⟨e | _ | d, b'⟩ <;> rfl

/-- A board that answers a write takes it, or leaves the telegram as it is. -/
lemma act_write {data : Bytes} (ht : (Telegram.write .station station address data).Same t)
    (h : b.Answers station) :
    act t b =
      match write address data b with
      | (.ok true, b') => (.ok t.acted, b')
      | (.ok false, b') => (.ok t, b')
      | (.error e, b') => (.error e, b') := by
  have hy := (addressed_iff (b := b) ht.addressing ht.slave).2 h
  have hb : t.data = data := ht.data rfl
  have ha : t.address = address := ht.address
  have hd : t.direction = .write := ht.direction
  obtain ⟨direction, addressing, slave, address', data', counter⟩ := t
  subst hb ha hd
  simp only [act, bind_apply, get_apply, hy, if_true]
  rcases write address' data' b with ⟨e | _ | _, b'⟩ <;> rfl

end Telegrams

section Frames

variable {station : UInt16} {b : Board} {frame ts : List Telegram}

/-- A board that does not answer to a station leaves the station's frames as they are. -/
lemma actAll_silent (hn : Names station ts) (h : ¬ b.Answers station) :
    actAll ts b = (.ok ts, b) := by
  induction ts with
  | nil => rfl
  | cons t rest ih =>
    obtain ⟨ht, hs⟩ := hn t List.mem_cons_self
    have ih := ih fun u hu => hn u (List.mem_cons_of_mem _ hu)
    rw [actAll, bind_ok (act_silent ht hs h), bind_ok ih]
    rfl

/-! A frame with one telegram, and one with two. -/

lemma actAll_one {b b' : Board} {t t' : Telegram} (h : act t b = (.ok t', b')) :
    actAll [t] b = (.ok [t'], b') := by
  rw [actAll, bind_ok h]
  rfl

lemma actAll_two {b b₁ b₂ : Board} {t t' u u' : Telegram} (h : act t b = (.ok t', b₁))
    (h' : act u b₁ = (.ok u', b₂)) : actAll [t, u] b = (.ok [t', u'], b₂) := by
  rw [actAll, bind_ok h, bind_ok (actAll_one h')]
  rfl

/-! Registers. -/

/-- A board that answers shows its registers and stays as it is. -/
theorem actAll_registers {address : UInt16} {n : Nat}
    (h : SameFrame [.read .station station address n] ts) (ha : b.Answers station)
    (hin : inRegisters address.toNat = true)
    (hn : address.toNat - SyncManager.base.toNat + n ≤ 2 * SyncManager.size) :
    actAll ts b =
      (.ok (ts.map fun t =>
        { t.acted with data := b.registers.slice (address.toNat - SyncManager.base.toNat) n }),
        b) := by
  -- the registers lie apart from both mailboxes
  have hr : inResults address.toNat = false ∧ inCommands address.toNat = false := by
    simp only [inRegisters, inResults, inCommands, covers, Bool.and_eq_true, Bool.and_eq_false_iff,
      decide_eq_true_eq, decide_eq_false_iff_not] at hin ⊢
    have h₁ : SyncManager.base.toNat = 0x800 := rfl
    have h₂ : SyncManager.size = 8 := rfl
    have h₃ : Mailbox.resultAddress.toNat = 0x2400 := rfl
    have h₄ : Mailbox.commandAddress.toNat = 0x1400 := rfl
    omega
  have hread : read address n b =
      (.ok (some (b.registers.slice (address.toNat - SyncManager.base.toNat) n)), b) := by
    simp only [read, hr, hin, bind_apply, get_apply, if_apply, readRegisters, if_pos hn]
    rfl
  cases h with
  | cons ht hrest =>
    cases hrest
    refine actAll_one ?_
    rw [act_read ht ha, hread]

/-! Results. -/

lemma read_result {address : UInt16} {n : Nat} (hin : inResults address.toNat = true)
    (hn : address.toNat + n ≤ 0x3000) (hfull : b.resultFull = true) :
    read address n b =
      (.ok (some (b.memory.range address.toNat n)),
        if covers address.toNat n Mailbox.resultLast.toNat then { b with resultFull := false }
        else b) := by
  simp only [read, hin, if_true, readResult, bind_apply, get_apply, hfull, Memory.load?, if_pos hn,
    orDie, pure_apply, if_apply]
  split <;> rfl

lemma read_result_empty {address : UInt16} {n : Nat} (hin : inResults address.toNat = true)
    (hempty : b.resultFull = false) : read address n b = (.ok none, b) := by
  simp only [read, hin, if_true, readResult, bind_apply, get_apply, hempty]
  rfl

/-- A board that answers and has a result gives it away. -/
theorem actAll_takes {n : Nat} (hf : TakesResult station n frame) (h : SameFrame frame ts)
    (ha : b.Answers station) (hfull : b.resultFull = true) :
    ∃ us, actAll ts b = (.ok us, { b with resultFull := false }) ∧
      (firstData us).take n = b.memory.range Mailbox.resultAddress.toNat n ∧
      ∀ w, Telegram.AllCount w ts → Telegram.AllCount (w + 1) us := by
  have hr : Mailbox.resultAddress.toNat = 0x2400 := rfl
  have hl : Mailbox.resultLast.toNat = 0x25FF := rfl
  have hs : Mailbox.size = 512 := rfl
  cases hf with
  | split hn =>
    cases h with
    | cons ht hrest =>
      cases hrest with
      | cons hu hrest =>
        cases hrest
        -- the first telegram stops before the last byte, and the second one reads it
        have h₁ := act_read ht ha
        rw [read_result (by decide) (by omega) hfull, if_neg (by simp [covers]; omega)] at h₁
        have h₂ := act_read hu ha
        rw [read_result (by decide) (by decide) hfull, if_pos (by decide)] at h₂
        refine ⟨_, actAll_two h₁ h₂, Memory.take_range _ (Nat.le_refl n), fun w hw => ?_⟩
        exact hw.succ rfl
  | whole hn =>
    cases h with
    | cons ht hrest =>
      cases hrest
      have h₁ := act_read ht ha
      rw [read_result (by decide) (by decide) hfull, if_pos (by decide)] at h₁
      refine ⟨_, actAll_one h₁, Memory.take_range _ hn, fun w hw => ?_⟩
      exact hw.succ rfl

/-- A board without a result leaves the frame as it is. -/
theorem actAll_takes_empty {n : Nat} (hf : TakesResult station n frame) (h : SameFrame frame ts)
    (ha : b.Answers station) (hempty : b.resultFull = false) : actAll ts b = (.ok ts, b) := by
  cases hf with
  | split hn =>
    cases h with
    | cons ht hrest =>
      cases hrest with
      | cons hu hrest =>
        cases hrest
        have h₁ := act_read ht ha
        have h₂ := act_read hu ha
        rw [read_result_empty (by decide) hempty] at h₁ h₂
        exact actAll_two h₁ h₂
  | whole hn =>
    cases h with
    | cons ht hrest =>
      cases hrest
      have h₁ := act_read ht ha
      rw [read_result_empty (by decide) hempty] at h₁
      exact actAll_one h₁

/-! Commands. -/

lemma write_command_full {address : UInt16} {data : Bytes}
    (hin : inCommands address.toNat = true) (hfull : b.commandFull = true) :
    write address data b = (.ok false, b) := by
  simp only [write, hin, if_true, writeCommand, bind_apply, get_apply, hfull, Bool.true_or]
  rfl

lemma write_command {address : UInt16} {data : Bytes} (hin : inCommands address.toNat = true)
    (hn : address.toNat + data.length ≤ Mailbox.commandAddress.toNat + Mailbox.size)
    (hempty : b.commandFull = false) :
    write address data b =
      (if covers address.toNat data.length Mailbox.commandLast.toNat then do
        accept
        return true
      else return true : Call Board Bool)
        { b with memory := b.memory.write address.toNat data } := by
  simp only [write, hin, if_true, writeCommand, bind_apply, get_apply, hempty, Bool.false_or,
    decide_eq_true_eq, if_neg (Nat.not_lt.2 hn), if_apply, set_apply]

/-- A board that has a command already leaves the frame as it is. -/
theorem actAll_puts_full {command : Bytes} (hf : PutsCommand station command frame)
    (h : SameFrame frame ts) (ha : b.Answers station) (hfull : b.commandFull = true) :
    actAll ts b = (.ok ts, b) := by
  cases hf with
  | split hn =>
    cases h with
    | cons ht hrest =>
      cases hrest with
      | cons hu hrest =>
        cases hrest
        have h₁ := act_write ht ha
        have h₂ := act_write hu ha
        rw [write_command_full (by decide) hfull] at h₁ h₂
        exact actAll_two h₁ h₂
  | whole hn =>
    cases h with
    | cons ht hrest =>
      cases hrest
      have h₁ := act_write ht ha
      rw [write_command_full (by decide) hfull] at h₁
      exact actAll_one h₁

/-- A board that answers and has no command accepts the one in the frame.  The memory behind
the mailbox is not touched. -/
theorem actAll_puts {command : Bytes} (hf : PutsCommand station command frame)
    (h : SameFrame frame ts) (ha : b.Answers station) (hempty : b.commandFull = false) :
    ∃ m : Memory 0x3000,
      m.range Mailbox.commandAddress.toNat command.length = command ∧
      (∀ start n, Mailbox.commandAddress.toNat + Mailbox.size ≤ start →
        m.range start n = b.memory.range start n) ∧
      actAll ts b = (accept >>= fun _ => pure (ts.map Telegram.acted)) { b with memory := m } := by
  have hc : Mailbox.commandAddress.toNat = 0x1400 := rfl
  have hl : Mailbox.commandLast.toNat = 0x15FF := rfl
  have hs : Mailbox.size = 512 := rfl
  cases hf with
  | split hn =>
    cases h with
    | cons ht hrest =>
      cases hrest with
      | cons hu hrest =>
        cases hrest
        have hm : Mailbox.commandAddress.toNat + command.length ≤ 0x3000 := by omega
        -- the command goes in first; the byte that hands it over lies behind it
        have h₁ := act_write ht ha
        rw [write_command (by decide) (by omega) hempty, if_neg (by simp [covers]; omega)] at h₁
        have h₂ := act_write hu (b := { b with
          memory := b.memory.write Mailbox.commandAddress.toNat command }) ha
        rw [write_command (by decide) (by decide) (by exact hempty), if_pos (by decide),
          bind_apply] at h₂
        refine ⟨(b.memory.write Mailbox.commandAddress.toNat command).write
          Mailbox.commandLast.toNat [0], ?_, fun start n hstart => ?_, ?_⟩
        · rw [Memory.range_write_of_disjoint _ (by decide) (.inr (by omega)),
            Memory.range_write_self _ _ _ hm]
        · have hlast : Mailbox.commandLast.toNat + ([0] : Bytes).length ≤ start := by
            rw [List.length_singleton]
            omega
          rw [Memory.range_write_of_disjoint _ (by decide) (.inl hlast),
            Memory.range_write_of_disjoint _ hm (.inl (by omega))]
        · rw [actAll, bind_ok h₁, bind_apply, actAll, bind_apply, h₂, bind_apply]
          rcases accept _ with ⟨e | _, b'⟩ <;> rfl
  | whole hn =>
    cases h with
    | cons ht hrest =>
      cases hrest
      have hpad : (command.padTo Mailbox.size 0).length = Mailbox.size := Bytes.length_padTo ..
      have hm : Mailbox.commandAddress.toNat + (command.padTo Mailbox.size 0).length ≤ 0x3000 := by
        omega
      have h₁ := act_write ht ha
      rw [write_command (by decide) (by omega) hempty, if_pos (by rw [hpad]; decide),
        bind_apply] at h₁
      refine ⟨b.memory.write Mailbox.commandAddress.toNat (command.padTo Mailbox.size 0), ?_,
        fun start n hstart => ?_, ?_⟩
      · have hr := Memory.range_write_self b.memory _ _ hm
        rw [Memory.range_of_prefix _ hr (by omega), Bytes.padTo, List.take_of_length_le hn,
          List.take_left]
      · exact Memory.range_write_of_disjoint _ hm (.inl (by omega))
      · rw [actAll, bind_apply, h₁, bind_apply]
        rcases accept _ with ⟨e | _, b'⟩ <;> rfl

/-! The request bit. -/

/-- A board that answers takes the request bit in. -/
theorem actAll_activate {byte : UInt8}
    (h : SameFrame [.write .station station
      (SyncManager.activateAddress Mailbox.resultManager) [byte]] ts) (ha : b.Answers station) :
    actAll ts b =
      (setRequest (byte &&& SyncManager.requestBit != 0) >>= fun _ =>
        pure (ts.map Telegram.acted)) b := by
  cases h with
  | cons ht hrest =>
    cases hrest
    have hw : write (SyncManager.activateAddress Mailbox.resultManager) [byte] =
        (setRequest (byte &&& SyncManager.requestBit != 0) >>= fun _ => pure true) := rfl
    have h₁ := act_write ht ha
    rw [hw, bind_apply] at h₁
    rw [bind_apply, actAll, bind_apply, h₁]
    rcases setRequest (byte &&& SyncManager.requestBit != 0) b with ⟨e | _, b'⟩ <;> rfl

end Frames

end Board

end MotorBoard
