/-
# Calls when nothing goes wrong

When no fault is to come and the board answers and obeys, every frame comes back at once and
with what the board has done, and every wait ends with its first look.  Then a call does
exactly one thing to the board: it executes its command once.  So the state behind the
mailbox is known exactly after a call, with the times for which engine and chip stay busy,
which a read brings nearer to their end.

The main results are

* `Channel.read_undisturbed`: a read gives what the range shows;
* `Channel.write_undisturbed`: a write is executed once.
-/
import MotorBoard.Proofs.Mailbox.Executing

namespace MotorBoard

open Call Board

/-- What the commands of a mailbox work on. -/
structure Interior where
  stores : Stores
  spiBusy : Nat
  chipBusy : Nat

namespace Interior

/-- The bytes that a read of a range shows. -/
def shown (i : Interior) (address length : Nat) : Bytes :=
  let control := SpiCommand.controlAddress.toNat
  let data := i.stores.localBus.range address length
  if covers address length control && 0 < i.spiBusy then
    data.modify (control - address) (· ||| SpiCommand.busyBit)
  else data

/-- The state behind the mailbox after a read. -/
def looked (i : Interior) (address length : Nat) : Interior :=
  if covers address length SpiCommand.controlAddress.toNat then
    { i with spiBusy := i.spiBusy - 1 }
  else i

@[simp] lemma length_shown (i : Interior) (address length : Nat) :
    (i.shown address length).length = length := by
  rw [shown]
  split <;> simp

end Interior

namespace Board

/-- What the commands of a mailbox work on: what the board stores, and how long engine and
chip stay busy. -/
def interior (b : Board) : Interior := ⟨b.stores, b.spiBusy, b.chipBusy⟩

/-- A board that answers and executes what it is told, with no fault to come. -/
structure Undisturbed (station : UInt16) (b : Board) : Prop where
  answers : b.Answers station
  executes : b.holdCommands = false
  empty : b.commandFull = false
  uncorrupted : b.corruptNext = false
  faultless : b.faults = []

variable {station : UInt16} {b b' : Board}

/-- A board that has come from an undisturbed one by frames is undisturbed again when it has
executed its commands. -/
lemma Undisturbed.alike (h : b.Undisturbed station) (ha : b.Alike b')
    (he : b'.commandFull = false) (hf : b'.faults = []) : b'.Undisturbed station where
  answers := ha.answers_iff.2 h.answers
  executes := ha.holdCommands.trans h.executes
  empty := he
  uncorrupted := Bool.eq_false_iff.2 fun hc =>
    absurd (ha.corruptNext hc) (by simp [h.uncorrupted])
  faultless := hf

lemma Undisturbed.follows (h : b.Undisturbed station) (hf : b.Follows b')
    (he : b'.commandFull = false) : b'.Undisturbed station :=
  h.alike hf.toAlike he (List.sublist_nil.1 (h.faultless ▸ hf.faults))

/-- No attempt fails for faults. -/
lemma Undisturbed.light (h : b.Undisturbed station) {k : Nat} (hk : k ≠ 0) : b.Light k where
  losses := .of_none h.faultless
  few := by
    rw [h.faultless]
    exact Nat.pos_of_ne_zero hk

/-- None of the faults to come hits a frame. -/
def Spares (b : Board) (ts : List Telegram) : Prop := nextFault ts b.faults = (none, b.faults)

lemma Spares.of_none {ts : List Telegram} (h : b.faults = []) : b.Spares ts := by
  rw [Spares, h]
  rfl

lemma exchange_spared {ts us : List Telegram} (hf : b.Spares ts)
    (hact : actAll ts (b.reached b.faults) = (.ok us, b')) :
    b.exchange ts = (.returned us, b') := by
  rw [exchange_eq hf, if_neg (by simp), hact]
  rfl

lemma readBus_eq {address : UInt16} {length : Nat} (hin : address.toNat + length ≤ 0x10000) :
    ∃ n, readBus address length b =
        (.ok (b.interior.shown address.toNat length), { b with spiBusy := n }) ∧
      ({ b with spiBusy := n } : Board).interior = b.interior.looked address.toNat length := by
  rw [readBus, bind_ok (loadBus_eq hin), bind_ok (get_apply b)]
  simp only [if_apply, Interior.shown, Interior.looked, interior, stores]
  cases hc : covers address.toNat length SpiCommand.controlAddress.toNat with
  | false => exact ⟨b.spiBusy, rfl, rfl⟩
  | true =>
    by_cases hb : 0 < b.spiBusy
    · simp only [hb, decide_true, Bool.and_self, if_true]
      exact ⟨b.spiBusy - 1, rfl, rfl⟩
    · have hz : b.spiBusy = 0 := by omega
      simp only [hz, Nat.lt_irrefl, decide_false, Bool.and_false, Bool.false_eq_true, if_false]
      refine ⟨0, ?_, rfl⟩
      rw [← hz]
      rfl

/-- What a board that executes commands makes of a read. -/
lemma accept_read_eq {h : CommandHeader} (hold : b.holdCommands = false) (hf : h.Fits)
    (hd : h.direction = .read) (hl : h.length ≤ Mailbox.maxReadLength)
    (hin : h.address.toNat + h.length ≤ 0x10000)
    (hm : b.memory.range Mailbox.commandAddress.toNat Mailbox.headerSize = h.encode) :
    ∃ n, ({ b with spiBusy := n } : Board).interior =
        b.interior.looked h.address.toNat h.length ∧
      accept b = (.ok (), { b with
        spiBusy := n
        commandFull := false
        commands := b.commands + 1
        corruptNext := false
        lastResult := Checksum.sealed (b.interior.shown h.address.toNat h.length)
        resultFull := true
        memory := b.memory.write Mailbox.resultAddress.toNat
          (if b.corruptNext then
            corrupted (Checksum.sealed (b.interior.shown h.address.toNat h.length))
          else Checksum.sealed (b.interior.shown h.address.toNat h.length)) }) := by
  obtain ⟨n, hread, hinterior⟩ := readBus_eq
    (b := { b with commandFull := true, commands := b.commands + 1 }) hin
  have hfits : Mailbox.resultAddress.toNat +
      (Checksum.sealed (b.interior.shown h.address.toNat h.length)).length ≤ 0x3000 := by
    have h₁ : Mailbox.resultAddress.toNat = 0x2400 := rfl
    have h₂ : Mailbox.maxReadLength = 510 := rfl
    rw [Checksum.length_sealed, Interior.length_shown]
    omega
  have hx : executeHeader h { b with commandFull := true } =
      (readBus h.address h.length >>= fun data => answer (Checksum.sealed data))
        { b with commandFull := true, commands := b.commands + 1 } := by
    simp only [executeHeader, bind_apply, modify_apply, get_apply, hd]
  refine ⟨n, hinterior, ?_⟩
  rw [accept_executed hold hf hm, bind_apply, hx, bind_ok hread, answer_eq (by exact hfits)]
  rfl

/-- The result that a board posts which does not corrupt it. -/
lemma accept_read_undisturbed {h : CommandHeader} (hold : b.holdCommands = false)
    (hc : b.corruptNext = false) (hf : h.Fits) (hd : h.direction = .read)
    (hl : h.length ≤ Mailbox.maxReadLength) (hin : h.address.toNat + h.length ≤ 0x10000)
    (hm : b.memory.range Mailbox.commandAddress.toNat Mailbox.headerSize = h.encode) :
    Ends
      (fun _ b' => b'.commandFull = false ∧
        b'.interior = b.interior.looked h.address.toNat h.length ∧ b'.resultFull = true ∧
        b'.memory.range Mailbox.resultAddress.toNat (h.length + 1) =
          Checksum.sealed (b.interior.shown h.address.toNat h.length))
      (fun _ _ => False) (accept b) := by
  obtain ⟨n, hinterior, hx⟩ := accept_read_eq hold hf hd hl hin hm
  have hfits : Mailbox.resultAddress.toNat +
      (Checksum.sealed (b.interior.shown h.address.toNat h.length)).length ≤ 0x3000 := by
    have h₁ : Mailbox.resultAddress.toNat = 0x2400 := rfl
    have h₂ : Mailbox.maxReadLength = 510 := rfl
    rw [Checksum.length_sealed, Interior.length_shown]
    omega
  have hw := Memory.range_write_self b.memory _ _ hfits
  rw [Checksum.length_sealed, Interior.length_shown] at hw
  rw [hx, hc]
  exact ⟨rfl, hinterior, rfl, hw⟩

end Board

section Frames

variable {σ : Type} {link : Link σ} {board : σ → Board} {b b' : Board}

/-- A frame that no fault hits comes back. -/
lemma Link.Carries.sendOnce_spared (h : link.Carries board) {ts us : List Telegram}
    (hf : b.Spares ts) (hact : actAll ts (b.reached b.faults) = (.ok us, b')) :
    Triple (fun s => board s = b) (link.sendOnce ts)
      (fun d s => d = ⟨true, us, 1⟩ ∧ board s = b') fun _ _ => False := by
  rintro s rfl
  have hx := h.exchange ts s
  rw [exchange_spared hf hact, Prod.mk.injEq] at hx
  rcases hs : link.exchange ts s with ⟨e, s'⟩
  rw [hs] at hx
  obtain ⟨rfl, rfl⟩ := hx
  rw [Link.sendOnce, hs]
  exact ⟨rfl, rfl⟩

/-- A frame that no fault hits comes back from the first attempt. -/
lemma Link.Carries.send_spared (h : link.Carries board) {ts us : List Telegram}
    (hf : b.Spares ts) (hact : actAll ts (b.reached b.faults) = (.ok us, b')) {n : Nat}
    (hn : n ≠ 0) :
    Triple (fun s => board s = b) (link.send ts n)
      (fun d s => d = ⟨true, us, 1⟩ ∧ board s = b') fun _ _ => False := by
  obtain ⟨n, rfl⟩ := Nat.exists_eq_succ_of_ne_zero hn
  refine (h.sendOnce_spared hf hact).bind fun d => Triple.lift ?_
  rintro rfl
  exact .pure _ fun _ hs => ⟨rfl, hs⟩

/-- A frame comes back from the first attempt where no fault is to come. -/
lemma Link.Carries.send_undisturbed (h : link.Carries board) {ts us : List Telegram}
    (hf : b.faults = []) (hact : actAll ts (b.reached []) = (.ok us, b')) {n : Nat}
    (hn : n ≠ 0) :
    Triple (fun s => board s = b) (link.send ts n)
      (fun d s => d = ⟨true, us, 1⟩ ∧ board s = b') fun _ _ => False :=
  h.send_spared (.of_none hf) (by rwa [hf]) hn

end Frames

namespace Channel

variable {σ : Type} {c : Channel σ} {board : σ → Board} {b : Board}

/-- Limits that make sense. -/
structure Patient (l : MailboxLimits) : Prop where
  clear : l.clearAttempts ≠ 0
  tries : l.readTries ≠ 0
  dropped : l.maxDropped ≠ 0
  write : l.writeAttempts ≠ 0

lemma patient_of_validate {l : MailboxLimits} (h : l.validate = .ok ()) : Patient l := by
  rw [MailboxLimits.validate] at h
  split at h
  · cases h
  · split at h
    · cases h
    · next hne =>
      simp only [not_or] at hne
      exact ⟨hne.1, hne.2.1, hne.2.2.1, hne.2.2.2⟩

section Stages

variable (h : c.link.Carries board) (hl : Patient c.limits)

include h hl

/-- Clearing takes a stale result away. -/
lemma clear_undisturbed (hb : b.Undisturbed c.slave.station) :
    Triple (fun s => board s = b) c.clear
      (fun _ s => b.Alike (board s) ∧ (board s).Undisturbed c.slave.station ∧
        (board s).interior = b.interior ∧ (board s).resultFull = false) fun _ _ => False := by
  refine Triple.mono (P := fun s => b.Meets (fun b' => b'.interior = b.interior ∧
    b'.commandFull = false) (board s)) (clear_triple h (fun _ _ => id) fun _ => id) ?_ ?_ ?_
  · rintro s rfl
    exact ⟨.refl _, rfl, hb.empty⟩
  · rintro _ s ⟨hfollows, ⟨hinterior, hempty⟩, hgone⟩
    exact ⟨hfollows.toAlike, hb.follows hfollows hempty, hinterior, hgone hb.answers⟩
  · exact fun _ _ he => he.2.2 (hb.light hl.clear)

/-- A command that is put into an empty mailbox is accepted once, if no fault hits its
frame. -/
lemma put_spared (ha : b.Answers c.slave.station) (he : b.commandFull = false)
    {command : Bytes} (hf : b.Spares (c.commandFrame command))
    (hlen : command.length ≤ Mailbox.size) {K : Board → Prop}
    (accepted : ∀ m : Memory 0x3000,
      m.range Mailbox.commandAddress.toNat command.length = command →
      Ends (fun _ b' => K b') (fun _ _ => False)
        (accept { b.reached b.faults with memory := m })) :
    Triple (fun s => board s = b) (c.put command) (fun _ s => b.Follows (board s) ∧ K (board s))
      fun _ _ => False := by
  have hzero : Telegram.AllCount 0 (c.commandFrame command) := c.allCount_commandFrame command
  obtain ⟨m, hm, -, hact⟩ := actAll_puts (b := b.reached b.faults) (c.commandFrame_puts hlen)
    (.refl _) ha he
  have hacc := accepted m hm
  rw [bind_apply] at hact
  rcases ha : accept { b.reached b.faults with memory := m } with ⟨e | u, b'⟩
  · rw [ha] at hacc
    exact hacc.elim
  · rw [ha] at hacc hact
    have hfollows : b.Follows b' := (Follows.refl b).reached (.refl _) |>.trans
      ((actAll_follows _ _).after (.refl _) hact fun e he => by cases he)
    refine (h.send_spared hf hact hl.write).bind fun d => Triple.lift ?_
    rintro rfl
    have hcount : Telegram.AllCount 1 ((c.commandFrame command).map Telegram.acted) :=
      hzero.succ (by simp [Telegram.acted])
    obtain ⟨h₀, h₁⟩ := hcount.counters
      ((List.length_map _).trans (length_commandFrame c command)) true 1
    rw [if_neg (by simp), if_neg fun hne => hne.2 (h₀.trans (h₁ hne.1).symm), if_pos h₀]
    refine .pure _ fun s hs => ?_
    rw [hs]
    exact ⟨hfollows, hacc⟩

lemma put_undisturbed (ha : b.Answers c.slave.station) (he : b.commandFull = false)
    (hf : b.faults = []) {command : Bytes} (hlen : command.length ≤ Mailbox.size)
    {K : Board → Prop}
    (accepted : ∀ m : Memory 0x3000,
      m.range Mailbox.commandAddress.toNat command.length = command →
      Ends (fun _ b' => K b') (fun _ _ => False) (accept { b.reached [] with memory := m })) :
    Triple (fun s => board s = b) (c.put command) (fun _ s => b.Follows (board s) ∧ K (board s))
      fun _ _ => False :=
  put_spared h hl ha he (.of_none hf) hlen (by rwa [hf])

/-- Nothing that matters to the calls of a mailbox has changed. -/
structure Untouched (b b' : Board) : Prop where
  interior : b'.interior = b.interior
  commandFull : b'.commandFull = b.commandFull
  resultFull : b'.resultFull = b.resultFull
  memory : b'.memory = b.memory

omit hl in
/-- A wait for what is so already ends with the first look. -/
lemma await_undisturbed (hb : b.Undisturbed c.slave.station) {manager : UInt8}
    (hm : IsManager manager) {full : Bool} (hfull : b.mailboxFull manager = full) :
    Triple (fun s => board s = b) (c.await manager full)
      (fun _ s => b.Follows (board s) ∧ Untouched b (board s)) fun _ _ => False := by
  have hblind : Blind (Untouched b) := fun _ _ hJ => ⟨hJ.1, hJ.2, hJ.3, hJ.4⟩
  refine Triple.mono (P := fun s => b.Meets (Untouched b) (board s))
    (await_triple h hblind hm full) ?_ (fun _ _ hs => hs.1) ?_
  · rintro s rfl
    exact ⟨.refl _, rfl, rfl, rfl, rfl⟩
  · rintro _ s ⟨-, ⟨-, hJ⟩, hmissed⟩
    refine hmissed ⟨hb.answers, hb.light (by decide), ?_⟩
    rw [← hfull, mailboxFull, mailboxFull, hJ.commandFull, hJ.resultFull]

/-- A result is fetched with the first frame. -/
lemma fetch_undisturbed (ha : b.Answers c.slave.station) (hf : b.faults = []) {n : Nat}
    (hn : n < Mailbox.size) (hfull : b.resultFull = true) :
    Triple (fun s : MailboxState × σ => board s.2 = b) (c.fetch n)
      (fun d s => d = b.memory.range Mailbox.resultAddress.toNat n ∧
        board s.2 = { b.reached [] with resultFull := false }) fun _ _ => False := by
  obtain ⟨us, hact, hdata, hcount⟩ := actAll_takes (b := b.reached []) (c.resultFrame_takes hn)
    (.refl _) ha hfull
  have hcount : Telegram.AllCount 1 us := hcount 0 (c.allCount_resultFrame n)
  have hlen : us.length = if c.splits n then 2 else 1 := by
    have hsame := (actAll_same (c.resultFrame n)).result trivial hact
    rw [← (List.Forall₂.length_eq hsame), length_resultFrame]
  obtain ⟨h₀, h₁⟩ := hcount.counters hlen true 1
  obtain ⟨tries, htries⟩ := Nat.exists_eq_succ_of_ne_zero hl.tries
  rw [fetch, htries, fetchFrom]
  refine (h.send_undisturbed hf hact hl.dropped).second.bind fun d => Triple.lift ?_
  rintro rfl
  rw [if_neg fun hne => hne.2 (h₀.trans (h₁ hne.1).symm), if_neg (by simp [h₀]), if_pos h₀]
  exact .pure _ fun s hs => ⟨hdata, hs⟩

end Stages

section Calls

/-- The board behind the first three stages of a read. -/
structure HoldsResult (b₀ : Board) (station address : UInt16) (length : Nat) (b : Board) :
    Prop where
  alike : b₀.Alike b
  undisturbed : b.Undisturbed station
  interior : b.interior = b₀.interior.looked address.toNat length
  full : b.resultFull = true
  result : b.memory.range Mailbox.resultAddress.toNat (length + 1) =
    Checksum.sealed (b₀.interior.shown address.toNat length)

lemma HoldsResult.untouched {b₀ b b' : Board} {station address : UInt16} {length : Nat}
    (h : HoldsResult b₀ station address length b) (hf : b.Follows b') (hu : Untouched b b') :
    HoldsResult b₀ station address length b' where
  alike := h.alike.trans hf.toAlike
  undisturbed := h.undisturbed.follows hf (hu.commandFull.trans h.undisturbed.empty)
  interior := hu.interior.trans h.interior
  full := hu.resultFull.trans h.full
  result := by
    rw [hu.memory]
    exact h.result

variable (h : c.link.Carries board) (hl : Patient c.limits)
  (hm : c.slave.state.allowsMailbox = true)

include hm in
/-- The next command is built. -/
lemma nextCommand_undisturbed {build : UInt8 → Except Error MailboxCommand}
    (hbuild : ∀ sequence, (build sequence).isOk) :
    Triple (fun s : MailboxState × σ => board s.2 = b) (c.nextCommand build)
      (fun command s => (∃ sequence, build sequence = .ok command) ∧ board s.2 = b)
      fun _ _ => False :=
  (nextCommand_triple (P := fun s => board s = b) build).stop_mono fun _ _ hs =>
    hs.2.2 ⟨hm, hbuild⟩

include h hl

/-- The first three stages of a read. -/
lemma request_undisturbed (hb : b.Undisturbed c.slave.station) {address : UInt16} {length : Nat}
    (hlength : 1 ≤ length ∧ length ≤ Mailbox.maxReadLength)
    (hin : address.toNat + length ≤ 0x10000) (sequence : UInt8) :
    Triple (fun s => board s = b)
      (do
        c.clear
        c.put (CommandHeader.encode ⟨address, length, sequence &&& 7, .read⟩)
        c.await Mailbox.resultManager true)
      (fun _ s => HoldsResult b c.slave.station address length (board s)) fun _ _ => False := by
  have hfits : CommandHeader.Fits ⟨address, length, sequence &&& 7, .read⟩ :=
    CommandHeader.fits_of_le_limit hlength
  have hlen : (CommandHeader.encode ⟨address, length, sequence &&& 7, .read⟩).length =
      Mailbox.headerSize := CommandHeader.length_encode _
  refine (clear_undisturbed h hl hb).bind fun _ => Triple.of_eq fun s hs => ?_
  obtain ⟨halike, hb₁, hinterior, -⟩ := hs
  have hput := put_undisturbed h hl hb₁.answers hb₁.empty hb₁.faultless
    (hlen.trans_le (by decide))
    (K := fun b' => b'.commandFull = false ∧
      b'.interior = (board s).interior.looked address.toNat length ∧ b'.resultFull = true ∧
      b'.memory.range Mailbox.resultAddress.toNat (length + 1) =
        Checksum.sealed ((board s).interior.shown address.toNat length)) fun m hm =>
    accept_read_undisturbed (b := { (board s).reached [] with memory := m }) hb₁.executes
      hb₁.uncorrupted hfits rfl hlength.2 hin (by rwa [hlen] at hm)
  refine Triple.bind (Q := fun _ s => HoldsResult b c.slave.station address length (board s))
    (hput.mono (fun _ => congrArg board) ?_ fun _ _ => id) fun _ => Triple.of_eq fun s hs => ?_
  · rintro _ s' ⟨hfollows, hempty, hinterior', hfull, hmem⟩
    refine ⟨halike.trans hfollows.toAlike, hb₁.follows hfollows hempty, ?_, hfull, ?_⟩
    · rw [hinterior', hinterior]
    · rw [hmem, hinterior]
  · refine (await_undisturbed h hs.undisturbed isManager_result hs.full).mono
      (fun _ => congrArg board) ?_ fun _ _ => id
    exact fun _ s' hs' => hs.untouched hs'.1 hs'.2

/-- The command of a write is executed as soon as it is put. -/
lemma put_write_undisturbed (hb : b.Undisturbed c.slave.station) {address : UInt16}
    {data : Bytes} (hlength : 1 ≤ data.length ∧ data.length ≤ Mailbox.maxWriteLength)
    {K : Interior → Prop}
    (hx : ∀ b₁, b.Alike b₁ → b₁.interior = b.interior →
      Ends (fun _ b' => K b'.interior) (fun _ _ => False) (writeBus address data b₁))
    (sequence : UInt8) :
    Triple (fun s => board s = b)
      (c.put (MailboxCommand.encode ⟨⟨address, data.length, sequence &&& 7, .write⟩, data⟩))
      (fun _ s => b.Follows (board s) ∧ (board s).commandFull = false ∧ K (board s).interior)
      fun _ _ => False := by
  have hfits : CommandHeader.Fits ⟨address, data.length, sequence &&& 7, .write⟩ :=
    CommandHeader.fits_of_le_limit hlength
  refine put_undisturbed h hl hb.answers hb.empty hb.faultless
    (MailboxCommand.length_encode_le hlength.2)
    (K := fun b' => b'.commandFull = false ∧ K b'.interior) fun m hmem => ?_
  rw [accept_write (b := { b.reached [] with memory := m }) hb.executes hfits rfl rfl hmem,
    bind_apply]
  have halike : b.Alike { b.reached [] with
      memory := m, commandFull := true, commands := (b.reached []).commands + 1 } :=
    { Alike.refl b with }
  have hstep := hx _ halike rfl
  revert hstep
  rcases writeBus address data _ with ⟨e | _, b'⟩
  · exact id
  · exact fun hK => ⟨rfl, hK⟩

include hm

/-- A read under the lock gives what the range shows. -/
lemma readHeld_undisturbed (hb : b.Undisturbed c.slave.station) {address : UInt16}
    {length : Nat} (hlength : 1 ≤ length ∧ length ≤ Mailbox.maxReadLength)
    (hin : address.toNat + length ≤ 0x10000) :
    Triple (fun s : MailboxState × σ => board s.2 = b) (c.readHeld address length)
      (fun data s => data = b.interior.shown address.toNat length ∧
        b.Alike (board s.2) ∧ (board s.2).Undisturbed c.slave.station ∧
        (board s.2).interior = b.interior.looked address.toNat length) fun _ _ => False := by
  refine (nextCommand_undisturbed hm fun sequence => ?_).bind fun command => Triple.lift ?_
  · rw [MailboxCommand.read, CommandHeader.build_eq hlength]
    rfl
  rintro ⟨sequence, hbuild⟩
  obtain ⟨-, rfl⟩ := read_ok hbuild
  have hrequest := request_undisturbed h hl hb hlength hin sequence
  refine hrequest.second.bind fun _ => Triple.of_eq fun s hs => ?_
  have hfetch := fetch_undisturbed h hl hs.undisturbed.answers hs.undisturbed.faultless
    (Mailbox.length_result_lt hlength.2) hs.full
  refine (hfetch.pre fun t ht => by rw [ht]).bind fun result => Triple.lift fun hresult => ?_
  have hsealed : result = Checksum.sealed (b.interior.shown address.toNat length) :=
    hresult.trans hs.result
  rw [hsealed, if_pos (Checksum.verifies_sealed _), Checksum.sealed,
    List.take_left' (Interior.length_shown ..)]
  refine .pure _ fun t ht => ⟨rfl, ?_⟩
  rw [ht]
  have halike : (board s.2).Alike { (board s.2).reached [] with resultFull := false } :=
    { Alike.refl (board s.2) with }
  exact ⟨hs.alike.trans halike, hs.undisturbed.alike halike hs.undisturbed.empty rfl, hs.interior⟩

/-- A write under the lock is executed once. -/
lemma writeHeld_undisturbed (hb : b.Undisturbed c.slave.station) {address : UInt16}
    {data : Bytes} (hlength : 1 ≤ data.length ∧ data.length ≤ Mailbox.maxWriteLength)
    {K : Interior → Prop}
    (hx : ∀ b₁, b.Alike b₁ → b₁.interior = b.interior →
      Ends (fun _ b' => K b'.interior) (fun _ _ => False) (writeBus address data b₁)) :
    Triple (fun s : MailboxState × σ => board s.2 = b) (c.writeHeld address data)
      (fun _ s => b.Alike (board s.2) ∧ (board s.2).Undisturbed c.slave.station ∧
        K (board s.2).interior) fun _ _ => False := by
  refine (nextCommand_undisturbed hm fun sequence => ?_).bind fun command => Triple.lift ?_
  · rw [MailboxCommand.write, CommandHeader.build_eq hlength]
    rfl
  rintro ⟨sequence, hbuild⟩
  obtain ⟨-, rfl⟩ := write_ok hbuild
  refine Triple.second (P := fun s => board s = b) (Q := fun _ s => b.Alike (board s) ∧
    (board s).Undisturbed c.slave.station ∧ K (board s).interior) (E := fun _ _ => False) ?_
  refine (put_write_undisturbed h hl hb hlength hx sequence).attempt.bind fun r => ?_
  cases r with
  | error e => exact fun s hs => hs.elim
  | ok u =>
    refine Triple.of_eq fun s hs => ?_
    obtain ⟨hfollows, hempty, hK⟩ := hs
    have hb₁ := hb.follows hfollows hempty
    refine (await_undisturbed h hb₁ isManager_command hempty).mono (fun _ => congrArg board) ?_
      fun _ _ => id
    rintro _ s' ⟨hfollows', huntouched⟩
    refine ⟨hfollows.toAlike.trans hfollows'.toAlike, hb₁.follows hfollows' ?_, ?_⟩
    · exact huntouched.commandFull.trans hempty
    · rw [huntouched.interior]
      exact hK

end Calls

/-- Between two calls nobody has poisoned the lock, the board is undisturbed, and `J` holds
behind its mailbox.  The board was `b₀` once. -/
structure Calm (c : Channel σ) (board : σ → Board) (b₀ : Board) (J : Interior → Prop)
    (t : Mailbox × σ) : Prop where
  lock : t.1.lock ≠ .poisoned
  alike : b₀.Alike (board t.2)
  undisturbed : (board t.2).Undisturbed c.slave.station
  interior : J (board t.2).interior

lemma Calm.mono {b₀ : Board} {J K : Interior → Prop} {t : Mailbox × σ} (h : c.Calm board b₀ J t)
    (hK : ∀ i, J i → K i) : c.Calm board b₀ K t :=
  ⟨h.lock, h.alike, h.undisturbed, hK _ h.interior⟩

section Locked

variable (h : c.link.Carries board) (hl : Patient c.limits)
  (hm : c.slave.state.allowsMailbox = true) {b₀ : Board} {J : Interior → Prop}

include h hl hm

/-- A read gives what the range shows, and brings the end of a transfer nearer if it covers
the control byte of the engine. -/
theorem read_undisturbed {address : UInt16} {length : Nat}
    (hlength : 1 ≤ length ∧ length ≤ Mailbox.maxReadLength)
    (hin : address.toNat + length ≤ 0x10000) {K : Bytes → Interior → Prop}
    (hJ : ∀ i, J i → K (i.shown address.toNat length) (i.looked address.toNat length)) :
    Triple (c.Calm board b₀ J) (c.read address length) (fun data => c.Calm board b₀ (K data))
      fun _ _ => False := by
  refine Triple.of_eq fun t ht => ?_
  have hheld := (readHeld_undisturbed h hl hm ht.undisturbed hlength hin).onFailure
    (f := fun s => (s.1.countReadError, s.2)) fun _ _ hs => hs
  refine (Guarded.unpoisoned_free_triple (P := fun s => board s = board t.2) (Q := fun data s =>
    data = (board t.2).interior.shown address.toNat length ∧ (board t.2).Alike (board s) ∧
      (board s).Undisturbed c.slave.station ∧
      (board s).interior = (board t.2).interior.looked address.toNat length)
    (E := fun _ _ => False) hheld).mono ?_ ?_ fun _ _ => id
  · rintro _ rfl
    exact ⟨ht.lock, rfl⟩
  · rintro data t' ⟨hfree, rfl, halike, hundisturbed, hinterior⟩
    exact ⟨by simp [hfree], ht.alike.trans halike, hundisturbed, hinterior ▸ hJ _ ht.interior⟩

/-- A write is executed once. -/
theorem write_undisturbed {address : UInt16} {data : Bytes}
    (hlength : 1 ≤ data.length ∧ data.length ≤ Mailbox.maxWriteLength) {K : Interior → Prop}
    (hx : ∀ b, b₀.Alike b → J b.interior →
      Ends (fun _ b' => K b'.interior) (fun _ _ => False) (writeBus address data b)) :
    Triple (c.Calm board b₀ J) (c.write address data) (fun _ => c.Calm board b₀ K)
      fun _ _ => False := by
  refine Triple.of_eq fun t ht => ?_
  have hheld := (writeHeld_undisturbed h hl hm ht.undisturbed hlength (K := K)
    fun b halike hinterior => hx b (ht.alike.trans halike) (hinterior ▸ ht.interior)).onFailure
      (f := fun s => (s.1.countWriteError, s.2)) fun _ _ hs => hs
  refine (Guarded.unpoisoned_free_triple (P := fun s => board s = board t.2) (Q := fun _ s =>
    (board t.2).Alike (board s) ∧ (board s).Undisturbed c.slave.station ∧
      K (board s).interior) (E := fun _ _ => False) hheld).mono ?_ ?_ fun _ _ => id
  · rintro _ rfl
    exact ⟨ht.lock, rfl⟩
  · rintro _ t' ⟨hfree, halike, hundisturbed, hK⟩
    exact ⟨by simp [hfree], ht.alike.trans halike, hundisturbed, hK⟩

omit hl hm in
/-- A pause changes nothing. -/
lemma wait_undisturbed (us : Nat) {E : Stop → Mailbox × σ → Prop} :
    Triple (c.Calm board b₀ J) (c.wait us) (fun _ => c.Calm board b₀ J) E :=
  .within _ fun t ht => .modify _ fun s hs => by
    subst hs
    have hboard := h.pause us t.2
    exact ⟨ht.lock, hboard.symm ▸ ht.alike, hboard.symm ▸ ht.undisturbed,
      hboard.symm ▸ ht.interior⟩

end Locked

end Channel

end MotorBoard
