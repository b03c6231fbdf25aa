/-
# What a read of the local bus gives

A read goes through four stages, and each of them hands one fact on to the next.  When the
stale result is gone the mailbox is empty.  When the command has been put, a full mailbox
can only hold what this very command has posted.  When the mailbox has been seen full, the
board is there and has posted it.  And what is fetched then is a posting, whole, though it
may be corrupted; but a corrupted posting does not verify.

None of the stages changes what the board stores.  The main results are

* `Channel.readHeld_triple`: the stages together, and what a failure means;
* `Channel.read_sound`: a read gives what the range on the local bus shows or it fails, and
  it leaves the board's stores alone, whatever faults there are.
-/
import MotorBoard.Proofs.Mailbox.Fetching

namespace MotorBoard

open Call Board

namespace Board

/-- A posting with a bit turned over never verifies. -/
lemma not_verifies_corrupted (data : Bytes) :
    Checksum.verifies (corrupted (Checksum.sealed data)) = false := by
  obtain ⟨a, r, hs⟩ : ∃ a r, Checksum.sealed data = a :: r := by
    cases data with
    | nil => exact ⟨_, _, rfl⟩
    | cons a r => exact ⟨a, r ++ _, rfl⟩
  have hv : Checksum.verifies ([] ++ a :: r) = true := by
    rw [List.nil_append, ← hs]
    exact Checksum.verifies_sealed data
  rw [hs, Bool.eq_false_iff]
  intro h
  have hflip : a ^^^ 0x01 = a := (Checksum.verifies_append_cons_iff hv).1 h
  have hone : (a ^^^ a ^^^ 0x01) = 0 := by
    rw [UInt8.xor_assoc, hflip, UInt8.xor_self]
  rw [UInt8.xor_self, UInt8.zero_xor] at hone
  exact absurd hone (by decide)

/-- What the board may post for a read: what the range shows, sealed, and with a bit turned
over only if that was due from the beginning. -/
def Posting (b₀ : Board) (address length : Nat) (x : Bytes) : Prop :=
  ∃ data, Shows b₀.localBus address length data ∧
    (x = Checksum.sealed data ∨
      b₀.corruptNext = true ∧ x = corrupted (Checksum.sealed data))

lemma Posting.length {b₀ : Board} {address length : Nat} {x : Bytes}
    (h : Posting b₀ address length x) : x.length = length + 1 := by
  obtain ⟨data, hd, rfl | ⟨-, rfl⟩⟩ := h
  · rw [Checksum.length_sealed, hd.size]
  · rw [corrupted, List.length_modify, Checksum.length_sealed, hd.size]

/-- A posting that verifies is what the range shows, with its checksum. -/
lemma Posting.shows {b₀ : Board} {address length : Nat} {x : Bytes}
    (h : Posting b₀ address length x) (hv : Checksum.verifies x = true) :
    Shows b₀.localBus address length (x.take length) := by
  obtain ⟨data, hd, rfl | ⟨-, rfl⟩⟩ := h
  · rwa [Checksum.sealed, List.take_left' hd.size]
  · rw [not_verifies_corrupted] at hv
    cases hv

/-- What the execution of a read has posted. -/
lemma HasRead.posting {b₀ b b' : Board} {h : CommandHeader} (hr : HasRead h b b')
    (hcorrupt : b.corruptNext = true → b₀.corruptNext = true) (hs : SameStores b₀ b) :
    Posted b₀ (Posting b₀ h.address.toNat h.length) (h.length + 1) b' := by
  obtain ⟨data, hshows, hlast, hmem⟩ := hr.posted
  rw [hs.1] at hshows
  refine ⟨hs.trans hr.stores, ⟨data, hshows, .inl hlast⟩, fun _ => ⟨data, hshows, ?_⟩⟩
  rw [hmem]
  cases hc : b.corruptNext with
  | false => exact .inl rfl
  | true => exact .inr ⟨hcorrupt hc, rfl⟩

end Board

namespace Channel

variable {σ : Type} {c : Channel σ} {board : σ → Board} {b₀ : Board}

/-- A board in order, on a channel that outlasts the losses to come. -/
structure Ready (c : Channel σ) (b : Board) : Prop where
  mailbox : c.slave.state.allowsMailbox = true
  answers : b.Answers c.slave.station
  settled : b.Settled
  uncorrupted : b.corruptNext = false
  outlasts : c.Outlasts b

/-- A command is built, unless the bus state has no mailboxes or the command is out of
bounds. -/
lemma nextCommand_triple {P : σ → Prop} (build : UInt8 → Except Error MailboxCommand) :
    Triple (fun s : MailboxState × σ => P s.2) (c.nextCommand build)
      (fun command s => (∃ sequence, build sequence = .ok command) ∧ P s.2)
      fun e s => e ≠ .died ∧ P s.2 ∧
        ¬ (c.slave.state.allowsMailbox = true ∧ ∀ sequence, (build sequence).isOk) := by
  refine Triple.bind (Q := fun _ s => c.slave.state.allowsMailbox = true ∧ P s.2)
    (.within _ fun s hs => .ite (fun hm => .pure _ ?_) fun hm => .fail _ ?_) fun _ =>
      Triple.lift fun hm => ?_
  · rintro _ rfl
    exact ⟨hm, hs⟩
  · rintro _ rfl
    exact ⟨Stop.failed_ne_died _, hs, fun hgood => hm hgood.1⟩
  · refine Triple.bind (Q := fun _ s => P s.2) (.within _ fun s hs => .get fun _ _ => hs)
      fun state => ?_
    refine Triple.bind (Q := fun command s => (∃ sequence, build sequence = .ok command) ∧ P s.2)
      (.ofExcept (fun command hb s hs => ⟨⟨_, hb⟩, hs⟩) fun e he s hs => ?_) fun command => ?_
    · refine ⟨Stop.failed_ne_died _, hs, fun hgood => ?_⟩
      have hok := hgood.2 (Mailbox.nextSequence state.sequence)
      rw [he] at hok
      cases hok
    · exact (count_triple (P := fun s => (∃ sequence, build sequence = .ok command) ∧ P s) _).bind
        fun _ => .pure _ fun _ => id

/-- The read that a command asks for. -/
lemma read_ok {address : UInt16} {length : Nat} {sequence : UInt8} {command : MailboxCommand}
    (hb : MailboxCommand.read address length sequence = .ok command) :
    (1 ≤ length ∧ length ≤ Mailbox.maxReadLength) ∧
      command = ⟨⟨address, length, sequence &&& 7, .read⟩, []⟩ := by
  rw [MailboxCommand.read] at hb
  cases hh : CommandHeader.build address length .read sequence with
  | error e =>
    rw [hh] at hb
    cases hb
  | ok h =>
    obtain ⟨hl, rfl⟩ := CommandHeader.build_ok hh
    rw [hh] at hb
    exact ⟨hl, (Except.ok.inj hb).symm⟩

/-- What is known while a read is under way and its command may have been executed: a full
mailbox holds what the command has posted. -/
def Reading (b₀ : Board) (station : UInt16) (address length : Nat) (b : Board) : Prop :=
  SameStores b₀ b ∧
    (b₀.Answers station → b.resultFull = true →
      Posted b₀ (Posting b₀ address length) (length + 1) b)

/-- The command of a read, put into an empty mailbox. -/
lemma put_read_triple (h : c.link.Carries board) {address : UInt16} {length : Nat}
    {sequence : UInt8} {command : MailboxCommand}
    (hb : MailboxCommand.read address length sequence = .ok command) :
    Triple (fun s => b₀.Meets (Reading b₀ c.slave.station address.toNat length) (board s))
      (c.put command.encode)
      (fun _ s => b₀.Meets (fun b => Reading b₀ c.slave.station address.toNat length b ∧
        (b₀.Answers c.slave.station → b₀.Settled → b.resultFull = true)) (board s))
      fun e s => (SameStores b₀ (board s) ∧ (e = .died → 0x10000 < address.toNat + length)) ∧
        ¬ (c.Ready b₀ ∧ address.toNat + length ≤ 0x10000) := by
  obtain ⟨hl, rfl⟩ := read_ok hb
  have hfits : CommandHeader.Fits ⟨address, length, sequence &&& 7, .read⟩ :=
    CommandHeader.fits_of_le_limit hl
  have hlen : (CommandHeader.encode ⟨address, length, sequence &&& 7, .read⟩).length =
      Mailbox.headerSize := CommandHeader.length_encode _
  refine (put_triple (D := fun b => SameStores b₀ b ∧ 0x10000 < address.toNat + length) h
    (fun _ _ hb => ⟨hb.1, fun ha hfull => Posted.blind _ _ (hb.2 ha hfull)⟩) (fun _ hb => hb.1)
    (hlen.trans_le (by decide)) ?_ ?_ ?_).stop_mono ?_
  · -- nobody there
    exact fun b ha hb => ⟨hb, fun ha' => absurd ha' ha⟩
  · -- refused, so the board is not in order
    intro b hfollows hfull hb
    refine ⟨hb, fun _ hs => ?_⟩
    exact absurd hfull (by simp [(hfollows.settled hs).empty])
  · intro b m _ hfollows _ hb hm hrest
    change m.range _ (CommandHeader.encode ⟨address, length, sequence &&& 7, .read⟩).length =
      CommandHeader.encode ⟨address, length, sequence &&& 7, .read⟩ at hm
    rw [hlen] at hm
    by_cases hold : b.holdCommands = true
    · -- a command that is held does not touch the mailbox of results
      rw [accept_held (b := { b with memory := m }) hold]
      refine ⟨⟨hb.1, fun ha hfull => ?_⟩, fun _ hs => ?_⟩
      · obtain ⟨hstores, hlast, hmem⟩ := hb.2 ha hfull
        refine ⟨hstores, hlast, fun _ => ?_⟩
        show Posting b₀ address.toNat length (m.range Mailbox.resultAddress.toNat (length + 1))
        rw [hrest _ _ (by decide)]
        exact hmem hfull
      · exact absurd hold (by simp [(hfollows.settled hs).executes])
    · have hold' : b.holdCommands = false := by simpa using hold
      refine (accept_read (b := { b with memory := m }) hold' hfits rfl hl.2 hm).imp ?_ ?_
      · rintro _ b' ⟨hread, -⟩
        have hposted := hread.posting hfollows.corruptNext hb.1
        exact ⟨⟨hposted.stores, fun _ _ => hposted⟩, fun _ _ => hread.full⟩
      · exact fun _ b' hd => ⟨hb.1.trans hd.1, hd.2⟩
  · rintro _ s (⟨-, hd⟩ | ⟨he, hs, hbad⟩)
    · exact ⟨⟨hd.1, fun _ => hd.2⟩, fun hgood => absurd hgood.2 (by omega)⟩
    · exact ⟨⟨hs.2.1, fun hdied => absurd hdied he⟩, fun hgood => hbad ⟨hgood.1.answers,
        hgood.1.settled, hgood.1.outlasts.losses, hgood.1.outlasts.write⟩⟩

/-- The first three stages of a read.  When they end well, the board is there and its
mailbox holds what the command has posted. -/
lemma request_triple (h : c.link.Carries board) {address : UInt16} {length : Nat}
    {sequence : UInt8} {command : MailboxCommand}
    (hb : MailboxCommand.read address length sequence = .ok command) :
    Triple (fun s => b₀.Meets (SameStores b₀) (board s))
      (do
        c.clear
        c.put command.encode
        c.await Mailbox.resultManager true)
      (fun _ s => b₀.Answers c.slave.station ∧ b₀.Meets (fun b =>
        Posted b₀ (Posting b₀ address.toNat length) (length + 1) b ∧ b.resultFull = true) (board s))
      fun e s => (SameStores b₀ (board s) ∧ (e = .died → 0x10000 < address.toNat + length)) ∧
        ¬ (c.Ready b₀ ∧ address.toNat + length ≤ 0x10000) := by
  refine ((clear_triple h (J := SameStores b₀) (fun _ _ hs => hs) fun _ hs => hs).stop_mono
    ?_).bind fun _ => ((put_read_triple h hb).pre ?_).bind fun _ => ?_
  · rintro e s ⟨he, hs, hbad⟩
    exact ⟨⟨hs.2, fun hdied => absurd hdied he⟩,
      fun hgood => hbad ⟨hgood.1.outlasts.losses, hgood.1.outlasts.clear⟩⟩
  · -- the mailbox is empty now
    rintro s ⟨hfollows, hs, hempty⟩
    exact ⟨hfollows, hs, fun ha hfull => absurd hfull (by simp [hempty ha])⟩
  · refine (await_triple h (J := fun b => Reading b₀ c.slave.station address.toNat length b ∧
      (b₀.Answers c.slave.station → b₀.Settled → b.resultFull = true)) ?_ isManager_result
      true).mono (fun _ => id) ?_ ?_
    · exact fun b fs hs => ⟨⟨hs.1.1, fun ha hfull => Posted.blind _ _ (hs.1.2 ha hfull)⟩, hs.2⟩
    · rintro _ s ⟨⟨hfollows, hs, -⟩, hfound, hsilent⟩
      -- where no board answers the mailbox looks empty, and the wait does not end well
      by_cases ha : b₀.Answers c.slave.station
      · exact ⟨ha, hfollows, hs.2 ha (hfound ha), hfound ha⟩
      · cases hsilent ha
    · rintro e s ⟨he, ⟨-, hs, hfull⟩, hmissed⟩
      refine ⟨⟨hs.1, fun hdied => absurd hdied he⟩, fun hgood => hmissed ⟨hgood.1.answers,
        hgood.1.outlasts.light, ?_⟩⟩
      exact hfull hgood.1.answers hgood.1.settled

/-- The stages of a read together.  When it ends well, a board has answered and it gives what
the range shows; and it fails only if the range or the board is not in order, or if there are
too many faults.  Only a range outside of the local bus kills the board. -/
theorem readHeld_triple (h : c.link.Carries board) (b₀ : Board) (address : UInt16)
    (length : Nat) :
    Triple (fun s : MailboxState × σ => b₀.Meets (SameStores b₀) (board s.2))
      (c.readHeld address length)
      (fun data s => (b₀.Answers c.slave.station ∧ b₀.Follows (board s.2)) ∧
        SameStores b₀ (board s.2) ∧ Shows b₀.localBus address.toNat length data)
      fun e s => (SameStores b₀ (board s.2) ∧ (e = .died → 0x10000 < address.toNat + length)) ∧
        ¬ (c.Ready b₀ ∧ (1 ≤ length ∧ length ≤ Mailbox.maxReadLength) ∧
          address.toNat + length ≤ 0x10000) := by
  have hnext := nextCommand_triple (c := c) (P := fun s => b₀.Meets (SameStores b₀) (board s))
    (MailboxCommand.read address length)
  refine (hnext.stop_mono ?_).bind fun command => Triple.lift fun hb => ?_
  · rintro e s ⟨he, hs, hbad⟩
    refine ⟨⟨hs.2, fun hdied => absurd hdied he⟩,
      fun hgood => hbad ⟨hgood.1.mailbox, fun sequence => ?_⟩⟩
    rw [MailboxCommand.read, CommandHeader.build_eq hgood.2.1]
    rfl
  · obtain ⟨sequence, hb⟩ := hb
    have hl := (read_ok hb).1
    have hn : length + 1 < Mailbox.size := Mailbox.length_result_lt hl.2
    refine ((request_triple h hb).second.stop_mono ?_).bind fun _ => Triple.lift fun ha => ?_
    · exact fun e s hs => ⟨hs.1, fun hgood => hs.2 ⟨hgood.1, hgood.2.2⟩⟩
    · have hfetch := fetchFrom_triple (G := Posting b₀ address.toNat length) h ha
        (fun _ hx => hx.length) hn c.limits.readTries 0 (.refl _) (c.allCount_resultFrame _)
      refine ((hfetch.pre fun s hs => ?_).stop_mono ?_).bind fun result =>
        .ite (fun hv => ?_) fun hv => ?_
      · exact ⟨hs, fun hgood => Nat.lt_of_le_of_lt hs.1.faults.length_le hgood.2.tries⟩
      · rintro e s ⟨he, hs, hbad⟩
        exact ⟨⟨hs.2.stores, fun hdied => absurd hdied he⟩,
          fun hgood => hbad ⟨hgood.1.settled, hgood.1.outlasts⟩⟩
      · exact .pure _ fun s hs => ⟨⟨ha, hs.1.1⟩, hs.1.2.stores, hs.2.shows hv⟩
      · refine .fail _ fun s hs => ⟨⟨hs.1.2.stores, fun hdied => by cases hdied⟩,
          fun hgood => hv ?_⟩
        -- nothing was to be corrupted, so the posting verifies
        obtain ⟨data, -, rfl | ⟨hc, -⟩⟩ := hs.2
        · exact Checksum.verifies_sealed data
        · exact absurd hc (by simp [hgood.1.uncorrupted])

/-- What a read does under its lock, a lock that is poisoned included.  A board has answered
if it ends well, and the board dies of it only if the range is outside of the local bus. -/
lemma read_answered_triple (h : c.link.Carries board) (b₀ : Board) (address : UInt16)
    (length : Nat) :
    Triple (fun t : Mailbox × σ => b₀.Meets (SameStores b₀) (board t.2)) (c.read address length)
      (fun data t => (b₀.Answers c.slave.station ∧ b₀.Follows (board t.2)) ∧
        SameStores b₀ (board t.2) ∧ Shows b₀.localBus address.toNat length data)
      fun e t => SameStores b₀ (board t.2) ∧ (e = .died → 0x10000 < address.toNat + length) := by
  refine Guarded.locked_triple (P := fun s => b₀.Meets (SameStores b₀) (board s))
    (Q := fun data s => (b₀.Answers c.slave.station ∧ b₀.Follows (board s)) ∧
      SameStores b₀ (board s) ∧ Shows b₀.localBus address.toNat length data)
    (E := fun e s => SameStores b₀ (board s) ∧ (e = .died → 0x10000 < address.toNat + length))
    ?_ fun _ _ hs => ⟨hs.2, fun hdied => by cases hdied⟩
  exact ((readHeld_triple h b₀ address length).stop_mono fun _ _ hs => hs.1).onFailure
    fun _ _ hs => hs

/-- What a read does under its lock, a lock that is poisoned included. -/
lemma read_triple (h : c.link.Carries board) (b₀ : Board) (address : UInt16) (length : Nat) :
    Triple (fun t : Mailbox × σ => b₀.Meets (SameStores b₀) (board t.2)) (c.read address length)
      (fun data t => SameStores b₀ (board t.2) ∧ Shows b₀.localBus address.toNat length data)
      fun _ t => SameStores b₀ (board t.2) :=
  (read_answered_triple h b₀ address length).mono (fun _ => id) (fun _ _ ht => ht.2)
    fun _ _ ht => ht.1

/-- A read of a board in order returns, unless the lock was poisoned. -/
lemma read_returns (h : c.link.Carries board) {address : UInt16} {length : Nat} {m : Mailbox}
    {s : σ} (hm : m.lock ≠ .poisoned) (hready : c.Ready (board s))
    (hl : 1 ≤ length ∧ length ≤ Mailbox.maxReadLength)
    (hin : address.toNat + length ≤ 0x10000) :
    ∃ data m' s', c.read address length (m, s) = (.ok data, m', s') := by
  have ht := Guarded.unpoisoned_triple
    (((readHeld_triple h (board s) address length).stop_mono fun _ _ hs =>
      hs.2 ⟨hready, hl, hin⟩).onFailure (f := fun s => (s.1.countReadError, s.2))
        fun _ _ hs => hs) (P := fun t => (board s).Meets (SameStores (board s)) (board t))
    (Q := fun data t => ((board s).Answers c.slave.station ∧ (board s).Follows (board t)) ∧
      SameStores (board s) (board t) ∧ Shows (board s).localBus address.toNat length data)
    (E := fun _ _ => False)
  obtain ⟨data, ⟨m', s'⟩, hr, -⟩ := ht.exists_result (s := (m, s)) ⟨hm, .refl _, rfl, rfl⟩
  exact ⟨data, m', s', hr⟩

/-- Whatever state the board is in and whatever faults hit the frames: a read that gives
bytes gives those that the range shows, and no read changes what the board stores. -/
theorem read_sound (h : c.link.Carries board) {address : UInt16} {length : Nat}
    {m m' : Mailbox} {s s' : σ} {r : Except Stop Bytes}
    (hr : c.read address length (m, s) = (r, m', s')) :
    (∀ data, r = .ok data → Shows (board s).localBus address.toNat length data) ∧
      SameStores (board s) (board s') := by
  have ht := read_triple h (board s) address length (m, s) ⟨.refl _, rfl, rfl⟩
  rw [hr] at ht
  cases r with
  | ok data =>
    refine ⟨?_, ht.1⟩
    rintro _ ⟨⟩
    exact ht.2
  | error e =>
    refine ⟨fun data hdata => ?_, ht⟩
    cases hdata

/-- A stale result is in the mailbox, and the first answer with the new one is lost.  The
read gives what the range shows all the same. -/
theorem read_sound_stale_and_lost :
    let c : Channel Ring := ⟨Ring.link, ⟨1, 0, 0, 0, 0, .op⟩, {}⟩
    let b : Board :=
      ({ station := 1, position := 0 } : Board).postGarbage.inject .resultRead .loseResponse 1
    ∃ data m' r', c.read 0x10 2 (Mailbox.fresh, ⟨b, 0⟩) = (.ok data, m', r') ∧
      Shows b.localBus 0x10 2 data ∧ SameStores b r'.board := by
  intro c b
  have hcarries : c.link.Carries Ring.board := Ring.carries
  have hready : c.Ready (Ring.board ⟨b, 0⟩) := by
    refine ⟨rfl, ⟨rfl, rfl⟩, ⟨rfl, rfl, rfl, rfl⟩, rfl, ?_, ?_, ?_, ?_, ?_, ?_⟩
    · exact (OnlyLosses.of_none rfl).inject rfl 1
    all_goals decide
  have hl : 1 ≤ 2 ∧ 2 ≤ Mailbox.maxReadLength := by decide
  have hin : (0x10 : UInt16).toNat + 2 ≤ 0x10000 := by decide
  obtain ⟨data, m', r', hr⟩ := read_returns hcarries (m := Mailbox.fresh) (by decide)
    hready hl hin
  have hs := read_sound hcarries hr
  exact ⟨data, m', r', hr, hs.1 data rfl, hs.2⟩

end Channel

end MotorBoard
