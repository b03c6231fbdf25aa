/-
# Splitting a transfer changes nothing

Whether a transfer is split or moves the whole mailbox is a matter of speed.  It is decided by
one of the limits, the overhead of a telegram, so two channels over the same ring may split
different transfers.  They send different telegrams then and leave different bytes behind in
the mailbox of commands, but that is all: the boards stay twins, and all that a channel finds
out about a board is the same for twins.

The registers of twins look alike, so the stages that look at nothing else need no more than
that.  The transfers are gone through one by one, each with the frames that it sends.  The main
result is

* `Channel.splitting_unseen`: any requests, one after the other, give the same results and leave
  the same board and the same mailbox behind.
-/
import MotorBoard.Proofs.Board.Twins
import MotorBoard.Proofs.Mailbox.Pairs
import MotorBoard.Proofs.Mailbox.Writing

namespace MotorBoard

open Call Board

/-- What two senders have after their last attempts with frames that are treated alike. -/
structure SameDelivery (frame frame' : List Telegram) (n : Nat) (d d' : Delivery) : Prop where
  returned : d'.returned = d.returned
  sends : d'.sends = d.sends
  telegrams : Paired frame frame' n d.telegrams d'.telegrams

namespace SameDelivery

variable {frame frame' : List Telegram} {n : Nat} {d d' : Delivery}

lemma data (h : SameDelivery frame frame' n d d') : d'.data.take n = d.data.take n :=
  h.telegrams.data

/-- To a stage that looks at no more than `n` bytes the deliveries look alike: all counters of
both are the same, so neither of the two counters of a split frame can differ from the other. -/
lemma resembles (h : SameDelivery frame frame' n d d') {p p' : Prop} [Decidable p] [Decidable p']
    (hl : frame.length = if p then 2 else 1) (hl' : frame'.length = if p' then 2 else 1)
    {S : Bytes → Bytes → Prop} (hS : S d.data d'.data) : Delivery.Resembles p p' S d d' := by
  obtain ⟨r, ts, k⟩ := d
  obtain ⟨r', ts', k'⟩ := d'
  obtain ⟨w, hw, hw'⟩ := h.telegrams.counters
  obtain ⟨h0, h1⟩ := hw.counters (h.telegrams.left.length_eq.symm.trans hl) r k
  obtain ⟨h0', h1'⟩ := hw'.counters (h.telegrams.right.length_eq.symm.trans hl') r' k'
  have hsame : ¬ (p ∧ Delivery.counter ⟨r, ts, k⟩ 0 ≠ Delivery.counter ⟨r, ts, k⟩ 1) :=
    fun hp => hp.2 (h0.trans (h1 hp.1).symm)
  have hsame' : ¬ (p' ∧ Delivery.counter ⟨r', ts', k'⟩ 0 ≠ Delivery.counter ⟨r', ts', k'⟩ 1) :=
    fun hp => hp.2 (h0'.trans (h1' hp.1).symm)
  exact
    { returned := h.returned
      sends := h.sends
      counter := h0'.trans h0.symm
      second := fun hp hp' => (h1' hp').trans (h1 hp).symm
      differ := iff_of_false hsame hsame'
      data := hS }

end SameDelivery

namespace Ring

/-- Two rings with twins on them, at the same time. -/
def Twins (r r' : Ring) : Prop := Board.Twins r.board r'.board ∧ r'.clock = r.clock

lemma now_agree : Agree Twins Eq link.now link.now := fun _ _ h => .ok h.2.symm h

lemma wait_agree (us : Nat) : Agree Twins Eq (link.wait us) (link.wait us) :=
  .modify fun _ _ h => ⟨h.1, congrArg (· + us) h.2⟩

lemma untilSettled_agree : Agree Twins Eq link.untilSettled link.untilSettled := by
  rintro ⟨b, t⟩ ⟨b', t'⟩ ⟨⟨m, hm⟩, ht⟩
  exact .ok rfl ⟨.mk m hm, ht⟩

variable {frame frame' ts ts' : List Telegram} {n : Nat}

lemma sendOnce_agree (h : TreatedAlike frame frame' n) (hp : Paired frame frame' n ts ts') :
    Agree Twins (SameDelivery frame frame' n) (link.sendOnce ts) (link.sendOnce ts') := by
  rintro ⟨b, t⟩ ⟨b', t'⟩ ⟨hb, ht⟩
  have hlink : ∀ us r, link.exchange us r =
      ((r.board.exchange us).1, { r with board := (r.board.exchange us).2 }) := fun _ _ => rfl
  have hx := h.exchange hp hb
  rw [Link.sendOnce, Link.sendOnce, hlink, hlink]
  revert hx
  rcases b.exchange ts with ⟨us | us | _, b₁⟩ <;>
    rcases b'.exchange ts' with ⟨us' | us' | _, b₁'⟩ <;> rintro ⟨⟩
  · exact .ok ⟨rfl, rfl, ‹_›⟩ ⟨‹_›, ht⟩
  · rename_i hp' hb'
    exact .ok ⟨rfl, rfl, hp'.withCounter 0⟩ ⟨hb', ht⟩
  · exact .stop ⟨‹_›, ht⟩

/-- Frames that are treated alike are sent until they come back, equally often. -/
lemma send_agree (h : TreatedAlike frame frame' n) (hp : Paired frame frame' n ts ts') (k : Nat) :
    Agree Twins (SameDelivery frame frame' n) (link.send ts k) (link.send ts' k) := by
  induction k generalizing ts ts' with
  | zero => exact .pure ⟨rfl, rfl, hp⟩
  | succ k ih =>
    refine (sendOnce_agree h hp).bind fun d d' hd => .ite (by rw [hd.returned]) (fun _ => .pure hd)
      fun _ => (ih hd.telegrams).bind fun e e' he => .pure ?_
    exact ⟨he.returned, congrArg (· + 1) he.sends, he.telegrams⟩

/-- What is read comes back alike, byte for byte. -/
lemma readMemory_agree {station address : UInt16}
    (h : TreatedAlike [.read .station station address n] [.read .station station address n] n) :
    Agree Twins Eq (link.readMemory .station station address n)
      (link.readMemory .station station address n) := by
  have hlen : (firstData [.read .station station address n]).length ≤ n :=
    Nat.le_of_eq List.length_replicate
  have hc : Telegram.AllCount 0 [.read .station station address n] := by
    simp [Telegram.AllCount, Telegram.read]
  have hsent := send_agree h (.start hc hc rfl) Link.plainAttempts
  refine Link.insist_agree (hsent.result_mono fun d d' hd => hd.resembles rfl rfl ?_) _
  exact (hd.telegrams.firstData_eq hlen hlen).symm

/-- A writer does not look at what its telegram brings back. -/
lemma writeMemory_agree {station address : UInt16} {data : Bytes}
    (h : TreatedAlike [.write .station station address data]
      [.write .station station address data] 0) :
    Agree Twins Eq (link.writeMemory .station station address data)
      (link.writeMemory .station station address data) := by
  have hc : Telegram.AllCount 0 [.write .station station address data] := by
    simp [Telegram.AllCount, Telegram.write]
  have hsent := send_agree h (.start hc hc rfl) Link.plainAttempts
  have hinsist : Agree Twins (fun _ _ => True)
      (link.insist (.write .station station address data)
        s!"write of 0x{Text.hex 4 address.toNat}")
      (link.insist (.write .station station address data)
        s!"write of 0x{Text.hex 4 address.toNat}") :=
    Link.insist_agree (hsent.result_mono fun _ _ hd => hd.resembles rfl rfl trivial) _
  exact hinsist.bind fun _ _ _ => .pure rfl

lemma readStatus_agree (slave : Slave) {manager : UInt8} (hm : IsManager manager) :
    Agree Twins Eq
      (link.readMemory .station slave.station (SyncManager.statusAddress manager) 1)
      (link.readMemory .station slave.station (SyncManager.statusAddress manager) 1) := by
  obtain rfl | rfl := hm <;> exact readMemory_agree (registers_alike (by decide) (by decide))

lemma readManager_agree (slave : Slave) {manager : UInt8} (hm : IsManager manager) :
    Agree Twins Eq (SyncManager.read link slave manager) (SyncManager.read link slave manager) := by
  refine (readMemory_agree (n := SyncManager.size) ?_).bind_eq fun raw => .ofExcept _
  obtain rfl | rfl := hm <;> exact registers_alike (by decide) (by decide)

end Ring

namespace Channel

/-- Two channels over a ring that differ at most in which transfers they split. -/
inductive Resplit : Channel Ring → Channel Ring → Prop
  | mk (slave : Slave) (limits : MailboxLimits) (overhead : Nat) :
    Resplit ⟨Ring.link, slave, limits⟩
      ⟨Ring.link, slave, { limits with telegramOverhead := overhead }⟩

variable {c c' : Channel Ring} (h : c.Resplit c')

include h

lemma Resplit.kindred : c.Kindred Ring.Twins c' := by
  obtain ⟨slave, limits, overhead⟩ := h
  exact .mk slave limits overhead
    { now := Ring.now_agree
      wait := Ring.wait_agree
      untilSettled := Ring.untilSettled_agree
      readStatus := fun _ hm => Ring.readStatus_agree slave hm
      readManager := fun _ hm => Ring.readManager_agree slave hm
      writeActivate := fun _ => Ring.writeMemory_agree (activate_alike _) }

lemma clear_agree : Agree Ring.Twins Eq c.clear c'.clear := by
  refine h.kindred.clear_agree ?_
  obtain ⟨slave, limits, overhead⟩ := h
  have htakes := clearFrame_takes ⟨Ring.link, slave, limits⟩
  have hc : Telegram.AllCount 0 (clearFrame (⟨Ring.link, slave, limits⟩ : Channel Ring)) := by
    simp [Telegram.AllCount, clearFrame, Telegram.read]
  have hsent := Ring.send_agree (takes_alike htakes htakes fun _ => rfl) (.start hc hc rfl)
    limits.clearAttempts
  exact hsent.result_mono fun _ _ hd => hd.resembles rfl rfl trivial

lemma put_agree {command : Bytes} (hn : command.length ≤ Mailbox.size)
    (haccept : AcceptedAlike command) : Agree Ring.Twins Eq (c.put command) (c'.put command) := by
  have hputs := c.commandFrame_puts hn
  have hputs' := c'.commandFrame_puts hn
  have hstart : Paired (c.commandFrame command) (c'.commandFrame command) 0 _ _ :=
    .start (c.allCount_commandFrame _) (c'.allCount_commandFrame _) rfl
  have hlen := c.length_commandFrame command
  have hlen' := c'.length_commandFrame command
  refine h.kindred.put_agree ?_
  obtain ⟨slave, limits, overhead⟩ := h
  have hsent := Ring.send_agree (puts_alike hputs hputs' haccept) hstart limits.writeAttempts
  exact hsent.result_mono fun _ _ hd => hd.resembles hlen hlen' trivial

lemma fetch_agree {n : Nat} (hn : 1 < n) (hn' : n < Mailbox.size) :
    Agree (Beside MailboxState Ring.Twins) Eq (c.fetch n) (c'.fetch n) := by
  have htakes := c.resultFrame_takes hn'
  have htakes' := c'.resultFrame_takes hn'
  have hlen := c.length_resultFrame n
  have hlen' := c'.length_resultFrame n
  -- there is room for the result in both frames, and nothing in it yet
  have hroom : ∀ c : Channel Ring, (firstData (c.resultFrame n)).take n = Bytes.zeros n := by
    intro c
    rw [resultFrame]
    split
    · exact List.take_of_length_le (Nat.le_of_eq List.length_replicate)
    · refine List.take_replicate.trans ?_
      rw [Nat.min_eq_left (Nat.le_of_lt hn'), Bytes.zeros]
  have hstart : Paired (c.resultFrame n) (c'.resultFrame n) n _ _ :=
    .start (c.allCount_resultFrame n) (c'.allCount_resultFrame n)
      ((hroom c').trans (hroom c).symm)
  have halike : TreatedAlike (c.resultFrame n) (c'.resultFrame n) n := by
    obtain ⟨slave, limits, overhead⟩ := h
    refine takes_alike htakes htakes' fun t => ?_
    rw [htakes.matchesFrame hn, htakes'.matchesFrame hn]
  have hfetch := h.kindred.fetchFrom_agree (n := n)
    (T := Paired (c.resultFrame n) (c'.resultFrame n) n) ?sent c.limits.readTries hstart 0
  case sent =>
    intro ts ts' hp
    obtain ⟨slave, limits, overhead⟩ := h
    refine (Ring.send_agree halike hp _).result_mono fun d d' hd => ⟨hd.telegrams, ?_⟩
    exact hd.resembles hlen hlen' hd.data
  obtain ⟨slave, limits, overhead⟩ := h
  exact hfetch

lemma readHeld_agree (address : UInt16) (length : Nat) :
    Agree (Beside MailboxState Ring.Twins) Eq (c.readHeld address length)
      (c'.readHeld address length) := by
  refine h.kindred.readHeld_agree fun sequence command hb => ?_
  obtain ⟨hl, rfl⟩ := read_ok hb
  refine ⟨clear_agree h, put_agree h ?room ?accepted, fetch_agree h ?more ?less⟩
  case room => exact (CommandHeader.length_encode _).trans_le (by decide)
  case accepted => exact accept_read_twins (CommandHeader.fits_of_le_limit hl) rfl
  case more => omega
  case less => exact Mailbox.length_result_lt hl.2

lemma writeHeld_agree (address : UInt16) (data : Bytes) :
    Agree (Beside MailboxState Ring.Twins) Eq (c.writeHeld address data)
      (c'.writeHeld address data) := by
  refine h.kindred.writeHeld_agree fun sequence command hb => ?_
  obtain ⟨hl, rfl⟩ := write_ok hb
  refine put_agree h ?room ?accepted
  case room => exact MailboxCommand.length_encode_le hl.2
  case accepted => exact accept_write_twins (CommandHeader.fits_of_le_limit hl) rfl rfl

omit h

/-! Requests one after the other. -/

variable {σ : Type}

/-- Serves requests one after the other, whatever comes of each, and collects the results. -/
def serveAll (c : Channel σ) : List Request → Mailbox × σ → List (Except Stop Bytes) × Mailbox × σ
  | [], s => ([], s)
  | request :: rest, s =>
    let (result, s) := c.serve request s
    let (results, s) := c.serveAll rest s
    (result :: results, s)

include h in
lemma serve_agree (request : Request) :
    Agree (Beside Mailbox Ring.Twins) Eq (c.serve request) (c'.serve request) :=
  serve_agree_of_held (readHeld_agree h) (writeHeld_agree h) request

include h in
lemma serveAll_agree (requests : List Request) {s s' : Mailbox × Ring}
    (hs : Beside Mailbox Ring.Twins s s') :
    (c'.serveAll requests s').1 = (c.serveAll requests s).1 ∧
      Beside Mailbox Ring.Twins (c.serveAll requests s).2 (c'.serveAll requests s').2 := by
  induction requests generalizing s s' with
  | nil => exact ⟨rfl, hs⟩
  | cons request rest ih =>
    have hserve := serve_agree h request s s' hs
    simp only [serveAll]
    revert hserve
    rcases c.serve request s with ⟨e | a, t⟩ <;>
      rcases c'.serve request s' with ⟨e' | a', t'⟩ <;> rintro ⟨⟩
    · obtain ⟨hresults, ht⟩ := ih ‹_›
      exact ⟨congrArg _ hresults, ht⟩
    · rename_i ha ht
      obtain ⟨hresults, ht⟩ := ih ht
      exact ⟨by rw [ha, hresults], ht⟩

/-- Whatever the state of the board and its faults, and whatever is asked for: two channels
that differ only in which transfers they split give the same results, and they leave the same
mailbox, the same clock and the same board behind, apart from bytes in the memory of the
slave. -/
theorem splitting_unseen (slave : Slave) (limits : MailboxLimits) (overhead : Nat)
    (requests : List Request) (m : Mailbox) (r : Ring) :
    let ran := serveAll ⟨Ring.link, slave, limits⟩ requests (m, r)
    let ran' := serveAll ⟨Ring.link, slave, { limits with telegramOverhead := overhead }⟩
      requests (m, r)
    ran'.1 = ran.1 ∧ ran'.2.1 = ran.2.1 ∧ ran'.2.2.clock = ran.2.2.clock ∧
      ∃ memory, ran'.2.2.board = { ran.2.2.board with memory := memory } := by
  obtain ⟨hresults, hmailbox, hboard, hclock⟩ :=
    serveAll_agree (.mk slave limits overhead) requests
      (show Beside Mailbox Ring.Twins (m, r) (m, r) from ⟨rfl, .refl _, rfl⟩)
  exact ⟨hresults, hmailbox.symm, hclock, hboard.exists_memory⟩

end Channel

end MotorBoard
