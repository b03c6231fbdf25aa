/-
# A mailbox recovers from anything that it survives

Between calls everything may happen to a board except that it is set up in another way:
faults are queued, stale results appear, a result is to be corrupted.  Calls may fail for
whatever reason.  As long as none of them dies or waits forever, two things hold whenever no
call is under way: nobody holds the lock of the mailbox, and the board is settled, so that
it owes neither an execution nor a repeated result.

So no call leaves anything behind that the next one could stumble over, and it only has to
outlast the losses that are still to come.  The main results are

* `Mailbox.Reachable.inOrder`: what holds between any two calls;
* `Mailbox.Reachable.recovers`: a call that outlasts the losses to come succeeds.
-/
import MotorBoard.Proofs.Mailbox.Keeping
import MotorBoard.Proofs.Mailbox.Writing

namespace MotorBoard

open Call Board

/-- A call under a lock leaves the lock free when it returns. -/
lemma Guarded.locked_free {α β σ : Type} [CountsLockErrors α] {m : Call (α × σ) β}
    {g g' : Guarded α} {s s' : σ} {r : Except Stop β} (hm : locked m (g, s) = (r, g', s'))
    (hr : Returned r) : g'.lock = .free := by
  by_cases hg : g.lock = .poisoned
  · rw [locked_poisoned hg] at hm
    cases hm
    rfl
  · rw [locked_eq hg] at hm
    rcases hx : m (g.value, s) with ⟨(e | _ | _) | b, v, t⟩ <;> rw [hx] at hm <;> cases hm
    · rfl
    · exact absurd rfl hr.1
    · exact absurd rfl hr.2
    · rfl

/-- Something happened to a board from outside of the ring.  It may have changed anything but
how the board is set up, and what it owes. -/
structure Board.Touched (b b' : Board) : Prop where
  supportsRepeat : b'.supportsRepeat = b.supportsRepeat
  holdCommands : b'.holdCommands = b.holdCommands
  commandFull : b'.commandFull = b.commandFull
  repeatRequest : b'.repeatRequest = b.repeatRequest
  repeatAck : b'.repeatAck = b.repeatAck

namespace Board.Touched

variable {b b' : Board}

lemma inject (trigger : Trigger) (fault : Fault) (times : Nat) (b : Board) :
    b.Touched (b.inject trigger fault times) :=
  ⟨rfl, rfl, rfl, rfl, rfl⟩

lemma settled (h : b.Touched b') (hs : b.Settled) : b'.Settled where
  repeats := h.supportsRepeat.trans hs.repeats
  executes := h.holdCommands.trans hs.executes
  empty := h.commandFull.trans hs.empty
  acknowledged := (h.repeatAck.trans hs.acknowledged).trans h.repeatRequest.symm

end Board.Touched

namespace Mailbox

variable {σ : Type}

/-- The states between the calls on a mailbox.  In the beginning the mailbox is fresh and the
board is settled; then there are calls that return, by handles to any slaves and with any
limits, and things happen to the board. -/
inductive Reachable (link : Link σ) (board : σ → Board) : Mailbox → σ → Prop
  | fresh {s : σ} : (board s).Settled → Reachable link board Mailbox.fresh s
  | touched {m : Mailbox} {s s' : σ} :
      Reachable link board m s → (board s).Touched (board s') → Reachable link board m s'
  | read {m m' : Mailbox} {s s' : σ} {c : Channel σ} {address : UInt16} {length : Nat}
      {r : Except Stop Bytes} :
      Reachable link board m s → c.link = link →
      c.read address length (m, s) = (r, m', s') → Returned r → Reachable link board m' s'
  | write {m m' : Mailbox} {s s' : σ} {c : Channel σ} {address : UInt16} {data : Bytes}
      {r : Except Stop Unit} :
      Reachable link board m s → c.link = link →
      c.write address data (m, s) = (r, m', s') → Returned r → Reachable link board m' s'
  | counters {m : Mailbox} {s : σ} :
      Reachable link board m s → Reachable link board m.counters.2 s

variable {board : σ → Board}

/-- Counters are copied under the lock and leave it free. -/
lemma counters_free (m : Mailbox) : m.counters.2.lock = .free := by
  rw [counters, Guarded.update]
  split <;> rfl

/-- Between two calls nobody holds the lock, and the board is settled. -/
theorem Reachable.inOrder {link : Link σ} {m : Mailbox} {s : σ} (h : link.Carries board)
    (hr : Reachable link board m s) : m.lock = .free ∧ (board s).Settled := by
  -- frames keep what is settled, and a call that returns has freed its lock
  induction hr with
  | fresh hs => exact ⟨rfl, hs⟩
  | touched _ htouched ih => exact ⟨ih.1, htouched.settled ih.2⟩
  | @read m m' s s' c address length r _ hc hcall hret ih =>
    subst hc
    have hkeeps := Channel.read_keeps (h.keeps_follows (board s)) address length
    have hfollows := hkeeps.after (.refl (board s)) hcall fun e he hd => hret.1 (hd ▸ he)
    exact ⟨Guarded.locked_free hcall hret, hfollows.settled ih.2⟩
  | @write m m' s s' c address data r _ hc hcall hret ih =>
    subst hc
    have hkeeps := Channel.write_keeps (h.keeps_follows (board s)) address data
    have hfollows := hkeeps.after (.refl (board s)) hcall fun e he hd => hret.1 (hd ▸ he)
    exact ⟨Guarded.locked_free hcall hret, hfollows.settled ih.2⟩
  | counters _ ih => exact ⟨counters_free _, ih.2⟩

/-- Whatever happened before: when the board is there, nothing is to be corrupted, and only
losses are to come that are fewer than any stage of a call can take, then a read gives the
bytes on the local bus, and a write stores its bytes and nothing else. -/
theorem Reachable.recovers {c : Channel σ} {m : Mailbox} {s : σ} (h : c.link.Carries board)
    (hr : Reachable c.link board m s) (hmailbox : c.slave.state.allowsMailbox = true)
    (ha : (board s).Answers c.slave.station) (hcorrupt : (board s).corruptNext = false)
    (hlosses : c.Outlasts (board s)) :
    (∀ address length, 1 ≤ length ∧ length ≤ maxReadLength →
      address.toNat + length ≤ 0x10000 →
      ∃ data m' s', c.read address length (m, s) = (.ok data, m', s') ∧
        Shows (board s).localBus address.toNat length data ∧
        (covers address.toNat length SpiCommand.controlAddress.toNat = false →
          data = (board s).localBus.range address.toNat length)) ∧
    ∀ address data, 1 ≤ data.length ∧ data.length ≤ maxWriteLength →
      address.toNat + data.length ≤ 0x10000 →
      covers address.toNat data.length SpiCommand.controlAddress.toNat = false →
      ∃ m' s', c.write address data (m, s) = (.ok (), m', s') ∧
        Stored (board s).localBus address.toNat data (board s').localBus := by
  obtain ⟨hfree, hsettled⟩ := hr.inOrder h
  have hlock : m.lock ≠ .poisoned := by simp [hfree]
  have hready : c.Ready (board s) := ⟨hmailbox, ha, hsettled, hcorrupt, hlosses⟩
  constructor
  · intro address length hl hin
    obtain ⟨data, m', s', hcall⟩ := Channel.read_returns h hlock hready hl hin
    have hdone := (Channel.read_triple h (board s) address length).result
      ⟨.refl _, rfl, rfl⟩ hcall
    exact ⟨data, m', s', hcall, hdone.2, hdone.2.eq_range⟩
  · intro address data hl hin hc
    obtain ⟨m', s', hcall⟩ := Channel.write_returns h hlock hready hl hin hc
    have hdone := (Channel.write_triple h (board s) ha address data hc).result
      ⟨.refl _, rfl, .inl rfl⟩ hcall
    exact ⟨m', s', hcall, hdone.2⟩

/-- The answer to a read is lost, and afterwards two more answers to what follows.  The write
that comes next stores its bytes all the same. -/
theorem Reachable.recovers_lost_again :
    let c : Channel Ring := ⟨Ring.link, ⟨1, 0, 0, 0, 0, .op⟩, {}⟩
    let b : Board := ({ station := 1, position := 0 } : Board).inject .resultRead .loseResponse 1
    let again (r : Ring) : Ring := { r with board := r.board.inject .commandWrite .loseResponse 2 }
    let data : Bytes := [1, 2, 3]
    ∃ held m r, c.read 0x10 2 (Mailbox.fresh, ⟨b, 0⟩) = (.ok held, m, r) ∧
      ∃ m' r', c.write 0x10 data (m, again r) = (.ok (), m', r') ∧
        Stored r.board.localBus 0x10 data r'.board.localBus := by
  intro c b again data
  have hcarries : c.link.Carries Ring.board := Ring.carries
  have hready : c.Ready (Ring.board ⟨b, 0⟩) := by
    refine ⟨rfl, ⟨rfl, rfl⟩, ⟨rfl, rfl, rfl, rfl⟩, rfl, ?_, ?_, ?_, ?_, ?_, ?_⟩
    · exact (OnlyLosses.of_none rfl).inject rfl 1
    all_goals decide
  have hin : (0x10 : UInt16).toNat + 2 ≤ 0x10000 := by decide
  obtain ⟨held, m, r, hread⟩ := Channel.read_returns hcarries (m := Mailbox.fresh) (by decide)
    hready (by decide) hin
  have hfollows : b.Follows r.board :=
    (Channel.read_keeps (hcarries.keeps_follows b) 0x10 2).after (.refl b) hread
      fun e he => by cases he
  have hreach : Reachable c.link Ring.board m (again r) := by
    refine .touched (.read (.fresh hready.settled) rfl hread ?_) (.inject _ _ _ _)
    constructor <;> intro he <;> cases he
  have hfew : (Ring.board (again r)).faults.length ≤ 3 := by
    have hle : r.board.faults.length ≤ 1 := hfollows.faults.length_le
    have hlen : (Ring.board (again r)).faults.length = r.board.faults.length + 2 :=
      length_faults_inject _ _ _ _
    omega
  have hlosses : c.Outlasts (Ring.board (again r)) := by
    refine ⟨(hfollows.onlyLosses hready.outlasts.losses).inject rfl 2, ?_, ?_, ?_, ?_, ?_⟩
    all_goals exact hfew.trans_lt (by decide)
  have ha : (Ring.board (again r)).Answers 1 := ⟨hfollows.present, hfollows.station⟩
  have hcorrupt : (Ring.board (again r)).corruptNext = false := by
    rw [Bool.eq_false_iff]
    exact fun hc => absurd (hfollows.corruptNext hc) Bool.false_ne_true
  have hdone := Reachable.recovers hcarries hreach rfl ha hcorrupt hlosses
  obtain ⟨m', r', hwrite, hstored⟩ := hdone.2 0x10 data (by decide) (by decide) (by decide)
  exact ⟨held, m, r, hread, m', r', hwrite, hstored⟩

end Mailbox

end MotorBoard
