/-
# What one call of a mailbox counts

A call that works with the ring counts requests for a lost result, and nothing else; a failed
request is the last one, since the call fails with it.  When the call itself fails, its
failure is counted behind that.  The ring has no locks, so a call that got hold of the lock of
its mailbox never fails for one.  A call that did not get hold of it counts that, and does
nothing else.

Whether a mailbox counts right is seen from outside, in a log of the frames that were sent.  A
call that comes back has counted as many requests as it has added to the log.

Calls leave an event behind: what was called, and why it gave no result.  From the event and
the requests one can tell what was counted.  The main results are

* `Channel.fetchFrom_books`: the requests for a lost result;
* `Guarded.locked_booked`: any call under the lock of a mailbox;
* `Channel.read_booked`, `Channel.write_booked`, `Mailbox.counters_booked`: the three calls;
* `Channel.read_handshakes`: the counter of a read grows by the requests in the log.
-/
import MotorBoard.Proofs.Mailbox.Handshakes
import MotorBoard.Proofs.Mailbox.Reading

namespace MotorBoard

/-- Whether a call stopped because it failed for another cause than a lock. -/
def Stop.isFailure : Stop → Bool
  | failed e => !(failed e).blamesLock
  | _ => false

open Call

/-! Requests for a lost result. -/

namespace MailboxCounters

/-- What a counter goes up by, if something happened. -/
def tick (happened : Bool) : UInt32 := if happened then 1 else 0

/-- The counters after `n` requests; `failed` tells whether the last one failed. -/
def requested (n : Nat) (failed : Bool) (k : MailboxCounters) : MailboxCounters :=
  { k with retries := k.retries + UInt32.ofNat n, retryErrors := k.retryErrors + tick failed }

@[simp] lemma requested_zero (k : MailboxCounters) : k.requested 0 false = k := by
  simp [requested, tick]

lemma requested_requested (m n : Nat) (failed : Bool) (k : MailboxCounters) :
    (k.requested m false).requested n failed = k.requested (m + n) failed := by
  simp [requested, tick, UInt32.add_assoc]

lemma countRetry_counters (failed : Bool) (v : MailboxState) :
    (v.countRetry failed).counters = v.counters.requested 1 failed := by
  cases failed <;> simp [MailboxState.countRetry, MailboxState.count, requested, tick]

end MailboxCounters

open MailboxCounters FrameLog

variable {σ : Type} {ρ : Recorder σ} {k : MailboxCounters}

namespace Recorder

/-- The counters of a mailbox, over a ring of which so much is known. -/
def Noted (ρ : Recorder σ) (k : MailboxCounters) (R : FrameLog → Prop) (s : MailboxState × σ) :
    Prop :=
  s.1.counters = k ∧ ρ.Known R s.2

/-- A request was made, well or not; it did not fail for a lock. -/
def Made (ρ : Recorder σ) (R : FrameLog → Prop) (k : MailboxCounters) (result : Except Error Unit)
    (s : MailboxState × σ) : Prop :=
  ρ.Noted k R s ∧ ∀ e, result = .error e → (Stop.failed e).blamesLock = false

/-- Behind the counters `k` and `a` requests in the log at most so many more were made, when a
call stopped or did not stop.  Only a call that fails has made one that failed.  A call that
comes back has counted those that are in the log. -/
def Counted (ρ : Recorder σ) (station : UInt16) (tries a : Nat) (k : MailboxCounters)
    (stop : Option Stop) (s : MailboxState × σ) : Prop :=
  ∃ n failed, n ≤ tries ∧ s.1.counters = k.requested n failed ∧
    ((∀ e, stop = some e → Ended e) → ρ.Known (Asked station (a + n)) s.2) ∧
    (failed = true → 0 < n ∧ stop.any Stop.isFailure = true)

namespace Counted

variable {station : UInt16} {tries a : Nat} {stop : Option Stop} {s : MailboxState × σ}

lemma same (h : s.1.counters = k)
    (hlog : (∀ e, stop = some e → Ended e) → ρ.Known (Asked station a) s.2) :
    ρ.Counted station tries a k stop s :=
  ⟨0, false, Nat.zero_le _, by rw [h, requested_zero], hlog, nofun⟩

/-- One request more, at the beginning. -/
lemma succ (h : ρ.Counted station tries (a + 1) (k.requested 1 false) stop s) :
    ρ.Counted station (tries + 1) a k stop s := by
  obtain ⟨n, failed, hn, hs, hlog, hfailed⟩ := h
  refine ⟨1 + n, failed, by omega, ?_, ?_, fun hf => ⟨by omega, (hfailed hf).2⟩⟩
  · rw [hs, requested_requested]
  · rwa [← Nat.add_assoc]

lemma mono {more : Nat} (h : ρ.Counted station tries a k stop s) (hmore : tries ≤ more) :
    ρ.Counted station more a k stop s := by
  obtain ⟨n, failed, hn, hs, hrest⟩ := h
  exact ⟨n, failed, Nat.le_trans hn hmore, hs, hrest⟩

/-- While a call has not stopped, no request has failed. -/
lemma stopped (h : ρ.Counted station tries a k none s) :
    ρ.Counted station tries a k stop s := by
  obtain ⟨n, failed, hn, hs, hlog, hfailed⟩ := h
  exact ⟨n, failed, hn, hs, fun _ => hlog nofun, fun hf => absurd (hfailed hf).2 (by simp)⟩

end Counted

end Recorder

namespace Channel

variable {c : Channel σ} {R : FrameLog → Prop} {a : Nat}

/-- A log behind a frame that fetches a result, by what became of the frame. -/
def Fetching (station : UInt16) (a : Nat) (d : Delivery) (l : FrameLog) : Prop :=
  Fetches station (requests d.telegrams) ∧ Asked station a l ∧ (d.sends ≠ 0 → Behind station a l)

/-- What a call under the lock does to the counters `k` and to a log with `a` requests, of which
`R` is known.  When it stops, then not for a lock, and at most so many requests were counted. -/
abbrev Books {α : Type} (c : Channel σ) (ρ : Recorder σ) (tries a : Nat) (k : MailboxCounters)
    (R : FrameLog → Prop) (m : Call (MailboxState × σ) α) (Q : α → MailboxState × σ → Prop) :
    Prop :=
  Triple (ρ.Noted k R) m Q
    fun e s => e.blamesLock = false ∧ ρ.Counted c.slave.station tries a k (some e) s

lemma fail_books {α : Type} {e : Error} (he : (Stop.failed e).blamesLock = false)
    (hR : ∀ l, R l → Asked c.slave.station a l) (tries : Nat) {Q : α → MailboxState × σ → Prop} :
    Books c ρ tries a k R (Call.fail e) Q :=
  .fail _ fun _ hs => ⟨he, .same hs.1 fun _ => hs.2.imp hR⟩

section Records

variable (h : c.link.Records ρ)

/-- Work with the ring counts nothing, whichever frames it sends. -/
lemma ring_noted {α : Type} {m : Call σ α} (hm : c.link.Works (fun _ => True) m)
    {T : α → FrameLog → Prop} {E : FrameLog → Prop}
    (hlog : Triple (ρ.Known R) m (fun x => ρ.Known (T x)) fun e s =>
      Link.Keeps.Survived e → ρ.Known E s) :
    Triple (ρ.Noted k R) (Call.within .second m) (fun x => ρ.Noted k (T x)) fun e s =>
      e.blamesLock = false ∧ s.1.counters = k ∧ (Link.Keeps.Survived e → ρ.Known E s.2) := by
  have hcounters := hlog.second_beside (A := fun v : MailboxState => v.counters = k)
  have hlock := hm.second (P := fun _ : MailboxState => True)
  exact (hcounters.and hlock).mono (fun _ hs => ⟨hs, trivial⟩) (fun _ _ hs => hs.1)
    fun _ _ he => ⟨he.2.1, he.1⟩

lemma ring_books {α : Type} {m : Call σ α} (hm : c.link.Works (fun _ => True) m)
    {T : α → FrameLog → Prop}
    (hlog : Triple (ρ.Known R) m (fun x => ρ.Known (T x)) fun e s =>
      Link.Keeps.Survived e → ρ.Known (Asked c.slave.station a) s) (tries : Nat) :
    Books c ρ tries a k R (Call.within .second m) fun x => ρ.Noted k (T x) :=
  (ring_noted hm hlog).stop_mono fun e _ he =>
    ⟨he.1, .same he.2.1 fun hended => he.2.2 (hended e rfl).1⟩

/-- The next command counts nothing, and it is refused for no lock. -/
lemma nextCommand_books {build : UInt8 → Except Error MailboxCommand} (tries : Nat)
    (hbuild : ∀ sequence e, build sequence = .error e → (Stop.failed e).blamesLock = false)
    (hR : ∀ l, R l → Asked c.slave.station a l) :
    Books c ρ tries a k R (c.nextCommand build) fun command s =>
      (∃ sequence, build sequence = .ok command) ∧ ρ.Noted k R s := by
  have hrequire : Triple (ρ.Known R) c.requireMailbox (fun _ => ρ.Known R)
      fun e s => Link.Keeps.Survived e → ρ.Known (Asked c.slave.station a) s :=
    .ite (fun _ => .pure _ fun _ => id) fun _ => .fail _ fun _ hs _ => hs.imp hR
  have hmailbox : Books c ρ tries a k R (Call.within .second c.requireMailbox)
      fun _ => ρ.Noted k R :=
    ring_books requireMailbox_works hrequire tries
  have hget : Books c ρ tries a k R (Call.within .first Call.get) fun _ => ρ.Noted k R := by
    refine .within _ fun s hs => .get ?_
    rintro _ rfl
    exact hs
  have hstore (command : MailboxCommand) (sequence : UInt8) : Triple
      (fun s => (∃ sequence, build sequence = .ok command) ∧ ρ.Noted k R s)
      (Call.within .first (Call.modify fun s => { s with sequence := sequence }))
      (fun _ s => (∃ sequence, build sequence = .ok command) ∧ ρ.Noted k R s)
      fun e s => e.blamesLock = false ∧ ρ.Counted c.slave.station tries a k (some e) s := by
    refine .within _ fun s hs => .modify _ ?_
    rintro _ rfl
    exact hs
  refine hmailbox.bind fun _ => hget.bind fun state => ?_
  refine Triple.bind (Q := fun command s =>
    (∃ sequence, build sequence = .ok command) ∧ ρ.Noted k R s) (.ofExcept ?_ ?_)
    fun command => (hstore command _).map fun _ _ hs => hs
  · exact fun command hb s hs => ⟨⟨_, hb⟩, hs⟩
  · exact fun e he s hs => ⟨hbuild _ e he, .same hs.1 fun _ => hs.2.imp hR⟩

include h

/-- A request is counted, well or not, and one that fails makes the call fail. -/
lemma countedRepeat_books (p : Prop) :
    Books c ρ 1 a k (fun l => p ∧ Behind c.slave.station a l) c.countedRepeat
      fun _ => ρ.Noted (k.requested 1 false) fun l => p ∧ Asked c.slave.station (a + 1) l := by
  have hrequest := (ring_noted (k := k) (repeatRequest_works trivial fun _ => trivial)
    (repeatRequest_apart (k := a) h p)).attempt_unfailed
  let R := fun l => p ∧ Asked c.slave.station (a + 1) l
  -- the request is counted before its failure comes back
  have hcount (result : Except Error Unit) : Triple (ρ.Made R k result)
      (Call.within .first (Call.modify (MailboxState.countRetry !result.isOk)))
      (fun _ => ρ.Made R (k.requested 1 !result.isOk) result)
      fun e s => e.blamesLock = false ∧ ρ.Counted c.slave.station 1 a k (some e) s := by
    refine .within _ fun s hs => .modify _ ?_
    rintro _ rfl
    exact ⟨⟨(countRetry_counters _ _).trans (hs.1.1 ▸ rfl), hs.1.2⟩, hs.2⟩
  have hmade : Triple _ _ (ρ.Made R k) _ := hrequest.post ?made
  refine (hmade.stop_mono ?_).bind fun result => (hcount result).bind fun _ => .ofExcept ?_ ?_
  case made =>
    rintro (e | u) s hs
    · refine ⟨⟨hs.2.1, (hs.2.2 (Stop.failed_ne_died e)).imp fun _ hl => ⟨hl.1, hl.2.1⟩⟩, ?_⟩
      exact fun e' he' => Except.error.inj he' ▸ hs.1
    · exact ⟨⟨hs.1, hs.2.imp fun _ hl => ⟨hl.1, hl.2.1⟩⟩, nofun⟩
  · -- a call that does not come back has counted nothing
    rintro e s ⟨hunfailed, hlock, hcounters, -⟩
    refine ⟨hlock, .same hcounters fun hended => ?_⟩
    cases e with
    | failed e => exact absurd rfl (hunfailed e)
    | died => exact absurd rfl (hended _ rfl).1
    | stalled => exact absurd rfl (hended _ rfl).2
  · rintro u rfl s hs
    exact hs.1
  · rintro e rfl s hs
    have he := hs.2 e rfl
    refine ⟨he, 1, true, Nat.le_refl _, hs.1.1, fun _ => hs.1.2.imp fun _ hl => hl.2, fun _ => ?_⟩
    exact ⟨Nat.one_pos, by simp [Stop.isFailure, he]⟩

/-- At most one request is made for each try. -/
theorem fetchFrom_books (length tries : Nat) (frame : List Telegram) (dropped : Nat) :
    Books c ρ tries a k
      (fun l => Fetches c.slave.station (requests frame) ∧ Asked c.slave.station a l)
      (c.fetchFrom length tries frame dropped)
      fun _ => ρ.Counted c.slave.station tries a k none := by
  have hdiagnose (tries a : Nat) (k : MailboxCounters) :
      Books c ρ tries a k (Asked c.slave.station a) (Call.within .second c.diagnose)
        fun _ => ρ.Noted k (Asked c.slave.station a) :=
    ring_books (diagnose_works trivial trivial) (diagnose_asked h) tries
  induction tries generalizing a k frame dropped with
  | zero =>
    exact ((hdiagnose 0 a k).pre fun s hs => ⟨hs.1, hs.2.imp fun _ hl => hl.2⟩).bind fun _ =>
      fail_books rfl (fun _ => id) 0
  | succ tries ih =>
    have hsend : Triple (ρ.Known fun l =>
          Fetches c.slave.station (requests frame) ∧ Asked c.slave.station a l)
        (c.link.send frame c.limits.maxDropped) (fun d => ρ.Known (Fetching c.slave.station a d))
        fun e s => Link.Keeps.Survived e → ρ.Known (Asked c.slave.station a) s := by
      have hknown := h.send_known
        (R := fun l => Fetches c.slave.station (requests frame) ∧ Asked c.slave.station a l)
        (T := fun m l => Fetches c.slave.station (requests frame) ∧ Asked c.slave.station a l ∧
          (m ≠ 0 → Behind c.slave.station a l)) frame c.limits.maxDropped
        fun l m _ hl => ⟨hl.1, hl.2.replicate hl.1.1 m, hl.1.replicate hl.2⟩
      refine hknown.mono (fun _ => id) (fun d s hs => hs.imp ?_) fun _ _ he hne => absurd he hne
      exact fun l hl => ⟨hl.1.symm ▸ hl.2.1, hl.2.2⟩
    have hasked (d : Delivery) : ∀ l, Fetching c.slave.station a d l → Asked c.slave.station a l :=
      fun l hl => hl.2.1
    refine (ring_books (.send _ trivial) hsend _).bind fun d => .ite (fun _ => ?differ) fun _ =>
      .ite (fun _ => ?refused) fun _ => .ite (fun _ => ?brought) fun _ => ?crowded
    case differ => exact fail_books rfl (hasked d) _
    case refused =>
      refine .ite (fun _ => fail_books rfl (hasked d) _) fun hdropped => ?_
      -- a frame was lost, so one was sent, and the request comes directly behind it
      have hsends : d.sends ≠ 0 := by
        intro h0
        refine hdropped ?_
        rw [Delivery.dropped, h0]
        split <;> rfl
      have hrepeat := countedRepeat_books (a := a) (k := k) h
        (Fetches c.slave.station (requests d.telegrams))
      refine ((hrepeat.pre fun s hs => ?_).stop_mono fun e s he => ?_).bind fun _ => ?_
      · exact ⟨hs.1, hs.2.imp fun _ hl => ⟨hl.1, hl.2.2 hsends⟩⟩
      · exact ⟨he.1, he.2.mono (by omega)⟩
      · exact (ih _ _).mono (fun _ => id) (fun _ _ hs => hs.succ) fun _ _ he => ⟨he.1, he.2.succ⟩
    case brought => exact .pure _ fun s hs => .same hs.1 fun _ => hs.2.imp (hasked d)
    case crowded =>
      refine ((hdiagnose _ a k).pre fun s hs => ?_).bind fun _ => fail_books rfl (fun _ => id) _
      exact ⟨hs.1, hs.2.imp (hasked d)⟩

omit h in
/-- A command out of bounds is no matter of locks. -/
lemma build_error {address : UInt16} {length : Nat} {direction : Direction} {sequence : UInt8}
    {f : CommandHeader → MailboxCommand} {e : Error}
    (he : (do return f (← CommandHeader.build address length direction sequence)) =
      Except.error e) : (Stop.failed e).blamesLock = false := by
  rw [CommandHeader.build] at he
  split at he
  · cases he
    rfl
  · cases he

lemma readHeld_books (address : UInt16) (length : Nat) :
    Books c ρ c.limits.readTries a k (Asked c.slave.station a) (c.readHeld address length)
      fun _ => ρ.Counted c.slave.station c.limits.readTries a k none := by
  refine (nextCommand_books _ (fun sequence e he => build_error he) fun _ => id).bind
    fun command => Triple.lift fun hb => ?_
  -- a result that is asked for fits into the mailbox, and it has more than one byte
  obtain ⟨hl, -⟩ := read_ok hb.choose_spec
  have hfetches := c.fetches_resultFrame (n := length + 1) (by omega)
    (Mailbox.length_result_lt hl.2)
  refine (ring_books (ask_works trivial trivial trivial) (ask_asked h command.encode) _).bind
    fun _ => Triple.bind ((fetchFrom_books h _ _ _ _).pre fun s hs => ?_) fun result => ?_
  · exact ⟨hs.1, hs.2.imp fun _ hl => ⟨hfetches, hl⟩⟩
  · exact .ite (fun _ => .pure _ fun _ => id) fun _ => .fail _ fun s hs => ⟨rfl, hs.stopped⟩

lemma writeHeld_books (address : UInt16) (data : Bytes) :
    Books c ρ 0 a k (Apart c.slave.station a) (c.writeHeld address data)
      fun _ => ρ.Counted c.slave.station 0 a k none := by
  refine (nextCommand_books _ (fun sequence e he => build_error he) fun _ hl => hl.1).bind
    fun command => Triple.lift fun _ => ?_
  have hstore := (store_apart (k := a) h command.encode).stop_mono fun e s hs he =>
    (hs he).imp fun _ hl => hl.1
  exact (ring_books (store_works trivial fun _ _ => trivial) hstore 0).post fun _ s hs =>
    .same hs.1 fun _ => hs.2.imp fun _ hl => hl.1

end Records

end Channel

/-! Whole calls. -/

/-- The calls of a mailbox. -/
inductive MailboxCall where
  | read
  | write
  | counters
deriving DecidableEq, Repr

/-- What is seen of a call. -/
structure MailboxEvent where
  call : MailboxCall
  /-- Why it gave no result, if it gave none. -/
  stop : Option Stop
deriving DecidableEq, Repr

namespace MailboxEvent

/-- The event of a call with this result. -/
def of {α : Type} (call : MailboxCall) : Except Stop α → MailboxEvent
  | .ok _ => ⟨call, none⟩
  | .error e => ⟨call, some e⟩

/-- The call failed because it did not get the lock. -/
def lockFailed (e : MailboxEvent) : Bool := e.stop.any Stop.blamesLock

/-- The call failed for another cause. -/
def failed (e : MailboxEvent) : Bool := e.stop.any Stop.isFailure

/-- The bus died under the call. -/
def died (e : MailboxEvent) : Bool := e.stop == some .died

def isRead (e : MailboxEvent) : Bool := e.call == .read

def failedRead (e : MailboxEvent) : Bool := e.call == .read && e.failed

def failedWrite (e : MailboxEvent) : Bool := e.call == .write && e.failed

end MailboxEvent

namespace MailboxCounters

/-- The counters after a call with `n` requests, the last of which failed or not. -/
def booked (e : MailboxEvent) (n : Nat) (failed : Bool) (k : MailboxCounters) :
    MailboxCounters where
  writeErrors := k.writeErrors + tick e.failedWrite
  readErrors := k.readErrors + tick e.failedRead
  lockErrors := k.lockErrors + tick e.lockFailed
  retries := k.retries + UInt32.ofNat n
  retryErrors := k.retryErrors + tick failed

variable {e : MailboxEvent} {n : Nat} {failed : Bool} {k : MailboxCounters}

/-- When nothing went wrong that is counted, only requests were. -/
lemma booked_of_unfailed (hfailed : e.failed = false) (hlock : e.lockFailed = false) :
    k.booked e n failed = k.requested n failed := by
  simp [booked, requested, MailboxEvent.failedWrite, MailboxEvent.failedRead, hfailed, hlock, tick]

/-- A failure that is not the lock's counts for the call. -/
lemma booked_failed {call : MailboxCall} {error : Error}
    (h : (Stop.failed error).blamesLock = false) :
    k.booked ⟨call, some (.failed error)⟩ 0 false =
      { k with
        writeErrors := k.writeErrors + tick (call == .write)
        readErrors := k.readErrors + tick (call == .read) } := by
  simp [booked, MailboxEvent.failedWrite, MailboxEvent.failedRead, MailboxEvent.failed,
    MailboxEvent.lockFailed, Stop.isFailure, h, tick]

/-- The requests are counted before the call fails. -/
lemma booked_requested :
    (k.requested n failed).booked e 0 false = k.booked e n failed := by
  simp [booked, requested, tick]

end MailboxCounters

namespace Mailbox

/-- What a call did to a mailbox, with at most so many requests.  Their number is in `A`, unless
the bus has died. -/
structure Booked (tries : Nat) (A : Nat → Prop) (e : MailboxEvent) (m m' : Mailbox) : Prop where
  refused : e.lockFailed = true ↔ m.lock = .poisoned
  lock : m'.lock = if e.died then .poisoned else .free
  counters : ∃ n failed, n ≤ tries ∧ (e.died = false → A n) ∧
    m'.value.counters = m.value.counters.booked e n failed ∧
    (failed = true → 0 < n ∧ e.failed = true)

/-- A call that does not get the lock counts that. -/
lemma recovered_booked {m : Mailbox} (hm : m.lock = .poisoned) (call : MailboxCall) (tries : Nat)
    {A : Nat → Prop} (hA : A 0) (name : String) :
    Booked tries A ⟨call, some (.failed (.lockFailed name))⟩ m m.recovered where
  refused := iff_of_true rfl hm
  lock := rfl
  counters := by
    refine ⟨0, false, Nat.zero_le _, fun _ => hA, ?_, nofun⟩
    show { m.value.counters with lockErrors := m.value.counters.lockErrors + 1 } = _
    simp [booked, tick, MailboxEvent.failedRead, MailboxEvent.failedWrite, MailboxEvent.failed,
      MailboxEvent.lockFailed, Stop.isFailure, Stop.blamesLock]

end Mailbox

open Mailbox

/-- A call under the lock of a mailbox: its requests, and then its failure. -/
theorem Guarded.locked_booked {β : Type} {call : MailboxCall} {tries a : Nat} {station : UInt16}
    {R : FrameLog → Prop} {held : Call (MailboxState × σ) β} {count : MailboxState → MailboxState}
    (hheld : ∀ k, Triple (ρ.Noted k R) held (fun _ => ρ.Counted station tries a k none)
      fun e s => e.blamesLock = false ∧ ρ.Counted station tries a k (some e) s)
    (hcount : ∀ v e, (Stop.failed e).blamesLock = false →
      (count v).counters = v.counters.booked ⟨call, some (.failed e)⟩ 0 false)
    (hR : ∀ l, R l → Asked station a l)
    {m m' : Mailbox} {s s' : σ} {r : Except Stop β} (hs : ρ.Known R s)
    (hcall : locked (Call.onFailure (fun s => (count s.1, s.2)) held) (m, s) = (r, m', s'))
    (hr : r ≠ .error .stalled) :
    Booked tries (fun n => ρ.Known (Asked station (a + n)) s') (.of call r) m m' := by
  by_cases hm : m.lock = .poisoned
  · rw [locked_poisoned hm] at hcall
    cases hcall
    exact recovered_booked hm call tries (hs.imp hR) _
  · rw [locked_eq hm, Call.onFailure] at hcall
    have h := hheld m.value.counters (m.value, s) ⟨rfl, hs⟩
    revert hcall h
    rcases held (m.value, s) with ⟨(e | _ | _) | b, v, t⟩
    · rintro ⟨⟩ ⟨he, n, failed, hn, hv, hlog, hfailed⟩
      refine ⟨iff_of_false (by simp [MailboxEvent.of, MailboxEvent.lockFailed, he]) hm, rfl,
        n, failed, hn, fun _ => hlog ?_, ?_, hfailed⟩
      · rintro _ ⟨⟩
        exact ⟨Stop.failed_ne_died e, Stop.noConfusion⟩
      · rw [← booked_requested, ← hv]
        exact hcount v e he
    · rintro ⟨⟩ ⟨-, n, failed, hn, hv, -, hfailed⟩
      refine ⟨iff_of_false Bool.false_ne_true hm, rfl, n, failed, hn, ?_, ?_, hfailed⟩
      · exact fun halive => absurd halive.symm Bool.false_ne_true
      · rw [booked_of_unfailed rfl rfl]
        exact hv
    · rintro ⟨⟩
      exact absurd rfl hr
    · rintro ⟨⟩ ⟨n, failed, hn, hv, hlog, hfailed⟩
      refine ⟨iff_of_false Bool.false_ne_true hm, rfl, n, failed, hn, fun _ => hlog ?_, ?_, hfailed⟩
      · rintro _ ⟨⟩
      · rw [booked_of_unfailed rfl rfl]
        exact hv

namespace Channel

variable {c : Channel σ} {m m' : Mailbox} {s s' : σ} {address : UInt16} {a : Nat}

theorem read_booked (h : c.link.Records ρ) {length : Nat} {r : Except Stop Bytes}
    (hs : ρ.Known (Asked c.slave.station a) s)
    (hcall : c.read address length (m, s) = (r, m', s')) (hr : r ≠ .error .stalled) :
    Booked c.limits.readTries (fun n => ρ.Known (Asked c.slave.station (a + n)) s') (.of .read r)
      m m' := by
  refine Guarded.locked_booked (fun _ => readHeld_books h address length) (fun v e he => ?_)
    (fun _ => id) hs hcall hr
  rw [booked_failed he]
  simp [MailboxState.countReadError, MailboxState.count, tick]

theorem write_booked (h : c.link.Records ρ) {data : Bytes} {r : Except Stop Unit}
    (hs : ρ.Known (Apart c.slave.station a) s)
    (hcall : c.write address data (m, s) = (r, m', s')) (hr : r ≠ .error .stalled) :
    Booked 0 (fun n => ρ.Known (Asked c.slave.station (a + n)) s') (.of .write r) m m' := by
  refine Guarded.locked_booked (fun _ => writeHeld_books h address data) (fun v e he => ?_)
    (fun _ hl => hl.1) hs hcall hr
  rw [booked_failed he]
  simp [MailboxState.countWriteError, MailboxState.count, tick]

/-- Whatever faults hit its frames and whatever the board does: the counter of a read that
returns grows by the number of requests for a lost result that it has sent. -/
theorem read_handshakes {log : σ → FrameLog} (h : c.link.Logs log) {length : Nat}
    {r : Except Stop Bytes} (hcall : c.read address length (m, s) = (r, m', s'))
    (hreturned : Returned r) :
    ∃ n, handshakes c.slave.station (log s') = handshakes c.slave.station (log s) + n ∧
      m'.value.counters.retries = m.value.counters.retries + UInt32.ofNat n := by
  have hstart : Recorder.Known ⟨log, fun _ => True⟩
    (Asked c.slave.station (handshakes c.slave.station (log s))) s := fun _ => rfl
  have hbooked := read_booked h.records hstart hcall hreturned.2
  obtain ⟨n, failed, -, hasked, hcounters, -⟩ := hbooked.counters
  have halive : (MailboxEvent.of .read r).died = false := by
    rcases r with (e | _ | _) | b
    · rfl
    · exact absurd rfl hreturned.1
    · rfl
    · rfl
  exact ⟨n, hasked halive trivial, by rw [hcounters]; rfl⟩

end Channel

theorem Mailbox.counters_booked {m m' : Mailbox} {r : Except Error MailboxCounters}
    {A : Nat → Prop} (hA : A 0) (hcall : m.counters = (r, m')) :
    Booked 0 A (.of .counters (r.mapError .failed)) m m' := by
  rw [counters, Guarded.update] at hcall
  by_cases hm : m.lock = .poisoned
  · rw [hm] at hcall
    cases hcall
    exact recovered_booked hm .counters 0 hA _
  · have hcopied : (.ok m.value.counters, { m with lock := .free }) = (r, m') := by
      revert hcall
      cases hlock : m.lock with
      | poisoned => exact absurd hlock hm
      | free => exact id
      | held => exact id
    cases hcopied
    refine ⟨iff_of_false Bool.false_ne_true hm, rfl, 0, false, Nat.le_refl _, fun _ => hA, ?_,
      fun hfailed => absurd hfailed Bool.false_ne_true⟩
    rw [booked_of_unfailed rfl rfl, requested_zero]

end MotorBoard
