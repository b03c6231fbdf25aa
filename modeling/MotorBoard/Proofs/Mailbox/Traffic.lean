/-
# The numbers of all commands

Reads and writes follow one another on one mailbox.  Each of them may go to another slave, over
a ring in any state and with any conduct; it may fail, or the bus may die under it.  Between two
of them others use the mailbox, who leave its number alone.  A run is the list of the calls, with
the journals of their frames, together with the mailbox that they lead to.

The numbers go around from one to seven, one for each call that gets past the lock and the
checks.  So the number of a call is known from how many there were before it.  It stands in every
copy of its command that the call sends, with one exception, which is in the hands of the bus: a
lost frame is sent again as it was left, and when the bus has put another command into it, then
that one is sent, with whatever number it has.  The main results are

* `Traffic.Step.of_serve`: a call over any link is a step of a run;
* `Traffic.Run.numbered_once`: the numbers along a run;
* `Traffic.Run.sends_zero`: the bus makes the difference.
-/
import MotorBoard.Bench.Tap
import MotorBoard.Proofs.Mailbox.Numbering

namespace MotorBoard

namespace Mailbox

/-- The sequence number of the `k`-th command, counted from one; zero as long as there is none. -/
def number (k : Nat) : UInt8 := if k = 0 then 0 else UInt8.ofNat ((k - 1) % 7 + 1)

lemma toNat_number (k : Nat) : (number (k + 1)).toNat = k % 7 + 1 := by
  rw [number, if_neg (Nat.succ_ne_zero k), Nat.add_sub_cancel]
  exact UInt8.toNat_ofNat_of_lt' (by show k % 7 + 1 < 2 ^ 8; omega)

lemma nextSequence_number (k : Nat) : nextSequence (number k) = number (k + 1) := by
  apply UInt8.toNat.inj
  rw [toNat_nextSequence, toNat_number]
  cases k with
  | zero => rfl
  | succ k =>
    rw [toNat_number]
    omega

lemma number_ne_zero (k : Nat) : number (k + 1) ≠ 0 := by
  intro h
  have hk := congrArg UInt8.toNat h
  rw [toNat_number] at hk
  exact absurd hk (Nat.succ_ne_zero _)

lemma number_ne_next (k : Nat) : number (k + 2) ≠ number (k + 1) := by
  intro h
  have hk := congrArg UInt8.toNat h
  rw [toNat_number, toNat_number] at hk
  omega

end Mailbox

open Mailbox

namespace Traffic

/-- A read or a write of a mailbox, as it looks from outside. -/
structure Transaction where
  /-- Whether the lock of the mailbox could be had. -/
  acquired : Bool
  /-- The bus state of the slave. -/
  state : BusState
  request : Channel.Request
  /-- The frames of the call. -/
  journal : Journal

/-- Whether a call gets past the lock and the checks of bus state and length. -/
def Transaction.accepted (e : Transaction) : Bool :=
  e.acquired && (e.state.allowsMailbox && e.request.inBounds)

/-- One call on a mailbox, over any ring in any state.  A call that never comes back is one, too,
although nobody will get to the next. -/
inductive Step : Mailbox → Transaction → Mailbox → Prop
  | call {σ : Type} (c : Channel σ) {request : Channel.Request} {m m' : Mailbox} {s s' : σ}
      {r : Except Stop Bytes} {journal : Journal} :
      c.journaled.serve request (m, s, []) = (r, m', s', journal) →
      Step m ⟨m.acquire.1.isOk, c.slave.state, request, journal⟩ m'

/-- The runs of a mailbox.  The newest call comes first. -/
inductive Run : List Transaction → Mailbox → Prop
  | fresh : Run [] Mailbox.fresh
  | step {history : List Transaction} {m m' : Mailbox} {e : Transaction} :
      Run history m → Step m e m' → Run (e :: history) m'
  /-- Others read the counters, or they die with the lock in their hands. -/
  | aside {history : List Transaction} {m m' : Mailbox} :
      Run history m → m'.value.sequence = m.value.sequence → Run history m'

variable {history : List Transaction} {m m' : Mailbox} {e : Transaction}

/-- The journal is no part of what a call does. -/
theorem Step.of_serve {σ : Type} {c : Channel σ} {request : Channel.Request} {s s' : σ}
    {r : Except Stop Bytes} (hserve : c.serve request (m, s) = (r, m', s')) :
    ∃ journal, Step m ⟨m.acquire.1.isOk, c.slave.state, request, journal⟩ m' := by
  obtain ⟨journal, hjournaled⟩ := Channel.journal_unseen hserve []
  exact ⟨journal, .call c hjournaled⟩

/-- A call as it looks from outside, and the mailbox that it leaves behind. -/
def transact {σ : Type} (c : Channel σ) (request : Channel.Request) (m : Mailbox) (s : σ) :
    Transaction × Mailbox :=
  let ended := c.journaled.serve request (m, s, [])
  (⟨m.acquire.1.isOk, c.slave.state, request, ended.2.2.2⟩, ended.2.1)

lemma Step.transact {σ : Type} (c : Channel σ) (request : Channel.Request) (m : Mailbox)
    (s : σ) : Step m (transact c request m s).1 (transact c request m s).2 :=
  .call c rfl

lemma acquire_isOk : m.acquire.1.isOk = true ↔ m.lock ≠ .poisoned := by
  rw [Guarded.acquire]
  cases m.lock <;> simp [Except.isOk, Except.toBool]

/-- What one call does to the number, and what it sends. -/
lemma Step.numbered (h : Step m e m') :
    if e.accepted then
      m'.value.sequence = nextSequence m.value.sequence ∧
        ∀ command ∈ e.journal.own,
          CommandHeader.decode command = .ok (e.request.header (nextSequence m.value.sequence))
    else m'.value.sequence = m.value.sequence ∧ e.journal = [] := by
  obtain ⟨c, hserve⟩ := h
  rename_i request s s' r journal
  have hadmits : c.journaled.admits request =
      (c.slave.state.allowsMailbox && request.inBounds) := rfl
  split
  · next haccepted =>
    obtain ⟨hacquired, hchecks⟩ := Bool.and_eq_true_iff.1 haccepted
    have hnumbered := Channel.serve_numbered c.link.journaled_journals hserve
      (acquire_isOk.1 hacquired) (hadmits.trans hchecks) rfl
    exact hnumbered
  · next hrefused =>
    have hlock : m.lock = .poisoned ∨ ¬ c.journaled.admits request = true := by
      by_contra hnot
      rw [not_or, not_not] at hnot
      exact hrefused (Bool.and_eq_true_iff.2 ⟨acquire_isOk.2 hnot.1, hadmits.symm.trans hnot.2⟩)
    obtain ⟨hsequence, hsame⟩ := Channel.serve_refused hserve hlock
    exact ⟨hsequence, congrArg Prod.snd hsame⟩

/-- The mailbox has the number of the last command. -/
lemma Run.sequence (hr : Run history m) :
    m.value.sequence = number (history.countP Transaction.accepted) := by
  induction hr with
  | fresh => rfl
  | step _ hstep ih =>
    have hnumbered := hstep.numbered
    rw [List.countP_cons]
    split at hnumbered
    · next haccepted => rw [hnumbered.1, ih, nextSequence_number, if_pos haccepted]
    · next hrefused => rw [hnumbered.1, ih, if_neg hrefused, Nat.add_zero]
  | aside _ hsame ih => exact hsame.trans ih

/-- What comes before a call is a run too, from which the call is one step away. -/
lemma Run.split {newer before : List Transaction} (hr : Run (newer ++ e :: before) m) :
    ∃ m₁ m₂, Run before m₁ ∧ Step m₁ e m₂ := by
  -- the induction is on the run and not on the list, since others may come in between
  generalize hall : newer ++ e :: before = all at hr
  induction hr generalizing newer with
  | fresh => simp at hall
  | step hrest hstep ih =>
    cases newer with
    | nil =>
      obtain ⟨rfl, rfl⟩ := List.cons.inj hall
      exact ⟨_, _, hrest, hstep⟩
    | cons _ newer => exact ih (List.cons.inj hall).2
  | aside _ _ ih => exact ih hall

/-- One call of a run, by the calls before it. -/
lemma Run.call_numbered {newer before : List Transaction}
    (hr : Run (newer ++ e :: before) m) :
    if e.accepted then
      ∀ command ∈ e.journal.own, CommandHeader.decode command =
        .ok (e.request.header (number ((e :: before).countP Transaction.accepted)))
    else e.journal = [] := by
  obtain ⟨m₁, m₂, hbefore, hstep⟩ := hr.split
  have hnumbered := hstep.numbered
  split at hnumbered
  · next haccepted =>
    rw [if_pos haccepted, List.countP_cons_of_pos haccepted, ← nextSequence_number,
      ← hbefore.sequence]
    exact hnumbered.2
  · next hrefused =>
    rw [if_neg hrefused]
    exact hnumbered.2

/-- **Numbers advance once per command.**  The `k`-th call that gets past the lock and the checks
has the number `(k - 1) % 7 + 1`, which stands in all copies of its command, but for those that
the bus has put in the place of another.  The other calls send nothing and use no number up.  So
zero is in no copy, and no two commands of which one follows the other have the same number. -/
theorem Run.numbered_once (hr : Run history m) :
    m.value.sequence = number (history.countP Transaction.accepted) ∧
      (∀ newer e before, history = newer ++ e :: before →
        if e.accepted then
          ∀ command ∈ e.journal.own, CommandHeader.decode command =
            .ok (e.request.header (number ((e :: before).countP Transaction.accepted)))
        else e.journal = []) ∧
      (∀ e ∈ history, ∀ command ∈ e.journal.own, ∀ header,
        CommandHeader.decode command = .ok header → header.sequence ≠ 0) ∧
      ∀ newer e' between e before, history = newer ++ e' :: (between ++ e :: before) →
        between.countP Transaction.accepted = 0 →
        ∀ command ∈ e.journal.own, ∀ command' ∈ e'.journal.own, ∀ header header',
          CommandHeader.decode command = .ok header →
          CommandHeader.decode command' = .ok header' → header'.sequence ≠ header.sequence := by
  -- the number in a copy, by the calls before it
  have hcopy : ∀ newer e before, history = newer ++ e :: before → ∀ command ∈ e.journal.own,
      ∀ header, CommandHeader.decode command = .ok header →
        e.accepted = true ∧ header.sequence = number (before.countP Transaction.accepted + 1) := by
    rintro newer e before rfl command hcommand header hdecode
    have hnumbered := hr.call_numbered
    split at hnumbered
    · next haccepted =>
      rw [hnumbered command hcommand, List.countP_cons_of_pos haccepted] at hdecode
      refine ⟨haccepted, Except.ok.inj hdecode ▸ ?_⟩
      cases e.request <;> rfl
    · next =>
      rw [hnumbered] at hcommand
      cases hcommand
  refine ⟨hr.sequence, ?_, ?_, ?_⟩
  · rintro newer e before rfl
    exact hr.call_numbered
  · intro e he command hcommand header hdecode
    obtain ⟨newer, before, rfl⟩ := List.append_of_mem he
    rw [(hcopy _ _ _ rfl command hcommand header hdecode).2]
    exact number_ne_zero _
  · intro newer e' between e before hall hbetween command hcommand command' hcommand' header
      header' hdecode hdecode'
    -- the calls in between use no number up
    have hfirst := hcopy (newer ++ e' :: between) e before (by simp [hall]) command hcommand
      header hdecode
    have hsecond := hcopy newer e' _ hall command' hcommand' header' hdecode'
    rw [hfirst.2, hsecond.2, List.countP_append, hbetween, Nat.zero_add,
      List.countP_cons_of_pos hfirst.1]
    exact number_ne_next _

/-- A write in a bus state without mailboxes, a write whose first frame is lost, a read under
which the bus dies, one that finds the lock poisoned, one that is too long, and a write. -/
theorem Run.numbered_once_mixed :
    ∃ history m, Run history m ∧
      history.map (fun e => (e.accepted, e.journal.own.map fun command =>
        (CommandHeader.decode command).toOption.map (·.sequence))) =
        [(true, [some 3]), (false, []), (false, []), (true, [some 2]), (true, [some 1, some 1]),
          (false, [])] ∧
      m.value.sequence = 3 := by
  let channel (state : BusState) : Channel Bench := ⟨Bench.link, ⟨1, 0, 0, 0, 0, state⟩, {}⟩
  -- somebody answers to commands and to polls, but there is no board
  let bench (edits : List Edit) : Bench :=
    { ring := { board := {
        station := 1, position := 0, present := false
        faults := [(.commandWrite, .workingCounter 1), (.anyFrame, .workingCounter 1)] } }
      edits := edits }
  let e₁ := transact (channel .init) (.write 0x10 [1, 2, 3]) Mailbox.fresh (bench [])
  let e₂ := transact (channel .op) (.write 0x10 [1, 2, 3]) e₁.2
    (bench [{ frame := 0, drops := true }])
  let e₃ := transact (channel .op) (.read 0x10 3) e₂.2 (bench [{ frame := 1, kills := true }])
  let e₄ := transact (channel .op) (.read 0x10 3) e₃.2 (bench [])
  let e₅ := transact (channel .op) (.read 0x10 600) e₄.2 (bench [])
  let e₆ := transact (channel .op) (.write 0x20 [4]) e₅.2 (bench [])
  have hrun : Run [e₆.1, e₅.1, e₄.1, e₃.1, e₂.1, e₁.1] e₆.2 :=
    .step (.step (.step (.step (.step (.step .fresh (.transact ..)) (.transact ..)) (.transact ..))
      (.transact ..)) (.transact ..)) (.transact ..)
  refine ⟨_, _, hrun, by decide +kernel, hrun.numbered_once.1.trans ?_⟩
  decide +kernel

/-- The frame of a write is lost, and the bus leaves another command in it, with the number
zero. -/
theorem Run.sends_zero :
    ∃ e m, Run [e] m ∧ e.accepted = true ∧ ∃ command ∈ e.journal.sent, ∃ header,
      CommandHeader.decode command = .ok header ∧ header.sequence = 0 := by
  let bench : Bench :=
    { ring := { board := {
        station := 1, position := 0, present := false
        faults := [(.commandWrite, .workingCounter 1), (.anyFrame, .workingCounter 1)] } }
      edits := [{
        frame := 0, drops := true
        data := [some [0x10, 0x00, 0x02, 0x80, 0xd3, 0x01, 0x02, 0x03, 0x05]] }] }
  let e := transact (⟨Bench.link, ⟨1, 0, 0, 0, 0, .safeOp⟩, {}⟩ : Channel Bench)
    (.write 0x10 [1, 2, 3]) Mailbox.fresh bench
  exact ⟨e.1, e.2, .step .fresh (.transact ..), by decide +kernel,
    [0x10, 0x00, 0x02, 0x80, 0xd3, 0x01, 0x02, 0x03, 0x05], by decide +kernel,
    ⟨0x10, 3, 0, .write⟩, rfl, rfl⟩

end Traffic

end MotorBoard
