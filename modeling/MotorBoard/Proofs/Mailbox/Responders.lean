/-
# More than one slave answers

A working counter above one says that several slaves have acted on a telegram that was meant
for a single one.  A call looks at the counters of what comes back and fails, with one
exception: a wait takes a status that was read in this way for a status that was not read at
all, and polls on.  So a call may succeed although one of its polls was answered twice.

A condition is *watched* on a link when every frame keeps it that does not come back crowded,
polls excepted.  What a call is for does not matter then: at each of its stages the counters
that a result depends on are those of the last frame, and the stage that accepts them has kept
the condition.  On a ring with a tap the frames are written down, and the condition is that
none of them was crowded.  The main results are

* `Channel.crowded_fails`: a call fails in which a frame other than a poll was crowded;
* `Channel.crowded_poll_passes`: a poll makes the difference.
-/
import MotorBoard.Bench.Tap
import MotorBoard.Proofs.Mailbox.Keeping
import MotorBoard.Proofs.Mailbox.Polling
import MotorBoard.Proofs.Mailbox.Fetching

namespace MotorBoard

open Call Board

namespace FrameRecord

/-- A frame that came back with a telegram on which more than one slave has acted. -/
def Crowded (f : FrameRecord) : Prop :=
  f.returned = true ∧ ∃ t ∈ f.telegrams, 2 ≤ t.workingCounter

instance (f : FrameRecord) : Decidable f.Crowded := inferInstanceAs (Decidable (_ ∧ _))

/-- A frame that asks for the status of a mailbox, as the polls of a wait do. -/
def IsPoll (station : UInt16) (f : FrameRecord) : Prop :=
  ∃ manager, IsManager manager ∧
    requests f.telegrams = [.read .station station (SyncManager.statusAddress manager) 1]

lemma IsPoll.length {station : UInt16} {f : FrameRecord} (h : f.IsPoll station) :
    f.telegrams.length = 1 := by
  obtain ⟨_, _, h⟩ := h
  simpa using congrArg List.length h

/-- A frame that does not have to make its call fail. -/
def Tolerable (station : UInt16) (f : FrameRecord) : Prop := f.Crowded → f.IsPoll station

lemma tolerable_lost {station : UInt16} (ts : List Telegram) :
    Tolerable station ⟨false, ts⟩ :=
  fun h => absurd h.1 Bool.false_ne_true

/-- The counters that a stage of a call looks at are all those of the frame. -/
lemma tolerable_of_counter {station : UInt16} {d : Delivery} {p : Prop} [Decidable p]
    (hlen : d.telegrams.length = if p then 2 else 1) (heq : ¬ (p ∧ d.counter 0 ≠ d.counter 1))
    (hlt : d.counter 0 < 2) : Tolerable station ⟨d.returned, d.telegrams⟩ := by
  rintro ⟨-, t, ht, hcount⟩
  obtain ⟨i, hi, rfl⟩ := List.getElem_of_mem ht
  change i < d.telegrams.length at hi
  have hcounter : d.counter i = d.telegrams[i].workingCounter := by
    rw [Delivery.counter, List.getElem?_eq_getElem hi]
    rfl
  have hsmall : d.counter i < 2 := by
    split at hlen
    · next hp =>
      have h01 : d.counter 0 = d.counter 1 := not_not.1 fun hne => heq ⟨hp, hne⟩
      obtain rfl | rfl : i = 0 ∨ i = 1 := by omega
      · exact hlt
      · exact h01 ▸ hlt
    · obtain rfl : i = 0 := by omega
      exact hlt
  exact absurd (hcounter ▸ hsmall) (UInt16.not_lt.2 hcount)

end FrameRecord

open FrameRecord

open Link SyncManager

variable {σ : Type}

/-- A condition `P` that every frame keeps unless it comes back crowded and is no poll, and that
pauses keep.  Of a crowded frame only `K` is left, and under `K` a look at a sync manager is no
reason to stop that is in `S`.  A failure is none either. -/
structure Link.Watches (link : Link σ) (station : UInt16) (S : Stop → Prop) (P K : σ → Prop) :
    Prop where
  exchange : ∀ ts s, P s →
    Exchange.Ends
      (fun us s' => requests us = requests ts ∧ K s' ∧ (Tolerable station ⟨true, us⟩ → P s'))
      (fun us s' => requests us = requests ts ∧ P s') P (link.exchange ts s)
  look : ∀ manager, IsManager manager → ∀ ts s, requests ts = lookFrame station manager → K s →
    Exchange.Ends (fun us s' => requests us = requests ts ∧ K s')
      (fun us s' => requests us = requests ts ∧ K s') (fun s' => ¬ S .died ∧ K s')
      (link.exchange ts s)
  pause : ∀ us s, P s → P (link.pause us s)
  weaken : ∀ s, P s → K s
  failed : ∀ e, ¬ S (.failed e)

namespace Link.Watches

variable {link : Link σ} {station : UInt16} {S : Stop → Prop} {P K : σ → Prop}
  (h : link.Watches station S P K)

include h

/-- A failure leaves nothing to be shown. -/
lemma fails {α τ : Type} {Q R : τ → Prop} {T : α → τ → Prop} (e : Error) :
    Triple Q (Call.fail e : Call τ α) T fun e s => S e → R s :=
  .fail _ fun _ _ he => absurd he (h.failed e)

/-- What is known of a frame that was sent, whether or not it came back. -/
lemma send (ts : List Telegram) (n : Nat) :
    Triple P (link.send ts n)
      (fun d s => requests d.telegrams = requests ts ∧ K s ∧
        (Tolerable station ⟨d.returned, d.telegrams⟩ → P s)) fun _ => P := by
  have hsend := link.send_triple (I := fun _ us s => requests us = requests ts ∧ P s)
    (A := fun _ us s => requests us = requests ts ∧ K s ∧ (Tolerable station ⟨true, us⟩ → P s))
    (D := fun _ => P) (fun _ us s hs => ?_) n 0 ts
  · refine (hsend.pre fun s hs => ⟨rfl, hs⟩).post fun d s hd => ?_
    cases hd with
    | returned _ ha => exact ha
    | lost hl => exact ⟨hl.1, h.weaken s hl.2, fun _ => hl.2⟩
  · have hx := h.exchange us s hs.2
    revert hx
    rcases link.exchange us s with ⟨vs | vs | _, s'⟩
    · exact fun hx => ⟨hx.1.trans hs.1, hx.2⟩
    · exact fun hx => ⟨(requests_rewound vs).trans (hx.1.trans hs.1), hx.2⟩
    · exact id

/-- The same by the number of the telegrams. -/
lemma sent (ts : List Telegram) (n : Nat) :
    Triple P (link.send ts n)
      (fun d s => d.telegrams.length = ts.length ∧ K s ∧
        (Tolerable station ⟨d.returned, d.telegrams⟩ → P s)) fun e s => S e → P s :=
  (h.send ts n).mono (fun _ => id) (fun _ _ hd => ⟨length_of_requests hd.1, hd.2⟩)
    fun _ _ hs _ => hs

/-- A telegram that is insisted upon is answered by a single slave. -/
lemma insist (t : Telegram) (access : String) : Call.Keeps P S (link.insist t access) := by
  refine (h.sent [t] plainAttempts).bind fun d => .ite (fun _ => ?lost) fun _ =>
    .ite (fun hone => ?one) fun _ => .ite (fun _ => ?refused) fun _ => ?crowded
  case one =>
    refine .pure _ fun s hs => hs.2.2 ?_
    exact tolerable_of_counter (p := False) hs.1 (fun hp => hp.1) (hone ▸ by decide)
  all_goals exact h.fails _

lemma readManager (slave : Slave) (manager : UInt8) :
    Call.Keeps P S (SyncManager.read link slave manager) :=
  (h.insist _ _).bind fun _ => .ofExcept _

lemma writeActivate (slave : Slave) (manager : UInt8) (sm : SyncManager) :
    Call.Keeps P S (sm.writeActivate link slave manager) :=
  (h.insist _ _).bind fun _ => .pure ()

/-- Polls keep the condition, however their frames come back. -/
lemma upholds :
    link.Upholds (fun ts => ∃ manager, IsManager manager ∧
      ts = [.read .station station (statusAddress manager) 1]) Anyhow P where
  send ts n hts := by
    obtain ⟨manager, hm, rfl⟩ := hts
    refine (h.send _ n).mono (fun _ => id) (fun d s hd => ?_) fun _ _ hs _ => hs
    exact hd.2.2 fun _ => ⟨manager, hm, hd.1⟩
  pause := h.pause
  failed _ := trivial

/-- Looking around after a crowded frame. -/
lemma look_triple {slave : Slave} (hslave : slave.station = station) {manager : UInt8}
    (hm : IsManager manager) :
    Triple K (Call.attempt (SyncManager.read link slave manager)) (fun _ => K)
      fun e s => ¬ S e ∧ K s := by
  have hsend := link.send_triple
    (I := fun _ us s => requests us = lookFrame station manager ∧ K s)
    (A := fun _ _ => K) (D := fun e s => ¬ S e ∧ K s) (fun _ us s hs => ?_) plainAttempts 0
    (lookFrame slave.station manager)
  · have hsent : Triple K (link.send (lookFrame slave.station manager) plainAttempts)
        (fun _ => K) fun e s => ¬ S e ∧ K s := by
      refine (hsend.pre fun s hs => ⟨hslave ▸ rfl, hs⟩).post fun d s hd => ?_
      cases hd with
      | returned _ ha => exact ha
      | lost hl => exact hl.2
    have hfails {α : Type} (e : Error) :
        Triple K (Call.fail e : Call σ α) (fun _ => K) fun e s => ¬ S e ∧ K s :=
      .fail _ fun s hs => ⟨h.failed e, hs⟩
    have hread : Triple K (SyncManager.read link slave manager) (fun _ => K)
        fun e s => ¬ S e ∧ K s := by
      refine Triple.bind (hsent.bind fun d => .ite (fun _ => hfails _) fun _ =>
        .ite (fun _ => .pure _ fun _ => id) fun _ =>
          .ite (fun _ => hfails _) fun _ => hfails _) fun raw => ?_
      exact .ofExcept (fun _ _ _ => id) fun e _ => hfails (α := SyncManager) e
    refine hread.attempt.post fun r s hr => ?_
    cases r with
    | ok _ => exact hr
    | error _ => exact hr.2
  · have hx := h.look manager hm us s hs.1 hs.2
    revert hx
    rcases link.exchange us s with ⟨vs | vs | _, s'⟩
    · exact fun hx => hx.2
    · exact fun hx => ⟨(requests_rewound vs).trans (hx.1.trans hs.1), hx.2⟩
    · exact id

end Link.Watches

namespace Channel

variable {c : Channel σ} {S : Stop → Prop} {P K : σ → Prop}

section Watched

variable (h : c.link.Watches c.slave.station S P K)

include h

/-- Whatever was watched, looking around does not make the call stop for a reason in `S`. -/
lemma diagnose_watched {Q : σ → Prop} :
    Triple K c.diagnose (fun _ => K) fun e s => S e → Q s := by
  have hcommand := h.look_triple rfl isManager_command
  have hresult := h.look_triple rfl isManager_result
  refine (hcommand.bind fun _ => hresult.bind fun _ => .pure () fun _ => id).stop_mono ?_
  exact fun e s he hS => absurd hS he.1

lemma clear_watched : Call.Keeps P S c.clear := by
  refine (h.sent c.clearFrame _).bind fun d => .ite (fun _ => ?lost) fun _ =>
    .ite (fun _ => ?differ) fun heq => .ite (fun hc => ?cleared) fun _ => ?crowded
  case lost =>
    have hpause : Triple (fun _ : σ => True) c.pause (fun _ _ => True) fun e s => S e → P s :=
      .modify _ fun _ => id
    exact (hpause.pre fun _ _ => trivial).bind fun _ => h.fails _
  case differ => exact h.fails _
  case cleared =>
    refine .pure _ fun s hs => hs.2.2 ?_
    refine tolerable_of_counter (p := True) hs.1 (fun hne => heq hne.2) ?_
    rcases hc with hc | hc <;> exact hc ▸ by decide
  case crowded => exact h.fails _

/-- A frame whose counters are looked at is accepted only when it is not crowded, and something
is known also when it is not accepted. -/
lemma put_watched (command : Bytes) :
    Triple P (c.put command) (fun _ => P) fun e s => K s ∧ (S e → P s) := by
  have hsent : Triple P (c.link.send (c.commandFrame command) c.limits.writeAttempts) _
      fun e s => K s ∧ (S e → P s) :=
    (h.send _ _).stop_mono fun e s hs => ⟨h.weaken s hs, fun _ => hs⟩
  have hfails {Q : σ → Prop} (hQ : ∀ s, Q s → K s) (e : Error) :
      Triple Q (Call.fail e : Call σ Unit) (fun _ => P) fun e s => K s ∧ (S e → P s) :=
    .fail _ fun s hs => ⟨hQ s hs, fun he => absurd he (h.failed e)⟩
  have hpause_fails (e : Error) :
      Triple P (c.pause >>= fun _ => Call.fail e : Call σ Unit) (fun _ => P)
        fun e s => K s ∧ (S e → P s) :=
    Triple.bind (Q := fun _ => P) (.modify _ (h.pause _)) fun _ => hfails h.weaken e
  have haccepted (d : Delivery) (heq : ¬ (c.splits command.length ∧ d.counter 0 ≠ d.counter 1))
      (hlt : d.counter 0 < 2) (s : σ) (hs : requests d.telegrams =
        requests (c.commandFrame command) ∧ K s ∧
          (Tolerable c.slave.station ⟨d.returned, d.telegrams⟩ → P s)) : P s := by
    have hlen := (length_of_requests hs.1).trans (c.length_commandFrame command)
    exact hs.2.2 (tolerable_of_counter hlen heq hlt)
  refine hsent.bind fun d => .ite (fun hd => ?lost) fun _ => .ite (fun _ => ?differ) fun heq =>
    .ite (fun hc => ?put) fun _ => .ite (fun hc => ?refused) fun _ => ?crowded
  case lost =>
    -- a frame that was lost is not crowded
    refine (hpause_fails _).pre fun s hs => hs.2.2 ?_
    have hd : d.returned = false := by simpa using hd
    exact hd ▸ tolerable_lost _
  case differ => exact hfails (fun s hs => hs.2.1) _
  case crowded => exact hfails (fun s hs => hs.2.1) _
  case put => exact .pure _ (haccepted d heq (hc ▸ by decide))
  case refused =>
    have hP := haccepted d heq (hc ▸ by decide)
    exact .ite (fun _ => (hpause_fails _).pre hP) fun _ => .pure _ hP

lemma await_watched {manager : UInt8} (hm : IsManager manager) (full : Bool) :
    Call.Keeps P S (c.await manager full) :=
  ((await_works ⟨manager, hm, rfl⟩ full).keeps h.upholds).stop_mono fun _ _ hs _ => hs trivial

lemma pollRepeat_watched (before : Bool) (start n : Nat) :
    Call.Keeps P S (c.pollRepeat before start n) := by
  induction n with
  | zero => exact .stop _
  | succ n ih =>
    have hlater : Call.Keeps P S (do
        let now ← c.link.now
        if c.limits.timeoutUs ≤ now - start then
          Call.fail (.repeatRequest s!"not acknowledged after {(now - start) / 1000} ms")
        else
          c.pause
          c.pollRepeat before start n) :=
      Keeps.bind (fun _ => id) fun now => .ite (.fail _) <|
        Keeps.bind (.modify (h.pause _)) fun _ => ih
    refine (h.readManager _ _).bind fun sm => .ite ?acknowledged (.ite ?changed hlater)
    case acknowledged => exact .ite (.pure _) (.fail _)
    case changed => exact .fail _

lemma repeatRequest_watched : Call.Keeps P S c.repeatRequest := by
  refine (h.readManager _ _).bind fun sm => .ite ?unanswered ?settled
  case unanswered => exact .fail _
  case settled =>
    have hlimit : Call.Keeps P S c.pollLimit := Keeps.bind (fun _ => id) fun _ => .pure _
    refine (h.writeActivate _ _ _).bind fun _ => Keeps.bind (fun _ => id) fun start => ?_
    exact hlimit.bind fun polls => pollRepeat_watched h _ start polls

/-- A failure of the attempt comes back after the counting. -/
lemma countedRepeat_watched :
    Call.Keeps (fun s : MailboxState × σ => P s.2) S c.countedRepeat := by
  refine Triple.bind (Triple.attempt (repeatRequest_watched h).second) fun result => ?_
  cases result with
  | ok _ => exact (Call.Keeps.first _).bind fun _ => .pure ()
  | error e =>
    have hcount : Triple (fun s : MailboxState × σ => S (.failed e) → P s.2)
        (Call.within .first (Call.modify (MailboxState.countRetry true)))
        (fun _ _ => True) fun e s => S e → P s.2 :=
      .within _ fun _ _ => .modify _ fun _ _ => trivial
    exact hcount.bind fun _ => h.fails e

lemma fetchFrom_watched (length tries : Nat) (frame : List Telegram) (dropped : Nat)
    (hframe : frame.length = if c.splits length then 2 else 1) :
    Call.Keeps (fun s : MailboxState × σ => P s.2) S
      (c.fetchFrom length tries frame dropped) := by
  have hgives_up (e : Error) : Triple (fun s : MailboxState × σ => K s.2)
      (Call.within .second c.diagnose >>= fun _ => Call.fail e : Call (MailboxState × σ) Bytes)
      (fun _ s => P s.2) fun e s => S e → P s.2 :=
    (diagnose_watched h).second.bind fun _ => h.fails e
  induction tries generalizing frame dropped with
  | zero => exact (hgives_up _).pre fun s hs => h.weaken _ hs
  | succ tries ih =>
    refine (h.sent frame _).second.bind fun d => .ite (fun _ => ?differ) fun heq =>
      .ite (fun hc => ?refused) fun _ => .ite (fun hc => ?brought) fun _ => ?crowded
    case differ => exact h.fails _
    case refused =>
      refine .ite (fun _ => h.fails _) fun _ => Triple.lift fun hlen => ?_
      have hlen := hlen.trans hframe
      refine Triple.pre (P := fun s : MailboxState × σ => P s.2) ?_ fun s hs =>
        hs.2 (tolerable_of_counter hlen heq (hc ▸ by decide))
      exact (countedRepeat_watched h).bind fun _ => ih _ _ hlen
    case brought =>
      refine .pure _ fun s hs => hs.2.2 ?_
      exact tolerable_of_counter (hs.1.trans hframe) heq (hc ▸ by decide)
    case crowded => exact (hgives_up _).pre fun s hs => hs.2.1

lemma readHeld_watched (address : UInt16) (length : Nat) :
    Call.Keeps (fun s : MailboxState × σ => P s.2) S (c.readHeld address length) := by
  have hask (command : Bytes) : Call.Keeps P S (do
      c.clear
      c.put command
      c.await Mailbox.resultManager true) := by
    have hput : Call.Keeps P S (c.put command) :=
      (put_watched h command).stop_mono fun _ _ he => he.2
    exact (clear_watched h).bind fun _ => hput.bind fun _ =>
      await_watched h isManager_result true
  refine (nextCommand_keeps _).bind fun command => (hask command.encode).second.bind fun _ =>
    (fetchFrom_watched h _ _ _ _ (c.length_resultFrame _)).bind fun result => .ite ?intact ?damaged
  case intact => exact .pure _
  case damaged => exact .fail _

lemma writeHeld_watched (address : UInt16) (data : Bytes) :
    Call.Keeps (fun s : MailboxState × σ => P s.2) S (c.writeHeld address data) := by
  have hgives_up (e : Error) : Triple (fun s => K s ∧ (S (.failed e) → P s))
      (c.diagnose >>= fun _ => Call.fail e : Call σ Unit) (fun _ => P) fun e s => S e → P s :=
    Triple.pre ((diagnose_watched h).bind fun _ => h.fails e) fun _ hs => hs.1
  refine (nextCommand_keeps _).bind fun command => Call.Keeps.second ?_
  have hput := (put_watched h command.encode).attempt
  refine (hput.stop_mono fun _ _ he => he.2).bind fun result => ?_
  cases result with
  | ok _ => exact await_watched h isManager_command false
  | error e => exact hgives_up e

/-- A read keeps what is watched unless it stops for another reason than those in `S`. -/
lemma read_watched (address : UInt16) (length : Nat) :
    Call.Keeps (fun t : Mailbox × σ => P t.2) S (c.read address length) := by
  have hheld := (readHeld_watched h address length).onFailure
    (f := fun s => (s.1.countReadError, s.2)) fun _ hs => hs
  exact Guarded.locked_triple (P := P) (Q := fun _ => P) (E := fun e s => S e → P s) hheld
    fun _ _ hs _ => hs

/-- A write keeps what is watched unless it stops for another reason than those in `S`. -/
lemma write_watched (address : UInt16) (data : Bytes) :
    Call.Keeps (fun t : Mailbox × σ => P t.2) S (c.write address data) := by
  have hheld := (writeHeld_watched h address data).onFailure
    (f := fun s => (s.1.countWriteError, s.2)) fun _ hs => hs
  exact Guarded.locked_triple (P := P) (Q := fun _ => P) (E := fun e s => S e → P s) hheld
    fun _ _ hs _ => hs

end Watched

end Channel

/-- An edit changes what a frame brings, but not what it asks for. -/
lemma Edit.requests_apply (e : Edit) (ts : List Telegram) :
    requests (e.apply ts) = requests ts := by
  have hto : ∀ counter data t, (applyTo counter data t).request = t.request := by
    intro counter data t
    have hlen (d : Bytes) :
        (d.take t.data.length ++ t.data.drop d.length).length = t.data.length := by
      rw [List.length_append, List.length_take, List.length_drop]
      omega
    cases counter <;> cases data <;> simp [applyTo, Telegram.request, hlen]
  have hzip := congrArg requests (List.zipIdx_map_fst 0 ts)
  rw [requests, List.map_map] at hzip
  rw [requests, apply, List.map_map, ← hzip]
  exact List.map_congr_left fun x _ => hto _ _ _

/-- A look at a sync manager does not make a board die. -/
lemma Board.actAll_look {station : UInt16} {manager : UInt8} (hm : IsManager manager)
    {ts : List Telegram} (hts : requests ts = lookFrame station manager) :
    Triple (fun _ => True) (actAll ts) (fun _ _ => True) fun _ _ => False := by
  have houtside : inResults (baseAddress manager).toNat = false := by
    obtain rfl | rfl := hm <;> decide
  have hlen : ts.length = 1 := by simpa [lookFrame] using congrArg List.length hts
  obtain ⟨t, rfl⟩ := List.length_eq_one_iff.1 hlen
  have ht : t.request = .read .station station (baseAddress manager) size :=
    List.singleton_inj.1 hts
  have hdirection : t.direction = .read := congrArg Telegram.direction ht
  have haddress : t.address = baseAddress manager := congrArg Telegram.address ht
  have hread : Triple (fun _ => True) (Board.read t.address t.data.length) (fun _ _ => True)
      fun _ _ => False := by
    rw [haddress]
    refine .ite (fun hin => absurd hin (by simp [houtside])) fun _ =>
      .ite (fun _ => .pure _ fun _ => id) fun _ => Triple.get_bind fun b _ => ?_
    exact .ite (fun _ => .pure _ fun _ _ => trivial) fun _ => .pure _ fun _ _ => trivial
  have hact : Triple (fun _ => True) (act t) (fun _ _ => True) fun _ _ => False := by
    refine Triple.get_bind fun b _ => .ite (fun _ => ?_) fun _ => .pure _ fun _ _ => trivial
    rw [hdirection]
    refine (hread.pre fun _ _ => trivial).bind fun data => ?_
    cases data <;> exact .pure _ fun _ => id
  exact hact.bind fun _ => .pure _ fun _ => id

namespace Bench

/-- Frames are written down, the edits are the given ones, and no frame so far had to make its
call fail. -/
structure Quiet (edits : List Edit) (station : UInt16) (b : Bench) : Prop where
  recording : b.recording = true
  edits : b.edits = edits
  tolerable : ∀ f ∈ b.records, f.Tolerable station

/-- A reason to stop that is no failure, although no edit kills the bus. -/
def NoFailure (edits : List Edit) (e : Stop) : Prop :=
  (∀ edit ∈ edits, edit.kills = false) ∧ ∀ error, e ≠ .failed error

/-- What comes back through the tap asks for what was sent.  The bus dies by an edit, or with
the board. -/
lemma pass_requests {D : Prop} {ts : List Telegram} (edit : Option Edit)
    (hkills : ∀ e, edit = some e → e.kills = true → D)
    (hdies : Triple (fun _ => True) (actAll ts) (fun _ _ => True) fun _ _ => D) (r : Ring) :
    Exchange.Ends (fun us _ => requests us = requests ts) (fun us _ => requests us = requests ts)
      (fun _ => D) (pass ts edit r) := by
  have hring : Exchange.Ends (fun us _ => requests us = requests ts)
      (fun us _ => requests us = requests ts) (fun _ => D) (Ring.link.exchange ts r) := by
    refine Ring.carries.exchange_ends (R := fun us _ => requests us = requests ts)
      (L := fun us _ => requests us = requests ts) (D := fun _ => D)
      (Board.exchange_ends (fun _ _ _ => rfl) fun fs _ => ?_)
    refine ((actAll_same ts).and hdies _ ⟨trivial, trivial⟩).imp (fun us _ hus => ?_)
      fun _ _ he => he.2
    exact ⟨hus.1.requests, fun _ => ⟨hus.1.requests, fun _ n => (hus.1.map_withCounter n).requests⟩⟩
  cases edit with
  | none => exact hring
  | some e =>
    rw [pass]
    split
    · next hk => exact hkills e rfl hk
    · split
      · exact e.requests_apply ts
      · revert hring
        rcases Ring.link.exchange ts r with ⟨us | us | _, r'⟩ <;> intro hring
        · have hus := (e.requests_apply us).trans hring
          show Exchange.Ends _ _ _ (edited e (.returned us), r')
          rw [edited]
          split <;> exact hus
        · exact (e.requests_apply us).trans hring
        · exact hring

lemma edits_record (returned : Bool) (ts : List Telegram) (b : Bench) :
    (b.record returned ts).edits = b.edits := by
  rw [Bench.record]
  split <;> rfl

variable {edits : List Edit} {station : UInt16}

lemma Quiet.record {b : Bench} (hb : Quiet edits station b) {returned : Bool}
    {ts : List Telegram} (h : Tolerable station ⟨returned, ts⟩) :
    Quiet edits station (b.record returned ts) := by
  rw [Bench.record, if_pos hb.recording]
  exact ⟨hb.recording, hb.edits, List.forall_mem_cons.2 ⟨h, hb.tolerable⟩⟩

/-- The tap writes down what comes back, so it watches for what is tolerable. -/
lemma link_watches (edits : List Edit) (station : UInt16) :
    Bench.link.Watches station (NoFailure edits) (Quiet edits station)
      fun b => b.edits = edits where
  exchange ts b hb := by
    have hpass := pass_requests (D := True) (b.edits.find? fun e => e.frame == b.frames)
      (fun _ _ _ => trivial) ((actAll_same ts).post fun _ _ _ => trivial) b.ring
    show Exchange.Ends _ _ _ (b.exchange ts)
    rw [exchange]
    revert hpass
    rcases pass ts _ b.ring with ⟨us | us | _, r'⟩ <;> intro hpass
    all_goals
      have hsent : Quiet edits station { b with ring := r', frames := b.frames + 1 } :=
        ⟨hb.recording, hb.edits, hb.tolerable⟩
    · exact ⟨hpass, (edits_record ..).trans hb.edits, hsent.record⟩
    · exact ⟨hpass, hsent.record (tolerable_lost us)⟩
    · exact hsent
  look manager hm ts b hts hb := by
    have hpass := pass_requests (D := ∃ e ∈ edits, e.kills = true)
      (b.edits.find? fun e => e.frame == b.frames)
      (fun e he hk => ⟨e, hb ▸ List.mem_of_find?_eq_some he, hk⟩)
      (Board.actAll_look hm hts).unfailing b.ring
    show Exchange.Ends _ _ _ (b.exchange ts)
    rw [exchange]
    revert hpass
    rcases pass ts _ b.ring with ⟨us | us | _, r'⟩ <;> intro hpass
    · exact ⟨hpass, (edits_record ..).trans hb⟩
    · exact ⟨hpass, (edits_record ..).trans hb⟩
    · obtain ⟨e, he, hk⟩ := hpass
      exact ⟨fun hS => Bool.false_ne_true ((hS.1 e he).symm.trans hk), hb⟩
  pause _ _ hb := ⟨hb.recording, hb.edits, hb.tolerable⟩
  weaken _ hb := hb.edits
  failed e he := he.2 e rfl

end Bench

namespace Channel

/-- What a call on the bench comes to that keeps the bench quiet unless it fails: if one of its
frames was crowded and no poll, it fails. -/
lemma crowded_stops {α : Type} {call : Call (Mailbox × Bench) α} {edits : List Edit}
    {station : UInt16}
    (hcall : Call.Keeps (fun t : Mailbox × Bench => Bench.Quiet edits station t.2)
      (Bench.NoFailure edits) call)
    {t : Mailbox × Bench} (ht : Bench.Quiet edits station t.2) {f : FrameRecord}
    (hcrowded : f.Crowded) (hpoll : ¬ f.IsPoll station) (hf : f ∈ (call t).2.2.records) :
    ∃ stop, (call t).1 = .error stop ∧
      ((∀ e ∈ edits, e.kills = false) → ∃ e, stop = .failed e) := by
  have hends := hcall t ht
  -- a quiet bench has no such frame
  have hnoisy : ¬ Bench.Quiet edits station (call t).2.2 :=
    fun hq => hpoll (hq.tolerable f hf hcrowded)
  revert hends hnoisy
  rcases call t with ⟨stop | a, m', b'⟩
  · intro hends hnoisy
    refine ⟨stop, rfl, fun hkills => ?_⟩
    by_contra hnot
    exact hnoisy (hends ⟨hkills, fun e he => hnot ⟨e, he⟩⟩)
  · exact fun hends hnoisy => absurd hends hnoisy

/-- **A second responder is fatal, polls excepted.**  Whatever state the board is in, whatever
hits the frames and however patient the mailbox is: if one of the frames of a read or write came
back with a telegram that more than one slave had answered, and this frame was no poll, then the
call gives no result.  It fails, unless the bus is killed while it looks around. -/
theorem crowded_fails (c : Channel Bench) (hlink : c.link = Bench.link) (m : Mailbox) {b : Bench}
    (hrecording : b.recording = true) (hnew : b.records = []) {f : FrameRecord}
    (hcrowded : f.Crowded) (hpoll : ¬ f.IsPoll c.slave.station) :
    (∀ address length, f ∈ (c.read address length (m, b)).2.2.records →
      ∃ stop, (c.read address length (m, b)).1 = .error stop ∧
        ((∀ e ∈ b.edits, e.kills = false) → ∃ e, stop = .failed e)) ∧
    ∀ address data, f ∈ (c.write address data (m, b)).2.2.records →
      ∃ stop, (c.write address data (m, b)).1 = .error stop ∧
        ((∀ e ∈ b.edits, e.kills = false) → ∃ e, stop = .failed e) := by
  have hwatches : c.link.Watches c.slave.station (Bench.NoFailure b.edits)
      (Bench.Quiet b.edits c.slave.station) fun b' => b'.edits = b.edits :=
    hlink ▸ Bench.link_watches b.edits c.slave.station
  have hquiet : Bench.Quiet b.edits c.slave.station b := ⟨hrecording, rfl, by simp [hnew]⟩
  refine ⟨fun address length hf => ?_, fun address data hf => ?_⟩
  · exact crowded_stops (read_watched hwatches address length) hquiet hcrowded hpoll hf
  · exact crowded_stops (write_watched hwatches address data) hquiet hcrowded hpoll hf

/-- A command that comes back as if two slaves had taken it. -/
theorem crowded_fails_command :
    let c : Channel Bench := ⟨Bench.link, ⟨1, 0, 0, 0, 0, .op⟩, {}⟩
    let board : Board := {
      station := 1, position := 0, present := false
      faults := [(.commandWrite, .workingCounter 2)] }
    let b : Bench := { ring := ⟨board, 0⟩, recording := true }
    ∃ f ∈ (c.write 0x10 [1, 2, 3] (Mailbox.fresh, b)).2.2.records, f.Crowded ∧ ¬ f.IsPoll 1 ∧
      ∃ e, (c.write 0x10 [1, 2, 3] (Mailbox.fresh, b)).1 = .error (.failed e) := by
  intro c board b
  have hrun : ∃ f ∈ (c.write 0x10 [1, 2, 3] (Mailbox.fresh, b)).2.2.records,
      f.Crowded ∧ f.telegrams.length = 2 := by
    decide +kernel
  obtain ⟨f, hf, hcrowded, hlen⟩ := hrun
  have hpoll : ¬ f.IsPoll 1 := fun h => absurd (hlen.symm.trans h.length) (by decide)
  have hfails := (crowded_fails c rfl Mailbox.fresh rfl rfl hcrowded hpoll).2 0x10 [1, 2, 3] hf
  obtain ⟨stop, hstop, hfailed⟩ := hfails
  obtain ⟨e, rfl⟩ := hfailed nofun
  exact ⟨f, hf, hcrowded, hpoll, e, hstop⟩

/-- The first poll comes back as if two slaves had answered it, and the write succeeds. -/
theorem crowded_poll_passes :
    let c : Channel Bench := ⟨Bench.link, ⟨1, 0, 0, 0, 0, .op⟩, {}⟩
    let board : Board := {
      station := 1, position := 0, present := false
      faults := [(.commandWrite, .workingCounter 1), (.anyFrame, .workingCounter 2),
        (.anyFrame, .workingCounter 1)] }
    let b : Bench := { ring := ⟨board, 0⟩, recording := true }
    (c.write 0x10 [1, 2, 3] (Mailbox.fresh, b)).1 = .ok () ∧
      ∃ f ∈ (c.write 0x10 [1, 2, 3] (Mailbox.fresh, b)).2.2.records, f.Crowded := by
  intro c board b
  decide +kernel

end Channel

end MotorBoard
