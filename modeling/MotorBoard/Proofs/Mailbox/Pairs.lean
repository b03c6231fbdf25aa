/-
# Two channels side by side

A channel knows its ring from the link to it and from nothing else.  What it looks at in a frame
that came back is little: the counters, how often the frame was sent, and the bytes of a result.
So the stages of a call are gone through here once for any two channels.  Whether two rings are
told apart by their frames or not, the stages come to the same ends as soon as the registers, the
clock and the pauses look alike, and the frames that transfer something come back alike.

Links that answer every frame alike cannot be told apart at all, whatever their states are made
of.  So a ring may carry along what no frame ever shows.  The main results are

* `Channel.Kindred.await_agree`, `Channel.Kindred.repeatRequest_agree`,
  `Channel.Kindred.nextCommand_agree`: the stages that look at registers only, or at nothing;
* `Channel.Kindred.clear_agree`, `Channel.Kindred.put_agree`, `Channel.Kindred.fetchFrom_agree`:
  the stages that transfer something;
* `Link.Alike.serve_agree`: a request, over links that answer alike.
-/
import MotorBoard.Proofs.Call.Agreement
import MotorBoard.Proofs.Mailbox.Polling

namespace MotorBoard

open Call Board

variable {σ τ : Type} {R : σ → τ → Prop}

/-- Two deliveries that look alike to a stage of a call.  The first frame is split if `p` holds,
the second one if `p'` does, and `S` relates their data. -/
structure Delivery.Resembles (p p' : Prop) (S : Bytes → Bytes → Prop) (d d' : Delivery) :
    Prop where
  returned : d'.returned = d.returned
  sends : d'.sends = d.sends
  counter : d'.counter 0 = d.counter 0
  second : p → p' → d'.counter 1 = d.counter 1
  differ : (p ∧ d.counter 0 ≠ d.counter 1) ↔ (p' ∧ d'.counter 0 ≠ d'.counter 1)
  data : S d.data d'.data

namespace Delivery.Resembles

variable {p p' : Prop} {S S' : Bytes → Bytes → Prop} {d d' : Delivery}

lemma refl (p : Prop) (hS : ∀ x, S x x) (d : Delivery) : Resembles p p S d d :=
  ⟨rfl, rfl, rfl, fun _ _ => rfl, .rfl, hS _⟩

lemma dropped (h : Resembles p p' S d d') : d'.dropped = d.dropped := by
  rw [Delivery.dropped, Delivery.dropped, h.returned, h.sends]

end Delivery.Resembles

open Delivery

/-- A telegram is insisted upon alike if its frame comes back alike. -/
lemma Link.insist_agree {S : Bytes → Bytes → Prop} {link : Link σ} {link' : Link τ}
    {t : Telegram}
    (hsend : Agree R (Resembles False False S) (link.send [t] plainAttempts)
      (link'.send [t] plainAttempts)) (access : String) :
    Agree R S (link.insist t access) (link'.insist t access) := by
  refine hsend.bind fun d d' hd => ?_
  rw [hd.returned, hd.counter]
  refine .ite .rfl (fun _ => ?lost) fun _ => .ite .rfl (fun _ => ?one) fun _ =>
    .ite .rfl (fun _ => ?refused) fun _ => ?crowded
  case one => exact .pure hd.data
  all_goals exact .fail _

/-- Two links through which the registers of a slave, the clock and the pauses look alike. -/
structure Link.Inquiries (R : σ → τ → Prop) (link : Link σ) (link' : Link τ) (slave : Slave) :
    Prop where
  now : Agree R Eq link.now link'.now
  wait : ∀ us, Agree R Eq (link.wait us) (link'.wait us)
  untilSettled : Agree R Eq link.untilSettled link'.untilSettled
  readStatus : ∀ manager, IsManager manager →
    Agree R Eq (link.readMemory .station slave.station (SyncManager.statusAddress manager) 1)
      (link'.readMemory .station slave.station (SyncManager.statusAddress manager) 1)
  readManager : ∀ manager, IsManager manager →
    Agree R Eq (SyncManager.read link slave manager) (SyncManager.read link' slave manager)
  writeActivate : ∀ sm : SyncManager,
    Agree R Eq (sm.writeActivate link slave Mailbox.resultManager)
      (sm.writeActivate link' slave Mailbox.resultManager)

namespace Channel

/-- Two channels to one slave that differ at most in which transfers they split, over links
through which its registers look alike. -/
inductive Kindred (R : σ → τ → Prop) : Channel σ → Channel τ → Prop
  | mk {link : Link σ} {link' : Link τ} (slave : Slave) (limits : MailboxLimits) (overhead : Nat) :
    link.Inquiries R link' slave →
    Kindred R ⟨link, slave, limits⟩ ⟨link', slave, { limits with telegramOverhead := overhead }⟩

namespace Kindred

variable {c : Channel σ} {c' : Channel τ}

lemma pause_agree (h : Kindred R c c') : Agree R Eq c.pause c'.pause := by
  obtain ⟨slave, limits, overhead, hi⟩ := h
  exact hi.wait _

/-- A failure after a pause. -/
lemma pause_fail_agree (h : Kindred R c c') (e : Error) :
    Agree R Eq (c.pause >>= fun _ => Call.fail e : Call σ Unit)
      (c'.pause >>= fun _ => Call.fail e) :=
  h.pause_agree.bind_eq fun _ => .fail e

lemma diagnose_agree (h : Kindred R c c') : Agree R Eq c.diagnose c'.diagnose := by
  obtain ⟨slave, limits, overhead, hi⟩ := h
  have hcommand := (hi.readManager _ isManager_command).attempt
  have hresult := (hi.readManager _ isManager_result).attempt
  exact hcommand.bind_eq fun _ => hresult.bind_eq fun _ => .pure rfl

lemma pollLimit_agree (h : Kindred R c c') : Agree R Eq c.pollLimit c'.pollLimit := by
  obtain ⟨slave, limits, overhead, hi⟩ := h
  exact hi.untilSettled.bind_eq fun _ => .pure rfl

/-! The stages that look at registers. -/

lemma poll_agree (h : Kindred R c c') {manager : UInt8} (hm : IsManager manager) (full : Bool)
    (start polls : Nat) (answered : Bool) :
    Agree R Eq (c.poll manager full start polls answered)
      (c'.poll manager full start polls answered) := by
  have hpause := pause_agree h
  induction polls generalizing answered with
  | zero => exact .stop _
  | succ polls ih =>
    obtain ⟨slave, limits, overhead, hi⟩ := h
    have hlook := (hi.readStatus _ hm).attempt
    refine hlook.bind_eq fun status => .ite .rfl (fun _ => ?reached) fun _ =>
      hi.now.bind_eq fun now => .ite .rfl (fun _ => ?late) fun _ => ?again
    case reached => exact .pure rfl
    case late => exact .fail _
    case again => exact hpause.bind_eq fun _ => ih _

theorem await_agree (h : Kindred R c c') {manager : UInt8} (hm : IsManager manager)
    (full : Bool) : Agree R Eq (c.await manager full) (c'.await manager full) := by
  have hpoll := poll_agree h hm full
  have hlimit := pollLimit_agree h
  obtain ⟨slave, limits, overhead, hi⟩ := h
  exact hi.now.bind_eq fun start => hlimit.bind_eq fun polls => hpoll _ _ _

lemma pollRepeat_agree (h : Kindred R c c') (before : Bool) (start polls : Nat) :
    Agree R Eq (c.pollRepeat before start polls) (c'.pollRepeat before start polls) := by
  have hpause := pause_agree h
  induction polls with
  | zero => exact .stop _
  | succ polls ih =>
    obtain ⟨slave, limits, overhead, hi⟩ := h
    have hlook := hi.readManager _ isManager_result
    refine hlook.bind_eq fun sm => .ite .rfl (fun _ => ?acknowledged) fun _ =>
      .ite .rfl (fun _ => ?changed) fun _ => hi.now.bind_eq fun now =>
        .ite .rfl (fun _ => ?late) fun _ => ?again
    case acknowledged => exact .ite .rfl (fun _ => .pure rfl) fun _ => .fail _
    case changed => exact .fail _
    case late => exact .fail _
    case again => exact hpause.bind_eq fun _ => ih

theorem repeatRequest_agree (h : Kindred R c c') :
    Agree R Eq c.repeatRequest c'.repeatRequest := by
  have hpoll := pollRepeat_agree h
  have hlimit := pollLimit_agree h
  obtain ⟨slave, limits, overhead, hi⟩ := h
  have hlook := hi.readManager _ isManager_result
  refine hlook.bind_eq fun sm => .ite .rfl (fun _ => ?underway) fun _ => ?asked
  case underway => exact .fail _
  case asked =>
    refine (hi.writeActivate _).bind_eq fun _ => hi.now.bind_eq fun start => ?_
    exact hlimit.bind_eq fun polls => hpoll _ _ _

lemma countedRepeat_agree (h : Kindred R c c') :
    Agree (Beside MailboxState R) Eq c.countedRepeat c'.countedRepeat := by
  refine h.repeatRequest_agree.second.attempt.bind_eq fun result => ?_
  exact (Agree.first _).bind_eq fun _ => .ofExcept result

/-! The stages that transfer something, given that their frames come back alike. -/

theorem clear_agree (h : Kindred R c c')
    (hsend : Agree R (Resembles True True fun _ _ => True)
      (c.link.send c.clearFrame c.limits.clearAttempts)
      (c'.link.send c'.clearFrame c'.limits.clearAttempts)) : Agree R Eq c.clear c'.clear := by
  refine hsend.bind fun d d' hd => ?_
  rw [hd.returned, hd.counter, hd.second trivial trivial]
  refine .ite .rfl (fun _ => ?lost) fun _ => .ite .rfl (fun _ => ?differ) fun _ =>
    .ite .rfl (fun _ => ?cleared) fun _ => ?crowded
  case lost => exact h.pause_fail_agree _
  case differ => exact .fail _
  case cleared => exact .pure rfl
  case crowded => exact .fail _

theorem put_agree (h : Kindred R c c') {command : Bytes}
    (hsend : Agree R
      (Resembles (c.splits command.length) (c'.splits command.length) fun _ _ => True)
      (c.link.send (c.commandFrame command) c.limits.writeAttempts)
      (c'.link.send (c'.commandFrame command) c'.limits.writeAttempts)) :
    Agree R Eq (c.put command) (c'.put command) := by
  refine hsend.bind fun d d' hd => ?_
  have hdiffer := hd.differ
  rw [hd.returned, hd.sends]
  refine .ite .rfl (fun _ => ?lost) fun _ => .ite hdiffer (fun _ => ?differ) fun _ => ?_
  case lost => exact h.pause_fail_agree _
  case differ => exact .fail _
  rw [hd.counter]
  refine .ite .rfl (fun _ => ?put) fun _ => .ite .rfl (fun _ => ?refused) fun _ => ?crowded
  case put => exact .pure rfl
  case refused => exact .ite .rfl (fun _ => h.pause_fail_agree _) fun _ => .pure rfl
  case crowded => exact .fail _

/-- The frames of two fetches stay related by `T` when they are sent. -/
theorem fetchFrom_agree (h : Kindred R c c') {n : Nat} {T : List Telegram → List Telegram → Prop}
    (hsend : ∀ ts ts', T ts ts' → Agree R
      (fun d d' => T d.telegrams d'.telegrams ∧
        Resembles (c.splits n) (c'.splits n) (fun x x' => x'.take n = x.take n) d d')
      (c.link.send ts c.limits.maxDropped) (c'.link.send ts' c'.limits.maxDropped))
    (tries : Nat) {frame frame' : List Telegram} (hT : T frame frame') (dropped : Nat) :
    Agree (Beside MailboxState R) Eq (c.fetchFrom n tries frame dropped)
      (c'.fetchFrom n tries frame' dropped) := by
  have hgives (e : Error) : Agree (Beside MailboxState R) Eq
      (Call.within .second c.diagnose >>= fun _ => Call.fail e : Call (MailboxState × σ) Bytes)
      (Call.within .second c'.diagnose >>= fun _ => Call.fail e) :=
    h.diagnose_agree.second.bind_eq fun _ => .fail e
  have hlimits : c'.limits.readTries = c.limits.readTries := by
    obtain ⟨slave, limits, overhead, hi⟩ := h
    rfl
  induction tries generalizing frame frame' dropped with
  | zero =>
    rw [fetchFrom, fetchFrom, hlimits]
    exact hgives _
  | succ tries ih =>
    refine (hsend _ _ hT).second.bind fun d d' hd => .ite hd.2.differ (fun _ => ?differ) fun _ => ?_
    case differ => exact .fail _
    rw [hd.2.counter, hd.2.dropped, hd.2.data]
    refine .ite .rfl (fun _ => .ite .rfl (fun _ => ?refused) fun _ => ?again) fun _ =>
      .ite .rfl (fun _ => ?brought) fun _ => ?crowded
    case refused => exact .fail _
    case again => exact h.countedRepeat_agree.bind_eq fun _ => ih hd.1 _
    case brought => exact .pure rfl
    case crowded => exact hgives _

/-! Whole calls. -/

/-- Both channels build the same command, with the same sequence number. -/
theorem nextCommand_agree (h : Kindred R c c') (build : UInt8 → Except Error MailboxCommand) :
    Agree (Beside MailboxState R)
      (fun command command' => command' = command ∧ ∃ sequence, build sequence = .ok command)
      (c.nextCommand build) (c'.nextCommand build) := by
  obtain ⟨slave, limits, overhead, -⟩ := h
  have hmailbox : Agree R Eq (if slave.state.allowsMailbox then pure () else
      Call.fail (.invalidBusState slave.state) : Call σ Unit)
      (if slave.state.allowsMailbox then pure () else Call.fail (.invalidBusState slave.state)) :=
    .ite .rfl (fun _ => .pure rfl) fun _ => .fail _
  have hbuilt (sequence : UInt8) : Agree (Beside MailboxState R)
      (fun command command' => command' = command ∧ ∃ sequence, build sequence = .ok command)
      (Call.ofExcept (build sequence)) (Call.ofExcept (build sequence)) := by
    cases hb : build sequence with
    | error e => exact .fail e
    | ok command => exact .pure ⟨rfl, _, hb⟩
  refine hmailbox.second.bind_eq fun _ => (Agree.first _).bind_eq fun state =>
    (hbuilt (Mailbox.nextSequence state.sequence)).bind ?_
  rintro command _ ⟨rfl, hb⟩
  exact (Agree.first _).bind_eq fun _ => .pure ⟨rfl, hb⟩

lemma readHeld_agree (h : Kindred R c c') {address : UInt16} {length : Nat}
    (hstages : ∀ sequence command, MailboxCommand.read address length sequence = .ok command →
      Agree R Eq c.clear c'.clear ∧ Agree R Eq (c.put command.encode) (c'.put command.encode) ∧
      Agree (Beside MailboxState R) Eq (c.fetch (length + 1)) (c'.fetch (length + 1))) :
    Agree (Beside MailboxState R) Eq (c.readHeld address length) (c'.readHeld address length) := by
  refine (h.nextCommand_agree _).bind ?_
  rintro _ command ⟨rfl, sequence, hb⟩
  obtain ⟨hclear, hput, hfetch⟩ := hstages sequence command hb
  have hasked : Agree R Eq
      (do
        c.clear
        c.put command.encode
        c.await Mailbox.resultManager true)
      (do
        c'.clear
        c'.put command.encode
        c'.await Mailbox.resultManager true) :=
    hclear.bind_eq fun _ => hput.bind_eq fun _ => h.await_agree isManager_result true
  refine hasked.second.bind_eq fun _ => hfetch.bind_eq fun result => ?_
  exact .ite .rfl (fun _ => .pure rfl) fun _ => .fail _

lemma writeHeld_agree (h : Kindred R c c') {address : UInt16} {data : Bytes}
    (hput : ∀ sequence command, MailboxCommand.write address data sequence = .ok command →
      Agree R Eq (c.put command.encode) (c'.put command.encode)) :
    Agree (Beside MailboxState R) Eq (c.writeHeld address data) (c'.writeHeld address data) := by
  refine (h.nextCommand_agree _).bind ?_
  rintro _ command ⟨rfl, sequence, hb⟩
  refine Agree.second ((hput sequence command hb).attempt.bind_eq fun result => ?_)
  cases result with
  | ok _ => exact h.await_agree isManager_command false
  | error e => exact h.diagnose_agree.bind_eq fun _ => .fail e

end Kindred

/-- What a mailbox can be asked for. -/
inductive Request where
  | read (address : UInt16) (length : Nat)
  | write (address : UInt16) (data : Bytes)

/-- Serves a request.  A write gives no bytes. -/
def serve (c : Channel σ) : Request → Call (Mailbox × σ) Bytes
  | .read address length => c.read address length
  | .write address data => do
    c.write address data
    return []

/-- Reads agree if the calls under the lock do. -/
lemma read_agree_of_held {c : Channel σ} {c' : Channel τ} {address : UInt16} {length : Nat}
    (hheld : Agree (Beside MailboxState R) Eq (c.readHeld address length)
      (c'.readHeld address length)) :
    Agree (Beside Mailbox R) Eq (c.read address length) (c'.read address length) := by
  refine Guarded.locked_agree (hheld.onFailure ?_)
  rintro ⟨v, s⟩ ⟨_, t⟩ ⟨rfl, hst⟩
  exact ⟨rfl, hst⟩

/-- Writes agree if the calls under the lock do. -/
lemma write_agree_of_held {c : Channel σ} {c' : Channel τ} {address : UInt16} {data : Bytes}
    (hheld : Agree (Beside MailboxState R) Eq (c.writeHeld address data)
      (c'.writeHeld address data)) :
    Agree (Beside Mailbox R) Eq (c.write address data) (c'.write address data) := by
  refine Guarded.locked_agree (hheld.onFailure ?_)
  rintro ⟨v, s⟩ ⟨_, t⟩ ⟨rfl, hst⟩
  exact ⟨rfl, hst⟩

lemma serve_agree_of_held {c : Channel σ} {c' : Channel τ}
    (hread : ∀ address length, Agree (Beside MailboxState R) Eq (c.readHeld address length)
      (c'.readHeld address length))
    (hwrite : ∀ address data, Agree (Beside MailboxState R) Eq (c.writeHeld address data)
      (c'.writeHeld address data)) (request : Request) :
    Agree (Beside Mailbox R) Eq (c.serve request) (c'.serve request) := by
  cases request with
  | read address length => exact read_agree_of_held (hread address length)
  | write address data =>
    exact (write_agree_of_held (hwrite address data)).bind_eq fun _ => .pure rfl

/-- The same channel over another link. -/
def withLink (c : Channel σ) (link : Link τ) : Channel τ := ⟨link, c.slave, c.limits⟩

end Channel

/-- Two links that answer every frame alike and whose clocks and pauses are the same. -/
structure Link.Alike (R : σ → τ → Prop) (link : Link σ) (link' : Link τ) : Prop where
  exchange : ∀ ts s t, R s t → (link'.exchange ts t).1 = (link.exchange ts s).1 ∧
    R (link.exchange ts s).2 (link'.exchange ts t).2
  pause : ∀ us s t, R s t → R (link.pause us s) (link'.pause us t)
  clock : ∀ s t, R s t → link'.clock t = link.clock s
  settling : ∀ s t, R s t → link'.settling t = link.settling s

namespace Link.Alike

variable {link : Link σ} {link' : Link τ}

lemma sendOnce_agree (h : link.Alike R link') (ts : List Telegram) :
    Agree R Eq (link.sendOnce ts) (link'.sendOnce ts) := by
  intro s t hst
  obtain ⟨hx, hR⟩ := h.exchange ts s t hst
  rw [sendOnce, sendOnce]
  revert hx hR
  rcases link.exchange ts s with ⟨us | us | _, s'⟩ <;>
    rcases link'.exchange ts t with ⟨us' | us' | _, t'⟩ <;> rintro ⟨⟩ hR
  · exact .ok rfl hR
  · exact .ok rfl hR
  · exact .stop hR

lemma send_agree (h : link.Alike R link') (ts : List Telegram) (n : Nat) :
    Agree R Eq (link.send ts n) (link'.send ts n) := by
  induction n generalizing ts with
  | zero => exact .pure rfl
  | succ n ih =>
    exact (h.sendOnce_agree ts).bind_eq fun d => .ite .rfl (fun _ => .pure rfl) fun _ =>
      (ih _).bind_eq fun _ => .pure rfl

/-- Deliveries that are the same look alike. -/
lemma resembles (h : link.Alike R link') (p : Prop) {S : Bytes → Bytes → Prop}
    (hS : ∀ x, S x x) (ts : List Telegram) (n : Nat) :
    Agree R (fun d d' => d.telegrams = d'.telegrams ∧ Delivery.Resembles p p S d d')
      (link.send ts n) (link'.send ts n) :=
  (h.send_agree ts n).result_mono fun d _ hd => hd ▸ ⟨rfl, .refl p hS d⟩

lemma insist_agree (h : link.Alike R link') (t : Telegram) (access : String) :
    Agree R Eq (link.insist t access) (link'.insist t access) :=
  Link.insist_agree ((h.resembles False (fun _ => rfl) _ _).result_mono fun _ _ hd => hd.2) access

lemma inquiries (h : link.Alike R link') (slave : Slave) : link.Inquiries R link' slave where
  now s t hst := .ok (h.clock s t hst).symm hst
  wait us := .modify (h.pause us)
  untilSettled s t hst := .ok (h.settling s t hst).symm hst
  readStatus _ _ := h.insist_agree _ _
  readManager _ _ := (h.insist_agree _ _).bind_eq fun _ => .ofExcept _
  writeActivate _ := (h.insist_agree _ _).bind_eq fun _ => .pure rfl

/-! The stages of a call, and whole requests. -/

section Channels

open Channel

variable {c : Channel σ}

lemma kindred (h : c.link.Alike R link') : c.Kindred R (c.withLink link') :=
  .mk c.slave c.limits c.limits.telegramOverhead (h.inquiries _)

lemma put_agree (h : c.link.Alike R link') (command : Bytes) :
    Agree R Eq (c.put command) ((c.withLink link').put command) :=
  h.kindred.put_agree <| (h.resembles _ (fun _ => trivial) _ _).result_mono fun _ _ hd => hd.2

lemma readHeld_agree (h : c.link.Alike R link') (address : UInt16) (length : Nat) :
    Agree (Beside MailboxState R) Eq (c.readHeld address length)
      ((c.withLink link').readHeld address length) := by
  refine h.kindred.readHeld_agree fun sequence command _ => ⟨?cleared, h.put_agree _, ?fetched⟩
  case cleared =>
    exact h.kindred.clear_agree <|
      (h.resembles True (fun _ => trivial) _ _).result_mono fun _ _ hd => hd.2
  case fetched =>
    refine h.kindred.fetchFrom_agree (T := Eq) ?_ _ rfl 0
    rintro ts _ rfl
    exact h.resembles _ (S := fun x x' => x'.take (length + 1) = x.take (length + 1))
      (fun _ => rfl) ts _

lemma writeHeld_agree (h : c.link.Alike R link') (address : UInt16) (data : Bytes) :
    Agree (Beside MailboxState R) Eq (c.writeHeld address data)
      ((c.withLink link').writeHeld address data) :=
  h.kindred.writeHeld_agree fun _ _ _ => h.put_agree _

/-- **A channel sees nothing of its ring but the answers to its frames**, the clock and the
pauses: over links that answer alike, a request comes to the same end and leaves the same
mailbox behind. -/
theorem serve_agree (h : c.link.Alike R link') (request : Request) :
    Agree (Beside Mailbox R) Eq (c.serve request) ((c.withLink link').serve request) :=
  serve_agree_of_held h.readHeld_agree h.writeHeld_agree request

end Channels

end Link.Alike

end MotorBoard
