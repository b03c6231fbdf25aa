/-
# Working with the ring

The stages of a call on a mailbox are made of a few steps: a frame is sent until it comes back, a
pause is made, the clock is looked at, and a stage may fail for what it has seen.  So what the
frames of a stage and its pauses keep, the stage itself keeps.  Which frames these are is gone
through here once, stage by stage, and it does not matter what the condition is.

The ring has no locks.  A stage fails for the lock of its mailbox under no circumstances, also
when it only passes on why another one failed.  The main results are

* `Link.Works.conduct`: what work with the ring keeps, and how it stops;
* `Channel.clear_works`, `Channel.put_works`, `Channel.await_works`,
  `Channel.repeatRequest_works`, `Channel.diagnose_works`: the stages are work with the ring.
-/
import MotorBoard.Mailbox.Channel
import MotorBoard.Proofs.Call.Triple

namespace MotorBoard

/-- Whether a call stopped because of a lock. -/
def Stop.blamesLock : Stop → Bool
  | failed (.lockFailed _) => true
  | _ => false

namespace Board

/-- The sync managers of the two mailboxes. -/
def IsManager (manager : UInt8) : Prop :=
  manager = Mailbox.commandManager ∨ manager = Mailbox.resultManager

lemma isManager_command : IsManager Mailbox.commandManager := .inl rfl

lemma isManager_result : IsManager Mailbox.resultManager := .inr rfl

end Board

open Call Board

namespace Link

variable {σ : Type}

/-- A condition that frames keep, unless they kill the bus, and that pauses keep. -/
structure Keeps (link : Link σ) (P : σ → Prop) : Prop where
  exchange : ∀ ts s, P s → (link.exchange ts s).1 ≠ .died → P (link.exchange ts s).2
  pause : ∀ us s, P s → P (link.pause us s)

/-- The reasons to stop that a ring survives. -/
abbrev Keeps.Survived (e : Stop) : Prop := e ≠ .died

/-- A condition that is kept when a frame in `F` is sent and by pauses, unless the bus stops for
a reason outside of `S`. -/
structure Upholds (link : Link σ) (F : List Telegram → Prop) (S : Stop → Prop) (P : σ → Prop) :
    Prop where
  send : ∀ ts n, F ts → Call.Keeps P S (link.send ts n)
  pause : ∀ us s, P s → P (link.pause us s)
  failed : ∀ e, S (.failed e)

variable {link : Link σ} {F : List Telegram → Prop} {P : σ → Prop}

/-- A frame that is sent stops for no other reason than that the bus dies. -/
lemma send_dies (ts : List Telegram) (n : Nat) :
    Triple (fun _ => True) (link.send ts n) (fun _ _ => True) fun e _ => e = .died := by
  induction n generalizing ts with
  | zero => exact .pure _ fun _ => id
  | succ n ih =>
    have honce : Triple (fun _ => True) (link.sendOnce ts) (fun _ _ => True)
        fun e _ => e = .died := by
      intro s _
      rw [sendOnce]
      rcases link.exchange ts s with ⟨_ | _ | _, s'⟩
      · trivial
      · trivial
      · rfl
    refine honce.bind fun d => .ite (fun _ => .pure _ fun _ => id) fun _ => ?_
    exact (ih d.telegrams).bind fun d' => .pure _ fun _ => id

/-- What every frame keeps that is sent once is kept when it is sent again. -/
lemma Keeps.send (h : link.Keeps P) (ts : List Telegram) (n : Nat) :
    Call.Keeps P Survived (link.send ts n) := by
  induction n generalizing ts with
  | zero => exact .pure _
  | succ n ih =>
    have honce : Call.Keeps P Survived (link.sendOnce ts) := by
      intro s hs
      have hx := h.exchange ts s hs
      rw [sendOnce]
      revert hx
      rcases link.exchange ts s with ⟨_ | _ | _, s'⟩
      · exact fun hx => hx Exchange.noConfusion
      · exact fun hx => hx Exchange.noConfusion
      · exact fun _ he => absurd rfl he
    refine honce.bind fun d => .ite (.pure _) ?_
    exact (ih d.telegrams).bind fun d' => .pure _

lemma Keeps.upholds (h : link.Keeps P) : link.Upholds F Survived P where
  send ts n _ := h.send ts n
  pause := h.pause
  failed := Stop.failed_ne_died

/-- The calls that work with the ring and send no frames but those in `F`. -/
inductive Works (link : Link σ) (F : List Telegram → Prop) : {α : Type} → Call σ α → Prop
  | pure {α : Type} (a : α) : Works link F (Pure.pure a : Call σ α)
  | fail {α : Type} {e : Error} : (Stop.failed e).blamesLock = false →
      Works link F (Call.fail e : Call σ α)
  | stalled {α : Type} : Works link F (Call.stop .stalled : Call σ α)
  | send {ts : List Telegram} (n : Nat) : F ts → Works link F (link.send ts n)
  | wait (us : Nat) : Works link F (link.wait us)
  | now : Works link F link.now
  | untilSettled : Works link F link.untilSettled
  | bind {α β : Type} {m : Call σ α} {f : α → Call σ β} :
      Works link F m → (∀ a, Works link F (f a)) → Works link F (m >>= f)
  /-- What becomes of a failure may depend on it, but it is none of a lock. -/
  | attempt {α β : Type} {m : Call σ α} {f : Except Error α → Call σ β} :
      Works link F m → (∀ a, Works link F (f (.ok a))) →
      (∀ e, (Stop.failed e).blamesLock = false → Works link F (f (.error e))) →
      Works link F (Call.attempt m >>= f)

namespace Works

variable {τ α : Type} {m : Call σ α} {S : Stop → Prop}

lemma ite {c : Prop} [Decidable c] {m' : Call σ α} (h : link.Works F m)
    (h' : link.Works F m') : link.Works F (if c then m else m') := by
  split
  · exact h
  · exact h'

lemma ofExcept {x : Except Error α}
    (hx : ∀ e, x = .error e → (Stop.failed e).blamesLock = false) :
    link.Works F (Call.ofExcept x) := by
  cases x with
  | ok a => exact .pure a
  | error e => exact .fail (hx e rfl)

/-- Work with the ring keeps what its frames and pauses keep, and it fails for no lock. -/
theorem conduct (h : link.Works F m) (hP : link.Upholds F S P) :
    Triple P m (fun _ => P) fun e s => e.blamesLock = false ∧ (S e → P s) := by
  induction h with
  | pure a => exact .pure a fun _ => id
  | fail he => exact .fail _ fun s hs => ⟨he, fun _ => hs⟩
  | stalled => exact .stop _ fun s hs => ⟨rfl, fun _ => hs⟩
  | send n hts =>
    refine ((hP.send _ n hts).and (send_dies _ n)).mono (fun s hs => ⟨hs, trivial⟩)
      (fun _ s hs => hs.1) ?_
    rintro _ s ⟨hs, rfl⟩
    exact ⟨rfl, hs⟩
  | wait us => exact .modify _ (hP.pause us)
  | now => exact fun _ hs => hs
  | untilSettled => exact fun _ hs => hs
  | bind _ _ ihm ihf => exact ihm.bind ihf
  | attempt _ _ _ ihm ihok iherror =>
    refine Triple.bind (Q := fun result s => P s ∧
      ∀ e, result = .error e → (Stop.failed e).blamesLock = false) (ihm.attempt.post ?_) ?_
    · rintro (e | a) s hs
      · exact ⟨hs.2 (hP.failed e), fun e' he' => Except.error.inj he' ▸ hs.1⟩
      · exact ⟨hs, nofun⟩
    · rintro (e | a) s hs
      · exact iherror e (hs.2 e rfl) s hs.1
      · exact ihok a s hs.1

lemma keeps (h : link.Works F m) (hP : link.Upholds F S P) : Call.Keeps P S m :=
  (h.conduct hP).stop_mono fun _ _ he => he.2

/-- Beside the ring, such work leaves everything as it is. -/
lemma second (h : link.Works F m) {P : τ → Prop} :
    Triple (fun s : τ × σ => P s.1) (Call.within .second m) (fun _ s => P s.1)
      fun e s => e.blamesLock = false ∧ P s.1 := by
  have hnothing : link.Keeps fun _ => True := ⟨fun _ _ _ _ => trivial, fun _ _ _ => trivial⟩
  refine Triple.within _ fun s hs => ?_
  exact (h.conduct hnothing.upholds).mono (fun _ _ => trivial) (fun _ _ _ => hs)
    fun _ _ he => ⟨he.1, hs⟩

/-- A telegram that is insisted upon. -/
lemma insist {t : Telegram} (ht : F [t]) (access : String) :
    link.Works F (link.insist t access) := by
  refine (send plainAttempts ht).bind fun d => .ite ?lost (.ite ?one (.ite ?refused ?crowded))
  case one => exact .pure _
  all_goals exact .fail rfl

end Works

end Link

namespace SyncManager

variable {σ : Type} {link : Link σ} {F : List Telegram → Prop}

/-- The frame that looks at a sync manager. -/
def lookFrame (station : UInt16) (manager : UInt8) : List Telegram :=
  [.read .station station (baseAddress manager) size]

/-- The frame that turns a request bit over. -/
def activateFrame (station : UInt16) (manager : UInt8) (sm : SyncManager) : List Telegram :=
  [.write .station station (activateAddress manager) [sm.activate]]

lemma read_works {slave : Slave} {manager : UInt8} (hF : F (lookFrame slave.station manager)) :
    link.Works F (SyncManager.read link slave manager) := by
  refine (Link.Works.insist hF _).bind fun raw => .ofExcept fun e he => ?_
  -- only bytes that are too few cannot be read
  rw [SyncManager.decode, requireLength] at he
  split at he
  · cases he
    rfl
  · cases he

lemma writeActivate_works {slave : Slave} {manager : UInt8} {sm : SyncManager}
    (hF : F (activateFrame slave.station manager sm)) :
    link.Works F (sm.writeActivate link slave manager) :=
  (Link.Works.insist hF _).bind fun _ => .pure ()

end SyncManager

namespace Channel

open Link SyncManager

variable {σ : Type} {c : Channel σ} {F : List Telegram → Prop}

/-- The frame of a poll. -/
def pollFrame (c : Channel σ) (manager : UInt8) : List Telegram :=
  [.read .station c.slave.station (statusAddress manager) 1]

lemma requireMailbox_works : c.link.Works F c.requireMailbox := .ite (.pure _) (.fail rfl)

/-- Two looks that are not insisted upon. -/
theorem diagnose_works (hcommand : F (lookFrame c.slave.station Mailbox.commandManager))
    (hresult : F (lookFrame c.slave.station Mailbox.resultManager)) :
    c.link.Works F c.diagnose := by
  have hlast : c.link.Works F (Call.attempt
      (SyncManager.read c.link c.slave Mailbox.resultManager) >>= fun _ => Pure.pure ()) :=
    .attempt (read_works hresult) (fun _ => .pure _) fun _ _ => .pure _
  exact .attempt (read_works hcommand) (fun _ => hlast) fun _ _ => hlast

/-- A failure after a pause. -/
lemma pause_fail_works {e : Error} (he : (Stop.failed e).blamesLock = false) :
    c.link.Works F (c.pause >>= fun _ => Call.fail e : Call σ Unit) :=
  (Works.wait _).bind fun _ => .fail he

theorem clear_works (hF : F c.clearFrame) : c.link.Works F c.clear := by
  refine (Works.send _ hF).bind fun d => .ite ?lost (.ite ?differ (.ite ?cleared ?crowded))
  case lost => exact pause_fail_works rfl
  case differ => exact .fail rfl
  case cleared => exact .pure ()
  case crowded => exact .fail rfl

theorem put_works {command : Bytes} (hF : F (c.commandFrame command)) :
    c.link.Works F (c.put command) := by
  refine (Works.send _ hF).bind fun d => .ite ?lost (.ite ?differ (.ite ?put (.ite ?refused ?_)))
  case lost => exact pause_fail_works rfl
  case differ => exact .fail rfl
  case put => exact .pure ()
  case refused => exact .ite (pause_fail_works rfl) (.pure ())
  exact .fail rfl

lemma poll_works {manager : UInt8} (hF : F (c.pollFrame manager)) (full : Bool)
    (start n : Nat) (answered : Bool) :
    c.link.Works F (c.poll manager full start n answered) := by
  induction n generalizing answered with
  | zero => exact .stalled
  | succ n ih =>
    -- the status only tells whether the wait is over
    have hrest : ∀ (reached answered' : Bool), c.link.Works F (if reached then pure () else do
        let now ← c.link.now
        if c.limits.timeoutUs ≤ now - start then
          Call.fail (waitFailure manager full answered' (now - start))
        else
          c.pause
          c.poll manager full start n answered') := by
      intro reached answered'
      refine .ite (.pure ()) (Works.now.bind fun now => .ite ?late ?again)
      case late =>
        refine .fail ?_
        rw [waitFailure]
        split <;> rfl
      case again => exact (Works.wait _).bind fun _ => ih _
    exact .attempt (.insist hF _) (fun _ => hrest _ _) fun _ _ => hrest _ _

theorem await_works {manager : UInt8} (hF : F (c.pollFrame manager)) (full : Bool) :
    c.link.Works F (c.await manager full) := by
  have hlimit : c.link.Works F c.pollLimit := Works.untilSettled.bind fun _ => .pure _
  exact Works.now.bind fun start => hlimit.bind fun polls => poll_works hF full start polls false

lemma pollRepeat_works (hlook : F (lookFrame c.slave.station Mailbox.resultManager))
    (before : Bool) (start n : Nat) : c.link.Works F (c.pollRepeat before start n) := by
  induction n with
  | zero => exact .stalled
  | succ n ih =>
    have hlater : c.link.Works F (do
        let now ← c.link.now
        if c.limits.timeoutUs ≤ now - start then
          Call.fail (.repeatRequest s!"not acknowledged after {(now - start) / 1000} ms")
        else
          c.pause
          c.pollRepeat before start n) :=
      Works.now.bind fun now => .ite (.fail rfl) ((Works.wait _).bind fun _ => ih)
    refine (read_works hlook).bind fun sm => .ite ?acknowledged (.ite ?changed hlater)
    case acknowledged => exact .ite (.pure ()) (.fail rfl)
    case changed => exact .fail rfl

/-- What a request for the last result does when it has seen that none is under way. -/
lemma request_works (hlook : F (lookFrame c.slave.station Mailbox.resultManager))
    (hactivate : ∀ sm, F (activateFrame c.slave.station Mailbox.resultManager sm))
    (sm : SyncManager) :
    c.link.Works F (do
      sm.toggleRequest.writeActivate c.link c.slave Mailbox.resultManager
      let start ← c.link.now
      c.pollRepeat sm.repeatRequest start (← c.pollLimit)) := by
  have hlimit : c.link.Works F c.pollLimit := Works.untilSettled.bind fun _ => .pure _
  refine (writeActivate_works (hactivate _)).bind fun _ => Works.now.bind fun start => ?_
  exact hlimit.bind fun polls => pollRepeat_works hlook _ start polls

theorem repeatRequest_works (hlook : F (lookFrame c.slave.station Mailbox.resultManager))
    (hactivate : ∀ sm, F (activateFrame c.slave.station Mailbox.resultManager sm)) :
    c.link.Works F c.repeatRequest :=
  (read_works hlook).bind fun sm => .ite (.fail rfl) (request_works hlook hactivate sm)

/-- The frames that look at a sync manager, poll it or turn a request bit over. -/
inductive Inquiry (c : Channel σ) : List Telegram → Prop
  | look {manager : UInt8} : IsManager manager → Inquiry c (lookFrame c.slave.station manager)
  | poll {manager : UInt8} : IsManager manager → Inquiry c (c.pollFrame manager)
  | activate (sm : SyncManager) :
    Inquiry c (activateFrame c.slave.station Mailbox.resultManager sm)

/-- What a read does with the ring before it fetches its result. -/
lemma ask_works {command : Bytes} (hclear : F c.clearFrame) (hput : F (c.commandFrame command))
    (hpoll : F (c.pollFrame Mailbox.resultManager)) :
    c.link.Works F (do
      c.clear
      c.put command
      c.await Mailbox.resultManager true) :=
  (clear_works hclear).bind fun _ => (put_works hput).bind fun _ => await_works hpoll true

/-- What a write does with the ring. -/
lemma store_works {command : Bytes} (hput : F (c.commandFrame command))
    (hinquiry : ∀ ts, c.Inquiry ts → F ts) :
    c.link.Works F (do
      match ← Call.attempt (c.put command) with
      | .ok () => c.await Mailbox.commandManager false
      | .error e =>
        c.diagnose
        Call.fail e) := by
  refine .attempt (put_works hput) (fun _ => ?stored) fun e he => ?failed
  case stored => exact await_works (hinquiry _ (.poll isManager_command)) false
  case failed =>
    have hlooks : c.link.Works F c.diagnose :=
      diagnose_works (hinquiry _ (.look isManager_command)) (hinquiry _ (.look isManager_result))
    exact hlooks.bind fun _ => .fail he

end Channel

end MotorBoard
