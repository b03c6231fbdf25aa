/-
# Requests for a lost result in a log

How often a call has asked for a lost result again is seen from outside, in a log of the frames
that were sent.  A request begins with a look at the sync manager of the results, and it comes
directly behind the frames that should have brought the result.  No other frame of a read does
that: the polls before look at one register only, the polls of a request come behind other
looks, and after a failure the sync manager of the commands is looked at first.

So the number of requests in a log is the number of looks that come directly behind a fetch.
It does not matter which faults hit the frames, or what the board does, as long as a frame that
comes back or is lost still asks for what it asked for when it was sent.  The main results are

* `Channel.ask_asked`, `Channel.diagnose_asked`, `Channel.store_apart`: stages without requests;
* `Channel.repeatRequest_apart`: a request is one request more.
-/
import MotorBoard.Proofs.Mailbox.Fetching
import MotorBoard.Proofs.Mailbox.Journal

namespace MotorBoard

open Call Board

/-- What was asked for in the frames that were sent, latest first. -/
abbrev FrameLog := List (List Telegram)

/-- A link that keeps a log of the frames that it sends. -/
structure Link.Logs {σ : Type} (link : Link σ) (log : σ → FrameLog) : Prop where
  exchange : ∀ ts s,
    Exchange.Ends (fun us s' => requests us = requests ts ∧ log s' = requests ts :: log s)
      (fun us s' => requests us = requests ts ∧ log s' = requests ts :: log s)
      (fun _ => True) (link.exchange ts s)
  pause : ∀ us s, log (link.pause us s) = log s

/-- A ring that keeps a log. -/
structure LoggedRing where
  ring : Ring
  log : FrameLog := []

namespace LoggedRing

/-- The board on the ring. -/
def board (r : LoggedRing) : Board := r.ring.board

/-- The link to such a ring. -/
def link : Link LoggedRing where
  exchange ts r :=
    let (x, ring) := Ring.link.exchange ts r.ring
    (x, ⟨ring, requests ts :: r.log⟩)
  pause us r := { r with ring := Ring.link.pause us r.ring }
  clock r := Ring.link.clock r.ring
  settling r := Ring.link.settling r.ring

lemma carries : link.Carries board := ⟨fun _ _ => rfl, fun _ _ => rfl⟩

lemma logs : link.Logs log where
  exchange ts r := by
    have hboard : Exchange.Ends (fun us _ => requests us = requests ts)
        (fun us _ => requests us = requests ts) (fun _ => True) (r.board.exchange ts) := by
      refine Board.exchange_ends (fun _ _ _ => rfl) fun fs _ => ?_
      refine (actAll_same ts _ trivial).imp (fun us _ hus => ?_) fun _ _ _ => trivial
      refine ⟨hus.requests, fun _ => ⟨hus.requests, fun _ w => ?_⟩⟩
      exact (hus.map_withCounter w).requests
    have hx : link.exchange ts r = ((r.board.exchange ts).1,
        ⟨{ r.ring with board := (r.board.exchange ts).2 }, requests ts :: r.log⟩) := rfl
    rw [hx]
    revert hboard
    rcases r.board.exchange ts with ⟨us | us | _, b⟩
    · exact fun h => ⟨h, rfl⟩
    · exact fun h => ⟨h, rfl⟩
    · exact id
  pause _ _ := rfl

end LoggedRing

namespace FrameLog

/-- Whether a frame fetches a result. -/
def isFetch (f : List Telegram) : Bool := Trigger.resultRead.matchesFrame f

/-- What a look at the sync manager of the results asks for. -/
def inquiry (station : UInt16) : List Telegram :=
  [.read .station station (SyncManager.baseAddress Mailbox.resultManager) SyncManager.size]

/-- Whether the last frame has fetched a result. -/
def fetched (log : FrameLog) : Bool := log.head?.any isFetch

/-- How often the last result was asked for again: the looks directly behind a fetch. -/
def handshakes (station : UInt16) : FrameLog → Nat
  | [] => 0
  | f :: log => handshakes station log + if f = inquiry station ∧ fetched log then 1 else 0

variable {station : UInt16} {f : List Telegram} {log : FrameLog}

lemma fetched_replicate {n : Nat} (hn : n ≠ 0) :
    fetched (List.replicate n f ++ log) = isFetch f := by
  obtain ⟨n, rfl⟩ := Nat.exists_eq_succ_of_ne_zero hn
  rw [List.replicate_succ, List.cons_append, fetched, List.head?_cons, Option.any_some]

/-- Frames that are no looks ask for nothing. -/
lemma handshakes_replicate (hf : f ≠ inquiry station) (n : Nat) :
    handshakes station (List.replicate n f ++ log) = handshakes station log := by
  induction n with
  | zero => rfl
  | succ n ih =>
    rw [List.replicate_succ, List.cons_append, handshakes, ih, if_neg fun h => hf h.1]
    rfl

lemma isFetch_inquiry : isFetch (inquiry station) = false := by
  have ha : SyncManager.baseAddress Mailbox.resultManager ≠ Mailbox.resultAddress := by decide
  simp [isFetch, inquiry, Trigger.matchesFrame, Telegram.read, ha]

/-- However often a look is sent again, it asks once. -/
lemma handshakes_replicate_inquiry {n : Nat} (hn : n ≠ 0) :
    handshakes station (List.replicate n (inquiry station) ++ log) =
      handshakes station log + if fetched log then 1 else 0 := by
  obtain ⟨n, rfl⟩ := Nat.exists_eq_succ_of_ne_zero hn
  induction n with
  | zero => simp [handshakes]
  | succ n ih =>
    rw [List.replicate_succ, List.cons_append, handshakes, ih (Nat.succ_ne_zero n),
      fetched_replicate (Nat.succ_ne_zero n), isFetch_inquiry]
    simp

/-- So many requests stand in a log. -/
def Asked (station : UInt16) (k : Nat) (log : FrameLog) : Prop := handshakes station log = k

/-- So many requests stand in a log, and the last frame has fetched no result. -/
def Apart (station : UInt16) (k : Nat) (log : FrameLog) : Prop :=
  Asked station k log ∧ fetched log = false

/-- So many requests stand in a log, and the last frame has fetched a result. -/
def Behind (station : UInt16) (k : Nat) (log : FrameLog) : Prop :=
  Asked station k log ∧ fetched log = true

variable {k : Nat}

lemma Asked.replicate (h : Asked station k log) (hf : f ≠ inquiry station) (n : Nat) :
    Asked station k (List.replicate n f ++ log) := by
  rw [Asked, handshakes_replicate hf]
  exact h

/-- A look that comes behind no fetch asks for nothing, and what is no fetch does not make the
next one a request. -/
lemma Apart.replicate (h : Apart station k log) (hf : isFetch f = false) (n : Nat) :
    Apart station k (List.replicate n f ++ log) := by
  cases n with
  | zero => exact h
  | succ n =>
    refine ⟨?_, (fetched_replicate (Nat.succ_ne_zero n)).trans hf⟩
    by_cases hinquiry : f = inquiry station
    · rw [hinquiry, Asked, handshakes_replicate_inquiry (Nat.succ_ne_zero n), h.2]
      exact h.1
    · exact h.1.replicate hinquiry _

/-- A look behind a fetch is one request more, however often it is sent. -/
lemma Behind.replicate_inquiry (h : Behind station k log) {n : Nat} (hn : n ≠ 0) :
    Apart station (k + 1) (List.replicate n (inquiry station) ++ log) := by
  refine ⟨?_, (fetched_replicate hn).trans isFetch_inquiry⟩
  rw [Asked, handshakes_replicate_inquiry hn, h.1, h.2]
  rfl

/-- A frame that fetches a result and is no look. -/
def Fetches (station : UInt16) (f : List Telegram) : Prop :=
  f ≠ inquiry station ∧ isFetch f = true

lemma Fetches.replicate (hf : Fetches station f) (h : Asked station k log) {n : Nat}
    (hn : n ≠ 0) : Behind station k (List.replicate n f ++ log) :=
  ⟨h.replicate hf.1 n, (fetched_replicate hn).trans hf.2⟩

end FrameLog

open FrameLog Link SyncManager

variable {σ : Type}

/-- What is written down of frames: what was asked for, and whether every frame that came back or
was lost asked for what was sent. -/
structure Recorder (σ : Type) where
  log : σ → FrameLog
  faithful : σ → Prop

/-- A log in `R`, as far as frames asked for what was sent. -/
def Recorder.Known (ρ : Recorder σ) (R : FrameLog → Prop) (s : σ) : Prop :=
  ρ.faithful s → R (ρ.log s)

lemma Recorder.Known.imp {ρ : Recorder σ} {R T : FrameLog → Prop} {s : σ} (h : ρ.Known R s)
    (hRT : ∀ l, R l → T l) : ρ.Known T s :=
  fun hs => hRT _ (h hs)

/-- A link whose frames are written down. -/
structure Link.Records (link : Link σ) (ρ : Recorder σ) : Prop where
  exchange : ∀ ts s,
    Exchange.Ends
      (fun us s' => ρ.faithful s' →
        ρ.faithful s ∧ requests us = requests ts ∧ ρ.log s' = requests ts :: ρ.log s)
      (fun us s' => ρ.faithful s' →
        ρ.faithful s ∧ requests us = requests ts ∧ ρ.log s' = requests ts :: ρ.log s)
      (fun _ => True) (link.exchange ts s)
  pause : ∀ us s, ρ.faithful (link.pause us s) →
    ρ.faithful s ∧ ρ.log (link.pause us s) = ρ.log s

/-- A link that keeps a log changes none of its frames. -/
lemma Link.Logs.records {link : Link σ} {log : σ → FrameLog} (h : link.Logs log) :
    link.Records ⟨log, fun _ => True⟩ where
  exchange ts s := by
    have hx := h.exchange ts s
    revert hx
    rcases link.exchange ts s with ⟨us | us | _, s'⟩
    · exact fun hx _ => ⟨trivial, hx⟩
    · exact fun hx _ => ⟨trivial, hx⟩
    · exact id
  pause us s _ := ⟨trivial, h.pause us s⟩

namespace Journal

/-- What was asked for, latest first. -/
def requested (j : Journal) : FrameLog := j.map fun p => requests p.sent

/-- Every frame came back or was lost asking for what was sent. -/
def Faithful (j : Journal) : Prop := ∀ p ∈ j, requests p.outcome.left = requests p.sent

instance (j : Journal) : Decidable j.Faithful := inferInstanceAs (Decidable (∀ p ∈ j, _))

end Journal

lemma Link.Journals.records {link : Link σ} {journal : σ → Journal} (h : link.Journals journal) :
    link.Records ⟨fun s => (journal s).requested, fun s => (journal s).Faithful⟩ where
  exchange ts s := by
    have hx := h.exchange ts s
    have hlog : ∀ x s', journal s' = ⟨ts, x⟩ :: journal s → (journal s').Faithful →
        (journal s).Faithful ∧ requests x.left = requests ts ∧
          (journal s').requested = requests ts :: (journal s).requested := by
      intro x s' hs' hfaithful
      rw [hs'] at hfaithful ⊢
      obtain ⟨hleft, hrest⟩ := List.forall_mem_cons.1 hfaithful
      exact ⟨hrest, hleft, rfl⟩
    revert hx
    rcases link.exchange ts s with ⟨us | us | _, s'⟩
    · exact hlog _ s'
    · exact hlog _ s'
    · exact fun _ => trivial
  pause us s hfaithful :=
    ⟨(congrArg Journal.Faithful (h.pause us s)).mp hfaithful,
      congrArg Journal.requested (h.pause us s)⟩

/-- The frame `ts` stands in the log `j` times behind what was there at `s₀`, and `us` is what it
was left as. -/
def Recorder.Repeated (ρ : Recorder σ) (ts : List Telegram) (s₀ : σ) (j : Nat)
    (us : List Telegram) (s : σ) : Prop :=
  ρ.faithful s → ρ.faithful s₀ ∧ requests us = requests ts ∧
    ρ.log s = List.replicate j (requests ts) ++ ρ.log s₀

namespace Link.Records

variable {link : Link σ} {ρ : Recorder σ} {station : UInt16} {k : Nat} (h : link.Records ρ)

include h

/-- A frame that is sent again and again stands in the log as often as it was sent. -/
lemma send_triple (ts : List Telegram) (n : Nat) (s₀ : σ) :
    Triple (fun s => s = s₀) (link.send ts n)
      (fun d s => (n ≠ 0 → d.sends ≠ 0) ∧ ρ.Repeated ts s₀ d.sends d.telegrams s)
      fun e _ => e = .died := by
  have hsend := link.send_triple (I := ρ.Repeated ts s₀)
    (A := fun j => ρ.Repeated ts s₀ (j + 1)) (D := fun e _ => e = .died)
    (fun j us s hs => ?_) n 0 ts
  · refine (hsend.pre ?_).post fun d s hd => ?_
    · rintro _ rfl hfaithful
      exact ⟨hfaithful, rfl, rfl⟩
    · cases hd with
      | returned hk ha => exact ⟨fun _ => Nat.succ_ne_zero _, by rwa [Nat.zero_add] at ha⟩
      | lost hi => exact ⟨id, by rwa [Nat.zero_add] at hi⟩
  · have hx := h.exchange us s
    have hnext : ∀ vs s', (ρ.faithful s' → ρ.faithful s ∧ requests vs = requests us ∧
        ρ.log s' = requests us :: ρ.log s) → ρ.Repeated ts s₀ (j + 1) vs s' := by
      intro vs s' hvs hfaithful
      obtain ⟨hs', hrequests, hlog⟩ := hvs hfaithful
      obtain ⟨hs₀, hus, hbefore⟩ := hs hs'
      refine ⟨hs₀, hrequests.trans hus, ?_⟩
      rw [hlog, hus, hbefore, List.replicate_succ, List.cons_append]
    revert hx
    rcases link.exchange us s with ⟨vs | vs | _, s'⟩
    · exact hnext vs s'
    · intro hx hfaithful
      rw [requests_rewound]
      exact hnext vs s' hx hfaithful
    · exact fun _ => rfl

/-- What is known of the log behind a frame, from what was known before it. -/
lemma send_known {R : FrameLog → Prop} {T : Nat → FrameLog → Prop} (ts : List Telegram) (n : Nat)
    (hT : ∀ l m, (n ≠ 0 → m ≠ 0) → R l → T m (List.replicate m (requests ts) ++ l)) :
    Triple (ρ.Known R) (link.send ts n)
      (fun d s => ρ.Known (fun l => requests d.telegrams = requests ts ∧ T d.sends l) s)
      fun e _ => e = .died := by
  refine Triple.of_eq fun s hs => (h.send_triple ts n s).post ?_
  rintro d s' ⟨hn, hlog⟩ hfaithful
  obtain ⟨hs₀, hrequests, hlog⟩ := hlog hfaithful
  exact ⟨hrequests, hlog ▸ hT _ _ hn (hs hs₀)⟩

/-- What follows from the faith of the frames so far stays so. -/
lemma keeps (p : Prop) : link.Keeps fun s => ρ.faithful s → p where
  exchange ts s hs := by
    have hx := h.exchange ts s
    revert hx
    rcases link.exchange ts s with ⟨us | us | _, s'⟩
    · exact fun hx _ hfaithful => hs (hx hfaithful).1
    · exact fun hx _ hfaithful => hs (hx hfaithful).1
    · exact fun _ hdied => absurd rfl hdied
  pause us s hs hfaithful := hs (h.pause us s hfaithful).1

lemma pause_known {R : FrameLog → Prop} (us : Nat) (s : σ) (hs : ρ.Known R s) :
    ρ.Known R (link.pause us s) := by
  intro hfaithful
  obtain ⟨hfaithful', hlog⟩ := h.pause us s hfaithful
  exact hlog ▸ hs hfaithful'

/-- Frames that are no looks ask for nothing. -/
lemma upholds_asked :
    link.Upholds (fun ts => requests ts ≠ inquiry station) Keeps.Survived
      (ρ.Known (Asked station k)) where
  send ts n hts := by
    have hsend := h.send_known (R := Asked station k) (T := fun _ => Asked station k) ts n
      fun l m _ hl => hl.replicate hts m
    exact hsend.mono (fun _ => id) (fun _ _ hs => hs.imp fun _ hl => hl.2)
      fun _ _ he hne => absurd he hne
  pause := h.pause_known
  failed := Stop.failed_ne_died

/-- Where nothing is fetched, looks ask for nothing either. -/
lemma upholds_apart :
    link.Upholds (fun ts => isFetch (requests ts) = false) Keeps.Survived
      (ρ.Known (Apart station k)) where
  send ts n hts := by
    have hsend := h.send_known (R := Apart station k) (T := fun _ => Apart station k) ts n
      fun l m _ hl => hl.replicate hts m
    exact hsend.mono (fun _ => id) (fun _ _ hs => hs.imp fun _ hl => hl.2)
      fun _ _ he hne => absurd he hne
  pause := h.pause_known
  failed := Stop.failed_ne_died

/-- A look at a sync manager is sent once at least, and no more is done. -/
lemma look_known {R T : FrameLog → Prop} (slave : Slave) (manager : UInt8)
    (hT : ∀ l m, m ≠ 0 → R l →
      T (List.replicate m (requests (lookFrame slave.station manager)) ++ l)) :
    Triple (ρ.Known R) (SyncManager.read link slave manager) (fun _ => ρ.Known T)
      fun e s => Keeps.Survived e → ρ.Known T s := by
  have hsend := h.send_known (R := R) (T := fun _ => T) (lookFrame slave.station manager)
    plainAttempts fun l m hm => hT l m (hm (by decide))
  have hlook : Triple (ρ.Known R) (link.send (lookFrame slave.station manager) plainAttempts)
      (fun _ => ρ.Known T) fun e s => Keeps.Survived e → ρ.Known T s :=
    hsend.mono (fun _ => id) (fun _ _ hs => hs.imp fun _ hl => hl.2) fun _ _ he hne => absurd he hne
  refine (hlook.bind fun d => Call.Keeps.ite ?lost (.ite ?one (.ite ?refused ?crowded))).bind
    fun raw => Call.Keeps.ofExcept _
  case one => exact .pure _
  all_goals exact .fail _

end Link.Records

namespace Channel

variable {c : Channel σ} {ρ : Recorder σ} {k : Nat}

lemma Inquiry.isFetch_eq_false {ts : List Telegram} (h : c.Inquiry ts) :
    isFetch (requests ts) = false := by
  cases h with
  | look hm => obtain rfl | rfl := hm <;> rfl
  | poll hm => obtain rfl | rfl := hm <;> rfl
  | activate => rfl

/-- What puts a command fetches nothing and is no look. -/
lemma requests_commandFrame (c : Channel σ) (command : Bytes) :
    requests (c.commandFrame command) ≠ inquiry c.slave.station ∧
      isFetch (requests (c.commandFrame command)) = false := by
  rw [commandFrame]
  split <;> simp [requests, inquiry, isFetch, Trigger.matchesFrame, Telegram.isRead,
    Telegram.request, Telegram.write, Telegram.read]

/-- The frame that should bring a result is a fetch and no look. -/
lemma fetches_resultFrame (c : Channel σ) {n : Nat} (hn : 1 < n) (hn' : n < Mailbox.size) :
    Fetches c.slave.station (requests (c.resultFrame n)) := by
  have hunsent : requests (c.resultFrame n) = c.resultFrame n := by
    rw [resultFrame]
    split <;> simp [requests, Telegram.request, Telegram.read, Bytes.zeros]
  have hfetch : isFetch (c.resultFrame n) = true := by
    rw [isFetch, (c.resultFrame_takes hn').matchesFrame hn]
    rfl
  rw [hunsent]
  refine ⟨fun h => ?_, hfetch⟩
  rw [h, isFetch_inquiry] at hfetch
  cases hfetch

section Stages

variable (h : c.link.Records ρ)

include h

/-- What a read does before it fetches its result asks for nothing. -/
theorem ask_asked (command : Bytes) :
    Call.Keeps (ρ.Known (Asked c.slave.station k)) Keeps.Survived (do
      c.clear
      c.put command
      c.await Mailbox.resultManager true) := by
  have hclear : requests c.clearFrame ≠ inquiry c.slave.station := by
    simp [requests, clearFrame, inquiry]
  have hpoll : requests (c.pollFrame Mailbox.resultManager) ≠ inquiry c.slave.station := by
    have haddress : statusAddress Mailbox.resultManager ≠ baseAddress Mailbox.resultManager := by
      decide
    simp [requests, pollFrame, inquiry, Telegram.request, Telegram.read, haddress]
  exact (ask_works hclear (c.requests_commandFrame command).1 hpoll).keeps h.upholds_asked

/-- What a write does asks for nothing. -/
theorem store_apart (command : Bytes) :
    Call.Keeps (ρ.Known (Apart c.slave.station k)) Keeps.Survived (do
      match ← Call.attempt (c.put command) with
      | .ok () => c.await Mailbox.commandManager false
      | .error e =>
        c.diagnose
        Call.fail e) :=
  (store_works (c.requests_commandFrame command).2 fun _ => Inquiry.isFetch_eq_false).keeps
    h.upholds_apart

/-- Looking around after a failure asks for nothing: the sync manager of the commands is looked
at first. -/
theorem diagnose_asked :
    Call.Keeps (ρ.Known (Asked c.slave.station k)) Keeps.Survived c.diagnose := by
  have hother : requests (lookFrame c.slave.station Mailbox.commandManager) ≠
      inquiry c.slave.station := by
    have haddress : baseAddress Mailbox.commandManager ≠ baseAddress Mailbox.resultManager := by
      decide
    simp [requests, lookFrame, inquiry, Telegram.request, Telegram.read, haddress]
  have hfetch : ∀ {manager}, IsManager manager →
      isFetch (requests (lookFrame c.slave.station manager)) = false := fun hm =>
    (Inquiry.look (c := c) hm).isFetch_eq_false
  have hcommand : Triple (ρ.Known (Asked c.slave.station k))
      (Call.attempt (SyncManager.read c.link c.slave Mailbox.commandManager))
      (fun _ => ρ.Known (Apart c.slave.station k))
      fun e s => Keeps.Survived e → ρ.Known (Apart c.slave.station k) s := by
    have hread := h.look_known (R := Asked c.slave.station k) (T := Apart c.slave.station k)
      c.slave Mailbox.commandManager fun l m hm hl =>
        ⟨hl.replicate hother m, (fetched_replicate hm).trans (hfetch isManager_command)⟩
    refine hread.attempt.post fun result s hs => ?_
    cases result with
    | ok _ => exact hs
    | error e => exact hs (Stop.failed_ne_died e)
  have hresult : Call.Keeps (ρ.Known (Apart c.slave.station k)) Keeps.Survived
      (Call.attempt (SyncManager.read c.link c.slave Mailbox.resultManager)) :=
    ((read_works (hfetch isManager_result)).keeps h.upholds_apart).attempt Stop.failed_ne_died
  refine (hcommand.bind fun _ => hresult.bind fun _ => Call.Keeps.pure ()).mono (fun _ => id) ?_ ?_
  · exact fun _ s hs => hs.imp fun _ hl => hl.1
  · exact fun e s hs he => (hs he).imp fun _ hl => hl.1

/-- A request behind a fetch is one more, well or not.  What else is known stays known. -/
theorem repeatRequest_apart (p : Prop) :
    Triple (ρ.Known fun l => p ∧ Behind c.slave.station k l) c.repeatRequest
      (fun _ => ρ.Known fun l => p ∧ Apart c.slave.station (k + 1) l)
      fun e s => Keeps.Survived e → ρ.Known (fun l => p ∧ Apart c.slave.station (k + 1) l) s := by
  have hlook : isFetch (requests (lookFrame c.slave.station Mailbox.resultManager)) = false :=
    (Inquiry.look (c := c) isManager_result).isFetch_eq_false
  have hactivate : ∀ sm, isFetch (requests
      (activateFrame c.slave.station Mailbox.resultManager sm)) = false :=
    fun sm => (Inquiry.activate (c := c) sm).isFetch_eq_false
  have hrequest : Triple (ρ.Known (Behind c.slave.station k)) c.repeatRequest
      (fun _ => ρ.Known (Apart c.slave.station (k + 1)))
      fun e s => Keeps.Survived e → ρ.Known (Apart c.slave.station (k + 1)) s := by
    have hfirst := h.look_known (R := Behind c.slave.station k)
      (T := Apart c.slave.station (k + 1)) c.slave Mailbox.resultManager
      fun l m hm hl => hl.replicate_inquiry hm
    -- the polls of a request are no requests of their own
    exact hfirst.bind fun sm => Call.Keeps.ite (.fail _) <|
      (request_works (F := fun ts => isFetch (requests ts) = false) hlook hactivate sm).keeps
        h.upholds_apart
  have hkept : Call.Keeps (fun s => ρ.faithful s → p) Keeps.Survived c.repeatRequest :=
    (repeatRequest_works trivial fun _ => trivial).keeps
      ((h.keeps p).upholds (F := fun _ => True))
  refine (hkept.and hrequest).mono ?_ ?_ ?_
  · exact fun s hs => ⟨fun hfaithful => (hs hfaithful).1, hs.imp fun _ hl => hl.2⟩
  · exact fun _ s hs hfaithful => ⟨hs.1 hfaithful, hs.2 hfaithful⟩
  · exact fun e s hs he hfaithful => ⟨hs.1 he hfaithful, hs.2 he hfaithful⟩

end Stages

end Channel

end MotorBoard
