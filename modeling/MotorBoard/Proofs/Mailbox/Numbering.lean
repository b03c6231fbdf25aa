/-
# The number of a command

A call on a mailbox takes the next sequence number when it has passed the checks, and it puts one
command together with it.  From then on the number is that of the mailbox, whatever becomes of
the call.  Most frames of the call carry no command at all: they look at registers, clear the
mailbox of results or fetch what is in it.  The only frames that do carry one are those that put
the command of the call, as often as they are sent.

A call that does not pass the checks sends nothing, and the number stays what it was.  The main
results are

* `Channel.serve_refused`: a call that is refused, by its checks or by the lock;
* `Channel.serve_numbered`: a call that is not.
-/
import MotorBoard.Proofs.Mailbox.Codec
import MotorBoard.Proofs.Mailbox.Journal
import MotorBoard.Proofs.Mailbox.Reading

namespace MotorBoard

open Call

namespace Mailbox

lemma toNat_nextSequence (current : UInt8) :
    (nextSequence current).toNat = current.toNat % 7 + 1 := by
  have hmod : (current % 7).toNat = current.toNat % 7 := UInt8.toNat_mod current 7
  rw [nextSequence, UInt8.toNat_add, hmod]
  exact Nat.mod_eq_of_lt (by show current.toNat % 7 + 1 < 2 ^ 8; omega)

/-- A sequence number fits into its bits. -/
lemma nextSequence_and (current : UInt8) :
    nextSequence current &&& 7 = nextSequence current := by
  apply UInt8.toNat.inj
  rw [UInt8.toNat_and, toNat_nextSequence]
  exact (Nat.and_two_pow_sub_one_eq_mod _ 3).trans (Nat.mod_eq_of_lt (by omega))

end Mailbox

/-- Whatever stands behind a header, the header is read. -/
lemma CommandHeader.decode_append {h : CommandHeader} (hf : h.Fits) (rest : Bytes) :
    decode (h.encode ++ rest) = .ok h := by
  have htake : (h.encode ++ rest).take Mailbox.headerSize = h.encode :=
    List.take_left' (length_encode h)
  obtain ⟨hdecodes, hwords⟩ := decode_eq_ok_iff.1 (decode_encode hf)
  refine decode_eq_ok_iff.2 ⟨⟨?_, ?_⟩, hwords.trans ?_⟩
  · exact hdecodes.1.trans (by simp)
  · rw [htake]
    exact Checksum.verifies_sealed _
  · simp [encode, Checksum.sealed, Bytes.word16At]

namespace Channel

/-! What is asked for. -/

namespace Request

/-- The header of the command for a request. -/
def header (sequence : UInt8) : Request → CommandHeader
  | .read address length => ⟨address, length, sequence, .read⟩
  | .write address data => ⟨address, data.length, sequence, .write⟩

/-- The bytes that a request brings along. -/
def payload : Request → Bytes
  | .read _ _ => []
  | .write _ data => data

/-- Bytes that spell the command of a call with this number. -/
def Spelled (request : Request) (number : UInt8) (bytes : Bytes) : Prop :=
  CommandHeader.decode bytes = .ok (request.header number)

/-- The command for a request, unless its length is out of bounds. -/
def build : Request → UInt8 → Except Error MailboxCommand
  | .read address length => MailboxCommand.read address length
  | .write address data => MailboxCommand.write address data

/-- Whether the length of a request is in the bounds of its direction. -/
def inBounds (request : Request) : Bool :=
  1 ≤ (request.header 0).length ∧
    (request.header 0).length ≤ CommandHeader.limit (request.header 0).direction

variable {request : Request}

lemma build_of_inBounds (h : request.inBounds = true) (sequence : UInt8) :
    request.build sequence = .ok ⟨request.header (sequence &&& 7), request.payload⟩ := by
  cases request with
  | read address length =>
    have hl : 1 ≤ length ∧ length ≤ CommandHeader.limit .read := of_decide_eq_true h
    rw [build, MailboxCommand.read, CommandHeader.build_eq hl]
    rfl
  | write address data =>
    have hl : 1 ≤ data.length ∧ data.length ≤ CommandHeader.limit .write := of_decide_eq_true h
    rw [build, MailboxCommand.write, CommandHeader.build_eq hl]
    rfl

lemma build_of_not_inBounds (h : ¬ request.inBounds = true) (sequence : UInt8) :
    ∃ e, request.build sequence = .error e := by
  cases request with
  | read address length =>
    have hl : ¬ (1 ≤ length ∧ length ≤ CommandHeader.limit .read) := mt decide_eq_true h
    rw [build, MailboxCommand.read, CommandHeader.build, if_pos (by omega)]
    exact ⟨_, rfl⟩
  | write address data =>
    have hl : ¬ (1 ≤ data.length ∧ data.length ≤ CommandHeader.limit .write) :=
      mt decide_eq_true h
    rw [build, MailboxCommand.write, CommandHeader.build, if_pos (by omega)]
    exact ⟨_, rfl⟩

lemma fits (h : request.inBounds = true) (sequence : UInt8) :
    (request.header (sequence &&& 7)).Fits := by
  have hl := of_decide_eq_true h
  cases request <;> exact CommandHeader.fits_of_le_limit hl

end Request

variable {σ : Type} {c : Channel σ} {request : Request}

/-- The only commands in a frame that puts a command are this one. -/
lemma commandFrame_decodes {command : MailboxCommand} (hf : command.header.Fits) :
    ∀ bytes ∈ commandsIn (c.commandFrame command.encode),
      CommandHeader.decode bytes = .ok command.header := by
  obtain ⟨rest, hrest⟩ : ∃ rest, command.encode = command.header.encode ++ rest := by
    rw [MailboxCommand.encode]
    split
    · exact ⟨[], (List.append_nil _).symm⟩
    · exact ⟨_, rfl⟩
  have htake : command.encode.take Mailbox.size =
      command.header.encode ++ rest.take (Mailbox.size - Mailbox.headerSize) := by
    rw [hrest, List.take_append, CommandHeader.length_encode, List.take_of_length_le]
    rw [CommandHeader.length_encode]
    decide
  intro bytes hbytes
  -- the other telegram of a split frame goes to the end of the mailbox
  obtain rfl | rfl : bytes = command.encode ∨ bytes = command.encode.padTo Mailbox.size 0 := by
    rw [commandFrame] at hbytes
    split at hbytes
    · exact .inl (by simpa [commandsIn, Telegram.write, Mailbox.commandLast,
        Mailbox.commandAddress] using hbytes)
    · exact .inr (by simpa [commandsIn, Telegram.write] using hbytes)
  · rw [hrest]
    exact CommandHeader.decode_append hf rest
  · rw [Bytes.padTo, htake, List.append_assoc]
    exact CommandHeader.decode_append hf _

end Channel

/-! The stages of a call, by the commands that they send. -/

open Journal

/-- While no frames are sent but those with commands in `C`, there are no other commands in the
journal but what the bus has put in.  A frame at hand is remembered meanwhile. -/
lemma Link.Journals.upholds {σ : Type} {link : Link σ} {journal : σ → Journal}
    {C : Bytes → Prop} {frame : List Telegram} (h : link.Journals journal) :
    link.Upholds (fun ts => ∀ command ∈ commandsIn ts, C command) Anyhow
      fun s => Confined C frame (journal s) where
  send ts n hts := (h.send_confined frame ts n).mono (fun _ hs => hs.add hts)
    (fun _ _ hs => hs.frame_of_subset (by simp)) fun _ _ hs _ => hs
  pause us s hs := (h.pause us s).symm ▸ hs
  failed _ := trivial

namespace Channel

open Link Board

variable {σ : Type} {c : Channel σ} {journal : σ → Journal} {C : Bytes → Prop}
  {frame : List Telegram}

/-- What looks at a sync manager, polls it or turns a request bit over is no command. -/
lemma Inquiry.commandsIn_eq_nil {ts : List Telegram} (h : c.Inquiry ts) :
    commandsIn ts = [] := by
  cases h <;> rfl

lemma Inquiry.commands {ts : List Telegram} (h : c.Inquiry ts) :
    ∀ command ∈ commandsIn ts, C command := by
  rw [h.commandsIn_eq_nil]
  exact nofun

/-! Beside the ring the mailbox keeps its number. -/

/-- A mailbox that has given out a number, over a ring on which nothing but the commands in `C`
was sent. -/
def Numbered (journal : σ → Journal) (number : UInt8) (C : Bytes → Prop) (frame : List Telegram)
    (s : MailboxState × σ) : Prop :=
  s.1.sequence = number ∧ Confined C frame (journal s.2)

variable {number : UInt8}

/-- Without the frame at hand. -/
lemma Numbered.forget (s : MailboxState × σ) (hs : Numbered journal number C frame s) :
    Numbered journal number C [] s :=
  ⟨hs.1, hs.2.frame_of_subset (List.nil_subset _)⟩

/-- Work with the ring, by the commands that it sends. -/
lemma ring_numbered {α : Type} {link : Link σ} {m : Call σ α} (h : link.Journals journal)
    (hm : link.Works (fun ts => ∀ command ∈ commandsIn ts, C command) m) :
    Call.Keeps (Numbered journal number C frame) Anyhow (Call.within .second m) :=
  (hm.keeps h.upholds).second_beside (A := fun v : MailboxState => v.sequence = number)

variable (h : c.link.Journals journal)

include h

lemma diagnose_numbered :
    Call.Keeps (Numbered journal number C frame) Anyhow (Call.within .second c.diagnose) :=
  ring_numbered h <| diagnose_works (Inquiry.look (c := c) isManager_command).commands
    (Inquiry.look (c := c) isManager_result).commands

lemma countedRepeat_numbered :
    Call.Keeps (Numbered journal number C frame) Anyhow c.countedRepeat := by
  have hrequest : Call.Keeps (Numbered journal number C frame) Anyhow
      (Call.within .second c.repeatRequest) :=
    ring_numbered h <| repeatRequest_works (Inquiry.look (c := c) isManager_result).commands
      fun sm => (Inquiry.activate (c := c) sm).commands
  -- a request is counted, and the number is another field
  have hcount (failed : Bool) : Call.Keeps (Numbered journal number C frame) Anyhow
      (Call.within .first (Call.modify (MailboxState.countRetry failed))) :=
    .within _ (fun _ _ => .modify fun _ ht => ⟨ht.1, ht.2⟩) fun _ => rfl
  exact (hrequest.attempt fun _ => trivial).bind fun result =>
    (hcount _).bind fun _ => .ofExcept result

/-- A frame that fetches a result is sent again as it was left, even when it came back. -/
lemma fetchFrom_numbered (length tries : Nat) (frame : List Telegram) (dropped : Nat) :
    Triple (Numbered journal number C frame) (c.fetchFrom length tries frame dropped)
      (fun _ => Numbered journal number C []) fun _ => Numbered journal number C [] := by
  have hfails {ts : List Telegram} (e : Error) :
      Triple (Numbered journal number C ts)
        (Call.within .second c.diagnose >>= fun _ => Call.fail e : Call (MailboxState × σ) Bytes)
        (fun _ => Numbered journal number C []) fun _ => Numbered journal number C [] :=
    ((diagnose_numbered h).stop_mono fun _ s hs => Numbered.forget s (hs trivial)).bind fun _ =>
      .fail e Numbered.forget
  induction tries generalizing frame dropped with
  | zero => exact hfails _
  | succ tries ih =>
    have hsend : Triple (Numbered journal number C frame)
        (Call.within .second (c.link.send frame c.limits.maxDropped))
        (fun d => Numbered journal number C d.telegrams)
        fun _ => Numbered journal number C [] :=
      (h.send_confined [] frame _).second_beside (A := fun v : MailboxState => v.sequence = number)
    refine hsend.bind fun d => .ite (fun _ => ?differ) fun _ => .ite (fun _ => ?refused) fun _ =>
      .ite (fun _ => ?brought) fun _ => ?crowded
    case differ => exact .fail _ Numbered.forget
    case refused =>
      have hrepeat : Triple (Numbered journal number C d.telegrams) c.countedRepeat
          (fun _ => Numbered journal number C d.telegrams)
          fun _ => Numbered journal number C [] :=
        (countedRepeat_numbered h).stop_mono fun _ s hs => Numbered.forget s (hs trivial)
      exact .ite (fun _ => .fail _ Numbered.forget) fun _ => hrepeat.bind fun _ => ih _ _
    case brought => exact .pure _ Numbered.forget
    case crowded => exact hfails _

/-- The frame that fetches a result carries no command. -/
lemma fetch_numbered (length : Nat) :
    Triple (Numbered journal number C []) (c.fetch length)
      (fun _ => Numbered journal number C []) fun _ => Numbered journal number C [] := by
  have hframe : commandsIn (c.resultFrame length) = [] := by
    rw [resultFrame]
    split <;> rfl
  exact (fetchFrom_numbered h _ _ _ _).pre fun s hs =>
    ⟨hs.1, hs.2.frame_of_subset (hframe ▸ List.nil_subset _)⟩

omit h

/-! Whole calls. -/

/-- Whether a request passes the checks of a channel. -/
def admits (c : Channel σ) (request : Request) : Bool :=
  c.slave.state.allowsMailbox && request.inBounds

lemma nextCommand_of_admits (hc : c.admits request = true) (v : MailboxState) (s : σ) :
    c.nextCommand request.build (v, s) =
      (.ok ⟨request.header (Mailbox.nextSequence v.sequence), request.payload⟩,
        { v with sequence := Mailbox.nextSequence v.sequence }, s) := by
  obtain ⟨hm, hb⟩ := Bool.and_eq_true_iff.1 hc
  have hbuild := Request.build_of_inBounds hb (Mailbox.nextSequence v.sequence)
  rw [Mailbox.nextSequence_and] at hbuild
  simp only [nextCommand, requireMailbox, if_pos hm]
  show (Call.ofExcept (request.build (Mailbox.nextSequence v.sequence)) >>= _ :
    Call (MailboxState × σ) MailboxCommand) (v, s) = _
  rw [hbuild]
  rfl

lemma nextCommand_of_not_admits (hc : ¬ c.admits request = true) (v : MailboxState) (s : σ) :
    ∃ e, c.nextCommand request.build (v, s) = (.error e, v, s) := by
  by_cases hm : c.slave.state.allowsMailbox = true
  · have hb : ¬ request.inBounds = true := fun hb => hc (Bool.and_eq_true_iff.2 ⟨hm, hb⟩)
    obtain ⟨e, hbuild⟩ := Request.build_of_not_inBounds hb (Mailbox.nextSequence v.sequence)
    simp only [nextCommand, requireMailbox, if_pos hm]
    refine ⟨.failed e, ?_⟩
    show (Call.ofExcept (request.build (Mailbox.nextSequence v.sequence)) >>= _ :
      Call (MailboxState × σ) MailboxCommand) (v, s) = _
    rw [hbuild]
    rfl
  · simp only [nextCommand, requireMailbox, if_neg hm]
    exact ⟨_, rfl⟩

/-- What becomes of the number and of the ring in a call that has got hold of the lock. -/
lemma serve_leaves {P Q : UInt8 → σ → Prop}
    (hread : ∀ address length, request = .read address length →
      Triple (fun s => P s.1.sequence s.2) (c.readHeld address length)
        (fun _ s => Q s.1.sequence s.2) fun _ s => Q s.1.sequence s.2)
    (hwrite : ∀ address data, request = .write address data →
      Triple (fun s => P s.1.sequence s.2) (c.writeHeld address data)
        (fun _ s => Q s.1.sequence s.2) fun _ s => Q s.1.sequence s.2)
    {m m' : Mailbox} {s s' : σ} {r : Except Stop Bytes}
    (hserve : c.serve request (m, s) = (r, m', s')) (hlock : m.lock ≠ .poisoned)
    (hP : P m.value.sequence s) : Q m'.value.sequence s' := by
  have hends : Ends (fun _ t => Q t.1.value.sequence t.2) (fun _ t => Q t.1.value.sequence t.2)
      (c.serve request (m, s)) := by
    cases request with
    | read address length =>
      have hheld := (hread _ _ rfl).onFailure (f := fun s => (s.1.countReadError, s.2))
        fun _ _ => id
      exact Guarded.locked_leaves (P := fun v : MailboxState => P v.sequence)
        (Q := fun v : MailboxState => Q v.sequence) hheld (m, s) ⟨hlock, hP⟩
    | write address data =>
      have hheld := (hwrite _ _ rfl).onFailure (f := fun s => (s.1.countWriteError, s.2))
        fun _ _ => id
      have hlocked := Guarded.locked_leaves (P := fun v : MailboxState => P v.sequence)
        (Q := fun v : MailboxState => Q v.sequence) hheld
      exact hlocked.bind (R := fun _ t => Q t.1.value.sequence t.2)
        (fun _ => .pure [] fun _ => id) (m, s) ⟨hlock, hP⟩
  rw [hserve] at hends
  cases r <;> exact hends

/-- Under a poisoned lock nothing is done. -/
lemma serve_poisoned {m : Mailbox} (hlock : m.lock = .poisoned) (s : σ) :
    c.serve request (m, s) = (.error (.failed (.lockFailed m.name)), m.recovered, s) := by
  cases request with
  | read address length => exact Guarded.locked_poisoned hlock s
  | write address data => exact bind_error (Guarded.locked_poisoned hlock s)

/-- A call that is refused, by its checks or by the lock, sends nothing and uses no number up. -/
theorem serve_refused {m m' : Mailbox} {s s' : σ} {r : Except Stop Bytes}
    (hserve : c.serve request (m, s) = (r, m', s'))
    (hrefused : m.lock = .poisoned ∨ ¬ c.admits request = true) :
    m'.value.sequence = m.value.sequence ∧ s' = s := by
  by_cases hlock : m.lock = .poisoned
  · rw [serve_poisoned hlock] at hserve
    cases hserve
    exact ⟨rfl, rfl⟩
  · -- both kinds of calls stop before they do anything else
    have hnext : Triple (fun t : MailboxState × σ => t.1.sequence = m.value.sequence ∧ t.2 = s)
        (c.nextCommand request.build) (fun _ _ => False)
        fun _ t => t.1.sequence = m.value.sequence ∧ t.2 = s := by
      intro t ht
      obtain ⟨e, hfails⟩ := nextCommand_of_not_admits (hrefused.resolve_left hlock) t.1 t.2
      rw [hfails]
      exact ht
    refine serve_leaves (P := fun q t => q = m.value.sequence ∧ t = s)
      (Q := fun q t => q = m.value.sequence ∧ t = s) ?_ ?_ hserve hlock ⟨rfl, rfl⟩
    · rintro address length rfl
      exact hnext.bind fun _ _ => False.elim
    · rintro address data rfl
      exact hnext.bind fun _ _ => False.elim

/-- A call whose own command is one of `C` sends no other one, and it gives no second number
out. -/
lemma serve_confined (h : c.link.Journals journal) {m m' : Mailbox} {s s' : σ}
    {r : Except Stop Bytes} (hserve : c.serve request (m, s) = (r, m', s'))
    (hlock : m.lock ≠ .poisoned)
    (hnext : Triple (fun t : MailboxState × σ => t.1.sequence = m.value.sequence ∧ t.2 = s)
      (c.nextCommand request.build)
      (fun command t => (∀ bytes ∈ commandsIn (c.commandFrame command.encode), C bytes) ∧
        Numbered journal number C [] t) fun _ => Numbered journal number C []) :
    m'.value.sequence = number ∧ Confined C [] (journal s') := by
  refine serve_leaves (P := fun q t => q = m.value.sequence ∧ t = s)
    (Q := fun q t => q = number ∧ Confined C [] (journal t)) ?read ?write hserve hlock ⟨rfl, rfl⟩
  case read =>
    rintro address length rfl
    refine hnext.bind fun command => Triple.lift fun hC => ?_
    have hclear : ∀ bytes ∈ commandsIn c.clearFrame, C bytes := nofun
    have hpoll : ∀ bytes ∈ commandsIn (c.pollFrame Mailbox.resultManager), C bytes :=
      (Inquiry.poll isManager_result).commands
    have hask : Call.Keeps (Numbered journal number C []) Anyhow (Call.within .second _) :=
      ring_numbered h (ask_works hclear hC hpoll)
    refine (hask.stop_mono fun _ _ hs => hs trivial).bind fun _ =>
      (fetch_numbered h _).bind fun result => ?_
    exact .ite (fun _ => .pure _ fun _ => id) fun _ => .fail _ fun _ => id
  case write =>
    rintro address data rfl
    refine hnext.bind fun command => Triple.lift fun hC => ?_
    have hstore : Call.Keeps (Numbered journal number C []) Anyhow (Call.within .second _) :=
      ring_numbered h (store_works hC fun _ => Inquiry.commands)
    exact hstore.stop_mono fun _ _ hs => hs trivial

/-- A call that passes the checks under the lock uses one number up, however it ends, and every
command of its own that it sends has this number. -/
theorem serve_numbered (h : c.link.Journals journal) {m m' : Mailbox} {s s' : σ}
    {r : Except Stop Bytes} (hserve : c.serve request (m, s) = (r, m', s'))
    (hlock : m.lock ≠ .poisoned) (hc : c.admits request = true) (hj : journal s = []) :
    m'.value.sequence = Mailbox.nextSequence m.value.sequence ∧
      ∀ bytes ∈ (journal s').own, CommandHeader.decode bytes =
        .ok (request.header (Mailbox.nextSequence m.value.sequence)) := by
  have hfits : (request.header (Mailbox.nextSequence m.value.sequence)).Fits := by
    have hfits := Request.fits (Bool.and_eq_true_iff.1 hc).2
      (Mailbox.nextSequence m.value.sequence)
    rwa [Mailbox.nextSequence_and] at hfits
  -- the command is built before the first frame, so nothing else is in the journal then
  have hnext : Triple (fun t : MailboxState × σ => t.1.sequence = m.value.sequence ∧ t.2 = s)
      (c.nextCommand request.build)
      (fun command t =>
        (∀ bytes ∈ commandsIn (c.commandFrame command.encode),
          request.Spelled (Mailbox.nextSequence m.value.sequence) bytes) ∧
        Numbered journal (Mailbox.nextSequence m.value.sequence)
          (request.Spelled (Mailbox.nextSequence m.value.sequence)) [] t)
      fun _ => Numbered journal (Mailbox.nextSequence m.value.sequence)
        (request.Spelled (Mailbox.nextSequence m.value.sequence)) [] := by
    rintro ⟨v, t⟩ ⟨hv, rfl⟩
    rw [nextCommand_of_admits hc, hv]
    exact ⟨commandFrame_decodes hfits, rfl, hj ▸ .start nofun⟩
  obtain ⟨hsequence, hown, -⟩ := serve_confined h hserve hlock hnext
  exact ⟨hsequence, hown⟩

end Channel

end MotorBoard
