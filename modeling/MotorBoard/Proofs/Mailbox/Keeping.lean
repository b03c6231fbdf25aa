/-
# What calls on a mailbox keep

A call on a mailbox does nothing to the ring but send frames and pause.  So a condition that
every frame keeps, unless it kills the bus, and that every pause keeps, is kept by every call
that the bus survives.  This is what one needs to know of a call that comes before the one of
interest, and it does not matter then what the call was for.  The main results are

* `Channel.read_keeps`, `Channel.write_keeps`: the two calls;
* `Link.Carries.keeps_follows`: a board goes on from what it was by every frame.
-/
import MotorBoard.Proofs.Board.Wire
import MotorBoard.Proofs.Mailbox.Working

namespace MotorBoard

open Call

variable {σ : Type} {P : σ → Prop}

namespace Channel

open Link.Keeps

variable {c : Channel σ}

lemma countedRepeat_keeps (h : c.link.Keeps P) :
    Call.Keeps (fun s : MailboxState × σ => P s.2) Survived c.countedRepeat := by
  have hrequest : Call.Keeps P Survived c.repeatRequest :=
    (repeatRequest_works trivial fun _ => trivial).keeps (h.upholds (F := fun _ => True))
  refine (hrequest.second.attempt Stop.failed_ne_died).bind fun result => ?_
  exact (Call.Keeps.first _).bind fun _ => .ofExcept result

lemma fetchFrom_keeps (h : c.link.Keeps P) (length tries : Nat) (frame : List Telegram)
    (dropped : Nat) :
    Call.Keeps (fun s : MailboxState × σ => P s.2) Survived
      (c.fetchFrom length tries frame dropped) := by
  have hdiagnose : Call.Keeps P Survived c.diagnose :=
    (diagnose_works trivial trivial).keeps (h.upholds (F := fun _ => True))
  induction tries generalizing frame dropped with
  | zero => exact hdiagnose.second.bind fun _ => .fail _
  | succ tries ih =>
    refine (h.send _ _).second.bind fun d => .ite ?differ (.ite ?refused (.ite ?brought ?crowded))
    case differ => exact .fail _
    case refused =>
      refine .ite (.fail _) ?_
      exact (countedRepeat_keeps h).bind fun _ => ih _ _
    case brought => exact .pure _
    case crowded => exact hdiagnose.second.bind fun _ => .fail _

/-- The next command is no matter of frames. -/
lemma nextCommand_keeps {S : Stop → Prop} (build : UInt8 → Except Error MailboxCommand) :
    Call.Keeps (fun s : MailboxState × σ => P s.2) S (c.nextCommand build) := by
  have hmailbox : Call.Keeps P S c.requireMailbox := .ite (.pure _) (.fail _)
  refine hmailbox.second.bind fun _ => (Call.Keeps.first _).bind fun state => ?_
  refine (Call.Keeps.ofExcept _).bind fun command => ?_
  exact (Call.Keeps.first _).bind fun _ => .pure command

lemma readHeld_keeps (h : c.link.Keeps P) (address : UInt16) (length : Nat) :
    Call.Keeps (fun s : MailboxState × σ => P s.2) Survived (c.readHeld address length) := by
  have hask (command : Bytes) : Call.Keeps P Survived (do
      c.clear
      c.put command
      c.await Mailbox.resultManager true) :=
    (ask_works trivial trivial trivial).keeps (h.upholds (F := fun _ => True))
  refine (nextCommand_keeps _).bind fun command => (hask command.encode).second.bind fun _ => ?_
  exact (fetchFrom_keeps h _ _ _ _).bind fun result => .ite (.pure _) (.fail _)

lemma writeHeld_keeps (h : c.link.Keeps P) (address : UInt16) (data : Bytes) :
    Call.Keeps (fun s : MailboxState × σ => P s.2) Survived (c.writeHeld address data) := by
  refine (nextCommand_keeps _).bind fun command => Call.Keeps.second ?_
  exact (store_works trivial fun _ _ => trivial).keeps (h.upholds (F := fun _ => True))

/-- What every frame and every pause keeps, a read keeps that the bus survives. -/
theorem read_keeps (h : c.link.Keeps P) (address : UInt16) (length : Nat) :
    Call.Keeps (fun t : Mailbox × σ => P t.2) Survived (c.read address length) := by
  have hheld := (readHeld_keeps h address length).onFailure
    (f := fun s => (s.1.countReadError, s.2)) fun _ hs => hs
  exact Guarded.locked_triple (P := P) (Q := fun _ => P) (E := fun e s => Survived e → P s)
    hheld fun _ _ hs _ => hs

/-- What every frame and every pause keeps, a write keeps that the bus survives. -/
theorem write_keeps (h : c.link.Keeps P) (address : UInt16) (data : Bytes) :
    Call.Keeps (fun t : Mailbox × σ => P t.2) Survived (c.write address data) := by
  have hheld := (writeHeld_keeps h address data).onFailure
    (f := fun s => (s.1.countWriteError, s.2)) fun _ hs => hs
  exact Guarded.locked_triple (P := P) (Q := fun _ => P) (E := fun e s => Survived e → P s)
    hheld fun _ _ hs _ => hs

end Channel

/-- A board goes on from what it was by every frame that it survives. -/
theorem Link.Carries.keeps_follows {link : Link σ} {board : σ → Board} (h : link.Carries board)
    (b₀ : Board) : link.Keeps fun s => b₀.Follows (board s) where
  exchange ts s hs := by
    have hboard : Exchange.Ends (fun _ b => b₀.Follows b) (fun _ b => b₀.Follows b)
        (fun _ => True) ((board s).exchange ts) := by
      refine Board.exchange_ends (fun fs hsub _ => hs.reached hsub) fun fs hsub => ?_
      refine (Board.actAll_follows b₀ ts _ (hs.reached hsub)).imp (fun _ b hb => ?_)
        fun _ _ _ => trivial
      exact ⟨hb, fun _ => ⟨hb, fun _ _ => hb⟩⟩
    have hx := h.exchange_ends hboard
    revert hx
    rcases link.exchange ts s with ⟨_ | _ | _, s'⟩
    · exact fun hx _ => hx
    · exact fun hx _ => hx
    · exact fun _ hd => absurd rfl hd
  pause us s hs := (h.pause us s).symm ▸ hs

end MotorBoard
