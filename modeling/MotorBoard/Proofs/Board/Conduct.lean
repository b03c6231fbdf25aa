/-
# What no frame changes

Whatever frames a board gets, some things about it stay as they are: its place on the ring,
whether it is there, and how it is set to behave.  Others change in one direction only.  A
corruption that is due goes away but never comes, and the faults in the queue get fewer.  A
board that executes its commands and repeats its results has an empty mailbox of commands
and an acknowledged request whenever it is not in the middle of a frame.

`Board.Follows` collects all this as a relation between a board and what it becomes.  The
main results are

* `Board.execute_keeps`: what the execution of a command leaves alone;
* `Board.actAll_follows`: a frame that does not kill the board keeps `Follows`.
-/
import MotorBoard.Board.Exchange
import MotorBoard.Proofs.Call.Triple

namespace MotorBoard

namespace Board

open Call

/-- A board that obeys: it executes commands and repeats results, and owes neither. -/
structure Settled (b : Board) : Prop where
  repeats : b.supportsRepeat = true
  executes : b.holdCommands = false
  empty : b.commandFull = false
  acknowledged : b.repeatAck = b.repeatRequest

/-- A board that is set up like another one.  A corruption that is due may have gone. -/
structure Alike (b₀ b : Board) : Prop where
  station : b.station = b₀.station
  present : b.present = b₀.present
  supportsRepeat : b.supportsRepeat = b₀.supportsRepeat
  holdCommands : b.holdCommands = b₀.holdCommands
  spiBusyPolls : b.spiBusyPolls = b₀.spiBusyPolls
  chipBusyPolls : b.chipBusyPolls = b₀.chipBusyPolls
  corruptEcho : b.corruptEcho = b₀.corruptEcho
  pageSize : b.pageSize = b₀.pageSize
  corruptNext : b.corruptNext = true → b₀.corruptNext = true

/-- What the execution of a command leaves alone. -/
structure Steady (b₀ b : Board) : Prop extends Alike b₀ b where
  commandFull : b.commandFull = b₀.commandFull
  repeatRequest : b.repeatRequest = b₀.repeatRequest
  repeatAck : b.repeatAck = b₀.repeatAck
  faults : b.faults = b₀.faults

/-- What frames leave alone, and what they change in one direction only. -/
structure Follows (b₀ b : Board) : Prop extends Alike b₀ b where
  faults : b.faults.Sublist b₀.faults
  settled : b₀.Settled → b.Settled

namespace Alike

lemma refl (b : Board) : Alike b b := ⟨rfl, rfl, rfl, rfl, rfl, rfl, rfl, rfl, id⟩

lemma trans {b₀ b b' : Board} (h : Alike b₀ b) (h' : Alike b b') : Alike b₀ b' where
  station := h'.station.trans h.station
  present := h'.present.trans h.present
  supportsRepeat := h'.supportsRepeat.trans h.supportsRepeat
  holdCommands := h'.holdCommands.trans h.holdCommands
  spiBusyPolls := h'.spiBusyPolls.trans h.spiBusyPolls
  chipBusyPolls := h'.chipBusyPolls.trans h.chipBusyPolls
  corruptEcho := h'.corruptEcho.trans h.corruptEcho
  pageSize := h'.pageSize.trans h.pageSize
  corruptNext := h.corruptNext ∘ h'.corruptNext

end Alike

namespace Steady

lemma refl (b : Board) : Steady b b := ⟨.refl b, rfl, rfl, rfl, rfl⟩

lemma settled {b₀ b : Board} (h : Steady b₀ b) (h₀ : b₀.Settled) : b.Settled where
  repeats := h.supportsRepeat.trans h₀.repeats
  executes := h.holdCommands.trans h₀.executes
  empty := h.commandFull.trans h₀.empty
  acknowledged := (h.repeatAck.trans h₀.acknowledged).trans h.repeatRequest.symm

lemma follows {b₀ b : Board} (h : Steady b₀ b) : Follows b₀ b :=
  ⟨h.toAlike, h.faults ▸ .refl _, h.settled⟩

end Steady

namespace Follows

lemma refl (b : Board) : Follows b b := (Steady.refl b).follows

lemma trans {b₀ b b' : Board} (h : Follows b₀ b) (h' : Follows b b') : Follows b₀ b' :=
  ⟨h.toAlike.trans h'.toAlike, h'.faults.trans h.faults, h'.settled ∘ h.settled⟩

end Follows

/-! The execution of a command. -/

section Execution

variable {b₀ : Board}

/-- A call that keeps what the execution of a command leaves alone, however it ends. -/
private abbrev KeepsSteady {α : Type} (b₀ : Board) (m : Call Board α) : Prop :=
  Keeps (Steady b₀) (fun _ => True) m

private lemma orDie_keeps {α : Type} (x : Option α) : KeepsSteady b₀ (orDie x) := by
  cases x with
  | none => exact Keeps.stop _
  | some a => exact Keeps.pure a

private lemma loadBus_keeps (start length : Nat) : KeepsSteady b₀ (loadBus start length) :=
  Keeps.get.bind fun _ => orDie_keeps _

private lemma storeBus_keeps (start : Nat) (data : Bytes) :
    KeepsSteady b₀ (storeBus start data) := by
  refine Triple.get_bind fun b hb => ?_
  cases b.localBus.store? start data with
  | none => exact .stop _ fun _ h _ => h ▸ hb
  | some bus => exact .set _ fun _ _ => { hb with }

private lemma transfer_keeps (cmd : SpiCommand) : KeepsSteady b₀ (transfer cmd) := by
  refine Keeps.get.bind fun b => ?_
  cases cmd.operation? with
  | none => exact .pure _
  | some operation =>
    cases operation with
    | read => exact .ite (storeBus_keeps _ _) (.stop _)
    | write =>
      refine .ite ?_ (.stop _)
      refine (loadBus_keeps _ _).bind fun data => .modify fun b hb => ?_
      exact { hb with }
    | arbitrary =>
      refine .ite ?_ (.pure _)
      refine (storeBus_keeps _ _).bind fun _ => .modify fun b hb => ?_
      exact { hb with }

private lemma runSpi_keeps (cmd : SpiCommand) : KeepsSteady b₀ (runSpi cmd) := by
  have hecho (value : UInt8) : KeepsSteady b₀ (do
      storeBus SpiCommand.controlAddress.toNat [value]
      Call.modify fun b => { b with spiBusy := b.spiBusyPolls }) := by
    refine (storeBus_keeps _ _).bind fun _ => .modify fun b hb => ?_
    exact { hb with }
  exact (transfer_keeps cmd).bind fun _ => Keeps.get.bind fun b => hecho _

private lemma writeBus_keeps (address : UInt16) (data : Bytes) :
    KeepsSteady b₀ (writeBus address data) := by
  refine (storeBus_keeps _ _).bind fun _ => .ite ?started (.pure _)
  case started =>
    refine (loadBus_keeps _ _).bind fun raw => ?_
    cases SpiCommand.decode raw with
    | error e => exact .pure _
    | ok cmd => exact .ite (runSpi_keeps cmd) (.pure _)

private lemma readBus_keeps (address : UInt16) (length : Nat) :
    KeepsSteady b₀ (readBus address length) := by
  refine (loadBus_keeps _ _).bind fun data => Triple.get_bind fun b hb => ?_
  refine .ite (fun _ => ?busy) fun _ => ?idle
  case busy =>
    refine Triple.bind (.set _ fun _ _ => ?_) fun _ => .pure _ fun _ => id
    exact { hb with }
  case idle =>
    refine .pure _ ?_
    rintro _ rfl
    exact hb

private lemma post_keeps (result : Bytes) : KeepsSteady b₀ (post result) := by
  refine Triple.get_bind fun b hb => ?_
  cases b.memory.store? Mailbox.resultAddress.toNat result with
  | none => exact .stop _ fun _ h _ => h ▸ hb
  | some m => exact .set _ fun _ _ => { hb with }

private lemma answer_keeps (result : Bytes) : KeepsSteady b₀ (answer result) := by
  refine Triple.get_bind fun b hb => Triple.bind (.set _ fun _ _ => ?_) fun _ => post_keeps _
  -- a corruption that was due goes away
  exact { hb with corruptNext := fun h => absurd h Bool.false_ne_true }

/-- The execution of a command, however it ends, leaves the setup of the board, its
mailbox of commands and the request bits alone. -/
theorem execute_keeps : Keeps (Steady b₀) (fun _ => True) execute := by
  refine Keeps.get.bind fun b => ?_
  cases CommandHeader.decode _ with
  | error e => exact .pure _
  | ok h =>
    have hcount : KeepsSteady b₀ (Call.modify fun b => { b with commands := b.commands + 1 }) := by
      refine .modify fun b hb => ?_
      exact { hb with }
    refine hcount.bind fun _ => Keeps.get.bind fun b => ?_
    cases h.direction with
    | read => exact (readBus_keeps _ _).bind fun _ => answer_keeps _
    | write => exact .ite (writeBus_keeps _ _) (.pure _)

end Execution

/-! The frames. -/

section Frames

variable {b₀ : Board}

/-- A call that keeps `Follows` unless it kills the board. -/
private abbrev KeepsFollows {α : Type} (b₀ : Board) (m : Call Board α) : Prop :=
  Keeps (Follows b₀) (fun _ => False) m

private lemma readResult_follows (start length : Nat) :
    KeepsFollows b₀ (readResult start length) := by
  refine Triple.get_bind fun b hb => ?_
  have hkept : ∀ c, c = b → Follows b₀ c := by
    rintro _ rfl
    exact hb
  refine .ite (fun _ => ?full) fun _ => .pure _ hkept
  case full =>
    cases b.memory.load? start length with
    | none => exact .stop _ fun _ _ h => h.elim
    | some data =>
      refine Triple.ite (fun _ => ?_) fun _ => .pure _ hkept
      -- the whole result was taken, so the mailbox is empty
      refine Triple.bind (.set _ fun _ _ => ?_) fun _ => .pure _ fun _ => id
      exact hb.trans (Steady.follows { Steady.refl b with })

private lemma read_follows (address : UInt16) (length : Nat) :
    KeepsFollows b₀ (read address length) := by
  refine .ite ?result (.ite ?command ?other)
  case result => exact readResult_follows _ _
  case command => exact .pure _
  case other => exact Keeps.get.bind fun _ => .ite (.pure _) (.pure _)

/-- After a command the mailbox is empty again, unless the board holds the command. -/
private lemma accept_follows : KeepsFollows b₀ accept := by
  refine Triple.of_eq fun b hb => ?_
  have hfull : Triple (fun c => c = b) (Call.modify fun c => { c with commandFull := true })
      (fun _ => Steady { b with commandFull := true }) fun _ c => False → Follows b₀ c := by
    refine .modify _ ?_
    rintro _ rfl
    exact .refl _
  refine hfull.bind fun _ => Triple.get_bind fun b₁ hb₁ => ?_
  refine .ite (fun hheld => ?held) fun _ => ?executed
  case held =>
    refine .pure _ ?_
    rintro _ rfl
    -- a board that holds its commands was not settled before
    refine hb.trans ⟨{ hb₁.toAlike with }, hb₁.faults ▸ .refl _, fun h => ?_⟩
    exact absurd (hb₁.holdCommands.symm.trans hheld) (by simp [h.executes])
  case executed =>
    have hexecute : Triple (fun c => c = b₁) execute
        (fun _ => Steady { b with commandFull := true }) fun _ c => False → Follows b₀ c := by
      refine execute_keeps.mono ?_ (fun _ _ => id) fun _ _ _ hno => hno.elim
      rintro _ rfl
      exact hb₁
    refine hexecute.bind fun _ => .modify _ fun b' hb' => ?_
    refine hb.trans ⟨{ hb'.toAlike with }, hb'.faults ▸ .refl _, fun h => ?_⟩
    exact
      { repeats := hb'.supportsRepeat.trans h.repeats
        executes := hb'.holdCommands.trans h.executes
        empty := rfl
        acknowledged := (hb'.repeatAck.trans h.acknowledged).trans hb'.repeatRequest.symm }

private lemma writeCommand_follows (start : Nat) (data : Bytes) :
    KeepsFollows b₀ (writeCommand start data) := by
  refine Triple.get_bind fun b hb => .ite (fun _ => ?refused) fun _ => ?stored
  case refused =>
    refine .pure _ ?_
    rintro _ rfl
    exact hb
  case stored =>
    refine Triple.bind (Q := fun _ => Follows b₀) (.set _ fun _ _ => ?_) fun _ => ?_
    · exact hb.trans (Steady.follows { Steady.refl b with })
    · exact Keeps.ite (accept_follows.bind fun _ => Keeps.pure _) (Keeps.pure _)

/-- A board that repeats its results acknowledges a request as soon as it gets it. -/
private lemma setRequest_follows (request : Bool) : KeepsFollows b₀ (setRequest request) := by
  refine Triple.get_bind fun b hb => .ite (fun _ => ?asked) fun _ => ?new
  case asked =>
    refine .pure _ ?_
    rintro _ rfl
    exact hb
  case new =>
    refine Triple.bind (Q := fun _ => Steady { b with repeatRequest := request }) (.set _ ?_)
      fun _ => .ite (fun _ => ?posted) fun hdeaf => ?ignored
    · exact fun _ _ => .refl _
    case posted =>
      have hpost (result : Bytes) : Triple (Steady { b with repeatRequest := request })
          (post result) (fun _ => Steady { b with repeatRequest := request })
          fun _ c => False → Follows b₀ c :=
        (post_keeps _).stop_mono fun _ _ _ hno => hno.elim
      refine (hpost _).bind fun _ => .modify _ fun b' hb' => ?_
      refine hb.trans ⟨{ hb'.toAlike with }, hb'.faults ▸ .refl _, fun h => ?_⟩
      exact
        { repeats := hb'.supportsRepeat.trans h.repeats
          executes := hb'.holdCommands.trans h.executes
          empty := hb'.commandFull.trans h.empty
          acknowledged := hb'.repeatRequest.symm }
    case ignored =>
      refine .pure _ fun b' hb' => hb.trans ⟨{ hb'.toAlike with }, hb'.faults ▸ .refl _, ?_⟩
      exact fun h => absurd h.repeats hdeaf

private lemma write_follows (address : UInt16) (data : Bytes) :
    KeepsFollows b₀ (write address data) := by
  refine .ite ?command (.ite ?result (.ite ?registers ?memory))
  case command => exact writeCommand_follows _ _
  case result => exact .pure _
  case registers =>
    refine Keeps.bind (.ite (.pure _) ?_) fun _ => .pure _
    split
    · exact setRequest_follows _
    · exact .pure _
  case memory =>
    refine Triple.get_bind fun b hb => ?_
    cases b.memory.store? address.toNat data with
    | none =>
      refine .pure _ ?_
      rintro _ rfl
      exact hb
    | some m =>
      refine Triple.bind (.set _ fun _ _ => ?_) fun _ => .pure _ fun _ => id
      exact hb.trans (Steady.follows { Steady.refl b with })

/-- Whatever a board does with a telegram that does not kill it keeps `Follows`. -/
lemma act_follows (t : Telegram) : Keeps (Follows b₀) (fun _ => False) (act t) := by
  refine Keeps.get.bind fun b => .ite ?addressed (.pure _)
  case addressed =>
    cases t.direction with
    | read =>
      refine (read_follows _ _).bind fun result => ?_
      cases result <;> exact .pure _
    | write =>
      refine (write_follows _ _).bind fun written => ?_
      exact .ite (.pure _) (.pure _)

/-- Whatever a board does with a frame that does not kill it keeps `Follows`. -/
theorem actAll_follows (b₀ : Board) (ts : List Telegram) :
    Keeps (Follows b₀) (fun _ => False) (actAll ts) := by
  induction ts with
  | nil => exact .pure _
  | cons t rest ih =>
    exact (act_follows t).bind fun _ => ih.bind fun _ => .pure _

end Frames

end Board

end MotorBoard
