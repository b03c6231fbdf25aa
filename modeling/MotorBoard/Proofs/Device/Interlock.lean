/-
# No output after a fault

A driver goes on in steps: calls of the driver, of its collectors and of its monitors, what
controllers write, and what happens around it.  Each step leaves an event behind, and a run
is a list of events together with the stage that it leads to.

The sticky error is nothing but a memory of the events: it is set exactly when a status frame
has failed since the errors were cleared.  As no command switches the output on while it is
set, no output follows a fault before a reset.  The main results are

* `Device.Step.hasError_eq`, `Device.Step.halted`: one step;
* `Device.Run.hasError_eq`: the sticky error after a run;
* `Device.Run.interlock`: no output after a fault, and what controllers are shown.
-/
import MotorBoard.Bench.StandIn
import MotorBoard.Board.Exchange
import MotorBoard.Proofs.Device.Output

namespace MotorBoard

namespace Device

/-- What is seen of a step. -/
inductive Event where
  /-- A command was packed. -/
  | packed (halt reset : Bool) (frame : Bytes)
  /-- A status frame was unpacked next to a previous one. -/
  | unpacked (this prev : Bytes) (fault : Option CycleFault)
  /-- The errors were cleared. -/
  | cleared
  /-- A report was made. -/
  | published (report : Report)
  /-- Something else happened. -/
  | other

namespace Event

/-- Whether an event clears the errors. -/
def clears : Event → Bool
  | packed _ reset _ => reset
  | cleared => true
  | _ => false

/-- Whether an event is a status frame that failed. -/
def fails : Event → Bool
  | unpacked _ _ fault => fault.isSome
  | _ => false

end Event

/-- The events since the errors were cleared most recently.  The newest one comes first. -/
def sinceClear (history : List Event) : List Event := history.takeWhile fun e => !e.clears

lemma any_sinceClear (p : Event → Bool) (e : Event) (history : List Event) :
    (sinceClear (e :: history)).any p = (!e.clears && (p e || (sinceClear history).any p)) := by
  rw [sinceClear, List.takeWhile_cons]
  cases e.clears <;> rfl

/-- What controllers write: a command and an offset to an actuator, a command to each of the
two outputs. -/
def controlled (command : ActuatorCommand) (zeroOffset : Binary64) (output trace : UInt8)
    (d : Device) : Device :=
  { d with
    actuator := { d.actuator with
      command := command
      state := { d.actuator.state with zeroOffset := zeroOffset } }
    digitalOut := { d.digitalOut with command := output }
    publishMotorTrace := { d.publishMotorTrace with command := trace } }

section Runs

variable {σ μ : Type}

/-- The steps of a driver.  Besides its own calls there are those of its collectors and of any
monitors, a thread that dies while it hands an offset over, what controllers write, and what
others do to the slave, to the values behind locks, to the models and to the ring. -/
inductive Step (link : Link σ) (models : Models μ) : Stage σ μ → Event → Stage σ μ → Prop
  | bringUp {s s' : Stage σ μ} {claim allowUnprogrammed : Bool} {r : Except Stop Unit} :
      bringUp link models claim allowUnprogrammed s = (r, s') → Step link models s .other s'
  | attachMotorModel {s : Stage σ μ} {r : Except Error Unit} {d : Device} {registry : Registry} :
      s.device.attachMotorModel s.registry = (r, d, registry) →
      Step link models s .other { s with device := d, registry := registry }
  | pack {s : Stage σ μ} {halt reset : Bool} {frame : Bytes} {d : Device} {w : μ} :
      s.device.pack models halt reset s.world = (frame, d, w) →
      Step link models s (.packed halt reset frame) { s with device := d, world := w }
  | unpack {s : Stage σ μ} {this prev : Bytes} {fault : Option CycleFault} {d : Device} {w : μ} :
      s.device.unpack models this prev s.world = (fault, d, w) →
      Step link models s (.unpacked this prev fault) { s with device := d, world := w }
  | clear {s : Stage σ μ} {d : Device} {w : μ} :
      s.device.clearErrorFlags models s.world = (d, w) →
      Step link models s .cleared { s with device := d, world := w }
  | publishTrace {s : Stage σ μ} {reason : String} {level : UInt8} {delay : UInt32} {asked : Bool}
      {w : μ} :
      s.device.publishTrace models reason level delay s.world = (asked, w) →
      Step link models s .other { s with world := w }
  | collect {s : Stage σ μ} {r : Except Stop Unit} {d : Device} {bus : σ} :
      collect link (s.device, s.bus) = (r, d, bus) →
      Step link models s .other { s with device := d, bus := bus }
  | publish {s : Stage σ μ} {m m' : Monitor} {report : Report} {d : Device} :
      m.publish s.device = (report, m', d) →
      Step link models s (.published report) { s with device := d }
  | die {s : Stage σ μ} : Step link models s .other { s with device := s.device.dieInHandOff }
  | control {s : Stage σ μ} {command : ActuatorCommand} {zeroOffset : Binary64}
      {output trace : UInt8} :
      Step link models s .other
        { s with device := s.device.controlled command zeroOffset output trace }
  | around {s : Stage σ μ} {slave : Slave} {mailbox : Mailbox} {store : CollectedStore}
      {registry : Registry} {w : μ} {bus : σ} :
      Step link models s .other
        ⟨{ s.device with slave := slave, mailbox := mailbox, store := store }, registry, w, bus⟩

variable {link : Link σ} {models : Models μ} {s s' : Stage σ μ} {e : Event}

/-- What a step does to the sticky error can be read off its event. -/
theorem Step.hasError_eq (h : Step link models s e s') :
    s'.device.cycle.hasError = (!e.clears && (e.fails || s.device.cycle.hasError)) := by
  cases h with
  | bringUp hcall =>
    have hsame := (bringUp_keeps _ _).after (.refl s.device) hcall fun _ _ => trivial
    exact congrArg CycleMachine.hasError hsame.cycle
  | attachMotorModel hcall =>
    exact congrArg CycleMachine.hasError (attachMotorModel_same hcall).cycle
  | pack hcall => exact (pack_spec hcall).1
  | unpack hcall =>
    rw [Bool.or_comm]
    exact (unpack_spec hcall).1
  | collect hcall =>
    have hsame := collect_keeps.after (.refl s.device) hcall fun _ _ => trivial
    exact congrArg CycleMachine.hasError hsame.cycle
  | publish hcall => exact (publish_spec hcall).1
  | clear hcall =>
    cases hcall
    rfl
  | publishTrace | die | control | around => rfl

/-- No step sets the error without switching the output off, or switches the output on while
there is an error. -/
theorem Step.halted (h : Step link models s e s')
    (hs : s.device.cycle.hasError = true → s.device.actuator.state.halted = true) :
    s'.device.cycle.hasError = true → s'.device.actuator.state.halted = true := by
  cases h with
  | bringUp hcall =>
    have hsame := (bringUp_keeps _ _).after (.refl s.device) hcall fun _ _ => trivial
    rw [hsame.cycle, hsame.halted]
    exact hs
  | attachMotorModel hcall =>
    have hsame := attachMotorModel_same hcall
    rw [hsame.cycle, hsame.halted]
    exact hs
  | pack hcall =>
    -- a reset clears the error and leaves the output as it is shown until the next status frame
    obtain ⟨herror, hhalted, -⟩ := pack_spec hcall
    rw [herror, hhalted, Bool.and_eq_true]
    exact fun he => hs he.2
  | unpack hcall => exact (unpack_spec hcall).2.1
  | collect hcall =>
    have hsame := collect_keeps.after (.refl s.device) hcall fun _ _ => trivial
    rw [hsame.cycle, hsame.halted]
    exact hs
  | publish hcall =>
    obtain ⟨herror, hactuator⟩ := publish_spec hcall
    rw [herror, hactuator]
    exact hs
  | clear hcall =>
    cases hcall
    exact fun he => absurd he Bool.false_ne_true
  | publishTrace | die | control | around => exact hs

/-- The runs of a driver, from its creation on.  The newest event comes first. -/
inductive Run (link : Link σ) (models : Models μ) : List Event → Stage σ μ → Prop
  | created {config : DeviceConfig} {slave : Slave} {heating : Option HeatingSettings} {d : Device}
      {registry : Registry} {w : μ} {bus : σ} :
      create config slave heating = .ok d → Run link models [] ⟨d, registry, w, bus⟩
  | step {history : List Event} {s s' : Stage σ μ} {e : Event} :
      Run link models history s → Step link models s e s' → Run link models (e :: history) s'

namespace Run

variable {history : List Event}

lemma create_spec {config : DeviceConfig} {slave : Slave} {heating : Option HeatingSettings}
    {d : Device} (h : create config slave heating = .ok d) : d.cycle.hasError = false := by
  rw [create_ok h]

/-- The sticky error is set exactly when a frame has failed since the errors were cleared. -/
theorem hasError_eq (hr : Run link models history s) :
    s.device.cycle.hasError = (sinceClear history).any Event.fails := by
  induction hr with
  | created hcreate => exact create_spec hcreate
  | step _ hstep ih => rw [hstep.hasError_eq, ih, any_sinceClear]

/-- While there is an error the output is off. -/
lemma halted (hr : Run link models history s) :
    s.device.cycle.hasError = true → s.device.actuator.state.halted = true := by
  induction hr with
  | created hcreate =>
    intro he
    rw [create_spec hcreate] at he
    cases he
  | step _ hstep ih => exact hstep.halted ih

/-- What comes before an event is a run too, from which the event is one step away. -/
lemma split {later before : List Event} (hr : Run link models (later ++ e :: before) s) :
    ∃ s₁ s₂, Run link models before s₁ ∧ Step link models s₁ e s₂ ∧
      Run link models (e :: before) s₂ := by
  induction later generalizing s with
  | nil =>
    cases hr with
    | step hbefore hstep => exact ⟨_, _, hbefore, hstep, .step hbefore hstep⟩
  | cons e' later ih =>
    cases hr with
    | step hrest _ => exact ih hrest

/-- A run goes on with a status frame. -/
lemma unpacked (hr : Run link models history s) (this prev : Bytes) :
    Run link models (.unpacked this prev (s.device.unpack models this prev s.world).1 :: history)
      { s with
        device := (s.device.unpack models this prev s.world).2.1
        world := (s.device.unpack models this prev s.world).2.2 } :=
  hr.step (.unpack rfl)

/-- A run goes on with a report. -/
lemma published (hr : Run link models history s) (m : Monitor) :
    Run link models (.published (m.publish s.device).1 :: history)
      { s with device := (m.publish s.device).2.2 } :=
  hr.step (.publish (rfl : m.publish s.device = (_, (m.publish s.device).2.1, _)))

/-- Every command that switches the output on comes at a time when no status frame has failed
since the errors were cleared.  While there is an error the controllers see the output off;
and behind a status frame that can be read they see it off exactly when there is an error or
the board itself is off. -/
theorem interlock (hr : Run link models history s) :
    (∀ later halt reset frame before, history = later ++ .packed halt reset frame :: before →
      Mode.has (frame.byteAt 0) Mode.enable = true →
      ∀ e ∈ sinceClear (.packed halt reset frame :: before), e.fails = false) ∧
    (s.device.cycle.hasError = true → s.device.actuator.state.halted = true) ∧
    ∀ this prev fault before, history = .unpacked this prev fault :: before →
      (StatusFrame.decode this).isOk = true →
      Checksum.verifies (this.take StatusFrame.size) = true →
      (s.device.actuator.state.halted = true ↔
        s.device.cycle.hasError = true ∨ this.byteAt 0 = Mode.off) := by
  refine ⟨?_, hr.halted, ?_⟩
  · rintro later halt reset frame before rfl hon e he
    -- the error behind the command is the one that the command was packed with
    obtain ⟨s₁, s₂, -, hstep, hr₂⟩ := hr.split
    have hclean : s₂.device.cycle.hasError = false := by
      cases hstep with
      | pack hcall =>
        rw [(pack_spec hcall).2.2, Bool.and_eq_true, Bool.not_eq_true'] at hon
        exact hon.2
    rw [hr₂.hasError_eq, List.any_eq_false] at hclean
    exact Bool.eq_false_iff.2 (hclean e he)
  · rintro this prev fault before rfl hread hsum
    cases hr with
    | step _ hstep =>
      cases hstep with
      | unpack hcall =>
        rw [(unpack_spec hcall).2.2 hread hsum, Bool.or_eq_true, beq_iff_eq]

/-- A controller wants the output on, and a frame arrives that cannot be read.  The error is
set; the output goes on with the reset that follows. -/
theorem interlock_reset :
    ∃ (history : List Event) (frame : Bytes) (s s' : Stage Ring StandIns),
      Run Ring.link StandIns.models history s ∧ s.device.cycle.hasError = true ∧
        s.device.actuator.state.halted = true ∧
        Run Ring.link StandIns.models (.packed false true frame :: history) s' ∧
        Mode.has (frame.byteAt 0) Mode.enable = true ∧
        ∀ e ∈ sinceClear (.packed false true frame :: history), e.fails = false := by
  obtain ⟨s, hfailed, hwanted⟩ : ∃ s : Stage Ring StandIns,
      Run Ring.link StandIns.models [.unpacked [] [] (some .statusChecksum), .other] s ∧
        s.device.actuator.command.enable = true := by
    obtain ⟨d, hd⟩ : ∃ d, create {} ⟨1, 0, 0, 0, 0, .op⟩ none = .ok d := ⟨_, rfl⟩
    have hfresh : Run Ring.link StandIns.models []
        ⟨d, {}, {}, ⟨{ station := 1, position := 0 }, 0⟩⟩ := .created hd
    have hwanted := hfresh.step (@Step.control _ _ _ _ _ { enable := true } .zero 0 0)
    exact ⟨_, hwanted.step (.unpack rfl), rfl⟩
  have herror : s.device.cycle.hasError = true := hfailed.hasError_eq
  rcases hcall : s.device.pack StandIns.models false true s.world with ⟨frame, d, w⟩
  have hpacked := hfailed.step (.pack hcall)
  obtain ⟨hcleared, -, hmode⟩ := pack_spec hcall
  have hon : Mode.has (frame.byteAt 0) Mode.enable = true := by
    rw [hmode, hwanted, hcleared]
    rfl
  refine ⟨_, frame, s, _, hfailed, herror, (interlock hfailed).2.1 herror, hpacked, hon, ?_⟩
  exact (interlock hpacked).1 [] _ _ _ _ rfl hon

end Run

end Runs

end Device

end MotorBoard
