/-
# The sticky error and the output

Whether a board's output is off is known in two places: the cycle remembers it, and the
actuator shows it to the controllers.  The sticky error is in the cycle alone.  Only the
calls of a cycle and the clearing of errors have to do with them; bring-up, collection and
reports leave both alone.

This file says of every call of a driver what it does to the error and to the output, so
that nothing behind it has to look into a call again.  The main results are

* `Device.bringUp_keeps`, `Device.collect_keeps`: the calls that talk to the board;
* `Device.unpack_cases`, `Device.unpack_spec`: a status frame;
* `Device.pack_cases`, `Device.pack_spec`: a command frame, whose output is on only without an
  error;
* `Device.pack_cycle`, `Device.publish_cycle`: the cycle behind a command and behind a report;
* `Device.publish_shows`: what a report shows.
-/
import MotorBoard.Device.Monitor
import MotorBoard.Proofs.Cycle.Verdict
import MotorBoard.Proofs.Device.Collecting
import MotorBoard.Proofs.Device.Verifying

namespace MotorBoard

open Call

namespace Device

variable {σ μ : Type}

/-- A device with the same cycle as another one, whose actuator shows the same output. -/
structure SameCycle (d d' : Device) : Prop where
  cycle : d'.cycle = d.cycle
  halted : d'.actuator.state.halted = d.actuator.state.halted

namespace SameCycle

lemma refl (d : Device) : SameCycle d d := ⟨rfl, rfl⟩

/-- Cycle and output have nothing to do with what a bring-up learns. -/
lemma aloof (d : Device) : Aloof (SameCycle d) where
  mailbox _ _ h := ⟨h.cycle, h.halted⟩
  configInfo _ _ h := ⟨h.cycle, h.halted⟩
  actuatorInfo _ _ h := ⟨h.cycle, h.halted⟩
  name _ _ h := ⟨h.cycle, h.halted⟩
  heating _ h := ⟨h.cycle, h.halted⟩
  maxCurrent _ _ h := ⟨h.cycle, h.halted⟩

end SameCycle

/-! Calls that talk to the board. -/

section Collection

variable {P : Device → Prop} {link : Link σ} (hmailbox : ∀ d m, P d → P { d with mailbox := m })
  (hstore : ∀ d g, P d → P { d with store := g })

lemma probe_keeps : KeepsDevice P (probe link) := by
  refine Keeps.get.bind fun s => (Keeps.part _ _ fun _ _ h => h).bind fun r => ?_
  exact .ite (.fail _) (.ite (.fail _) (.pure _))

include hmailbox hstore

lemma gather_keeps : KeepsDevice P (gather link) := by
  have hread (address : UInt16) (length : Nat) :
      Triple (fun p : Device × σ => P p.1) (overChannel link fun c => c.read address length)
        (fun _ p => True ∧ P p.1) fun e p => Anyhow e → P p.1 :=
    (overChannel_keeps hmailbox _).post fun _ _ hp => ⟨trivial, hp⟩
  have hsync : KeepsDevice P (syncZeroOffset link) :=
    syncZeroOffset_keeps hmailbox (fun d => hstore d _) fun d _ => hstore d _
  refine (gather_stages (U := fun _ => True) (V := fun _ => True) probe_keeps (hread _ _)
    (hread _ _) (fun _ _ _ _ _ hp _ => hp) (fun _ _ _ _ _ hp _ => hp)
    (hsync.pre fun _ hp => hp.1) fun _ hp _ => hp).post ?_
  exact fun _ _ hp => hp.2

/-- A collection has to do with mailbox and store, and it keeps what does not speak of them. -/
lemma collect_aloof : KeepsDevice P (collect link) := by
  refine ((gather_keeps hmailbox hstore).attempt fun _ => trivial).bind fun result => ?_
  exact Keeps.bind (.update fun p => hstore p.1 _) fun r => .ofExcept r

end Collection

section Talk

variable {d : Device} {link : Link σ} {models : Models μ}

/-- A collection leaves cycle and output alone. -/
theorem collect_keeps : KeepsDevice (SameCycle d) (collect link) :=
  collect_aloof (fun _ _ h => ⟨h.cycle, h.halted⟩) fun _ _ h => ⟨h.cycle, h.halted⟩

/-- A bring-up leaves cycle and output alone, wherever it gets stuck. -/
theorem bringUp_keeps (claim allowUnprogrammed : Bool) :
    KeepsStage (SameCycle d) (bringUp link models claim allowUnprogrammed) :=
  bringUp_aloof (SameCycle.aloof d) (fun _ _ h => ⟨h.cycle, h.halted⟩) claim allowUnprogrammed

end Talk

/-- To attach an electrical model has to do with the output of traces. -/
lemma attachMotorModel_cases {d d' : Device} {r r' : Registry} {result : Except Error Unit}
    (h : d.attachMotorModel r = (result, d', r')) :
    ∃ output attached, d' = { d with publishMotorTrace := output, hasMotorModel := attached } := by
  rw [attachMotorModel] at h
  split at h
  · cases h
    exact ⟨d.publishMotorTrace, d.hasMotorModel, rfl⟩
  · dsimp only at h
    split at h <;> cases h
    · exact ⟨_, true, rfl⟩
    · exact ⟨d.publishMotorTrace, d.hasMotorModel, rfl⟩

lemma attachMotorModel_same {d d' : Device} {r r' : Registry} {result : Except Error Unit}
    (h : d.attachMotorModel r = (result, d', r')) : SameCycle d d' := by
  obtain ⟨_, _, rfl⟩ := attachMotorModel_cases h
  exact ⟨rfl, rfl⟩

end Device

/-! A status frame. -/

namespace Device

variable {μ : Type} (models : Models μ)

/-- Feeding the models and asking for traces leave the verdict of the cycle alone, and all that
changes beside it are the sample and the output of traces. -/
lemma verifyState_judged (status prev : StatusFrame) (d : Device) (w : μ) :
    ∃ (overheated : Bool) (modelOk : μ → Bool × μ) (w₁ : μ) (sample : TraceSample)
      (output : DigitalOut),
      (d.verifyState models status prev w).1 =
          (d.cycle.verify status overheated modelOk w₁).1 ∧
        (d.verifyState models status prev w).2.1 =
          d.judged sample output (d.cycle.verify status overheated modelOk w₁).2.1 := by
  rw [verifyState_eq]
  exact ⟨_, _, _, _, _, rfl, rfl⟩

variable {models}

/-- The device that has noted a frame and has not verified it yet. -/
def noted (status prev : StatusFrame) (d : Device) : Device :=
  let (timestamp, cycle) := d.cycle.accumulateTime status.timestamp prev.timestamp
  let d := { d with
    cycle := cycle
    digitalOut := { d.digitalOut with state := status.digitalOut } }
  { d with actuator := { d.actuator with state := d.deriveState status prev timestamp } }

lemma absorb_noted (models : Models μ) (status prev : StatusFrame) (d : Device) (w : μ) :
    d.absorb models status prev w = (d.noted status prev).verifyState models status prev w := rfl

@[simp] lemma noted_flags (status prev : StatusFrame) (d : Device) :
    (d.noted status prev).cycle.flags = d.cycle.flags := rfl

/-- What a status frame that can be read does to the error and to the output. -/
lemma absorb_spec {status prev : StatusFrame} {d d' : Device} {w w' : μ}
    {fault : Option CycleFault} (h : d.absorb models status prev w = (fault, d', w')) :
    d'.cycle.hasError = (d.cycle.hasError || fault.isSome) ∧
      d'.actuator.state.halted = (d'.cycle.hasError || status.mode == Mode.off) := by
  obtain ⟨overheated, modelOk, w₁, sample, output, hfault, hjudged⟩ :=
    verifyState_judged models status prev (d.noted status prev) w
  rw [← absorb_noted, h] at hfault hjudged
  rcases hv : (d.noted status prev).cycle.verify status overheated modelOk w₁ with ⟨f, m, w₂⟩
  rw [hv] at hfault hjudged
  dsimp only at hfault hjudged
  subst hfault hjudged
  have hspec := CycleMachine.verify_spec hv
  exact hspec

/-- The mode in a status frame is its first byte. -/
lemma mode_of_decode {b : Bytes} {status : StatusFrame} (h : StatusFrame.decode b = .ok status) :
    status.mode = b.byteAt 0 := by
  rw [StatusFrame.decode] at h
  cases hl : requireLength b.length StatusFrame.size "status record" with
  | error e =>
    rw [hl] at h
    cases h
  | ok u =>
    rw [hl] at h
    obtain rfl := Except.ok.inj h
    rfl

/-- What a status frame does to the error and to the output.  One that cannot be read is a
fault like any other. -/
theorem unpack_spec {this prev : Bytes} {d d' : Device} {w w' : μ} {fault : Option CycleFault}
    (h : d.unpack models this prev w = (fault, d', w')) :
    d'.cycle.hasError = (d.cycle.hasError || fault.isSome) ∧
      (d'.cycle.hasError = true → d'.actuator.state.halted = true) ∧
      ((StatusFrame.decode this).isOk = true →
        Checksum.verifies (this.take StatusFrame.size) = true →
        d'.actuator.state.halted = (d'.cycle.hasError || this.byteAt 0 == Mode.off)) := by
  have hunread : (some CycleFault.statusChecksum, d.checksumFault, w) = (fault, d', w') →
      d'.cycle.hasError = (d.cycle.hasError || fault.isSome) ∧ d'.cycle.hasError = true ∧
        d'.actuator.state.halted = true := by
    rintro ⟨⟩
    exact ⟨(Bool.or_true _).symm, rfl, rfl⟩
  rw [unpack] at h
  split at h
  · next status prevStatus hthis _ =>
    split at h
    · obtain ⟨herror, hhalted⟩ := absorb_spec h
      rw [mode_of_decode hthis] at hhalted
      refine ⟨herror, fun he => ?_, fun _ _ => hhalted⟩
      rw [hhalted, he, Bool.true_or]
    · next hbad =>
      obtain ⟨herror, he, hhalted⟩ := hunread h
      exact ⟨herror, fun _ => hhalted, fun _ hv => absurd hv hbad⟩
  · -- where the frame itself can be read, the one before it cannot
    obtain ⟨herror, he, hhalted⟩ := hunread h
    refine ⟨herror, fun _ => hhalted, fun _ _ => ?_⟩
    rw [hhalted, he, Bool.true_or]

/-- The status frame that is read from two buffers.  It has to sum to zero, and the frame before
it has to be there. -/
def statusRead (this prev : Bytes) : Option StatusFrame :=
  match StatusFrame.decode this, StatusFrame.decode prev with
  | .ok status, .ok _ =>
    if Checksum.verifies (this.take StatusFrame.size) then some status else none
  | _, _ => none

/-- A status frame is verified when it can be read, and the device is what the verdict makes of
it; otherwise it is a fault. -/
theorem unpack_cases {this prev : Bytes} {d d' : Device} {w w' : μ} {fault : Option CycleFault}
    (h : d.unpack models this prev w = (fault, d', w')) :
    (∃ (status prevStatus : StatusFrame) (overheated : Bool) (modelOk : μ → Bool × μ)
      (w₁ w₂ : μ), statusRead this prev = some status ∧
        (d.noted status prevStatus).cycle.verify status overheated modelOk w₁ =
          (fault, d'.cycle, w₂) ∧
        ∃ sample output, d' = (d.noted status prevStatus).judged sample output d'.cycle) ∨
    statusRead this prev = none ∧ fault = some .statusChecksum ∧ d' = d.checksumFault := by
  rw [unpack] at h
  split at h
  · next status prevStatus hthis hprev =>
    have hread : statusRead this prev =
        if Checksum.verifies (this.take StatusFrame.size) then some status else none := by
      rw [statusRead, hthis, hprev]
    split at h
    · next hsum =>
      obtain ⟨overheated, modelOk, w₁, sample, output, hfault, hjudged⟩ :=
        verifyState_judged models status prevStatus (d.noted status prevStatus) w
      rw [← absorb_noted, h] at hfault hjudged
      have hcycle : d'.cycle = _ := congrArg Device.cycle hjudged
      exact .inl ⟨status, prevStatus, overheated, modelOk, w₁, _, hread.trans (if_pos hsum),
        Prod.ext hfault.symm (Prod.ext hcycle.symm rfl), sample, output, hcycle ▸ hjudged⟩
    · next hsum =>
      cases h
      exact .inr ⟨hread.trans (if_neg hsum), rfl, rfl⟩
  · next hunread =>
    cases h
    refine .inr ⟨?_, rfl, rfl⟩
    rw [statusRead]
    split
    · next hthis hprev => exact absurd hprev (hunread _ _ hthis)
    · rfl

/-! A command frame. -/

/-- A hand-over has to do with the store and with what the device remembers of it.  In the store
it has to do with the offset, and with the count of lost locks. -/
lemma handOffZeroOffset_handed (d : Device) :
    ∃ (store : CollectedStore) (cached : Binary64) (calibration : CalibrationStatus),
      (∃ offset lockErrors, store.value =
        { d.store.value with zeroOffset := offset, lockErrors := lockErrors }) ∧
      d.handOffZeroOffset =
        { d with store := store, cachedZeroOffset := cached, calibration := calibration } := by
  have hvalue (z : Binary64) {asked : Availability} {store : CollectedStore}
      (h : d.store.tryUpdate (fun c => { c with zeroOffset := z }) = (asked, store)) :
      ∃ offset lockErrors, store.value =
        { d.store.value with zeroOffset := offset, lockErrors := lockErrors } := by
    rw [Guarded.tryUpdate] at h
    split at h <;> cases h <;> exact ⟨_, _, rfl⟩
  rw [handOffZeroOffset]
  split
  · exact ⟨d.store, d.cachedZeroOffset, d.calibration, ⟨_, _, rfl⟩, rfl⟩
  · split
    · next hasked => exact ⟨_, _, _, hvalue _ hasked, rfl⟩
    · next hasked => exact ⟨_, d.cachedZeroOffset, d.calibration, hvalue _ hasked, rfl⟩

/-- A changed offset is handed over if the store can be had at once. -/
lemma handOffZeroOffset_free {d : Device} (hfree : d.store.lock = .free)
    (hchanged : d.actuator.state.zeroOffset.sameValue d.cachedZeroOffset = false) :
    d.handOffZeroOffset.store = { d.store with
      value := { d.store.value with zeroOffset := d.actuator.state.zeroOffset } } := by
  have hacquired := Guarded.tryUpdate_free hfree fun c =>
    { c with zeroOffset := d.actuator.state.zeroOffset }
  rw [handOffZeroOffset]
  dsimp only
  rw [if_neg (Bool.eq_false_iff.1 hchanged)]
  split
  · next hasked => exact (congrArg Prod.snd hasked).symm.trans (congrArg Prod.snd hacquired)
  · next hasked => exact (congrArg Prod.snd hasked).symm.trans (congrArg Prod.snd hacquired)

/-- A command switches the output on exactly when a controller wants it, no halt is asked for
and no error is set. -/
lemma has_enable_commandMode (d : Device) (halt reset : Bool) :
    Mode.has (d.commandMode halt reset) Mode.enable =
      (d.actuator.command.enable && !halt && !d.cycle.hasError) := by
  rw [commandMode]
  cases d.actuator.command.enable && !halt && !d.cycle.hasError <;> cases reset <;> rfl

/-- The device that a command is made for: a halt takes the effort away, and a reset clears the
errors. -/
def commanded (halt reset : Bool) (d : Device) : Device :=
  { d with
    actuator := { d.actuator with command := { d.actuator.command with
      effort := if halt then 0.0 else d.actuator.command.effort } }
    cycle := { (if reset then d.cycle.clearErrorFlags else d.cycle) with resetting := reset } }

/-- The order of what a command does to a device. -/
lemma pack_device {halt reset : Bool} {frame : Bytes} {d d' : Device} {w w' : μ}
    (h : d.pack models halt reset w = (frame, d', w')) :
    d' = (d.commanded halt reset).handOffZeroOffset.noteCommand := by
  rw [pack] at h
  cases h
  cases halt <;> cases reset <;> rfl

/-- What a command makes of a device, once it has handed an offset over. -/
theorem pack_cases {halt reset : Bool} {frame : Bytes} {d d' : Device} {w w' : μ}
    (h : d.pack models halt reset w = (frame, d', w')) :
    ∃ (store : CollectedStore) (cached : Binary64) (calibration : CalibrationStatus),
      (∃ offset lockErrors, store.value =
        { d.store.value with zeroOffset := offset, lockErrors := lockErrors }) ∧
      d' = noteCommand { d.commanded halt reset with
        store := store, cachedZeroOffset := cached, calibration := calibration } ∧
      frame = (d'.commandFrame halt reset).encode := by
  obtain ⟨store, cached, calibration, hvalue, hhanded⟩ :=
    handOffZeroOffset_handed (d.commanded halt reset)
  refine ⟨store, cached, calibration, hvalue,
    (pack_device h).trans (congrArg noteCommand hhanded), ?_⟩
  rw [pack] at h
  cases h
  rfl

/-- What a command does to the error and to the output, and when it switches the output on. -/
theorem pack_spec {halt reset : Bool} {frame : Bytes} {d d' : Device} {w w' : μ}
    (h : d.pack models halt reset w = (frame, d', w')) :
    d'.cycle.hasError = (!reset && d.cycle.hasError) ∧
      d'.actuator.state.halted = d.actuator.state.halted ∧
      Mode.has (frame.byteAt 0) Mode.enable =
        (d.actuator.command.enable && !halt && !d'.cycle.hasError) := by
  obtain ⟨store, cached, calibration, -, rfl, rfl⟩ := pack_cases h
  refine ⟨?_, rfl, has_enable_commandMode _ halt reset⟩
  cases reset <;> rfl

/-- What a command does to the cycle. -/
theorem pack_cycle {halt reset : Bool} {frame : Bytes} {d d' : Device} {w w' : μ}
    (h : d.pack models halt reset w = (frame, d', w')) :
    d'.cycle = {
      (if reset then d.cycle.clearErrorFlags else d.cycle) with resetting := reset } := by
  obtain ⟨store, cached, calibration, -, rfl, -⟩ := pack_cases h
  rfl

/-- A report raises flags, and the error and the output stay as they are. -/
lemma publish_spec {m m' : Monitor} {report : Report} {d d' : Device}
    (h : m.publish d = (report, m', d')) :
    d'.cycle.hasError = d.cycle.hasError ∧ d'.actuator = d.actuator := by
  rw [Monitor.publish] at h
  cases h
  exact ⟨rfl, rfl⟩

/-- A report shows the flags as it leaves them, and the copy that the monitor has kept. -/
theorem publish_shows {m m' : Monitor} {report : Report} {d d' : Device}
    (h : m.publish d = (report, m', d')) :
    report.cycle = d'.cycle.flags ∧ report.collected = m'.published := by
  rw [Monitor.publish] at h
  cases h
  exact ⟨rfl, rfl⟩

/-- A report raises the flag of a reset when it infers one, and it does nothing else to the
cycle. -/
theorem publish_cycle {m m' : Monitor} {report : Report} {d d' : Device}
    (h : m.publish d = (report, m', d')) :
    d'.cycle = { d.cycle with flags := { d.cycle.flags with
      fpgaInternalResetDetected := d.cycle.flags.fpgaInternalResetDetected ||
        Monitor.infersReset d.cycle.flags m'.published.status.held } } := by
  have hraised : ∀ (flags : CycleFlags) (infers : Bool),
      (if infers then { flags with fpgaInternalResetDetected := true } else flags) =
        { flags with
          fpgaInternalResetDetected := flags.fpgaInternalResetDetected || infers } := by
    intro flags infers
    cases infers with
    | false => rw [Bool.or_false]; rfl
    | true => rw [Bool.or_true]; rfl
  rw [Monitor.publish] at h
  cases h
  exact congrArg (fun flags => { d.cycle with flags := flags }) (hraised _ _)

end Device

end MotorBoard
