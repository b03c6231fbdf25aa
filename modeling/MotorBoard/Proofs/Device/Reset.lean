/-
# One reset is enough

A fault may stand in several places: the cycle remembers the sticky error, its flags tell what
happened, a report may have raised the flag of a reset of the board's logic, and a row of drops
may have grown beyond its limit.  A command with a reset clears the error and the flags.  It
does not touch the row, which ends with the next frame that has a timestamp of its own.  Before
the very first frame nothing ends a row, but there is none then: the record of drops goes on by
frames and by nothing else.

So nothing in a history keeps a fault alive behind a reset and one such frame, whatever the
frame tells about a lockout.  What was counted stays.  The main results are

* `Device.Step.dropRecord`: one step and the record of drops;
* `Device.absorb_clean`: a frame behind a reset;
* `Device.Run.reset_recovers`: a reset and a frame after any run.
-/
import MotorBoard.Proofs.Cycle.Sticky
import MotorBoard.Proofs.Device.Interlock
import MotorBoard.Proofs.Device.Totals

namespace MotorBoard

namespace Device

/-! A command with a reset. -/

/-- A device with the same counts as another one: drops, rows and storms, frames that could not
be read, safety totals, and the greatest temperatures. -/
structure SameCounts (d d' : Device) : Prop where
  dropRecord : d'.cycle.dropRecord = d.cycle.dropRecord
  checksumErrors : d'.store.value.checksumErrors = d.store.value.checksumErrors
  totals : d'.store.value.totals = d.store.value.totals
  maxBoardTemperature : d'.cycle.maxBoardTemperature = d.cycle.maxBoardTemperature
  maxBridgeTemperature : d'.cycle.maxBridgeTemperature = d.cycle.maxBridgeTemperature

section Pack

variable {μ : Type} {models : Models μ} {d d' : Device} {halt reset : Bool} {frame : Bytes}
  {w w' : μ}

/-- A command changes no count, a reset or not. -/
lemma pack_sameCounts (h : d.pack models halt reset w = (frame, d', w')) : SameCounts d d' := by
  have hcycle := pack_cycle h
  refine ⟨?_, ?_, (pack_record h).totals, ?_, ?_⟩
  · rw [hcycle]
    cases reset <;> rfl
  · obtain ⟨store, _, _, ⟨offset, lockErrors, hvalue⟩, rfl, -⟩ := pack_cases h
    show store.value.checksumErrors = d.store.value.checksumErrors
    rw [hvalue]
  · rw [hcycle]
    cases reset <;> rfl
  · rw [hcycle]
    cases reset <;> rfl

end Pack

/-! A status frame. -/

section Unpack

variable {μ : Type} {models : Models μ} {status prev : StatusFrame} {d d' : Device} {w w' : μ}

/-- No attached model has anything against a frame: the thermal one does not stop the motor, and
the motor behaves like the electrical one. -/
structure Unopposed (models : Models μ) (status prev : StatusFrame) (d : Device) (w : μ) :
    Prop where
  cool : ((d.noted status prev).sampleModels models status prev w).1 = false
  follows : d.hasMotorModel = true →
    (models.motorVerify ((d.noted status prev).sampleModels models status prev w).2.2).1 = true

/-- A frame that no model has anything against is verified as if there were no models. -/
lemma absorb_unopposed (h : d.Unopposed models status prev w) :
    ∃ (modelOk : μ → Bool × μ) (w₁ : μ), (modelOk w₁).1 = true ∧
      (d.absorb models status prev w).1 =
          ((d.noted status prev).cycle.verify status false modelOk w₁).1 ∧
        (d.absorb models status prev w).2.1.cycle =
          ((d.noted status prev).cycle.verify status false modelOk w₁).2.1 := by
  obtain ⟨hcool, hfollows⟩ := h
  rw [sampleModels_eq] at hcool hfollows
  rw [absorb_noted, verifyState_eq]
  revert hcool hfollows
  rcases (d.noted status prev).heated models status prev _ with ⟨hot, w₁⟩
  rintro rfl hfollows
  refine ⟨(d.noted status prev).modelOk models, w₁, ?_, rfl, rfl⟩
  rw [modelOk]
  split
  · next hasked =>
    rw [Bool.and_eq_true, Bool.and_eq_true] at hasked
    exact hfollows hasked.1.1
  · rfl

/-- A frame behind a reset passes, if it has a timestamp of its own, and it sets no flag of a
fault. -/
theorem absorb_clean (hunopposed : d.Unopposed models status prev w)
    (hnew : ¬ d.cycle.dropRecord.Repeats status.timestamp)
    (hfirst : d.cycle.seeded = false → d.cycle.consecutiveDrops = 0)
    (hresetting : d.cycle.resetting = true) (hclean : d.cycle.flags.Clean)
    (herror : d.cycle.hasError = false) :
    ∃ d' w', d.absorb models status prev w = (none, d', w') ∧ d'.cycle.hasError = false ∧
      d'.cycle.flags.Clean := by
  obtain ⟨modelOk, w₁, hok, hfault, hcycle⟩ := absorb_unopposed hunopposed
  obtain ⟨m, w₂, hv, herror', hclean'⟩ := CycleMachine.verify_clean
    (m := (d.noted status prev).cycle) hnew hfirst hresetting hclean hok herror
  rcases hcall : d.absorb models status prev w with ⟨fault, d', w'⟩
  rw [hcall, hv] at hfault hcycle
  obtain rfl : fault = none := hfault
  obtain rfl : d'.cycle = m := hcycle
  exact ⟨d', w', rfl, herror', hclean'⟩

/-- A status frame that can be read is unpacked by taking it in. -/
lemma unpack_read {this before : Bytes} (hthis : StatusFrame.decode this = .ok status)
    (hbefore : StatusFrame.decode before = .ok prev)
    (hsum : Checksum.verifies (this.take StatusFrame.size) = true) :
    d.unpack models this before w = d.absorb models status prev w := by
  rw [unpack, hthis, hbefore]
  exact if_pos hsum

/-- A status frame leaves the record of drops as it is, or brings it on by its timestamp. -/
lemma unpack_dropRecord {this before : Bytes} {fault : Option CycleFault}
    (h : d.unpack models this before w = (fault, d', w')) :
    d'.cycle.dropRecord = d.cycle.dropRecord ∨
      ∃ timestamp, d'.cycle.dropRecord = d.cycle.dropRecord.next timestamp := by
  obtain ⟨status, prevStatus, _, _, _, _, -, hv, -⟩ | ⟨-, -, rfl⟩ := unpack_cases h
  · exact .inr ⟨status.timestamp, (CycleMachine.verify_dropRecord hv).trans rfl⟩
  · exact .inl rfl

end Unpack

section Runs

variable {σ μ : Type} {link : Link σ} {models : Models μ} {s s' : Stage σ μ} {e : Event}
  {history : List Event}

/-- The record of drops goes on by frames and by nothing else. -/
theorem Step.dropRecord (h : Step link models s e s') :
    s'.device.cycle.dropRecord = s.device.cycle.dropRecord ∨
      ∃ timestamp, s'.device.cycle.dropRecord = s.device.cycle.dropRecord.next timestamp := by
  cases h with
  | bringUp hcall =>
    have hsame := (bringUp_keeps _ _).after (.refl s.device) hcall fun _ _ => trivial
    exact .inl (congrArg CycleMachine.dropRecord hsame.cycle)
  | attachMotorModel hcall =>
    exact .inl (congrArg CycleMachine.dropRecord (attachMotorModel_same hcall).cycle)
  | pack hcall => exact .inl (pack_sameCounts hcall).dropRecord
  | unpack hcall => exact unpack_dropRecord hcall
  | collect hcall =>
    have hsame := collect_keeps.after (.refl s.device) hcall fun _ _ => trivial
    exact .inl (congrArg CycleMachine.dropRecord hsame.cycle)
  | publish hcall => exact .inl (by rw [publish_cycle hcall]; rfl)
  | clear hcall =>
    cases hcall
    exact .inl rfl
  | publishTrace | die | control | around => exact .inl rfl

namespace Run

/-- Before the first frame there are no drops. -/
lemma unseeded (hr : Run link models history s) :
    s.device.cycle.seeded = false → s.device.cycle.consecutiveDrops = 0 := by
  suffices h : s.device.cycle.dropRecord.seeded = false → s.device.cycle.dropRecord.row = 0 from h
  induction hr with
  | created hcreate =>
    rw [create_ok hcreate]
    exact fun _ => rfl
  | step _ hstep ih =>
    obtain hsame | ⟨timestamp, hnext⟩ := hstep.dropRecord
    · rw [hsame]
      exact ih
    · rw [hnext]
      exact fun hseeded => absurd hseeded.symm Bool.false_ne_true

/-- After any run, a command with a reset changes no count.  The status frame that follows passes
and leaves no error and no flag of a fault, even with a lockout, if it can be read, if its
timestamp is neither of the last two, and if no model has anything against it. -/
theorem reset_recovers (hr : Run link models history s) {halt : Bool} {frame : Bytes} {d : Device}
    {w : μ} (hpack : s.device.pack models halt true s.world = (frame, d, w)) :
    SameCounts s.device d ∧
    ∀ (this prev : Bytes) (status prevStatus : StatusFrame),
      StatusFrame.decode this = .ok status → StatusFrame.decode prev = .ok prevStatus →
      Checksum.verifies (this.take StatusFrame.size) = true →
      status.timestamp ≠ s.device.cycle.lastTimestamp →
      status.timestamp ≠ s.device.cycle.lastLastTimestamp →
      d.Unopposed models status prevStatus w →
      ∃ d' w', d.unpack models this prev w = (none, d', w') ∧
        d'.cycle.hasError = false ∧
        d'.cycle.flags.tooManyDroppedPackets = false ∧
        d'.cycle.flags.statusChecksumError = false ∧
        d'.cycle.flags.fpgaInternalResetDetected = false := by
  have hcycle : d.cycle = { s.device.cycle.clearErrorFlags with resetting := true } :=
    pack_cycle hpack
  refine ⟨pack_sameCounts hpack, ?_⟩
  intro this prev status prevStatus hthis hprev hsum hlast holder hunopposed
  have hnew : ¬ d.cycle.dropRecord.Repeats status.timestamp := by
    rw [hcycle]
    rintro ⟨-, h | h⟩
    · exact hlast h
    · exact holder h
  have hfirst : d.cycle.seeded = false → d.cycle.consecutiveDrops = 0 := by
    rw [hcycle]
    exact hr.unseeded
  have hclean : d.cycle.flags.Clean := by
    rw [hcycle]
    exact s.device.cycle.flags.clean_clearSticky
  obtain ⟨d', w', habsorb, herror, hflags⟩ :=
    absorb_clean hunopposed hnew hfirst (by rw [hcycle]) hclean (by rw [hcycle]; rfl)
  rw [unpack_read hthis hprev hsum]
  exact ⟨d', w', habsorb, herror, hflags.tooMany, hflags.checksum, hflags.reset⟩

/-- The clock jumps, a report infers a reset of the board's logic from that, and a frame arrives
that cannot be read.  Behind the reset of the master comes a frame that tells of a lockout. -/
theorem reset_recovers_lockout :
    ∃ (history : List Event) (s : Stage Ring StandIns) (frame this : Bytes) (d d' : Device)
      (w w' : StandIns),
      Run Ring.link StandIns.models history s ∧ s.device.cycle.hasError = true ∧
        s.device.cycle.flags.statusChecksumError = true ∧
        s.device.cycle.flags.fpgaInternalResetDetected = true ∧
        s.device.pack StandIns.models false true s.world = (frame, d, w) ∧
        Mode.has (this.byteAt 0) Mode.safetyLockout = true ∧
        d.unpack StandIns.models this (Bytes.zeros StatusFrame.size) w = (none, d', w') ∧
        d'.cycle.hasError = false := by
  obtain ⟨d₀, hd₀⟩ : ∃ d, create {} ⟨1, 0, 0, 0, 0, .op⟩ none = .ok d := ⟨_, rfl⟩
  have hfresh : Run Ring.link StandIns.models []
      ⟨d₀, {}, {}, ⟨{ station := 1, position := 0 }, 0⟩⟩ := .created hd₀
  obtain rfl := Except.ok.inj hd₀
  have hheld := hfresh.step (@Step.around _ _ _ _ _ ⟨1, 0, 0, 0, 0, .op⟩ Mailbox.fresh
    { CollectedStore.fresh with value := { status := { held := SafetyCause.operational } } }
    {} {} ⟨{ station := 1, position := 0 }, 0⟩)
  have hjumped := (hheld.unpacked (StatusFrame.encode { timestamp := 5 }) (Bytes.zeros 44)).unpacked
    (StatusFrame.encode { timestamp := 20000000 }) (StatusFrame.encode { timestamp := 5 })
  have hunread := (hjumped.published ⟨"", "", 0, 0, 0, {}, {}⟩).unpacked [] []
  obtain ⟨d', w', hcall, herror, -⟩ := (reset_recovers hunread
    (rfl : pack StandIns.models false true _ _ = _)).2
    (StatusFrame.encode { mode := Mode.safetyLockout, timestamp := 6 })
    (Bytes.zeros StatusFrame.size) { mode := Mode.safetyLockout, timestamp := 6 } {} rfl rfl
    (by decide +kernel) (by decide +kernel) (by decide +kernel)
    ⟨by decide +kernel, fun h => absurd h (by decide +kernel)⟩
  exact ⟨_, _, _, _, _, d', _, w', hunread, by decide +kernel, by decide +kernel,
    by decide +kernel, rfl, rfl, hcall, herror⟩

end Run

end Runs

end Device

end MotorBoard
