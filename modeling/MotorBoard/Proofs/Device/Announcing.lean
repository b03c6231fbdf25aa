/-
# The traces that a driver asks for

When a machine announces a lockout, its driver asks the electrical model for a trace of the
motor.  To see what is asked for, the models are given a list that keeps every request, which
makes no difference to anything else.

The main results are

* `Device.unpack_recorded`: the list makes no difference, and a trace of a lockout is on it
  exactly when there is a model and a lockout is announced;
* `Device.Run.announces_lockouts`: the frames of a machine that announce a lockout, and the
  frames of a driver that ask for a trace of one.
-/
import MotorBoard.Proofs.Cycle.Lockout
import MotorBoard.Proofs.Device.Claiming
import MotorBoard.Proofs.Device.Machine
import MotorBoard.Proofs.Device.Reset

namespace MotorBoard

namespace Models

variable {μ : Type}

/-- The models with a list of the traces that were asked for, the newest first. -/
def recorded (models : Models μ) : Models (μ × List TraceRequest) where
  motorSample sample w := (models.motorSample sample w.1, w.2)
  motorCheckPublish w := (models.motorCheckPublish w.1, w.2)
  motorVerify w := ((models.motorVerify w.1).1, (models.motorVerify w.1).2, w.2)
  motorFlagPublish reason level delay w :=
    (models.motorFlagPublish reason level delay w.1, ⟨reason, level, delay⟩ :: w.2)
  motorReset w := (models.motorReset w.1, w.2)
  heatingBuild parameters name hardware directory w :=
    (models.heatingBuild parameters name hardware directory w.1, w.2)
  heatingLoad w := ((models.heatingLoad w.1).1, (models.heatingLoad w.1).2, w.2)
  heatingStart w := ((models.heatingStart w.1).1, (models.heatingStart w.1).2, w.2)
  heatingUpdate sample info ambient seconds w :=
    (models.heatingUpdate sample info ambient seconds w.1, w.2)
  heatingOverheated w := ((models.heatingOverheated w.1).1, (models.heatingOverheated w.1).2, w.2)
  heatingReset w := (models.heatingReset w.1, w.2)

end Models

namespace Device

section Recorded

variable {μ : Type} (models : Models μ) (status prev : StatusFrame) (d : Device) (w : μ)
  (requests : List TraceRequest)

/-- Among the traces that a device asks for is one for a lockout exactly when there is a model and a
lockout is announced. -/
lemma exists_traceRequests_lockout :
    (∃ r ∈ d.traceRequests, r.reason = "Safety Lockout") ↔
      d.hasMotorModel = true ∧ d.cycle.lockoutEntered = true := by
  rw [traceRequests]
  cases d.hasMotorModel with
  | false => simp
  | true =>
    cases d.cycle.lockoutEntered with
    | true => simp
    | false =>
      constructor
      · rintro ⟨r, hr, hreason⟩
        split at hr
        · obtain rfl : r = ⟨"Publishing manually triggered", 0, 100⟩ := by simpa using hr
          exact absurd hreason (by decide)
        · cases hr
      · rintro ⟨-, h⟩
        cases h

lemma requested_recorded (asked : List TraceRequest) :
    models.recorded.requested asked (w, requests) =
      (models.requested asked w, asked ++ requests) := by
  induction asked with
  | nil => rfl
  | cons request asked ih =>
    rw [Models.requested, List.foldr_cons, ← Models.requested, ih]
    rfl

lemma fed_recorded : d.fed models.recorded status prev (w, requests) =
    (d.fed models status prev w, requests) := by
  rw [fed, fed]
  split <;> rfl

lemma heated_recorded : d.heated models.recorded status prev (w, requests) =
    ((d.heated models status prev w).1, (d.heated models status prev w).2, requests) := by
  rw [heated, heated]
  dsimp only
  split
  · split <;> rfl
  · rfl

lemma modelOk_recorded : d.modelOk models.recorded (w, requests) =
    ((d.modelOk models w).1, (d.modelOk models w).2, requests) := by
  rw [modelOk, modelOk]
  split <;> rfl

/-- A machine that asks models with a list is told what it is told without one. -/
lemma verify_recorded {m : CycleMachine} {overheated : Bool} (modelOk : μ → Bool × μ)
    {recordedOk : μ × List TraceRequest → Bool × μ × List TraceRequest}
    (h : recordedOk (w, requests) = ((modelOk w).1, (modelOk w).2, requests)) :
    m.verify status overheated recordedOk (w, requests) =
      ((m.verify status overheated modelOk w).1, (m.verify status overheated modelOk w).2.1,
        (m.verify status overheated modelOk w).2.2, requests) := by
  rw [CycleMachine.verify, CycleMachine.verify]
  rcases CycleMachine.guard status (m.observe status) with ⟨_ | early, m₁⟩
  · dsimp only
    rw [h]
    rcases modelOk w with ⟨_ | _, w₁⟩ <;> rfl
  · rfl

/-- While a frame is verified the device asks for traces once, when its machine has settled. -/
lemma verifyState_recorded :
    ∃ d₁ : Device, d₁.hasMotorModel = d.hasMotorModel ∧
      d₁.cycle = (d.verifyState models status prev w).2.1.cycle ∧
      d.verifyState models.recorded status prev (w, requests) =
        ((d.verifyState models status prev w).1, (d.verifyState models status prev w).2.1,
          (d.verifyState models status prev w).2.2, d₁.traceRequests ++ requests) := by
  rw [verifyState_eq, verifyState_eq, fed_recorded, heated_recorded]
  rcases d.heated models status prev (d.fed models status prev w) with ⟨hot, w₁⟩
  dsimp only
  rw [verify_recorded status w₁ requests (d.modelOk models) (modelOk_recorded models d w₁ requests),
    requested_recorded]
  exact ⟨{ d with cycle := (d.cycle.verify status hot (d.modelOk models) w₁).2.1 }, rfl, rfl, rfl⟩

variable {models d w} {d' : Device} {w' : μ} {this before : Bytes} {fault : Option CycleFault}

/-- While a status frame is taken in, the device asks for a trace of a lockout exactly when it
has an electrical model and a lockout is announced; and that the requests are kept makes no
difference. -/
theorem unpack_recorded (h : d.unpack models this before w = (fault, d', w')) :
    ∃ requests, d.unpack models.recorded this before (w, []) = (fault, d', w', requests) ∧
      ((∃ r ∈ requests, r.reason = "Safety Lockout") ↔
        d.hasMotorModel = true ∧ d'.cycle.lockoutEntered = true) := by
  have hunread : d.checksumFault = d' → ((∃ r ∈ ([] : List TraceRequest),
      r.reason = "Safety Lockout") ↔ d.hasMotorModel = true ∧ d'.cycle.lockoutEntered = true) := by
    rintro rfl
    simp [checksumFault, CycleMachine.recordChecksumError]
  rw [unpack] at h ⊢
  split at h
  · next status prevStatus _ _ =>
    split at h
    · next hsum =>
      obtain ⟨d₁, hmotor, hcycle, hrecorded⟩ :=
        verifyState_recorded models status prevStatus (d.noted status prevStatus) w []
      rw [← absorb_noted, ← absorb_noted, h] at hrecorded
      rw [← absorb_noted, h] at hcycle
      refine ⟨_, (if_pos hsum).trans hrecorded, ?_⟩
      rw [List.append_nil, exists_traceRequests_lockout, hmotor, hcycle]
      rfl
    · next hsum =>
      obtain ⟨rfl, rfl, rfl⟩ : some CycleFault.statusChecksum = fault ∧ d.checksumFault = d' ∧
        w = w' := by simpa using h
      exact ⟨[], if_neg hsum, hunread rfl⟩
  · obtain ⟨rfl, rfl, rfl⟩ : some CycleFault.statusChecksum = fault ∧ d.checksumFault = d' ∧
      w = w' := by simpa using h
    exact ⟨[], rfl, hunread rfl⟩

end Recorded

namespace Run

section Driver

variable {σ μ : Type} {link : Link σ} {models : Models μ} {s : Stage σ μ} {history : List Event}

/-- **The frames that announce a lockout, and those that ask for a trace of one.**  After any run
of a machine, a frame announces a lockout when there was no error before it and it fails for the
lockout; or when it fails for drops, the reset of the master is over, and the newest frame before
it that did not fail for drops told of a lockout.  It leaves an error then.  In any run of a
driver, a trace of a lockout is asked for behind just these frames, if there is a model. -/
theorem announces_lockouts {limits : CycleLimits} {events : List CycleEvent} {m : CycleMachine}
    (hm : CycleMachine.Run limits events m) (hr : Run link models history s) :
    (∀ (ν : Type) (status : StatusFrame) (overheated : Bool) (modelOk : ν → Bool × ν) (w w' : ν)
        (fault : Option CycleFault) (m' : CycleMachine),
      m.verify status overheated modelOk w = (fault, m', w') →
        (m'.lockoutEntered = true ↔ m.Announces (CycleEvent.verdicts events) fault) ∧
          (m'.lockoutEntered = true → m'.hasError = true)) ∧
    ∀ (this before : Bytes) (fault : Option CycleFault) (d' : Device) (w' : μ),
      s.device.unpack models this before s.world = (fault, d', w') →
        ∃ requests, s.device.unpack models.recorded this before (s.world, []) =
            (fault, d', w', requests) ∧
          ((∃ r ∈ requests, r.reason = "Safety Lockout") ↔ s.device.hasMotorModel = true ∧
            s.device.cycle.Announces (verdicts history) fault) := by
  refine ⟨fun ν _ _ _ _ _ _ _ hv => hm.entered_iff hv, fun this before fault d' w' h => ?_⟩
  obtain ⟨requests, hrecorded, hasked⟩ := unpack_recorded h
  refine ⟨requests, hrecorded, hasked.trans (and_congr_right fun _ => ?_)⟩
  rcases unpack_cases h with ⟨status, prevStatus, _, _, _, _, -, hv, -⟩ | ⟨-, rfl, rfl⟩
  · -- the machine has seen the clock go on before it verifies the frame
    obtain ⟨limits', events', hevents, hverdicts⟩ := hr.machine
    rw [((hevents.step .accumulateTime).entered_iff hv).1, ← hverdicts]
    rfl
  · simp [checksumFault, CycleMachine.recordChecksumError, CycleMachine.Announces]

/-- A driver with an electrical model, which has seen no frame yet. -/
lemma exists_modelled : ∃ s : Stage Ring StandIns,
    Run Ring.link StandIns.models [.other, .other] s ∧ s.device.hasMotorModel = true ∧
      s.device.cycle = {} := by
  have hname : casterInfo.name = "fl_caster_rotation_motor" := by decide +kernel
  have hvalid : casterInfo.verifyCrc = true := ActuatorInfo.verifyCrc_generateCrc _
  obtain ⟨s, hcall, hsettled, hinfo, -, hregistry⟩ := bringUp_programmed casterInfo .zero hvalid
    (by decide +kernel)
  have hsame := (bringUp_keeps _ _).after (.refl fresh) hcall fun _ _ => trivial
  have hcreate : create fresh.config fresh.slave none = .ok fresh := rfl
  have hfresh : Run Ring.link StandIns.models []
    ⟨fresh, {}, {}, ⟨.programmed casterInfo .zero, 0⟩⟩ := .created hcreate
  have hcalled : s.device.actuator.name = "fl_caster_rotation_motor" := by
    rw [hsettled.name (hinfo.symm ▸ hvalid), hinfo, hname]
  rcases hattach : s.device.attachMotorModel s.registry with ⟨r, d, registry⟩
  refine ⟨_, (hfresh.step (.bringUp hcall)).step (.attachMotorModel hattach), ?_, ?_⟩
  · rw [attachMotorModel, hcalled, hregistry] at hattach
    cases hattach
    rfl
  · exact (attachMotorModel_same hattach).cycle.trans hsame.cycle

/-- A driver with an electrical model is told of a lockout by its first frame, and it asks for a
trace; so it goes with a machine by itself. -/
theorem announces_lockouts_first :
    ∃ (history : List Event) (s : Stage Ring StandIns) (events : List CycleEvent)
      (m : CycleMachine) (d' : Device) (w' : StandIns) (requests : List TraceRequest),
      CycleMachine.Run {} events m ∧ Run Ring.link StandIns.models history s ∧
        (m.pass { mode := Mode.safetyLockout }).2.1.lockoutEntered = true ∧
        s.device.unpack StandIns.models.recorded
          (StatusFrame.encode { mode := Mode.safetyLockout }) (Bytes.zeros StatusFrame.size)
          (s.world, []) = (some .safetyLockout, d', w', requests) ∧
        ∃ r ∈ requests, r.reason = "Safety Lockout" := by
  obtain ⟨s, hmodelled, hmotor, hcycle⟩ := exists_modelled
  have hm : CycleMachine.Run {} [] {} := .fresh
  obtain ⟨hmachine, hdriver⟩ := announces_lockouts hm hmodelled
  rcases hcall : s.device.unpack StandIns.models
    (StatusFrame.encode { mode := Mode.safetyLockout }) (Bytes.zeros StatusFrame.size) s.world
    with ⟨fault, d', w'⟩
  obtain rfl : fault = some .safetyLockout := by
    have hread : statusRead (StatusFrame.encode { mode := Mode.safetyLockout })
      (Bytes.zeros StatusFrame.size) = some { mode := Mode.safetyLockout } := by decide +kernel
    rcases unpack_cases hcall with ⟨status, prevStatus, _, _, _, _, hread', hv, -⟩ | ⟨hread', -⟩
    · obtain rfl := Option.some.inj (hread.symm.trans hread')
      refine (CycleMachine.verify_early hv (by decide) (by decide)).2 ?_
      rw [noted, hcycle]
      rfl
    · exact absurd (hread.symm.trans hread') nofun
  obtain ⟨requests, hrecorded, hasked⟩ := hdriver _ _ _ _ _ hcall
  refine ⟨_, s, _, _, d', w', requests, hm, hmodelled, ?_, hrecorded,
    hasked.2 ⟨hmotor, by rw [hcycle], .inl rfl⟩⟩
  have hpass : CycleMachine.pass { mode := Mode.safetyLockout } {} =
    (some .safetyLockout, (CycleMachine.pass { mode := Mode.safetyLockout } {}).2) := rfl
  exact (hmachine Unit _ _ _ _ _ _ _ hpass).1.2 ⟨rfl, .inl rfl⟩

end Driver

end Run

end Device

end MotorBoard
