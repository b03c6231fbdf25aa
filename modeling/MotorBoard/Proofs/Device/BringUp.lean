/-
# The way through a bring-up

On its way a bring-up learns what the board is, and keeps it in the device; it sets up the
thermal model and claims names.  Only the last step touches what cycle and collector work
with: the offset that the board kept is taken over.  The way is gone through once, for any
conditions that lead from one step to the next.  So a condition on the device that does not
speak of what was learned stands until the last step, and what the step makes of it is what the
bring-up makes of it.

The main results are

* `Device.claimNames_eq`: what claiming the names does;
* `Device.bringUp_stages`: the way, by what is known between its steps;
* `Device.bringUp_triple`: what taking over the offset does, a bring-up does;
* `Device.bringUp_settles`: what a bring-up settles at its end.
-/
import MotorBoard.Device.BringUp
import MotorBoard.Proofs.Call.Triple

namespace MotorBoard

open Call

namespace Registry

/-- Claims a name as a board with some product does: as an actuator, unless the board has none,
and as a digital output. -/
def claim (product : UInt32) (name : String) (r : Registry) : Except Error Unit × Registry :=
  if product ≠ Product.wg021 then
    match r.registerActuator name with
    | (.ok (), r) => r.registerDigitalOut name
    | (.error e, r) => (.error e, r)
  else r.registerDigitalOut name

end Registry

namespace Device

variable {σ μ : Type}

/-- A device is created with nothing but its settings. -/
lemma create_ok {config : DeviceConfig} {slave : Slave} {heating : Option HeatingSettings}
    {d : Device} (h : create config slave heating = .ok d) :
    d = {
      config := config
      slave := slave
      heatingSettings := heating
      cycle := { limits := config.cyclic } } := by
  rw [create] at h
  cases hv : config.validate with
  | error e =>
    rw [hv] at h
    cases h
  | ok u =>
    rw [hv] at h
    exact (Except.ok.inj h).symm

/-- A condition on a device that does not speak of its mailbox or of what a bring-up learns. -/
structure Aloof (P : Device → Prop) : Prop where
  mailbox : ∀ d m, P d → P { d with mailbox := m }
  configInfo : ∀ d i, P d → P { d with configInfo := i }
  actuatorInfo : ∀ d i, P d → P { d with actuatorInfo := i }
  name : ∀ d n, P d → P (adoptName n d)
  heating : ∀ d, P d → P { d with hasHeatingModel := true }
  maxCurrent : ∀ d x, P d → P { d with maxCurrent := x }

/-- A device with the settings, the store and the calibration of another one. -/
structure SameOrigin (d d' : Device) : Prop where
  config : d'.config = d.config
  slave : d'.slave = d.slave
  heatingSettings : d'.heatingSettings = d.heatingSettings
  store : d'.store = d.store
  calibration : d'.calibration = d.calibration

lemma SameOrigin.refl (d : Device) : SameOrigin d d := ⟨rfl, rfl, rfl, rfl, rfl⟩

lemma SameOrigin.aloof (d : Device) : Aloof (SameOrigin d) where
  mailbox _ _ h := ⟨h.config, h.slave, h.heatingSettings, h.store, h.calibration⟩
  configInfo _ _ h := ⟨h.config, h.slave, h.heatingSettings, h.store, h.calibration⟩
  actuatorInfo _ _ h := ⟨h.config, h.slave, h.heatingSettings, h.store, h.calibration⟩
  name _ _ h := ⟨h.config, h.slave, h.heatingSettings, h.store, h.calibration⟩
  heating _ h := ⟨h.config, h.slave, h.heatingSettings, h.store, h.calibration⟩
  maxCurrent _ _ h := ⟨h.config, h.slave, h.heatingSettings, h.store, h.calibration⟩

lemma SameOrigin.channel {d d' : Device} (hsame : SameOrigin d d') (link : Link σ) :
    d'.channel link = d.channel link := by
  rw [Device.channel, Device.channel, hsame.slave, hsame.config]

/-- A call on device and bus that keeps a condition on the device, however it ends. -/
abbrev KeepsDevice {α : Type} (P : Device → Prop) (m : Call (Device × σ) α) : Prop :=
  Keeps (fun p => P p.1) (fun _ => True) m

/-- A call on a whole stage that keeps a condition on the device, however it ends. -/
abbrev KeepsStage {α : Type} (P : Device → Prop) (m : Call (Stage σ μ) α) : Prop :=
  Keeps (fun s => P s.device) (fun _ => True) m

variable {P : Device → Prop} {link : Link σ} {models : Models μ}

section Mailbox

variable {α : Type} {m : Call (Mailbox × σ) α} {A : Mailbox × σ → Prop}
  {B : α → Mailbox × σ → Prop} {E : Stop → Mailbox × σ → Prop}
  (hP : ∀ d m, P d → P { d with mailbox := m })

include hP

/-- A call on the mailbox of a device does to mailbox and bus what it does without the
device. -/
lemma mailbox_triple {f : Device → Call (Mailbox × σ) α} (hf : ∀ d, P d → f d = m)
    (hm : Triple A m B E) :
    Triple (fun p => P p.1 ∧ A (p.1.mailbox, p.2))
      (do
        let p ← Call.get
        Call.within mailboxAndBus (f p.1))
      (fun a p => P p.1 ∧ B a (p.1.mailbox, p.2)) fun e p => P p.1 ∧ E e (p.1.mailbox, p.2) := by
  refine Triple.get_bind fun p hp => .within _ fun q hq => ?_
  subst hq
  rw [hf _ hp.1]
  refine hm.mono ?_ (fun _ _ ht => ⟨hP _ _ hp.1, ht⟩) fun _ _ ht => ⟨hP _ _ hp.1, ht⟩
  rintro _ rfl
  exact hp.2

/-- A call that needs the channel of a device. -/
lemma overChannel_triple {c : Channel σ} {f : Channel σ → Call (Mailbox × σ) α}
    (hc : ∀ d, P d → d.channel link = c) (hm : Triple A (f c) B E) :
    Triple (fun p => P p.1 ∧ A (p.1.mailbox, p.2)) (overChannel link f)
      (fun a p => P p.1 ∧ B a (p.1.mailbox, p.2)) fun e p => P p.1 ∧ E e (p.1.mailbox, p.2) :=
  mailbox_triple hP (f := fun d => f (d.channel link)) (fun d hd => by rw [hc d hd]) hm

/-- A call of the programmer of a device's memory chip. -/
lemma overProgrammer_triple {c : Channel σ} {limits : EepromLimits}
    {f : Programmer (Mailbox × σ) → Call (Mailbox × σ) α}
    (hc : ∀ d, P d → d.channel link = c ∧ d.config.eeprom = limits)
    (hm : Triple A (f ⟨c.transport, limits⟩) B E) :
    Triple (fun p => P p.1 ∧ A (p.1.mailbox, p.2)) (overProgrammer link f)
      (fun a p => P p.1 ∧ B a (p.1.mailbox, p.2)) fun e p => P p.1 ∧ E e (p.1.mailbox, p.2) :=
  mailbox_triple hP (f := fun d => f ⟨(d.channel link).transport, d.config.eeprom⟩)
    (fun d hd => by rw [(hc d hd).1, (hc d hd).2]) hm

end Mailbox

section Kept

variable {α : Type} (hP : ∀ d m, P d → P { d with mailbox := m })

include hP

lemma overChannel_keeps (m : Channel σ → Call (Mailbox × σ) α) :
    KeepsDevice P (overChannel link m) :=
  Keeps.get.bind fun _ => .part _ _ fun _ _ h => hP _ _ h

lemma overProgrammer_keeps (m : Programmer (Mailbox × σ) → Call (Mailbox × σ) α) :
    KeepsDevice P (overProgrammer link m) :=
  Keeps.get.bind fun _ => .part _ _ fun _ _ h => hP _ _ h

lemma readAppRam_keeps : KeepsDevice P (readAppRam link) :=
  (overChannel_keeps hP _).bind fun _ => (Keeps.ofExcept _).bind fun _ => .pure _

end Kept

lemma onDevice_keeps {α : Type} {m : Call (Device × σ) α} (h : KeepsDevice P m) :
    KeepsStage (μ := μ) P (Call.within Stage.deviceAndBus m) :=
  .within _ (fun _ _ => h) fun _ => rfl

lemma claim_keeps (f : Registry → Except Error Unit × Registry) :
    KeepsStage P (Stage.claim (σ := σ) (μ := μ) f) :=
  (Keeps.update fun _ h => h).bind fun _ => .ofExcept _

lemma claimNames_keeps : KeepsStage P (claimNames (σ := σ) (μ := μ)) := by
  refine Keeps.get.bind fun s => .ite ?both (claim_keeps _)
  case both => exact (claim_keeps _).bind fun _ => claim_keeps _

/-- Claiming the names of a board changes nothing but the names on the ring. -/
theorem claimNames_eq (s : Stage σ μ) :
    claimNames s =
      (((s.registry.claim s.device.slave.product s.device.actuator.name).1).mapError .failed,
        { s with
          registry := (s.registry.claim s.device.slave.product s.device.actuator.name).2 }) := by
  have hclaim (f : Registry → Except Error Unit × Registry) (s : Stage σ μ) : Stage.claim f s =
      ((f s.registry).1.mapError .failed, { s with registry := (f s.registry).2 }) := by
    show Call.ofExcept (f s.registry).1 { s with registry := (f s.registry).2 } = _
    rcases (f s.registry).1 with e | ⟨⟩ <;> rfl
  rw [claimNames, bind_apply, get_apply, Registry.claim]
  dsimp only
  split
  · rw [bind_apply, hclaim]
    rcases s.registry.registerActuator s.device.actuator.name with ⟨e | ⟨⟩, r⟩
    · rfl
    · exact hclaim _ _
  · exact hclaim _ s

/-! The stages.  What is known between two steps is given, and how the steps lead on. -/

section Stages

variable {A : Stage σ μ → Prop} {E : Stop → Stage σ μ → Prop}

/-- A thermal model that is there is started, and that may fail. -/
lemma startModel_stages {B : Stage σ μ → Prop} (hworld : ∀ s w, B s → B { s with world := w })
    (hstarted : ∀ s, B s → A { s with device := { s.device with hasHeatingModel := true } })
    (hfails : ∀ e s, B s → E (.failed e) s) :
    Triple B (do
      Call.ofExcept (← Stage.changeWorld (σ := σ) models.heatingStart)
      Stage.changeDevice fun d => { d with hasHeatingModel := true }) (fun _ => A) E := by
  have hresult : Triple B (Stage.changeWorld (σ := σ) models.heatingStart) (fun _ => B) E :=
    .update _ fun s => hworld s _
  refine hresult.bind fun x => Triple.bind (Q := fun _ => B) ?started fun _ => .modify _ hstarted
  case started => exact .ofExcept (fun _ _ _ => id) fun e _ => hfails e

/-- On the way through the start of the thermal model `A` stays true.  It can get stuck only where
there are settings for the model. -/
lemma startHeating_stages
    (hread : Triple A
      (Call.within Stage.deviceAndBus (overProgrammer link (·.readHeatingConfig))) (fun _ => A) E)
    (hworld : ∀ s w, A s → A { s with world := w })
    (hstarted : ∀ s, A s → A { s with device := { s.device with hasHeatingModel := true } })
    (hfails : ∀ e s, A s → s.device.heatingSettings.isSome = true → E (.failed e) s) :
    Triple A (startHeating link models) (fun _ => A) E := by
  refine hread.bind fun config => Triple.get_bind fun s hs => ?_
  cases hsettings : s.device.heatingSettings with
  | none =>
    refine .pure _ ?_
    rintro _ rfl
    exact hs
  | some settings =>
    have hchange {α : Type} (f : μ → α × μ) :
        Triple (fun t => A t ∧ t.device.heatingSettings.isSome = true)
          (Stage.changeWorld (σ := σ) f)
          (fun _ t => A t ∧ t.device.heatingSettings.isSome = true) E :=
      .update _ fun t ht => ⟨hworld t _ ht.1, ht.2⟩
    have hstart : Triple (fun t => A t ∧ t.device.heatingSettings.isSome = true) (do
        Call.ofExcept (← Stage.changeWorld (σ := σ) models.heatingStart)
        Stage.changeDevice fun d => { d with hasHeatingModel := true }) (fun _ => A) E :=
      startModel_stages (fun t w ht => ⟨hworld t w ht.1, ht.2⟩) (fun t ht => hstarted t ht.1)
        fun e t ht => hfails e t ht.1 ht.2
    refine Triple.pre (P := fun t => A t ∧ t.device.heatingSettings.isSome = true) ?built ?_
    case built =>
      refine .ite (fun _ => (hchange _).bind fun _ => ?_) fun _ => .pure _ fun _ ht => ht.1
      exact .ite (fun _ => (hchange _).bind fun _ => hstart) fun _ => hstart
    rintro _ rfl
    exact ⟨hs, by rw [hsettings]; rfl⟩

variable {I N M T Q : Stage σ μ → Prop}

/-- The offset is taken over if there is one to be read, and if reading fails, that is all. -/
lemma restoreCalibration_stages {R : Option Binary64 → Stage σ μ → Prop}
    {F : Stop → Stage σ μ → Prop}
    (hread : Triple A (Call.within Stage.deviceAndBus (readAppRam link)) R F)
    (hfailed : ∀ e s, F (.failed e) s → Q s) (hnone : ∀ s, R none s → Q s)
    (hsome : ∀ z s, R (some z) s → Q { s with device := adoptOffset z s.device })
    (hstops : ∀ e s, (∀ e', e ≠ .failed e') → F e s → E e s) :
    Triple A (restoreCalibration link) (fun _ => Q) E := by
  refine (hread.attempt_unfailed.stop_mono fun e s he => hstops e s he.1 he.2).bind fun r => ?_
  cases r with
  | error e => exact .pure _ (hfailed e)
  | ok o =>
    cases o with
    | none => exact .pure _ hnone
    | some z => exact .modify _ (hsome z)

/-- The part of a bring-up that a programmed board goes through: `N` when the name was taken over,
`M` when it was claimed or need not be, `T` when the offset was taken over or is not there. -/
lemma bringUpProgrammed_stages {claim : Bool} {info : ActuatorInfo} {boardMax : Float}
    (hname : ∀ s, I s → N { s with device := adoptName info.name s.device })
    (hheating : Triple N (startHeating link models) (fun _ => N) E)
    (hclaim : claim = true → Triple N claimNames (fun _ => M) E)
    (hunclaimed : claim = false → ∀ s, N s → M s)
    (hrestore : Triple (fun s => M s ∧ s.device.config.appRam = .present)
      (restoreCalibration link) (fun _ => T) E)
    (hplain : ∀ s, M s → s.device.config.appRam ≠ .present → T s)
    (hbound : ∀ s, T s → Q { s with device := { s.device with
      maxCurrent := Bound.lesser boardMax info.maxCurrent.value } }) :
    Triple I (bringUpProgrammed link models claim info boardMax) (fun _ => Q) E := by
  have hlast : Triple M (do
      let s ← Call.get
      if s.device.config.appRam = .present then restoreCalibration link
      Stage.changeDevice fun d =>
        { d with maxCurrent := Bound.lesser boardMax info.maxCurrent.value }) (fun _ => Q) E := by
    have hbounded : Triple T (Stage.changeDevice (σ := σ) (μ := μ) fun d =>
        { d with maxCurrent := Bound.lesser boardMax info.maxCurrent.value }) (fun _ => Q) E :=
      .modify _ hbound
    refine Triple.get_bind fun s hs => .ite (fun hram => ?restored) fun hram => ?plain
    case restored =>
      refine (hrestore.pre ?_).bind fun _ => hbounded
      rintro _ rfl
      exact ⟨hs, hram⟩
    case plain =>
      refine hbounded.pre ?_
      rintro _ rfl
      exact hplain _ hs hram
  have hnamed : Triple I (Stage.changeDevice (adoptName info.name)) (fun _ => N) E :=
    .modify _ hname
  refine hnamed.bind fun _ => hheating.bind fun _ => .ite (fun hc => ?claimed) fun hc => ?unclaimed
  case claimed => exact (hclaim hc).bind fun _ => hlast
  case unclaimed => exact hlast.pre (hunclaimed (Bool.eq_false_iff.2 hc))

variable {R : Bytes → Stage σ μ → Prop} {C : ConfigInfo → Stage σ μ → Prop}
  {K : ConfigInfo → ActuatorInfo → Stage σ μ → Prop}

/-- A bring-up: `R` when the factory configuration was read, `C` when it is known, `K` when the
record of the actuator is known, too. -/
theorem bringUp_stages {claim allowUnprogrammed : Bool}
    (hfirmware : ∀ s e, A s → s.device.checkFirmware = .error e → E (.failed e) s)
    (hread : Triple A (Call.within Stage.deviceAndBus
      (overChannel link fun c => c.read ConfigInfo.address ConfigInfo.size)) R E)
    (hdecoded : ∀ raw config, ConfigInfo.decode raw = .ok config → ∀ s, R raw s →
      C config { s with device := { s.device with configInfo := config } })
    (hrefused : ∀ raw e, ConfigInfo.decode raw = .error e → ∀ s, R raw s → E (.failed e) s)
    (hrecord : ∀ config, Triple (C config)
      (Call.within Stage.deviceAndBus (overProgrammer link (·.readActuatorInfo)))
      (fun info s => K config info { s with device := { s.device with actuatorInfo := info } }) E)
    (hbare : ∀ config info, info.verifyCrc = false → ∀ s, K config info s →
      Q { s with device := { s.device with maxCurrent := config.boardMaxCurrent } })
    (hfails : ∀ config info e, (info.verifyCrc = true → info.major ≠ 0 ∨ info.minor ≠ 2) →
      ∀ s, K config info s → E (.failed e) s)
    (hprogrammed : ∀ config info, info.verifyCrc = true → Triple (K config info)
      (bringUpProgrammed link models claim info config.boardMaxCurrent) (fun _ => Q) E) :
    Triple A (bringUp link models claim allowUnprogrammed) (fun _ => Q) E := by
  refine Triple.get_bind fun s hs => ?_
  have hchecked : Triple (fun t => t = s) (Call.ofExcept s.device.checkFirmware) (fun _ => A) E :=
    .ofExcept (fun _ _ t ht => ht ▸ hs) fun e he t ht => ht ▸ hfirmware s e hs he
  have hknown (raw : Bytes) : Triple (R raw) (Call.ofExcept (ConfigInfo.decode raw))
      (fun config s => C config { s with device := { s.device with configInfo := config } }) E :=
    .ofExcept (hdecoded raw) (hrefused raw)
  refine hchecked.bind fun _ => hread.bind fun raw => (hknown raw).bind fun config => ?_
  refine Triple.bind (Q := fun _ => C config) (.modify _ fun _ => id) fun _ =>
    (hrecord config).bind fun info => Triple.bind (Q := fun _ => K config info)
      (.modify _ fun _ => id) fun _ => ?_
  refine .ite (fun hinvalid => .ite (fun _ => ?bare) fun _ => ?unprogrammed) fun hvalid =>
    .ite (fun hversion => ?version) fun _ => ?programmed
  case bare => exact .modify _ (hbare config info (by simpa using hinvalid))
  case unprogrammed =>
    exact .fail _ (hfails config info _ fun hvalid => absurd hvalid (by simpa using hinvalid))
  case version => exact .fail _ (hfails config info _ fun _ => hversion.1)
  case programmed => exact hprogrammed config info (by simpa using hvalid)

end Stages

lemma startHeating_keeps (hP : ∀ d m, P d → P { d with mailbox := m })
    (hheating : ∀ d, P d → P { d with hasHeatingModel := true }) :
    KeepsStage P (startHeating link models) :=
  startHeating_stages (onDevice_keeps (overProgrammer_keeps hP _)) (fun _ _ => id)
    (fun s => hheating s.device) fun _ _ hs _ _ => hs

section Takeover

variable {Q : Stage σ μ → Prop} {E : Stop → Stage σ μ → Prop}

/-- A step on the way, which may stop there. -/
lemma step_triple {α : Type} {m : Call (Stage σ μ) α} (h : KeepsStage P m)
    (hE : ∀ e s, P s.device → E e s) :
    Triple (fun s => P s.device) m (fun _ s => P s.device) E :=
  h.stop_mono fun e s hs => hE e s (hs trivial)

variable (hP : Aloof P) (hPQ : ∀ s, P s.device → Q s)
  (hQ : ∀ s x, Q s → Q { s with device := { s.device with maxCurrent := x } })
  (hE : ∀ e s, P s.device → E e s)
  (hrestore : Triple (fun s => P s.device) (restoreCalibration link) (fun _ => Q) E)

include hP hPQ hQ hE hrestore

/-- What taking over the offset does, a bring-up does.  One that does not come so far leaves
the condition as it was. -/
theorem bringUp_triple (claim allowUnprogrammed : Bool) :
    Triple (fun s => P s.device) (bringUp link models claim allowUnprogrammed) (fun _ => Q) E := by
  refine bringUp_stages (R := fun _ s => P s.device) (C := fun _ s => P s.device)
    (K := fun _ _ s => P s.device) (fun s e hs _ => hE _ s hs) ?read
    (fun _ _ _ s => hP.configInfo s.device _) (fun _ _ _ s => hE _ s) (fun config => ?record)
    (fun _ _ _ s hs => hPQ _ (hP.maxCurrent s.device _ hs)) (fun _ _ _ _ s => hE _ s)
    fun config info _ => ?programmed
  case read => exact step_triple (onDevice_keeps (overChannel_keeps hP.mailbox _)) hE
  case record =>
    have hread : KeepsStage (μ := μ) P
        (Call.within Stage.deviceAndBus (overProgrammer link (·.readActuatorInfo))) :=
      onDevice_keeps (overProgrammer_keeps hP.mailbox _)
    exact (step_triple hread hE).post fun _ s => hP.actuatorInfo s.device _
  case programmed =>
    refine bringUpProgrammed_stages (N := fun s => P s.device) (M := fun s => P s.device)
      (fun s => hP.name s.device _) ?heating (fun _ => step_triple claimNames_keeps hE)
      (fun _ _ => id) (hrestore.pre fun _ hs => hs.1) (fun s hs _ => hPQ s hs) fun s => hQ s _
    case heating => exact step_triple (startHeating_keeps hP.mailbox hP.heating) hE

end Takeover

/-- Taking over the offset changes the device only when there is one. -/
lemma restoreCalibration_keeps (hP : ∀ d m, P d → P { d with mailbox := m })
    (hadopt : ∀ d z, P d → P (adoptOffset z d)) :
    KeepsStage (μ := μ) P (restoreCalibration link) := by
  have hread : KeepsStage (μ := μ) P (Call.within Stage.deviceAndBus (readAppRam link)) :=
    onDevice_keeps (readAppRam_keeps hP)
  exact restoreCalibration_stages hread (fun _ _ hs => hs trivial) (fun _ => id)
    (fun z s => hadopt s.device z) fun _ _ _ => id

/-- What is kept when the offset is taken over, a bring-up keeps, wherever it gets stuck. -/
lemma bringUp_aloof (hP : Aloof P) (hadopt : ∀ d z, P d → P (adoptOffset z d))
    (claim allowUnprogrammed : Bool) :
    KeepsStage P (bringUp link models claim allowUnprogrammed) :=
  bringUp_triple hP (fun _ => id) (fun s x hs => hP.maxCurrent s.device x hs)
    (fun _ _ hs _ => hs) (restoreCalibration_keeps hP.mailbox hadopt) claim allowUnprogrammed

/-! What a bring-up settles at its end. -/

/-- What is settled when a board was brought up.  The greatest current is the one that the board
allows, or the one of its motor if that is less; and the actuator goes by the name in the record.
Without a valid record there is only the board. -/
structure Settled (d : Device) : Prop where
  maxCurrent : d.maxCurrent =
    if d.actuatorInfo.verifyCrc then
      Bound.lesser d.configInfo.boardMaxCurrent d.actuatorInfo.maxCurrent.value
    else d.configInfo.boardMaxCurrent
  name : d.actuatorInfo.verifyCrc = true → d.actuator.name = d.actuatorInfo.name

/-- What is known on the way, while the greatest current is still the one from before. -/
structure Unsettled (x : Float) (config : ConfigInfo) (info : ActuatorInfo) (d : Device) :
    Prop where
  maxCurrent : d.maxCurrent = x
  configInfo : d.configInfo = config
  actuatorInfo : d.actuatorInfo = info

/-- The same, when the name has been taken over. -/
structure Introduced (x : Float) (config : ConfigInfo) (info : ActuatorInfo) (d : Device) : Prop
    extends Unsettled x config info d where
  name : d.actuator.name = info.name

section Settling

variable {x : Float} {config : ConfigInfo} {info : ActuatorInfo}

lemma bringUpProgrammed_settles (hvalid : info.verifyCrc = true) (claim : Bool) :
    Triple (fun s => Unsettled x config info s.device)
      (bringUpProgrammed link models claim info config.boardMaxCurrent)
      (fun _ s => s.device.Settled) fun _ s => s.device.maxCurrent = x := by
  have hkept {α : Type} {m : Call (Stage σ μ) α} (h : KeepsStage (Introduced x config info) m) :
      Triple (fun s => Introduced x config info s.device) m
        (fun _ s => Introduced x config info s.device) fun _ s => s.device.maxCurrent = x :=
    step_triple h fun _ _ hs => hs.maxCurrent
  have hmailbox : ∀ d m, Introduced x config info d → Introduced x config info
      { d with mailbox := m } :=
    fun _ _ hd => ⟨⟨hd.maxCurrent, hd.configInfo, hd.actuatorInfo⟩, hd.name⟩
  have hheating : ∀ d, Introduced x config info d → Introduced x config info
      { d with hasHeatingModel := true } :=
    fun _ hd => ⟨⟨hd.maxCurrent, hd.configInfo, hd.actuatorInfo⟩, hd.name⟩
  have hadopt : ∀ d z, Introduced x config info d → Introduced x config info (adoptOffset z d) :=
    fun _ _ hd => ⟨⟨hd.maxCurrent, hd.configInfo, hd.actuatorInfo⟩, hd.name⟩
  refine bringUpProgrammed_stages (fun s hs => ?named)
    (hkept (startHeating_keeps hmailbox hheating))
    (fun _ => hkept claimNames_keeps) (fun _ _ => id)
    ((hkept (restoreCalibration_keeps hmailbox hadopt)).pre fun _ hs => hs.1)
    (fun _ hs _ => hs) fun s hs => ?settled
  case named => exact ⟨⟨hs.maxCurrent, hs.configInfo, hs.actuatorInfo⟩, rfl⟩
  case settled =>
    refine ⟨?_, fun _ => ?_⟩
    · rw [hs.actuatorInfo, hs.configInfo, if_pos hvalid]
    · rw [hs.actuatorInfo, hs.name]

/-- A bring-up that comes to its end settles the greatest current, and one that does not leaves
it alone. -/
theorem bringUp_settles (x : Float) (claim allowUnprogrammed : Bool) :
    Triple (fun s => s.device.maxCurrent = x) (bringUp link models claim allowUnprogrammed)
      (fun _ s => s.device.Settled) fun _ s => s.device.maxCurrent = x := by
  refine bringUp_stages (R := fun _ s => s.device.maxCurrent = x)
    (C := fun config s => s.device.maxCurrent = x ∧ s.device.configInfo = config)
    (K := fun config info s => Unsettled x config info s.device) (fun _ _ hs _ => hs) ?read
    (fun _ _ _ _ hs => ⟨hs, rfl⟩) (fun _ _ _ _ => id) (fun config => ?record)
    (fun config info hinvalid s hs => ?bare) (fun _ _ _ _ _ hs => hs.maxCurrent)
    fun config info hvalid => bringUpProgrammed_settles hvalid claim
  case read =>
    exact step_triple (P := fun d => d.maxCurrent = x)
      (onDevice_keeps (overChannel_keeps (fun _ _ => id) _)) fun _ _ => id
  case record =>
    have hread : KeepsStage (μ := μ) (fun d => d.maxCurrent = x ∧ d.configInfo = config)
        (Call.within Stage.deviceAndBus (overProgrammer link (·.readActuatorInfo))) :=
      onDevice_keeps (overProgrammer_keeps (fun _ _ => id) _)
    exact (step_triple hread fun _ _ => And.left).post fun info s hs => ⟨hs.1, hs.2, rfl⟩
  case bare =>
    refine ⟨?_, fun hvalid => ?_⟩
    · rw [hs.actuatorInfo, hs.configInfo, hinvalid]
      rfl
    · rw [hs.actuatorInfo, hinvalid] at hvalid
      cases hvalid

end Settling

end Device

end MotorBoard
