/-
# A restart when nothing goes wrong

When the master is restarted, its new driver knows nothing of the board.  On an undisturbed
board whose records are in order the bring-up succeeds, and it takes over the offset that the
board keeps.  Reading the records from the chip goes through the engine's register and the page
buffer, and so the rest of the local bus, where the offset stands, is what it was.  If the name
of the board is claimed on the ring as well, a refusal of that name is all that can stop it.

The main results are

* `Programmer.readPage_quiet`: what reading a page gives;
* `Device.bringUp_underway`: what can stop the bring-up;
* `Device.bringUp_restores`: the bring-up succeeds and takes the offset over.
-/
import MotorBoard.Proofs.Device.Offset
import MotorBoard.Proofs.Eeprom.Pages

namespace MotorBoard

open Call Board

/-- The record stands in front of the engine's register. -/
lemma Stores.SameElsewhere.keptOffset {st st' : Stores} (h : st.SameElsewhere st') :
    st'.keptOffset = st.keptOffset := by
  rw [Stores.keptOffset, Stores.keptOffset, h.range (by decide)]

namespace Programmer

variable {σ : Type} {c : Channel σ} {limits : EepromLimits} {board : σ → Board} {b₀ : Board}

/-- An undisturbed board whose engine is idle in time, and of which only the register and the
buffer of the engine have changed since it was `b₀`. -/
structure Quiet (c : Channel σ) (limits : EepromLimits) (board : σ → Board) (b₀ : Board)
    (t : Mailbox × σ) : Prop where
  calm : ∃ n m, n < limits.spiReadyAttempts ∧ c.Calm board b₀ (Engine Resting n m) t
  elsewhere : At b₀ c board b₀.stores.SameElsewhere t

lemma Quiet.stores {t : Mailbox × σ} (h : Quiet c limits board b₀ t) :
    b₀.stores.SameElsewhere (board t.2).stores :=
  h.elsewhere.2.elim (.refl _)

variable (h : c.link.Carries board) (hl : Channel.Patient c.limits)
  (hm : c.slave.state.allowsMailbox = true)

include h hl hm

/-- A range in front of the engine's register is read as it was. -/
lemma read_quiet {address : UInt16} {length : Nat}
    (hlength : 1 ≤ length ∧ length ≤ Mailbox.maxReadLength)
    (hin : address.toNat + length ≤ SpiCommand.address.toNat) :
    Triple (Quiet c limits board b₀) (c.read address length)
      (fun data t => data = b₀.localBus.range address.toNat length ∧ Quiet c limits board b₀ t)
      fun _ _ => False := by
  have hregister : SpiCommand.address.toNat = 0x230 := rfl
  have hcontrol : SpiCommand.controlAddress.toNat = 0x232 := rfl
  have hcovers : covers address.toNat length SpiCommand.controlAddress.toNat = false := by
    simp only [covers, Bool.and_eq_false_iff, decide_eq_false_iff_not]
    omega
  refine Triple.of_eq fun t ht => ?_
  obtain ⟨n, m, hn, hcalm⟩ := ht.calm
  have hshown : Triple (c.Calm board b₀ (Engine Resting n m)) (c.read address length)
      (fun data => c.Calm board b₀ fun i =>
        data = i.stores.localBus.range address.toNat length ∧ Engine Resting n m i)
      fun _ _ => False :=
    c.read_undisturbed h hl hm hlength (hin.trans (by decide)) fun i hi => by
      rw [Interior.shown, Interior.looked, hcovers]
      exact ⟨rfl, hi⟩
  have hsequence : Triple (At b₀ c board b₀.stores.SameElsewhere) (c.read address length) _ _ :=
    c.read_sequence h address length
  refine (hshown.and hsequence).mono ?_ ?_ fun _ _ hs => hs.1
  · rintro _ rfl
    exact ⟨hcalm, ht.elsewhere⟩
  · rintro data t' ⟨hcalm', -, hstage, -⟩
    have hquiet : Quiet c limits board b₀ t' :=
      ⟨⟨n, m, hn, hcalm'.mono fun _ hi => hi.2⟩, hstage⟩
    exact ⟨hcalm'.interior.1.trans (hquiet.stores.range hin), hquiet⟩

variable (he : b₀.corruptEcho = false) (hs : b₀.pageSize ≤ 264)
  (hready : b₀.spiBusyPolls < limits.spiReadyAttempts)

include he hs hready

/-- A page is read as it is stored. -/
theorem readPage_quiet {page : UInt16} (hpage : page < pageCount) {length : Nat}
    (hlength : 1 ≤ length ∧ length ≤ pageSize) :
    Triple (Quiet c limits board b₀) ((overMailbox c limits).readPage page length)
      (fun data t => data = (fetched b₀ page).take length ∧ Quiet c limits board b₀ t)
      fun _ _ => False := by
  refine Triple.of_eq fun t ht => ?_
  obtain ⟨n, m, hn, hcalm⟩ := ht.calm
  refine ((readPage_undisturbed h hl hm he hs hpage hlength (n := n) (m := m)).and
    (readPage_sequence b₀ page h length)).mono ?_ ?_ ?_
  · rintro _ rfl
    exact ⟨hcalm, ht.elsewhere⟩
  · rintro data t' ⟨⟨-, hcalm'⟩, -, -, hdata, hstage⟩
    exact ⟨hdata, ⟨0, m, Nat.zero_lt_of_lt hn, hcalm'⟩, hstage⟩
  · exact fun _ _ hno => hno.1 ⟨hn, hready⟩

omit h hl hm he hs hready in
/-- The actuator record as it is read from a board. -/
def recorded (b : Board) : ActuatorInfo := ⟨Image.ofBytes 264 0 (fetched b ActuatorInfo.page)⟩

omit h hl hm he hs hready in
/-- On a chip with large pages the record is the whole page. -/
lemma recorded_eq {b : Board} (hsize : b.pageSize = pageSize) :
    recorded b = ⟨b.pages ActuatorInfo.page⟩ := by
  have hfetched : fetched b ActuatorInfo.page = (b.pages ActuatorInfo.page).bytes := by
    have hlen : (b.pages ActuatorInfo.page).bytes.length = pageSize :=
      (b.pages ActuatorInfo.page).length_bytes
    have hzeros : (Bytes.zeros pageSize).length = pageSize := List.length_replicate
    rw [fetched, hsize, List.take_of_length_le hlen.le, List.drop_eq_nil_of_le hzeros.le,
      List.append_nil]
  rw [recorded, hfetched, Image.ofBytes_bytes]

lemma readActuatorInfo_quiet :
    Triple (Quiet c limits board b₀) (overMailbox c limits).readActuatorInfo
      (fun info t => info = recorded b₀ ∧ Quiet c limits board b₀ t) fun _ _ => False := by
  refine (readPage_quiet h hl hm he hs hready (by decide) (by decide)).bind fun data =>
    Triple.lift fun hdata => ?_
  have hlen : (fetched b₀ ActuatorInfo.page).length = ActuatorInfo.size := length_fetched b₀ _
  rw [← hlen, List.take_length] at hdata
  rw [hdata, ActuatorInfo.ofPage, requireLength_of_le hlen.ge]
  exact .pure _ fun t ht => ⟨rfl, ht⟩

lemma readHeatingConfig_quiet :
    Triple (Quiet c limits board b₀) (overMailbox c limits).readHeatingConfig
      (fun _ => Quiet c limits board b₀) fun _ _ => False := by
  refine (readPage_quiet h hl hm he hs hready (by decide) (by decide)).bind fun data =>
    Triple.lift fun hdata => ?_
  have hlen : data.length = HeatingConfig.size := by
    rw [hdata, List.length_take, length_fetched]
    rfl
  rw [HeatingConfig.ofPage, requireLength_of_le hlen.ge]
  exact .pure _ fun t => id

end Programmer

namespace Device

variable {σ μ : Type} {link : Link σ} {models : Models μ} {board : σ → Board} {d : Device}
  {b₀ : Board}

/-- What a bring-up needs to find: a driver whose settings make sense and whose firmware is
known to work, and an undisturbed board whose engine is idle in time and whose actuator record
is valid. -/
structure InOrder (d : Device) (b : Board) : Prop where
  lock : d.mailbox.lock ≠ .poisoned
  patient : Channel.Patient d.config.mailbox
  state : d.slave.state.allowsMailbox = true
  firmware : d.checkFirmware = .ok ()
  undisturbed : b.Undisturbed d.slave.station
  echo : b.corruptEcho = false
  pageSize : b.pageSize ≤ 264
  resting : Programmer.Resting b.stores
  idle : b.spiBusy < d.config.eeprom.spiReadyAttempts
  ready : b.spiBusyPolls < d.config.eeprom.spiReadyAttempts
  valid : (Programmer.recorded b).verifyCrc = true
  version : (Programmer.recorded b).major = 0 ∧ (Programmer.recorded b).minor = 2

/-- A device of the origin of another one, which goes by some name. -/
abbrev Called (d : Device) (name : String) (d' : Device) : Prop :=
  SameOrigin d d' ∧ d'.actuator.name = name

lemma Called.mailbox {name : String} (d' : Device) (m : Mailbox) (h : Called d name d') :
    Called d name { d' with mailbox := m } :=
  ⟨(SameOrigin.aloof d).mailbox d' m h.1, h.2⟩

/-- A bring-up of `d` on its way, on a board that was `b₀` before. -/
abbrev Underway (link : Link σ) (board : σ → Board) (d : Device) (b₀ : Board) (name : String)
    (p : Device × σ) : Prop :=
  Called d name p.1 ∧
    Programmer.Quiet (d.channel link) d.config.eeprom board b₀ (p.1.mailbox, p.2)

/-- The same, while the names on the ring are `r`. -/
abbrev StageUnderway (link : Link σ) (board : σ → Board) (d : Device) (b₀ : Board)
    (name : String) (r : Registry) (s : Stage σ μ) : Prop :=
  s.registry = r ∧ Underway link board d b₀ name (s.device, s.bus)

section Steps

variable {α : Type} {φ : α → Prop} {name : String} {r : Registry}

/-- A call on device and bus leaves the names on the ring alone. -/
lemma onDevice_underway {m : Call (Device × σ) α}
    (hm : Triple (Underway link board d b₀ name) m
      (fun a p => φ a ∧ Underway link board d b₀ name p) fun _ _ => False) :
    Triple (StageUnderway (μ := μ) link board d b₀ name r) (Call.within Stage.deviceAndBus m)
      (fun a s => φ a ∧ StageUnderway link board d b₀ name r s) fun _ _ => False :=
  .within _ fun _ hs => hm.mono (fun _ hp => hp ▸ hs.2) (fun _ _ hp => ⟨hp.1, hs.1, hp.2⟩)
    fun _ _ => id

lemma overChannel_underway {f : Channel σ → Call (Mailbox × σ) α}
    (hf : Triple (Programmer.Quiet (d.channel link) d.config.eeprom board b₀) (f (d.channel link))
      (fun a t => φ a ∧ Programmer.Quiet (d.channel link) d.config.eeprom board b₀ t)
      fun _ _ => False) :
    Triple (Underway link board d b₀ name) (overChannel link f)
      (fun a p => φ a ∧ Underway link board d b₀ name p) fun _ _ => False :=
  (overChannel_triple Called.mailbox (fun _ hd => hd.1.channel link) hf).mono
    (fun _ => id) (fun _ _ hp => ⟨hp.2.1, hp.1, hp.2.2⟩) fun _ _ hp => hp.2

lemma overProgrammer_underway {f : Programmer (Mailbox × σ) → Call (Mailbox × σ) α}
    (hf : Triple (Programmer.Quiet (d.channel link) d.config.eeprom board b₀)
      (f (Programmer.overMailbox (d.channel link) d.config.eeprom))
      (fun a t => φ a ∧ Programmer.Quiet (d.channel link) d.config.eeprom board b₀ t)
      fun _ _ => False) :
    Triple (Underway link board d b₀ name) (overProgrammer link f)
      (fun a p => φ a ∧ Underway link board d b₀ name p) fun _ _ => False :=
  (overProgrammer_triple Called.mailbox
    (fun _ hd => ⟨hd.1.channel link, by rw [hd.1.config]⟩) hf).mono
    (fun _ => id) (fun _ _ hp => ⟨hp.2.1, hp.1, hp.2.2⟩) fun _ _ hp => hp.2

/-- Only a name that is refused stops a bring-up. -/
lemma claimNames_underway :
    Triple (StageUnderway link board d b₀ name r) (claimNames (σ := σ) (μ := μ))
      (fun _ s => ∃ r', r.claim d.slave.product name = (.ok (), r') ∧
        StageUnderway link board d b₀ name r' s)
      fun e s => ∃ e', e = .failed e' ∧
        r.claim d.slave.product name = (.error e', s.registry) := by
  rintro s ⟨rfl, ⟨horigin, hname⟩, hquiet⟩
  rw [claimNames_eq, horigin.slave, hname]
  rcases s.registry.claim d.slave.product name with ⟨e | ⟨⟩, r'⟩
  · exact ⟨e, rfl, rfl⟩
  · exact ⟨r', rfl, rfl, ⟨horigin, hname⟩, hquiet⟩

end Steps

section Restoring

variable {name : String} {r : Registry} (h : link.Carries board) (hd : InOrder d b₀)

include h hd

/-- Without settings for a thermal model there is none. -/
lemma startHeating_underway (hheating : d.heatingSettings = none) :
    Triple (StageUnderway (μ := μ) link board d b₀ name r) (startHeating link models)
      (fun _ => StageUnderway link board d b₀ name r) fun _ _ => False := by
  have hpage := Programmer.readHeatingConfig_quiet (c := d.channel link) h hd.patient hd.state
    hd.echo hd.pageSize hd.ready
  have hread : Triple (StageUnderway (μ := μ) link board d b₀ name r)
      (Call.within Stage.deviceAndBus (overProgrammer link (·.readHeatingConfig)))
      (fun _ => StageUnderway link board d b₀ name r) fun _ _ => False :=
    (onDevice_underway (overProgrammer_underway (φ := fun _ => True)
      (hpage.post fun _ _ ht => ⟨trivial, ht⟩))).post fun _ _ hs => hs.2
  have hnone : ∀ s, StageUnderway (μ := μ) link board d b₀ name r s →
      s.device.heatingSettings = none :=
    fun _ hs => hs.2.1.1.heatingSettings.trans hheating
  refine startHeating_stages hread (fun _ _ => id) (fun s hs => ?started) fun e s hs hsome => ?stuck
  case started => exact ⟨hs.1, ⟨(SameOrigin.aloof d).heating _ hs.2.1.1, hs.2.1.2⟩, hs.2.2⟩
  case stuck =>
    rw [hnone s hs] at hsome
    cases hsome

/-- The offset that the board keeps is read. -/
lemma readAppRam_underway {z : Binary64} (hz : b₀.stores.keptOffset = some z) :
    Triple (Underway link board d b₀ name) (readAppRam link)
      (fun o p => o = some z ∧ Underway link board d b₀ name p) fun _ _ => False := by
  refine (overChannel_underway (Programmer.read_quiet (c := d.channel link) h hd.patient hd.state
    (by decide) (by decide))).bind fun raw => Triple.lift fun hraw => ?_
  obtain ⟨u, hu, hvalid⟩ := Stores.exists_record hz
  have hdecode : UserConfig.decode raw = .ok u := hraw ▸ hu
  rw [hdecode]
  exact .pure _ fun p hp => ⟨hvalid, hp⟩

/-- A device that has taken an offset over.  Collections can begin, and a cycle that finds
another offset hands it over at once. -/
structure Restored (z : Binary64) (b₀ : Board) (board : σ → Board) (s : Stage σ μ) : Prop where
  calibration : s.device.calibration = .savedCalibration
  zeroOffset : s.device.actuator.state.zeroOffset = z
  cached : s.device.cachedZeroOffset = z
  store : s.device.store.lock = .free
  appRam : s.device.config.appRam = .present
  collectable : Collectable s.device (board s.bus)
  stores : b₀.stores.SameElsewhere (board s.bus).stores

lemma restoreCalibration_underway (hram : d.config.appRam = .present) {z : Binary64}
    (hz : b₀.stores.keptOffset = some z) :
    Triple (StageUnderway (μ := μ) link board d b₀ name r) (restoreCalibration link)
      (fun _ => Restored z b₀ board) fun _ _ => False := by
  have hadopted : ∀ s, StageUnderway (μ := μ) link board d b₀ name r s →
      Restored z b₀ board { s with device := adoptOffset z s.device } := by
    rintro s ⟨-, ⟨horigin, -⟩, hquiet⟩
    obtain ⟨_, _, -, hcalm⟩ := hquiet.calm
    have hstore : (adoptOffset z s.device).store.lock = .free := by
      rw [adoptOffset, Guarded.update]
      split <;> rfl
    exact
      { calibration := rfl
        zeroOffset := rfl
        cached := rfl
        store := hstore
        appRam := (congrArg DeviceConfig.appRam horigin.config).trans hram
        collectable :=
          { lock := hcalm.lock
            store := hstore ▸ LockState.noConfusion
            patient := horigin.config.symm ▸ hd.patient
            state := horigin.slave.symm ▸ hd.state
            undisturbed := horigin.slave.symm ▸ hcalm.undisturbed }
        stores := hquiet.stores }
  refine restoreCalibration_stages (onDevice_underway (readAppRam_underway h hd hz))
    (fun _ _ => False.elim) (fun s hs => ?none) (fun z' s hs => ?some) fun _ _ _ => id
  case none => cases hs.1
  case some => exact Option.some.inj hs.1 ▸ hadopted s hs.2

/-- The name of a programmed board is taken over and claimed, and so is the offset. -/
lemma bringUpProgrammed_underway (hheating : d.heatingSettings = none)
    (hram : d.config.appRam = .present) {z : Binary64} (hz : b₀.stores.keptOffset = some z)
    {info : ActuatorInfo} (boardMax : Float) (claim : Bool) :
    Triple (StageUnderway link board d b₀ name r)
      (bringUpProgrammed link models claim info boardMax) (fun _ => Restored z b₀ board)
      fun e s => claim = true ∧ ∃ e', e = .failed e' ∧
        r.claim d.slave.product info.name = (.error e', s.registry) := by
  refine bringUpProgrammed_stages (N := StageUnderway link board d b₀ info.name r)
    (M := fun s => ∃ r', StageUnderway link board d b₀ info.name r' s) (T := Restored z b₀ board)
    (fun s hs => ?named) ?heating (fun hclaim => ?claimed) (fun _ _ hs => ⟨r, hs⟩) ?restored
    (fun s hs hplain => ?plain) fun s hs => ?bounded
  case named => exact ⟨hs.1, ⟨(SameOrigin.aloof d).name _ _ hs.2.1.1, rfl⟩, hs.2.2⟩
  case heating => exact (startHeating_underway h hd hheating).unfailing
  case claimed =>
    exact claimNames_underway.mono (fun _ => id) (fun _ s ⟨r', _, hs⟩ => ⟨r', hs⟩)
      fun e s hs => ⟨hclaim, hs⟩
  case restored =>
    rintro s ⟨⟨r', hs⟩, -⟩
    exact (restoreCalibration_underway h hd hram hz).unfailing s hs
  case plain =>
    obtain ⟨r', -, ⟨horigin, -⟩, -⟩ := hs
    exact absurd (horigin.config ▸ hram) hplain
  case bounded => exact { hs with collectable := { hs.collectable with } }

/-- The way of a bring-up through a board that is in order.  Only a name that is refused stops
it. -/
theorem bringUp_underway (models : Models μ) (hheating : d.heatingSettings = none)
    (hram : d.config.appRam = .present) {z : Binary64} (hz : b₀.stores.keptOffset = some z)
    (claim allowUnprogrammed : Bool) :
    Triple (StageUnderway link board d b₀ name r) (bringUp link models claim allowUnprogrammed)
      (fun _ => Restored z b₀ board)
      fun e s => claim = true ∧ ∃ e', e = .failed e' ∧
        r.claim d.slave.product (Programmer.recorded b₀).name = (.error e', s.registry) := by
  have haloof := SameOrigin.aloof d
  have hconfig : Triple (StageUnderway (μ := μ) link board d b₀ name r)
      (Call.within Stage.deviceAndBus
        (overChannel link fun c => c.read ConfigInfo.address ConfigInfo.size))
      (fun raw s => raw = b₀.localBus.range ConfigInfo.address.toNat ConfigInfo.size ∧
        StageUnderway link board d b₀ name r s) fun _ _ => False :=
    onDevice_underway (overChannel_underway (Programmer.read_quiet (c := d.channel link) h
      hd.patient hd.state (by decide) (by decide)))
  have hrecord : Triple (StageUnderway (μ := μ) link board d b₀ name r)
      (Call.within Stage.deviceAndBus (overProgrammer link (·.readActuatorInfo)))
      (fun info s => info = Programmer.recorded b₀ ∧ StageUnderway link board d b₀ name r s)
      fun _ _ => False :=
    onDevice_underway (overProgrammer_underway (Programmer.readActuatorInfo_quiet
      (c := d.channel link) h hd.patient hd.state hd.echo hd.pageSize hd.ready))
  refine bringUp_stages (C := fun _ => StageUnderway link board d b₀ name r)
    (K := fun _ info s => info = Programmer.recorded b₀ ∧ StageUnderway link board d b₀ name r s)
    (fun s e hs hrefused => ?firmware) hconfig.unfailing
    (fun _ config _ s hs => ?decoded) (fun raw e hrefused s hs => ?refused) (fun _ => ?record)
    (fun _ info hinvalid s hs => ?bare) (fun _ info e hfails s hs => ?fails)
    fun config info _ => ?programmed
  case firmware =>
    have hfirmware : s.device.checkFirmware = .ok () := by
      rw [checkFirmware, hs.2.1.1.slave, hs.2.1.1.config]
      exact hd.firmware
    rw [hfirmware] at hrefused
    cases hrefused
  case decoded => exact ⟨hs.2.1, ⟨haloof.configInfo _ config hs.2.2.1.1, hs.2.2.1.2⟩, hs.2.2.2⟩
  case refused =>
    have hlen : raw.length = ConfigInfo.size := by rw [hs.1, Memory.length_range]
    obtain ⟨config, hconfig, -⟩ := ConfigInfo.roundTrips.encode_decode raw hlen.ge
    rw [hconfig] at hrefused
    cases hrefused
  case record =>
    refine hrecord.mono (fun _ => id) (fun info s hs => ?_) fun _ _ => False.elim
    exact ⟨hs.1, hs.2.1, ⟨haloof.actuatorInfo _ info hs.2.2.1.1, hs.2.2.1.2⟩, hs.2.2.2⟩
  case bare =>
    rw [hs.1, hd.valid] at hinvalid
    cases hinvalid
  case fails =>
    have hversion := hd.version
    rw [hs.1] at hfails
    rcases hfails hd.valid with hmajor | hminor
    · exact absurd hversion.1 hmajor
    · exact absurd hversion.2 hminor
  case programmed =>
    refine Triple.lift ?_
    rintro rfl
    exact bringUpProgrammed_underway h hd hheating hram hz config.boardMaxCurrent claim

end Restoring

lemma InOrder.underway {s : Stage σ μ} (hs : InOrder s.device (board s.bus)) :
    StageUnderway link board s.device (board s.bus) s.device.actuator.name s.registry s :=
  ⟨rfl, ⟨.refl _, rfl⟩, ⟨_, _, hs.idle, hs.lock, .refl _, hs.undisturbed, hs.resting, rfl, rfl⟩,
    .refl (.refl _)⟩

/-- A board in order that keeps an offset is brought up, and the offset is taken over. -/
theorem bringUp_restores (models : Models μ) {s : Stage σ μ} (h : link.Carries board)
    (hs : InOrder s.device (board s.bus)) (hheating : s.device.heatingSettings = none)
    (hram : s.device.config.appRam = .present) {z : Binary64}
    (hz : (board s.bus).stores.keptOffset = some z) (allowUnprogrammed : Bool) :
    ∃ s', bringUp link models false allowUnprogrammed s = (.ok (), s') ∧
      Restored z (board s.bus) board s' := by
  obtain ⟨⟨⟩, s', hcall, hrestored⟩ := Triple.exists_result
    ((bringUp_underway h hs models hheating hram hz false allowUnprogrammed).stop_mono
      fun _ _ hno => Bool.noConfusion hno.1) hs.underway
  exact ⟨s', hcall, hrestored⟩

/-- A driver with application memory that knows no more than its settings. -/
def fresh : Device := {
  config := { appRam := .present }
  slave := ⟨1, 0, Product.wg006, 10001, 0x01000114, .op⟩
  heatingSettings := none
  cycle := {} }

end Device

/-- A new board whose chip has been programmed with a record, and which keeps an offset. -/
def Board.programmed (info : ActuatorInfo) (z : Binary64) : Board :=
  Board.setPage ActuatorInfo.page info.image {
    station := 1
    position := 0
    localBus := (Memory.blank 0x10000).write UserConfig.address.toNat (UserConfig.make z).encode }

section Programmed

variable (info : ActuatorInfo) (z : Binary64)

lemma Programmer.recorded_programmed : recorded (Board.programmed info z) = info :=
  (recorded_eq rfl).trans (congrArg ActuatorInfo.mk (pages_setPage_self _ _ _))

lemma Stores.keptOffset_programmed : (Board.programmed info z).stores.keptOffset = some z :=
  keptOffset_write (Memory.blank _) _ _

/-- Such a board is in order. -/
lemma Device.inOrder_programmed (hvalid : info.verifyCrc = true)
    (hversion : info.major = 0 ∧ info.minor = 2) :
    Device.fresh.InOrder (Board.programmed info z) where
  lock := by decide
  patient := Channel.patient_of_validate rfl
  state := rfl
  firmware := by decide
  undisturbed := ⟨⟨rfl, rfl⟩, rfl, rfl, rfl, rfl⟩
  echo := rfl
  pageSize := Nat.le_refl _
  resting := by
    have hlen : (UserConfig.make z).encode.length = 20 := UserConfig.length_encode _
    show (((Memory.blank 0x10000).write _ _).get _) &&& _ = 0
    rw [Memory.get_write _ _ _ _ (by rw [hlen]; decide), if_neg (by rw [hlen]; decide),
      Memory.get_blank]
    rfl
  idle := Nat.zero_lt_succ _
  ready := Nat.zero_lt_succ _
  valid := (Programmer.recorded_programmed info z).symm ▸ hvalid
  version := (Programmer.recorded_programmed info z).symm ▸ hversion

end Programmed

end MotorBoard
