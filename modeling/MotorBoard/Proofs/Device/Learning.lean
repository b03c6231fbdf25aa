/-
# What a bring-up learns, and what it leaves behind

A bring-up asks the board for three or four records, one after the other, and keeps what it was
told.  For a record on the memory chip it drives the transfer engine, and so it writes to the
register of the engine and to the page buffer, and nowhere else.  What it reads it therefore
reads from a board that is what it was in the beginning, wherever the records stand.

Between two of its calls the driver is a device that has kept what it learned so far, the names
on the ring are as they were, and the board is what it was elsewhere.  Only at the end are names
claimed, and what comes after that cannot fail for a cause.

The main results are

* `Device.bringUp_learned`: what a bring-up has learned, and how it gets stuck;
* `Device.bringUp_learns`: what the driver knows is what the board held.
-/
import MotorBoard.Bench.StandIn
import MotorBoard.Proofs.Device.Restart

namespace MotorBoard

open Call Board

/-- The record of a kept offset is valid. -/
lemma Stores.valid_record {st : Stores} {z : Binary64} (h : st.keptOffset = some z) :
    ∃ u, UserConfig.decode (st.localBus.range UserConfig.address.toNat UserConfig.size) = .ok u ∧
      u.version = UserConfig.currentVersion ∧ u.expectedCrc = u.crc ∧ u.zeroOffset = z := by
  obtain ⟨u, hu, hvalid⟩ := exists_record h
  rw [UserConfig.validZeroOffset] at hvalid
  split at hvalid
  · next hchecks => exact ⟨u, hu, hchecks.1, hchecks.2, Option.some.inj hvalid⟩
  · cases hvalid

namespace Programmer

variable {σ : Type} {c : Channel σ} {limits : EepromLimits} {board : σ → Board} {b₀ : Board}

/-- The record is the page of the chip, with zeros behind the end of the chip's pages. -/
lemma bytes_recorded (b : Board) :
    (recorded b).bytes = (b.pages ActuatorInfo.page).bytes.take b.pageSize ++
      Bytes.zeros (pageSize - b.pageSize) := by
  have hlen : (fetched b ActuatorInfo.page).length = pageSize := length_fetched b _
  show Bytes.padTo pageSize 0 (fetched b ActuatorInfo.page) = _
  rw [Bytes.padTo, hlen, Nat.sub_self, List.replicate_zero, List.append_nil,
    List.take_of_length_le hlen.le, fetched, Bytes.zeros, List.drop_replicate, Bytes.zeros]

/-- The actuator record is read as it was stored in the beginning. -/
lemma readActuatorInfo_sequence (h : c.link.Carries board) :
    Triple (At b₀ c board b₀.stores.SameElsewhere) (overMailbox c limits).readActuatorInfo
      (fun info t => info = recorded b₀ ∧ At b₀ c board b₀.stores.SameElsewhere t)
      (StoppedAt b₀ c board b₀.stores.SameElsewhere) := by
  refine (readPage_sequence b₀ ActuatorInfo.page h ActuatorInfo.size).bind fun data => ?_
  rintro t ⟨-, -, hdata, ht⟩
  have hlen : (fetched b₀ ActuatorInfo.page).length = ActuatorInfo.size := length_fetched b₀ _
  rw [← hlen, List.take_length] at hdata
  rw [hdata, ActuatorInfo.ofPage, requireLength_of_le hlen.ge]
  exact ⟨rfl, ht⟩

lemma readHeatingConfig_sequence (h : c.link.Carries board) :
    Triple (At b₀ c board b₀.stores.SameElsewhere) (overMailbox c limits).readHeatingConfig
      (fun _ => At b₀ c board b₀.stores.SameElsewhere)
      (StoppedAt b₀ c board b₀.stores.SameElsewhere) := by
  refine (readPage_sequence b₀ HeatingConfig.page h HeatingConfig.size).bind fun data =>
    .ofExcept (fun _ _ t ht => ht.2.2.2) fun e _ t ht => ?_
  exact ht.2.2.2.stopped (fun _ => id) _

end Programmer

namespace Device

variable {σ μ : Type} {link : Link σ} {models : Models μ} {board : σ → Board}

/-- The settings and the offset of a device are those of another one. -/
structure SameOffset (d d' : Device) : Prop where
  config : d'.config = d.config
  slave : d'.slave = d.slave
  zeroOffset : d'.actuator.state.zeroOffset = d.actuator.state.zeroOffset

lemma SameOffset.channel {d d' : Device} (h : SameOffset d d') (link : Link σ) :
    d'.channel link = d.channel link := by
  rw [Device.channel, Device.channel, h.slave, h.config]

/-- A device that has read the factory configuration of its board. -/
structure Configured (b : Board) (config : ConfigInfo) (d : Device) : Prop where
  decoded : ConfigInfo.decode (b.localBus.range ConfigInfo.address.toNat ConfigInfo.size) =
    .ok config
  configInfo : d.configInfo = config

/-- A device that knows its board: the factory configuration, and the record of the actuator. -/
structure Knows (b : Board) (d : Device) : Prop where
  configInfo : ConfigInfo.decode (b.localBus.range ConfigInfo.address.toNat ConfigInfo.size) =
    .ok d.configInfo
  actuatorInfo : d.actuatorInfo = Programmer.recorded b

/-- A device that has also taken the name in the record over. -/
def Named (b : Board) (d : Device) : Prop :=
  Knows b d ∧ d.actuator.name = (Programmer.recorded b).name

/-- The end of a bring-up that has succeeded. -/
structure Learned (board : σ → Board) (claim : Bool) (s₀ s : Stage σ μ) : Prop where
  knows : Knows (board s₀.bus) s.device
  zeroOffset : s.device.actuator.state.zeroOffset = s₀.device.actuator.state.zeroOffset ∨
    s₀.device.config.appRam = .present ∧
      (board s₀.bus).stores.keptOffset = some s.device.actuator.state.zeroOffset
  stores : (board s₀.bus).stores.SameElsewhere (board s.bus).stores
  registry : if claim = true ∧ (Programmer.recorded (board s₀.bus)).verifyCrc = true then
      s₀.registry.claim s₀.device.slave.product (Programmer.recorded (board s₀.bus)).name =
        (.ok (), s.registry)
    else s.registry = s₀.registry

/-- A bring-up that got stuck. -/
structure Stuck (board : σ → Board) (claim : Bool) (s₀ : Stage σ μ) (e : Stop) (s : Stage σ μ) :
    Prop where
  stores : (board s₀.bus).stores.SameElsewhere (board s.bus).stores
  registry : ∀ e', e = .failed e' → s.registry = s₀.registry ∨ claim = true ∧
    s₀.registry.claim s₀.device.slave.product (Programmer.recorded (board s₀.bus)).name =
      (.error e', s.registry)

/-! Between two calls. -/

/-- A device with the settings and the offset of another one, which has learned something. -/
abbrev Keeping (d : Device) (D : Device → Prop) (d' : Device) : Prop := SameOffset d d' ∧ D d'

/-- Device and bus of a bring-up on its way.  The device has learned `D`, and the board is what it
was in the beginning but for the register and the buffer of the engine. -/
abbrev AskingBoard (board : σ → Board) (s₀ : Stage σ μ) (D : Device → Prop) (p : Device × σ) :
    Prop :=
  Reaching board (board s₀.bus) s₀.device.slave.station (Keeping s₀.device D)
    (board s₀.bus).stores.SameElsewhere p

/-- Device and bus of a bring-up that has stopped on its way. -/
abbrev LeavingBoard (board : σ → Board) (s₀ : Stage σ μ) (D : Device → Prop) (e : Stop)
    (p : Device × σ) : Prop :=
  Keeping s₀.device D p.1 ∧ (board s₀.bus).Stopped s₀.device.slave.station
    (board s₀.bus).stores.SameElsewhere e (board p.2)

/-- A bring-up on its way, while the names on the ring are `r`. -/
def Asking (board : σ → Board) (s₀ : Stage σ μ) (r : Registry) (D : Device → Prop)
    (s : Stage σ μ) : Prop :=
  s.registry = r ∧ AskingBoard board s₀ D (s.device, s.bus)

/-- A bring-up that has stopped there. -/
def GaveUp (board : σ → Board) (s₀ : Stage σ μ) (r : Registry) (D : Device → Prop) (e : Stop)
    (s : Stage σ μ) : Prop :=
  s.registry = r ∧ LeavingBoard board s₀ D e (s.device, s.bus)

section Asking

variable {s₀ : Stage σ μ} {r : Registry} {D K : Device → Prop}

lemma Asking.gaveUp {s : Stage σ μ} (h : Asking board s₀ r D s) (e : Stop) :
    GaveUp board s₀ r D e s :=
  ⟨h.1, h.2.1, h.2.2.stopped (fun _ => id) e⟩

lemma Asking.stores {s : Stage σ μ} (h : Asking board s₀ r D s) :
    (board s₀.bus).stores.SameElsewhere (board s.bus).stores :=
  h.2.2.2.elim (.refl _)

lemma GaveUp.stores {e : Stop} {s : Stage σ μ} (h : GaveUp board s₀ r D e s) :
    (board s₀.bus).stores.SameElsewhere (board s.bus).stores :=
  h.2.2.1.elim (.refl _)

/-- A call that needs device and bus leaves the names on the ring alone. -/
lemma ask_triple {α : Type} {φ : α → Prop} {m : Call (Device × σ) α}
    (hm : Triple (AskingBoard board s₀ D) m (fun a p => φ a ∧ AskingBoard board s₀ D p)
      (LeavingBoard board s₀ D)) :
    Triple (Asking board s₀ r D) (Call.within Stage.deviceAndBus m)
      (fun a s => φ a ∧ Asking board s₀ r D s) (GaveUp board s₀ r D) :=
  .within _ fun _ hs => hm.mono (fun _ hp => hp ▸ hs.2) (fun _ _ hp => ⟨hp.1, hs.1, hp.2⟩)
    fun _ _ hp => ⟨hs.1, hp⟩

variable (h : link.Carries board) (hD : ∀ d m, D d → D { d with mailbox := m })

include h hD

/-- A record in front of the engine's register is read as it was in the beginning. -/
lemma read_asking {address : UInt16} {length : Nat}
    (hin : address.toNat + length ≤ SpiCommand.address.toNat) :
    Triple (AskingBoard board s₀ D) (overChannel link fun c => c.read address length)
      (fun raw p => raw = (board s₀.bus).localBus.range address.toNat length ∧
        AskingBoard board s₀ D p)
      (LeavingBoard board s₀ D) := by
  have hregister : SpiCommand.address.toNat = 0x230 := rfl
  have hcontrol : SpiCommand.controlAddress.toNat = 0x232 := rfl
  have hapart : covers address.toNat length SpiCommand.controlAddress.toNat = false := by
    simp only [covers, Bool.and_eq_false_iff, decide_eq_false_iff_not]
    omega
  refine (overChannel_triple (c := s₀.device.channel link)
    (fun d m hd => ⟨⟨hd.1.config, hd.1.slave, hd.1.zeroOffset⟩, hD d m hd.2⟩)
    (fun _ hd => hd.1.channel link)
    ((s₀.device.channel link).read_sequence h address length)).mono (fun _ => id) ?_
      fun _ _ hp => hp
  rintro raw p ⟨hd, -, hstage, hshows⟩
  have hsame : (board s₀.bus).stores.SameElsewhere (board p.2).stores := hstage.2.elim (.refl _)
  exact ⟨(hshows.eq_range hapart).trans (hsame.range hin), hd, hstage⟩

omit h in
/-- A call of the programmer that leaves the board as it is elsewhere. -/
lemma program_asking {α : Type} {φ : α → Prop}
    {f : Programmer (Mailbox × σ) → Call (Mailbox × σ) α}
    (hf : Triple (Programmer.At (board s₀.bus) (s₀.device.channel link) board
        (board s₀.bus).stores.SameElsewhere)
      (f (Programmer.overMailbox (s₀.device.channel link) s₀.device.config.eeprom))
      (fun a t => φ a ∧ Programmer.At (board s₀.bus) (s₀.device.channel link) board
        (board s₀.bus).stores.SameElsewhere t)
      (Programmer.StoppedAt (board s₀.bus) (s₀.device.channel link) board
        (board s₀.bus).stores.SameElsewhere)) :
    Triple (Asking board s₀ r D) (Call.within Stage.deviceAndBus (overProgrammer link f))
      (fun a s => φ a ∧ Asking board s₀ r D s) (GaveUp board s₀ r D) :=
  ask_triple ((overProgrammer_triple
    (fun d m hd => ⟨⟨hd.1.config, hd.1.slave, hd.1.zeroOffset⟩, hD d m hd.2⟩)
    (fun _ hd => ⟨hd.1.channel link, by rw [hd.1.config]⟩) hf).mono (fun _ => id)
      (fun _ _ hp => ⟨hp.2.1, hp.1, hp.2.2⟩) fun _ _ hp => hp)

lemma startHeating_asking (hheating : ∀ d, D d → D { d with hasHeatingModel := true }) :
    Triple (Asking board s₀ r D) (startHeating link models) (fun _ => Asking board s₀ r D)
      (GaveUp board s₀ r D) := by
  have hread : Triple (Asking board s₀ r D)
      (Call.within Stage.deviceAndBus (overProgrammer link (·.readHeatingConfig)))
      (fun _ => Asking board s₀ r D) (GaveUp board s₀ r D) :=
    (program_asking hD (φ := fun _ => True) ((Programmer.readHeatingConfig_sequence h).post
      fun _ _ ht => ⟨trivial, ht⟩)).post fun _ _ hs => hs.2
  refine startHeating_stages hread (fun _ _ => id) (fun s hs => ?started)
    fun _ _ hs _ => hs.gaveUp _
  case started =>
    obtain ⟨hregistry, ⟨hsame, hd⟩, hboard⟩ := hs
    exact ⟨hregistry, ⟨⟨hsame.config, hsame.slave, hsame.zeroOffset⟩, hheating _ hd⟩, hboard⟩

end Asking

/-! The way through a bring-up. -/

section Walk

variable {s₀ : Stage σ μ} {r : Registry} {D : Device → Prop} (h : link.Carries board)

/-- The names are claimed as soon as the name of the board is known, and that may be refused. -/
lemma claimNames_asking :
    Triple (Asking board s₀ r (Named (board s₀.bus))) (claimNames (σ := σ) (μ := μ))
      (fun _ s => ∃ r', r.claim s₀.device.slave.product
          (Programmer.recorded (board s₀.bus)).name = (.ok (), r') ∧
        Asking board s₀ r' (Named (board s₀.bus)) s)
      fun e s => (∃ e', e = .failed e' ∧ r.claim s₀.device.slave.product
          (Programmer.recorded (board s₀.bus)).name = (.error e', s.registry)) ∧
        (board s₀.bus).stores.SameElsewhere (board s.bus).stores := by
  intro s hs
  obtain ⟨rfl, ⟨hsame, hd⟩, hboard⟩ := hs
  rw [claimNames_eq, hsame.slave, hd.2]
  rcases hclaim : s.registry.claim s₀.device.slave.product
    (Programmer.recorded (board s₀.bus)).name with ⟨e | ⟨⟩, r'⟩
  · exact ⟨⟨e, rfl, rfl⟩, hboard.2.elim (.refl _)⟩
  · exact ⟨r', rfl, rfl, ⟨hsame, hd⟩, hboard⟩

/-- A device that may have taken an offset over. -/
structure Restoring (board : σ → Board) (s₀ : Stage σ μ) (r : Registry) (D : Device → Prop)
    (s : Stage σ μ) : Prop where
  registry : s.registry = r
  learned : D s.device
  zeroOffset : s.device.actuator.state.zeroOffset = s₀.device.actuator.state.zeroOffset ∨
    s₀.device.config.appRam = .present ∧
      (board s₀.bus).stores.keptOffset = some s.device.actuator.state.zeroOffset
  stores : (board s₀.bus).stores.SameElsewhere (board s.bus).stores

lemma GaveUp.restoring {e : Stop} {s : Stage σ μ} (hs : GaveUp board s₀ r D e s) :
    Restoring board s₀ r D s :=
  ⟨hs.1, hs.2.1.2, .inl hs.2.1.1.zeroOffset, hs.stores⟩

lemma Asking.restoring {s : Stage σ μ} (hs : Asking board s₀ r D s) :
    Restoring board s₀ r D s :=
  (hs.gaveUp .died).restoring

include h

/-- An offset that is taken over is the one that the board kept in the beginning.  Whatever fails
here is no failure of the bring-up. -/
lemma restoreCalibration_asking (hram : s₀.device.config.appRam = .present)
    (hD : ∀ d m, D d → D { d with mailbox := m })
    (hadopt : ∀ d z, D d → D (adoptOffset z d)) :
    Triple (Asking board s₀ r D) (restoreCalibration link) (fun _ => Restoring board s₀ r D)
      fun e s => (∀ e', e ≠ .failed e') ∧
        (board s₀.bus).stores.SameElsewhere (board s.bus).stores := by
  have hread : Triple (AskingBoard board s₀ D) (readAppRam link)
      (fun o p => (∀ z, o = some z → (board s₀.bus).stores.keptOffset = some z) ∧
        AskingBoard board s₀ D p)
      (LeavingBoard board s₀ D) := by
    refine (read_asking h hD (by decide)).bind fun raw => Triple.lift fun hraw => ?_
    refine Triple.bind (Q := fun u p => UserConfig.decode raw = .ok u ∧ AskingBoard board s₀ D p)
      (.ofExcept (fun u hu p hp => ⟨hu, hp⟩) fun e _ p hp => ⟨hp.1, hp.2.stopped (fun _ => id) _⟩)
      fun u => Triple.lift fun hu => .pure _ fun p hp => ⟨fun z hz => ?_, hp⟩
    have hdecode : UserConfig.decode ((board s₀.bus).stores.localBus.range
      UserConfig.address.toNat UserConfig.size) = .ok u := hraw ▸ hu
    rw [Stores.keptOffset, hdecode]
    exact hz
  refine restoreCalibration_stages (ask_triple hread) (fun _ _ hs => hs.restoring)
    (fun _ hs => hs.2.restoring) (fun z s hs => ?adopted) fun _ _ he hs => ⟨he, hs.stores⟩
  case adopted =>
    exact ⟨hs.2.1, hadopt _ z hs.2.2.1.2, .inr ⟨hram, hs.1 z rfl⟩, hs.2.stores⟩

omit h in
lemma GaveUp.stuck {claim : Bool} {e : Stop} {s : Stage σ μ}
    (hs : GaveUp board s₀ s₀.registry D e s) : Stuck board claim s₀ e s :=
  ⟨hs.stores, fun _ _ => .inl hs.1⟩

/-- The names on the ring when those of the board have been claimed, if they have to be. -/
def Claimed (claim : Bool) (board : σ → Board) (s₀ : Stage σ μ) (r : Registry) : Prop :=
  if claim = true then
    s₀.registry.claim s₀.device.slave.product (Programmer.recorded (board s₀.bus)).name =
      (.ok (), r)
  else r = s₀.registry

/-- The part of a bring-up that a programmed board goes through. -/
lemma bringUpProgrammed_learned
    (hvalid : (Programmer.recorded (board s₀.bus)).verifyCrc = true) (claim : Bool)
    (boardMax : Float) :
    Triple (Asking board s₀ s₀.registry (Knows (board s₀.bus)))
      (bringUpProgrammed link models claim (Programmer.recorded (board s₀.bus)) boardMax)
      (fun _ => Learned board claim s₀) (Stuck board claim s₀) := by
  have hmailbox : ∀ d m, Named (board s₀.bus) d → Named (board s₀.bus) { d with mailbox := m } :=
    fun _ _ hd => ⟨⟨hd.1.configInfo, hd.1.actuatorInfo⟩, hd.2⟩
  have hadopt : ∀ d z, Named (board s₀.bus) d → Named (board s₀.bus) (adoptOffset z d) :=
    fun _ _ hd => ⟨⟨hd.1.configInfo, hd.1.actuatorInfo⟩, hd.2⟩
  have hheating : Triple (Asking board s₀ s₀.registry (Named (board s₀.bus)))
      (startHeating link models) (fun _ => Asking board s₀ s₀.registry (Named (board s₀.bus)))
      (Stuck board claim s₀) :=
    (startHeating_asking h hmailbox fun _ hd =>
      ⟨⟨hd.1.configInfo, hd.1.actuatorInfo⟩, hd.2⟩).stop_mono fun _ _ hs => hs.stuck
  refine bringUpProgrammed_stages (N := Asking board s₀ s₀.registry (Named (board s₀.bus)))
    (M := fun s => ∃ r, Claimed claim board s₀ r ∧ Asking board s₀ r (Named (board s₀.bus)) s)
    (T := fun s => ∃ r, Claimed claim board s₀ r ∧ Restoring board s₀ r (Named (board s₀.bus)) s)
    (fun s hs => ?named) hheating (fun hclaim => ?claimed)
    (fun hclaim s hs => ?unclaimed) ?restored (fun s hs _ => ?plain) fun s hs => ?bounded
  case named =>
    obtain ⟨hregistry, ⟨hsame, hknows⟩, hboard⟩ := hs
    exact ⟨hregistry, ⟨⟨hsame.config, hsame.slave, hsame.zeroOffset⟩,
      ⟨hknows.configInfo, hknows.actuatorInfo⟩, rfl⟩, hboard⟩
  case claimed =>
    refine claimNames_asking.mono (fun _ => id) ?_ ?_
    · rintro _ s ⟨r, hr, hs⟩
      exact ⟨r, by rwa [Claimed, if_pos hclaim], hs⟩
    · rintro _ s ⟨⟨e, rfl, hrefused⟩, hstores⟩
      refine ⟨hstores, fun e' he => .inr ⟨hclaim, ?_⟩⟩
      obtain rfl := Stop.failed.inj he
      exact hrefused
  case unclaimed => exact ⟨_, by rw [Claimed, hclaim, if_neg Bool.false_ne_true], hs⟩
  case restored =>
    rintro s ⟨⟨r, hr, hs⟩, hram⟩
    have hrestored := restoreCalibration_asking (r := r) h (hs.2.1.1.config ▸ hram) hmailbox hadopt
    exact hrestored.mono (fun _ => id) (fun _ t ht => ⟨r, hr, ht⟩)
      (fun e t ht => ⟨ht.2, fun e' he => absurd he (ht.1 e')⟩) s hs
  case plain =>
    obtain ⟨r, hr, hs⟩ := hs
    exact ⟨r, hr, hs.restoring⟩
  case bounded =>
    obtain ⟨r, hr, hs⟩ := hs
    exact ⟨⟨hs.learned.1.configInfo, hs.learned.1.actuatorInfo⟩, hs.zeroOffset, hs.stores,
      by simpa [Claimed, hvalid, hs.registry] using hr⟩

/-- What a bring-up has learned, and how it gets stuck. -/
theorem bringUp_learned (models : Models μ) (s₀ : Stage σ μ) (claim allowUnprogrammed : Bool) :
    Triple (fun s => s = s₀) (bringUp link models claim allowUnprogrammed)
      (fun _ => Learned board claim s₀) (Stuck board claim s₀) := by
  have hconfig : Triple (Asking board s₀ s₀.registry fun _ => True)
      (Call.within Stage.deviceAndBus
        (overChannel link fun c => c.read ConfigInfo.address ConfigInfo.size))
      (fun raw s => raw = (board s₀.bus).localBus.range ConfigInfo.address.toNat ConfigInfo.size ∧
        Asking board s₀ s₀.registry (fun _ => True) s)
      (GaveUp board s₀ s₀.registry fun _ => True) :=
    ask_triple (read_asking h (fun _ _ => id) (by decide))
  have hrecord (config : ConfigInfo) :
      Triple (Asking board s₀ s₀.registry (Configured (board s₀.bus) config))
        (Call.within Stage.deviceAndBus (overProgrammer link (·.readActuatorInfo)))
        (fun info s => info = Programmer.recorded (board s₀.bus) ∧
          Asking board s₀ s₀.registry (Configured (board s₀.bus) config) s)
        (GaveUp board s₀ s₀.registry (Configured (board s₀.bus) config)) :=
    program_asking (fun _ _ hd => ⟨hd.decoded, hd.configInfo⟩)
      (Programmer.readActuatorInfo_sequence h)
  have hwalk : Triple (Asking board s₀ s₀.registry fun _ => True)
      (bringUp link models claim allowUnprogrammed) (fun _ => Learned board claim s₀)
      (Stuck board claim s₀) := by
    refine bringUp_stages
      (C := fun config => Asking board s₀ s₀.registry (Configured (board s₀.bus) config))
      (K := fun _ info s => info = Programmer.recorded (board s₀.bus) ∧
        Asking board s₀ s₀.registry (Knows (board s₀.bus)) s)
      (fun s e hs _ => (hs.gaveUp _).stuck) (hconfig.stop_mono fun _ _ hs => hs.stuck)
      (fun raw config hdecoded s hs => ?decoded) (fun _ e _ s hs => (hs.2.gaveUp _).stuck)
      (fun config => ?record) (fun _ info hinvalid s hs => ?bare)
      (fun _ _ e _ s hs => (hs.2.gaveUp _).stuck) fun config info hvalid => ?programmed
    case decoded =>
      obtain ⟨rfl, hregistry, ⟨hsame, -⟩, hboard⟩ := hs
      exact ⟨hregistry, ⟨⟨hsame.config, hsame.slave, hsame.zeroOffset⟩, hdecoded, rfl⟩, hboard⟩
    case record =>
      refine (hrecord config).mono (fun _ => id) (fun info s hs => ?_) fun _ _ hs => hs.stuck
      obtain ⟨hinfo, hregistry, ⟨hsame, hread⟩, hboard⟩ := hs
      refine ⟨hinfo, hregistry, ⟨⟨hsame.config, hsame.slave, hsame.zeroOffset⟩, ?_, hinfo⟩, hboard⟩
      exact hread.decoded.trans (congrArg Except.ok hread.configInfo.symm)
    case bare =>
      obtain ⟨rfl, hs⟩ := hs
      exact ⟨⟨hs.2.1.2.configInfo, hs.2.1.2.actuatorInfo⟩, .inl hs.2.1.1.zeroOffset, hs.stores,
        by simpa [hinvalid] using hs.1⟩
    case programmed =>
      refine Triple.lift ?_
      rintro rfl
      exact bringUpProgrammed_learned h hvalid claim config.boardMaxCurrent
  refine hwalk.pre ?_
  rintro _ rfl
  exact ⟨rfl, ⟨⟨rfl, rfl, rfl⟩, trivial⟩, .refl (.refl _)⟩

end Walk

/-- What a new driver knows after a bring-up is what the board held in the beginning.  However the
bring-up ends, the chip is as it was, and so is the local bus outside the register of the engine
and the page buffer. -/
theorem bringUp_learns (h : link.Carries board) {config : DeviceConfig} {slave : Slave}
    {heating : Option HeatingSettings} {d : Device} (hcreate : create config slave heating = .ok d)
    {registry : Registry} {w : μ} {bus : σ} {claim allowUnprogrammed : Bool}
    {r : Except Stop Unit} {s : Stage σ μ}
    (hcall : bringUp link models claim allowUnprogrammed ⟨d, registry, w, bus⟩ = (r, s)) :
    (r = .ok () →
      ConfigInfo.decode ((board bus).localBus.range 0x0080 32) = .ok s.device.configInfo ∧
      s.device.actuatorInfo.bytes = ((board bus).pages 4095).bytes.take (board bus).pageSize ++
        Bytes.zeros (264 - (board bus).pageSize) ∧
      (s.device.actuator.state.zeroOffset = d.actuator.state.zeroOffset ∨
        config.appRam = .present ∧
          ∃ u, UserConfig.decode ((board bus).localBus.range 0x00C0 20) = .ok u ∧
            u.version = UserConfig.currentVersion ∧ u.expectedCrc = u.crc ∧
            s.device.actuator.state.zeroOffset = u.zeroOffset)) ∧
    (board s.bus).pages = (board bus).pages ∧
    ∀ i, ¬(0x0230 ≤ i ∧ i < 0x0233) → ¬(0xF400 ≤ i ∧ i < 0xF508) →
      (board s.bus).localBus.get i = (board bus).localBus.get i := by
  have hends := bringUp_learned h models ⟨d, registry, w, bus⟩ claim
    allowUnprogrammed _ rfl
  rw [hcall] at hends
  have hstores : (board bus).stores.SameElsewhere (board s.bus).stores := by
    cases r with
    | ok _ => exact hends.stores
    | error _ => exact hends.stores
  refine ⟨?_, hstores.pages, fun i hregister hbuffer => hstores.bus i ?_ ?_⟩
  · rintro rfl
    obtain rfl := create_ok hcreate
    refine ⟨hends.knows.configInfo, ?_, hends.zeroOffset.imp_right fun hkept => ⟨hkept.1, ?_⟩⟩
    · exact hends.knows.actuatorInfo ▸ Programmer.bytes_recorded (board bus)
    · obtain ⟨u, hu, hversion, hcrc, hoffset⟩ := Stores.valid_record hkept.2
      exact ⟨u, hu, hversion, hcrc, hoffset.symm⟩
  · have haddress : SpiCommand.address.toNat = 0x0230 := rfl
    have hsize : SpiCommand.size = 3 := rfl
    simp only [covers, haddress, hsize, Bool.and_eq_false_iff, decide_eq_false_iff_not]
    omega
  · have haddress : Programmer.bufferAddress.toNat = 0xF400 := rfl
    have hsize : Programmer.pageSize = 264 := rfl
    simp only [covers, haddress, hsize, Bool.and_eq_false_iff, decide_eq_false_iff_not]
    omega

end Device

section Programmed

variable (info : ActuatorInfo) (z : Binary64)

/-- A programmed board is brought up.  Its factory configuration has never been written. -/
lemma Device.bringUp_programmed (hvalid : info.verifyCrc = true)
    (hversion : info.major = 0 ∧ info.minor = 2) :
    ∃ s : Stage Ring StandIns,
      bringUp Ring.link StandIns.models false false ⟨.fresh, {}, {}, ⟨.programmed info z, 0⟩⟩ =
        (.ok (), s) ∧
      s.device.Settled ∧ s.device.actuatorInfo = info ∧ s.device.configInfo = {} ∧
      s.registry = {} := by
  have horder := inOrder_programmed info z hvalid hversion
  obtain ⟨s, hcall, -⟩ := @bringUp_restores _ _ Ring.link Ring.board StandIns.models
    ⟨fresh, {}, {}, ⟨.programmed info z, 0⟩⟩ Ring.carries horder rfl rfl z
    (Stores.keptOffset_programmed info z) false
  have hlearned := (bringUp_learned Ring.carries StandIns.models _ false false).result rfl hcall
  have hsettled := (bringUp_settles fresh.maxCurrent false false).result rfl hcall
  refine ⟨s, hcall, hsettled, ?_, ?_, hlearned.registry⟩
  · exact hlearned.knows.actuatorInfo.trans (Programmer.recorded_programmed info z)
  · have hblank : (Board.programmed info z).localBus.range ConfigInfo.address.toNat
        ConfigInfo.size = Bytes.zeros ConfigInfo.size := by
      have hlen : (UserConfig.make z).encode.length = 20 := UserConfig.length_encode _
      refine ((Memory.blank 0x10000).range_write_of_disjoint ?_ (.inr (by decide))).trans ?_
      · rw [hlen]
        decide
      · refine List.eq_replicate_iff.2 ⟨Memory.length_range _ _ _, fun b hb => ?_⟩
        obtain ⟨i, -, rfl⟩ := List.mem_map.1 hb
        exact Memory.get_blank i
    have hread : ConfigInfo.decode (Bytes.zeros ConfigInfo.size) = .ok s.device.configInfo :=
      hblank ▸ hlearned.knows.configInfo
    exact (Except.ok.inj hread).symm

end Programmed

/-- A board that keeps the offset 0.5. -/
theorem Device.bringUp_learns_kept :
    let info : ActuatorInfo := (ActuatorInfo.blank.setVersion 0 2).generateCrc
    let b : Board := .programmed info ⟨0x3FE0000000000000⟩
    ∃ s : Stage Ring StandIns,
      bringUp Ring.link StandIns.models false false ⟨.fresh, {}, {}, ⟨b, 0⟩⟩ = (.ok (), s) ∧
      s.device.actuatorInfo.bytes = info.bytes ∧
      s.device.actuator.state.zeroOffset = ⟨0x3FE0000000000000⟩ ∧
      s.bus.board.pages = b.pages := by
  intro info b
  have horder : Device.fresh.InOrder b :=
    inOrder_programmed info _ (ActuatorInfo.verifyCrc_generateCrc _) (by decide +kernel)
  have hkept : b.stores.keptOffset = some ⟨0x3FE0000000000000⟩ :=
    Stores.keptOffset_programmed info _
  have hpage : (b.pages 4095).bytes = info.bytes :=
    congrArg Image.bytes (pages_setPage_self ActuatorInfo.page info.image _)
  have hsize : b.pageSize = 264 := rfl
  have hcreate : create fresh.config fresh.slave none = .ok fresh := rfl
  clear_value b info
  obtain ⟨s, hcall, hrestored⟩ := @bringUp_restores _ _ Ring.link Ring.board StandIns.models
    ⟨fresh, {}, {}, ⟨b, 0⟩⟩ Ring.carries horder rfl rfl _ hkept false
  obtain ⟨hlearned, hpages, -⟩ := bringUp_learns Ring.carries hcreate hcall
  obtain ⟨-, hbytes, -⟩ := hlearned rfl
  refine ⟨s, hcall, ?_, hrestored.zeroOffset, hpages⟩
  have hlen : info.bytes.length = 264 := info.image.length_bytes
  rw [hbytes]
  show (b.pages 4095).bytes.take b.pageSize ++ Bytes.zeros (264 - b.pageSize) = _
  rw [hpage, hsize, List.take_of_length_le hlen.le]
  exact List.append_nil _

end MotorBoard
