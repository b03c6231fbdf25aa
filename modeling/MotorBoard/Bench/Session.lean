/-
# A session on the bench

On the bench there is a slave, its simulated board on a tapped ring, a mailbox, the names
that are claimed, the stand-in models, and perhaps a device with its monitor.  A session
is all of this, and each of its steps is a call that changes it.  A step that needs a
device dies without one.
-/
import MotorBoard.Bench.StandIn
import MotorBoard.Bench.Tap
import MotorBoard.Device.BringUp
import MotorBoard.Device.Monitor

namespace MotorBoard

/-- All that stands on the bench. -/
structure Session where
  slave : Slave
  /-- The limits of the session's own mailbox. -/
  limits : MailboxLimits := {}
  /-- The session's own mailbox. -/
  mailbox : Mailbox := Mailbox.fresh
  bench : Bench
  registry : Registry := {}
  standIns : StandIns := {}
  device : Option Device := none
  /-- Whether the device works with the slave of the session. -/
  sharesSlave : Bool := false
  monitor : Option Monitor := none
  /-- The status frame that was unpacked last. -/
  lastFrame : Bytes := Bytes.zeros StatusFrame.size

namespace Session

variable {α : Type}

/-- A session with the board of a slave. -/
def start (slave : Slave) (limits : MailboxLimits) (recording : Bool) : Session where
  slave := slave
  limits := limits
  bench :=
    { ring := { board := { station := slave.station, position := slave.position } }
      recording := recording }

/-- The session at the beginning of a step. -/
def beginStep (edits : List Edit) (s : Session) : Session :=
  { s with bench := s.bench.beginStep edits, standIns := { s.standIns with calls := [] } }

/-- The bus, as a part of the session. -/
def bus : Part Session Bench where
  get := bench
  put b s := { s with bench := b }

/-- The session's mailbox and the bus, as a part of the session. -/
def mailboxAndBus : Part Session (Mailbox × Bench) where
  get s := (s.mailbox, s.bench)
  put p s := { s with mailbox := p.1, bench := p.2 }

/-! ## The board -/

/-- Changes the board. -/
def changeBoard (f : Board → Board) : Call Session Unit :=
  Call.modify fun s => { s with bench := s.bench.changeBoard f }

/-- Changes the board in a way that it may not survive. -/
def changeBoard? (f : Board → Option Board) : Call Session Unit := do
  match f (← Call.get).bench.ring.board with
  | some b => changeBoard fun _ => b
  | none => Call.stop .died

/-- Reads the board's local bus from outside. -/
def peek (address : UInt16) (length : Nat) : Call Session Bytes := do
  match (← Call.get).bench.ring.board.peek? address length with
  | some b => return b
  | none => Call.stop .died

/-- Puts a fault into the board's queue a number of times. -/
def inject (trigger : Trigger) (fault : Fault) (times : Nat) : Call Session Unit :=
  changeBoard (Board.inject trigger fault times)

/-- Brings the slave into another state; a device that works with it sees that. -/
def setState (state : BusState) : Call Session Unit :=
  Call.modify fun s =>
    { s with
      slave := { s.slave with state := state }
      device := s.device.map fun d =>
        if s.sharesSlave then { d with slave := { d.slave with state := state } } else d }

/-! ## The bus -/

/-- Sends a frame, once or as often as the plain reads and writes do. -/
def send (retry : Bool) (telegrams : List Telegram) : Call Session Delivery :=
  Call.within bus (if retry then Bench.link.send telegrams Link.plainAttempts else single)
where
  /-- A single exchange.  A lost frame is given back as it is. -/
  single : Call Bench Delivery := fun b =>
    match Bench.link.exchange telegrams b with
    | (.returned ts, b) => (.ok ⟨true, ts, 1⟩, b)
    | (.lost ts, b) => (.ok ⟨false, ts, 1⟩, b)
    | (.died, b) => (.error .died, b)

/-- The address of a slave. -/
def addressOf (s : Slave) : Addressing → UInt16
  | .station => s.station
  | .position => s.position

/-- Reads the slave's memory. -/
def readMemory (addressing : Addressing) (address : UInt16) (length : Nat) :
    Call Session Bytes := do
  let slave := addressOf (← Call.get).slave addressing
  Call.within bus (Bench.link.readMemory addressing slave address length)

/-- Writes the slave's memory. -/
def writeMemory (addressing : Addressing) (address : UInt16) (data : Bytes) :
    Call Session Unit := do
  let slave := addressOf (← Call.get).slave addressing
  Call.within bus (Bench.link.writeMemory addressing slave address data)

/-- Reads a sync manager of the slave. -/
def readSyncManager (num : UInt8) : Call Session SyncManager := do
  Call.within bus (SyncManager.read Bench.link (← Call.get).slave num)

/-- Turns the request bit of a sync manager over. -/
def toggleRequest (num : UInt8) : Call Session Unit := do
  let sm ← readSyncManager num
  Call.within bus (sm.toggleRequest.writeActivate Bench.link (← Call.get).slave num)

/-! ## The session's own mailbox -/

/-- Runs a call that needs the session's own channel. -/
def onMailbox (m : Channel Bench → Call (Mailbox × Bench) α) : Call Session α := do
  let s ← Call.get
  Call.within mailboxAndBus (m ⟨Bench.link, s.slave, s.limits⟩)

/-- The counters of a mailbox. -/
def mailboxCounters : Call (Mailbox × Bench) MailboxCounters := fun s =>
  let (r, mailbox) := s.1.counters
  (r.mapError .failed, mailbox, s.2)

/-! ## The device -/

/-- The device. -/
def theDevice : Call Session Device := do
  match (← Call.get).device with
  | some d => return d
  | none => Call.stop .died

/-- Replaces the device. -/
def setDevice (d : Device) : Call Session Unit := Call.modify fun s => { s with device := some d }

/-- Runs a call on device and bus. -/
def onDevice (m : Call (Device × Bench) α) : Call Session α := fun s =>
  match s.device with
  | some d =>
    let (r, d, bench) := m (d, s.bench)
    (r, { s with device := some d, bench := bench })
  | none => (.error .died, s)

/-- Changes the device and the models. -/
def onModels (f : Device → StandIns → α × Device × StandIns) : Call Session α := do
  let d ← theDevice
  Call.update fun s =>
    let (a, d, standIns) := f d s.standIns
    (a, { s with device := some d, standIns := standIns })

/-- Makes a new device, for the session's slave or one of its own. -/
def createDevice (config : DeviceConfig) (own : Option Slave)
    (heating : Option HeatingSettings) : Call Session Device := do
  let s ← Call.get
  let d ← Call.ofExcept (Device.create config (own.getD s.slave) heating)
  Call.set { s with
    device := some d
    sharesSlave := own.isNone
    monitor := none
    lastFrame := Bytes.zeros StatusFrame.size }
  return d

/-- Brings the device up. -/
def bringUp (claim allowUnprogrammed : Bool) : Call Session Unit := fun s =>
  match s.device with
  | some d =>
    let (r, stage) := Device.bringUp Bench.link StandIns.models claim allowUnprogrammed
      ⟨d, s.registry, s.standIns, s.bench⟩
    (r, { s with
      device := some stage.device
      registry := stage.registry
      standIns := stage.world
      bench := stage.bus })
  | none => (.error .died, s)

/-- Attaches the electrical model. -/
def attachMotorModel : Call Session Unit := do
  let d ← theDevice
  let result ← Call.update fun s =>
    let (r, d, registry) := d.attachMotorModel s.registry
    (r, { s with device := some d, registry := registry })
  Call.ofExcept result

/-- Packs the command of a cycle. -/
def pack (halt reset : Bool) : Call Session Bytes :=
  onModels (Device.pack StandIns.models halt reset)

/-- Unpacks a status frame next to a previous one, which is the one unpacked last unless it
is given. -/
def unpack (this : Bytes) (prev : Option Bytes) : Call Session (Option CycleFault) := do
  let prev := prev.getD (← Call.get).lastFrame
  let fault ← onModels (Device.unpack StandIns.models this prev)
  Call.modify fun s => { s with lastFrame := this }
  return fault

/-- Clears the sticky errors. -/
def clearErrors : Call Session Unit :=
  onModels fun d w => ((), d.clearErrorFlags StandIns.models w)

/-- Asks for a motor trace. -/
def publishTrace (reason : String) (level : UInt8) (delay : UInt32) : Call Session Bool :=
  onModels fun d w =>
    let (asked, w) := d.publishTrace StandIns.models reason level delay w
    (asked, d, w)

/-! ## The monitor -/

/-- Makes a monitor and keeps it. -/
def watch : Call Session Unit := do
  let d ← theDevice
  Call.modify fun s => { s with monitor := some (Monitor.ofDevice d) }

/-- A report of the monitor that was kept, or else of one made for this report. -/
def publish : Call Session Report := do
  let d ← theDevice
  Call.update fun s =>
    let (report, m, d) := (s.monitor.getD (Monitor.ofDevice d)).publish d
    (report, { s with device := some d, monitor := s.monitor.map fun _ => m })

end Session

end MotorBoard
