/-
# Reporting on a board

A monitor turns what is known of a board into reports.  It never waits for the store: as
long as that cannot be had, it shows its last copy again.  A jump of the clock together
with a disable that came with the operation of the board tells it that the board's logic
was reset, and it raises the flag that fails the next cycles.
-/
import MotorBoard.Device.Basic
import MotorBoard.Diagnostics.Report

namespace MotorBoard

/-- What a monitor keeps of a board. -/
structure Monitor where
  name : String
  hardwareId : String
  product : UInt32
  boardMajor : UInt8
  currentScale : Float
  /-- The last copy of the store. -/
  published : Collected := {}
  /-- The last copy of the mailbox counters. -/
  mailbox : MailboxCounters := {}

namespace Monitor

/-- The identity in reports: the product in two parts and the serial number. -/
def identity (c : ConfigInfo) : String :=
  let product := c.productId.toNat
  toString (product / 100000) ++ "-" ++ Text.decimal 5 (product % 100000) ++ "-"
    ++ Text.decimal 5 c.serialNumber.toNat

/-- A monitor of a device as it is now. -/
def ofDevice (d : Device) : Monitor where
  name := s!"EtherCAT Device ({d.actuator.name})"
  hardwareId := identity d.configInfo
  product := d.slave.product
  boardMajor := d.slave.revision.boardMajor
  currentScale := d.currentScale

/-- The first boards measure the current into the bridge alone. -/
def bridgeScale : Float := (1.0 / (8152.0 * 0.851)) * 4.0

/-- Later boards measure the current into the whole board. -/
def supplyScale : Float := (82.0 * 2.5) / (0.01 * 5100.0 * 32768.0)

/-- What a report says about a lockout. -/
def lockoutMessage (held : UInt8) : String :=
  let causes := held &&& ~~~SafetyCause.disabled
  if causes = 0 then "Safety Lockout" else "Safety Lockout: " ++ SafetyCause.describe causes

/-- Whether the board's logic was reset. -/
def infersReset (cycle : CycleFlags) (held : UInt8) : Bool :=
  cycle.timestampJumpDetected && Mode.has held SafetyCause.operational

/-- The conditions of a board, in the order of a report. -/
def conditions (cycle : CycleFlags) (c : Collected) : List Condition :=
  let held := c.status.held
  [⟨cycle.tooManyDroppedPackets, .error, "Too many dropped packets"⟩,
    ⟨cycle.statusChecksumError, .error, "Checksum error on status data"⟩,
    ⟨c.first, .warn, "Have not yet collected WG0X diagnostics"⟩,
    ⟨!c.first && !c.valid, .warn, "Could not collect WG0X diagnostics"⟩,
    ⟨cycle.inLockout, .error, lockoutMessage held⟩,
    ⟨cycle.fpgaInternalResetDetected || infersReset cycle held, .error,
      "FPGA internal reset detected"⟩,
    ⟨cycle.timestampJumpDetected, .warn, "Timestamp jumped"⟩]

/-- The copies that a monitor can take now; taking them may clear the poison of a lock. -/
def refresh (m : Monitor) (d : Device) : Monitor × Device :=
  let (counters, mailbox) := d.mailbox.counters
  let published :=
    match d.store.lock with
    | .free => d.store.value
    | _ => m.published
  ({ m with
      mailbox := match counters with
        | .ok c => c
        | .error _ => m.mailbox
      published := published },
    { d with mailbox := mailbox, store := (d.store.tryUpdate id).2 })

/-- The report of a monitor about the flags of a board, from its copies. -/
def report (m : Monitor) (before after : CycleFlags) : Report :=
  let info := m.published.info
  let supply := info.supplyCurrentIn.toFloat
  let early := m.product == Product.wg005 && m.boardMajor == 1
  { name := m.name
    hardwareId := m.hardwareId
    summary := .ofConditions (conditions before m.published)
    mailbox := m.mailbox
    collected := m.published
    cycle := after
    supplyCurrent :=
      if !early && (m.product == Product.wg005 || m.product == Product.wg021) then
        some (supply * supplyScale)
      else none
    bridgeSupplyCurrent := if early then some (supply * bridgeScale) else none
    configuredOffsetA := m.currentScale * info.offsetCurrentA.toFloat
    configuredOffsetB := m.currentScale * info.offsetCurrentB.toFloat }

/-- Builds a report and raises the flag of a reset when it infers one. -/
def publish (m : Monitor) (d : Device) : Report × Monitor × Device :=
  let (m, d) := m.refresh d
  let before := d.cycle.flags
  let after :=
    if infersReset before m.published.status.held then
      { before with fpgaInternalResetDetected := true }
    else before
  (m.report before after, m, { d with cycle := { d.cycle with flags := after } })

end Monitor

end MotorBoard
