/-
# Collecting from a board

Beside the cycle, somebody with more time reads the safety counts of a board now and
then, and writes a changed calibration offset to it.  A single frame finds out first
whether the board is there at all.  Whatever goes wrong, the store says afterwards
whether the last collection can be trusted.
-/
import MotorBoard.Device.Basic
import MotorBoard.Record.UserConfig

namespace MotorBoard

namespace Device

variable {σ : Type}

/-- The mailbox of a device and the bus, as a part of device and bus. -/
def mailboxAndBus : Part (Device × σ) (Mailbox × σ) where
  get s := (s.1.mailbox, s.2)
  put m s := ({ s.1 with mailbox := m.1 }, m.2)

/-- The bus, as a part of device and bus. -/
def busOnly : Part (Device × σ) σ := .second

/-- Changes the store. -/
def changeStore {α : Type} (f : CollectedStore → α × CollectedStore) :
    Call (Device × σ) α :=
  Call.update fun s =>
    let (a, store) := f s.1.store
    (a, { s.1 with store := store }, s.2)

/-- Runs a call that needs a device's channel. -/
def overChannel {α : Type} (link : Link σ) (m : Channel σ → Call (Mailbox × σ) α) :
    Call (Device × σ) α := do
  let s ← Call.get
  Call.within mailboxAndBus (m (s.1.channel link))

/-- Runs a call of the programmer of a device's memory chip. -/
def overProgrammer {α : Type} (link : Link σ)
    (m : Programmer (Mailbox × σ) → Call (Mailbox × σ) α) : Call (Device × σ) α := do
  let s ← Call.get
  Call.within mailboxAndBus (m ⟨(s.1.channel link).transport, s.1.config.eeprom⟩)

/-- The offset that the board keeps, if its record is valid. -/
def readAppRam (link : Link σ) : Call (Device × σ) (Option Binary64) := do
  let raw ← overChannel link fun c => c.read UserConfig.address UserConfig.size
  let record ← Call.ofExcept (UserConfig.decode raw)
  return record.validZeroOffset

/-- Writes an offset to the board. -/
def writeAppRam (link : Link σ) (zeroOffset : Binary64) : Call (Device × σ) Unit :=
  overChannel link fun c => c.write UserConfig.address (UserConfig.make zeroOffset).encode

/-- Reads the first byte of the board's memory with a single frame. -/
def probe (link : Link σ) : Call (Device × σ) Unit := do
  let s ← Call.get
  let d ← Call.within busOnly (link.sendOnce [.read .station s.1.slave.station 0 1])
  if !d.returned then Call.fail (.packetLoss "presence probe not answered")
  else if d.counter 0 ≠ 1 then
    Call.fail (.workingCounter "device did not answer presence probe")
  else return ()

/-- Writes the offset that waits in the store to the board.  When that fails, or the store
cannot be had, it goes on waiting. -/
def syncZeroOffset (link : Link σ) : Call (Device × σ) Unit := do
  match ← changeStore Guarded.snapshot with
  | .error _ => return ()
  | .ok c =>
    if c.offsetPending then
      match ← Call.attempt (writeAppRam link c.zeroOffset) with
      | .error _ => return ()
      | .ok () =>
        let _ ← changeStore (Guarded.update fun now =>
          ((), { now with cachedZeroOffset := c.zeroOffset }))
        return ()
    else return ()

/-- Reads what a collection needs, and brings the board's offset up to date. -/
def gather (link : Link σ) : Call (Device × σ) (SafetyStatus × DiagnosticsInfo) := do
  probe link
  let raw ← overChannel link fun c => c.read SafetyStatus.address SafetyStatus.size
  let status ← Call.ofExcept (SafetyStatus.decode raw)
  let raw ← overChannel link fun c => c.read DiagnosticsInfo.address DiagnosticsInfo.size
  let info ← Call.ofExcept (DiagnosticsInfo.decode raw)
  let s ← Call.get
  if s.1.config.appRam = .present then syncZeroOffset link
  return (status, info)

/-- Takes the outcome of a collection into the store.  A store that was poisoned fails the
collection, but is marked all the same. -/
def conclude (result : Except Error (SafetyStatus × DiagnosticsInfo)) (store : CollectedStore) :
    Except Error Unit × CollectedStore :=
  let taken (c : Collected) : Collected :=
    match result with
    | .ok (status, info) => (c.mark true).update status info
    | .error _ => c.mark false
  match store.update fun c => ((), taken c) with
  | (.ok (), store) => (result.map fun _ => (), store)
  | (.error e, store) => (.error e, (store.update fun c => ((), c.mark false)).2)

/-- Collects from a board. -/
def collect (link : Link σ) : Call (Device × σ) Unit := do
  let result ← Call.attempt (gather link)
  Call.ofExcept (← changeStore (conclude result))

end Device

end MotorBoard
