/-
# The state of a board from cycle to cycle

Each status frame is checked against the ones before it.  A board that repeats a
timestamp has dropped a frame; too many in a row are a fault.  So are a safety lockout
that the master is not just resetting, a reset of the board's logic, a motor that does
not follow its model, and a motor that is too hot.  A fault sets a sticky error, which
switches the output off until the errors are cleared.

The clock of a board counts microseconds in 32 bits and its encoder counts ticks in 32 bits,
and both go around.  Differences are therefore taken modulo the width and read as signed
numbers.

The flags and counters of `CycleFlags` are those that a report shows.
-/
import MotorBoard.ProcessData.Status

namespace MotorBoard

namespace Cycle

/-- The time from an older timestamp to a newer one, in microseconds; negative when the
clock went back. -/
def timestampDiff (new old : UInt32) : Int32 := (new - old).toInt32

/-- The way from an older encoder count to a newer one. -/
def positionDiff (new old : Int32) : Int32 := new - old

/-- Whether the clock went back, or forward by more than a limit. -/
def timestampJump (new old limit : UInt32) : Bool := limit < new - old

/-- The time from an older timestamp to a newer one, in seconds. -/
def seconds (new old : UInt32) : Float := (timestampDiff new old).toFloat * 1e-6

/-- Encoder ticks in a second between two samples; zero when no time has passed. -/
def encoderVelocity (newPosition : Int32) (newTimestamp : UInt32) (oldPosition : Int32)
    (oldTimestamp : UInt32) : Float :=
  let dt := seconds newTimestamp oldTimestamp
  if dt == 0.0 then 0.0 else (positionDiff newPosition oldPosition).toFloat / dt

/-- How much a counter of eight bits has grown between two samples. -/
def counterDelta (new old : UInt8) : UInt32 := (new - old).toUInt32

end Cycle

/-- The limits of the checks. -/
structure CycleLimits where
  /-- More repeated frames in a row are a fault. -/
  maxConsecutiveDrops : UInt32 := 10
  /-- A greater step of the clock is a jump, in microseconds. -/
  timestampJumpLimitUs : UInt32 := 10000000
deriving DecidableEq, Repr

namespace CycleLimits

/-- Limits that make no sense are refused. -/
def validate (l : CycleLimits) : Except Error Unit :=
  if l.timestampJumpLimitUs = 0 then
    .error (.invalidParameter "timestamp jump limit must be non-zero")
  else .ok ()

end CycleLimits

/-- Why a cycle failed. -/
inductive CycleFault where
  | tooManyDroppedPackets
  | statusChecksum
  | safetyLockout
  | fpgaInternalReset
  | motorModel
  | motorOverheated
deriving DecidableEq, Repr

namespace CycleFault

/-- The name of a fault. -/
def name : CycleFault → String
  | tooManyDroppedPackets => "TooManyDroppedPackets"
  | statusChecksum => "StatusChecksum"
  | safetyLockout => "SafetyLockout"
  | fpgaInternalReset => "FpgaInternalReset"
  | motorModel => "MotorModel"
  | motorOverheated => "MotorOverheated"

/-- The text that tells a reader why. -/
def message : CycleFault → String
  | tooManyDroppedPackets => "too many dropped packets"
  | statusChecksum => "status checksum error"
  | safetyLockout => "safety lockout"
  | fpgaInternalReset => "FPGA internal reset"
  | motorModel => "motor model"
  | motorOverheated => "motor overheated"

end CycleFault

/-- What a report shows of the cycles so far. -/
structure CycleFlags where
  /-- Repeated frames in all. -/
  drops : UInt32 := 0
  /-- Repeated frames in a row at this moment. -/
  consecutiveDrops : UInt32 := 0
  /-- The greatest number of repeated frames in a row. -/
  maxConsecutiveDrops : UInt32 := 0
  /-- How often a row of repeated frames went over the limit. -/
  dropStorms : UInt32 := 0
  inLockout : Bool := false
  tooManyDroppedPackets : Bool := false
  statusChecksumError : Bool := false
  timestampJumpDetected : Bool := false
  fpgaInternalResetDetected : Bool := false
deriving DecidableEq, Repr

namespace CycleFlags

/-- The flags with the sticky ones cleared; counters and the lockout flag stay. -/
def clearSticky (f : CycleFlags) : CycleFlags :=
  { f with
    tooManyDroppedPackets := false
    statusChecksumError := false
    timestampJumpDetected := false
    fpgaInternalResetDetected := false }

end CycleFlags

/-- The state of one board across cycles. -/
structure CycleMachine where
  limits : CycleLimits := {}
  flags : CycleFlags := {}
  /-- Whether a frame was verified before. -/
  seeded : Bool := false
  /-- The timestamp of the last frame. -/
  lastTimestamp : UInt32 := 0
  /-- The timestamp of the frame before the last one. -/
  lastLastTimestamp : UInt32 := 0
  /-- Repeated frames in a row at this moment; the flags show a copy. -/
  consecutiveDrops : UInt32 := 0
  /-- Seconds since the first frame. -/
  sampleTime : Float := 0.0
  /-- Whether the master is resetting the board. -/
  resetting : Bool := false
  /-- The sticky error. -/
  hasError : Bool := false
  /-- Whether the output is off. -/
  halted : Bool := true
  /-- Whether the last frame began a lockout that was not known before. -/
  lockoutEntered : Bool := false
  maxBoardTemperature : UInt16 := 0
  maxBridgeTemperature : UInt16 := 0

namespace CycleMachine

/-- Clears the sticky error and flags. -/
def clearErrorFlags (m : CycleMachine) : CycleMachine :=
  { m with hasError := false, flags := m.flags.clearSticky }

/-- Adds the time between two frames to the sample clock and gives its reading.  Before
the first frame was verified the clock stands still. -/
def accumulateTime (this prev : UInt32) (m : CycleMachine) : Float × CycleMachine :=
  let t := if m.seeded then m.sampleTime + Cycle.seconds this prev else m.sampleTime
  (t, { m with sampleTime := t })

/-- Seconds between two frames; zero before the first frame was verified. -/
def cycleDuration (this prev : UInt32) (m : CycleMachine) : Float :=
  if m.seeded then Cycle.seconds this prev else 0.0

/-- Records a frame that could not be read. -/
def recordChecksumError (m : CycleMachine) : CycleMachine :=
  { m with
    flags := { m.flags with statusChecksumError := true }
    hasError := true
    halted := true
    lockoutEntered := false }

/-- Compares the timestamp of a frame with those before. -/
def trackTimestamp (timestamp : UInt32) (m : CycleMachine) : CycleMachine :=
  let m :=
    if timestamp = m.lastTimestamp ∨ timestamp = m.lastLastTimestamp then
      let n := m.consecutiveDrops + 1
      { m with
        consecutiveDrops := n
        flags := { m.flags with
          drops := m.flags.drops + 1
          maxConsecutiveDrops := max m.flags.maxConsecutiveDrops n } }
    else { m with consecutiveDrops := 0 }
  { m with
    flags := { m.flags with
      consecutiveDrops := m.consecutiveDrops
      timestampJumpDetected := m.flags.timestampJumpDetected ||
        Cycle.timestampJump timestamp m.lastTimestamp m.limits.timestampJumpLimitUs } }

/-- Takes note of a frame: the greatest temperatures, drops and jumps, and the timestamp
itself.  There is nothing to compare the first frame with. -/
def observe (status : StatusFrame) (m : CycleMachine) : CycleMachine :=
  let m := if m.seeded then m.trackTimestamp status.timestamp else m
  { m with
    maxBoardTemperature := max m.maxBoardTemperature status.boardTemperature
    maxBridgeTemperature := max m.maxBridgeTemperature status.bridgeTemperature
    seeded := true
    lastLastTimestamp := m.lastTimestamp
    lastTimestamp := status.timestamp }

/-- The checks that need no model, in their order: the drops, the lockout, the reset of
the board's logic. -/
def guard (status : StatusFrame) (m : CycleMachine) : Option CycleFault × CycleMachine :=
  let limit := m.limits.maxConsecutiveDrops
  let n := m.consecutiveDrops
  if limit < n then
    (some .tooManyDroppedPackets,
      { m with flags := { m.flags with
          tooManyDroppedPackets := true
          dropStorms := if n = limit + 1 then m.flags.dropStorms + 1 else m.flags.dropStorms } })
  else
    let lockout := Mode.has status.mode Mode.safetyLockout
    let m := { m with flags := { m.flags with inLockout := lockout } }
    if lockout && !m.resetting then (some .safetyLockout, m)
    else if m.flags.fpgaInternalResetDetected then (some .fpgaInternalReset, m)
    else (none, m)

/-- The machine after a frame with a given outcome: whether a lockout began, the sticky
error, and whether the output is off. -/
def settle (status : StatusFrame) (fault : Option CycleFault) (m : CycleMachine) :
    CycleMachine :=
  let hasError := m.hasError || fault.isSome
  { m with
    lockoutEntered := m.flags.inLockout && !m.resetting && !m.hasError
    hasError := hasError
    halted := hasError || status.mode == Mode.off }

/-- Verifies a frame.  An overheated motor fails the cycle but stops no other check, and
the model is asked only when every check before it has passed. -/
def verify {μ : Type} (status : StatusFrame) (overheated : Bool) (modelOk : μ → Bool × μ)
    (m : CycleMachine) (w : μ) : Option CycleFault × CycleMachine × μ :=
  let (early, m) := guard status (m.observe status)
  let (fault, w) : Option CycleFault × μ :=
    match early with
    | some f => (some f, w)
    | none =>
      match modelOk w with
      | (true, w) => (none, w)
      | (false, w) => (some .motorModel, w)
  let fault := fault <|> if overheated then some .motorOverheated else none
  (fault, m.settle status fault, w)

end CycleMachine

end MotorBoard
