/-
# What becomes of one status frame

A machine takes note of a frame, makes its checks, and settles on the verdict.  The sticky
error and the output depend on the verdict alone, whatever the checks were.

What the machine remembers of drops goes on by itself: it depends on the timestamps of the
frames and on nothing else in them, and neither the verdict nor anything that happens between
two frames has to do with it.  So this part of a machine is set apart as a record with a step
of its own.  The main results are

* `CycleMachine.observe_eq`, `CycleMachine.guard_fault`, `CycleMachine.guard_eq`: all that a
  machine does with a frame before the models are asked;
* `CycleMachine.verify_spec`: the sticky error and the output after a frame;
* `CycleMachine.verify_dropRecord`: what a frame does to the record of drops;
* `CycleMachine.verify_tooMany`: when the verdict is that there were too many of them.
-/
import Mathlib.Tactic.Lemma
import MotorBoard.Cycle.Machine

namespace MotorBoard

/-- What a machine remembers of drops. -/
structure DropRecord where
  /-- More drops in a row are a fault. -/
  limit : UInt32
  seeded : Bool
  /-- The timestamp of the last frame. -/
  last : UInt32
  /-- The timestamp of the frame before the last one. -/
  older : UInt32
  drops : UInt32
  /-- Drops in a row at this moment. -/
  row : UInt32
  /-- The same, as the flags show it. -/
  shownRow : UInt32
  /-- The greatest number of drops in a row. -/
  longestRow : UInt32
  /-- How often a row went over the limit. -/
  storms : UInt32
deriving DecidableEq, Repr

namespace DropRecord

/-- The record of a machine that has seen no frame. -/
def fresh (limit : UInt32) : DropRecord := ⟨limit, false, 0, 0, 0, 0, 0, 0, 0⟩

/-- Whether a frame with this timestamp counts as a drop. -/
def Repeats (r : DropRecord) (timestamp : UInt32) : Prop :=
  r.seeded = true ∧ (timestamp = r.last ∨ timestamp = r.older)

instance (r : DropRecord) (timestamp : UInt32) : Decidable (r.Repeats timestamp) :=
  inferInstanceAs (Decidable (_ ∧ _))

/-- The record when a frame was counted and its timestamp was kept. -/
def observed (timestamp : UInt32) (r : DropRecord) : DropRecord :=
  { r with
    seeded := true
    last := timestamp
    older := r.last
    drops := if r.Repeats timestamp then r.drops + 1 else r.drops
    row := if r.Repeats timestamp then r.row + 1 else if r.seeded then 0 else r.row
    shownRow := if r.Repeats timestamp then r.row + 1 else if r.seeded then 0 else r.shownRow
    longestRow := if r.Repeats timestamp then max r.longestRow (r.row + 1) else r.longestRow }

/-- The record when the drops in a row were compared with the limit. -/
def judged (r : DropRecord) : DropRecord :=
  { r with
    storms := if r.limit < r.row ∧ r.row = r.limit + 1 then r.storms + 1 else r.storms }

/-- The record after a frame. -/
def next (timestamp : UInt32) (r : DropRecord) : DropRecord := (r.observed timestamp).judged

end DropRecord

namespace CycleMachine

/-- What the machine remembers of drops. -/
def dropRecord (m : CycleMachine) : DropRecord where
  limit := m.limits.maxConsecutiveDrops
  seeded := m.seeded
  last := m.lastTimestamp
  older := m.lastLastTimestamp
  drops := m.flags.drops
  row := m.consecutiveDrops
  shownRow := m.flags.consecutiveDrops
  longestRow := m.flags.maxConsecutiveDrops
  storms := m.flags.dropStorms

/-- All that taking note of a frame changes: the record of drops goes on, a jump of the clock is
kept, and so are the temperatures. -/
theorem observe_eq (status : StatusFrame) (m : CycleMachine) : m.observe status =
    { m with
      flags := { m.flags with
        drops := (m.dropRecord.observed status.timestamp).drops
        consecutiveDrops := (m.dropRecord.observed status.timestamp).shownRow
        maxConsecutiveDrops := (m.dropRecord.observed status.timestamp).longestRow
        timestampJumpDetected := m.flags.timestampJumpDetected || m.seeded &&
          Cycle.timestampJump status.timestamp m.lastTimestamp m.limits.timestampJumpLimitUs }
      consecutiveDrops := (m.dropRecord.observed status.timestamp).row
      seeded := true
      lastTimestamp := status.timestamp
      lastLastTimestamp := m.lastTimestamp
      maxBoardTemperature := max m.maxBoardTemperature status.boardTemperature
      maxBridgeTemperature := max m.maxBridgeTemperature status.bridgeTemperature } := by
  cases hseeded : m.seeded with
  | false => simp [observe, dropRecord, DropRecord.observed, DropRecord.Repeats, hseeded]
  | true =>
    by_cases hrepeats : status.timestamp = m.lastTimestamp ∨ status.timestamp = m.lastLastTimestamp
    · simp [observe, trackTimestamp, dropRecord, DropRecord.observed, DropRecord.Repeats, hseeded,
        hrepeats]
    · simp [observe, trackTimestamp, dropRecord, DropRecord.observed, DropRecord.Repeats, hseeded,
        hrepeats]

/-- The checks without a model, in their order. -/
theorem guard_fault (status : StatusFrame) (m : CycleMachine) : (guard status m).1 =
    if m.dropRecord.limit < m.dropRecord.row then some .tooManyDroppedPackets
    else if Mode.has status.mode Mode.safetyLockout && !m.resetting then some .safetyLockout
    else if m.flags.fpgaInternalResetDetected then some .fpgaInternalReset
    else none := by
  have hrow : (m.dropRecord.limit < m.dropRecord.row) =
      (m.limits.maxConsecutiveDrops < m.consecutiveDrops) := rfl
  simp only [guard, hrow]
  split
  · rfl
  · split
    · rfl
    · split <;> rfl

/-- All that they change: three of the flags. -/
theorem guard_eq (status : StatusFrame) (m : CycleMachine) : (guard status m).2 =
    { m with flags := { m.flags with
      tooManyDroppedPackets :=
        m.flags.tooManyDroppedPackets || decide (m.dropRecord.limit < m.dropRecord.row)
      dropStorms := m.dropRecord.judged.storms
      inLockout :=
        if m.dropRecord.limit < m.dropRecord.row then m.flags.inLockout
        else Mode.has status.mode Mode.safetyLockout } } := by
  rw [guard]
  by_cases hlimit : m.limits.maxConsecutiveDrops < m.consecutiveDrops
  · have hover : m.dropRecord.limit < m.dropRecord.row := hlimit
    rw [if_pos hlimit, if_pos hover, decide_eq_true hover, Bool.or_true]
    simp [dropRecord, DropRecord.judged, hlimit]
  · have hwithin : ¬ m.dropRecord.limit < m.dropRecord.row := hlimit
    have hstorms : m.dropRecord.judged.storms = m.flags.dropStorms := if_neg fun h => hlimit h.1
    rw [if_neg hlimit, if_neg hwithin, decide_eq_false hwithin, Bool.or_false, hstorms]
    dsimp only
    split
    · rfl
    · split <;> rfl

/-- Taking note of a frame leaves the sticky error alone. -/
lemma observe_hasError (status : StatusFrame) (m : CycleMachine) :
    (m.observe status).hasError = m.hasError := by
  rw [observe_eq]

/-- The checks without a model change no more than the flags. -/
lemma guard_hasError (status : StatusFrame) (m : CycleMachine) :
    (guard status m).2.hasError = m.hasError := by
  rw [guard_eq]

/-- However a frame is judged, the machine settles on the verdict that is given. -/
lemma verify_settles {μ : Type} {status : StatusFrame} {overheated : Bool}
    {modelOk : μ → Bool × μ} {m m' : CycleMachine} {w w' : μ} {fault : Option CycleFault}
    (h : m.verify status overheated modelOk w = (fault, m', w')) :
    m' = (guard status (m.observe status)).2.settle status fault := by
  rw [verify] at h
  cases h
  rfl

/-- The sticky error is set by every fault and by nothing else, and the output is off exactly
when there is an error or the board is off. -/
theorem verify_spec {μ : Type} {status : StatusFrame} {overheated : Bool}
    {modelOk : μ → Bool × μ} {m m' : CycleMachine} {w w' : μ} {fault : Option CycleFault}
    (h : m.verify status overheated modelOk w = (fault, m', w')) :
    m'.hasError = (m.hasError || fault.isSome) ∧
      m'.halted = (m'.hasError || status.mode == Mode.off) := by
  obtain rfl := verify_settles h
  have hsame : (guard status (m.observe status)).2.hasError = m.hasError :=
    (guard_hasError _ _).trans (observe_hasError _ _)
  constructor
  · rw [settle, hsame]
  · rfl

/-! Drops. -/

/-- The check for drops comes first. -/
lemma guard_tooMany (status : StatusFrame) (m : CycleMachine) :
    (guard status m).1 = some .tooManyDroppedPackets ↔ m.dropRecord.limit < m.dropRecord.row := by
  rw [guard_fault]
  split
  · next hover => exact iff_of_true rfl hover
  · next hwithin =>
    refine iff_of_false ?_ hwithin
    split
    · decide
    · split <;> decide

/-- The checks count a storm in the frame that goes over the limit. -/
lemma guard_dropRecord (status : StatusFrame) (m : CycleMachine) :
    (guard status m).2.dropRecord = m.dropRecord.judged := by
  rw [guard_eq]
  rfl

/-- Before the checks a frame is counted and its timestamp is kept. -/
lemma observe_dropRecord (status : StatusFrame) (m : CycleMachine) :
    (m.observe status).dropRecord = m.dropRecord.observed status.timestamp := by
  rw [observe_eq]
  rfl

section Verify

variable {μ : Type} {status : StatusFrame} {overheated : Bool} {modelOk : μ → Bool × μ}
  {m m' : CycleMachine} {w w' : μ} {fault : Option CycleFault}

/-- The record of drops goes on by the timestamp of the frame. -/
theorem verify_dropRecord (h : m.verify status overheated modelOk w = (fault, m', w')) :
    m'.dropRecord = m.dropRecord.next status.timestamp := by
  obtain rfl := verify_settles h
  have hsettled : ((guard status (m.observe status)).2.settle status fault).dropRecord =
      (guard status (m.observe status)).2.dropRecord := rfl
  rw [hsettled, guard_dropRecord, observe_dropRecord, DropRecord.next]

/-- The verdict of the checks without a model stands, whatever the models say. -/
lemma verify_early (h : m.verify status overheated modelOk w = (fault, m', w')) {f : CycleFault}
    (hmodel : f ≠ .motorModel) (hhot : f ≠ .motorOverheated) :
    fault = some f ↔ (guard status (m.observe status)).1 = some f := by
  rw [verify] at h
  revert h
  rcases guard status (m.observe status) with ⟨_ | early, m₁⟩
  · -- the checks have passed, and what comes after them is a matter of the models
    rcases modelOk w with ⟨_ | _, w₁⟩
    · rintro ⟨⟩
      simp [hmodel.symm]
    · rintro ⟨⟩
      cases overheated <;> simp [hhot.symm]
  · rintro ⟨⟩
    simp

/-- The verdict is that there were too many drops exactly when those in a row, this frame
included, are more than the limit. -/
theorem verify_tooMany (h : m.verify status overheated modelOk w = (fault, m', w')) :
    fault = some .tooManyDroppedPackets ↔ m'.dropRecord.limit < m'.dropRecord.row := by
  have hguard := guard_tooMany status (m.observe status)
  rw [verify_dropRecord h, DropRecord.next, ← observe_dropRecord]
  exact (verify_early h (by decide) (by decide)).trans hguard

end Verify

end CycleMachine

end MotorBoard
