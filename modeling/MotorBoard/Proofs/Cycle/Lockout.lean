/-
# When a lockout is announced

Behind every frame a machine tells whether a lockout began that was not known before.  It
looks at the flag of the lockout, at the reset of the master, and at the error as it was
before the frame.  A frame that begins a lockout fails for it, and while its error lasts no
other frame can begin one.

The flag, though, is taken from the frames that pass the check for drops, and from no others.
A frame that fails for drops leaves it as it is, so what is looked at then is the flag of an
earlier frame.  Where a lockout was seen while the master was resetting the board, and the
row of drops runs over its limit when the reset is over, an old lockout is announced.

The main results are

* `CycleMachine.verify_inLockout`, `CycleMachine.verify_entered`: one frame;
* `CycleMachine.Run.inLockout`: the flag after a run, which the verdicts tell;
* `CycleMachine.Run.entered_iff`: the frames of a run that announce a lockout.
-/
import MotorBoard.Proofs.Cycle.Drops
import MotorBoard.Proofs.Cycle.Sticky

namespace MotorBoard

/-- Whether the newest frame that did not fail for drops told of a lockout.  The newest frame
comes first. -/
def lockoutSeen : List (StatusFrame × Option CycleFault) → Bool
  | [] => false
  | (status, fault) :: earlier =>
    if fault = some .tooManyDroppedPackets then lockoutSeen earlier
    else Mode.has status.mode Mode.safetyLockout

namespace CycleMachine

/-- Whether a machine announces a lockout behind a frame with a given verdict, where the verdicts
before it are known: there is no error yet, and the frame fails for a lockout, or it fails for
drops while the master is not resetting the board and an earlier frame told of a lockout. -/
def Announces (m : CycleMachine) (earlier : List (StatusFrame × Option CycleFault))
    (fault : Option CycleFault) : Prop :=
  m.hasError = false ∧
    (fault = some .safetyLockout ∨
      fault = some .tooManyDroppedPackets ∧ m.resetting = false ∧ lockoutSeen earlier = true)

/-- Taking note of a frame leaves the flag of the lockout alone. -/
lemma observe_inLockout (status : StatusFrame) (m : CycleMachine) :
    (m.observe status).flags.inLockout = m.flags.inLockout := by
  rw [observe_eq]

/-- The checks do not end the reset of the master. -/
lemma guard_resetting (status : StatusFrame) (m : CycleMachine) :
    (guard status m).2.resetting = m.resetting := by
  rw [guard_eq]

/-- The checks take the flag of the lockout from the frame, unless they end at the drops. -/
lemma guard_inLockout (status : StatusFrame) (m : CycleMachine) :
    (guard status m).2.flags.inLockout =
      if (guard status m).1 = some .tooManyDroppedPackets then m.flags.inLockout
      else Mode.has status.mode Mode.safetyLockout := by
  rw [guard_eq]
  simp only [guard_tooMany]

/-- The checks end at the lockout when they do not end at the drops, and the frame tells of one
that the master is not just resetting. -/
lemma guard_safetyLockout (status : StatusFrame) (m : CycleMachine) :
    (guard status m).1 = some .safetyLockout ↔
      (guard status m).1 ≠ some .tooManyDroppedPackets ∧
        Mode.has status.mode Mode.safetyLockout = true ∧ m.resetting = false := by
  rw [ne_eq, guard_tooMany, ← Bool.not_eq_true', ← Bool.and_eq_true, guard_fault]
  split
  · next hover => simp [hover]
  · next hwithin =>
    split
    · next hlockout => simp [hwithin, hlockout]
    · next hlockout => split <;> simp [hlockout]

section Verify

variable {μ : Type} {status : StatusFrame} {overheated : Bool} {modelOk : μ → Bool × μ}
  {m m' : CycleMachine} {w w' : μ} {fault : Option CycleFault}

/-- What a frame leaves of the flag of the lockout. -/
theorem verify_inLockout (h : m.verify status overheated modelOk w = (fault, m', w')) :
    m'.flags.inLockout =
      if fault = some .tooManyDroppedPackets then m.flags.inLockout
      else Mode.has status.mode Mode.safetyLockout := by
  have hearly := verify_early h (f := .tooManyDroppedPackets) (by decide) (by decide)
  obtain rfl := verify_settles h
  have hsettled : ((guard status (m.observe status)).2.settle status fault).flags =
      (guard status (m.observe status)).2.flags := rfl
  rw [hsettled, guard_inLockout, observe_inLockout]
  simp only [hearly]

/-- A frame announces a lockout when there was no error before it, and either it fails for the
lockout, or it fails for drops while the flag of a lockout is set that the master is not
resetting any more. -/
theorem verify_entered (h : m.verify status overheated modelOk w = (fault, m', w')) :
    m'.lockoutEntered = true ↔ m.hasError = false ∧
      (fault = some .safetyLockout ∨
        fault = some .tooManyDroppedPackets ∧ m.resetting = false ∧ m.flags.inLockout = true) := by
  have hdrops := verify_early h (f := .tooManyDroppedPackets) (by decide) (by decide)
  have hlockout := verify_early h (f := .safetyLockout) (by decide) (by decide)
  rw [guard_safetyLockout, observe_resetting, ne_eq, ← hdrops] at hlockout
  have hflag := verify_inLockout h
  obtain rfl := verify_settles h
  have hentered : ((guard status (m.observe status)).2.settle status fault).lockoutEntered =
      (((guard status (m.observe status)).2.settle status fault).flags.inLockout &&
        !m.resetting && !m.hasError) := by
    rw [settle, guard_resetting, observe_resetting, guard_hasError, observe_hasError]
  rw [hentered, hflag, hlockout]
  by_cases hover : fault = some .tooManyDroppedPackets
  · simp [hover, and_comm]
  · simp [hover, and_comm, and_left_comm]

end Verify

namespace Run

open CycleEvent

variable {limits : CycleLimits} {history : List CycleEvent} {m : CycleMachine}

/-- The flag of the lockout is a memory of the verdicts. -/
theorem inLockout (hr : Run limits history m) :
    m.flags.inLockout = lockoutSeen (verdicts history) := by
  -- no event but a frame touches the flag
  induction hr with
  | fresh => rfl
  | step _ hstep ih =>
    cases hstep with
    | verify hcall =>
      rw [verify_inLockout hcall, ih]
      rfl
    | clear => exact ih
    | setResetting => exact ih
    | recordChecksumError => exact ih
    | accumulateTime => exact ih
    | detectReset => exact ih

/-- A frame announces a lockout as the verdicts of the run before it tell, and with the lockout
it leaves an error, so that no frame behind it announces one before the errors are cleared. -/
theorem entered_iff (hr : Run limits history m) {μ : Type} {status : StatusFrame}
    {overheated : Bool} {modelOk : μ → Bool × μ} {m' : CycleMachine} {w w' : μ}
    {fault : Option CycleFault} (h : m.verify status overheated modelOk w = (fault, m', w')) :
    (m'.lockoutEntered = true ↔ m.Announces (verdicts history) fault) ∧
      (m'.lockoutEntered = true → m'.hasError = true) := by
  have hentered : m'.lockoutEntered = true ↔ m.Announces (verdicts history) fault := by
    rw [verify_entered h, hr.inLockout, Announces]
  refine ⟨hentered, fun hnew => ?_⟩
  rw [(verify_spec h).1]
  obtain ⟨-, rfl | ⟨rfl, -⟩⟩ := hentered.1 hnew <;> exact Bool.or_true _

/-- A lockout is seen while the master is resetting the board.  When the reset is over, the next
frame is a drop too many: it fails for that, and it tells of no lockout, and still one is
announced. -/
theorem entered_without_lockout :
    ∃ (history : List CycleEvent) (m : CycleMachine) (status : StatusFrame),
      Run { maxConsecutiveDrops := 0 } history m ∧ m.hasError = false ∧
        Mode.has status.mode Mode.safetyLockout = false ∧
        (m.pass status).1 = some .tooManyDroppedPackets ∧
        (m.pass status).2.1.lockoutEntered = true := by
  have hreset := (show Run { maxConsecutiveDrops := 0 } [] _ from .fresh).step
    (@Step.setResetting _ true)
  have hseen := (hreset.passed { mode := Mode.safetyLockout, timestamp := 5 }).step
    (@Step.setResetting _ false)
  exact ⟨_, _, { mode := Mode.enable, timestamp := 5 }, hseen, by decide, by decide, by decide,
    by decide⟩

end Run

end CycleMachine

end MotorBoard
