/-
# What a frame makes of the sticky flags

The flags of faults stay set until the errors are cleared.  Three of them fail the cycle when
they are set: too many drops, a frame that could not be read, and a reset of the board's logic.
The last one is raised by a report and not by a frame, which only looks at it, and while it is
set every frame fails.

Behind a reset the flags are clear, and a frame with a timestamp of its own does not set them
again, whatever it tells about a lockout.  The main results are

* `CycleMachine.verify_reset`, `CycleMachine.verify_flagged`: the flag of a reset of the board's
  logic;
* `CycleMachine.verify_clean`: a frame behind a reset of the master.
-/
import MotorBoard.Proofs.Cycle.Verdict

namespace MotorBoard

/-- Flags that tell of no fault.  They may tell of a lockout or of a jump of the clock. -/
structure CycleFlags.Clean (f : CycleFlags) : Prop where
  tooMany : f.tooManyDroppedPackets = false
  checksum : f.statusChecksumError = false
  reset : f.fpgaInternalResetDetected = false

/-- Clearing the sticky flags leaves no fault. -/
lemma CycleFlags.clean_clearSticky (f : CycleFlags) : f.clearSticky.Clean := ⟨rfl, rfl, rfl⟩

namespace CycleMachine

/-- Taking note of a frame leaves the flags of faults alone. -/
lemma observe_faults (status : StatusFrame) (m : CycleMachine) :
    (m.observe status).flags.tooManyDroppedPackets = m.flags.tooManyDroppedPackets ∧
      (m.observe status).flags.statusChecksumError = m.flags.statusChecksumError ∧
      (m.observe status).flags.fpgaInternalResetDetected = m.flags.fpgaInternalResetDetected := by
  rw [observe_eq]
  exact ⟨rfl, rfl, rfl⟩

/-- Taking note of a frame does not make the master reset the board. -/
lemma observe_resetting (status : StatusFrame) (m : CycleMachine) :
    (m.observe status).resetting = m.resetting := by
  rw [observe_eq]

/-- The checks look at the flag of a reset and leave it as it is. -/
lemma guard_reset (status : StatusFrame) (m : CycleMachine) :
    (guard status m).2.flags.fpgaInternalResetDetected = m.flags.fpgaInternalResetDetected := by
  rw [guard_eq]

/-- No frame passes the checks while the flag of a reset is set. -/
lemma guard_flagged {m : CycleMachine} (h : m.flags.fpgaInternalResetDetected = true)
    (status : StatusFrame) : (guard status m).1.isSome = true := by
  rw [guard_fault, if_pos h]
  split
  · rfl
  · split <;> rfl

/-- Without drops in a row there are not too many of them. -/
lemma not_limit_lt_row {m : CycleMachine} (hrow : m.consecutiveDrops = 0) :
    ¬ m.dropRecord.limit < m.dropRecord.row := by
  show ¬ m.limits.maxConsecutiveDrops < m.consecutiveDrops
  rw [hrow]
  exact UInt32.not_lt_zero

/-- Without drops and without the flag of a reset a frame passes while the master is resetting
the board, a lockout or not. -/
lemma guard_clean {m : CycleMachine} (hrow : m.consecutiveDrops = 0)
    (hresetting : m.resetting = true) (h : m.flags.fpgaInternalResetDetected = false)
    (status : StatusFrame) : (guard status m).1 = none := by
  rw [guard_fault, if_neg (not_limit_lt_row hrow), hresetting, h]
  simp

section Verify

variable {μ : Type} {status : StatusFrame} {overheated : Bool} {modelOk : μ → Bool × μ}
  {m m' : CycleMachine} {w w' : μ} {fault : Option CycleFault}

/-- A frame leaves the flag of a reset as it is. -/
theorem verify_reset (h : m.verify status overheated modelOk w = (fault, m', w')) :
    m'.flags.fpgaInternalResetDetected = m.flags.fpgaInternalResetDetected := by
  obtain rfl := verify_settles h
  have hsettled : ((guard status (m.observe status)).2.settle status fault).flags =
      (guard status (m.observe status)).2.flags := rfl
  rw [hsettled, guard_reset]
  exact (observe_faults status m).2.2

/-- While the flag of a reset is set every frame fails. -/
theorem verify_flagged (h : m.verify status overheated modelOk w = (fault, m', w'))
    (hflag : m.flags.fpgaInternalResetDetected = true) : fault.isSome = true := by
  have hguard := guard_flagged ((observe_faults status m).2.2.trans hflag) status
  rw [verify] at h
  revert h hguard
  rcases guard status (m.observe status) with ⟨_ | early, m₁⟩
  · intro _ hguard
    cases hguard
  · rintro ⟨⟩ -
    rfl

/-- A frame with a timestamp of its own passes while the master is resetting the board, if the
models have nothing against it, and it sets no flag of a fault. -/
theorem verify_clean (hnew : ¬ m.dropRecord.Repeats status.timestamp)
    (hfirst : m.seeded = false → m.consecutiveDrops = 0) (hresetting : m.resetting = true)
    (hclean : m.flags.Clean) (hmodel : (modelOk w).1 = true) (herror : m.hasError = false) :
    ∃ m' w', m.verify status false modelOk w = (none, m', w') ∧ m'.hasError = false ∧
      m'.flags.Clean := by
  have hrow : (m.observe status).consecutiveDrops = 0 := by
    have hobserved := congrArg DropRecord.row (observe_dropRecord status m)
    rw [DropRecord.observed] at hobserved
    refine hobserved.trans ((if_neg hnew).trans ?_)
    cases hseeded : m.seeded with
    | true => exact if_pos hseeded
    | false =>
      refine (if_neg ?_).trans (hfirst hseeded)
      exact fun h => Bool.false_ne_true (hseeded.symm.trans h)
  obtain ⟨htooMany, hchecksum, hreset⟩ := observe_faults status m
  have hpass := guard_clean hrow ((observe_resetting status m).trans hresetting)
    (hreset.trans hclean.reset) status
  have hchecks : guard status (m.observe status) = (none, (guard status (m.observe status)).2) :=
    Prod.ext hpass rfl
  obtain ⟨w₁, hasked⟩ : ∃ w₁, modelOk w = (true, w₁) := ⟨_, Prod.ext hmodel rfl⟩
  have hv : m.verify status false modelOk w =
      (none, (guard status (m.observe status)).2.settle status none, w₁) := by
    rw [verify, hchecks]
    dsimp only
    rw [hasked]
    rfl
  refine ⟨_, _, hv, ?_, ?_⟩
  · rw [(verify_spec hv).1, herror]
    rfl
  · show (guard status (m.observe status)).2.flags.Clean
    rw [guard_eq]
    exact ⟨Bool.or_eq_false_iff.2 ⟨htooMany.trans hclean.tooMany,
        decide_eq_false (not_limit_lt_row hrow)⟩,
      hchecksum.trans hclean.checksum, hreset.trans hclean.reset⟩

end Verify

end CycleMachine

end MotorBoard
