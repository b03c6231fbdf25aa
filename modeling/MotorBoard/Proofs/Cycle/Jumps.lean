/-
# Jumps of the clock

The timestamp of every frame but the first is compared with that of the frame before it.  Between
the two the clock must not go back, and it must not go forward by more than a limit.  Timestamps go
around, so their difference is taken as a signed number, and of that number there are two things to
ask.  One comparison of unsigned numbers answers both, where the limit itself is no negative number:
a clock that went back has an unsigned difference above every such limit.

A jump is kept in a flag until the errors are cleared.  Clearing them is no reason to forget the
last timestamp, and neither is a frame that could not be read.

The main results are

* `Cycle.timestampJump_iff`: what the comparison says;
* `CycleMachine.verify_timestampJump`: one frame;
* `CycleMachine.Run.jumped_iff`: the flag after a run.
-/
import MotorBoard.Proofs.Cycle.Drops

namespace MotorBoard

namespace Cycle

/-- The clock went back, or forward by more than a limit. -/
def Jumps (limit new old : UInt32) : Prop :=
  (timestampDiff new old).toInt < 0 ∨ limit.toNat < (timestampDiff new old).toInt

instance (limit new old : UInt32) : Decidable (Jumps limit new old) :=
  inferInstanceAs (Decidable (_ ∨ _))

/-- An unsigned difference is above a limit when the signed one is negative or above it. -/
theorem timestampJump_iff {limit : UInt32} (hlimit : limit.toNat < 2 ^ 31) (new old : UInt32) :
    timestampJump new old limit = true ↔ Jumps limit new old := by
  have hsigned : (timestampDiff new old).toInt =
      if 2 * (new - old).toNat < 2 ^ 32 then ((new - old).toNat : Int)
      else (new - old).toNat - (2 ^ 32 : Nat) := BitVec.toInt_eq_toNat_cond _
  have hdiff := (new - old).toNat_lt
  rw [timestampJump, decide_eq_true_iff, UInt32.lt_iff_toNat_lt, Jumps, hsigned]
  split <;> omega

end Cycle

namespace CycleEvent

/-- An event is a jump when it is a frame that comes behind another one, and the clock jumped
between them. -/
def IsJump (limit : UInt32) (before : List CycleEvent) : CycleEvent → Prop
  | verified status _ _ =>
    ∃ old, (timestamps before).head? = some old ∧ Cycle.Jumps limit status.timestamp old
  | _ => False

/-- There was a jump, and the errors were not cleared since. -/
def JumpedSinceClear (limit : UInt32) (history : List CycleEvent) : Prop :=
  ∃ newer e before, history = newer ++ e :: before ∧ cleared ∉ newer ∧ e.IsJump limit before

variable {limit : UInt32} {history : List CycleEvent} {e : CycleEvent}

lemma not_jumpedSinceClear_nil : ¬ JumpedSinceClear limit [] := by
  rintro ⟨newer, e, before, hsplit, -⟩
  simp at hsplit

lemma jumpedSinceClear_cons : JumpedSinceClear limit (e :: history) ↔
    e.IsJump limit history ∨ e ≠ cleared ∧ JumpedSinceClear limit history := by
  constructor
  · rintro ⟨newer, e', before, hsplit, hclear, hjump⟩
    rcases newer with _ | ⟨newest, newer⟩
    · obtain ⟨rfl, rfl⟩ := List.cons.inj hsplit
      exact .inl hjump
    · obtain ⟨rfl, rfl⟩ := List.cons.inj hsplit
      rw [List.mem_cons, not_or] at hclear
      exact .inr ⟨Ne.symm hclear.1, newer, e', before, rfl, hclear.2, hjump⟩
  · rintro (hjump | ⟨hother, newer, e', before, rfl, hclear, hjump⟩)
    · exact ⟨[], e, history, rfl, List.not_mem_nil, hjump⟩
    · exact ⟨e :: newer, e', before, rfl, by simp [hclear, hother.symm], hjump⟩

end CycleEvent

namespace CycleMachine

open CycleEvent

/-- Taking note of a frame sets the flag when there is a frame before it and the clock jumped. -/
lemma observe_timestampJump (status : StatusFrame) (m : CycleMachine) :
    (m.observe status).flags.timestampJumpDetected =
      (m.flags.timestampJumpDetected || m.seeded &&
        Cycle.timestampJump status.timestamp m.lastTimestamp m.limits.timestampJumpLimitUs) := by
  rw [observe_eq]

/-- The checks have nothing to do with jumps. -/
lemma guard_timestampJump (status : StatusFrame) (m : CycleMachine) :
    (guard status m).2.flags.timestampJumpDetected = m.flags.timestampJumpDetected := by
  rw [guard_eq]

/-- Neither of them changes the limits. -/
lemma guard_observe_limits (status : StatusFrame) (m : CycleMachine) :
    (guard status (m.observe status)).2.limits = m.limits := by
  rw [guard_eq, observe_eq]

/-- A frame sets the flag when there is a frame before it and the clock jumped, whatever the
verdict on it is. -/
theorem verify_timestampJump {μ : Type} {status : StatusFrame} {overheated : Bool}
    {modelOk : μ → Bool × μ} {m m' : CycleMachine} {w w' : μ} {fault : Option CycleFault}
    (h : m.verify status overheated modelOk w = (fault, m', w')) :
    m'.flags.timestampJumpDetected =
      (m.flags.timestampJumpDetected || m.seeded &&
        Cycle.timestampJump status.timestamp m.lastTimestamp m.limits.timestampJumpLimitUs) := by
  obtain rfl := verify_settles h
  have hsettled : ((guard status (m.observe status)).2.settle status fault).flags =
      (guard status (m.observe status)).2.flags := rfl
  rw [hsettled, guard_timestampJump, observe_timestampJump]

namespace Run

variable {limits : CycleLimits} {history : List CycleEvent} {m : CycleMachine}

/-- The limits stay as they were at the beginning. -/
lemma limits_eq (hr : Run limits history m) : m.limits = limits := by
  induction hr with
  | fresh => rfl
  | step _ hstep ih =>
    cases hstep with
    | verify hcall =>
      obtain rfl := verify_settles hcall
      exact (guard_observe_limits _ _).trans ih
    | clear | setResetting | recordChecksumError | accumulateTime | detectReset => exact ih

/-- The timestamp that is kept is that of the newest frame that was verified. -/
lemma newest (hr : Run limits history m) :
    (timestamps history).head? = if m.seeded then some m.lastTimestamp else none := by
  -- clearing the errors and a frame that could not be read leave it alone
  induction hr with
  | fresh => rfl
  | @step _ _ m' _ _ hstep ih =>
    cases hstep with
    | @verify _ status _ _ _ _ _ _ hcall =>
      have hseeded : m'.seeded = true := congrArg DropRecord.seeded (verify_dropRecord hcall)
      have hlast : m'.lastTimestamp = status.timestamp :=
        congrArg DropRecord.last (verify_dropRecord hcall)
      rw [hseeded, hlast]
      rfl
    | clear | setResetting | recordChecksumError | accumulateTime | detectReset => exact ih

/-- **The flag of a jump** is set exactly when, since the errors were cleared last, a frame other
than the first of all was verified whose timestamp is before that of the frame verified before it,
or behind it by more than the limit. -/
theorem jumped_iff (hr : Run limits history m)
    (hlimit : limits.timestampJumpLimitUs.toNat < 2 ^ 31) :
    m.flags.timestampJumpDetected = true ↔
      JumpedSinceClear limits.timestampJumpLimitUs history := by
  induction hr with
  | fresh => exact iff_of_false Bool.false_ne_true not_jumpedSinceClear_nil
  | @step history m m' e hr hstep ih =>
    rw [jumpedSinceClear_cons]
    cases hstep with
    | @verify _ status _ _ _ _ _ fault hcall =>
      have hjump : (m.seeded && Cycle.timestampJump status.timestamp m.lastTimestamp
          m.limits.timestampJumpLimitUs) = true ↔
          IsJump limits.timestampJumpLimitUs history
            (.verified status (m.flags.drops < m'.flags.drops) fault) := by
        rw [IsJump, hr.newest, hr.limits_eq, Bool.and_eq_true, Cycle.timestampJump_iff hlimit]
        cases m.seeded <;> simp
      rw [verify_timestampJump hcall, Bool.or_eq_true, ih, hjump]
      simp [or_comm]
    | clear => simp [IsJump, clearErrorFlags, CycleFlags.clearSticky]
    | setResetting | recordChecksumError | accumulateTime | detectReset =>
      exact ih.trans (by simp [IsJump])

/-- Behind the point where timestamps go around, seven microseconds are no jump.  A frame that could
not be read comes between, and the next timestamp is two microseconds before the last one that was
read. -/
theorem jumped_iff_around :
    ∃ history m m', Run { timestampJumpLimitUs := 10 } (.unreadable :: history) m ∧
      history = [.verified { timestamp := 5 } false none,
        .verified { timestamp := 0xfffffffe } false none] ∧
      Run { timestampJumpLimitUs := 10 }
        (.verified { timestamp := 3 } false none :: .unreadable :: history) m' ∧
      m.flags.timestampJumpDetected = false ∧ ¬ JumpedSinceClear 10 (.unreadable :: history) ∧
      JumpedSinceClear 10 (.verified { timestamp := 3 } false none :: .unreadable :: history) ∧
      m'.flags.timestampJumpDetected = true := by
  have hfirst := (show Run { timestampJumpLimitUs := 10 } [] _ from .fresh).passed
    { timestamp := 0xfffffffe }
  have hunread := (hfirst.passed { timestamp := 5 }).step .recordChecksumError
  have hback := hunread.passed { timestamp := 3 }
  refine ⟨_, _, _, hunread, rfl, hback, by decide, ?_, ?_, by decide⟩
  · exact (jumped_iff hunread (by decide)).not.1 (by decide)
  · exact (jumped_iff hback (by decide)).1 (by decide)

end Run

end CycleMachine

end MotorBoard
