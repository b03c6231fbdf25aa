/-
# Drops, and how many in a row

A frame whose timestamp was seen already is a drop.  A machine compares each timestamp with
the last two, and it counts the drops in all, those in a row at this moment, the longest row
so far, and the rows that went over the limit.

What happens to a machine leaves events behind, and a run is a list of events together with
the machine that it leads to.  Each frame in it carries a mark: whether the count of drops
rose.  The four counts can be read off the marks alone, however frames, resets and unreadable
frames follow one another, since the row goes on when the errors are cleared.

The marks themselves are what they should be but for one case.  When the second frame comes,
there is one timestamp to compare it with; in the place of the other one stands the zero from
the beginning, and a second frame with the timestamp zero is held to be a drop.

The main results are

* `DropRecord.Tells.next`: what one frame does to the counts;
* `CycleMachine.Run.tells`: what they are after a run;
* `CycleMachine.Run.dropped_iff`: which frames are drops;
* `CycleMachine.Run.rows_exact`: drops, rows and storms.
-/
import Mathlib.Data.UInt
import MotorBoard.Proofs.Bytes
import MotorBoard.Proofs.Cycle.Verdict

namespace MotorBoard

/-! Marks, the newest first: whether a frame was a drop. -/

namespace Marks

/-- How many drops come in a row, for every row of drops.  Between two other frames that
follow one another stands a row of none. -/
def rows (marks : List Bool) : List Nat := (marks.splitOn false).map List.length

/-- How many of the last frames were drops. -/
def trailing (marks : List Bool) : Nat := (marks.takeWhile id).length

/-- The length of the longest row. -/
def longest (marks : List Bool) : Nat := (rows marks).foldr max 0

/-- How many rows are longer than a limit. -/
def storms (limit : Nat) (marks : List Bool) : Nat := (rows marks).countP (limit < ·)

variable (marks : List Bool)

lemma rows_fresh : rows (false :: marks) = 0 :: rows marks := by
  simp [rows, List.splitOn, List.splitOnP_cons_eq_if_modifyHead]

lemma rows_drop : rows (true :: marks) = (rows marks).modifyHead (· + 1) := by
  simp only [rows, List.splitOn, List.splitOnP_cons_eq_if_modifyHead]
  cases List.splitOnP (· == false) marks <;> simp

example : rows [true, true, false, false, true] = [2, 0, 1] := by decide

@[simp] lemma trailing_fresh : trailing (false :: marks) = 0 := rfl

@[simp] lemma trailing_drop : trailing (true :: marks) = trailing marks + 1 := rfl

/-- The newest row is the one at the end. -/
lemma exists_rows : ∃ rest, rows marks = trailing marks :: rest := by
  induction marks with
  | nil => exact ⟨[], rfl⟩
  | cons mark marks ih =>
    cases mark with
    | false => exact ⟨rows marks, rows_fresh marks⟩
    | true =>
      obtain ⟨rest, hrest⟩ := ih
      exact ⟨rest, by rw [rows_drop, hrest, List.modifyHead_cons, trailing_drop]⟩

@[simp] lemma longest_fresh : longest (false :: marks) = longest marks := by
  simp [longest, rows_fresh]

@[simp] lemma longest_drop :
    longest (true :: marks) = max (longest marks) (trailing marks + 1) := by
  obtain ⟨rest, hrest⟩ := exists_rows marks
  simp only [longest, rows_drop, hrest, List.modifyHead_cons, List.foldr_cons]
  omega

@[simp] lemma storms_fresh (limit : Nat) :
    storms limit (false :: marks) = storms limit marks := by
  simp [storms, rows_fresh]

@[simp] lemma storms_drop (limit : Nat) :
    storms limit (true :: marks) =
      storms limit marks + if trailing marks = limit then 1 else 0 := by
  obtain ⟨rest, hrest⟩ := exists_rows marks
  simp only [storms, rows_drop, hrest, List.modifyHead_cons, List.countP_cons, decide_eq_true_eq]
  split <;> split <;> split <;> omega

lemma trailing_le : trailing marks ≤ marks.length := (List.takeWhile_sublist _).length_le

lemma storms_le (limit : Nat) : storms limit marks ≤ marks.length := by
  induction marks with
  | nil => exact Nat.le_refl 0
  | cons mark marks ih =>
    cases mark with
    | false =>
      rw [storms_fresh, List.length_cons]
      omega
    | true =>
      rw [storms_drop, List.length_cons]
      split <;> omega

end Marks

/-- A frame that was verified: its timestamp, and its mark. -/
abbrev MarkedFrame := UInt32 × Bool

namespace DropRecord

/-- The record tells of these frames, the newest first. -/
structure Tells (limit : UInt32) (frames : List MarkedFrame) (r : DropRecord) : Prop where
  seeded : r.seeded = !frames.isEmpty
  last : r.last = (frames[0]?.map Prod.fst).getD 0
  older : r.older = (frames[1]?.map Prod.fst).getD 0
  drops : r.drops.toNat = (frames.map Prod.snd).count true
  row : r.row.toNat = Marks.trailing (frames.map Prod.snd)
  shownRow : r.shownRow = r.row
  longestRow : r.longestRow.toNat = Marks.longest (frames.map Prod.snd)
  storms : r.storms.toNat = Marks.storms limit.toNat (frames.map Prod.snd)
  limit : r.limit = limit

variable {limit : UInt32} {frames : List MarkedFrame} {r : DropRecord}

lemma tells_fresh (limit : UInt32) : Tells limit [] (fresh limit) :=
  ⟨rfl, rfl, rfl, rfl, rfl, rfl, rfl, rfl, rfl⟩

/-- A frame counts as a drop when one of the last two frames had its timestamp.  The second
frame is compared with zero instead of a second timestamp. -/
lemma Tells.repeats_iff (h : Tells limit frames r) (timestamp : UInt32) :
    r.Repeats timestamp ↔
      (frames.map Prod.fst)[0]? = some timestamp ∨ (frames.map Prod.fst)[1]? = some timestamp ∨
        frames.length = 1 ∧ timestamp = 0 := by
  rw [Repeats, h.seeded, h.last, h.older]
  rcases frames with _ | ⟨newest, _ | ⟨before, rest⟩⟩
  · simp
  · simp [eq_comm]
  · simp [eq_comm]

/-- The count of drops rises with every frame that counts as one. -/
lemma drops_lt_next (timestamp : UInt32) (hfew : r.drops.toNat + 1 < 2 ^ 32) :
    r.drops < (r.next timestamp).drops ↔ r.Repeats timestamp := by
  have hnext : (r.next timestamp).drops =
      if r.Repeats timestamp then r.drops + 1 else r.drops := rfl
  rw [hnext, UInt32.lt_iff_toNat_lt]
  split
  · rw [Word32.toNat_add_one hfew]
    simp [*]
  · simp [*]

/-- A drop lengthens the row. -/
lemma Tells.next_drop (h : Tells limit frames r) {timestamp : UInt32}
    (hrepeats : r.Repeats timestamp) (hfew : frames.length + 1 < 2 ^ 32) :
    Tells limit ((timestamp, true) :: frames) (r.next timestamp) := by
  have hsucc : ∀ {x : UInt32}, x.toNat ≤ frames.length → (x + 1).toNat = x.toNat + 1 := by
    intro x hx
    exact Word32.toNat_add_one (by omega)
  have hlength : (frames.map Prod.snd).length = frames.length := List.length_map _
  have hdrops := hsucc (h.drops.trans_le (List.count_le_length.trans_eq hlength))
  have hrow_le : r.row.toNat ≤ frames.length :=
    h.row.trans_le ((Marks.trailing_le _).trans_eq hlength)
  have hrow := hsucc hrow_le
  have hstorms := hsucc (h.storms.trans_le ((Marks.storms_le _ _).trans_eq hlength))
  refine ⟨rfl, rfl, h.last, ?_, ?_, ?_, ?_, ?_, h.limit⟩
  · simp [next, observed, judged, hrepeats, hdrops, h.drops]
  · simp [next, observed, judged, hrepeats, hrow, h.row]
  · simp [next, observed, judged, hrepeats]
  · simp [next, observed, judged, hrepeats, UInt32.toNat_max, hrow, h.row, h.longestRow]
  · simp only [next, observed, judged, hrepeats, if_true, h.limit, List.map_cons,
      Marks.storms_drop, ← h.row]
    -- the row is one longer than the limit when it had its length before
    have hover : limit < r.row + 1 ∧ r.row + 1 = limit + 1 ↔ r.row.toNat = limit.toNat := by
      have hlimit := limit.toNat_lt
      rw [UInt32.lt_iff_toNat_lt, ← UInt32.toNat_inj, hrow, UInt32.toNat_add,
        UInt32.toNat_one]
      omega
    simp only [hover]
    split
    · rw [hstorms, h.storms]
    · rw [h.storms, Nat.add_zero]

/-- Any other frame ends the row. -/
lemma Tells.next_fresh (h : Tells limit frames r) {timestamp : UInt32}
    (hrepeats : ¬ r.Repeats timestamp) :
    Tells limit ((timestamp, false) :: frames) (r.next timestamp) := by
  -- before the first frame there is no row that could end
  have hrow : (r.observed timestamp).row = 0 := by
    simp only [observed, hrepeats, if_false]
    split
    · rfl
    · next hseeded =>
      have hempty : frames = [] := by simpa [h.seeded] using hseeded
      rw [← UInt32.toNat_inj, h.row, hempty]
      rfl
  have hnever : ¬ limit < 0 := by simp [UInt32.lt_iff_toNat_lt]
  refine ⟨rfl, rfl, h.last, ?_, ?_, ?_, ?_, ?_, h.limit⟩
  · simp [next, observed, judged, hrepeats, h.drops]
  · rw [next, judged, hrow]
    rfl
  · simp [next, observed, judged, h.shownRow]
  · simp [next, observed, judged, hrepeats, h.longestRow]
  · have hlimit : (r.observed timestamp).limit = limit := h.limit
    rw [next, judged, hrow, hlimit, if_neg fun hover => hnever hover.1]
    simpa [observed] using h.storms

/-- What one frame does to the counts, whichever mark it gets. -/
theorem Tells.next (h : Tells limit frames r) (timestamp : UInt32)
    (hfew : frames.length + 1 < 2 ^ 32) :
    Tells limit ((timestamp, decide (r.drops < (r.next timestamp).drops)) :: frames)
      (r.next timestamp) := by
  have hdrops : r.drops.toNat + 1 < 2 ^ 32 := by
    have hle : r.drops.toNat ≤ frames.length := by
      rw [h.drops]
      exact List.count_le_length.trans_eq (List.length_map _)
    omega
  simp only [drops_lt_next timestamp hdrops]
  by_cases hrepeats : r.Repeats timestamp
  · rw [decide_eq_true hrepeats]
    exact h.next_drop hrepeats hfew
  · rw [decide_eq_false hrepeats]
    exact h.next_fresh hrepeats

end DropRecord

/-- What is seen of one thing that happens to a machine. -/
inductive CycleEvent where
  /-- A frame was verified; `dropped` tells whether the count of drops rose. -/
  | verified (status : StatusFrame) (dropped : Bool) (fault : Option CycleFault)
  /-- The sticky errors were cleared. -/
  | cleared
  /-- The master began to reset the board, or ended it. -/
  | resetting (on : Bool)
  /-- A frame could not be read. -/
  | unreadable
  /-- The sample clock was read. -/
  | timed
  /-- A report told of a reset of the board's logic. -/
  | resetSeen

namespace CycleEvent

/-- The frames that were verified. -/
def frames (history : List CycleEvent) : List MarkedFrame :=
  history.filterMap fun
    | verified status dropped _ => some (status.timestamp, dropped)
    | _ => none

/-- Their timestamps. -/
def timestamps (history : List CycleEvent) : List UInt32 := (frames history).map Prod.fst

/-- Their marks. -/
def marks (history : List CycleEvent) : List Bool := (frames history).map Prod.snd

/-- The frames that were verified as they came, with their verdicts. -/
def verdicts (history : List CycleEvent) : List (StatusFrame × Option CycleFault) :=
  history.filterMap fun
    | verified status _ fault => some (status, fault)
    | _ => none

lemma length_frames_le (newer before : List CycleEvent) :
    (frames before).length ≤ (frames (newer ++ before)).length := by
  rw [frames, frames, List.filterMap_append, List.length_append]
  exact Nat.le_add_left _ _

end CycleEvent

namespace CycleMachine

open CycleEvent

/-- What may happen to a machine, and the event that is left behind. -/
inductive Step : CycleMachine → CycleEvent → CycleMachine → Prop
  | verify {m m' : CycleMachine} {status : StatusFrame} {overheated : Bool} {μ : Type}
      {modelOk : μ → Bool × μ} {w w' : μ} {fault : Option CycleFault} :
      m.verify status overheated modelOk w = (fault, m', w') →
      Step m (.verified status (m.flags.drops < m'.flags.drops) fault) m'
  | clear {m : CycleMachine} : Step m .cleared m.clearErrorFlags
  | setResetting {m : CycleMachine} {on : Bool} :
      Step m (.resetting on) { m with resetting := on }
  | recordChecksumError {m : CycleMachine} : Step m .unreadable m.recordChecksumError
  | accumulateTime {m : CycleMachine} {this prev : UInt32} :
      Step m .timed (m.accumulateTime this prev).2
  | detectReset {m : CycleMachine} :
      Step m .resetSeen { m with flags := { m.flags with fpgaInternalResetDetected := true } }

/-- Verifies a frame of a cool motor that follows its model. -/
def pass (status : StatusFrame) (m : CycleMachine) : Option CycleFault × CycleMachine × Unit :=
  m.verify status false (fun _ => (true, ())) ()

/-- The runs of a machine with given limits.  The newest event comes first. -/
inductive Run (limits : CycleLimits) : List CycleEvent → CycleMachine → Prop
  | fresh : Run limits [] { limits := limits }
  | step {history : List CycleEvent} {m m' : CycleMachine} {e : CycleEvent} :
      Run limits history m → Step m e m' → Run limits (e :: history) m'

namespace Run

variable {limits : CycleLimits} {history : List CycleEvent} {m : CycleMachine}

/-- What comes before an event is a run too, from which the event is one step away. -/
lemma split {newer before : List CycleEvent} {e : CycleEvent}
    (hr : Run limits (newer ++ e :: before) m) :
    ∃ m₁ m₂, Run limits before m₁ ∧ Step m₁ e m₂ ∧ Run limits (e :: before) m₂ := by
  induction newer generalizing m with
  | nil =>
    cases hr with
    | step hbefore hstep => exact ⟨_, _, hbefore, hstep, .step hbefore hstep⟩
  | cons e' newer ih =>
    cases hr with
    | step hrest _ => exact ih hrest

lemma passed (hr : Run limits history m) (status : StatusFrame) :
    Run limits
      (.verified status (m.flags.drops < (m.pass status).2.1.flags.drops) (m.pass status).1 ::
        history)
      (m.pass status).2.1 :=
  hr.step (@Step.verify _ _ status false Unit (fun _ => (true, ())) () () _ rfl)

/-- What a machine remembers of drops can be read off the frames of its run. -/
theorem tells (hr : Run limits history m) (hfew : (frames history).length < 2 ^ 32) :
    DropRecord.Tells limits.maxConsecutiveDrops (frames history) m.dropRecord := by
  -- nothing but a frame changes the record
  induction hr with
  | fresh => exact DropRecord.tells_fresh _
  | @step history m m' e _ hstep ih =>
    cases hstep with
    | @verify _ status _ _ _ _ _ _ hcall =>
      have hfewer : (frames history).length + 1 < 2 ^ 32 := hfew
      have hnext := (ih (by omega)).next status.timestamp hfewer
      rw [← verify_dropRecord hcall] at hnext
      exact hnext
    | clear => exact ih hfew
    | setResetting => exact ih hfew
    | recordChecksumError => exact ih hfew
    | accumulateTime => exact ih hfew
    | detectReset => exact ih hfew

/-- A frame is counted as a drop exactly when one of the two frames before it had the same
timestamp, or when it is the second frame and its timestamp is zero. -/
theorem dropped_iff (hr : Run limits history m) (hfew : (frames history).length < 2 ^ 32)
    (newer before : List CycleEvent) {status : StatusFrame} {dropped : Bool}
    {fault : Option CycleFault}
    (hframe : history = newer ++ .verified status dropped fault :: before) :
    dropped = true ↔
      (timestamps before)[0]? = some status.timestamp ∨
        (timestamps before)[1]? = some status.timestamp ∨
        (timestamps before).length = 1 ∧ status.timestamp = 0 := by
  subst hframe
  obtain ⟨m₁, m₂, hbefore, hstep, -⟩ := hr.split
  have hone : (frames (.verified status dropped fault :: before)).length =
      (frames before).length + 1 := rfl
  have hle := length_frames_le newer (.verified status dropped fault :: before)
  have htells := hbefore.tells (by omega)
  cases hstep with
  | verify hcall =>
    have hdrops : m₁.flags.drops.toNat + 1 < 2 ^ 32 := by
      have hcount : m₁.flags.drops.toNat = _ := htells.drops
      have hcount_le := List.count_le_length (a := true) (l := (frames before).map Prod.snd)
      rw [List.length_map] at hcount_le
      omega
    have hrose := DropRecord.drops_lt_next (r := m₁.dropRecord) status.timestamp hdrops
    rw [← verify_dropRecord hcall] at hrose
    rw [decide_eq_true_iff]
    refine hrose.trans ((htells.repeats_iff _).trans ?_)
    rw [timestamps, List.length_map]

/-- A board that goes back and forth between two timestamps. -/
theorem dropped_iff_alternating :
    ∃ m dropped fault, Run {} [.verified { timestamp := 5 } dropped fault,
      .verified { timestamp := 6 } false none, .verified { timestamp := 5 } false none] m ∧
      dropped = true := by
  have hfirst := (show Run {} [] _ from .fresh).passed { timestamp := 5 }
  have hthird := (hfirst.passed { timestamp := 6 }).passed { timestamp := 5 }
  exact ⟨_, _, _, hthird, (dropped_iff hthird (by decide) [] _ rfl).mpr (.inr (.inl rfl))⟩

/-- The clock of the board goes around to zero between the first two frames: the second one
counts as a drop, and it is the first with this timestamp. -/
theorem second_zero_dropped :
    ∃ m, Run {} [.verified { timestamp := 0 } true none,
      .verified { timestamp := 0xffffffff } false none] m ∧
      ¬ ((timestamps [.verified { timestamp := 0xffffffff } false none])[0]? = some 0 ∨
        (timestamps [.verified { timestamp := 0xffffffff } false none])[1]? = some 0) := by
  have hfirst := (show Run {} [] _ from .fresh).passed { timestamp := 0xffffffff }
  exact ⟨_, hfirst.passed { timestamp := 0 }, by decide⟩

/-- Drops, rows and storms can be read off the marks, and the frames that fail for drops are
those at the end of a row over the limit. -/
theorem rows_exact (hr : Run limits history m) (hfew : (frames history).length < 2 ^ 32) :
    m.flags.consecutiveDrops.toNat = Marks.trailing (marks history) ∧
      m.flags.maxConsecutiveDrops.toNat = Marks.longest (marks history) ∧
      m.flags.drops.toNat = (marks history).count true ∧
      m.flags.dropStorms.toNat =
        Marks.storms limits.maxConsecutiveDrops.toNat (marks history) ∧
      ∀ newer before status dropped fault,
        history = newer ++ .verified status dropped fault :: before →
        (fault = some .tooManyDroppedPackets ↔
          limits.maxConsecutiveDrops.toNat < Marks.trailing (dropped :: marks before)) := by
  have htells := hr.tells hfew
  have hshown : m.flags.consecutiveDrops = m.consecutiveDrops := htells.shownRow
  refine ⟨hshown ▸ htells.row, htells.longestRow, htells.drops, htells.storms, ?_⟩
  intro newer before status dropped fault hframe
  subst hframe
  obtain ⟨m₁, m₂, hbefore, hstep, hafter⟩ := hr.split
  have hfewer := (length_frames_le newer (.verified status dropped fault :: before)).trans_lt hfew
  have hrow := (hafter.tells hfewer).row
  have hlimit := (hafter.tells hfewer).limit
  cases hstep with
  | verify hcall =>
    rw [verify_tooMany hcall, hlimit, UInt32.lt_iff_toNat_lt, hrow]
    rfl

/-- A row goes over the limit, the errors are cleared, and the row goes on: the frame behind
that fails again, and there was one storm. -/
theorem rows_exact_cleared :
    ∃ m fault, Run { maxConsecutiveDrops := 1 } [.verified { timestamp := 7 } true fault, .cleared,
        .verified { timestamp := 7 } true (some .tooManyDroppedPackets),
        .verified { timestamp := 7 } true none, .verified { timestamp := 7 } false none] m ∧
      fault = some .tooManyDroppedPackets ∧ m.flags.dropStorms.toNat = 1 := by
  have hseeded := (show Run { maxConsecutiveDrops := 1 } [] _ from .fresh).passed { timestamp := 7 }
  have hstorm := (hseeded.passed { timestamp := 7 }).passed { timestamp := 7 }
  have hagain := (hstorm.step .clear).passed { timestamp := 7 }
  obtain ⟨-, -, -, hstorms, hfails⟩ := rows_exact hagain (by decide)
  exact ⟨_, _, hagain, (hfails [] _ _ _ _ rfl).mpr (by decide), hstorms.trans (by decide)⟩

end Run

end CycleMachine

end MotorBoard
