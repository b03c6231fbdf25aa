/-
# The greatest temperatures

A machine keeps the greatest raw reading of each of the two sensors.  A temperature has a sign,
and a degree below zero is a reading in the upper half of the words; but the machine compares
the words.  While no reading was below zero, what it keeps is the greatest temperature.  From the
first reading below zero on, it keeps the greatest one of those, whatever is measured later, and
every reading that is not below zero is warmer than what is reported.

The main results are

* `Readings.le_greatest_iff`: the greatest word and the order of temperatures;
* `CycleMachine.Run.kept`: what a machine keeps is the greatest word that it has seen;
* `Device.Run.maximum_reported`: the readings that are not above the reported temperature.
-/
import MotorBoard.Proofs.Device.Machine
import MotorBoard.Proofs.Numbers.Steps

namespace MotorBoard

/-! Readings, the newest first. -/

namespace Readings

/-- The greatest of some words, zero at the least. -/
def greatest : List UInt16 → UInt16
  | [] => 0
  | r :: earlier => max (greatest earlier) r

variable {readings : List UInt16} {r : UInt16}

lemma toNat_le_greatest (h : r ∈ readings) : r.toNat ≤ (greatest readings).toNat := by
  induction readings with
  | nil => cases h
  | cons q earlier ih =>
    rw [greatest, UInt16.toNat_max]
    obtain rfl | h := List.mem_cons.1 h
    · exact Nat.le_max_right _ _
    · exact (ih h).trans (Nat.le_max_left _ _)

/-- It is one of them, unless there is none but zeros. -/
lemma greatest_mem (readings : List UInt16) :
    greatest readings = 0 ∨ greatest readings ∈ readings := by
  induction readings with
  | nil => exact .inl rfl
  | cons q earlier ih =>
    have hmax := UInt16.toNat_max (greatest earlier) q
    obtain hle | hle := Nat.le_total q.toNat (greatest earlier).toNat
    · rw [greatest, UInt16.toNat_inj.1 (hmax.trans (Nat.max_eq_left hle))]
      exact ih.imp_right fun h => List.mem_cons_of_mem _ h
    · rw [greatest, UInt16.toNat_inj.1 (hmax.trans (Nat.max_eq_right hle))]
      exact .inr List.mem_cons_self

/-- A word with a sign, by the word without. -/
lemma toInt_toInt16 (r : UInt16) :
    r.toInt16.toInt = if r.toNat < 2 ^ 15 then (r.toNat : Int) else r.toNat - 2 ^ 16 := by
  have hcond : r.toInt16.toInt =
    if 2 * r.toNat < 2 ^ 16 then (r.toNat : Int) else r.toNat - ((2 ^ 16 : Nat) : Int) :=
    BitVec.toInt_eq_toNat_cond r.toBitVec
  rw [hcond]
  split <;> split <;> omega

/-- **The greatest word and the order of temperatures.**  A reading is not above the greatest word
when it is below zero itself, or when no reading is. -/
theorem le_greatest_iff (h : r ∈ readings) :
    r.toInt16 ≤ (greatest readings).toInt16 ↔
      r.toInt16 < 0 ∨ ∀ q ∈ readings, 0 ≤ q.toInt16 := by
  have hbelow (q : UInt16) : q.toInt16 < 0 ↔ 2 ^ 15 ≤ q.toNat := by
    rw [Int16.lt_iff_toInt_lt, toInt_toInt16, Int16.toInt_zero]
    have hlt : q.toNat < 2 ^ 16 := q.toNat_lt
    split <;> omega
  have habove (q : UInt16) : 0 ≤ q.toInt16 ↔ q.toNat < 2 ^ 15 := by
    rw [Int16.le_iff_toInt_le, toInt_toInt16, Int16.toInt_zero]
    have hlt : q.toNat < 2 ^ 16 := q.toNat_lt
    split <;> omega
  have hle := toNat_le_greatest h
  have hlt : (greatest readings).toNat < 2 ^ 16 := UInt16.toNat_lt _
  rw [hbelow, Int16.le_iff_toInt_le, toInt_toInt16, toInt_toInt16]
  simp only [habove]
  constructor
  · intro hsigned
    by_cases hr : r.toNat < 2 ^ 15
    · refine .inr fun q hq => ?_
      have hq := toNat_le_greatest hq
      split at hsigned <;> split at hsigned <;> omega
    · exact .inl (by omega)
  · rintro (hr | hall)
    · split <;> split <;> omega
    · -- the greatest word is a reading or zero, and so it is not below zero either
      have hg : (greatest readings).toNat < 2 ^ 15 := by
        obtain hzero | hmem := greatest_mem readings
        · rw [hzero]
          decide
        · exact hall _ hmem
      rw [if_pos (by omega), if_pos hg]
      exact Int.ofNat_le.2 hle

end Readings

/-- One of the two sensors of a board. -/
inductive Sensor where
  | board
  | bridge
deriving DecidableEq, Repr

namespace Sensor

/-- What a frame tells of a sensor. -/
def reading : Sensor → StatusFrame → UInt16
  | board, status => status.boardTemperature
  | bridge, status => status.bridgeTemperature

/-- What a machine keeps. -/
def kept : Sensor → CycleMachine → UInt16
  | board, m => m.maxBoardTemperature
  | bridge, m => m.maxBridgeTemperature

/-- What a driver reports, in degrees Celsius. -/
def reported : Sensor → Device → Float
  | board, d => d.maxBoardTemperature
  | bridge, d => d.maxBridgeTemperature

/-- The readings in the frames that were verified. -/
def readings (t : Sensor) (verdicts : List (StatusFrame × Option CycleFault)) : List UInt16 :=
  verdicts.map fun v => t.reading v.1

lemma reported_eq (t : Sensor) (d : Device) :
    t.reported d = StatusFrame.celsius (t.kept d.cycle) := by
  cases t <;> rfl

end Sensor

namespace CycleMachine

variable (t : Sensor)

lemma observe_kept (status : StatusFrame) (m : CycleMachine) :
    t.kept (m.observe status) = max (t.kept m) (t.reading status) := by
  rw [observe_eq]
  cases t <;> rfl

lemma guard_kept (status : StatusFrame) (m : CycleMachine) :
    t.kept (guard status m).2 = t.kept m := by
  rw [guard_eq]
  cases t <;> rfl

/-- Every frame that is verified is taken into account, whatever comes of it. -/
lemma verify_kept {μ : Type} {status : StatusFrame} {overheated : Bool} {modelOk : μ → Bool × μ}
    {m m' : CycleMachine} {w w' : μ} {fault : Option CycleFault}
    (h : m.verify status overheated modelOk w = (fault, m', w')) :
    t.kept m' = max (t.kept m) (t.reading status) := by
  obtain rfl := verify_settles h
  have hsettled (m : CycleMachine) : t.kept (m.settle status fault) = t.kept m := by
    cases t <;> rfl
  rw [hsettled, guard_kept, observe_kept]

/-- What a machine keeps is the greatest word that it has seen. -/
theorem Run.kept {limits : CycleLimits} {history : List CycleEvent} {m : CycleMachine}
    (hr : Run limits history m) :
    t.kept m = Readings.greatest (t.readings (CycleEvent.verdicts history)) := by
  -- no event but a frame touches what is kept, not even a reset
  induction hr with
  | fresh => cases t <;> rfl
  | step _ hstep ih =>
    cases hstep with
    | verify hcall =>
      rw [verify_kept t hcall, ih]
      rfl
    | clear | setResetting | recordChecksumError | accumulateTime | detectReset =>
      refine Eq.trans ?_ ih
      cases t <;> rfl

end CycleMachine

/-- How the greatest word that was kept stands to the readings that it was taken from, as words
with a sign and in degrees Celsius. -/
structure Readings.Peak (readings : List UInt16) (kept : UInt16) : Prop where
  seen : kept = 0 ∨ kept ∈ readings
  signed : ∀ r ∈ readings, (r.toInt16 ≤ kept.toInt16 ↔
    r.toInt16 < 0 ∨ ∀ q ∈ readings, 0 ≤ q.toInt16)
  celsius : ∀ r ∈ readings, (StatusFrame.celsius r ≤ StatusFrame.celsius kept ↔
    r.toInt16 < 0 ∨ ∀ q ∈ readings, 0 ≤ q.toInt16)

lemma Readings.peak_greatest (readings : List UInt16) : Peak readings (greatest readings) where
  seen := greatest_mem readings
  signed _ hr := le_greatest_iff hr
  celsius _ hr := (StatusFrame.celsius_le_iff _ _).trans (le_greatest_iff hr)

namespace Device.Run

variable {σ μ : Type} {link : Link σ} {models : Models μ} {s : Stage σ μ} {history : List Event}

/-- What a driver keeps is the greatest word in the status frames that it could read. -/
lemma kept (hr : Run link models history s) (t : Sensor) :
    t.kept s.device.cycle = Readings.greatest (t.readings (verdicts history)) := by
  obtain ⟨limits, events, hevents, hverdicts⟩ := hr.machine
  rw [hevents.kept t, hverdicts]

/-- **The readings that are not above the reported maximum.**  After any run of a machine and
after any run of a driver, a reading that was verified is at most the maximum that is kept and
reported exactly when it is below zero, or when no reading below zero was verified.  The maximum
is one of the readings, unless it is zero. -/
theorem maximum_reported {limits : CycleLimits} {events : List CycleEvent} {m : CycleMachine}
    (hm : CycleMachine.Run limits events m) (hr : Run link models history s) (t : Sensor) :
    Readings.Peak (t.readings (CycleEvent.verdicts events)) (t.kept m) ∧
      t.reported s.device = StatusFrame.celsius (t.kept s.device.cycle) ∧
      Readings.Peak (t.readings (verdicts history)) (t.kept s.device.cycle) := by
  refine ⟨?_, t.reported_eq s.device, ?_⟩
  · rw [hm.kept t]
    exact Readings.peak_greatest _
  · rw [hr.kept t]
    exact Readings.peak_greatest _

/-- A driver that has read two status frames, which tell of two board temperatures. -/
lemma exists_measured {a b : UInt16}
    (ha : statusRead (StatusFrame.encode { boardTemperature := a }) (Bytes.zeros StatusFrame.size) =
      some { boardTemperature := a })
    (hb : statusRead (StatusFrame.encode { boardTemperature := b }) (Bytes.zeros StatusFrame.size) =
      some { boardTemperature := b }) :
    ∃ (history : List Event) (s : Stage Ring StandIns), Run Ring.link StandIns.models history s ∧
      Sensor.board.readings (verdicts history) = [b, a] := by
  obtain ⟨d, hd⟩ : ∃ d, create {} ⟨1, 0, 0, 0, 0, .op⟩ none = .ok d := ⟨_, rfl⟩
  have hfresh : Run Ring.link StandIns.models []
      ⟨d, {}, {}, ⟨{ station := 1, position := 0 }, 0⟩⟩ := .created hd
  have hmeasured := (hfresh.unpacked (StatusFrame.encode { boardTemperature := a })
    (Bytes.zeros StatusFrame.size)).unpacked (StatusFrame.encode { boardTemperature := b })
    (Bytes.zeros StatusFrame.size)
  refine ⟨_, _, hmeasured, ?_⟩
  simp only [verdicts, List.filterMap_cons, List.filterMap_nil, Event.verdict?, ha, hb,
    Option.map_some]
  rfl

/-- A board that warms up from fifteen degrees to twenty: none of the two is above the maximum. -/
theorem maximum_reported_warming :
    ∃ (history : List Event) (s : Stage Ring StandIns), Run Ring.link StandIns.models history s ∧
      Sensor.board.readings (verdicts history) = [0x0A00, 0x0780] ∧
      ∀ r ∈ [0x0A00, 0x0780], StatusFrame.celsius r ≤ Sensor.board.reported s.device := by
  obtain ⟨history, s, hr, hreadings⟩ := @exists_measured 0x0780 0x0A00 (by decide +kernel)
    (by decide +kernel)
  have hm : CycleMachine.Run {} [] {} := .fresh
  obtain ⟨-, hreported, hpeak⟩ := maximum_reported hm hr .board
  rw [hreadings] at hpeak
  refine ⟨history, s, hr, hreadings, fun r hmem => ?_⟩
  rw [hreported]
  refine (hpeak.celsius r hmem).2 (.inr fun q hq => ?_)
  obtain rfl | rfl : q = 0x0A00 ∨ q = 0x0780 := by simpa using hq
  · decide
  · decide

/-- A board that warms up from one degree below zero to twenty above: what is reported is the
first reading, which is colder than the last one. -/
theorem colder_reported :
    ∃ (history : List Event) (s : Stage Ring StandIns), Run Ring.link StandIns.models history s ∧
      Sensor.board.readings (verdicts history) = [0x0A00, 0xFF80] ∧
      s.device.maxBoardTemperature = StatusFrame.celsius 0xFF80 ∧
      ¬ StatusFrame.celsius 0x0A00 ≤ s.device.maxBoardTemperature := by
  obtain ⟨history, s, hr, hreadings⟩ := @exists_measured 0xFF80 0x0A00 (by decide +kernel)
    (by decide +kernel)
  have hreported : s.device.maxBoardTemperature = StatusFrame.celsius 0xFF80 := by
    have hkept := hr.kept .board
    rw [hreadings] at hkept
    exact congrArg StatusFrame.celsius hkept
  refine ⟨history, s, hr, hreadings, hreported, ?_⟩
  rw [hreported, StatusFrame.celsius_le_iff]
  decide

end Device.Run

end MotorBoard
