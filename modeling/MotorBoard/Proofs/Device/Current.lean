/-
# The current behind no effort

The effort that a controller asks for is divided by two constants of the motor, put between the
bounds `-m` and `m` of the device, and divided by the scale of the converter.  All four come from
the board, and nothing is said there about what they are.  No effort is a zero, and it stays one,
or no number, whatever it is divided by; and what is no finite number counts as zero.  So no
effort commands no current, as long as the greatest current `m` is not below zero.  Where it is,
the bounds have changed their places: a zero is raised to the bound `-m`, and that is commanded,
even when the driver is told to halt.

The greatest current is zero at first, and only a bring-up that comes to its end changes it.

The main results are

* `Device.pack_zero_effort`: the command of a device without effort;
* `Device.Run.maxCurrent`: where the greatest current comes from;
* `Device.Run.zero_effort`: the commands without effort in any run of a driver.
-/
import MotorBoard.Proofs.Device.Interlock
import MotorBoard.Proofs.Device.Learning
import MotorBoard.Proofs.Numbers.Zeros
import MotorBoard.Proofs.Record.RoundTrips

namespace MotorBoard

open Number

/-- A command frame is read back from its bytes. -/
lemma CommandFrame.decode_encode (c : CommandFrame) : decode c.encode = .ok c :=
  roundTrips.decode_encode c trivial

namespace Device

/-! The greatest current from call to call. -/

section Calls

variable {μ : Type} (models : Models μ)

/-- A device with the records and the greatest current of another one. -/
structure SameLimits (d d' : Device) : Prop where
  maxCurrent : d'.maxCurrent = d.maxCurrent
  configInfo : d'.configInfo = d.configInfo
  actuatorInfo : d'.actuatorInfo = d.actuatorInfo

/-- What is packed is the command of a device with the same limits, which has taken the effort
away for a halt. -/
lemma pack_limits {halt reset : Bool} {frame : Bytes} {d d' : Device} {w w' : μ}
    (h : d.pack models halt reset w = (frame, d', w')) :
    SameLimits d d' ∧ frame = (d'.commandFrame halt reset).encode ∧
      d'.actuator.command.effort = if halt then 0.0 else d.actuator.command.effort := by
  obtain ⟨store, cached, calibration, -, rfl, hframe⟩ := pack_cases h
  exact ⟨⟨rfl, rfl, rfl⟩, hframe, rfl⟩

lemma unpack_maxCurrent {this prev : Bytes} {d d' : Device} {w w' : μ}
    {fault : Option CycleFault} (h : d.unpack models this prev w = (fault, d', w')) :
    d'.maxCurrent = d.maxCurrent := by
  obtain ⟨_, _, _, _, _, _, -, -, sample, output, hjudged⟩ | ⟨-, -, rfl⟩ := unpack_cases h
  · rw [hjudged]
    rfl
  · rfl

/-- A current of nothing, or of no number, between the bounds of a device. -/
lemma limitCurrent_void {x : Float} (h : Void x) (d : Device) :
    (d.maxCurrent < 0.0 → d.limitCurrent x = -d.maxCurrent) ∧
      (¬ d.maxCurrent < 0.0 → IsZero (d.limitCurrent x)) := by
  rw [limitCurrent]
  exact h.finite.within d.maxCurrent

lemma currentSteps_zero {x : Float} (h : IsZero x) (d : Device) : d.currentSteps x = 0 := by
  rw [currentSteps]
  exact (Void.div (.inl h) d.currentScale).toInt16

/-- **The command of a device without effort** asks for no current, unless the greatest current
is below zero; and one with a halt does not switch the output on. -/
theorem pack_zero_effort {halt reset : Bool} {frame : Bytes} {d d' : Device} {w w' : μ}
    (h : d.pack models halt reset w = (frame, d', w'))
    (hzero : halt = true ∨ (d.actuator.command.effort == 0.0) = true) :
    ∃ c, CommandFrame.decode frame = .ok c ∧
      (c.programmedCurrent =
        if d.maxCurrent < 0.0 then d.currentSteps (-d.maxCurrent) else 0) ∧
      (halt = true → Mode.has c.mode Mode.enable = false) := by
  obtain ⟨hlimits, hframe, heffort⟩ := pack_limits models h
  refine ⟨d'.commandFrame halt reset, by rw [hframe, CommandFrame.decode_encode], ?_, ?_⟩
  · have hnone : IsZero d'.actuator.command.effort := by
      rw [heffort]
      split
      · exact isZero_literal
      · next hhalt => exact isZero_of_beq (hzero.resolve_left hhalt)
    have hvoid : Void (d'.currentFor d'.actuator.command.effort) := by
      rw [currentFor]
      exact (Void.div (.inl hnone) _).div _
    obtain ⟨hbelow, habove⟩ := limitCurrent_void hvoid d'
    have hsteps (x : Float) : d'.currentSteps x = d.currentSteps x := by
      rw [currentSteps, currentSteps, currentScale, currentScale, hlimits.configInfo]
    rw [hlimits.maxCurrent] at hbelow habove
    rw [commandFrame]
    by_cases hneg : d.maxCurrent < 0.0
    · rw [if_pos hneg, hbelow hneg, hsteps]
    · rw [if_neg hneg, currentSteps_zero (habove hneg)]
  · rintro rfl
    rw [commandFrame, has_enable_commandMode, Bool.not_true, Bool.and_false, Bool.false_and]

end Calls

/-! The greatest current in a run. -/

/-- A limit below zero comes from the factory configuration, or from a valid record of the
motor. -/
lemma Settled.below_zero {d : Device} (h : d.Settled) (hneg : d.maxCurrent < 0.0) :
    d.configInfo.boardMaxCurrent < 0.0 ∨
      d.actuatorInfo.verifyCrc = true ∧ d.actuatorInfo.maxCurrent.value < 0.0 := by
  rw [h.maxCurrent] at hneg
  split at hneg
  · next hvalid =>
    rw [Bound.lesser] at hneg
    split at hneg
    · exact .inr ⟨hvalid, hneg⟩
    · exact .inl hneg
  · exact .inl hneg

section Runs

variable {σ μ : Type} {link : Link σ} {models : Models μ} {s s' : Stage σ μ} {e : Event}
  {history : List Event}

/-- A bring-up that came to its end at some time, and left this greatest current behind. -/
def Allowed (link : Link σ) (models : Models μ) (x : Float) (s₁ : Stage σ μ) : Prop :=
  s₁.device.maxCurrent = x ∧ s₁.device.Settled ∧
    ∃ (history : List Event) (s₀ : Stage σ μ) (claim allowUnprogrammed : Bool),
      Run link models history s₀ ∧
        bringUp link models claim allowUnprogrammed s₀ = (.ok (), s₁)

/-- A step leaves the greatest current alone, unless it is a bring-up that comes to its end. -/
lemma Step.maxCurrent (h : Step link models s e s') :
    s'.device.maxCurrent = s.device.maxCurrent ∨ s'.device.Settled ∧
      ∃ claim allowUnprogrammed,
        Device.bringUp link models claim allowUnprogrammed s = (.ok (), s') := by
  cases h with
  | @bringUp _ claim allowUnprogrammed r hcall =>
    have hends := @bringUp_settles _ _ link models s.device.maxCurrent claim allowUnprogrammed s rfl
    rw [hcall] at hends
    cases r with
    | ok => exact .inr ⟨hends, _, _, hcall⟩
    | error => exact .inl hends
  | attachMotorModel hcall =>
    obtain ⟨_, _, rfl⟩ := attachMotorModel_cases hcall
    exact .inl rfl
  | pack hcall => exact .inl (pack_limits models hcall).1.maxCurrent
  | unpack hcall => exact .inl (unpack_maxCurrent models hcall)
  | collect hcall =>
    have hkept : KeepsDevice (fun d => d.maxCurrent = s.device.maxCurrent)
        (Device.collect link) :=
      collect_aloof (fun _ _ => id) fun _ _ => id
    exact .inl (hkept.after rfl hcall fun _ _ => trivial)
  | publish hcall =>
    rw [Monitor.publish] at hcall
    cases hcall
    exact .inl rfl
  | clear hcall =>
    cases hcall
    exact .inl rfl
  | publishTrace | die | control | around => exact .inl rfl

namespace Run

/-- The greatest current is zero until a bring-up comes to its end, and then what such a bring-up
has settled. -/
theorem maxCurrent (hr : Run link models history s) :
    s.device.maxCurrent = 0.0 ∨ ∃ s₁, Allowed link models s.device.maxCurrent s₁ := by
  induction hr with
  | created hcreate =>
    rw [create_ok hcreate]
    exact .inl rfl
  | @step history s s' e hr hstep ih =>
    obtain hsame | ⟨hsettled, claim, allowUnprogrammed, hcall⟩ := hstep.maxCurrent
    · rw [hsame]
      exact ih
    · exact .inr ⟨s', rfl, hsettled, history, s, claim, allowUnprogrammed, hr, hcall⟩

/-- The record of a motor that stands a current. -/
def ratedInfo (x : Binary64) : ActuatorInfo :=
  ((ActuatorInfo.blank.setVersion 0 2).setMotorConstants ⟨x, .zero, .zero, .zero⟩).generateCrc

/-- A driver that has brought up a board with such a record. -/
lemma exists_rated (x : Binary64) (hversion : (ratedInfo x).major = 0 ∧ (ratedInfo x).minor = 2) :
    ∃ s : Stage Ring StandIns, Run Ring.link StandIns.models [.other] s ∧
      s.device.actuatorInfo.verifyCrc = true ∧ s.device.configInfo = {} ∧
      s.device.maxCurrent =
        Bound.lesser (ConfigInfo.boardMaxCurrent {}) (ratedInfo x).maxCurrent.value := by
  have hvalid : (ratedInfo x).verifyCrc = true := ActuatorInfo.verifyCrc_generateCrc _
  obtain ⟨s, hcall, hsettled, hinfo, hconfig, -⟩ := bringUp_programmed (ratedInfo x) .zero hvalid
    hversion
  have hcreate : create fresh.config fresh.slave none = .ok fresh := rfl
  have hfresh : Run Ring.link StandIns.models []
    ⟨fresh, {}, {}, ⟨.programmed (ratedInfo x) .zero, 0⟩⟩ := .created hcreate
  refine ⟨s, hfresh.step (.bringUp hcall), by rw [hinfo, hvalid], hconfig, ?_⟩
  rw [hsettled.maxCurrent, hinfo, hconfig, if_pos hvalid]

/-- **No effort commands no current, unless the greatest current is below zero.**  In any run of a
driver, a command with a halt, or without effort, asks for no current and with a halt does not
switch the output on.  Where the greatest current is below zero, its opposite is asked for
instead; and then a bring-up has found it so in the factory configuration or in a valid record of
the motor. -/
theorem zero_effort (hr : Run link models history s) {halt reset : Bool} {frame : Bytes}
    {d : Device} {w : μ} (h : s.device.pack models halt reset s.world = (frame, d, w))
    (hzero : halt = true ∨ (s.device.actuator.command.effort == 0.0) = true) :
    (∃ c, CommandFrame.decode frame = .ok c ∧
      (c.programmedCurrent = if s.device.maxCurrent < 0.0 then
        s.device.currentSteps (-s.device.maxCurrent) else 0) ∧
      (halt = true → Mode.has c.mode Mode.enable = false)) ∧
    (s.device.maxCurrent < 0.0 → ∃ s₁, Allowed link models s.device.maxCurrent s₁ ∧
      (s₁.device.configInfo.boardMaxCurrent < 0.0 ∨
        s₁.device.actuatorInfo.verifyCrc = true ∧
          s₁.device.actuatorInfo.maxCurrent.value < 0.0)) := by
  refine ⟨pack_zero_effort models h hzero, fun hneg => ?_⟩
  obtain hnone | ⟨s₁, hallowed⟩ := hr.maxCurrent
  · rw [hnone] at hneg
    exact absurd hneg (by decide)
  · refine ⟨s₁, hallowed, hallowed.2.1.below_zero ?_⟩
    rw [hallowed.1]
    exact hneg

/-- A motor that stands three amperes: a driver that is told to halt asks for none. -/
theorem zero_effort_halted :
    ∃ (history : List Event) (s : Stage Ring StandIns) (frame : Bytes) (d : Device) (w : StandIns)
      (c : CommandFrame),
      Run Ring.link StandIns.models history s ∧ s.device.actuatorInfo.verifyCrc = true ∧
        s.device.pack StandIns.models true false s.world = (frame, d, w) ∧
        CommandFrame.decode frame = .ok c ∧ c.programmedCurrent = 0 ∧
        Mode.has c.mode Mode.enable = false := by
  obtain ⟨s, hr, hvalid, hconfig, hmax⟩ := exists_rated ⟨0x4008000000000000⟩ (by decide +kernel)
  have hrated : (ratedInfo ⟨0x4008000000000000⟩).maxCurrent = ⟨0x4008000000000000⟩ := by
    decide +kernel
  rw [hrated] at hmax
  rcases hpack : s.device.pack StandIns.models true false s.world with ⟨frame, d, w⟩
  obtain ⟨⟨c, hdecode, hcurrent, hmode⟩, -⟩ := zero_effort hr hpack (.inl rfl)
  refine ⟨_, s, frame, d, w, c, hr, hvalid, hpack, hdecode, hcurrent.trans ?_, hmode rfl⟩
  rw [hmax]
  exact if_neg (by decide +kernel)

/-- A motor that stands minus five amperes: a driver that is told to halt asks for the greatest
current there is. -/
theorem halted_below_zero :
    ∃ (history : List Event) (s : Stage Ring StandIns) (frame : Bytes) (d : Device) (w : StandIns)
      (c : CommandFrame),
      Run Ring.link StandIns.models history s ∧ s.device.actuatorInfo.verifyCrc = true ∧
        s.device.pack StandIns.models true false s.world = (frame, d, w) ∧
        CommandFrame.decode frame = .ok c ∧ c.programmedCurrent = 0x7FFF := by
  obtain ⟨s, hr, hvalid, hconfig, hmax⟩ := exists_rated ⟨0xC014000000000000⟩ (by decide +kernel)
  have hrated : (ratedInfo ⟨0xC014000000000000⟩).maxCurrent = ⟨0xC014000000000000⟩ := by
    decide +kernel
  rw [hrated] at hmax
  rcases hpack : s.device.pack StandIns.models true false s.world with ⟨frame, d, w⟩
  obtain ⟨c, hdecode, hcurrent, -⟩ := pack_zero_effort StandIns.models hpack (.inl rfl)
  refine ⟨_, s, frame, d, w, c, hr, hvalid, hpack, hdecode, hcurrent.trans ?_⟩
  rw [currentSteps, currentScale, hconfig, hmax]
  decide +kernel

end Run

end Runs

end Device

end MotorBoard
