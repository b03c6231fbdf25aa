/-
# The machine inside a driver

A driver owns one machine, and all that happens to the machine happens through the calls of
the driver.  So a run of a driver contains a run of its machine, and the frames that this
machine verifies are the status frames of the driver that could be read, with the same
verdicts and in the same order.  What is known of all runs of a machine is known of every
driver.

The main results are

* `Device.Step.machine`: what one step of a driver does to its machine;
* `Device.Run.machine`: the run of the machine in a run of a driver.
-/
import MotorBoard.Proofs.Cycle.Drops
import MotorBoard.Proofs.Device.Interlock

namespace MotorBoard

namespace Device

/-- The frame that an event verified, if there is one, with its verdict. -/
def Event.verdict? : Event → Option (StatusFrame × Option CycleFault)
  | unpacked this prev fault => (statusRead this prev).map fun status => (status, fault)
  | _ => none

/-- The status frames that could be read, with their verdicts. -/
def verdicts (history : List Event) : List (StatusFrame × Option CycleFault) :=
  history.filterMap Event.verdict?

section Machine

variable {μ : Type} {models : Models μ} {limits : CycleLimits} {events : List CycleEvent}
  {d d' : Device} {w w' : μ}

/-- A command is seen by the machine as a change of the reset, which clears the errors before
it when the reset begins. -/
lemma pack_machine {halt reset : Bool} {frame : Bytes}
    (h : d.pack models halt reset w = (frame, d', w'))
    (hr : CycleMachine.Run limits events d.cycle) :
    ∃ newer, CycleMachine.Run limits (newer ++ events) d'.cycle ∧
      CycleEvent.verdicts newer = [] := by
  rw [pack_cycle h]
  cases reset with
  | false => exact ⟨[.resetting false], hr.step .setResetting, rfl⟩
  | true => exact ⟨[.resetting true, .cleared], (hr.step .clear).step .setResetting, rfl⟩

/-- A status frame is verified by the machine when it can be read. -/
lemma unpack_machine {this prev : Bytes} {fault : Option CycleFault}
    (h : d.unpack models this prev w = (fault, d', w'))
    (hr : CycleMachine.Run limits events d.cycle) :
    ∃ newer, CycleMachine.Run limits (newer ++ events) d'.cycle ∧
      CycleEvent.verdicts newer = (Event.unpacked this prev fault).verdict?.toList := by
  rcases unpack_cases h with ⟨status, prevStatus, _, _, _, _, hread, hv, -⟩ | ⟨hread, -, rfl⟩
  · refine ⟨_ :: [.timed], (hr.step .accumulateTime).step (.verify hv), ?_⟩
    simp [CycleEvent.verdicts, Event.verdict?, hread]
  · refine ⟨[.unreadable], hr.step .recordChecksumError, ?_⟩
    simp [CycleEvent.verdicts, Event.verdict?, hread]

/-- A report may tell the machine of a reset of the board's logic. -/
lemma publish_machine {m m' : Monitor} {report : Report} (h : m.publish d = (report, m', d'))
    (hr : CycleMachine.Run limits events d.cycle) :
    ∃ newer, CycleMachine.Run limits (newer ++ events) d'.cycle ∧
      CycleEvent.verdicts newer = [] := by
  rw [publish_cycle h]
  cases Monitor.infersReset d.cycle.flags m'.published.status.held with
  | false =>
    rw [Bool.or_false]
    exact ⟨[], hr, rfl⟩
  | true =>
    rw [Bool.or_true]
    exact ⟨[.resetSeen], hr.step .detectReset, rfl⟩

end Machine

section Runs

variable {σ μ : Type} {link : Link σ} {models : Models μ} {s s' : Stage σ μ} {e : Event}
  {history : List Event}

/-- What one step of a driver does to its machine: it goes on with events of its own, and it
verifies the frame that the step could read. -/
theorem Step.machine (h : Step link models s e s') {limits : CycleLimits}
    {events : List CycleEvent} (hr : CycleMachine.Run limits events s.device.cycle) :
    ∃ newer, CycleMachine.Run limits (newer ++ events) s'.device.cycle ∧
      CycleEvent.verdicts newer = e.verdict?.toList := by
  cases h with
  | bringUp hcall =>
    have hsame := (bringUp_keeps _ _).after (.refl s.device) hcall fun _ _ => trivial
    rw [hsame.cycle]
    exact ⟨[], hr, rfl⟩
  | attachMotorModel hcall =>
    rw [(attachMotorModel_same hcall).cycle]
    exact ⟨[], hr, rfl⟩
  | pack hcall => exact pack_machine hcall hr
  | unpack hcall => exact unpack_machine hcall hr
  | clear hcall =>
    cases hcall
    exact ⟨[.cleared], hr.step .clear, rfl⟩
  | collect hcall =>
    have hsame := collect_keeps.after (.refl s.device) hcall fun _ _ => trivial
    rw [hsame.cycle]
    exact ⟨[], hr, rfl⟩
  | publish hcall => exact publish_machine hcall hr
  | die => exact ⟨[.resetting false], hr.step .setResetting, rfl⟩
  | publishTrace | control | around => exact ⟨[], hr, rfl⟩

/-- **A run of a driver contains a run of its machine**, which verifies the status frames that
could be read. -/
theorem Run.machine (hr : Run link models history s) :
    ∃ limits events, CycleMachine.Run limits events s.device.cycle ∧
      CycleEvent.verdicts events = verdicts history := by
  induction hr with
  | @created config _ _ _ _ _ _ hcreate =>
    rw [create_ok hcreate]
    exact ⟨config.cyclic, [], .fresh, rfl⟩
  | @step history s s' e _ hstep ih =>
    obtain ⟨limits, events, hevents, hverdicts⟩ := ih
    obtain ⟨newer, hnewer, hread⟩ := hstep.machine hevents
    refine ⟨limits, newer ++ events, hnewer, ?_⟩
    rw [CycleEvent.verdicts, List.filterMap_append, ← CycleEvent.verdicts, ← CycleEvent.verdicts,
      hread, hverdicts, verdicts, verdicts, List.filterMap_cons]
    cases e.verdict? <;> rfl

end Runs

end Device

end MotorBoard
