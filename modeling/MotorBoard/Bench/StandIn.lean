/-
# Stand-in motor models

On the bench two stand-ins take the place of the motor models.  They write down every call
and answer what they are told to answer.
-/
import MotorBoard.Models

namespace MotorBoard

/-- A call to one of the models. -/
inductive ModelCall where
  | motorSample (sample : TraceSample)
  | motorCheckPublish
  | motorVerify
  | motorFlagPublish (reason : String) (level : UInt8) (delay : UInt32)
  | motorReset
  | heatingBuild (parameters : HeatingParameters) (actuator hardwareId directory : String)
  | heatingLoad
  | heatingStart
  | heatingUpdate (sample : TraceSample) (actuator : String) (ambient duration : Float)
  | heatingOverheated
  | heatingReset

/-- The stand-ins: what they answer, and the calls so far. -/
structure StandIns where
  /-- The motor does not behave like its model. -/
  motorBad : Bool := false
  overheated : Bool := false
  /-- There is no saved temperature. -/
  loadFails : Bool := false
  /-- The thermal model does not start. -/
  startFails : Bool := false
  /-- The calls of this step, latest first. -/
  calls : List ModelCall := []

namespace StandIns

/-- Writes a call down. -/
def note (c : ModelCall) (s : StandIns) : StandIns := { s with calls := c :: s.calls }

/-- The stand-ins as the models of a device. -/
def models : Models StandIns where
  motorSample sample := note (.motorSample sample)
  motorCheckPublish := note .motorCheckPublish
  motorVerify s := (!s.motorBad, s.note .motorVerify)
  motorFlagPublish reason level delay := note (.motorFlagPublish reason level delay)
  motorReset := note .motorReset
  heatingBuild p actuator hardwareId directory :=
    note (.heatingBuild p actuator hardwareId directory)
  heatingLoad s :=
    (if s.loadFails then .error (.invalidParameter "no saved state") else .ok (),
      s.note .heatingLoad)
  heatingStart s :=
    (if s.startFails then .error (.invalidParameter "heating model") else .ok (),
      s.note .heatingStart)
  heatingUpdate sample actuator ambient duration :=
    note (.heatingUpdate sample actuator.name ambient duration)
  heatingOverheated s := (s.overheated, s.note .heatingOverheated)
  heatingReset := note .heatingReset

end StandIns

end MotorBoard
