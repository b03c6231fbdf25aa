/-
# The actuator record

The record says which actuator a board drives and how its motor and encoder are built.  It
fills the last page of the memory chip, and it carries two checks: one within the first
256 bytes, for chips with small pages, and one at the end of the 264 bytes.  A record is
valid when either of them fits.
-/
import MotorBoard.Bytes.Image
import MotorBoard.Crc32
import MotorBoard.Error
import MotorBoard.Text.Messages

namespace MotorBoard

/-- What a motor is built like. -/
structure MotorConstants where
  maxCurrent : Binary64
  speedConstant : Binary64
  resistance : Binary64
  torqueConstant : Binary64
deriving DecidableEq, Repr

/-- The record about an actuator, as the bytes of its page. -/
structure ActuatorInfo where
  /-- The page as read. -/
  image : Image 264
deriving DecidableEq

namespace ActuatorInfo

/-- The size of the record. -/
def size : Nat := 264

/-- The page that holds the record. -/
def page : UInt16 := 4095

def majorField : Field := ⟨0, 2⟩
def minorField : Field := majorField.after 2
def idField : Field := minorField.after 4
def nameField : Field := idField.after 64
def robotNameField : Field := nameField.after 32
def motorMakeField : Field := robotNameField.after 32
def motorModelField : Field := motorMakeField.after 32
def maxCurrentField : Field := motorModelField.after 8
def speedConstantField : Field := maxCurrentField.after 8
def resistanceField : Field := speedConstantField.after 8
def torqueConstantField : Field := resistanceField.after 8
def reductionField : Field := torqueConstantField.after 8
def pulsesField : Field := reductionField.after 4

/-- The check of the 252 bytes before it. -/
def smallCrcField : Field := ⟨252, 4⟩

/-- The check of the 260 bytes before it. -/
def largeCrcField : Field := ⟨260, 4⟩

/-- The record with zeros everywhere. -/
def blank : ActuatorInfo := ⟨Image.filled 264 0⟩

/-- The record at the start of a page. -/
def ofPage (b : Bytes) : Except Error ActuatorInfo := do
  requireLength b.length size "actuator info"
  return ⟨Image.ofBytes 264 0 b⟩

/-- The bytes of the record. -/
def bytes (a : ActuatorInfo) : Bytes := a.image.bytes

def major (a : ActuatorInfo) : UInt16 := a.image.word16 majorField
def minor (a : ActuatorInfo) : UInt16 := a.image.word16 minorField
def id (a : ActuatorInfo) : UInt32 := a.image.word32 idField

/-- The name of the actuator. -/
def name (a : ActuatorInfo) : String := a.image.text nameField

def robotName (a : ActuatorInfo) : String := a.image.text robotNameField
def motorMake (a : ActuatorInfo) : String := a.image.text motorMakeField
def motorModel (a : ActuatorInfo) : String := a.image.text motorModelField

/-- The greatest current that the motor stands. -/
def maxCurrent (a : ActuatorInfo) : Binary64 := a.image.binary64 maxCurrentField

def speedConstant (a : ActuatorInfo) : Binary64 := a.image.binary64 speedConstantField
def resistance (a : ActuatorInfo) : Binary64 := a.image.binary64 resistanceField
def torqueConstant (a : ActuatorInfo) : Binary64 := a.image.binary64 torqueConstantField

/-- The gear between motor and joint. -/
def reduction (a : ActuatorInfo) : Binary64 := a.image.binary64 reductionField

/-- Encoder ticks in a turn of the joint. -/
def pulsesPerRevolution (a : ActuatorInfo) : UInt32 := a.image.word32 pulsesField

def smallCrc (a : ActuatorInfo) : UInt32 := a.image.word32 smallCrcField
def largeCrc (a : ActuatorInfo) : UInt32 := a.image.word32 largeCrcField

def setVersion (major minor : UInt16) (a : ActuatorInfo) : ActuatorInfo :=
  ⟨(a.image.put majorField (Bytes.ofWord16 major)).put minorField (Bytes.ofWord16 minor)⟩

def setId (id : UInt32) (a : ActuatorInfo) : ActuatorInfo :=
  ⟨a.image.put idField (Bytes.ofWord32 id)⟩

def setName (name : String) (a : ActuatorInfo) : ActuatorInfo :=
  ⟨a.image.putText nameField name⟩

def setRobotName (name : String) (a : ActuatorInfo) : ActuatorInfo :=
  ⟨a.image.putText robotNameField name⟩

def setMotor (make model : String) (a : ActuatorInfo) : ActuatorInfo :=
  ⟨(a.image.putText motorMakeField make).putText motorModelField model⟩

def setMotorConstants (c : MotorConstants) (a : ActuatorInfo) : ActuatorInfo :=
  ⟨(((a.image.put maxCurrentField (Bytes.ofWord64 c.maxCurrent.bits)).put
    speedConstantField (Bytes.ofWord64 c.speedConstant.bits)).put
    resistanceField (Bytes.ofWord64 c.resistance.bits)).put
    torqueConstantField (Bytes.ofWord64 c.torqueConstant.bits)⟩

def setEncoder (reduction : Binary64) (pulses : UInt32) (a : ActuatorInfo) : ActuatorInfo :=
  ⟨(a.image.put reductionField (Bytes.ofWord64 reduction.bits)).put
    pulsesField (Bytes.ofWord32 pulses)⟩

/-- The record with bytes written over it from an offset on, if they fit. -/
def overwrite? (offset : Nat) (new : Bytes) (a : ActuatorInfo) : Option ActuatorInfo :=
  (a.image.overwrite? offset new).map (⟨·⟩)

/-- The check that the first 252 bytes ask for. -/
def expectedSmallCrc (a : ActuatorInfo) : UInt32 := Crc32.ofPrefix a.bytes smallCrcField.offset

/-- The check that the first 260 bytes ask for. -/
def expectedLargeCrc (a : ActuatorInfo) : UInt32 := Crc32.ofPrefix a.bytes largeCrcField.offset

/-- Fills in the small check. -/
def putSmallCrc (a : ActuatorInfo) : ActuatorInfo :=
  ⟨a.image.put smallCrcField (Bytes.ofWord32 a.expectedSmallCrc)⟩

/-- Fills in the large check, which also covers the small one. -/
def putLargeCrc (a : ActuatorInfo) : ActuatorInfo :=
  ⟨a.image.put largeCrcField (Bytes.ofWord32 a.expectedLargeCrc)⟩

/-- Fills in both checks. -/
def generateCrc (a : ActuatorInfo) : ActuatorInfo := a.putSmallCrc.putLargeCrc

/-- Whether one of the checks fits.  Chips with small pages never store the large one, and
the small one may never have been written. -/
def verifyCrc (a : ActuatorInfo) : Bool :=
  a.largeCrc == a.expectedLargeCrc || a.smallCrc == a.expectedSmallCrc

/-- The record in readable form. -/
def describe (a : ActuatorInfo) : String :=
  "ActuatorInfo \x7b version: (" ++ toString a.major.toNat ++ ", " ++ toString a.minor.toNat
    ++ "), id: " ++ toString a.id.toNat ++ ", name: " ++ Text.quoted a.name
    ++ ", motor_model: " ++ Text.quoted a.motorModel ++ " \x7d"

end ActuatorInfo

end MotorBoard
