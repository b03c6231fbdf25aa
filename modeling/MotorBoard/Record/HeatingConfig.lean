/-
# The heating record

The record holds what is needed to follow the temperature of a motor's winding, and
whether an overheated motor is to be stopped at all.  It fills 256 bytes of its own page
and ends in a check.
-/
import MotorBoard.Bytes.Image
import MotorBoard.Crc32
import MotorBoard.Error

namespace MotorBoard

/-- The thermal parameters of a motor. -/
structure HeatingParameters where
  /-- Between housing and ambient, in degrees per watt. -/
  housingToAmbientResistance : Binary64 := .zero
  /-- Between winding and housing, in degrees per watt. -/
  windingToHousingResistance : Binary64 := .zero
  /-- In seconds. -/
  windingTimeConstant : Binary64 := .zero
  /-- In seconds. -/
  housingTimeConstant : Binary64 := .zero
  /-- The temperature of the winding at which the motor is stopped. -/
  maxWindingTemperature : Binary64 := .zero
deriving DecidableEq, Repr

/-- The record about the heating of a motor, as the bytes of its page. -/
structure HeatingConfig where
  image : Image 256
deriving DecidableEq

namespace HeatingConfig

/-- The size of the record. -/
def size : Nat := 256

/-- The page that holds the record. -/
def page : UInt16 := 4093

def majorField : Field := ⟨0, 2⟩
def minorField : Field := majorField.after 2
def enforceField : Field := minorField.after 1
def housingToAmbientField : Field := ⟨8, 8⟩
def windingToHousingField : Field := housingToAmbientField.after 8
def windingTimeField : Field := windingToHousingField.after 8
def housingTimeField : Field := windingTimeField.after 8
def maxTemperatureField : Field := housingTimeField.after 8

/-- The check of the 252 bytes before it. -/
def crcField : Field := ⟨252, 4⟩

/-- The record at the start of a page. -/
def ofPage (b : Bytes) : Except Error HeatingConfig := do
  requireLength b.length size "motor heating config"
  return ⟨Image.ofBytes 256 0 b⟩

/-- The bytes of the record. -/
def bytes (h : HeatingConfig) : Bytes := h.image.bytes

def major (h : HeatingConfig) : UInt16 := h.image.word16 majorField
def minor (h : HeatingConfig) : UInt16 := h.image.word16 minorField

/-- Whether an overheated motor is to be stopped. -/
def enforce (h : HeatingConfig) : Bool := h.bytes.byteAt enforceField.offset != 0

/-- The thermal parameters. -/
def parameters (h : HeatingConfig) : HeatingParameters where
  housingToAmbientResistance := h.image.binary64 housingToAmbientField
  windingToHousingResistance := h.image.binary64 windingToHousingField
  windingTimeConstant := h.image.binary64 windingTimeField
  housingTimeConstant := h.image.binary64 housingTimeField
  maxWindingTemperature := h.image.binary64 maxTemperatureField

def setVersion (major minor : UInt16) (h : HeatingConfig) : HeatingConfig :=
  ⟨(h.image.put majorField (Bytes.ofWord16 major)).put minorField (Bytes.ofWord16 minor)⟩

def setEnforce (enforce : Bool) (h : HeatingConfig) : HeatingConfig :=
  ⟨h.image.put enforceField [if enforce then 1 else 0]⟩

def setParameters (p : HeatingParameters) (h : HeatingConfig) : HeatingConfig :=
  ⟨((((h.image.put housingToAmbientField (Bytes.ofWord64 p.housingToAmbientResistance.bits)).put
    windingToHousingField (Bytes.ofWord64 p.windingToHousingResistance.bits)).put
    windingTimeField (Bytes.ofWord64 p.windingTimeConstant.bits)).put
    housingTimeField (Bytes.ofWord64 p.housingTimeConstant.bits)).put
    maxTemperatureField (Bytes.ofWord64 p.maxWindingTemperature.bits)⟩

/-- The record with bytes written over it from an offset on, if they fit. -/
def overwrite? (offset : Nat) (new : Bytes) (h : HeatingConfig) : Option HeatingConfig :=
  (h.image.overwrite? offset new).map (⟨·⟩)

def crc (h : HeatingConfig) : UInt32 := h.image.word32 crcField

/-- The check that the first 252 bytes ask for. -/
def expectedCrc (h : HeatingConfig) : UInt32 := Crc32.ofPrefix h.bytes crcField.offset

/-- Fills in the check. -/
def generateCrc (h : HeatingConfig) : HeatingConfig :=
  ⟨h.image.put crcField (Bytes.ofWord32 h.expectedCrc)⟩

/-- Whether the check fits. -/
def verifyCrc (h : HeatingConfig) : Bool := h.crc == h.expectedCrc

/-- A record of the first version with its check. -/
def make (p : HeatingParameters) (enforce : Bool) : HeatingConfig :=
  ((((⟨Image.filled 256 0⟩ : HeatingConfig).setVersion 1 0).setEnforce enforce).setParameters
    p).generateCrc

end HeatingConfig

end MotorBoard
