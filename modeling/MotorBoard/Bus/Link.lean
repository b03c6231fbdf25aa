/-
# The link to the ring

A link sends a frame of telegrams and tells whether it came back.  It also has a clock and
can pause, which is all that a caller needs to poll with a time limit.  A frame that does
not come back is lost, but the slaves may have acted on it all the same.

The clock stands still for a caller that polls without a pause, so no time limit ends its
wait.  For this case a link tells after how many polls its ring has settled, which means
that the same poll is answered alike from then on.  A wait that outlasts this number will
never end.

On top of this stand the exchange with a number of attempts and the plain read and write
of a slave's memory, which insist that exactly one slave acted.
-/
import MotorBoard.Bus.Telegram
import MotorBoard.Call

namespace MotorBoard

/-- How the sending of a frame ended. -/
inductive Exchange where
  /-- The frame came back with these telegrams. -/
  | returned (telegrams : List Telegram)
  /-- The frame was lost; the telegrams are what the sender is left with. -/
  | lost (telegrams : List Telegram)
  /-- The bus died. -/
  | died
deriving DecidableEq, Repr

/-- Access to a ring whose state is in `σ`. -/
structure Link (σ : Type) where
  /-- Sends one frame and waits for it. -/
  exchange : List Telegram → σ → Exchange × σ
  /-- Waits for a number of microseconds. -/
  pause : Nat → σ → σ
  /-- The clock, in microseconds. -/
  clock : σ → Nat
  /-- After how many polls, each one frame at least, the ring has settled. -/
  settling : σ → Nat

/-- What a sender has after its last attempt. -/
structure Delivery where
  /-- Whether a frame came back. -/
  returned : Bool
  telegrams : List Telegram
  /-- How many frames were sent. -/
  sends : Nat
deriving DecidableEq, Repr

namespace Delivery

/-- The working counter of a telegram. -/
def counter (d : Delivery) (i : Nat) : UInt16 := (d.telegrams[i]?.map (·.workingCounter)).getD 0

/-- The data of the first telegram. -/
def data (d : Delivery) : Bytes := (d.telegrams.head?.map (·.data)).getD []

/-- How many frames were lost. -/
def dropped (d : Delivery) : Nat := if d.returned then d.sends - 1 else d.sends

end Delivery

namespace Link

variable {σ : Type} (link : Link σ)

/-- Waits for a number of microseconds. -/
def wait (us : Nat) : Call σ Unit := Call.modify (link.pause us)

/-- The clock, in microseconds. -/
def now : Call σ Nat := fun s => (.ok (link.clock s), s)

/-- After how many polls the ring has settled. -/
def untilSettled : Call σ Nat := fun s => (.ok (link.settling s), s)

/-- Sends one frame once.  The telegrams of a lost frame are rewound. -/
def sendOnce (telegrams : List Telegram) : Call σ Delivery := fun s =>
  match link.exchange telegrams s with
  | (.returned ts, s') => (.ok ⟨true, ts, 1⟩, s')
  | (.lost ts, s') => (.ok ⟨false, ts.map Telegram.rewound, 1⟩, s')
  | (.died, s') => (.error .died, s')

/-- Sends a frame until it comes back, at most `attempts` times. -/
def send (telegrams : List Telegram) : Nat → Call σ Delivery
  | 0 => pure ⟨false, telegrams, 0⟩
  | attempts + 1 => do
    let d ← link.sendOnce telegrams
    if d.returned then return d
    let d' ← send d.telegrams attempts
    return { d' with sends := d'.sends + 1 }

/-- How often the plain reads and writes of memory send their frame. -/
def plainAttempts : Nat := 5

/-- Sends a telegram on which exactly one slave has to act, and gives the data that it comes
back with.  Errors name the access. -/
def insist (telegram : Telegram) (access : String) : Call σ Bytes := do
  let d ← link.send [telegram] plainAttempts
  if !d.returned then
    Call.fail (.packetLoss s!"{access} not answered")
  else if d.counter 0 = 1 then
    return d.data
  else if d.counter 0 = 0 then
    Call.fail (.workingCounter s!"{access} refused")
  else
    Call.fail (.multipleResponders (d.counter 0))

/-- Reads a slave's memory. -/
def readMemory (addressing : Addressing) (slave address : UInt16) (length : Nat) :
    Call σ Bytes :=
  link.insist (.read addressing slave address length) s!"read of 0x{Text.hex 4 address.toNat}"

/-- Writes a slave's memory. -/
def writeMemory (addressing : Addressing) (slave address : UInt16) (data : Bytes) :
    Call σ Unit := do
  let _ ← link.insist (.write addressing slave address data)
    s!"write of 0x{Text.hex 4 address.toNat}"
  return ()

end Link

end MotorBoard
