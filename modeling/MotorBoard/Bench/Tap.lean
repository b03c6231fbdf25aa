/-
# A tap in the ring

On the bench a tap sits between the driver and the simulated board.  It counts the frames
of a step, it can record them, and it edits chosen frames: it loses them before or after
the board has acted, changes what comes back, or kills the bus.
-/
import MotorBoard.Board.Exchange

namespace MotorBoard

/-- What the tap does to one frame. -/
structure Edit where
  /-- The number of the frame in its step, from zero on. -/
  frame : Nat
  /-- The bus dies with the frame. -/
  kills : Bool := false
  /-- The frame is lost before the board sees it. -/
  drops : Bool := false
  /-- The frame is lost after the board has acted on it. -/
  loses : Bool := false
  /-- New working counters, one place for each telegram. -/
  counters : List (Option UInt16) := []
  /-- New first bytes of the data, one place for each telegram. -/
  data : List (Option Bytes) := []
deriving DecidableEq, Repr

namespace Edit

/-- A telegram with a new working counter and new first bytes of its data. -/
def applyTo (counter : Option UInt16) (data : Option Bytes) (t : Telegram) : Telegram :=
  let t := match counter with
    | some n => { t with workingCounter := n }
    | none => t
  match data with
  | some d => { t with data := d.take t.data.length ++ t.data.drop d.length }
  | none => t

/-- The telegrams of a frame with the changes of an edit. -/
def apply (e : Edit) (telegrams : List Telegram) : List Telegram :=
  telegrams.zipIdx.map fun (t, i) => applyTo (e.counters[i]?.join) (e.data[i]?.join) t

end Edit

/-- A frame as it passed the tap on its way back. -/
structure FrameRecord where
  returned : Bool
  telegrams : List Telegram
deriving DecidableEq, Repr

/-- A ring with a tap. -/
structure Bench where
  ring : Ring
  /-- The edits of this step. -/
  edits : List Edit := []
  /-- The frames sent in this step. -/
  frames : Nat := 0
  /-- Whether frames are recorded. -/
  recording : Bool := false
  /-- The frames of this step, latest first. -/
  records : List FrameRecord := []

namespace Bench

/-- The bench at the beginning of a step. -/
def beginStep (edits : List Edit) (b : Bench) : Bench :=
  { b with edits := edits, frames := 0, records := [] }

/-- The bench after a frame was recorded. -/
def record (returned : Bool) (telegrams : List Telegram) (b : Bench) : Bench :=
  if b.recording then { b with records := ⟨returned, telegrams⟩ :: b.records } else b

/-- What comes back after the changes of an edit. -/
def edited (e : Edit) : Exchange → Exchange
  | .returned ts => if e.loses then .lost (e.apply ts) else .returned (e.apply ts)
  | .lost ts => .lost (e.apply ts)
  | .died => .died

/-- What the ring gives back for a frame, edited where an edit is meant for it. -/
def pass (telegrams : List Telegram) (edit : Option Edit) (r : Ring) : Exchange × Ring :=
  match edit with
  | none => Ring.link.exchange telegrams r
  | some e =>
    if e.kills then (.died, r)
    else if e.drops then (edited e (.lost telegrams), r)
    else
      let (x, r) := Ring.link.exchange telegrams r
      (edited e x, r)

/-- Sends a frame through the tap. -/
def exchange (telegrams : List Telegram) (b : Bench) : Exchange × Bench :=
  let edit := b.edits.find? fun e => e.frame == b.frames
  let (x, ring) := pass telegrams edit b.ring
  let b := { b with ring := ring, frames := b.frames + 1 }
  match x with
  | .returned ts => (x, b.record true ts)
  | .lost ts => (x, b.record false ts)
  | .died => (x, b)

/-- How many frames there are up to the last one that will still be edited. -/
def pending (b : Bench) : Nat :=
  (b.edits.map fun e => e.frame + 1 - b.frames).foldl max 0

/-- The link through the tap.  What the tap loses on the way there uses no fault up, so the
frames with edits count in full. -/
def link : Link Bench where
  exchange := exchange
  pause us b := { b with ring := Ring.link.pause us b.ring }
  clock b := Ring.link.clock b.ring
  settling b := Ring.link.settling b.ring + b.pending

/-- Changes the board from outside. -/
def changeBoard (f : Board → Board) (b : Bench) : Bench :=
  { b with ring := { b.ring with board := f b.ring.board } }

end Bench

end MotorBoard
