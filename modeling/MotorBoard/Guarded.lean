/-
# Values behind a lock

A value that several parties use stands behind a lock.  A holder that dies leaves the lock
poisoned.  The next one who asks for it gets nothing, but the failure is counted in the
value itself and the poison is cleared, so that the one after that is served again.
Asking without waiting may also find the lock held by somebody else.
-/
import MotorBoard.Call

namespace MotorBoard

/-- The condition of a lock. -/
inductive LockState where
  | free
  | held
  /-- Its holder died. -/
  | poisoned
deriving DecidableEq, Repr

/-- Values that count how often their lock could not be had. -/
class CountsLockErrors (α : Type) where
  /-- The value after one more failure. -/
  countLockError : α → α

export CountsLockErrors (countLockError)

/-- A value behind a lock. -/
structure Guarded (α : Type) where
  /-- The name in messages. -/
  name : String
  value : α
  lock : LockState := .free
deriving Repr

/-- How asking for a lock without waiting ended. -/
inductive Availability where
  | acquired
  /-- Somebody else holds it. -/
  | busy
  /-- It was poisoned; that was counted. -/
  | failed
deriving DecidableEq, Repr

namespace Guarded

variable {α β σ : Type} [CountsLockErrors α]

/-- The value with the poison counted and cleared. -/
def recovered (g : Guarded α) : Guarded α :=
  { g with value := countLockError g.value, lock := .free }

/-- Waits for the lock and changes the value under it.  A lock held by somebody else is
waited for, so that it is free when it is had. -/
def update (f : α → β × α) (g : Guarded α) : Except Error β × Guarded α :=
  match g.lock with
  | .poisoned => (.error (.lockFailed g.name), g.recovered)
  | _ =>
    let r := f g.value
    (.ok r.1, { g with value := r.2, lock := .free })

/-- Waits for the lock and copies the value. -/
def snapshot (g : Guarded α) : Except Error α × Guarded α := g.update fun a => (a, a)

/-- Asks for the lock without waiting and changes the value when it is had. -/
def tryUpdate (f : α → α) (g : Guarded α) : Availability × Guarded α :=
  match g.lock with
  | .free => (.acquired, { g with value := f g.value })
  | .held => (.busy, g)
  | .poisoned => (.failed, g.recovered)

/-- Waits for the lock and keeps it. -/
def acquire (g : Guarded α) : Except Error Unit × Guarded α :=
  match g.lock with
  | .poisoned => (.error (.lockFailed g.name), g.recovered)
  | _ => (.ok (), { g with lock := .held })

omit [CountsLockErrors α] in
/-- The holder gives the lock back. -/
def release (g : Guarded α) : Guarded α := { g with lock := .free }

omit [CountsLockErrors α] in
/-- The holder dies; a lock that is not held takes no harm. -/
def abandon (g : Guarded α) : Guarded α :=
  match g.lock with
  | .held => { g with lock := .poisoned }
  | _ => g

/-- Runs a call on the value under the lock, next to another state.  A call that dies
leaves the lock poisoned, and one that never ends keeps it. -/
def locked (m : Call (α × σ) β) : Call (Guarded α × σ) β := fun s =>
  match s.1.lock with
  | .poisoned => (.error (.failed (.lockFailed s.1.name)), (s.1.recovered, s.2))
  | _ =>
    match m (s.1.value, s.2) with
    | (.error .died, v, t) => (.error .died, { s.1 with value := v, lock := .poisoned }, t)
    | (.error .stalled, v, t) => (.error .stalled, { s.1 with value := v, lock := .held }, t)
    | (r, v, t) => (r, { s.1 with value := v, lock := .free }, t)

end Guarded

end MotorBoard
