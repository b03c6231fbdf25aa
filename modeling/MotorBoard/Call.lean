/-
# Calls that change a state and may stop

Everything that talks to a board does so step by step and may stop on the way: because it
fails for a cause that its caller can handle, because the bus dies under it, or because it
would poll for ever.  Whichever way it ends, what it did until then has been done, so a
call returns the state that it reached together with its result.

* `Call.attempt` turns a failure into a value; a death and an endless wait pass through.
* `Call.within` runs a call on a part of a larger state.
* `Call.bind_apply` is the equation by which calls in sequence are evaluated.
-/
import MotorBoard.Error

namespace MotorBoard

/-- Why a call gave no result. -/
inductive Stop where
  /-- It failed for a known cause. -/
  | failed (error : Error)
  /-- The bus died while a frame was on its way. -/
  | died
  /-- It polls without pauses for what will never come. -/
  | stalled
deriving DecidableEq, Repr

/-- A call on a state `σ` with a result in `α`. -/
def Call (σ α : Type) : Type := σ → Except Stop α × σ

namespace Call

variable {σ τ α β : Type}

instance : Monad (Call σ) where
  pure a := fun s => (.ok a, s)
  bind m f := fun s =>
    match m s with
    | (.ok a, s') => f a s'
    | (.error stop, s') => (.error stop, s')

@[simp] theorem pure_apply (a : α) (s : σ) : (pure a : Call σ α) s = (.ok a, s) := rfl

theorem bind_apply (m : Call σ α) (f : α → Call σ β) (s : σ) :
    (m >>= f) s =
      match m s with
      | (.ok a, s') => f a s'
      | (.error stop, s') => (.error stop, s') := rfl

theorem bind_ok {m : Call σ α} {f : α → Call σ β} {s s' : σ} {a : α}
    (h : m s = (.ok a, s')) : (m >>= f) s = f a s' := by
  rw [bind_apply, h]

theorem bind_error {m : Call σ α} {f : α → Call σ β} {s s' : σ} {stop : Stop}
    (h : m s = (.error stop, s')) : (m >>= f) s = (.error stop, s') := by
  rw [bind_apply, h]

instance : LawfulMonad (Call σ) := by
  refine LawfulMonad.mk' (Call σ) ?_ ?_ ?_
  · intro α m
    funext s
    show (m >>= fun a => pure (id a)) s = m s
    rw [bind_apply]
    rcases m s with ⟨_ | _, _⟩ <;> rfl
  · intros
    rfl
  · intro α β γ m f g
    funext s
    simp only [bind_apply]
    rcases m s with ⟨_ | _, _⟩ <;> rfl

/-- Stops. -/
def stop (why : Stop) : Call σ α := fun s => (.error why, s)

/-- Fails for a cause. -/
def fail (e : Error) : Call σ α := stop (.failed e)

/-- The state. -/
def get : Call σ σ := fun s => (.ok s, s)

/-- Replaces the state. -/
def set (s : σ) : Call σ Unit := fun _ => (.ok (), s)

/-- Changes the state. -/
def modify (f : σ → σ) : Call σ Unit := fun s => (.ok (), f s)

/-- Takes a part of the state out and puts back the rest as a function computes it. -/
def update (f : σ → α × σ) : Call σ α := fun s =>
  let r := f s
  (.ok r.1, r.2)

/-- A result that was computed without touching the state. -/
def ofExcept : Except Error α → Call σ α
  | .ok a => pure a
  | .error e => fail e

/-- A call whose failure is a value like any other. -/
def attempt (m : Call σ α) : Call σ (Except Error α) := fun s =>
  match m s with
  | (.ok a, s') => (.ok (.ok a), s')
  | (.error (.failed e), s') => (.ok (.error e), s')
  | (.error stop, s') => (.error stop, s')

/-- A call that changes the state once more when it fails. -/
def onFailure (f : σ → σ) (m : Call σ α) : Call σ α := fun s =>
  match m s with
  | (.error (.failed e), s') => (.error (.failed e), f s')
  | r => r

end Call

/-- A part of a larger state. -/
structure Part (σ τ : Type) where
  /-- The part as it is. -/
  get : σ → τ
  /-- The state with the part replaced. -/
  put : τ → σ → σ

namespace Part

/-- The first of two. -/
def first {σ τ : Type} : Part (σ × τ) σ := ⟨Prod.fst, fun a s => (a, s.2)⟩

/-- The second of two. -/
def second {σ τ : Type} : Part (σ × τ) τ := ⟨Prod.snd, fun b s => (s.1, b)⟩

end Part

namespace Call

variable {σ τ α : Type}

/-- A call on a part, as a call on the whole. -/
def within (p : Part σ τ) (m : Call τ α) : Call σ α := fun s =>
  let r := m (p.get s)
  (r.1, p.put r.2 s)

@[simp] theorem within_apply (p : Part σ τ) (m : Call τ α) (s : σ) :
    (within p m) s = ((m (p.get s)).1, p.put (m (p.get s)).2 s) := rfl

end Call

end MotorBoard
