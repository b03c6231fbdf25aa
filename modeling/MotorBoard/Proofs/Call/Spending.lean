/-
# What a call spends

A call sends frames and takes time.  Both can be read off the state: a gauge tells the time
and how many frames were sent so far.  A call spends at most `n` frames when it comes to an
end, whichever end that is, with no more than `n` frames sent and the clock not set back.

What calls in sequence spend adds up.  The rules below follow the operations of `Call` like
those of `Call.Triple`, but they speak of the one state that a call starts from, because what
a loop with a time limit spends depends on the time at which it is entered.
-/
import MotorBoard.Proofs.Call.Triple

namespace MotorBoard

/-- What is read off a state. -/
structure Gauge (σ : Type) where
  /-- The time. -/
  clock : σ → Nat
  /-- How many frames were sent. -/
  frames : σ → Nat

namespace Gauge

variable {σ τ : Type} {g : Gauge σ} {m n : Nat} {s s' s'' : σ}

/-- The gauge of a state when something else stands beside it. -/
def beside (g : Gauge σ) : Gauge (τ × σ) := ⟨fun s => g.clock s.2, fun s => g.frames s.2⟩

/-- From one state to another at most `n` frames are sent. -/
structure Within (g : Gauge σ) (n : Nat) (s s' : σ) : Prop where
  clock : g.clock s ≤ g.clock s'
  frames : g.frames s' ≤ g.frames s + n

namespace Within

lemma refl (g : Gauge σ) (n : Nat) (s : σ) : g.Within n s s :=
  ⟨Nat.le_refl _, Nat.le_add_right _ _⟩

lemma trans (h : g.Within m s s') (h' : g.Within n s' s'') : g.Within (m + n) s s'' where
  clock := Nat.le_trans h.clock h'.clock
  frames := by
    have h₁ := h.frames
    have h₂ := h'.frames
    omega

lemma mono (h : g.Within m s s') (hn : m ≤ n) : g.Within n s s' :=
  ⟨h.clock, Nat.le_trans h.frames (Nat.add_le_add_left hn _)⟩

end Within

end Gauge

namespace Call

variable {σ τ α β : Type} {g : Gauge σ} {m : Call σ α} {n k : Nat} {s s' : σ}

/-- From the state `s` the call comes to an end and sends at most `n` frames. -/
def Spends (g : Gauge σ) (n : Nat) (m : Call σ α) (s : σ) : Prop :=
  Triple (fun t => t = s) m (fun _ => g.Within n s) fun e s' => e ≠ .stalled ∧ g.Within n s s'

namespace Spends

lemma result (h : Spends g n m s) {r : Except Stop α} (hm : m s = (r, s')) :
    r ≠ .error .stalled ∧ g.Within n s s' := by
  have h' := h s rfl
  rw [hm] at h'
  cases r with
  | ok a => exact ⟨by simp, h'⟩
  | error e => exact ⟨fun he => h'.1 (Except.error.inj he), h'.2⟩

/-- A call behind some frames that were sent already. -/
lemma after (hs : g.Within n s s') (h : Spends g k m s') :
    Triple (fun t => t = s') m (fun _ => g.Within (n + k) s)
      fun e t => e ≠ .stalled ∧ g.Within (n + k) s t :=
  Triple.mono h (fun _ => id) (fun _ _ ht => hs.trans ht) fun _ _ he => ⟨he.1, hs.trans he.2⟩

lemma mono (h : Spends g n m s) (hk : n ≤ k) : Spends g k m s :=
  Triple.mono h (fun _ => id) (fun _ _ ht => ht.mono hk) fun _ _ he => ⟨he.1, he.2.mono hk⟩

/-- Only what a call does from the one state matters. -/
lemma congr {m' : Call σ α} (h : m s = m' s) (hm : Spends g n m' s) : Spends g n m s := by
  intro t ht
  rw [ht, h]
  exact hm s rfl

lemma pure (a : α) : Spends g n (Pure.pure a : Call σ α) s :=
  Triple.pure a fun _ ht => ht ▸ .refl g n s

lemma fail (e : Error) : Spends g n (Call.fail e : Call σ α) s := by
  refine Triple.fail e fun t ht => ⟨?_, ht ▸ .refl g n s⟩
  intro he
  cases he

lemma ofExcept (x : Except Error α) : Spends g n (Call.ofExcept x : Call σ α) s := by
  cases x with
  | ok a => exact pure a
  | error e => exact fail e

lemma bind {f : α → Call σ β} (hm : Spends g n m s)
    (hf : ∀ a t, g.Within n s t → Spends g k (f a) t) : Spends g (n + k) (m >>= f) s := by
  refine Triple.bind (Triple.stop_mono hm fun e t he => ?_) fun a => .of_eq fun t ht => ?_
  · exact ⟨he.1, he.2.mono (Nat.le_add_right n k)⟩
  · exact after ht (hf a t ht)

/-- A call that sends nothing, and what comes behind it. -/
lemma bind_free {f : α → Call σ β} (hm : Spends g 0 m s)
    (hf : ∀ a t, g.Within 0 s t → Spends g n (f a) t) : Spends g n (m >>= f) s :=
  (hm.bind hf).mono (Nat.le_of_eq (Nat.zero_add n))

/-- A call behind which nothing more is sent. -/
lemma bind_last {f : α → Call σ β} (hm : Spends g n m s) (hf : ∀ a t, Spends g 0 (f a) t) :
    Spends g n (m >>= f) s :=
  hm.bind fun a t _ => hf a t

lemma ite {c : Prop} [Decidable c] {m' : Call σ α} (h : c → Spends g n m s)
    (h' : ¬ c → Spends g n m' s) : Spends g n (if c then m else m') s :=
  Triple.ite h h'

lemma attempt (h : Spends g n m s) : Spends g n (Call.attempt m) s :=
  (Triple.attempt h).post fun r _ hr => by
    cases r with
    | ok a => exact hr
    | error e => exact hr.2

lemma onFailure {f : σ → σ} (h : Spends g n m s) (hf : ∀ t, g.Within 0 t (f t)) :
    Spends g n (Call.onFailure f m) s :=
  Triple.onFailure h fun _ t he => ⟨he.1, he.2.trans (hf t)⟩

lemma second {m : Call τ α} {g : Gauge τ} {s : σ × τ} (h : Spends g n m s.2) :
    Spends g.beside n (Call.within .second m) s := by
  refine Triple.within _ fun s' hs => ?_
  subst hs
  exact Triple.mono h (fun _ => id) (fun _ _ ht => ⟨ht.clock, ht.frames⟩)
    fun _ _ he => ⟨he.1, he.2.clock, he.2.frames⟩

lemma first {g : Gauge τ} {s : σ × τ} (h : (m s.1).1 ≠ .error .stalled) :
    Spends g.beside n (Call.within .first m) s := by
  intro t ht
  rw [ht]
  have hsame : g.beside.Within n s ((m s.1).2, s.2) := ⟨Nat.le_refl _, Nat.le_add_right _ _⟩
  show Ends _ _ ((m s.1).1, (m s.1).2, s.2)
  revert h hsame
  rcases m s.1 with ⟨e | a, u⟩
  · exact fun h hsame => ⟨fun he => h (he ▸ rfl), hsame⟩
  · exact fun _ hsame => hsame

/-- The lock of a value costs nothing. -/
lemma locked [CountsLockErrors α] {m : Call (α × τ) β} {g : Gauge τ} {lock : Guarded α} {t : τ}
    (h : Spends g.beside n m (lock.value, t)) :
    Spends g.beside n (Guarded.locked m) (lock, t) := by
  rintro _ rfl
  have h' := h _ rfl
  rw [Guarded.locked]
  split
  · exact ⟨by simp, Nat.le_refl _, Nat.le_add_right _ _⟩
  · revert h'
    rcases m (lock.value, t) with ⟨(e | _ | _) | b, v, t'⟩
    · exact fun h' => ⟨h'.1, h'.2.clock, h'.2.frames⟩
    · exact fun h' => ⟨h'.1, h'.2.clock, h'.2.frames⟩
    · exact fun h' => absurd rfl h'.1
    · exact fun h' => ⟨h'.clock, h'.frames⟩

end Spends

end Call

end MotorBoard
