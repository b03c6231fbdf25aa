/-
# What holds before and after a call

A call is described by three conditions: one on the state that it starts from, one on its
result and the state that it ends in, and one on the reason for which it stops and the state
that it stops in.  A call always comes to one of the two ends, so a description whose last
condition cannot be met says that the call gives a result.

The descriptions of calls in sequence fit together like the calls themselves.  The rules
below follow the operations of `Call` one by one; nothing behind this file looks at how a
call is made.  Beside the plain rules there is

* `Call.Keeps`: a call after which a condition still holds, however it ends;
* `Guarded.locked_triple`: the rule for a call under a lock.
-/
import Mathlib.Tactic.Lemma
import MotorBoard.Guarded

namespace MotorBoard

lemma Stop.failed_ne_died (e : Error) : Stop.failed e ≠ .died := by
  intro h
  cases h

lemma Stop.stalled_ne_died : Stop.stalled ≠ .died := by
  intro h
  cases h

namespace Call

variable {σ τ α β : Type}

@[simp] lemma stop_apply (e : Stop) (s : σ) : (stop e : Call σ α) s = (.error e, s) := rfl

@[simp] lemma get_apply (s : σ) : (get : Call σ σ) s = (.ok s, s) := rfl

@[simp] lemma set_apply (t s : σ) : set t s = (.ok (), t) := rfl

@[simp] lemma modify_apply (f : σ → σ) (s : σ) : modify f s = (.ok (), f s) := rfl

lemma if_apply (c : Prop) [Decidable c] (m m' : Call σ α) (s : σ) :
    (if c then m else m') s = if c then m s else m' s := by
  split <;> rfl

/-- A call that came back to its caller, well or not. -/
def Returned (r : Except Stop α) : Prop := r ≠ .error .died ∧ r ≠ .error .stalled

/-- The reasons for which a call stops that comes back to its caller. -/
abbrev Ended (e : Stop) : Prop := e ≠ .died ∧ e ≠ .stalled

/-- An end of a call: a result and a state in `Q`, or a reason to stop and a state in
`E`. -/
def Ends (Q : α → σ → Prop) (E : Stop → σ → Prop) : Except Stop α × σ → Prop
  | (.ok a, s) => Q a s
  | (.error e, s) => E e s

lemma Ends.imp {Q Q' : α → σ → Prop} {E E' : Stop → σ → Prop} {r : Except Stop α × σ}
    (h : Ends Q E r) (hQ : ∀ a s, Q a s → Q' a s) (hE : ∀ e s, E e s → E' e s) :
    Ends Q' E' r := by
  obtain ⟨e | a, s⟩ := r
  · exact hE e s h
  · exact hQ a s h

/-- From every state in `P` the call ends with a result and a state in `Q`, or it stops for
a reason and in a state in `E`. -/
def Triple (P : σ → Prop) (m : Call σ α) (Q : α → σ → Prop) (E : Stop → σ → Prop) : Prop :=
  ∀ s, P s → Ends Q E (m s)

namespace Triple

variable {P P' : σ → Prop} {Q Q' : α → σ → Prop} {R : β → σ → Prop} {E E' : Stop → σ → Prop}
  {m : Call σ α}

lemma result (h : Triple P m Q E) {s s' : σ} {a : α} (hs : P s) (hm : m s = (.ok a, s')) :
    Q a s' := by
  have h' := h s hs
  rwa [hm] at h'

/-- A call that cannot stop gives a result. -/
lemma exists_result (h : Triple P m Q fun _ _ => False) {s : σ} (hs : P s) :
    ∃ a s', m s = (.ok a, s') ∧ Q a s' := by
  have h' := h s hs
  revert h'
  rcases m s with ⟨e | a, s'⟩
  · exact False.elim
  · exact fun h' => ⟨a, s', rfl, h'⟩

lemma mono (h : Triple P m Q E) (hP : ∀ s, P' s → P s) (hQ : ∀ a s, Q a s → Q' a s)
    (hE : ∀ e s, E e s → E' e s) : Triple P' m Q' E' :=
  fun s hs => (h s (hP s hs)).imp hQ hE

lemma pre (h : Triple P m Q E) (hP : ∀ s, P' s → P s) : Triple P' m Q E :=
  h.mono hP (fun _ _ => id) fun _ _ => id

lemma post (h : Triple P m Q E) (hQ : ∀ a s, Q a s → Q' a s) : Triple P m Q' E :=
  h.mono (fun _ => id) hQ fun _ _ => id

lemma stop_mono (h : Triple P m Q E) (hE : ∀ e s, E e s → E' e s) : Triple P m Q E' :=
  h.mono (fun _ => id) (fun _ _ => id) hE

/-- A call that cannot stop meets every condition on how it stops. -/
lemma unfailing (h : Triple P m Q fun _ _ => False) : Triple P m Q E :=
  h.stop_mono fun _ _ => False.elim

/-- Two descriptions of a call hold together. -/
lemma and {P' : σ → Prop} {Q' : α → σ → Prop} {E' : Stop → σ → Prop} (h : Triple P m Q E)
    (h' : Triple P' m Q' E') :
    Triple (fun s => P s ∧ P' s) m (fun a s => Q a s ∧ Q' a s) fun e s => E e s ∧ E' e s := by
  intro s hs
  have h := h s hs.1
  have h' := h' s hs.2
  revert h h'
  rcases m s with ⟨e | a, s'⟩ <;> exact fun h h' => ⟨h, h'⟩

/-- A condition that does not speak of the state may be used while the call is described. -/
lemma lift {p : Prop} (h : p → Triple P m Q E) : Triple (fun s => p ∧ P s) m Q E :=
  fun s hs => h hs.1 s hs.2

/-- To describe a call from one state at a time. -/
lemma of_eq (h : ∀ s, P s → Triple (fun t => t = s) m Q E) : Triple P m Q E :=
  fun s hs => h s hs s rfl

lemma pure (a : α) (h : ∀ s, P s → Q a s) : Triple P (Pure.pure a : Call σ α) Q E := h

lemma bind {f : α → Call σ β} (hm : Triple P m Q E) (hf : ∀ a, Triple (Q a) (f a) R E) :
    Triple P (m >>= f) R E := by
  intro s hs
  have h := hm s hs
  rw [bind_apply]
  revert h
  rcases m s with ⟨e | a, s'⟩
  · exact id
  · exact hf a s'

lemma map {f : α → β} (hm : Triple P m Q E) (hf : ∀ a s, Q a s → R (f a) s) :
    Triple P (m >>= fun a => Pure.pure (f a)) R E :=
  hm.bind fun a => pure _ fun s hs => hf a s hs

lemma stop (e : Stop) (h : ∀ s, P s → E e s) : Triple P (Call.stop e : Call σ α) Q E := h

lemma fail (e : Error) (h : ∀ s, P s → E (.failed e) s) :
    Triple P (Call.fail e : Call σ α) Q E := h

/-- A failure is no death. -/
lemma fail_alive {R : σ → Prop} (e : Error) (h : ∀ s, P s → R s) :
    Triple P (Call.fail e : Call σ α) Q fun e s => e ≠ .died ∧ R s :=
  fail e fun s hs => ⟨Stop.failed_ne_died e, h s hs⟩

lemma get {Q : σ → σ → Prop} (h : ∀ s, P s → Q s s) : Triple P Call.get Q E := h

/-- Behind a look at the state the call goes on from this one state. -/
lemma get_bind {f : σ → Call σ β} (h : ∀ s, P s → Triple (fun t => t = s) (f s) R E) :
    Triple P (Call.get >>= f) R E :=
  fun s hs => h s hs s rfl

lemma set {Q : Unit → σ → Prop} (t : σ) (h : ∀ s, P s → Q () t) :
    Triple P (Call.set t) Q E := h

lemma modify {Q : Unit → σ → Prop} (f : σ → σ) (h : ∀ s, P s → Q () (f s)) :
    Triple P (Call.modify f) Q E := h

lemma update (f : σ → α × σ) (h : ∀ s, P s → Q (f s).1 (f s).2) :
    Triple P (Call.update f) Q E := h

lemma ofExcept {x : Except Error α} (hok : ∀ a, x = .ok a → ∀ s, P s → Q a s)
    (herr : ∀ e, x = .error e → ∀ s, P s → E (.failed e) s) :
    Triple P (Call.ofExcept x) Q E := by
  cases x with
  | ok a => exact pure a (hok a rfl)
  | error e => exact fail e (herr e rfl)

/-- A failure becomes a value; only a death and an endless wait stay what they are. -/
lemma attempt_unfailed (h : Triple P m Q E) :
    Triple P (Call.attempt m)
      (fun r s =>
        match r with
        | .ok a => Q a s
        | .error e => E (.failed e) s) fun e s => (∀ e', e ≠ .failed e') ∧ E e s := by
  intro s hs
  have h' := h s hs
  rw [Call.attempt]
  revert h'
  rcases m s with ⟨(e | _ | _) | a, s'⟩
  · exact id
  · exact fun h' => ⟨fun _ => Stop.noConfusion, h'⟩
  · exact fun h' => ⟨fun _ => Stop.noConfusion, h'⟩
  · exact id

lemma attempt (h : Triple P m Q E) :
    Triple P (Call.attempt m)
      (fun r s =>
        match r with
        | .ok a => Q a s
        | .error e => E (.failed e) s) E :=
  h.attempt_unfailed.stop_mono fun _ _ he => he.2

lemma onFailure {f : σ → σ} (h : Triple P m Q E)
    (hf : ∀ e s, E (.failed e) s → E (.failed e) (f s)) : Triple P (Call.onFailure f m) Q E := by
  intro s hs
  have h' := h s hs
  rw [Call.onFailure]
  revert h'
  rcases m s with ⟨(e | _ | _) | a, s'⟩
  · exact hf e s'
  all_goals exact id

lemma within (p : Part σ τ) {m : Call τ α}
    (h : ∀ s, P s →
      Triple (fun t => t = p.get s) m (fun a t => Q a (p.put t s)) fun e t => E e (p.put t s)) :
    Triple P (Call.within p m) Q E := by
  intro s hs
  have h' := h s hs (p.get s) rfl
  rw [within_apply]
  revert h'
  rcases m (p.get s) with ⟨e | a, t⟩ <;> exact id

/-- What a call does to the second of two states. -/
lemma second {P : τ → Prop} {Q : α → τ → Prop} {E : Stop → τ → Prop} {m : Call τ α}
    (h : Triple P m Q E) :
    Triple (fun s : σ × τ => P s.2) (Call.within .second m) (fun a s => Q a s.2)
      fun e s => E e s.2 :=
  within _ fun _ hs => h.pre fun _ ht => ht ▸ hs

/-- A call on the first of two states leaves the second one alone. -/
lemma first {P : τ → Prop} (m : Call σ α) :
    Triple (fun s : σ × τ => P s.2) (Call.within .first m) (fun _ s => P s.2)
      fun _ s => P s.2 := by
  refine within _ fun s hs t _ => ?_
  rcases m t with ⟨e | a, t'⟩ <;> exact hs

/-- What a call does to the second of two states, beside what is known of the first. -/
lemma second_beside {A : σ → Prop} {P : τ → Prop} {Q : α → τ → Prop} {E : Stop → τ → Prop}
    {m : Call τ α} (h : Triple P m Q E) :
    Triple (fun s : σ × τ => A s.1 ∧ P s.2) (Call.within .second m)
      (fun a s => A s.1 ∧ Q a s.2) fun e s => A s.1 ∧ E e s.2 :=
  within _ fun _ hs => h.mono (fun _ ht => ht ▸ hs.2) (fun _ _ hQ => ⟨hs.1, hQ⟩)
    fun _ _ hE => ⟨hs.1, hE⟩

lemma ite {c : Prop} [Decidable c] {m m' : Call σ α} (h : c → Triple P m Q E)
    (h' : ¬ c → Triple P m' Q E) : Triple P (if c then m else m') Q E := by
  split
  · exact h ‹_›
  · exact h' ‹_›

end Triple

/-- All reasons to stop: the condition holds however a call ends. -/
abbrev Anyhow : Stop → Prop := fun _ => True

/-- A call that keeps a condition: it holds afterwards, and also when the call stops for
one of the reasons in `S`. -/
def Keeps (P : σ → Prop) (S : Stop → Prop) (m : Call σ α) : Prop :=
  Triple P m (fun _ => P) fun e s => S e → P s

namespace Keeps

variable {P : σ → Prop} {S : Stop → Prop} {m : Call σ α}

/-- The condition still holds after a call, if this did not stop for another reason. -/
lemma after (h : Keeps P S m) {s s' : σ} {r : Except Stop α} (hs : P s) (hm : m s = (r, s'))
    (hr : ∀ e, r = .error e → S e) : P s' := by
  have h' := h s hs
  rw [hm] at h'
  cases r with
  | ok a => exact h'
  | error e => exact h' (hr e rfl)

lemma pure (a : α) : Keeps P S (Pure.pure a : Call σ α) := Triple.pure a fun _ => id

lemma fail (e : Error) : Keeps P S (Call.fail e : Call σ α) := Triple.fail e fun _ h _ => h

lemma stop (e : Stop) : Keeps P S (Call.stop e : Call σ α) := Triple.stop e fun _ h _ => h

lemma get : Keeps P S (Call.get : Call σ σ) := Triple.get fun _ => id

lemma modify {f : σ → σ} (h : ∀ s, P s → P (f s)) : Keeps P S (Call.modify f) :=
  Triple.modify f h

lemma update {f : σ → α × σ} (h : ∀ s, P s → P (f s).2) : Keeps P S (Call.update f) :=
  Triple.update f h

lemma ofExcept (x : Except Error α) : Keeps P S (Call.ofExcept x : Call σ α) :=
  Triple.ofExcept (fun _ _ _ => id) fun _ _ _ h _ => h

lemma bind {f : α → Call σ β} (hm : Keeps P S m) (hf : ∀ a, Keeps P S (f a)) :
    Keeps P S (m >>= f) :=
  Triple.bind hm hf

lemma ite {c : Prop} [Decidable c] {m m' : Call σ α} (h : Keeps P S m) (h' : Keeps P S m') :
    Keeps P S (if c then m else m') :=
  Triple.ite (fun _ => h) fun _ => h'

/-- A failure that became a value has to be one of the reasons. -/
lemma attempt (h : Keeps P S m) (hS : ∀ e, S (.failed e)) : Keeps P S (Call.attempt m) :=
  (Triple.attempt h).post fun r s hr => by
    cases r with
    | ok a => exact hr
    | error e => exact hr (hS e)

lemma onFailure {f : σ → σ} (h : Keeps P S m) (hf : ∀ s, P s → P (f s)) :
    Keeps P S (Call.onFailure f m) :=
  Triple.onFailure h fun _ _ he hS => hf _ (he hS)

lemma within (p : Part σ τ) {m : Call τ α}
    (h : ∀ s, P s → Keeps (fun t => P (p.put t s)) S m) (hp : ∀ s, p.put (p.get s) s = s) :
    Keeps P S (Call.within p m) :=
  Triple.within p fun s hs =>
    (h s hs).pre fun t ht => by
      rw [ht, hp]
      exact hs

/-- A call on a part, when it does not matter for the condition what becomes of the part. -/
lemma part (p : Part σ τ) (m : Call τ α) (h : ∀ t s, P s → P (p.put t s)) :
    Keeps P S (Call.within p m) := by
  intro s hs
  rw [within_apply]
  cases (m (p.get s)).1 with
  | ok a => exact h _ s hs
  | error e => exact fun _ => h _ s hs

lemma second {P : τ → Prop} {m : Call τ α} (h : Keeps P S m) :
    Keeps (fun s : σ × τ => P s.2) S (Call.within .second m) :=
  Triple.second h

lemma first {P : τ → Prop} (m : Call σ α) :
    Keeps (fun s : σ × τ => P s.2) S (Call.within .first m) :=
  (Triple.first m).stop_mono fun _ _ h _ => h

lemma second_beside {A : σ → Prop} {P : τ → Prop} {m : Call τ α} (h : Keeps P S m) :
    Keeps (fun s : σ × τ => A s.1 ∧ P s.2) S (Call.within .second m) :=
  (Triple.second_beside h).stop_mono fun _ _ hE hS => ⟨hE.1, hE.2 hS⟩

end Keeps

end Call

namespace Guarded

variable {α β σ : Type} [CountsLockErrors α] {P : σ → Prop} {Q : β → σ → Prop}
  {E : Stop → σ → Prop} {m : Call (α × σ) β}

/-- A poisoned lock is had by nobody; the next one will have it. -/
lemma locked_poisoned {g : Guarded α} (hg : g.lock = .poisoned) (t : σ) :
    locked m (g, t) = (.error (.failed (.lockFailed g.name)), g.recovered, t) := by
  rw [locked, hg]

/-- A call under a lock that nobody has poisoned. -/
lemma locked_eq {g : Guarded α} (hg : g.lock ≠ .poisoned) (t : σ) :
    locked m (g, t) =
      match m (g.value, t) with
      | (.error .died, v, t) => (.error .died, { g with value := v, lock := .poisoned }, t)
      | (.error .stalled, v, t) => (.error .stalled, { g with value := v, lock := .held }, t)
      | (r, v, t) => (r, { g with value := v, lock := .free }, t) := by
  rw [locked]
  cases hl : g.lock with
  | poisoned => exact absurd hl hg
  | _ => rfl

/-- A lock that nobody has poisoned is had by whoever waits, and it is free afterwards. -/
lemma update_unpoisoned {g : Guarded α} (hg : g.lock ≠ .poisoned) (f : α → β × α) :
    g.update f = (.ok (f g.value).1, { g with value := (f g.value).2, lock := .free }) := by
  rw [update]
  cases hl : g.lock with
  | poisoned => exact absurd hl hg
  | _ => rfl

/-! Whoever does not wait for a lock has it only if it is free. -/

lemma tryUpdate_free {g : Guarded α} (h : g.lock = .free) (f : α → α) :
    g.tryUpdate f = (.acquired, { g with value := f g.value }) := by
  rcases g with ⟨name, value, lock⟩
  obtain rfl : lock = .free := h
  rfl

lemma tryUpdate_held {g : Guarded α} (h : g.lock = .held) (f : α → α) :
    g.tryUpdate f = (.busy, g) := by
  rcases g with ⟨name, value, lock⟩
  obtain rfl : lock = .held := h
  rfl

lemma tryUpdate_poisoned {g : Guarded α} (h : g.lock = .poisoned) (f : α → α) :
    g.tryUpdate f = (.failed, g.recovered) := by
  rcases g with ⟨name, value, lock⟩
  obtain rfl : lock = .poisoned := h
  rfl

open Call in
/-- A call under a lock that nobody has poisoned does to the state beside it what the call
itself does, and it leaves the lock free when it gives a result. -/
lemma unpoisoned_free_triple
    (h : Triple (fun s : α × σ => P s.2) m (fun b s => Q b s.2) fun e s => E e s.2) :
    Triple (fun s : Guarded α × σ => s.1.lock ≠ .poisoned ∧ P s.2) (locked m)
      (fun b s => s.1.lock = .free ∧ Q b s.2) fun e s => E e s.2 := by
  rintro ⟨g, t⟩ ⟨hg, ht⟩
  have h' := h (g.value, t) ht
  revert h'
  rw [locked_eq hg]
  rcases m (g.value, t) with ⟨(e | _ | _) | b, v, t'⟩
  · exact id
  · exact id
  · exact id
  · exact fun hQ => ⟨rfl, hQ⟩

open Call in
lemma unpoisoned_triple
    (h : Triple (fun s : α × σ => P s.2) m (fun b s => Q b s.2) fun e s => E e s.2) :
    Triple (fun s : Guarded α × σ => s.1.lock ≠ .poisoned ∧ P s.2) (locked m)
      (fun b s => Q b s.2) fun e s => E e s.2 :=
  (unpoisoned_free_triple h).post fun _ _ h => h.2

open Call in
/-- However a call ends: what it leaves of a value and of the state beside it does not depend
on the lock, if that is not poisoned. -/
lemma locked_leaves {P Q : α → σ → Prop}
    (h : Triple (fun s => P s.1 s.2) m (fun _ s => Q s.1 s.2) fun _ s => Q s.1 s.2) :
    Triple (fun s : Guarded α × σ => s.1.lock ≠ .poisoned ∧ P s.1.value s.2) (locked m)
      (fun _ s => Q s.1.value s.2) fun _ s => Q s.1.value s.2 := by
  rintro ⟨g, t⟩ ⟨hg, ht⟩
  have h' := h (g.value, t) ht
  revert h'
  rw [locked_eq hg]
  rcases m (g.value, t) with ⟨(e | _ | _) | b, v, t'⟩ <;> exact id

open Call in
/-- A call under a lock does to the state beside it what the call itself does; a poisoned
lock leaves that state as it is. -/
theorem locked_triple
    (h : Triple (fun s : α × σ => P s.2) m (fun b s => Q b s.2) fun e s => E e s.2)
    (hlock : ∀ name s, P s → E (.failed (.lockFailed name)) s) :
    Triple (fun s : Guarded α × σ => P s.2) (locked m) (fun b s => Q b s.2)
      fun e s => E e s.2 := by
  intro s hs
  by_cases hg : s.1.lock = .poisoned
  · rw [locked, hg]
    exact hlock _ _ hs
  · exact unpoisoned_triple h s ⟨hg, hs⟩

end Guarded

end MotorBoard
