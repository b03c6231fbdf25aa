/-
# Two calls side by side

Two calls agree when they start from related states and come to related ends: either both
give a result, and the results are related, or both stop for the same reason, and either way
the states are related again.  What two calls agree on is a relation between states that
leaves out what does not matter.

As for the conditions on a single call there is one rule for each operation of `Call`, so that
calls built alike from parts that agree do agree themselves.

What is behind a lock may be the same although one lock is free and the other one is held.  The
calls that wait for such a lock cannot tell the two apart (`Guarded.Alike.locked_eq`).
-/
import MotorBoard.Proofs.Call.Triple

namespace MotorBoard

namespace Call

variable {σ τ ρ α β γ δ : Type}

/-- Two ends that agree. -/
inductive SameEnd (R : σ → τ → Prop) (S : α → β → Prop) :
    Except Stop α × σ → Except Stop β × τ → Prop
  | ok {a : α} {b : β} {s : σ} {t : τ} (hS : S a b) (hR : R s t) :
    SameEnd R S (.ok a, s) (.ok b, t)
  | stop {e : Stop} {s : σ} {t : τ} (hR : R s t) : SameEnd R S (.error e, s) (.error e, t)

/-- From states in `R` both calls come to ends that agree, with results in `S`. -/
def Agree (R : σ → τ → Prop) (S : α → β → Prop) (m : Call σ α) (m' : Call τ β) : Prop :=
  ∀ s t, R s t → SameEnd R S (m s) (m' t)

/-- The same state beside related ones. -/
def Beside (ρ : Type) (R : σ → τ → Prop) (s : ρ × σ) (t : ρ × τ) : Prop :=
  s.1 = t.1 ∧ R s.2 t.2

/-- Calls in sequence, whose first parts come to ends that agree. -/
lemma SameEnd.bind {R : σ → τ → Prop} {S : α → β → Prop} {S' : γ → δ → Prop} {m : Call σ α}
    {m' : Call τ β} {f : α → Call σ γ} {g : β → Call τ δ} {s : σ} {t : τ}
    (h : SameEnd R S (m s) (m' t)) (hf : ∀ a b, S a b → Agree R S' (f a) (g b)) :
    SameEnd R S' ((m >>= f) s) ((m' >>= g) t) := by
  rw [bind_apply, bind_apply]
  revert h
  rcases m s with ⟨e | a, s'⟩ <;> rcases m' t with ⟨e' | b, t'⟩ <;> rintro ⟨⟩
  · exact .stop ‹_›
  · exact hf a b ‹_› s' t' ‹_›

namespace Agree

variable {R : σ → τ → Prop} {S : α → β → Prop} {S' : γ → δ → Prop} {m : Call σ α} {m' : Call τ β}

lemma pure {a : α} {b : β} (h : S a b) :
    Agree R S (Pure.pure a : Call σ α) (Pure.pure b : Call τ β) :=
  fun _ _ hst => .ok h hst

lemma stop (e : Stop) : Agree R S (Call.stop e : Call σ α) (Call.stop e : Call τ β) :=
  fun _ _ hst => .stop hst

lemma fail (e : Error) : Agree R S (Call.fail e : Call σ α) (Call.fail e : Call τ β) :=
  stop _

lemma get : Agree R R (Call.get : Call σ σ) (Call.get : Call τ τ) :=
  fun _ _ hst => .ok hst hst

lemma set {s : σ} {t : τ} (h : R s t) : Agree R Eq (Call.set s) (Call.set t) :=
  fun _ _ _ => .ok rfl h

lemma modify {f : σ → σ} {g : τ → τ} (h : ∀ s t, R s t → R (f s) (g t)) :
    Agree R Eq (Call.modify f) (Call.modify g) :=
  fun s t hst => .ok rfl (h s t hst)

lemma ofExcept (x : Except Error α) :
    Agree R Eq (Call.ofExcept x : Call σ α) (Call.ofExcept x : Call τ α) := by
  cases x with
  | ok a => exact pure rfl
  | error e => exact fail e

lemma bind {f : α → Call σ γ} {g : β → Call τ δ} (hm : Agree R S m m')
    (hf : ∀ a b, S a b → Agree R S' (f a) (g b)) : Agree R S' (m >>= f) (m' >>= g) :=
  fun s t hst => (hm s t hst).bind hf

lemma result_mono {S' : α → β → Prop} (hm : Agree R S m m') (hS : ∀ a b, S a b → S' a b) :
    Agree R S' m m' := by
  intro s t hst
  have h := hm s t hst
  revert h
  rcases m s with ⟨e | a, s'⟩ <;> rcases m' t with ⟨e' | b, t'⟩ <;> rintro ⟨⟩
  · exact .stop ‹_›
  · exact .ok (hS a b ‹_›) ‹_›

/-- Calls whose first parts give the same result. -/
lemma bind_eq {m : Call σ α} {m' : Call τ α} {f : α → Call σ γ} {g : α → Call τ δ}
    (hm : Agree R Eq m m') (hf : ∀ a, Agree R S' (f a) (g a)) :
    Agree R S' (m >>= f) (m' >>= g) :=
  hm.bind fun a b hab => by
    subst hab
    exact hf a

/-- Calls that begin with a look at the state. -/
lemma get_bind {f : σ → Call σ γ} {g : τ → Call τ δ}
    (h : ∀ s t, R s t → Agree R S' (f s) (g t)) :
    Agree R S' (Call.get >>= f) (Call.get >>= g) :=
  get.bind h

lemma ite {p q : Prop} [Decidable p] [Decidable q] {n : Call σ α} {n' : Call τ β} (hpq : p ↔ q)
    (hm : p → Agree R S m m') (hn : ¬ p → Agree R S n n') :
    Agree R S (if p then m else n) (if q then m' else n') := by
  by_cases hp : p
  · rw [if_pos hp, if_pos (hpq.1 hp)]
    exact hm hp
  · rw [if_neg hp, if_neg fun hq => hp (hpq.2 hq)]
    exact hn hp

lemma attempt {m : Call σ α} {m' : Call τ α} (h : Agree R Eq m m') :
    Agree R Eq (Call.attempt m) (Call.attempt m') := by
  intro s t hst
  have h' := h s t hst
  rw [Call.attempt, Call.attempt]
  revert h'
  rcases m s with ⟨e | a, s'⟩ <;> rcases m' t with ⟨e' | b, t'⟩ <;> rintro ⟨⟩
  · cases e with
    | failed e => exact .ok rfl ‹_›
    | _ => exact .stop ‹_›
  · exact .ok (congrArg _ ‹_›) ‹_›

lemma onFailure {f : σ → σ} {g : τ → τ} (h : Agree R S m m')
    (hf : ∀ s t, R s t → R (f s) (g t)) : Agree R S (Call.onFailure f m) (Call.onFailure g m') := by
  intro s t hst
  have h' := h s t hst
  rw [Call.onFailure, Call.onFailure]
  revert h'
  rcases m s with ⟨e | a, s'⟩ <;> rcases m' t with ⟨e' | b, t'⟩ <;> rintro ⟨⟩
  · cases e with
    | failed e => exact .stop (hf _ _ ‹_›)
    | _ => exact .stop ‹_›
  · exact .ok ‹_› ‹_›

lemma second (h : Agree R S m m') :
    Agree (Beside ρ R) S (Call.within .second m) (Call.within .second m') := by
  rintro ⟨r, s⟩ ⟨_, t⟩ ⟨rfl, hst⟩
  have h' := h s t hst
  show SameEnd _ _ ((m s).1, r, (m s).2) ((m' t).1, r, (m' t).2)
  revert h'
  rcases m s with ⟨e | a, s'⟩ <;> rcases m' t with ⟨e' | b, t'⟩ <;> rintro ⟨⟩
  · exact .stop ⟨rfl, ‹_›⟩
  · exact .ok ‹_› ⟨rfl, ‹_›⟩

/-- A call on the state that both have in common. -/
lemma first (m : Call ρ α) :
    Agree (Beside ρ R) Eq (Call.within .first m) (Call.within .first m) := by
  rintro ⟨r, s⟩ ⟨_, t⟩ ⟨rfl, hst⟩
  show SameEnd _ _ ((m r).1, (m r).2, s) ((m r).1, (m r).2, t)
  rcases m r with ⟨e | a, r'⟩
  · exact .stop ⟨rfl, hst⟩
  · exact .ok rfl ⟨rfl, hst⟩

end Agree

end Call

open Call in
/-- Two calls under the same lock. -/
lemma Guarded.locked_agree {α β β' σ τ : Type} [CountsLockErrors α] {R : σ → τ → Prop}
    {S : β → β' → Prop} {m : Call (α × σ) β} {m' : Call (α × τ) β'}
    (h : Agree (Beside α R) S m m') :
    Agree (Beside (Guarded α) R) S (locked m) (locked m') := by
  rintro ⟨g, s⟩ ⟨_, t⟩ ⟨rfl, hst⟩
  by_cases hg : g.lock = .poisoned
  · rw [locked_poisoned hg, locked_poisoned hg]
    exact .stop ⟨rfl, hst⟩
  · have h' := h (g.value, s) (g.value, t) ⟨rfl, hst⟩
    rw [locked_eq hg, locked_eq hg]
    revert h'
    rcases m (g.value, s) with ⟨e | a, v, s'⟩ <;>
      rcases m' (g.value, t) with ⟨e' | b, v', t'⟩ <;> rintro ⟨⟩
    · rename_i hR
      obtain ⟨rfl, hst'⟩ := hR
      cases e <;> exact .stop ⟨rfl, hst'⟩
    · rename_i hS hR
      obtain ⟨rfl, hst'⟩ := hR
      exact .ok hS ⟨rfl, hst'⟩

/-! Whoever waits for a lock cannot tell one that is held from one that is free. -/

namespace Guarded

variable {α β σ : Type} [CountsLockErrors α] {g g' : Guarded α}

/-- The same value behind two locks, of which both are poisoned or none is. -/
structure Alike (g g' : Guarded α) : Prop where
  name : g'.name = g.name
  value : g'.value = g.value
  poisoned : g'.lock = .poisoned ↔ g.lock = .poisoned

omit [CountsLockErrors α] in
lemma Alike.refl (g : Guarded α) : g.Alike g := ⟨rfl, rfl, Iff.rfl⟩

omit [CountsLockErrors α] in
lemma alike_release (h : g.lock ≠ .poisoned) : g.Alike g.release :=
  ⟨rfl, rfl, iff_of_false LockState.noConfusion h⟩

lemma Alike.update_eq (h : g.Alike g') (f : α → β × α) : g'.update f = g.update f := by
  obtain ⟨name, value, lock⟩ := g
  obtain ⟨_, _, lock'⟩ := g'
  obtain ⟨rfl, rfl, hlock⟩ := h
  cases lock <;> cases lock' <;> first | rfl | simp at hlock

lemma Alike.locked_eq (h : g.Alike g') (m : Call (α × σ) β) (t : σ) :
    locked m (g', t) = locked m (g, t) := by
  obtain ⟨name, value, lock⟩ := g
  obtain ⟨_, _, lock'⟩ := g'
  obtain ⟨rfl, rfl, hlock⟩ := h
  cases lock <;> cases lock' <;> first | rfl | simp at hlock

end Guarded

end MotorBoard
