/-
# Calls one after the other

A caller that reads and writes the local bus several times reasons about what the board
stores between its calls.  What it may conclude has two forms.  A board that answers has
executed every write that was reported as done.  A board that does not answer has executed
none, and it stores what it stored in the beginning; but then no read gives bytes.

So between the calls of a sequence that began with the board `b₀` stands a condition on the
stores of an answering board, and each call hands one condition on to the next.  A call that
cannot kill the board hands a condition on even when it fails.  The main results are

* `Channel.read_sequence`: a read, which shows that a board answers, and
  `Channel.read_sequence_inside`, which leaves it alive;
* `Channel.write_sequence`: a write, by what its execution does, and
  `Channel.write_sequence_alive`, whose execution leaves the board alive.
-/
import MotorBoard.Proofs.Mailbox.Keeping
import MotorBoard.Proofs.Mailbox.Writing

namespace MotorBoard

open Call Board

namespace Board

/-- What is known of the stores of a board that was `b₀` in the beginning: `J` if it answers,
and that they have not changed otherwise. -/
def Known (b₀ : Board) (station : UInt16) (J : Stores → Prop) (st : Stores) : Prop :=
  (b₀.Answers station → J st) ∧ (¬ b₀.Answers station → st = b₀.stores)

variable {b₀ : Board} {station : UInt16} {J K S : Stores → Prop}

lemma Known.mono {st : Stores} (h : Known b₀ station J st) (hJ : ∀ st, J st → K st) :
    Known b₀ station K st :=
  ⟨fun ha => hJ _ (h.1 ha), h.2⟩

/-- A condition that holds in the beginning holds of every board that does not answer. -/
lemma Known.elim {st : Stores} (h : Known b₀ station J st) (h₀ : J b₀.stores) : J st := by
  by_cases ha : b₀.Answers station
  · exact h.1 ha
  · exact (h.2 ha).symm ▸ h₀

/-- What the execution of a write does, where the board may as well not answer.  Only a board
that answers dies of it. -/
lemma Executes.known {address : UInt16} {data : Bytes} {W K D : Stores → Prop}
    (h : Executes b₀ station address data W K D) :
    Executes b₀ station address data (Known b₀ station W) (Known b₀ station K)
      fun st => b₀.Answers station ∧ D st where
  weaken _ hK := hK.mono h.weaken
  step b ha halike hW := (h.step b ha halike (hW.1 ha)).imp
    (fun _ _ hK => ⟨fun _ => hK, fun ha' => absurd ha ha'⟩) fun _ _ hD => ⟨ha, hD⟩

/-- A sequence of calls that has come to this board with `J`. -/
abbrev Stage (b₀ : Board) (station : UInt16) (J : Stores → Prop) (b : Board) : Prop :=
  b₀.Meets (fun b => Known b₀ station J b.stores) b

/-- A sequence of calls that has stopped at this board with `S`. -/
def Stopped (b₀ : Board) (station : UInt16) (S : Stores → Prop) (e : Stop) (b : Board) : Prop :=
  Known b₀ station S b.stores ∧ (e ≠ .died → b₀.Follows b)

/-- A sequence of calls begins with what holds of the stores. -/
lemma Stage.refl (h : J b₀.stores) : Stage b₀ station J b₀ :=
  ⟨.refl b₀, fun _ => h, fun _ => rfl⟩

lemma Stage.mono {b : Board} (h : Stage b₀ station J b) (hJ : ∀ st, J st → K st) :
    Stage b₀ station K b :=
  ⟨h.1, h.2.mono hJ⟩

lemma Stage.stopped {b : Board} (h : Stage b₀ station J b) (hJ : ∀ st, J st → S st) (e : Stop) :
    Stopped b₀ station S e b :=
  ⟨h.2.mono hJ, fun _ => h.1⟩

lemma Stage.of_same {b b' : Board} (h : Stage b₀ station J b) (hs : SameStores b b')
    (hf : b₀.Follows b') : Stage b₀ station J b' :=
  ⟨hf, show Known b₀ station J b'.stores from sameStores_iff.1 hs ▸ h.2⟩

lemma Stage.stopped_of_same {b b' : Board} (h : Stage b₀ station J b) (hs : SameStores b b')
    {e : Stop} (hf : e ≠ .died → b₀.Follows b') : Stopped b₀ station J e b' :=
  ⟨sameStores_iff.1 hs ▸ h.2, hf⟩

/-- A sequence that has stopped without killing the board may go on. -/
lemma Stopped.stage {e : Stop} {b : Board} (h : Stopped b₀ station J e b) (he : e ≠ .died) :
    Stage b₀ station J b :=
  ⟨h.2 he, h.1⟩

lemma Stopped.mono {e : Stop} {b : Board} (h : Stopped b₀ station J e b)
    (hJ : ∀ st, J st → S st) : Stopped b₀ station S e b :=
  ⟨h.1.mono hJ, h.2⟩

end Board

namespace Channel

variable {σ : Type} {c : Channel σ} {board : σ → Board} {b₀ : Board} {J : Stores → Prop}

/-- A read in a sequence.  It shows the range as it is then, and that a board answers. -/
theorem read_sequence (h : c.link.Carries board) (address : UInt16) (length : Nat) :
    Triple (fun t : Mailbox × σ => b₀.Stage c.slave.station J (board t.2)) (c.read address length)
      (fun data t => b₀.Answers c.slave.station ∧ b₀.Stage c.slave.station J (board t.2) ∧
        Shows (board t.2).localBus address.toNat length data)
      fun e t => b₀.Stopped c.slave.station J e (board t.2) := by
  refine Triple.of_eq fun t ht => ?_
  have hread := (read_answered_triple h (board t.2) address length).and
    (read_keeps (h.keeps_follows b₀) address length)
  refine hread.mono ?_ ?_ ?_
  · rintro _ rfl
    exact ⟨⟨.refl _, rfl, rfl⟩, ht.1⟩
  · rintro data t' ⟨⟨⟨ha, -⟩, hsame, hshows⟩, hfollows⟩
    exact ⟨ht.1.answers_iff.1 ha, ht.of_same hsame hfollows, hsame.1 ▸ hshows⟩
  · rintro e t' ⟨⟨hsame, -⟩, hfollows⟩
    exact ht.stopped_of_same hsame fun he => hfollows he

/-- A read inside the local bus leaves the board alive. -/
theorem read_sequence_inside (h : c.link.Carries board) {address : UInt16} {length : Nat}
    (hin : address.toNat + length ≤ 0x10000) :
    Triple (fun t : Mailbox × σ => b₀.Stage c.slave.station J (board t.2)) (c.read address length)
      (fun data t => b₀.Answers c.slave.station ∧ b₀.Stage c.slave.station J (board t.2) ∧
        Shows (board t.2).localBus address.toNat length data)
      fun e t => e ≠ .died ∧ b₀.Stage c.slave.station J (board t.2) := by
  refine Triple.of_eq fun t ht => ?_
  have halive := read_answered_triple h (board t.2) address length
  refine ((read_sequence h address length).and halive).mono ?_ (fun _ _ hr => hr.1) ?_
  · rintro _ rfl
    exact ⟨ht, .refl _, rfl, rfl⟩
  · rintro e t' ⟨hstopped, -, hdied⟩
    have he : e ≠ .died := fun he => Nat.not_lt.2 hin (hdied he)
    exact ⟨he, hstopped.stage he⟩

/-- A write in a sequence, where `J` allows its execution. -/
theorem write_sequence (h : c.link.Carries board) {address : UInt16} {data : Bytes}
    {W K D S : Stores → Prop} (hx : Executes b₀ c.slave.station address data W K D)
    (hJ : ∀ st, J st → W st) (hW : ∀ st, W st → S st) (hD : ∀ st, D st → S st) :
    Triple (fun t : Mailbox × σ => b₀.Stage c.slave.station J (board t.2)) (c.write address data)
      (fun _ t => b₀.Stage c.slave.station K (board t.2))
      fun e t => b₀.Stopped c.slave.station S e (board t.2) := by
  refine (write_executes h hx.known).mono (fun _ ht => ht.mono hJ) ?_ ?_
  · rintro _ t ⟨hfollows, hknown, hdone⟩
    exact ⟨hfollows, fun ha => (hdone ha).1 ha, hknown.2⟩
  · rintro e t (⟨rfl, ha, hd⟩ | ⟨-, ht⟩)
    · exact ⟨⟨fun _ => hD _ hd, fun ha' => absurd ha ha'⟩, fun hne => absurd rfl hne⟩
    · exact Stage.stopped ht hW e

/-- A write whose execution does not kill the board. -/
theorem write_sequence_alive (h : c.link.Carries board) {address : UInt16} {data : Bytes}
    {W K : Stores → Prop}
    (hx : Executes b₀ c.slave.station address data W K fun _ => False)
    (hJ : ∀ st, J st → W st) :
    Triple (fun t : Mailbox × σ => b₀.Stage c.slave.station J (board t.2)) (c.write address data)
      (fun _ t => b₀.Stage c.slave.station K (board t.2))
      fun e t => e ≠ .died ∧ b₀.Stage c.slave.station W (board t.2) := by
  refine (write_executes h hx.known).mono (fun _ ht => ht.mono hJ) ?_ ?_
  · rintro _ t ⟨hfollows, hknown, hdone⟩
    exact ⟨hfollows, fun ha => (hdone ha).1 ha, hknown.2⟩
  · rintro e t (⟨-, -, hd⟩ | hstage)
    · exact hd.elim
    · exact hstage

/-- A pause in a sequence. -/
lemma wait_sequence (h : c.link.Carries board) (us : Nat)
    {E : Stop → Mailbox × σ → Prop} :
    Triple (fun t : Mailbox × σ => b₀.Stage c.slave.station J (board t.2)) (c.wait us)
      (fun _ t => b₀.Stage c.slave.station J (board t.2)) E :=
  .within _ fun t ht => .modify _ fun s hs => by
    subst hs
    exact (h.pause us t.2).symm ▸ ht

end Channel

end MotorBoard
