/-
# The offset that a board keeps

A board with application memory keeps a calibration offset in a record of its own.  The
collector writes the offset that waits in the store there, and the bring-up takes over what
stands there.  A write that is reported as failed may have been executed all the same, and
then the board keeps the new offset although the store goes on waiting.

The main results are

* `Stores.keptOffset_write`: a record that was written is kept;
* `Device.collect_triple`: what a collection makes of the store and of the board's offset;
* `Device.collect_writes`: a collection that nothing disturbs leaves no offset waiting;
* `Device.bringUp_adopts`: what a bring-up takes over is what the board keeps.
-/
import MotorBoard.Proofs.Device.Collecting
import MotorBoard.Proofs.Record.Checks

namespace MotorBoard

open Call Board

namespace UserConfig

/-- The record does not touch the control byte of the transfer engine. -/
lemma apart {n : Nat} (hn : n = size) :
    covers address.toNat n SpiCommand.controlAddress.toNat = false := by
  subst hn
  decide

end UserConfig

/-- The offset in the record of a board, if the record is valid. -/
def Stores.keptOffset (st : Stores) : Option Binary64 :=
  match UserConfig.decode (st.localBus.range UserConfig.address.toNat UserConfig.size) with
  | .ok u => u.validZeroOffset
  | .error _ => none

lemma Stores.exists_record {st : Stores} {z : Binary64} (h : st.keptOffset = some z) :
    ∃ u, UserConfig.decode (st.localBus.range UserConfig.address.toNat UserConfig.size) = .ok u ∧
      u.validZeroOffset = some z := by
  rw [keptOffset] at h
  split at h
  · next u hu => exact ⟨u, hu, h⟩
  · cases h

/-- A record that was written is kept. -/
theorem Stores.keptOffset_write (bus : Memory 0x10000) (pages : UInt16 → Image 264)
    (z : Binary64) :
    keptOffset ⟨bus.write UserConfig.address.toNat (UserConfig.make z).encode, pages⟩ = some z := by
  have hlen : (UserConfig.make z).encode.length = UserConfig.size := UserConfig.length_encode _
  have hrange := Memory.range_write_self bus UserConfig.address.toNat (UserConfig.make z).encode
    (by rw [hlen]; decide)
  rw [hlen] at hrange
  rw [keptOffset, hrange, UserConfig.decode_encode]
  exact UserConfig.validZeroOffset_make z

namespace Board

/-- The write of an offset.  While it is under way the board keeps what it kept or the new
offset. -/
lemma executes_offset (b₀ : Board) (station : UInt16) (o : Option Binary64) (z : Binary64) :
    Executes b₀ station UserConfig.address (UserConfig.make z).encode
      (fun st => st.keptOffset = o ∨ st.keptOffset = some z)
      (fun st => st.keptOffset = some z) (fun _ => False) where
  weaken _ := .inr
  step b _ _ _ := by
    have hlen : (UserConfig.make z).encode.length = UserConfig.size := UserConfig.length_encode _
    rw [writeBus_plain (UserConfig.apart hlen)]
    refine (storeBus_ends _ _ b).imp ?_ ?_
    · rintro _ _ ⟨-, rfl⟩
      exact Stores.keptOffset_write _ _ z
    · rintro _ _ ⟨-, hout⟩
      rw [hlen] at hout
      exact absurd hout (by decide)

end Board

namespace Collected

/-- What was collected, with the same offsets as before. -/
structure SameOffsets (c c' : Collected) : Prop where
  zeroOffset : c'.zeroOffset = c.zeroOffset
  cached : c'.cachedZeroOffset = c.cachedZeroOffset

namespace SameOffsets

variable {c c' : Collected}

lemma refl (c : Collected) : SameOffsets c c := ⟨rfl, rfl⟩

lemma trans {c'' : Collected} (h : SameOffsets c c') (h' : SameOffsets c' c'') :
    SameOffsets c c'' :=
  ⟨h'.zeroOffset.trans h.zeroOffset, h'.cached.trans h.cached⟩

lemma pending (h : SameOffsets c c') : c'.offsetPending = c.offsetPending := by
  rw [offsetPending, offsetPending, h.zeroOffset, h.cached]

/-- A lock that cannot be had leaves the offsets alone. -/
lemma update {β : Type} {f : Collected → β × Collected} (hf : ∀ c, SameOffsets c (f c).2)
    (g : CollectedStore) : SameOffsets g.value (g.update f).2.value :=
  g.update_value hf fun _ => ⟨rfl, rfl⟩

end SameOffsets

/-- What was collected, when the offset that waited was written and none waits any more. -/
structure Written (c c' : Collected) : Prop where
  zeroOffset : c'.zeroOffset = c.zeroOffset
  cached : c'.cachedZeroOffset = if c.offsetPending then c.zeroOffset else c.cachedZeroOffset

lemma Written.trans {c c' c'' : Collected} (h : Written c c') (h' : SameOffsets c' c'') :
    Written c c'' :=
  ⟨h'.zeroOffset.trans h.zeroOffset, h'.cached.trans h.cached⟩

end Collected

namespace Device

variable {σ μ : Type} {link : Link σ} {models : Models μ} {board : σ → Board} {d : Device}
  {b₀ : Board}

/-- A device with the settings of another one, in whose store stand the same offsets. -/
structure SameOffsets (d d' : Device) : Prop where
  config : d'.config = d.config
  slave : d'.slave = d.slave
  offsets : d.store.value.SameOffsets d'.store.value

namespace SameOffsets

lemma refl (d : Device) : SameOffsets d d := ⟨rfl, rfl, .refl _⟩

lemma channel {d' : Device} (h : SameOffsets d d') (link : Link σ) :
    d'.channel link = d.channel link := by
  rw [Device.channel, Device.channel, h.slave, h.config]

end SameOffsets

/-- A call on the channel of a device leaves the offsets in its store alone. -/
lemma overChannel_offsets {α : Type} {m : Channel σ → Call (Mailbox × σ) α} {A : σ → Prop}
    {B : α → σ → Prop} {E : Stop → σ → Prop}
    (hm : Triple (fun t => A t.2) (m (d.channel link)) (fun a t => B a t.2) fun e t => E e t.2) :
    Triple (fun p => SameOffsets d p.1 ∧ A p.2) (overChannel link m)
      (fun a p => SameOffsets d p.1 ∧ B a p.2) fun e p => SameOffsets d p.1 ∧ E e p.2 :=
  overChannel_triple (fun _ _ h => ⟨h.config, h.slave, h.offsets⟩) (fun _ h => h.channel link) hm

/-- What came of the offset that waited in the store of `d`, where the board kept `o` before
and keeps `o'` now.  The board keeps what it kept, or it keeps what waited, and the store may
have learned of that or not. -/
structure Outcome (d : Device) (o : Option Binary64) (d' : Device) (o' : Option Binary64) :
    Prop where
  slave : d'.slave = d.slave
  zeroOffset : d'.store.value.zeroOffset = d.store.value.zeroOffset
  kept : d'.store.value.cachedZeroOffset = d.store.value.cachedZeroOffset ∧ o' = o ∨
    d.store.value.offsetPending = true ∧ o' = some d.store.value.zeroOffset ∧
      (d'.store.value.cachedZeroOffset = d.store.value.cachedZeroOffset ∨
        d'.store.value.cachedZeroOffset = d.store.value.zeroOffset)

section Collection

variable {o : Option Binary64}

/-- A collection on its way: nothing has happened to the offsets yet. -/
abbrev Gathering (board : σ → Board) (b₀ : Board) (d : Device) (o : Option Binary64)
    (p : Device × σ) : Prop :=
  SameOffsets d p.1 ∧ b₀.Stage d.slave.station (fun st => st.keptOffset = o) (board p.2)

/-- A collection that is over, whether it was done or has failed. -/
def Gathered (board : σ → Board) (d : Device) (o : Option Binary64) (p : Device × σ) : Prop :=
  Outcome d o p.1 (board p.2).stores.keptOffset ∧ (board p.2).Answers d.slave.station

lemma Gathering.over (ha : b₀.Answers d.slave.station) {p : Device × σ}
    (hp : Gathering board b₀ d o p) : Gathered board d o p :=
  ⟨⟨hp.1.slave, hp.1.offsets.zeroOffset, .inl ⟨hp.1.offsets.cached, hp.2.2.1 ha⟩⟩,
    hp.2.1.answers_iff.2 ha⟩

/-- The write of an offset.  One that is not reported as done may have been executed or not. -/
lemma writeAppRam_triple (h : link.Carries board) (z : Binary64) :
    Triple (Gathering board b₀ d o) (writeAppRam link z)
      (fun _ p => SameOffsets d p.1 ∧
        b₀.Stage d.slave.station (fun st => st.keptOffset = some z) (board p.2))
      fun e p => SameOffsets d p.1 ∧ e ≠ .died ∧ b₀.Stage d.slave.station
        (fun st => st.keptOffset = o ∨ st.keptOffset = some z) (board p.2) :=
  overChannel_offsets
    (A := fun s => b₀.Stage d.slave.station (fun st => st.keptOffset = o) (board s))
    (B := fun _ s => b₀.Stage d.slave.station (fun st => st.keptOffset = some z) (board s))
    (E := fun e s => e ≠ .died ∧ b₀.Stage d.slave.station
      (fun st => st.keptOffset = o ∨ st.keptOffset = some z) (board s))
    ((d.channel link).write_sequence_alive h (executes_offset b₀ d.slave.station o z)
      fun _ => .inl)

/-- The write of the waiting offset was not reported as done.  The board keeps one of the two
offsets, and the store has not learned which. -/
lemma Gathered.of_unsure (ha : b₀.Answers d.slave.station)
    (hpending : d.store.value.offsetPending = true) {p : Device × σ} (hsame : SameOffsets d p.1)
    (hstage : b₀.Stage d.slave.station (fun st => st.keptOffset = o ∨
      st.keptOffset = some d.store.value.zeroOffset) (board p.2)) : Gathered board d o p := by
  obtain ⟨hfollows, hknown⟩ := hstage
  refine ⟨⟨hsame.slave, hsame.offsets.zeroOffset, ?_⟩, hfollows.answers_iff.2 ha⟩
  exact (hknown.1 ha).imp (fun hold => ⟨hsame.offsets.cached, hold⟩)
    fun hnew => ⟨hpending, hnew, .inl hsame.offsets.cached⟩

/-- The write was reported as done.  The store learns of it, unless its lock cannot be had. -/
lemma Gathered.of_written (ha : b₀.Answers d.slave.station)
    (hpending : d.store.value.offsetPending = true) {p : Device × σ} (hsame : SameOffsets d p.1)
    (hstage : b₀.Stage d.slave.station
      (fun st => st.keptOffset = some d.store.value.zeroOffset) (board p.2)) :
    Gathered board d o ({ p.1 with store := (p.1.store.update fun now =>
      ((), { now with cachedZeroOffset := d.store.value.zeroOffset })).2 }, p.2) := by
  obtain ⟨hfollows, hknown⟩ := hstage
  have hlearned := p.1.store.update_value (R := fun c c' => c'.zeroOffset = c.zeroOffset ∧
      (c'.cachedZeroOffset = c.cachedZeroOffset ∨
        c'.cachedZeroOffset = d.store.value.zeroOffset))
    (f := fun now => ((), { now with cachedZeroOffset := d.store.value.zeroOffset }))
    (fun _ => ⟨rfl, .inr rfl⟩) fun _ => ⟨rfl, .inl rfl⟩
  refine ⟨⟨hsame.slave, hlearned.1.trans hsame.offsets.zeroOffset,
    .inr ⟨hpending, hknown.1 ha, ?_⟩⟩, hfollows.answers_iff.2 ha⟩
  exact hlearned.2.imp_left (·.trans hsame.offsets.cached)

/-- What the store shows is what was in it. -/
lemma snapshot_triple :
    Triple (Gathering board b₀ d o) (changeStore Guarded.snapshot)
      (fun r p => (∀ c, r = .ok c → d.store.value.SameOffsets c) ∧ Gathering board b₀ d o p)
      fun e p => e ≠ .died ∧ Gathered board d o p := by
  refine .update _ fun p hp => ⟨fun c hc => ?_, ⟨hp.1.config, hp.1.slave, ?_⟩, hp.2⟩
  · have hvalue : c = p.1.store.value := by
      change (p.1.store.update _).1 = _ at hc
      rw [Guarded.update] at hc
      split at hc
      · cases hc
      · exact (Except.ok.inj hc).symm
    exact hvalue ▸ hp.1.offsets
  · exact hp.1.offsets.trans (.update (fun c => .refl c) _)

/-- The offset that waits is written, and the store learns of it if the write is reported as
done. -/
lemma syncZeroOffset_triple (h : link.Carries board) (ha : b₀.Answers d.slave.station) :
    Triple (Gathering board b₀ d o) (syncZeroOffset link) (fun _ => Gathered board d o)
      fun e p => e ≠ .died ∧ Gathered board d o p := by
  refine syncZeroOffset_stages snapshot_triple (F := fun _ e p => e ≠ .died ∧ Gathered board d o p)
    (W := fun c p => c.zeroOffset = d.store.value.zeroOffset ∧
      d.store.value.offsetPending = true ∧ SameOffsets d p.1 ∧ b₀.Stage d.slave.station
        (fun st => st.keptOffset = some d.store.value.zeroOffset) (board p.2))
    (fun _ _ hp => hp.2.over ha) (fun _ _ _ hp => hp.2.over ha) (fun c hpending => ?written)
    (fun _ _ _ hp => hp.2) (fun _ _ _ _ => id) fun c p hp => ?learned
  case written =>
    refine Triple.lift fun hr => ?_
    have hc := hr c rfl
    rw [hc.pending] at hpending
    rw [hc.zeroOffset]
    refine (writeAppRam_triple h _).mono (fun _ => id) (fun _ p hp => ?_) fun e p hp => ?_
    · exact ⟨rfl, hpending, hp⟩
    · exact ⟨hp.2.1, .of_unsure ha hpending hp.1 hp.2.2⟩
  case learned =>
    rw [hp.1]
    exact .of_written ha hp.2.1 hp.2.2.1 hp.2.2.2

/-- What a collection reads changes nothing, and in the end the offset is written. -/
lemma gather_offsets (h : link.Carries board) (ha : b₀.Answers d.slave.station) :
    Triple (Gathering board b₀ d o) (gather link) (fun _ => Gathered board d o)
      fun e p => e ≠ .died ∧ Gathered board d o p :=
  (gather_triple h (fun _ _ hsame => ⟨hsame.config, hsame.slave, hsame.offsets⟩)
    (fun _ hsame => hsame.channel link) (syncZeroOffset_triple h ha) (fun _ => Gathering.over ha)
    fun _ _ he hp => ⟨he, Gathering.over ha hp⟩).post fun _ _ hp => hp.2

/-- The conclusion of a collection leaves the offsets alone. -/
lemma conclude_offsets (result : Except Error (SafetyStatus × DiagnosticsInfo))
    (g : CollectedStore) : g.value.SameOffsets (conclude result g).2.value := by
  rw [conclude]
  dsimp only
  rcases hg : g.update _ with ⟨r, g'⟩
  have htaken : g.value.SameOffsets g'.value :=
    (congrArg (fun p => g.value.SameOffsets p.2.value) hg).mp
      (.update (fun c => by cases result <;> exact ⟨rfl, rfl⟩) g)
  cases r with
  | ok u => exact htaken
  | error e => exact htaken.trans (.update (fun _ => ⟨rfl, rfl⟩) g')

/-- What a collection makes of the store and of the offset on the board, however it ends. -/
theorem collect_triple (h : link.Carries board) (ha : b₀.Answers d.slave.station) :
    Triple (Gathering board b₀ d o) (collect link) (fun _ => Gathered board d o)
      fun _ => Gathered board d o := by
  refine ((gather_offsets h ha).attempt.stop_mono fun _ _ hp => hp.2).bind fun r => ?_
  refine Triple.bind (Q := fun _ => Gathered board d o) ?_ fun r =>
    .ofExcept (fun _ _ _ => id) fun _ _ _ => id
  refine Triple.pre (P := Gathered board d o) (.update _ fun p hp => ?_) fun p hp => ?_
  · have hsame := conclude_offsets r p.1.store
    exact ⟨⟨hp.1.slave, hsame.zeroOffset.trans hp.1.zeroOffset, by
      rw [hsame.cached]
      exact hp.1.kept⟩, hp.2⟩
  · cases r with
    | ok x => exact hp
    | error e => exact hp.2

/-! A collection that nothing disturbs. -/

section Undisturbed

variable (h : link.Carries board) (hd : Collectable d b₀)

include h hd

/-- The record of the offset is written. -/
lemma writeAppRam_calm (z : Binary64) :
    Triple (Calm link board d b₀) (writeAppRam link z) (fun _ => Calm link board d b₀)
      fun _ _ => False := by
  have hlen : (UserConfig.make z).encode.length = UserConfig.size := UserConfig.length_encode _
  have hwrite : Triple ((d.channel link).Calm board b₀ fun _ => True)
      ((d.channel link).write UserConfig.address (UserConfig.make z).encode)
      (fun _ => (d.channel link).Calm board b₀ fun _ => True) fun _ _ => False := by
    refine (d.channel link).write_undisturbed h hd.patient hd.state ?_ fun b _ _ => ?_
    · rw [hlen]
      decide
    · rw [writeBus_plain (UserConfig.apart hlen)]
      refine (storeBus_ends _ _ b).imp (fun _ _ _ => trivial) ?_
      rintro _ _ ⟨-, hout⟩
      rw [hlen] at hout
      exact absurd hout (by decide)
  exact (overChannel_triple (SameOrigin.aloof d).mailbox (fun _ hsame => hsame.channel link)
    hwrite).stop_mono fun _ _ hp => hp.2

/-- The offset that waits is written, and the store learns of it. -/
lemma syncZeroOffset_calm :
    Triple (Calm link board d b₀) (syncZeroOffset link)
      (fun _ p => p.1.store.lock ≠ .poisoned ∧ d.store.value.Written p.1.store.value)
      fun _ _ => False := by
  -- whoever looks into the store waits for its lock and gives it back
  let d₁ : Device := { d with store := d.store.release }
  have hd₁ : Collectable d₁ b₀ := { hd with store := LockState.noConfusion }
  have hlook : Triple (Calm link board d b₀) (changeStore Guarded.snapshot)
      (fun r p => r = .ok d.store.value ∧ Calm link board d₁ b₀ p) fun _ _ => False := by
    refine .update _ fun p hp => ?_
    have hsnapshot : p.1.store.snapshot = (.ok d.store.value, d.store.release) := by
      rw [hp.1.store]
      exact Guarded.update_unpoisoned hd.store _
    obtain ⟨⟨hconfig, hslave, hheating, -, hcalibration⟩, hcalm⟩ := hp
    dsimp only
    rw [hsnapshot]
    exact ⟨rfl, ⟨hconfig, hslave, hheating, rfl, hcalibration⟩, hcalm⟩
  refine syncZeroOffset_stages hlook (F := fun _ _ _ => False)
    (W := fun c p => c = d.store.value ∧ c.offsetPending = true ∧ Calm link board d₁ b₀ p)
    (fun e p hp => ?hidden) (fun c p hnone hp => ?nothing) (fun c hpending => ?written)
    (fun _ _ _ => False.elim) (fun _ _ _ _ => id) fun c p hp => ?learned
  case hidden => cases hp.1
  case nothing =>
    obtain rfl := Except.ok.inj hp.1
    rw [hp.2.1.store]
    exact ⟨LockState.noConfusion, rfl, (if_neg (Bool.eq_false_iff.1 hnone)).symm⟩
  case written =>
    refine Triple.lift fun hc => ?_
    exact (writeAppRam_calm h hd₁ _).post fun _ _ hp => ⟨Except.ok.inj hc, hpending, hp⟩
  case learned =>
    obtain ⟨rfl, hpending, hp⟩ := hp
    have hlearned := Guarded.update_unpoisoned hd₁.store fun now =>
      ((), { now with cachedZeroOffset := d.store.value.zeroOffset })
    dsimp only
    rw [hp.1.store, hlearned]
    exact ⟨LockState.noConfusion, rfl, (if_pos hpending).symm⟩

/-- A collection that nothing disturbs succeeds.  It writes the offset that waits, and then
none waits any more. -/
theorem collect_writes (hram : d.config.appRam = .present) {s : σ} (hs : board s = b₀) :
    ∃ d' s', collect link (d, s) = (.ok (), d', s') ∧
      d.store.value.Written d'.store.value := by
  have hgather := gather_calm h hd (fun _ => syncZeroOffset_calm h hd) (absurd hram ·)
  obtain ⟨p, x, ⟨-, hwritten⟩, hcall⟩ := collect_gathered hgather (fun p hp => hp.1)
    ⟨.refl d, hd.lock, hs ▸ .refl _, hs ▸ hd.undisturbed, trivial⟩
  exact ⟨_, _, hcall, hwritten.trans (conclude_offsets _ _)⟩

end Undisturbed

end Collection

/-! Taking over the offset that the board keeps. -/

section Takeover

/-- A device whose store has the offset that the board keeps. -/
structure Adopted (board : σ → Board) (d : Device) (s : Stage σ μ) : Prop where
  slave : s.device.slave = d.slave
  answers : (board s.bus).Answers d.slave.station
  kept : (board s.bus).stores.keptOffset = some s.device.store.value.cachedZeroOffset

/-- What is read is what the board keeps. -/
lemma readAppRam_triple (h : link.Carries board) (d : Device) (bus : σ) :
    Triple (fun p => p = (d, bus)) (readAppRam link)
      (fun r p => ∀ z, r = some z →
        (board p.2).Answers d.slave.station ∧ (board p.2).stores.keptOffset = some z)
      fun _ _ => True := by
  have hread : Triple (fun p : Device × σ => SameOffsets d p.1 ∧ p.2 = bus)
      (overChannel link fun c => c.read UserConfig.address UserConfig.size)
      (fun raw p => SameOffsets d p.1 ∧ (board p.2).Answers d.slave.station ∧
        raw = (board p.2).localBus.range UserConfig.address.toNat UserConfig.size)
      fun _ p => SameOffsets d p.1 ∧ True := by
    refine overChannel_offsets (A := fun s => s = bus) (B := fun raw s =>
      (board s).Answers d.slave.station ∧
        raw = (board s).localBus.range UserConfig.address.toNat UserConfig.size)
      (E := fun _ _ => True) ?_
    refine (Channel.read_answered_triple (c := d.channel link) h (board bus) _ _).mono ?_ ?_
      fun _ _ _ => trivial
    · rintro t rfl
      exact ⟨.refl _, rfl, rfl⟩
    · rintro raw t ⟨⟨ha, hfollows⟩, hsame, hshows⟩
      exact ⟨hfollows.answers_iff.2 ha, hsame.1 ▸ hshows.eq_range (UserConfig.apart rfl)⟩
  refine (hread.mono ?_ (fun _ _ => id) fun _ _ _ => trivial).bind fun raw => ?_
  · rintro _ rfl
    exact ⟨.refl d, rfl⟩
  refine Triple.bind (Q := fun u p => UserConfig.decode raw = .ok u ∧
    (board p.2).Answers d.slave.station ∧
      raw = (board p.2).localBus.range UserConfig.address.toNat UserConfig.size)
    (.ofExcept (fun u hu p hp => ⟨hu, hp.2⟩) fun _ _ _ _ => trivial) fun u =>
      Triple.lift fun hu => .pure _ fun p hp z hz => ⟨hp.1, ?_⟩
  have hrange : (board p.2).stores.localBus.range UserConfig.address.toNat UserConfig.size = raw :=
    hp.2.symm
  rw [Stores.keptOffset, hrange, hu]
  exact hz

/-- An offset that is taken over is the one that the board keeps. -/
lemma restoreCalibration_triple (h : link.Carries board) (hlock : d.store.lock ≠ .poisoned) :
    Triple (fun s : Stage σ μ => SameOrigin d s.device) (restoreCalibration link)
      (fun _ s => SameOrigin d s.device ∨ Adopted board d s) fun _ _ => True := by
  have hread : Triple (fun s : Stage σ μ => SameOrigin d s.device)
      (Call.within Stage.deviceAndBus (readAppRam link))
      (fun r s => SameOrigin d s.device ∧ ∀ z, r = some z →
        (board s.bus).Answers d.slave.station ∧ (board s.bus).stores.keptOffset = some z)
      fun _ s => SameOrigin d s.device := by
    refine .within _ fun s hs => ?_
    have hkeeps : KeepsDevice (SameOrigin d) (readAppRam link) :=
      readAppRam_keeps (SameOrigin.aloof d).mailbox
    refine ((readAppRam_triple h s.device s.bus).and hkeeps).mono ?_ (fun r p hp => ⟨hp.2, ?_⟩)
      fun _ _ hp => hp.2 trivial
    · rintro _ rfl
      exact ⟨rfl, hs⟩
    · rw [← hs.slave]
      exact hp.1
  refine restoreCalibration_stages hread (fun _ _ => .inl) (fun _ hs => .inl hs.1)
    (fun z s hs => .inr ?adopted) fun _ _ _ _ => trivial
  case adopted =>
    obtain ⟨hsame, hz⟩ := hs
    obtain ⟨ha, hkept⟩ := hz z rfl
    have hadopted : (adoptOffset z s.device).store.value.cachedZeroOffset = z := by
      rw [adoptOffset, Guarded.update_unpoisoned (hsame.store ▸ hlock)]
    exact ⟨hsame.slave, ha, hadopted.symm ▸ hkept⟩

/-- What a bring-up takes over is what the board keeps. -/
theorem bringUp_adopts (h : link.Carries board) {claim allowUnprogrammed : Bool}
    {s s' : Stage σ μ} (hlock : s.device.store.lock ≠ .poisoned)
    (hfresh : s.device.calibration ≠ .savedCalibration)
    (hcall : bringUp link models claim allowUnprogrammed s = (.ok (), s'))
    (hsaved : s'.device.calibration = .savedCalibration) : Adopted board s.device s' := by
  have htriple : Triple (fun t => SameOrigin s.device t.device)
      (bringUp link models claim allowUnprogrammed)
      (fun _ t => SameOrigin s.device t.device ∨ Adopted board s.device t) fun _ _ => True :=
    bringUp_triple (SameOrigin.aloof s.device) (fun _ => .inl)
      (fun s x ht => ht.imp ((SameOrigin.aloof _).maxCurrent _ x)
        fun h => ⟨h.slave, h.answers, h.kept⟩)
      (fun _ _ _ => trivial) (restoreCalibration_triple h hlock) claim allowUnprogrammed
  obtain hsame | hadopted := htriple.result (.refl _) hcall
  · exact absurd (hsame.calibration.symm.trans hsaved) hfresh
  · exact hadopted

end Takeover

end Device

end MotorBoard
