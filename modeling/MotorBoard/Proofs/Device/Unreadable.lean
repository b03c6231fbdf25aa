/-
# A frame that cannot be read only halts

A status frame that is too short or does not sum to zero sets latches: the sticky error, the flag of
the checksum, and the two places where the output is known to be off.  No lockout is announced
behind it.  The frame is counted in the store where the store can be had at once.  Where the holder
of the store has died, the loss of the lock is counted instead, and the poison is cleared.

Nothing else of a device changes, and no verdict on a later frame depends on what does.  So a device
is compared with the same device under other latches, and frame by frame they go on alike.  In one
thing they may differ: a lockout is announced only where there was no error before it, so the two
may ask their electrical model for different traces.  By then the verdict on the frame stands.  For
the frames behind it this makes no difference as long as the models answer alike, whatever traces
they were asked for.

The main results are

* `CycleMachine.verify_latched`, `Device.unpack_latched`: one frame under two sets of latches;
* `Device.outcomes_latched`: any frames, one after the other;
* `Device.unread_only_halts`: what a frame that cannot be read leaves behind.
-/
import MotorBoard.Proofs.Device.Announcing

namespace MotorBoard

/-- What a machine remembers of errors, and of the last frame. -/
structure CycleLatches where
  hasError : Bool
  halted : Bool
  lockoutEntered : Bool
  statusChecksumError : Bool

namespace CycleMachine

/-- The machine with other latches. -/
def latched (l : CycleLatches) (m : CycleMachine) : CycleMachine :=
  { m with
    flags := { m.flags with statusChecksumError := l.statusChecksumError }
    hasError := l.hasError
    halted := l.halted
    lockoutEntered := l.lockoutEntered }

variable (l : CycleLatches) (m : CycleMachine) (status : StatusFrame)

/-- Taking note of a frame has nothing to do with latches. -/
lemma observe_latched : (m.latched l).observe status = (m.observe status).latched l := by
  rw [observe_eq, observe_eq]
  rfl

/-- The checks do not look at latches. -/
lemma guard_latched :
    guard status (m.latched l) = ((guard status m).1, (guard status m).2.latched l) := by
  refine Prod.ext ?_ ?_
  · rw [guard_fault, guard_fault]
    rfl
  · rw [guard_eq, guard_eq]
    rfl

/-- The verdict on a frame and the rest of the machine are the same under all latches, as long as
the model says the same. -/
theorem verify_latched {μ : Type} {R : μ → μ → Prop} (overheated : Bool)
    {modelOk modelOk' : μ → Bool × μ} {w w' : μ} (hw : R w w')
    (hasked : (modelOk' w').1 = (modelOk w).1 ∧ R (modelOk w).2 (modelOk' w').2) :
    ((m.latched l).verify status overheated modelOk' w').1 =
        (m.verify status overheated modelOk w).1 ∧
      (∃ l', ((m.latched l).verify status overheated modelOk' w').2.1 =
        (m.verify status overheated modelOk w).2.1.latched l') ∧
      R (m.verify status overheated modelOk w).2.2
        ((m.latched l).verify status overheated modelOk' w').2.2 := by
  have hsettled : ∀ (m : CycleMachine) (fault : Option CycleFault),
      ∃ l', (m.latched l).settle status fault = (m.settle status fault).latched l' := fun m _ =>
    ⟨⟨_, _, m.flags.inLockout && !m.resetting && !l.hasError, l.statusChecksumError⟩, rfl⟩
  rw [verify, verify, observe_latched, guard_latched]
  rcases guard status (m.observe status) with ⟨_ | early, m₁⟩
  · revert hasked
    dsimp only
    rcases modelOk w with ⟨ok, w₁⟩
    rcases modelOk' w' with ⟨ok', w₁'⟩
    rintro ⟨hok, hw₁⟩
    dsimp only at hok
    subst hok
    cases ok' with
    | true => exact ⟨rfl, hsettled m₁ _, hw₁⟩
    | false => exact ⟨rfl, hsettled m₁ _, hw₁⟩
  · exact ⟨rfl, hsettled m₁ _, hw⟩

end CycleMachine

namespace Models

variable {μ : Type}

/-- States of models that cannot be told apart: fed alike they answer alike.  Only the traces that
are asked for may lead out of `R`, and then they lead into `S`. -/
structure Blind (models : Models μ) (R S : μ → μ → Prop) : Prop where
  motorSample {w w' : μ} (sample : TraceSample) :
    R w w' → R (models.motorSample sample w) (models.motorSample sample w')
  motorCheckPublish {w w' : μ} :
    R w w' → R (models.motorCheckPublish w) (models.motorCheckPublish w')
  motorVerify {w w' : μ} : R w w' →
    (models.motorVerify w').1 = (models.motorVerify w).1 ∧
      R (models.motorVerify w).2 (models.motorVerify w').2
  heatingUpdate {w w' : μ} (sample : TraceSample) (info : ActuatorInfo) (ambient seconds : Float) :
    R w w' → R (models.heatingUpdate sample info ambient seconds w)
      (models.heatingUpdate sample info ambient seconds w')
  heatingOverheated {w w' : μ} : R w w' →
    (models.heatingOverheated w').1 = (models.heatingOverheated w).1 ∧
      R (models.heatingOverheated w).2 (models.heatingOverheated w').2
  requested {w w' : μ} (requests requests' : List TraceRequest) :
    R w w' → S (models.requested requests w) (models.requested requests' w')

/-- Models in one state answer alike until they are asked for traces. -/
lemma blind_eq (models : Models μ) : models.Blind Eq fun _ _ => True where
  motorSample _ h := by rw [h]
  motorCheckPublish h := by rw [h]
  motorVerify h := by rw [h]; exact ⟨rfl, rfl⟩
  heatingUpdate _ _ _ _ h := by rw [h]
  heatingOverheated h := by rw [h]; exact ⟨rfl, rfl⟩
  requested _ _ _ := trivial

end Models

namespace Device

/-- What a device remembers of errors, and the store where it counts them. -/
structure Latches where
  store : CollectedStore
  cycle : CycleLatches
  /-- Whether the output is off, as the actuator shows it. -/
  shown : Bool

/-- The device with other latches. -/
def latched (l : Latches) (d : Device) : Device :=
  { d with
    store := l.store
    cycle := d.cycle.latched l.cycle
    actuator := { d.actuator with state := { d.actuator.state with halted := l.shown } } }

/-- Two frames end alike: with the same verdict, with one device under different latches, and with
states of the models in a relation. -/
structure EndAlike {μ : Type} (R : μ → μ → Prop) (r r' : Option CycleFault × Device × μ) :
    Prop where
  verdict : r'.1 = r.1
  device : ∃ l, r'.2.1 = r.2.1.latched l
  world : R r.2.2 r'.2.2

section Latched

variable {μ : Type} {models : Models μ} {R S : μ → μ → Prop} {w w' : μ}
  (hblind : models.Blind R S) (hw : R w w') (l : Latches) (d : Device)

include hblind hw

lemma modelOk_latched : ((d.latched l).modelOk models w').1 = (d.modelOk models w).1 ∧
    R (d.modelOk models w).2 ((d.latched l).modelOk models w').2 := by
  show ((d.modelOk models w').1 = _ ∧ R _ (d.modelOk models w').2)
  rw [modelOk, modelOk]
  split
  · exact hblind.motorVerify hw
  · exact ⟨rfl, hw⟩

lemma fed_latched (status prev : StatusFrame) :
    R (d.fed models status prev w) ((d.latched l).fed models status prev w') := by
  show R _ (d.fed models status prev w')
  rw [fed, fed]
  split
  · exact hblind.motorCheckPublish (hblind.motorSample _ hw)
  · exact hw

lemma heated_latched (status prev : StatusFrame) :
    ((d.latched l).heated models status prev w').1 = (d.heated models status prev w).1 ∧
      R (d.heated models status prev w).2 ((d.latched l).heated models status prev w').2 := by
  show ((d.heated models status prev w').1 = _ ∧ R _ (d.heated models status prev w').2)
  have hupdated := hblind.heatingUpdate (d.sampleOf status prev) d.actuatorInfo
    (StatusFrame.celsius status.boardTemperature)
    (d.cycle.cycleDuration status.timestamp prev.timestamp) hw
  rw [heated, heated]
  split
  · dsimp only
    split
    · exact hblind.heatingOverheated hupdated
    · exact ⟨rfl, hupdated⟩
  · exact ⟨rfl, hw⟩

lemma verifyState_latched (status prev : StatusFrame) :
    EndAlike S (d.verifyState models status prev w)
      ((d.latched l).verifyState models status prev w') := by
  have hheated := heated_latched hblind (fed_latched hblind hw l d status prev) l d status prev
  rw [verifyState_eq, verifyState_eq]
  revert hheated
  rcases d.heated models status prev _ with ⟨hot, w₁⟩
  rcases (d.latched l).heated models status prev _ with ⟨hot', w₁'⟩
  rintro ⟨hhot, hw₁⟩
  dsimp only at hhot hw₁
  subst hhot
  obtain ⟨hfault, ⟨l', hcycle⟩, hw₂⟩ := d.cycle.verify_latched l.cycle status hot' hw₁
    (modelOk_latched hblind hw₁ l d)
  refine ⟨hfault, ⟨⟨l.store, l', l'.halted⟩, ?_⟩, hblind.requested _ _ hw₂⟩
  exact congrArg ((d.latched l).judged (d.sampleKept status prev) d.traceAnswered) hcycle

/-- A status frame has the same outcome under all latches. -/
theorem unpack_latched (this prev : Bytes) :
    EndAlike S (d.unpack models this prev w) ((d.latched l).unpack models this prev w') := by
  have hunread : EndAlike S (some CycleFault.statusChecksum, d.checksumFault, w)
      (some CycleFault.statusChecksum, (d.latched l).checksumFault, w') :=
    ⟨rfl, ⟨⟨_, ⟨true, true, false, true⟩, true⟩, rfl⟩, hblind.requested [] [] hw⟩
  rw [unpack, unpack]
  split
  · split
    · exact verifyState_latched hblind hw l (d.noted _ _) _ _
    · exact hunread
  · exact hunread

end Latched

/-- What comes of a status frame: the verdict, and the state of the actuator but for the output that
it shows. -/
def outcome {μ : Type} (r : Option CycleFault × Device × μ) : Option CycleFault × ActuatorState :=
  (r.1, { r.2.1.actuator.state with halted := false })

/-- What comes of status frames that are taken in one after the other, each next to another one. -/
def outcomes {μ : Type} (models : Models μ) :
    List (Bytes × Bytes) → Device → μ → List (Option CycleFault × ActuatorState)
  | [], _, _ => []
  | (this, prev) :: frames, d, w =>
    let r := d.unpack models this prev w
    outcome r :: outcomes models frames r.2.1 r.2.2

section Outcomes

variable {μ : Type} {models : Models μ} {R S : μ → μ → Prop} {w w' : μ}

lemma EndAlike.outcome_eq {r r' : Option CycleFault × Device × μ} (h : EndAlike R r r') :
    outcome r' = outcome r := by
  obtain ⟨l, hl⟩ := h.device
  rw [outcome, outcome, h.verdict, hl]
  rfl

/-- What comes of one frame is the same under all latches, whatever the models are. -/
lemma outcomes_latched_one (l : Latches) (d : Device) (frame : Bytes × Bytes) (w : μ) :
    outcomes models [frame] (d.latched l) w = outcomes models [frame] d w := by
  have hend := unpack_latched models.blind_eq (rfl : w = w) l d frame.1 frame.2
  exact congrArg (fun o => [o]) hend.outcome_eq

/-- What comes of any number of frames is the same under all latches, where traces lead to states
that the models cannot tell apart. -/
theorem outcomes_latched (hblind : models.Blind R R) (hw : R w w') (l : Latches) (d : Device)
    (frames : List (Bytes × Bytes)) :
    outcomes models frames (d.latched l) w' = outcomes models frames d w := by
  induction frames generalizing w w' l d with
  | nil => rfl
  | cons frame frames ih =>
    have hend := unpack_latched hblind hw l d frame.1 frame.2
    obtain ⟨l', hd⟩ := hend.device
    have htail := ih hend.world l' (d.unpack models frame.1 frame.2 w).2.1
    rw [← hd] at htail
    exact congrArg₂ List.cons hend.outcome_eq htail

end Outcomes

section Unread

variable {μ : Type} {this prev : Bytes}

/-- A frame is not read from buffers that are too short or do not sum to zero. -/
lemma statusRead_eq_none (h : this.length < StatusFrame.size ∨ prev.length < StatusFrame.size ∨
    Checksum.compute (this.take StatusFrame.size) ≠ 0) : statusRead this prev = none := by
  have hshort {b : Bytes} (hb : b.length < StatusFrame.size) :
      ∃ e, StatusFrame.decode b = .error e :=
    ⟨_, StatusFrame.roundTrips.refused _ hb⟩
  rw [statusRead]
  split
  · next hthis hprev =>
    refine if_neg fun hsum => ?_
    rcases h with hlength | hlength | hcorrupt
    · obtain ⟨e, he⟩ := hshort hlength
      cases hthis.symm.trans he
    · obtain ⟨e, he⟩ := hshort hlength
      cases hprev.symm.trans he
    · exact hcorrupt (beq_iff_eq.1 hsum)
  · rfl

/-- A frame that is not read is a fault, and the models are left out of it. -/
lemma unpack_unread (models : Models μ) (d : Device) (w : μ) (h : statusRead this prev = none) :
    d.unpack models this prev w = (some .statusChecksum, d.checksumFault, w) := by
  rw [unpack]
  split
  · next status _ hthis hprev =>
    have hread : statusRead this prev =
        if Checksum.verifies (this.take StatusFrame.size) then some status else none := by
      rw [statusRead, hthis, hprev]
    rw [hread] at h
    split at h
    · cases h
    · next hsum => exact if_neg hsum
  · rfl

/-- **A frame that cannot be read only halts.**  It sets the sticky error, the flag of the checksum
and the two places where the output is known to be off, and it announces no lockout.  In the store
it is counted where the lock is free; a lock that is held is left alone, and the poison of a dead
holder is counted and cleared.  Nothing else changes.  What comes of the next frame is the same as
without it, and so is what comes of all frames behind it as long as the models answer alike,
whatever traces they were asked for. -/
theorem unread_only_halts (models : Models μ) (d : Device) (w : μ)
    (hunread : this.length < 44 ∨ prev.length < 44 ∨ Checksum.compute (this.take 44) ≠ 0) :
    ∃ store d',
      d.unpack models this prev w = (some .statusChecksum, d', w) ∧
      d' = { d with
        store := store
        cycle := { d.cycle with
          flags := { d.cycle.flags with statusChecksumError := true }
          hasError := true
          halted := true
          lockoutEntered := false }
        actuator := { d.actuator with state := { d.actuator.state with halted := true } } } ∧
      (d.store.lock = .free → store = { d.store with value := { d.store.value with
        checksumErrors := d.store.value.checksumErrors + 1 } }) ∧
      (d.store.lock = .held → store = d.store) ∧
      (d.store.lock = .poisoned → store = { d.store with
        value := { d.store.value with lockErrors := d.store.value.lockErrors + 1 }
        lock := .free }) ∧
      (∀ frame, outcomes models [frame] d' w = outcomes models [frame] d w) ∧
      ∀ R : μ → μ → Prop, models.Blind R R → R w w →
        ∀ frames, outcomes models frames d' w = outcomes models frames d w := by
  have hcall := unpack_unread models d w (statusRead_eq_none hunread)
  have hlatched : d.checksumFault =
      d.latched ⟨(d.store.tryUpdate Collected.countChecksumError).2, ⟨true, true, false, true⟩,
        true⟩ := rfl
  refine ⟨_, _, hcall, rfl, ?_, ?_, ?_, fun frame => ?_, fun R hblind hw frames => ?_⟩
  · exact fun hfree => congrArg Prod.snd (Guarded.tryUpdate_free hfree _)
  · exact fun hheld => congrArg Prod.snd (Guarded.tryUpdate_held hheld _)
  · exact fun hpoisoned => congrArg Prod.snd (Guarded.tryUpdate_poisoned hpoisoned _)
  · rw [hlatched, outcomes_latched_one]
  · rw [hlatched, outcomes_latched hblind hw]

end Unread

/-- Stand-ins that give the same answers to a device, whatever was asked of them. -/
def SameAnswers (s s' : StandIns) : Prop :=
  s'.motorBad = s.motorBad ∧ s'.overheated = s.overheated

lemma blind_standIns : StandIns.models.Blind SameAnswers SameAnswers where
  motorSample _ h := h
  motorCheckPublish h := h
  motorVerify h := ⟨congrArg not h.1, h⟩
  heatingUpdate _ _ _ _ h := h
  heatingOverheated h := ⟨h.2, h⟩
  requested := by
    have hrequested (requests : List TraceRequest) (s : StandIns) :
        SameAnswers s (StandIns.models.requested requests s) := by
      induction requests with
      | nil => exact ⟨rfl, rfl⟩
      | cons request requests ih => exact ih
    intro s s' requests requests' h
    exact ⟨(hrequested requests' s').1.trans (h.1.trans (hrequested requests s).1.symm),
      (hrequested requests' s').2.trans (h.2.trans (hrequested requests s).2.symm)⟩

/-- A driver with an electrical model has read a frame.  Then it gets one with a byte that was
changed on the way, and two buffers without a byte.  Behind them come a frame that tells of a
lockout and one that tells of none. -/
theorem unread_only_halts_corrupted :
    let good := StatusFrame.encode { timestamp := 500 }
    let corrupt := (StatusFrame.encode { timestamp := 750 }).set 20 0x5A
    let frames := [(StatusFrame.encode { mode := Mode.safetyLockout }, good),
      (StatusFrame.encode { timestamp := 1000 }, good)]
    ∃ (fault : Option CycleFault) (d d₁ d₂ : Device) (w : StandIns),
      ({ fresh with hasMotorModel := true } : Device).unpack StandIns.models good
        (Bytes.zeros StatusFrame.size) {} = (fault, d, w) ∧
      corrupt.length = 44 ∧ d.unpack StandIns.models corrupt good w =
        (some .statusChecksum, d₁, w) ∧
      d₁.unpack StandIns.models [] [] w = (some .statusChecksum, d₂, w) ∧
      d₁.store.value.checksumErrors = 1 ∧ d₂.store.value.checksumErrors = 2 ∧
      d₂.cycle.hasError = true ∧
      outcomes StandIns.models frames d₁ w = outcomes StandIns.models frames d w ∧
      outcomes StandIns.models frames d₂ w = outcomes StandIns.models frames d₁ w := by
  intro good corrupt frames
  have hgood : (statusRead good (Bytes.zeros StatusFrame.size)).isSome = true := by
    decide +kernel
  have hcorrupt : corrupt.length = 44 ∧ Checksum.compute (corrupt.take 44) ≠ 0 := by
    decide +kernel
  rcases hread : ({ fresh with hasMotorModel := true } : Device).unpack StandIns.models good
    (Bytes.zeros StatusFrame.size) {} with ⟨fault, d, w⟩
  -- a frame that was read has left the store as it was
  have hstore : d.store = CollectedStore.fresh := by
    obtain ⟨_, _, _, _, _, _, -, -, _, _, hd⟩ | ⟨hnone, -, -⟩ := unpack_cases hread
    · exact congrArg Device.store hd
    · rw [hnone] at hgood
      cases hgood
  obtain ⟨store₁, d₁, hcall₁, hd₁, hfree₁, -, -, -, hlater₁⟩ :=
    @unread_only_halts StandIns corrupt good StandIns.models d w (.inr (.inr hcorrupt.2))
  obtain ⟨store₂, d₂, hcall₂, hd₂, hfree₂, -, -, -, hlater₂⟩ :=
    @unread_only_halts StandIns [] [] StandIns.models d₁ w (.inl (by decide))
  have hstore₁ : d₁.store.value.checksumErrors = 1 ∧ d₁.store.lock = .free := by
    rw [hd₁]
    show store₁.value.checksumErrors = 1 ∧ store₁.lock = .free
    rw [hfree₁ (hstore ▸ rfl), hstore]
    exact ⟨rfl, rfl⟩
  have hstore₂ : d₂.store.value.checksumErrors = 2 := by
    rw [hd₂]
    show store₂.value.checksumErrors = 2
    rw [hfree₂ hstore₁.2]
    show d₁.store.value.checksumErrors + 1 = 2
    rw [hstore₁.1]
    rfl
  have herror₂ : d₂.cycle.hasError = true := by rw [hd₂]
  exact ⟨fault, d, d₁, d₂, w, rfl, hcorrupt.1, hcall₁, hcall₂, hstore₁.1, hstore₂, herror₂,
    hlater₁ SameAnswers blind_standIns ⟨rfl, rfl⟩ frames,
    hlater₂ SameAnswers blind_standIns ⟨rfl, rfl⟩ frames⟩

/-- A thread has died with the lock of the store.  The next frame that cannot be read is not counted
as such; what is counted is the loss of the lock, and the lock is free again. -/
theorem unread_poisoned :
    ∃ (s : Stage Ring StandIns) (d' : Device), Run Ring.link StandIns.models [.other] s ∧
      s.device.store.lock = .poisoned ∧
      s.device.unpack StandIns.models [] [] s.world = (some .statusChecksum, d', s.world) ∧
      s.device.store.value.lockErrors = 0 ∧ d'.store.value.lockErrors = 1 ∧
      d'.store.value.checksumErrors = 0 ∧ d'.store.lock = .free := by
  have hcreate : create fresh.config fresh.slave none = .ok fresh := rfl
  have hfresh : Run Ring.link StandIns.models []
    ⟨fresh, {}, {}, ⟨.programmed casterInfo .zero, 0⟩⟩ := .created hcreate
  exact ⟨_, _, hfresh.step .die, rfl, rfl, rfl, rfl, rfl, rfl⟩

end Device

end MotorBoard
