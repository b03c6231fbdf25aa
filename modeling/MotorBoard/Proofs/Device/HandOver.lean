/-
# Handing the offset over

A controller sets the offset of an actuator.  The cycle hands it over to the store, and the
next collection writes it to the board, whose record is read again when the master is
restarted.  So the offset stands in three places, and two parties move it on at different
times.

A collection whose write failed leaves the offset waiting, but the write may have been
executed.  From then on the board keeps either what the store takes for written or the offset
of such a write in doubt, until an offset is written that leaves nothing waiting.  A
controller that goes back to the offset that the store takes for written leaves nothing
waiting either, and then no collection clears the doubt.  The main results are

* `HandOver.Step.keeps`: one step;
* `HandOver.Run.offset_kept`: what the board keeps after a run;
* `HandOver.Run.restart`: what a restart takes over.
-/
import MotorBoard.Proofs.Device.Interlock
import MotorBoard.Proofs.Device.Restart
import MotorBoard.Proofs.Record.Checks

namespace MotorBoard

open Call Board

namespace Device

/-- A command leaves alone what the store takes for written. -/
lemma pack_cached {μ : Type} {models : Models μ} {halt reset : Bool} {frame : Bytes}
    {d d' : Device} {w w' : μ} (h : d.pack models halt reset w = (frame, d', w')) :
    d'.slave = d.slave ∧
      d'.store.value.cachedZeroOffset = d.store.value.cachedZeroOffset := by
  obtain ⟨store, _, _, ⟨offset, lockErrors, hvalue⟩, rfl, -⟩ := pack_cases h
  refine ⟨rfl, ?_⟩
  show store.value.cachedZeroOffset = d.store.value.cachedZeroOffset
  rw [hvalue]

end Device

namespace HandOver

/-- What is seen of a step. -/
inductive Event where
  /-- A collection, with what was collected before and after it. -/
  | collected (before after : Collected)
  /-- Something else happened. -/
  | other

/-- The offsets that the board may keep although the store does not know: those that a
collection found waiting and left waiting, since a collection that left nothing waiting.  The
newest event comes first. -/
def doubtful : List Event → List Binary64
  | [] => []
  | .other :: earlier => doubtful earlier
  | .collected before after :: earlier =>
    if before.offsetPending then
      if after.offsetPending then before.zeroOffset :: doubtful earlier else []
    else doubtful earlier

section Runs

variable {σ μ : Type}

/-- The steps of a driver that has an offset to hand over.  Besides the command of the cycle,
the controllers and the collections there is what others do, as long as they leave the offsets
in the store and what the board stores alone. -/
inductive Step (link : Link σ) (models : Models μ) (board : σ → Board) :
    Stage σ μ → Event → Stage σ μ → Prop
  | pack {s : Stage σ μ} {halt reset : Bool} {frame : Bytes} {d : Device} {w : μ} :
      s.device.pack models halt reset s.world = (frame, d, w) →
      Step link models board s .other { s with device := d, world := w }
  | control {s : Stage σ μ} {command : ActuatorCommand} {zeroOffset : Binary64}
      {output trace : UInt8} :
      Step link models board s .other
        { s with device := s.device.controlled command zeroOffset output trace }
  | collect {s : Stage σ μ} {r : Except Stop Unit} {d : Device} {bus : σ} :
      Device.collect link (s.device, s.bus) = (r, d, bus) →
      Step link models board s (.collected s.device.store.value d.store.value)
        { s with device := d, bus := bus }
  | around {s s' : Stage σ μ} : s'.device.slave = s.device.slave →
      s.device.store.value.SameOffsets s'.device.store.value →
      (board s'.bus).stores = (board s.bus).stores →
      ((board s.bus).Answers s.device.slave.station →
        (board s'.bus).Answers s.device.slave.station) →
      Step link models board s .other s'

/-- The runs of a driver whose bring-up has taken over an offset that the board kept.  The
newest event comes first. -/
inductive Run (link : Link σ) (models : Models μ) (board : σ → Board) :
    List Event → Stage σ μ → Prop
  | restored {config : DeviceConfig} {slave : Slave} {heating : Option HeatingSettings}
      {d : Device} {registry : Registry} {w : μ} {bus : σ} {claim allowUnprogrammed : Bool}
      {s : Stage σ μ} : Device.create config slave heating = .ok d →
      Device.bringUp link models claim allowUnprogrammed ⟨d, registry, w, bus⟩ = (.ok (), s) →
      s.device.calibration = .savedCalibration → Run link models board [] s
  | step {history : List Event} {s s' : Stage σ μ} {e : Event} :
      Run link models board history s → Step link models board s e s' →
      Run link models board (e :: history) s'

/-- The board answers, and what it keeps is what the store takes for written, or it is in
doubt. -/
structure Accounted (board : σ → Board) (history : List Event) (s : Stage σ μ) : Prop where
  answers : (board s.bus).Answers s.device.slave.station
  kept : ∃ z, (board s.bus).stores.keptOffset = some z ∧
    (z = s.device.store.value.cachedZeroOffset ∨ z ∈ doubtful history)

variable {link : Link σ} {models : Models μ} {board : σ → Board} {s s' : Stage σ μ} {e : Event}
  {history : List Event}

/-- A step that does not touch what the store takes for written or what the board keeps. -/
lemma Accounted.of_same (h : Accounted board history s)
    (hslave : s'.device.slave = s.device.slave)
    (hcached : s'.device.store.value.cachedZeroOffset = s.device.store.value.cachedZeroOffset)
    (hstores : (board s'.bus).stores = (board s.bus).stores)
    (hanswers : (board s'.bus).Answers s.device.slave.station) :
    Accounted board (.other :: history) s' := by
  refine ⟨hslave.symm ▸ hanswers, ?_⟩
  rw [hstores, hcached]
  exact h.kept

/-- What a collection makes of the offset is accounted for. -/
lemma Accounted.of_outcome (h : Accounted board history s) {d : Device} {o : Option Binary64}
    (hout : Device.Outcome s.device (board s.bus).stores.keptOffset d o) :
    ∃ z, o = some z ∧ (z = d.store.value.cachedZeroOffset ∨
      z ∈ doubtful (.collected s.device.store.value d.store.value :: history)) := by
  -- where the store has learned nothing, an offset that waited is waiting still
  have hwaits : d.store.value.cachedZeroOffset = s.device.store.value.cachedZeroOffset →
      d.store.value.offsetPending = s.device.store.value.offsetPending := fun hcached =>
    Collected.SameOffsets.pending ⟨hout.zeroOffset, hcached⟩
  obtain ⟨hcached, ho⟩ | ⟨hpending, ho, hlearned⟩ := hout.kept
  · obtain ⟨z, hz, haccount⟩ := h.kept
    refine ⟨z, ho.trans hz, hcached.symm ▸ haccount.imp_right fun hmem => ?_⟩
    rw [doubtful, hwaits hcached]
    split
    · exact List.mem_cons_of_mem _ hmem
    · exact hmem
  · refine ⟨_, ho, ?_⟩
    rw [doubtful, if_pos hpending]
    split
    · exact .inr List.mem_cons_self
    · next hdone =>
      exact .inl (hlearned.resolve_left fun hcached => hdone ((hwaits hcached).trans hpending)).symm

/-- After a step the offset on the board is accounted for as it was before. -/
theorem Step.keeps (hcarries : link.Carries board) (hstep : Step link models board s e s')
    (h : Accounted board history s) : Accounted board (e :: history) s' := by
  cases hstep with
  | pack hcall =>
    obtain ⟨hslave, hcached⟩ := Device.pack_cached hcall
    exact h.of_same hslave hcached rfl h.answers
  | control => exact h.of_same rfl rfl rfl h.answers
  | around hslave hsame hstores hanswers =>
    exact h.of_same hslave hsame.cached hstores (hanswers h.answers)
  | @collect r d bus hcall =>
    have hends := Device.collect_triple hcarries h.answers
      (o := (board s.bus).stores.keptOffset) (s.device, s.bus) ⟨.refl _, .refl rfl⟩
    rw [hcall] at hends
    have hover : Device.Gathered board s.device (board s.bus).stores.keptOffset (d, bus) := by
      cases r <;> exact hends
    exact ⟨hover.1.slave.symm ▸ hover.2, h.of_outcome hover.1⟩

lemma Run.accounted (hcarries : link.Carries board) (hr : Run link models board history s) :
    Accounted board history s := by
  induction hr with
  | restored hcreate hcall hsaved =>
    obtain rfl := Device.create_ok hcreate
    have hfree : CollectedStore.fresh.lock ≠ .poisoned := by decide
    have hnone : CalibrationStatus.noCalibration ≠ .savedCalibration := by decide
    have hadopted := Device.bringUp_adopts hcarries hfree hnone hcall hsaved
    exact ⟨hadopted.slave.symm ▸ hadopted.answers, _, hadopted.kept, .inl rfl⟩
  | step _ hstep ih => exact hstep.keeps hcarries ih

/-- Where no write is in doubt and nothing is waiting, the board keeps the offset that was
handed over last. -/
lemma Accounted.kept_last (h : Accounted board history s) (hsure : doubtful history = [])
    (hdone : s.device.store.value.offsetPending = false) :
    ∃ z, (board s.bus).stores.keptOffset = some z ∧
      s.device.store.value.zeroOffset.sameValue z = true := by
  obtain ⟨z, hz, haccount⟩ := h.kept
  obtain rfl : z = s.device.store.value.cachedZeroOffset :=
    haccount.resolve_right (by simp [hsure])
  exact ⟨_, hz, by simpa [Collected.offsetPending] using hdone⟩

/-- Then a restart of the master takes over the offset that was handed over last. -/
theorem Run.restart (hcarries : link.Carries board) (hr : Run link models board history s)
    (hsure : doubtful history = []) (hdone : s.device.store.value.offsetPending = false)
    {d : Device} (hd : d.InOrder (board s.bus)) (hheating : d.heatingSettings = none)
    (hram : d.config.appRam = .present) (registry : Registry) (w : μ)
    (allowUnprogrammed : Bool) :
    ∃ s' : Stage σ μ,
      Device.bringUp link models false allowUnprogrammed ⟨d, registry, w, s.bus⟩ = (.ok (), s') ∧
        s.device.store.value.zeroOffset.sameValue s'.device.actuator.state.zeroOffset = true := by
  obtain ⟨z, hz, hsame⟩ := (hr.accounted hcarries).kept_last hsure hdone
  obtain ⟨s', hcall, hrestored⟩ := Device.bringUp_restores models
    (s := ⟨d, registry, w, s.bus⟩) hcarries hd hheating hram hz allowUnprogrammed
  exact ⟨s', hcall, hrestored.zeroOffset ▸ hsame⟩

/-- After every run the board keeps a valid record.  It holds what the store takes for written,
or an offset in doubt; so if no write is in doubt and nothing is waiting, it holds the offset
that was handed over last. -/
theorem Run.offset_kept (hcarries : link.Carries board) (hr : Run link models board history s) :
    ∃ z, (board s.bus).stores.keptOffset = some z ∧
      (z = s.device.store.value.cachedZeroOffset ∨ z ∈ doubtful history) ∧
      (doubtful history = [] → s.device.store.value.offsetPending = false →
        s.device.store.value.zeroOffset.sameValue z = true) := by
  have haccounted := hr.accounted hcarries
  obtain ⟨z, hz, haccount⟩ := haccounted.kept
  refine ⟨z, hz, haccount, fun hsure hdone => ?_⟩
  obtain ⟨z', hz', hsame⟩ := haccounted.kept_last hsure hdone
  obtain rfl : z' = z := Option.some.inj (hz'.symm.trans hz)
  exact hsame

end Runs

/-- A board that kept 0.5.  A controller sets 1, the next command hands it over, and a collection
writes it and leaves nothing waiting. -/
theorem Run.offset_kept_written :
    let info : ActuatorInfo := (ActuatorInfo.blank.setVersion 0 2).generateCrc
    let b : Board := .programmed info ⟨0x3FE0000000000000⟩
    b.stores.keptOffset = some ⟨0x3FE0000000000000⟩ ∧
      ∃ (s : Stage Ring StandIns) (before after : Collected),
        Run Ring.link StandIns.models Ring.board [.collected before after, .other, .other] s ∧
        before.offsetPending = true ∧ after.offsetPending = false ∧
        s.device.store.value.zeroOffset = ⟨0x3FF0000000000000⟩ ∧
        ∃ z, s.bus.board.stores.keptOffset = some z ∧
          s.device.store.value.zeroOffset.sameValue z = true := by
  intro info b
  have horder : Device.fresh.InOrder b :=
    Device.inOrder_programmed info _ (ActuatorInfo.verifyCrc_generateCrc _) (by decide +kernel)
  have hkept : b.stores.keptOffset = some ⟨0x3FE0000000000000⟩ :=
    Stores.keptOffset_programmed info _
  have hcreate : Device.create Device.fresh.config Device.fresh.slave none = .ok .fresh := rfl
  clear_value b
  refine ⟨hkept, ?_⟩
  obtain ⟨s, hcall, hrestored⟩ := Device.bringUp_restores StandIns.models
    (s := ⟨.fresh, {}, {}, ⟨b, 0⟩⟩) Ring.carries horder rfl rfl hkept false
  have hrun : Run Ring.link StandIns.models Ring.board [] s :=
    .restored hcreate hcall hrestored.calibration
  have hcached : s.device.store.value.cachedZeroOffset = ⟨0x3FE0000000000000⟩ := by
    obtain ⟨z, hz, haccount⟩ := (hrun.accounted Ring.carries).kept
    obtain rfl := haccount.resolve_right (by simp [doubtful])
    exact Option.some.inj (hz.symm.trans (hrestored.stores.keptOffset.trans hkept))
  -- the controller sets an offset, and the next command hands it over
  let s₁ : Stage Ring StandIns :=
    { s with device := s.device.controlled {} ⟨0x3FF0000000000000⟩ 0 0 }
  have hset : Step Ring.link StandIns.models Ring.board s .other s₁ := .control
  obtain ⟨frame, d₂, w, hpack⟩ : ∃ frame d₂ w,
      s₁.device.pack StandIns.models false false s₁.world = (frame, d₂, w) := ⟨_, _, _, rfl⟩
  have hrun₂ := (hrun.step hset).step (.pack hpack)
  have hchanged : Binary64.sameValue ⟨0x3FF0000000000000⟩ s.device.cachedZeroOffset = false := by
    rw [hrestored.cached]
    decide +kernel
  have hhanded : d₂.store = { s.device.store with
      value := { s.device.store.value with zeroOffset := ⟨0x3FF0000000000000⟩ } } := by
    rw [Device.pack_device hpack]
    exact Device.handOffZeroOffset_free (d := s₁.device.commanded false false) hrestored.store
      hchanged
  have hoffset₂ : d₂.store.value.zeroOffset = ⟨0x3FF0000000000000⟩ := by
    rw [hhanded]
  have hcached₂ : d₂.store.value.cachedZeroOffset = ⟨0x3FE0000000000000⟩ :=
    (Device.pack_cached hpack).2.trans hcached
  have hpending : d₂.store.value.offsetPending = true := by
    rw [Collected.offsetPending, hoffset₂, hcached₂]
    decide +kernel
  have hcollectable : Device.Collectable d₂ s.bus.board := by
    have hstore : d₂.store.lock ≠ .poisoned := by
      rw [hhanded]
      show s.device.store.lock ≠ .poisoned
      rw [hrestored.store]
      decide
    obtain ⟨store, cached, calibration, -, rfl, -⟩ := Device.pack_cases hpack
    exact { hrestored.collectable with store := hstore }
  have hram₂ : d₂.config.appRam = .present := by
    obtain ⟨store, cached, calibration, -, rfl, -⟩ := Device.pack_cases hpack
    exact hrestored.appRam
  -- nothing disturbs the collection
  obtain ⟨d₃, bus₃, hcollect, hwritten⟩ :=
    Device.collect_writes Ring.carries hcollectable hram₂ (s := s.bus) rfl
  have hrun₃ := hrun₂.step (.collect hcollect)
  have hoffset : d₃.store.value.zeroOffset = ⟨0x3FF0000000000000⟩ :=
    hwritten.zeroOffset.trans hoffset₂
  have hdone : d₃.store.value.offsetPending = false := by
    have hlearned := hwritten.cached
    rw [if_pos hpending, ← hwritten.zeroOffset] at hlearned
    rw [Collected.offsetPending, hlearned, hoffset]
    decide +kernel
  have hsure : doubtful [.collected d₂.store.value d₃.store.value, .other, .other] = [] := by
    simp [doubtful, hdone]
  obtain ⟨z, hz, -, hlast⟩ := hrun₃.offset_kept Ring.carries
  exact ⟨_, _, _, hrun₃, hpending, hdone, hoffset, z, hz, hlast hsure hdone⟩

end HandOver

end MotorBoard
