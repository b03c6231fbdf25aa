/-
# The totals are true counts

A board counts how often its bridge was switched off, in all and by cause, and shows the low
eight bits of each count.  A collection adds the growth of the shown bytes to totals that do
not go around.  A count that has grown by at most 255 since the sample before has grown by the
difference of the bytes, around 256.  So a total is the true count as long as no sample is
taken in twice or left out.

Sample, totals and what is said of the last collection make up the record of a store.  Besides
collections nothing that the driver does touches it.  A survey keeps the true counts beside the
record, those of the last sample, and whether the last collection succeeded.  The invariant of
its runs is that every total is the count of the last sample, and the stored byte its low eight
bits; a collection that fails leaves both as they are.

The main results are

* `Device.collect_record`: what a collection makes of the record, however it ends;
* `Device.pack_record`, `Device.unpack_record`, `Device.publish_record`, `Device.bringUp_record`:
  everything else leaves it alone;
* `Survey.Sound.collected`: a collection keeps the invariant;
* `Survey.Run.totals_exact`: along every run the totals are the true counts.
-/
import MotorBoard.Proofs.Device.Output

namespace MotorBoard

open Call Board

/-- What a board counts: that its bridge was switched off, and each of the causes. -/
inductive SafetyEvent where
  | safetyDisable
  | undervoltage
  | overCurrent
  | boardOverTemp
  | bridgeOverTemp
  | operateDisable
  | watchdogDisable
deriving DecidableEq, Repr

namespace SafetyEvent

/-- The cell of the local bus that shows the low eight bits of a count. -/
def cell : SafetyEvent → Nat
  | safetyDisable => SafetyStatus.address.toNat + 2
  | undervoltage => DiagnosticsInfo.address.toNat + 14
  | overCurrent => DiagnosticsInfo.address.toNat + 15
  | boardOverTemp => DiagnosticsInfo.address.toNat + 16
  | bridgeOverTemp => DiagnosticsInfo.address.toNat + 17
  | operateDisable => DiagnosticsInfo.address.toNat + 18
  | watchdogDisable => DiagnosticsInfo.address.toNat + 19

/-- The byte of a count in a sample. -/
def sample (status : SafetyStatus) (info : DiagnosticsInfo) : SafetyEvent → UInt8
  | safetyDisable => status.count
  | undervoltage => info.safetyCounts.undervoltage
  | overCurrent => info.safetyCounts.overCurrent
  | boardOverTemp => info.safetyCounts.boardOverTemp
  | bridgeOverTemp => info.safetyCounts.bridgeOverTemp
  | operateDisable => info.safetyCounts.operateDisable
  | watchdogDisable => info.safetyCounts.watchdogDisable

/-- The total of a count. -/
def total (t : SafetyTotals) : SafetyEvent → UInt32
  | safetyDisable => t.safetyDisable
  | undervoltage => t.undervoltage
  | overCurrent => t.overCurrent
  | boardOverTemp => t.boardOverTemp
  | bridgeOverTemp => t.bridgeOverTemp
  | operateDisable => t.operateDisable
  | watchdogDisable => t.watchdogDisable

/-- Every total grows by what its own count has grown. -/
lemma total_add (t : SafetyTotals) (status status' : SafetyStatus) (info info' : DiagnosticsInfo)
    (e : SafetyEvent) :
    e.total (t.add status' status info'.safetyCounts info.safetyCounts) =
      e.total t + Cycle.counterDelta (e.sample status' info') (e.sample status info) := by
  cases e <;> rfl

end SafetyEvent

/-- The difference of the low eight bits is what a count has grown by. -/
lemma Cycle.toNat_counterDelta {a b : Nat} (h : b ≤ a) (h' : a ≤ b + 255) :
    (counterDelta (UInt8.ofNat a) (UInt8.ofNat b)).toNat = a - b := by
  rw [counterDelta, UInt8.toNat_toUInt32, UInt8.toNat_sub, UInt8.toNat_ofNat', UInt8.toNat_ofNat']
  omega

namespace Collected

/-- What was collected, with the same sample and the same totals. -/
structure SameTotals (c c' : Collected) : Prop where
  status : c'.status = c.status
  info : c'.info = c.info
  totals : c'.totals = c.totals

/-- What was collected, which also says the same about the last collection. -/
structure SameRecord (c c' : Collected) : Prop extends SameTotals c c' where
  first : c'.first = c.first
  valid : c'.valid = c.valid

/-- A record that took in what a local bus shows. -/
structure Takes (bus : Memory 0x10000) (c c' : Collected) : Prop where
  first : c'.first = false
  valid : c'.valid = true
  sample : ∀ e : SafetyEvent, e.sample c'.status c'.info = bus.get e.cell
  totals : ∀ e : SafetyEvent, e.total c'.totals =
    e.total c.totals + Cycle.counterDelta (e.sample c'.status c'.info) (e.sample c.status c.info)

/-- A record that only took note of a failure. -/
structure Refuses (c c' : Collected) : Prop extends SameTotals c c' where
  first : c'.first = false
  valid : c'.valid = false

/-- What becomes of a record in a collection.  One that did not return leaves it alone. -/
def After (bus : Memory 0x10000) (c : Collected) : Except Stop Unit → Collected → Prop
  | .ok () => Takes bus c
  | .error (.failed _) => Refuses c
  | .error _ => SameRecord c

lemma SameRecord.refl (c : Collected) : SameRecord c c := ⟨⟨rfl, rfl, rfl⟩, rfl, rfl⟩

lemma SameRecord.trans {c c' c'' : Collected} (h : SameRecord c c') (h' : SameRecord c' c'') :
    SameRecord c c'' :=
  ⟨⟨h'.status.trans h.status, h'.info.trans h.info, h'.totals.trans h.totals⟩,
    h'.first.trans h.first, h'.valid.trans h.valid⟩

lemma SameTotals.trans {c c' c'' : Collected} (h : SameTotals c c') (h' : SameTotals c' c'') :
    SameTotals c c'' :=
  ⟨h'.status.trans h.status, h'.info.trans h.info, h'.totals.trans h.totals⟩

lemma SameRecord.refuses {c c' c'' : Collected} (h : SameRecord c c') (h' : Refuses c' c'') :
    Refuses c c'' :=
  ⟨h.toSameTotals.trans h'.toSameTotals, h'.first, h'.valid⟩

/-- A sample is taken into a record as it was before the collection began. -/
lemma SameRecord.takes {c c' : Collected} (h : SameRecord c c') {bus : Memory 0x10000}
    {status : SafetyStatus} {info : DiagnosticsInfo}
    (hsample : ∀ e : SafetyEvent, e.sample status info = bus.get e.cell) :
    Takes bus c ((c'.mark true).update status info) where
  first := rfl
  valid := rfl
  sample := hsample
  totals e := by
    rw [← h.totals, ← h.status, ← h.info]
    exact e.total_add _ _ _ _ _

end Collected

namespace Device

variable {σ : Type} {link : Link σ} {board : σ → Board} {d : Device} {b₀ : Board}

/-- A sample that was gleaned from a board shows what its cells show. -/
lemma Gleaned.sample {bus : Memory 0x10000} {x : SafetyStatus × DiagnosticsInfo}
    (hx : Gleaned (fun st => ∀ e : SafetyEvent, st.localBus.get e.cell = bus.get e.cell) x)
    (e : SafetyEvent) : e.sample x.1 x.2 = bus.get e.cell := by
  obtain ⟨status, info⟩ := x
  obtain ⟨⟨st, hst, hstatus⟩, st', hst', hinfo⟩ := hx
  rw [SafetyStatus.decode, requireLength_of_le (Memory.length_range ..).ge] at hstatus
  rw [DiagnosticsInfo.decode, requireLength_of_le (Memory.length_range ..).ge] at hinfo
  obtain rfl := Except.ok.inj hstatus
  obtain rfl := Except.ok.inj hinfo
  have hcount := st.localBus.byteAt_range SafetyStatus.address.toNat
    (show 2 < SafetyStatus.size by decide)
  have hbyte (i : Nat) (hi : i < DiagnosticsInfo.size) :=
    st'.localBus.byteAt_range DiagnosticsInfo.address.toNat hi
  cases e with
  | safetyDisable => exact hcount.trans (hst .safetyDisable)
  | undervoltage => exact (hbyte 14 (by decide)).trans (hst' .undervoltage)
  | overCurrent => exact (hbyte 15 (by decide)).trans (hst' .overCurrent)
  | boardOverTemp => exact (hbyte 16 (by decide)).trans (hst' .boardOverTemp)
  | bridgeOverTemp => exact (hbyte 17 (by decide)).trans (hst' .bridgeOverTemp)
  | operateDisable => exact (hbyte 18 (by decide)).trans (hst' .operateDisable)
  | watchdogDisable => exact (hbyte 19 (by decide)).trans (hst' .watchdogDisable)

/-- A collection ends with a record that has taken the sample in, or with a failure that it has
taken note of. -/
lemma conclude_cases (result : Except Error (SafetyStatus × DiagnosticsInfo))
    (g : CollectedStore) :
    (∃ status info, result = .ok (status, info) ∧ (conclude result g).1 = .ok () ∧
      (conclude result g).2.value = (g.value.mark true).update status info) ∨
    ∃ e, (conclude result g).1 = .error e ∧ g.value.Refuses (conclude result g).2.value := by
  obtain ⟨name, value, lock⟩ := g
  cases lock with
  | poisoned => exact .inr ⟨_, rfl, ⟨rfl, rfl, rfl⟩, rfl, rfl⟩
  | _ =>
    rcases result with e | ⟨status, info⟩
    · exact .inr ⟨e, rfl, ⟨rfl, rfl, rfl⟩, rfl, rfl⟩
    · exact .inl ⟨status, info, rfl, rfl, rfl⟩

/-- A device with the settings of another one, in whose store stands the same record. -/
structure SameRecord (d d' : Device) : Prop where
  config : d'.config = d.config
  slave : d'.slave = d.slave
  record : d.store.value.SameRecord d'.store.value

lemma SameRecord.aloof (d : Device) : Aloof (SameRecord d) where
  mailbox _ _ h := ⟨h.config, h.slave, h.record⟩
  configInfo _ _ h := ⟨h.config, h.slave, h.record⟩
  actuatorInfo _ _ h := ⟨h.config, h.slave, h.record⟩
  name _ _ h := ⟨h.config, h.slave, h.record⟩
  heating _ h := ⟨h.config, h.slave, h.record⟩
  maxCurrent _ _ h := ⟨h.config, h.slave, h.record⟩

lemma SameRecord.channel {d' : Device} (h : SameRecord d d') (link : Link σ) :
    d'.channel link = d.channel link := by
  rw [Device.channel, Device.channel, h.slave, h.config]

/-- A change of the store that leaves the record alone, be its lock poisoned or not. -/
lemma update_record {β : Type} {f : Collected → β × Collected}
    (hf : ∀ c : Collected, c.SameRecord (f c).2) (g : CollectedStore) :
    g.value.SameRecord (g.update f).2.value :=
  g.update_value hf fun _ => ⟨⟨rfl, rfl, rfl⟩, rfl, rfl⟩

/-- The offset does not stand in the record. -/
lemma syncZeroOffset_record : KeepsDevice (SameRecord d) (syncZeroOffset link) := by
  refine syncZeroOffset_keeps (SameRecord.aloof d).mailbox (fun d' hd => ⟨hd.config, hd.slave, ?_⟩)
    fun d' z hd => ⟨hd.config, hd.slave, ?_⟩
  · exact hd.record.trans (update_record Collected.SameRecord.refl _)
  · exact hd.record.trans (update_record (fun _ => ⟨⟨rfl, rfl, rfl⟩, rfl, rfl⟩) _)

/-- The cells of the counts show what they show on a local bus. -/
abbrev SameCells (bus : Memory 0x10000) (st : Stores) : Prop :=
  ∀ e : SafetyEvent, st.localBus.get e.cell = bus.get e.cell

/-- A collection reads what the cells show in the beginning, and it leaves the record alone. -/
lemma gather_record (h : link.Carries board) (d : Device) (s : σ) :
    Triple (fun p => p = (d, s)) (gather link)
      (fun x p => (∀ e : SafetyEvent, e.sample x.1 x.2 = (board s).localBus.get e.cell) ∧
        SameRecord d p.1) fun _ p => SameRecord d p.1 := by
  have hsync : Triple (Reaching board (board s) d.slave.station (SameRecord d)
      (SameCells (board s).localBus)) (syncZeroOffset link) (fun _ p => SameRecord d p.1)
      fun _ p => SameRecord d p.1 :=
    syncZeroOffset_record.mono (fun _ hp => hp.1) (fun _ _ => id) fun _ _ hp => hp trivial
  refine (gather_triple h (SameRecord.aloof d).mailbox (fun _ hd => hd.channel link) hsync
    (fun _ hp => hp.1) fun _ _ _ hp => hp.1).mono ?_ (fun _ _ hp => ⟨hp.1.sample, hp.2⟩)
    fun _ _ => id
  rintro _ rfl
  exact ⟨⟨rfl, rfl, .refl _⟩, .refl fun _ => rfl⟩

/-- What a collection makes of the record, however it ends. -/
theorem collect_record (h : link.Carries board) (d : Device) (s : σ) :
    Triple (fun p => p = (d, s)) (collect link)
      (fun _ p => d.store.value.After (board s).localBus (.ok ()) p.1.store.value)
      fun e p => d.store.value.After (board s).localBus (.error e) p.1.store.value := by
  refine ((gather_record h d s).attempt_unfailed.stop_mono ?_).bind fun result => ?_
  · -- a collection that does not return has not come to its conclusion
    rintro (e | _ | _) p ⟨he, hp⟩
    · exact absurd rfl (he e)
    · exact hp.record
    · exact hp.record
  refine Triple.bind (Q := fun (r : Except Error Unit) p => d.store.value.After
    (board s).localBus (r.mapError .failed) p.1.store.value) (.update _ fun p hp => ?_)
    fun r => by cases r <;> exact fun _ => id
  have hrecord : d.store.value.SameRecord p.1.store.value := by
    cases result with
    | error e => exact hp.record
    | ok x => exact hp.2.record
  obtain ⟨status, info, rfl, hok, hvalue⟩ | ⟨e, herror, hrefuses⟩ := conclude_cases result p.1.store
  · rw [hok, hvalue]
    exact hrecord.takes hp.1
  · rw [herror]
    exact hrecord.refuses hrefuses

/-! What else the driver does with the store leaves the record alone. -/

section Elsewhere

variable {μ : Type} {models : Models μ} {d' : Device}

lemma tryUpdate_record {f : Collected → Collected} (hf : ∀ c : Collected, c.SameRecord (f c))
    (g : CollectedStore) : g.value.SameRecord (g.tryUpdate f).2.value := by
  rw [Guarded.tryUpdate]
  cases g.lock with
  | free => exact hf _
  | held => exact .refl _
  | poisoned => exact ⟨⟨rfl, rfl, rfl⟩, rfl, rfl⟩

theorem pack_record {halt reset : Bool} {frame : Bytes} {w w' : μ}
    (h : d.pack models halt reset w = (frame, d', w')) :
    d.store.value.SameRecord d'.store.value := by
  obtain ⟨store, _, _, ⟨offset, lockErrors, hvalue⟩, rfl, -⟩ := pack_cases h
  show d.store.value.SameRecord store.value
  rw [hvalue]
  exact ⟨⟨rfl, rfl, rfl⟩, rfl, rfl⟩

theorem unpack_record {this prev : Bytes} {w w' : μ} {fault : Option CycleFault}
    (h : d.unpack models this prev w = (fault, d', w')) :
    d.store.value.SameRecord d'.store.value := by
  obtain ⟨_, _, _, _, _, _, -, -, sample, output, hjudged⟩ | ⟨-, -, rfl⟩ := unpack_cases h
  · rw [hjudged]
    exact .refl _
  · exact tryUpdate_record (f := Collected.countChecksumError)
      (fun _ => ⟨⟨rfl, rfl, rfl⟩, rfl, rfl⟩) _

theorem publish_record {m m' : Monitor} {report : Report}
    (h : m.publish d = (report, m', d')) : d.store.value.SameRecord d'.store.value := by
  rw [Monitor.publish] at h
  cases h
  exact tryUpdate_record .refl _

theorem bringUp_record {claim allowUnprogrammed : Bool} {s s' : Stage σ μ}
    {r : Except Stop Unit} (h : bringUp link models claim allowUnprogrammed s = (r, s')) :
    s.device.store.value.SameRecord s'.device.store.value := by
  have hkeeps : KeepsStage (SameRecord s.device) (bringUp link models claim allowUnprogrammed) :=
    bringUp_aloof (SameRecord.aloof s.device) (fun _ _ hd => ⟨hd.config, hd.slave,
      hd.record.trans (update_record (fun _ => ⟨⟨rfl, rfl, rfl⟩, rfl, rfl⟩) _)⟩) claim
      allowUnprogrammed
  exact (hkeeps.after ⟨rfl, rfl, .refl _⟩ h fun _ _ => trivial).record

end Elsewhere

end Device

/-- A board under survey: the device and the bus, the true counts, those of the last sample, and
whether the last collection that returned succeeded. -/
structure Survey (σ : Type) where
  device : Device
  bus : σ
  counts : SafetyEvent → Nat
  sampled : SafetyEvent → Nat
  succeeded : Bool

namespace Survey

variable {σ : Type} {link : Link σ} {board : σ → Board}

/-- What was collected so far. -/
abbrev record (v : Survey σ) : Collected := v.device.store.value

/-- A board shows the low eight bits of the counts.  None of them has grown by more than 255
since the last sample, or since the beginning where there is none yet. -/
structure Shown (v : Survey σ) (b : Board) : Prop where
  cells : ∀ e : SafetyEvent, b.localBus.get e.cell = UInt8.ofNat (v.counts e)
  grown : ∀ e, v.counts e ≤ v.sampled e + 255
  bounded : ∀ e, v.counts e < 2 ^ 32

/-- A survey after a collection, which has left this device and this bus.  A success is the next
sample; a collection that died or hangs has not returned. -/
def collected (v : Survey σ) (d : Device) (s : σ) : Except Stop Unit → Survey σ
  | .ok () => { v with device := d, bus := s, sampled := v.counts, succeeded := true }
  | .error (.failed _) => { v with device := d, bus := s, succeeded := false }
  | .error _ => { v with device := d, bus := s }

@[simp] lemma record_collected (v : Survey σ) (d : Device) (s : σ) (r : Except Stop Unit) :
    (v.collected d s r).record = d.store.value := by
  rcases r with (e | _ | _) | ⟨⟩ <;> rfl

/-- The runs of a survey.  In the beginning nothing was collected and nothing has happened on the
board.  Between the collections the counts grow, the bus does as it likes, and the driver does
anything but touch the record. -/
inductive Run (link : Link σ) (board : σ → Board) : Survey σ → Prop
  | start {d : Device} {s : σ} (hrecord : Collected.SameRecord {} d.store.value) :
      Run link board ⟨d, s, fun _ => 0, fun _ => 0, false⟩
  | elsewhere {v : Survey σ} {d : Device} {s : σ} {counts : SafetyEvent → Nat}
      (hrun : Run link board v) (hrecord : v.record.SameRecord d.store.value)
      (hcounts : ∀ e, v.counts e ≤ counts e) :
      Run link board { v with device := d, bus := s, counts := counts }
  | collect {v : Survey σ} {r : Except Stop Unit} {d : Device} {s : σ} (hrun : Run link board v)
      (hcall : Device.collect link (v.device, v.bus) = (r, d, s))
      (hshown : r = .ok () → v.Shown (board v.bus)) : Run link board (v.collected d s r)

/-- The record of a survey holds the last sample, and the totals are its counts. -/
structure Sound (v : Survey σ) : Prop where
  totals : ∀ e : SafetyEvent, (e.total v.record.totals).toNat = v.sampled e
  sample : ∀ e : SafetyEvent, e.sample v.record.status v.record.info = UInt8.ofNat (v.sampled e)
  grown : ∀ e, v.sampled e ≤ v.counts e
  valid : v.record.valid = v.succeeded

lemma Sound.start {d : Device} {s : σ} (hrecord : Collected.SameRecord {} d.store.value) :
    Sound ⟨d, s, fun _ => 0, fun _ => 0, false⟩ where
  totals e := by
    show (e.total d.store.value.totals).toNat = 0
    rw [hrecord.totals]
    cases e <;> rfl
  sample e := by
    show e.sample d.store.value.status d.store.value.info = 0
    rw [hrecord.status, hrecord.info]
    cases e <;> rfl
  grown _ := Nat.le_refl _
  valid := hrecord.valid

/-- A survey goes on being sound as long as the record stays. -/
lemma Sound.of_same {v v' : Survey σ} (hv : v.Sound) (hrecord : v.record.SameTotals v'.record)
    (hsampled : v'.sampled = v.sampled) (hcounts : ∀ e, v.counts e ≤ v'.counts e)
    (hvalid : v'.record.valid = v'.succeeded) : v'.Sound where
  totals e := by rw [hrecord.totals, hsampled, hv.totals]
  sample e := by rw [hrecord.status, hrecord.info, hsampled, hv.sample]
  grown e := hsampled ▸ (hv.grown e).trans (hcounts e)
  valid := hvalid

/-- A sample that is taken in brings the totals to the counts. -/
lemma Sound.takes {v : Survey σ} {b : Board} {c : Collected} (hv : v.Sound) (hb : v.Shown b)
    (hc : v.record.Takes b.localBus c) (e : SafetyEvent) :
    (e.total c.totals).toNat = v.counts e := by
  have hdelta := Cycle.toNat_counterDelta (hv.grown e) (hb.grown e)
  rw [hc.totals, hc.sample, hb.cells, hv.sample, UInt32.toNat_add, hv.totals, hdelta,
    Nat.add_sub_cancel' (hv.grown e), Nat.mod_eq_of_lt (hb.bounded e)]

/-- A collection keeps a survey sound. -/
theorem Sound.collected {v : Survey σ} {b : Board} {d : Device} {s : σ} {r : Except Stop Unit}
    (hv : v.Sound) (hb : r = .ok () → v.Shown b)
    (hc : v.record.After b.localBus r d.store.value) : (v.collected d s r).Sound := by
  rcases r with (e | _ | _) | ⟨⟩
  · exact hv.of_same hc.toSameTotals rfl (fun _ => Nat.le_refl _) hc.valid
  · exact hv.of_same hc.toSameTotals rfl (fun _ => Nat.le_refl _) (hc.valid.trans hv.valid)
  · exact hv.of_same hc.toSameTotals rfl (fun _ => Nat.le_refl _) (hc.valid.trans hv.valid)
  · have hshown := hb rfl
    exact ⟨hv.takes hshown hc, fun e => (hc.sample e).trans (hshown.cells e),
      fun _ => Nat.le_refl _, hc.valid⟩

/-- What a collection makes of the record of a survey. -/
lemma after_collect (h : link.Carries board) {v : Survey σ} {r : Except Stop Unit} {d : Device}
    {s : σ} (hcall : Device.collect link (v.device, v.bus) = (r, d, s)) :
    v.record.After (board v.bus).localBus r d.store.value := by
  have hafter := Device.collect_record h v.device v.bus _ rfl
  rw [hcall] at hafter
  rcases r with e | ⟨⟩ <;> exact hafter

/-- Every run of a survey keeps it sound. -/
lemma Run.sound (h : link.Carries board) {v : Survey σ} (hrun : Run link board v) : v.Sound := by
  induction hrun with
  | start hrecord => exact .start hrecord
  | elsewhere _ hrecord hcounts ih =>
    exact ih.of_same hrecord.toSameTotals rfl hcounts (hrecord.valid.trans ih.valid)
  | collect _ hcall hshown ih => exact ih.collected hshown (after_collect h hcall)

/-- Along every run, a collection that succeeds leaves totals that are the true counts, and one
that does not leaves the totals and the last sample alone.  The record always says whether the
last collection succeeded. -/
theorem Run.totals_exact (h : link.Carries board) {v : Survey σ} (hrun : Run link board v)
    {r : Except Stop Unit} {d : Device} {s : σ}
    (hcall : Device.collect link (v.device, v.bus) = (r, d, s))
    (hshown : r = .ok () → v.Shown (board v.bus)) :
    v.record.valid = v.succeeded ∧
    (r = .ok () → ∀ e : SafetyEvent, (e.total d.store.value.totals).toNat = v.counts e) ∧
    (∀ e, r = .error e → v.record.SameTotals d.store.value) ∧
    (∀ e, r = .error (.failed e) → d.store.value.first = false) ∧
    d.store.value.valid = (v.collected d s r).succeeded := by
  have hafter := after_collect h hcall
  refine ⟨(hrun.sound h).valid, ?_, ?_, ?_, ?_⟩
  · rintro rfl
    exact (hrun.sound h).takes (hshown rfl) hafter
  · rintro e rfl
    cases e <;> exact hafter.toSameTotals
  · rintro e rfl
    exact hafter.first
  · have hvalid := ((hrun.collect hcall hshown).sound h).valid
    rwa [record_collected] at hvalid

/-- Two collections that succeed.  At the first one all counts are 250, and at the second one
they are 260, which the board shows as 4. -/
theorem Run.totals_exact_around :
    ∃ (v : Survey Ring) (d : Device) (s : Ring), Run Ring.link Ring.board v ∧
      Device.collect Ring.link (v.device, v.bus) = (.ok (), d, s) ∧
      (∀ e, v.sampled e = 250) ∧ (∀ e : SafetyEvent, v.bus.board.localBus.get e.cell = 4) ∧
      ∀ e : SafetyEvent, (e.total d.store.value.totals).toNat = 260 := by
  let bus (x : UInt8) : Memory 0x10000 :=
    ((Memory.blank 0x10000).write 0x00A3 [x]).write 0x020E (List.replicate 6 x)
  have hcells : ∀ x (e : SafetyEvent), (bus x).get e.cell = x := by
    intro x e
    show ((Memory.write _ _ _).write _ _).get _ = x
    rw [Memory.get_write _ _ _ _ (by simp), Memory.get_write _ _ _ _ (by simp)]
    cases e <;> simp [SafetyEvent.cell, SafetyStatus.address, DiagnosticsInfo.address, Bytes.byteAt]
  clear_value bus
  let ring (x : UInt8) : Ring := ⟨{ station := 1, position := 0, localBus := bus x }, 0⟩
  let device (c : Collected) : Device := {
    config := {}
    slave := ⟨1, 0, 0, 0, 0, .op⟩
    heatingSettings := none
    cycle := {}
    store := { CollectedStore.fresh with value := c } }
  have hcollect : ∀ c x, ∃ d s, Device.collect Ring.link (device c, ring x) = (.ok (), d, s) :=
    fun c x => Device.collect_succeeds Ring.carries {
      lock := show LockState.free ≠ .poisoned by decide
      store := show LockState.free ≠ .poisoned by decide
      patient := Channel.patient_of_validate rfl
      state := rfl
      undisturbed := ⟨⟨rfl, rfl⟩, rfl, rfl, rfl, rfl⟩ }
    (show AppRam.missing ≠ .present by decide) rfl
  have hshown : ∀ (c : Collected) (n m : Nat) (ok : Bool), n ≤ m + 255 → n < 2 ^ 32 →
      Shown ⟨device c, ring (.ofNat n), fun _ => n, fun _ => m, ok⟩ (ring (.ofNat n)).board :=
    fun c n m ok hgrown hbounded => ⟨hcells _, fun _ => hgrown, fun _ => hbounded⟩
  have hstart : Run Ring.link Ring.board ⟨device {}, ring 0, fun _ => 0, fun _ => 0, false⟩ :=
    .start (.refl _)
  have hfirst : Run Ring.link Ring.board
      ⟨device {}, ring (.ofNat 250), fun _ => 250, fun _ => 0, false⟩ :=
    hstart.elsewhere (.refl _) fun _ => Nat.zero_le 250
  obtain ⟨d₁, s₁, hcall₁⟩ := hcollect {} (.ofNat 250)
  have hsecond : Run Ring.link Ring.board
      ⟨device d₁.store.value, ring (.ofNat 260), fun _ => 260, fun _ => 250, true⟩ :=
    (hfirst.collect hcall₁ fun _ => hshown _ _ _ _ (by decide) (by decide)).elsewhere
      (.refl _) fun _ => show 250 ≤ 260 by decide
  obtain ⟨d₂, s₂, hcall₂⟩ := hcollect d₁.store.value (.ofNat 260)
  have hexact := hsecond.totals_exact Ring.carries hcall₂ fun _ =>
    hshown _ _ _ _ (by decide) (by decide)
  exact ⟨_, d₂, s₂, hsecond, hcall₂, fun _ => rfl, hcells _, hexact.2.1 rfl⟩

end Survey

end MotorBoard
