/-
# What was stored is read back

When the programmer reports a page as written, the engine has shown itself idle and its
operation as it should be, and the chip has shown itself ready.  Where no fault is to come
this settles how the board is: it is undisturbed, and its engine is idle in time.  So the page
can be read at once, and what is read is what was written, as far as the chip's pages reach,
with zeros behind their end.

A record of 256 bytes fits into every page.  The actuator record has eight bytes more, which
chips with small pages lose.  Its small check stands in front of them, so a record that this
check vouches for is valid when it comes back; a record that only the large check vouches for
is not.

The main results are

* `Programmer.readPage_written`: reading a page behind a write that was reported as done;
* `Programmer.records_read_back`: storing the two records and reading them;
* `Programmer.large_check_lost`: a record that does not survive.
-/
import MotorBoard.Proofs.Eeprom.Pages
import MotorBoard.Proofs.Mailbox.Success
import MotorBoard.Proofs.Record.Checks

namespace MotorBoard

open Call Board

@[simp] lemma Interior.stores_looked (i : Interior) (address length : Nat) :
    (i.looked address length).stores = i.stores := by
  rw [looked]
  split <;> rfl

namespace Programmer

variable {σ : Type} {c : Channel σ} {limits : EepromLimits} {board : σ → Board} {b₀ : Board}

/-! What a write that was reported as done shows. -/

section Needs

variable (h : c.link.Carries board)

include h

section Engine

variable (hl : Channel.Patient c.limits) (hm : c.slave.state.allowsMailbox = true)

include hl hm

/-- A look at the register of the engine, whatever the engine shows there. -/
lemma readSpiCommand_calm {C : Stores → Prop} :
    Triple (c.Calm board b₀ fun i => C i.stores) (overMailbox c limits).readSpiCommand
      (fun stat t => (∃ st, C st ∧ (¬ Resting st → stat.busy = true) ∧ stat.operation =
          st.localBus.get SpiCommand.controlAddress.toNat &&& SpiCommand.operationMask) ∧
        c.Calm board b₀ (fun i => C i.stores) t) fun _ _ => True := by
  have hshown : ∀ i : Interior, C i.stores → ∀ stat,
      SpiCommand.decode (i.shown SpiCommand.address.toNat SpiCommand.size) = .ok stat →
      ∃ st, C st ∧ (¬ Resting st → stat.busy = true) ∧ stat.operation =
        st.localBus.get SpiCommand.controlAddress.toNat &&& SpiCommand.operationMask := by
    intro i hi stat hstat
    have hlen : (i.shown SpiCommand.address.toNat SpiCommand.size).length = SpiCommand.size :=
      i.length_shown _ _
    refine ⟨_, hi, ?_⟩
    rw [SpiCommand.decode_ok hlen.ge] at hstat
    rw [← Except.ok.inj hstat, SpiCommand.byteAt_shown]
    simp only [bne_iff_ne]
    split
    · rw [SpiCommand.or_busyBit_and_busyBit, SpiCommand.or_busyBit_and_operationMask]
      exact ⟨fun _ => by decide, rfl⟩
    · exact ⟨id, rfl⟩
  have hread : Triple (c.Calm board b₀ fun i => C i.stores)
      (c.read SpiCommand.address SpiCommand.size)
      (fun raw => c.Calm board b₀ fun i =>
        (∀ stat, SpiCommand.decode raw = .ok stat →
          ∃ st, C st ∧ (¬ Resting st → stat.busy = true) ∧ stat.operation =
            st.localBus.get SpiCommand.controlAddress.toNat &&& SpiCommand.operationMask) ∧
        C i.stores) fun _ _ => False :=
    c.read_undisturbed h hl hm (by decide) (by decide) fun i hi =>
      ⟨hshown i hi, by rwa [Interior.stores_looked]⟩
  refine hread.unfailing.bind fun raw => .ofExcept ?_ fun _ _ _ _ => trivial
  exact fun stat hstat t ht => ⟨ht.interior.1 stat hstat, ht.mono fun _ hi => hi.2⟩

/-- An engine that shows itself busy although it is not is never found idle. -/
lemma pollIdle_needs_resting (attempts : Nat) :
    Needs (c.Calm board b₀ fun i => ¬ Resting i.stores)
      ((overMailbox c limits).pollIdle attempts) False := by
  induction attempts with
  | zero => exact Needs.fail _
  | succ attempts ih =>
    refine Triple.bind (readSpiCommand_calm h hl hm (C := fun st => ¬ Resting st)) fun stat =>
      Triple.lift fun hstat => ?_
    obtain ⟨st, hst, hbusy, -⟩ := hstat
    rw [if_pos (hbusy hst)]
    exact (c.wait_undisturbed h _).bind fun _ => ih

/-- An engine with a corrupted echo never shows the operation that it was given. -/
lemma sendSpiCommand_needs_echo (hs : b₀.pageSize ≤ 264) {n m : Nat} (op : SpiOperation)
    (page : UInt16) :
    Needs (c.Calm board b₀ (Engine Resting n m))
      ((overMailbox c limits).sendSpiCommand (.build page op)) (b₀.corruptEcho = false) :=
  .of_not fun hne => by
    have he : b₀.corruptEcho = true := by simpa using hne
    have hidle : Triple (c.Calm board b₀ (Engine Resting n m)) (overMailbox c limits).awaitIdle
        (fun _ t => n < limits.spiReadyAttempts ∧ c.Calm board b₀ (Engine Resting 0 m) t)
        fun _ _ => True :=
      (pollIdle_undisturbed h hl hm (fun _ => id) _).stop_mono fun _ _ _ => trivial
    have hwritten : Triple (c.Calm board b₀ (Engine Resting 0 m))
        (c.write SpiCommand.address (SpiCommand.build page op).encode)
        (fun _ => c.Calm board b₀ fun i =>
          i.stores.localBus.get SpiCommand.controlAddress.toNat = op.code ^^^ 0x04)
        fun _ _ => False := by
      refine c.write_undisturbed h hl hm (by rw [SpiCommand.length_encode]; decide) ?_
      intro b halike _
      rw [writeBus_start (.inr (halike.pageSize ▸ hs))]
      exact (control_started b op page).trans (if_pos (halike.corruptEcho.trans he))
    have hrefused (attempts : Nat) : Needs
        (c.Calm board b₀ fun i =>
          i.stores.localBus.get SpiCommand.controlAddress.toNat = op.code ^^^ 0x04)
        ((overMailbox c limits).pollFinished op.code attempts) False := by
      cases attempts with
      | zero => exact Needs.fail _
      | succ attempts =>
        refine (readSpiCommand_calm h hl hm
          (C := fun st => st.localBus.get SpiCommand.controlAddress.toNat =
            op.code ^^^ 0x04)).bind fun stat => Triple.lift fun hstat => ?_
        obtain ⟨st, hst, -, hoperation⟩ := hstat
        have hwrong : stat.operation ≠ op.code := by
          rw [hoperation, hst]
          cases op <;> decide
        exact Triple.ite (fun _ => Needs.fail _) fun heq => absurd hwrong heq
    exact hidle.bind fun _ => Triple.lift fun _ => hwritten.unfailing.bind fun _ =>
      (hrefused _).post fun _ _ => False.elim

end Engine

variable {m : Mailbox} {s : σ} {page : UInt16} {data : Bytes}

/-- Writing a page needs an undisturbed board whose engine rests and shows its operation. -/
lemma writePage_needs (hf : (board s).faults = []) (hs : (board s).pageSize ≤ 264) :
    Needs (fun t => t = (m, s)) ((overMailbox c limits).writePage page data)
      ((Channel.Patient c.limits ∧ c.slave.state.allowsMailbox = true) ∧
        (board s).corruptEcho = false ∧
        c.Calm board (board s) (Engine Resting (board s).spiBusy (board s).chipBusy) (m, s)) := by
  -- the first look at the engine shows how lock, limits and board are
  have hlook (attempts : Nat) : Needs (fun t => t = (m, s))
      ((overMailbox c limits).pollIdle attempts)
      (m.lock ≠ .poisoned ∧ c.slave.state.allowsMailbox = true ∧ Channel.Patient c.limits ∧
        (board s).Undisturbed c.slave.station) := by
    cases attempts with
    | zero => exact Needs.fail _
    | succ attempts => exact ((c.read_needs_undisturbed h hf (by decide) rfl).first).first
  have hbounds : Triple (fun t => t = (m, s)) (Call.ofExcept (requireBounds page data.length))
      (fun _ t => t = (m, s)) fun _ _ => True :=
    .ofExcept (fun _ _ _ => id) fun _ _ _ _ => trivial
  by_cases hgood : m.lock ≠ .poisoned ∧ c.slave.state.allowsMailbox = true ∧
      Channel.Patient c.limits ∧ (board s).Undisturbed c.slave.station
  · obtain ⟨hlock, hm, hl, hb⟩ := hgood
    have hcalm {J : Interior → Prop} (hJ : J (board s).interior) :
        c.Calm board (board s) J (m, s) := ⟨hlock, .refl _, hb, hJ⟩
    by_cases hrest : Resting (board s).stores
    · have hengine := hcalm (J := Engine Resting (board s).spiBusy (board s).chipBusy)
        ⟨hrest, rfl, rfl⟩
      have hlen : (data.padTo pageSize 0xFF).length = 264 := Bytes.length_padTo ..
      have hidle : Triple (fun t => t = (m, s)) (overMailbox c limits).awaitIdle
          (fun _ => c.Calm board (board s) (Engine Resting 0 (board s).chipBusy))
          fun _ _ => True := by
        have hpolled : Triple
            (c.Calm board (board s) (Engine Resting (board s).spiBusy (board s).chipBusy))
            (overMailbox c limits).awaitIdle _ _ :=
          pollIdle_undisturbed h hl hm (fun _ => id) _
        refine hpolled.mono ?_ (fun _ _ ht => ht.2) fun _ _ _ => trivial
        rintro _ rfl
        exact hengine
      have hfilled : Triple (c.Calm board (board s) (Engine Resting 0 (board s).chipBusy))
          (c.write bufferAddress (data.padTo pageSize 0xFF))
          (fun _ => c.Calm board (board s) (Engine Resting 0 (board s).chipBusy))
          fun _ _ => False :=
        fill_undisturbed h hl hm (by omega) fun st hst => hst.fill hlen.le
      have hecho : Needs (c.Calm board (board s) (Engine Resting 0 (board s).chipBusy))
          ((overMailbox c limits).sendSpiCommand (.build page .write)) _ :=
        sendSpiCommand_needs_echo h hl hm hs .write page
      exact hbounds.bind fun _ => hidle.bind fun _ => hfilled.unfailing.bind fun _ =>
        Needs.first (hecho.post fun _ _ he => ⟨⟨hl, hm⟩, he, hengine⟩)
    · have hstuck : Needs (fun t => t = (m, s)) (overMailbox c limits).awaitIdle False := by
        have hpolled : Needs (c.Calm board (board s) fun i => ¬ Resting i.stores)
            (overMailbox c limits).awaitIdle False :=
          pollIdle_needs_resting h hl hm _
        refine hpolled.pre ?_
        rintro _ rfl
        exact hcalm hrest
      exact hbounds.bind fun _ => Needs.first (hstuck.post fun _ _ => False.elim)
  · exact hbounds.bind fun _ => Needs.first ((hlook _).post fun _ _ hq => absurd hq hgood)

end Needs

/-! What is read back. -/

/-- The bytes of a page as a chip with pages of so many bytes gives them back. -/
def kept (size : Nat) (data : Bytes) : Bytes :=
  (data.padTo pageSize 0xFF).take size ++ (Bytes.zeros pageSize).drop size

/-- A page that was written holds the bytes that will be read. -/
lemma fetched_written {b b' : Board} {page : UInt16} {data : Bytes} (hs : b.pageSize ≤ 264)
    (hsize : b'.pageSize = b.pageSize) (hpages : b'.pages = written b page data) :
    fetched b' page = kept b.pageSize data := by
  have hlen : ((data.padTo pageSize 0xFF).take b.pageSize).length = b.pageSize := by
    rw [List.length_take, Bytes.length_padTo]
    exact Nat.min_eq_left hs
  rw [fetched, hpages, hsize, written_self, List.take_left' hlen, kept]

/-- Where no fault is to come, a page that was reported as written can be read at once, and
the read gives what was written as far as the chip's pages reach. -/
theorem readPage_written (h : c.link.Carries board) {page : UInt16} {data : Bytes} {length : Nat}
    {t t' : Mailbox × σ} (hf : (board t.2).faults = []) (hs : (board t.2).pageSize ≤ 264)
    (hpage : page < pageCount) (hdata : data.length ≤ pageSize)
    (hlength : 1 ≤ length ∧ length ≤ pageSize)
    (hw : (overMailbox c limits).writePage page data t = (.ok (), t')) :
    ∃ t'', (overMailbox c limits).readPage page length t' =
      (.ok ((kept (board t.2).pageSize data).take length), t'') := by
  obtain ⟨⟨hl, hm⟩, he, hcalm⟩ := (writePage_needs h hf hs).result rfl hw
  obtain ⟨⟨-, hpolls, -⟩, hcalm'⟩ :=
    (writePage_polled h hl hm he hs hpage hdata).result hcalm hw
  obtain ⟨ha, hstage⟩ := (writePage_sequence (board t.2) page data h).result (.refl rfl) hw
  have hfetched : fetched (board t'.2) page = kept (board t.2).pageSize data :=
    fetched_written hs hcalm'.alike.pageSize (hstage.2.1 ha)
  -- the read succeeds, and it gives what the page holds
  have hquiet : Triple (c.Calm board (board t.2) (Engine Resting 0 0))
      ((overMailbox c limits).readPage page length) _ _ :=
    readPage_undisturbed h hl hm he hs hpage hlength
  have hread := hquiet.and (readPage_sequence (board t'.2) page h length)
  have hidle : 0 < limits.spiReadyAttempts := Nat.zero_lt_of_lt hpolls
  obtain ⟨d, t'', hr, -, -, -, hd, -⟩ := (hread.stop_mono fun _ _ hno =>
    hno.1 ⟨hidle, hpolls⟩).exists_result ⟨hcalm', .refl (.refl _)⟩
  exact ⟨t'', by rw [hr, hd, hfetched]⟩

end Programmer

/-! The records. -/

namespace ActuatorInfo

/-- The record as a chip with pages of so many bytes gives it back: zeros stand behind the end
of its pages. -/
def keptOn (size : Nat) (a : ActuatorInfo) : ActuatorInfo :=
  ⟨Image.ofBytes 264 0 (a.bytes.take size)⟩

variable {size : Nat} (a : ActuatorInfo)

/-- The record is made from the bytes of its page. -/
lemma ofPage_bytes : ofPage a.bytes = .ok a := by
  have hlen : a.bytes.length = ActuatorInfo.size := a.image.length_bytes
  rw [ofPage, requireLength_of_le hlen.ge, bytes, Image.ofBytes_bytes]
  rfl

/-- A chip with large pages keeps the whole record. -/
lemma keptOn_large : a.keptOn 264 = a := by
  rw [keptOn, bytes, List.take_of_length_le a.image.length_bytes.le, Image.ofBytes_bytes]

lemma bytes_keptOn (hs : size ≤ 264) :
    (a.keptOn size).bytes = a.bytes.take size ++ Bytes.zeros (264 - size) := by
  have hlen : (a.bytes.take size).length = size := by
    rw [List.length_take, bytes, a.image.length_bytes]
    exact Nat.min_eq_left hs
  show Bytes.padTo 264 0 (a.bytes.take size) = _
  rw [Bytes.padTo, List.take_of_length_le (hlen.trans_le hs), hlen, Bytes.zeros]

/-- A chip with small pages keeps the small check and what it covers. -/
lemma smallCrcFits_keptOn (hs : 256 ≤ size) (hs' : size ≤ 264) :
    (a.keptOn size).SmallCrcFits ↔ a.SmallCrcFits := by
  refine smallCrcFits_congr ?_
  have hlen : 256 ≤ (a.bytes.take size).length := by
    rw [List.length_take, bytes, a.image.length_bytes]
    omega
  rw [bytes_keptOn a hs', List.take_append_of_le_length hlen, List.take_take,
    Nat.min_eq_left hs]

end ActuatorInfo

namespace Programmer

/-- The page of an actuator record is read back as the record that the chip has kept. -/
lemma kept_actuatorInfo {size : Nat} (hs : size ≤ 264) (info : ActuatorInfo) :
    (kept size info.bytes).take ActuatorInfo.size = (info.keptOn size).bytes := by
  have hlen : info.bytes.length = pageSize := info.image.length_bytes
  have hpad : info.bytes.padTo pageSize 0xFF = info.bytes := by
    rw [Bytes.padTo, hlen, Nat.sub_self, List.replicate_zero, List.append_nil, ← hlen,
      List.take_length]
  have hkept : kept size info.bytes = (info.keptOn size).bytes := by
    rw [kept, hpad, ActuatorInfo.bytes_keptOn info hs, Bytes.zeros, List.drop_replicate]
    rfl
  rw [hkept]
  exact List.take_of_length_le (info.keptOn size).image.length_bytes.le

/-- A heating record fits into the small pages. -/
lemma kept_heatingConfig {size : Nat} (hs : 256 ≤ size) (config : HeatingConfig) :
    (kept size config.bytes).take HeatingConfig.size = config.bytes := by
  have hlen : config.bytes.length = 256 := config.image.length_bytes
  have hfront : (config.bytes.padTo pageSize 0xFF).take 256 = config.bytes := by
    rw [Bytes.padTo, List.take_of_length_le (hlen.trans_le (by decide))]
    exact List.take_left' hlen
  have hpad : 256 ≤ ((config.bytes.padTo pageSize 0xFF).take size).length := by
    rw [List.length_take, Bytes.length_padTo]
    exact Nat.le_min.2 ⟨hs, by decide⟩
  have hsize : HeatingConfig.size = 256 := rfl
  rw [hsize, kept, List.take_append_of_le_length hpad, List.take_take, Nat.min_eq_left hs, hfront]

section Records

variable {σ : Type} {c : Channel σ} {limits : EepromLimits} {board : σ → Board}
  (h : c.link.Carries board) {t t' : Mailbox × σ} (hf : (board t.2).faults = [])

include h hf

omit h hf in
/-- Only valid records are stored. -/
lemma verifyCrc_programmed {info : ActuatorInfo}
    (hp : (overMailbox c limits).programActuatorInfo info t = (.ok (), t')) :
    info.verifyCrc = true := by
  rw [programActuatorInfo] at hp
  split at hp
  · assumption
  · cases hp

/-- An actuator record that was reported as stored is read as the chip has kept it. -/
lemma readActuatorInfo_programmed (hs : (board t.2).pageSize ≤ 264) {info : ActuatorInfo}
    (hp : (overMailbox c limits).programActuatorInfo info t = (.ok (), t')) :
    ∃ t'', (overMailbox c limits).readActuatorInfo t' =
      (.ok (info.keptOn (board t.2).pageSize), t'') := by
  rw [programActuatorInfo] at hp
  split at hp
  · have hdata : info.bytes.length ≤ pageSize := info.image.length_bytes.le
    obtain ⟨t'', hr⟩ := readPage_written h hf hs (by decide) hdata
      (show 1 ≤ ActuatorInfo.size ∧ ActuatorInfo.size ≤ pageSize by decide) hp
    refine ⟨t'', ?_⟩
    rw [readActuatorInfo, bind_ok hr, kept_actuatorInfo hs, ActuatorInfo.ofPage_bytes]
    rfl
  · cases hp

/-- A heating record that was reported as stored is valid, and it is read as it was. -/
lemma readHeatingConfig_programmed
    (hs : 256 ≤ (board t.2).pageSize ∧ (board t.2).pageSize ≤ 264) {config : HeatingConfig}
    (hp : (overMailbox c limits).programHeatingConfig config t = (.ok (), t')) :
    config.verifyCrc = true ∧
      ∃ t'', (overMailbox c limits).readHeatingConfig t' = (.ok config, t'') := by
  rw [programHeatingConfig] at hp
  split at hp
  · next hv =>
    have hlen : config.bytes.length = HeatingConfig.size := config.image.length_bytes
    obtain ⟨t'', hr⟩ := readPage_written h hf hs.2 (by decide) (hlen.trans_le (by decide))
      (show 1 ≤ HeatingConfig.size ∧ HeatingConfig.size ≤ pageSize by decide) hp
    refine ⟨hv, t'', ?_⟩
    rw [readHeatingConfig, bind_ok hr, kept_heatingConfig hs.1, HeatingConfig.ofPage,
      requireLength_of_le hlen.ge, HeatingConfig.bytes, Image.ofBytes_bytes]
    rfl
  · cases hp

/-- Where no fault is to come, a record that was reported as stored can be read at once.  A
heating record comes back as it was, and it is valid.  An actuator record comes back as far as
the chip's pages reach, and it is valid if the pages are large or its small check fits. -/
theorem records_read_back (hs : (board t.2).pageSize = 256 ∨ (board t.2).pageSize = 264) :
    (∀ info, (overMailbox c limits).programActuatorInfo info t = (.ok (), t') →
      ∃ info' t'', (overMailbox c limits).readActuatorInfo t' = (.ok info', t'') ∧
        info' = info.keptOn (board t.2).pageSize ∧
        ((board t.2).pageSize = 264 ∨ info.smallCrc = info.expectedSmallCrc →
          info'.verifyCrc = true)) ∧
    ∀ config, (overMailbox c limits).programHeatingConfig config t = (.ok (), t') →
      ∃ config' t'', (overMailbox c limits).readHeatingConfig t' = (.ok config', t'') ∧
        config' = config ∧ config'.verifyCrc = true := by
  have hsmall : 256 ≤ (board t.2).pageSize := by omega
  have hlarge : (board t.2).pageSize ≤ 264 := by omega
  refine ⟨fun info hp => ?_, fun config hp => ?_⟩
  · obtain ⟨t'', hr⟩ := readActuatorInfo_programmed h hf hlarge hp
    refine ⟨_, t'', hr, rfl, ?_⟩
    rintro (hsize | hcrc)
    · rw [hsize, ActuatorInfo.keptOn_large]
      exact verifyCrc_programmed hp
    · exact ((info.smallCrcFits_keptOn hsmall hlarge).2 hcrc).verifyCrc
  · obtain ⟨hv, t'', hr⟩ := readHeatingConfig_programmed h hf ⟨hsmall, hlarge⟩ hp
    exact ⟨config, t'', hr, rfl, hv⟩

end Records

/-! A board with small pages. -/

section Small

/-- The way to a board. -/
private abbrev smallChannel : Channel Ring := ⟨Ring.link, ⟨1, 0, 0, 0, 0, .op⟩, {}⟩

/-- A board with small pages that is busy for a while after a write. -/
private abbrev smallBoard : Board :=
  { station := 1, position := 0, pageSize := 256, chipBusyPolls := 3 }

/-- Pages are stored on it. -/
private lemma writePage_small (page : UInt16) (hpage : page < pageCount) {data : Bytes}
    (hdata : data.length ≤ pageSize) :
    ∃ t', (overMailbox smallChannel {}).writePage page data (Mailbox.fresh, ⟨smallBoard, 0⟩) =
      (.ok (), t') := by
  have hcalm : smallChannel.Calm Ring.board smallBoard (Engine Resting 0 0)
      (Mailbox.fresh, ⟨smallBoard, 0⟩) :=
    ⟨by decide, .refl _, ⟨⟨rfl, rfl⟩, rfl, rfl, rfl, rfl⟩, ⟨.of_blank rfl, rfl, rfl⟩⟩
  have hpatient : Channel.Patient smallChannel.limits := Channel.patient_of_validate rfl
  have hreturns : Triple (smallChannel.Calm Ring.board smallBoard (Engine Resting 0 0))
      ((overMailbox smallChannel {}).writePage page data) _ fun _ _ => False :=
    (writePage_undisturbed Ring.carries hpatient rfl rfl (by decide) (by decide) hpage
      hdata).stop_mono fun _ _ hno => hno (by decide)
  obtain ⟨⟨⟩, t', hw, -⟩ := hreturns.exists_result hcalm
  exact ⟨t', hw⟩

/-- Records with all their checks, on a board with small pages. -/
theorem records_read_back_small_pages :
    let p := overMailbox smallChannel {}
    let t : Mailbox × Ring := (Mailbox.fresh, ⟨smallBoard, 0⟩)
    let info := ActuatorInfo.blank.generateCrc
    let config := HeatingConfig.make {} true
    (∃ t' info' t'', p.programActuatorInfo info t = (.ok (), t') ∧
      p.readActuatorInfo t' = (.ok info', t'') ∧ info'.verifyCrc = true) ∧
    ∃ t' t'', p.programHeatingConfig config t = (.ok (), t') ∧
      p.readHeatingConfig t' = (.ok config, t'') ∧ config.verifyCrc = true := by
  intro p t info config
  refine ⟨?_, ?_⟩
  · obtain ⟨t', hw⟩ := writePage_small ActuatorInfo.page (by decide)
      info.image.length_bytes.le
    have hp : p.programActuatorInfo info t = (.ok (), t') := by
      rw [programActuatorInfo, if_pos (ActuatorInfo.verifyCrc_generateCrc _)]
      exact hw
    obtain ⟨info', t'', hr, -, hv⟩ := (records_read_back Ring.carries rfl (.inl rfl)).1 info hp
    exact ⟨t', info', t'', hp, hr, hv (.inr (ActuatorInfo.smallCrcFits_generateCrc _))⟩
  · obtain ⟨t', hw⟩ := writePage_small HeatingConfig.page (by decide)
      (config.image.length_bytes.trans_le (by decide))
    have hp : p.programHeatingConfig config t = (.ok (), t') := by
      have hv : config.verifyCrc = true := HeatingConfig.verifyCrc_generateCrc _
      rw [programHeatingConfig, if_pos hv]
      exact hw
    obtain ⟨_, t'', hr, rfl, hv⟩ := (records_read_back Ring.carries rfl (.inl rfl)).2 config hp
    exact ⟨t', t'', hp, hr, hv⟩

/-- Four bytes of ones empty the register of the check, and zeros leave it empty. -/
private lemma ofPrefix_ones_zeros {n k : Nat} (hk : 4 ≤ k) (hn : k ≤ 4 + n) :
    Crc32.ofPrefix ([0xFF, 0xFF, 0xFF, 0xFF] ++ Bytes.zeros n) k = 0xFFFFFFFF := by
  have hones : [0xFF, 0xFF, 0xFF, 0xFF].foldl Crc32.feed 0xFFFFFFFF = 0 := by decide +kernel
  have hzeros (j : Nat) : (Bytes.zeros j).foldl Crc32.feed 0 = 0 := by
    induction j with
    | zero => rfl
    | succ j ih => exact ih
  obtain ⟨j, rfl⟩ := Nat.exists_eq_add_of_le hk
  have htake : ([0xFF, 0xFF, 0xFF, 0xFF] ++ Bytes.zeros n).take (4 + j) =
      [0xFF, 0xFF, 0xFF, 0xFF] ++ Bytes.zeros j := by
    show List.take (([0xFF, 0xFF, 0xFF, 0xFF] : Bytes).length + j) _ = _
    rw [List.take_length_add_append, Bytes.zeros, List.take_replicate,
      Nat.min_eq_left (Nat.le_of_add_le_add_left hn), Bytes.zeros]
  rw [Crc32.ofPrefix, htake, Crc32.compute, Crc32.register, List.foldl_append, hones, hzeros]
  rfl

/-- A record that only its large check vouches for is stored on small pages, and what is read
is a record that nothing vouches for. -/
theorem large_check_lost :
    let p := overMailbox smallChannel {}
    let t : Mailbox × Ring := (Mailbox.fresh, ⟨smallBoard, 0⟩)
    let info := (ActuatorInfo.blank.setVersion 0xFFFF 0xFFFF).putLargeCrc
    ∃ t' info' t'', p.programActuatorInfo info t = (.ok (), t') ∧
      p.readActuatorInfo t' = (.ok info', t'') ∧ info'.verifyCrc = false := by
  intro p t info
  have hv : info.verifyCrc = true := ActuatorInfo.verifyCrc_putLargeCrc _
  have hlost : (info.keptOn 256).verifyCrc = false := by
    have hbytes : (info.keptOn 256).bytes = [0xFF, 0xFF, 0xFF, 0xFF] ++ Bytes.zeros 260 := by
      rw [ActuatorInfo.bytes_keptOn _ (by decide), ActuatorInfo.take_putLargeCrc]
      decide +kernel
    have hsmall : (info.keptOn 256).expectedSmallCrc = 0xFFFFFFFF := by
      rw [ActuatorInfo.expectedSmallCrc, hbytes]
      exact ofPrefix_ones_zeros (by decide) (by decide)
    have hlarge : (info.keptOn 256).expectedLargeCrc = 0xFFFFFFFF := by
      rw [ActuatorInfo.expectedLargeCrc, hbytes]
      exact ofPrefix_ones_zeros (by decide) (by decide)
    have hfields : (info.keptOn 256).smallCrc = 0 ∧ (info.keptOn 256).largeCrc = 0 := by
      show (info.keptOn 256).bytes.word32At 252 = 0 ∧ (info.keptOn 256).bytes.word32At 260 = 0
      rw [hbytes]
      decide +kernel
    rw [ActuatorInfo.verifyCrc, hsmall, hlarge, hfields.1, hfields.2]
    rfl
  obtain ⟨t', hw⟩ := writePage_small ActuatorInfo.page (by decide)
    info.image.length_bytes.le
  have hp : p.programActuatorInfo info t = (.ok (), t') := by
    rw [programActuatorInfo, if_pos hv]
    exact hw
  obtain ⟨t'', hr⟩ := readActuatorInfo_programmed Ring.carries rfl (by decide) hp
  exact ⟨t', _, t'', hp, hr, hlost⟩

end Small

end Programmer

end MotorBoard
