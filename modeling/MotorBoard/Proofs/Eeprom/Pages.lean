/-
# What happens to the pages of the chip

A page is written in four steps: the buffer is filled, the engine copies it into the page,
and then the chip is polled, which overwrites the buffer with status bytes.  Only the second
step changes a page, and every execution of its command finds the buffer filled, because the
programmer goes on only when a write is reported as done, and never goes back.  So the page
is written as a whole or not at all, and the same bytes are written again if the command is
executed once more.

A page is read in a similar way, and here the buffer is cleared before the engine fills it.
So the bytes that the programmer takes out are those of the page and zeros behind its end,
however small the pages of the chip are.

The main results are

* `Programmer.writePage_safe`: what a write does to the pages, whether or not it is
  reported as done;
* `Programmer.readPage_safe`: what a read gives, and that it changes no page.
-/
import MotorBoard.Proofs.Eeprom.Undisturbed

namespace MotorBoard

open Call Board

namespace Programmer

variable {σ : Type} {c : Channel σ} {limits : EepromLimits} {board : σ → Board} {b₀ : Board}

/-! Writing a page. -/

section Write

variable (b₀ : Board) (page : UInt16) (data : Bytes)

/-- What the engine copies into a page: the data, filled up with ones, as far as the chip's
pages reach. -/
def image : Bytes := (data.padTo pageSize 0xFF).take b₀.pageSize

/-- The pages after data were written to one of them. -/
def written : UInt16 → Image 264 :=
  (b₀.setPage page ((b₀.pages page).overwrite 0 (image b₀ data))).pages

lemma length_image : (image b₀ data).length = min b₀.pageSize pageSize := by
  rw [image, List.length_take, Bytes.length_padTo]

lemma length_image_le : (image b₀ data).length ≤ 264 :=
  (length_image b₀ data).trans_le (Nat.min_le_right ..)

lemma written_other {other : UInt16} (h : other ≠ page) :
    written b₀ page data other = b₀.pages other :=
  pages_setPage_of_ne h _ b₀

/-- What the chip's pages do not hold stays as it is. -/
lemma written_self :
    (written b₀ page data page).bytes =
      (data.padTo pageSize 0xFF).take b₀.pageSize ++ (b₀.pages page).bytes.drop b₀.pageSize := by
  have hdrop : (b₀.pages page).bytes.drop (image b₀ data).length =
      (b₀.pages page).bytes.drop b₀.pageSize := by
    have hlen : (b₀.pages page).bytes.length = pageSize := (b₀.pages page).length_bytes
    rw [length_image]
    obtain hs | hs := Nat.le_total b₀.pageSize pageSize
    · rw [Nat.min_eq_left hs]
    · rw [Nat.min_eq_right hs, List.drop_eq_nil_of_le hlen.le,
        List.drop_eq_nil_of_le (hlen.trans_le hs)]
  rw [written, pages_setPage_self, Image.bytes_overwrite_zero _ (length_image_le b₀ data), hdrop,
    image]

/-- Copying the same bytes into a page once more makes no difference. -/
lemma written_again {b : Board} (h : b.pages = b₀.pages ∨ b.pages = written b₀ page data) :
    (b.setPage page ((b.pages page).overwrite 0 (image b₀ data))).pages =
      written b₀ page data := by
  funext other
  by_cases hp : other = page
  · subst hp
    rw [written, pages_setPage_self, pages_setPage_self]
    obtain h | h := h
    · rw [h]
    · rw [h, written, pages_setPage_self,
        Image.overwrite_zero_again _ (length_image_le b₀ data)]
  · rw [pages_setPage_of_ne hp, written_other b₀ page data hp]
    obtain h | h := h
    · rw [h]
    · rw [h, written_other b₀ page data hp]

/-- While the command is under way the buffer is filled, and the page has been written or
not. -/
def Filled (st : Stores) : Prop :=
  (st.pages = b₀.pages ∨ st.pages = written b₀ page data) ∧ st.buffer = data.padTo pageSize 0xFF

/-- The command that copies the buffer into the page.  The buffer stays filled. -/
lemma executes_write (station : UInt16) :
    Executes b₀ station SpiCommand.address (SpiCommand.write page).encode (Filled b₀ page data)
      (fun st => st.pages = written b₀ page data ∧ st.buffer = data.padTo pageSize 0xFF)
      (fun st => st.pages = b₀.pages ∨ st.pages = written b₀ page data) where
  weaken _ hK := ⟨.inr hK.1, hK.2⟩
  step b _ halike hW := by
    obtain ⟨hpages, hbuffer⟩ := hW
    refine (start_write_ends page b).imp ?_ ?_
    · rintro _ b' ⟨hbuffer', hpages'⟩
      refine ⟨hpages'.trans ?_, hbuffer'.trans hbuffer⟩
      rw [hbuffer, halike.pageSize]
      exact written_again b₀ page data hpages
    · intro _ b' hpages'
      show b'.pages = _ ∨ b'.pages = _
      rwa [hpages']

/-- The stages of a write.  The page has been written or not, and it has been written if the
write is reported as done. -/
lemma writePage_sequence (h : c.link.Carries board) :
    Triple (At b₀ c board fun st => st.pages = b₀.pages)
      ((overMailbox c limits).writePage page data)
      (fun _ t => b₀.Answers c.slave.station ∧
        At b₀ c board (fun st => st.pages = written b₀ page data) t)
      (StoppedAt b₀ c board fun st => st.pages = b₀.pages ∨
        st.pages = written b₀ page data) := by
  have hlen : (data.padTo pageSize 0xFF).length = pageSize := Bytes.length_padTo ..
  have hold : ∀ st : Stores, st.pages = b₀.pages →
      st.pages = b₀.pages ∨ st.pages = written b₀ page data :=
    fun _ => .inl
  have hfill := executes_fill b₀ c.slave.station
    (Stores.SameElsewhere.apart_pages (· = b₀.pages)) hlen.le
  have hbounds : Triple (At b₀ c board fun st => st.pages = b₀.pages)
      (Call.ofExcept (requireBounds page data.length))
      (fun _ => At b₀ c board fun st => st.pages = b₀.pages)
      (StoppedAt b₀ c board fun st => st.pages = b₀.pages ∨ st.pages = written b₀ page data) :=
    .ofExcept (fun _ _ _ => id) fun e _ t ht => ht.stopped hold _
  have hidle : Triple (At b₀ c board fun st => st.pages = b₀.pages)
      (overMailbox c limits).awaitIdle _
      (StoppedAt b₀ c board fun st => st.pages = b₀.pages ∨ st.pages = written b₀ page data) :=
    (awaitIdle_sequence h).stop_mono fun _ _ ht => ht.mono hold
  have hsent : Triple
      (At b₀ c board fun st => st.pages = b₀.pages ∧
        st.buffer.take (data.padTo pageSize 0xFF).length = data.padTo pageSize 0xFF)
      ((overMailbox c limits).sendSpiCommand (.write page)) _
      (StoppedAt b₀ c board fun st => st.pages = b₀.pages ∨ st.pages = written b₀ page data) :=
    sendSpiCommand_sequence h (executes_write b₀ page data _)
      (fun _ hst => ⟨.inl hst.1, Stores.buffer_filled hlen hst.2⟩) (fun _ hst => hst.1)
      fun _ => id
  have hready : Triple
      (At b₀ c board fun st => st.pages = written b₀ page data ∧
        st.buffer = data.padTo pageSize 0xFF)
      (overMailbox c limits).awaitReady
      (fun _ t => b₀.Answers c.slave.station ∧
        At b₀ c board (fun st => st.pages = written b₀ page data) t)
      (StoppedAt b₀ c board fun st => st.pages = b₀.pages ∨ st.pages = written b₀ page data) := by
    refine (awaitReady_sequence h (Stores.SameElsewhere.apart_pages
      (· = written b₀ page data))).mono ?_ (fun _ _ => id) ?_
    · exact fun _ ht => ht.mono fun _ hst => hst.1
    · exact fun _ _ ht => ht.mono fun _ => .inr
  exact hbounds.bind fun _ => hidle.bind fun _ => Triple.lift fun _ =>
    (c.write_sequence h hfill (fun _ => id) hold hold).bind fun _ => hsent.bind fun _ =>
    Triple.lift fun _ => hready

end Write

/-- Whatever state the board is in and whatever faults hit the frames: writing a page leaves
all other pages alone, and the page itself either stays as it is or takes the data, filled up
with ones, as far as the chip's pages reach.  It has taken them if the write is reported as
done. -/
theorem writePage_safe (h : c.link.Carries board) {page : UInt16} {data : Bytes}
    {m m' : Mailbox} {s s' : σ} {r : Except Stop Unit}
    (hr : (overMailbox c limits).writePage page data (m, s) = (r, m', s')) :
    (∀ other, other ≠ page → (board s').pages other = (board s).pages other) ∧
      ((board s').pages page = (board s).pages page ∨
        ((board s').pages page).bytes = (data.padTo pageSize 0xFF).take (board s).pageSize ++
          ((board s).pages page).bytes.drop (board s).pageSize) ∧
      (r = .ok () →
        ((board s').pages page).bytes = (data.padTo pageSize 0xFF).take (board s).pageSize ++
          ((board s).pages page).bytes.drop (board s).pageSize) := by
  have ht := (writePage_sequence (board s) page data h :
    Triple _ ((overMailbox c limits).writePage page data) _ _) (m, s) (.refl rfl)
  rw [hr] at ht
  have hself := written_self (board s) page data
  have hother : ∀ other, other ≠ page → written (board s) page data other = (board s).pages other :=
    fun _ => written_other (board s) page data
  cases r with
  | ok u =>
    have hpages : (board s').pages = written (board s) page data := ht.2.2.1 ht.1
    rw [hpages]
    exact ⟨hother, .inr hself, fun _ => hself⟩
  | error e =>
    have hpages : (board s').pages = (board s).pages ∨
        (board s').pages = written (board s) page data :=
      ht.1.elim (J := fun st => st.pages = _ ∨ st.pages = _) (.inl rfl)
    refine ⟨fun other hne => ?_, ?_, fun hu => by cases hu⟩
    · obtain hp | hp := hpages
      · rw [hp]
      · rw [hp, hother other hne]
    · obtain hp | hp := hpages
      · exact .inl (congrFun hp page)
      · exact .inr (hp ▸ hself)

/-- Three bytes for a chip that has pages of two and is busy for a while after a write. -/
theorem writePage_safe_small_pages :
    let c : Channel Ring := ⟨Ring.link, ⟨1, 0, 0, 0, 0, .op⟩, {}⟩
    let b : Board := { station := 1, position := 0, pageSize := 2, chipBusyPolls := 3 }
    ∃ m' r', (overMailbox c {}).writePage 7 [1, 2, 3] (Mailbox.fresh, ⟨b, 0⟩) = (.ok (), m', r') ∧
      (r'.board.pages 7).bytes = [1, 2] ++ List.replicate 262 0xFF ∧
      ∀ other, other ≠ 7 → r'.board.pages other = b.pages other := by
  intro c b
  have hresting : Resting b.stores := .of_blank rfl
  have hcalm : c.Calm Ring.board b (Engine Resting 0 0) (Mailbox.fresh, ⟨b, 0⟩) :=
    ⟨by decide, .refl b, ⟨⟨rfl, rfl⟩, rfl, rfl, rfl, rfl⟩, ⟨hresting, rfl, rfl⟩⟩
  have hpatient : Channel.Patient c.limits := Channel.patient_of_validate rfl
  have hreturns : Triple (c.Calm Ring.board b (Engine Resting 0 0))
      ((overMailbox c {}).writePage 7 [1, 2, 3]) (fun _ _ => True) fun _ _ => False :=
    (writePage_undisturbed Ring.carries hpatient rfl rfl (by decide) (by decide) (by decide)
      (by decide)).mono (fun _ => id) (fun _ _ _ => trivial) fun _ _ hno => hno (by decide)
  obtain ⟨⟨⟩, ⟨m', r'⟩, hr, -⟩ := hreturns.exists_result hcalm
  obtain ⟨hother, -, hwritten⟩ := writePage_safe Ring.carries hr
  refine ⟨m', r', hr, (hwritten rfl).trans ?_, hother⟩
  exact congrArg ([1, 2] ++ ·) (List.drop_replicate)

/-! Reading a page. -/

section Read

variable (b₀ : Board) (page : UInt16)

/-- What a transfer leaves in a buffer that was cleared before: the page as far as the chip's
pages reach, and zeros behind it. -/
def fetched : Bytes :=
  (b₀.pages page).bytes.take b₀.pageSize ++ (Bytes.zeros pageSize).drop b₀.pageSize

private lemma length_front : ((b₀.pages page).bytes.take b₀.pageSize).length =
    min b₀.pageSize pageSize := by
  rw [List.length_take, (b₀.pages page).length_bytes]
  rfl

lemma length_fetched : (fetched b₀ page).length = pageSize := by
  rw [fetched, List.length_append, length_front, List.length_drop, Bytes.zeros,
    List.length_replicate]
  omega

/-- Behind the end of the chip's pages a cleared buffer stays clear. -/
lemma drop_fetched :
    (fetched b₀ page).drop b₀.pageSize = (Bytes.zeros pageSize).drop b₀.pageSize := by
  obtain hs | hs := Nat.le_total b₀.pageSize pageSize
  · exact List.drop_left' ((length_front b₀ page).trans (Nat.min_eq_left hs))
  · have hzeros : (Bytes.zeros pageSize).drop b₀.pageSize = [] :=
      List.drop_eq_nil_of_le (List.length_replicate.trans_le hs)
    rw [fetched, hzeros, List.append_nil]
    exact List.drop_eq_nil_of_le (List.length_take_le ..)

lemma byteAt_fetched {i : Nat} (hi : i < pageSize) :
    (fetched b₀ page).byteAt i =
      if i < b₀.pageSize then (b₀.pages page).bytes.byteAt i else 0 := by
  have hfront := length_front b₀ page
  rw [fetched, Bytes.byteAt, List.getD_eq_getElem?_getD]
  split
  · next hs =>
    rw [List.getElem?_append_left (by omega), List.getElem?_take_of_lt hs, Bytes.byteAt,
      List.getD_eq_getElem?_getD]
  · next hs =>
    rw [List.getElem?_append_right (by omega), List.getElem?_drop, Bytes.zeros,
      List.getElem?_replicate]
    split <;> rfl

/-- The command that copies the page into the buffer.  Copying it again makes no difference,
because the end of the buffer is not touched. -/
lemma executes_read (station : UInt16) :
    Executes b₀ station SpiCommand.address (SpiCommand.read page).encode
      (fun st => b₀.stores.SameElsewhere st ∧
        st.buffer.drop b₀.pageSize = (Bytes.zeros pageSize).drop b₀.pageSize)
      (fun st => b₀.stores.SameElsewhere st ∧ st.buffer = fetched b₀ page)
      b₀.stores.SameElsewhere where
  weaken st hK := ⟨hK.1, hK.2.symm ▸ drop_fetched b₀ page⟩
  step b _ halike hW := by
    refine (start_read_ends page b).imp ?_ fun _ b' hsame => hW.1.trans hsame
    rintro _ b' ⟨hsame, hs, hbuffer'⟩
    refine ⟨hW.1.trans hsame, hbuffer'.trans ?_⟩
    have hpages : b.pages = b₀.pages := hW.1.pages
    rw [halike.pageSize, hpages, hW.2, fetched]

/-- The stages of a read.  Nothing changes but the register and the buffer of the engine, and
the read gives what the transfer has left in the buffer. -/
lemma readPage_sequence (h : c.link.Carries board) (length : Nat) :
    Triple (At b₀ c board b₀.stores.SameElsewhere)
      ((overMailbox c limits).readPage page length)
      (fun d t => b₀.Answers c.slave.station ∧ length ≤ pageSize ∧
        d = (fetched b₀ page).take length ∧ At b₀ c board b₀.stores.SameElsewhere t)
      (StoppedAt b₀ c board b₀.stores.SameElsewhere) := by
  have hzeros : (Bytes.zeros pageSize).length = pageSize := List.length_replicate
  have hfill := executes_fill b₀ c.slave.station (Stores.SameElsewhere.apart b₀.stores) hzeros.le
  have hbounds : Triple (At b₀ c board b₀.stores.SameElsewhere)
      (Call.ofExcept (requireBounds page length))
      (fun _ t => length ≤ pageSize ∧ At b₀ c board b₀.stores.SameElsewhere t)
      (StoppedAt b₀ c board b₀.stores.SameElsewhere) := by
    refine .ofExcept (fun _ hb t ht => ⟨?_, ht⟩) fun e _ t ht => ht.stopped (fun _ => id) _
    rw [requireBounds] at hb
    split at hb
    · cases hb
    · exact Nat.not_lt.1 ‹_›
  have hsent : Triple
      (At b₀ c board fun st => b₀.stores.SameElsewhere st ∧
        st.buffer.take (Bytes.zeros pageSize).length = Bytes.zeros pageSize)
      ((overMailbox c limits).sendSpiCommand (.read page)) _
      (StoppedAt b₀ c board b₀.stores.SameElsewhere) :=
    sendSpiCommand_sequence h (executes_read b₀ page _)
      (fun _ hst => ⟨hst.1, congrArg _ (Stores.buffer_filled hzeros hst.2)⟩)
      (fun _ hst => hst.1) fun _ => id
  have hread : Triple
      (At b₀ c board fun st => b₀.stores.SameElsewhere st ∧ st.buffer = fetched b₀ page)
      (c.read bufferAddress length) _ (StoppedAt b₀ c board b₀.stores.SameElsewhere) :=
    (c.read_sequence h bufferAddress length).stop_mono fun _ _ ht => ht.mono fun _ hst => hst.1
  refine .ite (fun _ => fail_sequence _) fun _ => hbounds.bind fun _ => Triple.lift fun hlength =>
    (c.write_sequence h hfill (fun _ => id) (fun _ => id) fun _ => id).bind fun _ =>
    hsent.bind fun _ => Triple.lift fun ha => hread.bind fun d => .pure _ fun t ht => ?_
  obtain ⟨-, hstage, hshows⟩ := ht
  refine ⟨ha, hlength, ?_, hstage.mono fun _ hst => hst.1⟩
  -- the buffer lies apart from the register of the engine, so the read shows its bytes
  have hbuffer : (board t.2).stores.buffer = fetched b₀ page := (hstage.2.1 ha).2
  rw [Bytes.padTo, hshows.size, Nat.sub_self, List.replicate_zero, List.append_nil,
    hshows.eq_range rfl, ← hbuffer, Stores.buffer, Memory.take_range _ hlength,
    Memory.take_range _ (Nat.le_refl _)]
  rfl

end Read

/-- Whatever state the board is in and whatever faults hit the frames: reading a page changes
no page, and a read that is reported as done gives as many bytes as were asked for: those of
the page as far as the chip's pages reach, and zeros behind it. -/
theorem readPage_safe (h : c.link.Carries board) {page : UInt16} {length : Nat}
    {m m' : Mailbox} {s s' : σ} {r : Except Stop Bytes}
    (hr : (overMailbox c limits).readPage page length (m, s) = (r, m', s')) :
    (board s').pages = (board s).pages ∧
      ∀ d, r = .ok d → d.length = length ∧ ∀ i, i < length →
        d.byteAt i =
          if i < (board s).pageSize then ((board s).pages page).bytes.byteAt i else 0 := by
  have ht := (readPage_sequence (board s) page h length :
    Triple _ ((overMailbox c limits).readPage page length) _ _) (m, s) (.refl (.refl _))
  rw [hr] at ht
  cases r with
  | ok d =>
    obtain ⟨ha, hlength, rfl, hstage⟩ := ht
    refine ⟨(hstage.2.1 ha).pages, ?_⟩
    rintro _ ⟨⟩
    refine ⟨?_, fun i hi => ?_⟩
    · rw [List.length_take, length_fetched]
      exact Nat.min_eq_left hlength
    · rw [Bytes.byteAt, List.getD_eq_getElem?_getD, List.getElem?_take_of_lt hi,
        ← List.getD_eq_getElem?_getD]
      exact byteAt_fetched (board s) page (hi.trans_le hlength)
  | error e =>
    refine ⟨(ht.1.elim (.refl _)).pages, fun d hd => ?_⟩
    cases hd

/-- Four bytes of a chip that has pages of two, where the buffer was full of other bytes. -/
theorem readPage_safe_small_pages :
    let c : Channel Ring := ⟨Ring.link, ⟨1, 0, 0, 0, 0, .op⟩, {}⟩
    let bus := (Memory.blank 0x10000).write bufferAddress.toNat [9, 9, 9, 9]
    let small : Board := { station := 1, position := 0, localBus := bus, pageSize := 2 }
    let b : Board := small.setPage 7 (Image.ofBytes 264 0xFF [1, 2])
    ∃ m' r', (overMailbox c {}).readPage 7 4 (Mailbox.fresh, ⟨b, 0⟩) = (.ok [1, 2, 0, 0], m', r') ∧
      r'.board.pages = b.pages := by
  intro c bus small b
  have hblank : Resting { b.stores with localBus := Memory.blank _ } := .of_blank rfl
  have hstale : [9, 9, 9, 9].length ≤ 264 := by decide
  have hresting : Resting b.stores := hblank.fill hstale
  have hcalm : c.Calm Ring.board b (Engine Resting 0 0) (Mailbox.fresh, ⟨b, 0⟩) :=
    ⟨by decide, .refl b, ⟨⟨rfl, rfl⟩, rfl, rfl, rfl, rfl⟩, ⟨hresting, rfl, rfl⟩⟩
  have hpatient : Channel.Patient c.limits := Channel.patient_of_validate rfl
  have hreturns : Triple (c.Calm Ring.board b (Engine Resting 0 0))
      ((overMailbox c {}).readPage 7 4) (fun _ _ => True) fun _ _ => False :=
    (readPage_undisturbed Ring.carries hpatient rfl rfl (by decide) (by decide)
      (by decide)).mono (fun _ => id) (fun _ _ _ => trivial) fun _ _ hno => hno (by decide)
  obtain ⟨d, ⟨m', r'⟩, hr, -⟩ := hreturns.exists_result hcalm
  obtain ⟨hpages, hd⟩ := readPage_safe Ring.carries hr
  obtain ⟨hlength, hbytes⟩ := hd d rfl
  obtain rfl : d = [1, 2, 0, 0] := by
    refine List.ext_getElem hlength fun i hi hi' => ?_
    refine (List.getD_eq_getElem d 0 hi).symm.trans ((hbytes i hi').trans ?_)
    obtain rfl | rfl | rfl | rfl : i = 0 ∨ i = 1 ∨ i = 2 ∨ i = 3 := by
      change i < 4 at hi'
      omega
    all_goals rfl
  exact ⟨m', r', hr, hpages⟩

end Programmer

end MotorBoard
