/-
# What the transfer engine does

A write of the engine's register with the start bit set makes the engine run.  It moves
bytes between the page buffer and a page of the chip, or between the buffer and the chip's
status, and then it shows its operation in the register and is busy for a while.  Nothing of
this depends on what the register held before.

The engine moves as many bytes as the chip's pages have.  Where these are small, the end of
the buffer and the end of the stored page stay as they are.  Where they are larger than the
buffer the board dies of the transfer, before anything is stored.

The main results are

* `Board.writeBus_start`: the board after a write that starts the engine;
* `Board.start_read_ends`, `Board.start_write_ends`, `Board.start_status_ends`: what the
  three transfers do to the page buffer, to the pages and elsewhere.
-/
import MotorBoard.Proofs.Board.Commands
import MotorBoard.Proofs.Record.RoundTrips

namespace MotorBoard

open Call

namespace SpiCommand

/-- The engine reads back the command that was built for it. -/
lemma decode_build (page : UInt16) (op : SpiOperation) :
    decode (build page op).encode = .ok (build page op) := by
  have hoperation : op.code < 16 := by cases op <;> decide
  exact roundTrips.decode_encode _ hoperation

/-- The engine takes the operation for the one that was asked for. -/
lemma operation?_build (page : UInt16) (op : SpiOperation) :
    (build page op).operation? = some op := by
  cases op <;> rfl

end SpiCommand

/-- Bytes written to the start of a page. -/
lemma Image.bytes_overwrite_zero {n : Nat} (im : Image n) {new : Bytes} (h : new.length ≤ n) :
    (im.overwrite 0 new).bytes = new ++ im.bytes.drop new.length := by
  rw [overwrite, overwrite?, dif_pos (by omega)]
  simp [Field.overwrite]

/-- Writing the same bytes once more makes no difference. -/
lemma Image.overwrite_zero_again {n : Nat} (im : Image n) {new : Bytes} (h : new.length ≤ n) :
    (im.overwrite 0 new).overwrite 0 new = im.overwrite 0 new := by
  have hbytes : ((im.overwrite 0 new).overwrite 0 new).bytes = (im.overwrite 0 new).bytes := by
    rw [bytes_overwrite_zero _ h, bytes_overwrite_zero _ h, List.drop_left]
  rwa [← Image.mk.injEq _ (Image.length_bytes _) _ (Image.length_bytes _)] at hbytes

namespace Stores

/-- The page buffer. -/
def buffer (st : Stores) : Bytes :=
  st.localBus.range Programmer.bufferAddress.toNat Programmer.pageSize

@[simp] lemma length_buffer (st : Stores) : st.buffer.length = Programmer.pageSize :=
  Memory.length_range ..

/-- A buffer that was filled as a whole. -/
lemma buffer_filled {st : Stores} {data : Bytes} (hd : data.length = Programmer.pageSize)
    (h : st.buffer.take data.length = data) : st.buffer = data := by
  rwa [hd, List.take_of_length_le st.length_buffer.le] at h

/-- Nothing has changed but what stands in the register of the engine and in the page buffer. -/
structure SameElsewhere (st st' : Stores) : Prop where
  pages : st'.pages = st.pages
  bus : ∀ i, Board.covers SpiCommand.address.toNat SpiCommand.size i = false →
    Board.covers Programmer.bufferAddress.toNat Programmer.pageSize i = false →
    st'.localBus.get i = st.localBus.get i

/-- A condition that does not speak of the register of the engine and of the page buffer. -/
def Apart (J : Stores → Prop) : Prop := ∀ st st', SameElsewhere st st' → J st → J st'

namespace SameElsewhere

variable {st st' : Stores}

lemma refl (st : Stores) : SameElsewhere st st := ⟨rfl, fun _ _ _ => rfl⟩

lemma trans {st'' : Stores} (h : SameElsewhere st st') (h' : SameElsewhere st' st'') :
    SameElsewhere st st'' :=
  ⟨h'.pages.trans h.pages, fun i hr hb => (h'.bus i hr hb).trans (h.bus i hr hb)⟩

/-- To have changed nothing elsewhere is such a condition itself. -/
lemma apart (st : Stores) : Apart (SameElsewhere st) := fun _ _ h' h => h.trans h'

lemma apart_pages (P : (UInt16 → Image 264) → Prop) : Apart fun st => P st.pages :=
  fun _ _ h => (congrArg P h.pages).mpr

/-- A range elsewhere holds what it held. -/
lemma range (h : SameElsewhere st st') {start length : Nat}
    (hr : start + length ≤ SpiCommand.address.toNat) :
    st'.localBus.range start length = st.localBus.range start length := by
  have hr' : SpiCommand.address.toNat = 0x230 := rfl
  have hb' : Programmer.bufferAddress.toNat = 0xF400 := rfl
  refine Memory.range_congr fun i _ hi => h.bus i ?_ ?_ <;>
    · simp only [Board.covers, Bool.and_eq_false_iff, decide_eq_false_iff_not]
      omega

/-- A write to the register of the engine. -/
lemma register (st : Stores) {start : Nat} {data : Bytes}
    (hstart : SpiCommand.address.toNat ≤ start)
    (hend : start + data.length ≤ SpiCommand.address.toNat + SpiCommand.size) :
    SameElsewhere st { st with localBus := st.localBus.write start data } := by
  have hr : SpiCommand.address.toNat = 0x230 := rfl
  have hs : SpiCommand.size = 3 := rfl
  refine ⟨rfl, fun i hi _ => ?_⟩
  simp only [Board.covers, Bool.and_eq_false_iff, decide_eq_false_iff_not] at hi
  show (st.localBus.write start data).get i = _
  rw [Memory.get_write _ _ _ _ (by omega), if_neg (by omega)]

/-- A write to the page buffer. -/
lemma fill (st : Stores) {start : Nat} {data : Bytes}
    (hstart : Programmer.bufferAddress.toNat ≤ start)
    (hend : start + data.length ≤ Programmer.bufferAddress.toNat + Programmer.pageSize) :
    SameElsewhere st { st with localBus := st.localBus.write start data } := by
  have hb : Programmer.bufferAddress.toNat = 0xF400 := rfl
  have hs : Programmer.pageSize = 264 := rfl
  refine ⟨rfl, fun i _ hi => ?_⟩
  simp only [Board.covers, Bool.and_eq_false_iff, decide_eq_false_iff_not] at hi
  show (st.localBus.write start data).get i = _
  rw [Memory.get_write _ _ _ _ (by omega), if_neg (by omega)]

end SameElsewhere

end Stores

namespace Memory

/-- A write in front of the page buffer does not touch it. -/
lemma buffer_write_below (m : Memory 0x10000) {start : Nat} {data : Bytes} (k : Nat)
    (h : start + data.length ≤ Programmer.bufferAddress.toNat) :
    (m.write start data).range Programmer.bufferAddress.toNat k =
      m.range Programmer.bufferAddress.toNat k := by
  have hb : Programmer.bufferAddress.toNat = 0xF400 := rfl
  exact range_write_of_disjoint m (by omega) (.inl h)

/-- Bytes written to the start of a range. -/
lemma range_write_start {n : Nat} (m : Memory n) {start length : Nat} {data : Bytes}
    (hd : data.length ≤ length) (h : start + length ≤ n) :
    (m.write start data).range start length = data ++ (m.range start length).drop data.length := by
  obtain ⟨k, rfl⟩ : ∃ k, length = data.length + k := ⟨length - data.length, by omega⟩
  have hfront : ((m.write start data).range start (data.length + k)).take data.length = data := by
    rw [take_range _ (Nat.le_add_right ..), range_write_self _ _ _ (by omega)]
  have hback : ((m.write start data).range start (data.length + k)).drop data.length =
      (m.range start (data.length + k)).drop data.length := by
    rw [drop_range, drop_range, range_write_of_disjoint _ (by omega) (.inl (Nat.le_refl _))]
  rw [← List.take_append_drop data.length ((m.write start data).range start (data.length + k)),
    hfront, hback]

end Memory

namespace Board

/-! The engine at work. -/

/-- The board after a transfer between the buffer and a chip whose pages fit into it. -/
def transferred (op : SpiOperation) (page : UInt16) (b : Board) : Board :=
  let buffer := Programmer.bufferAddress.toNat
  match op with
  | .read =>
    { b with localBus := b.localBus.write buffer ((b.pages page).bytes.take b.pageSize) }
  | .write =>
    { (b.setPage page ((b.pages page).overwrite 0 (b.localBus.range buffer b.pageSize))) with
      chipBusy := b.chipBusyPolls }
  | .arbitrary =>
    if b.localBus.get buffer = ChipStatus.opcode then
      { b with
        localBus := b.localBus.write (buffer + 1) [b.chipStatus]
        chipBusy := b.chipBusy - 1 }
    else b

/-- The board after it has taken a command for the engine into its register. -/
def commanded (cmd : SpiCommand) (b : Board) : Board :=
  { b with localBus := b.localBus.write SpiCommand.address.toNat cmd.encode }

/-- The board after the engine has finished a transfer. -/
def finished (cmd : SpiCommand) (b : Board) : Board :=
  { b with
    localBus := b.localBus.write SpiCommand.controlAddress.toNat [b.echo cmd]
    spiBusy := b.spiBusyPolls }

/-- The board after a command for the engine was executed. -/
def started (op : SpiOperation) (page : UInt16) (b : Board) : Board :=
  ((b.commanded (.build page op)).transferred op page).finished (.build page op)

lemma pages_setPage_self (page : UInt16) (im : Image 264) (b : Board) :
    (b.setPage page im).pages page = im :=
  if_pos rfl

lemma pages_setPage_of_ne {page other : UInt16} (h : other ≠ page) (im : Image 264)
    (b : Board) : (b.setPage page im).pages other = b.pages other :=
  if_neg h

lemma chipBusy_started (op : SpiOperation) (page : UInt16) (b : Board) :
    (b.started op page).chipBusy =
      ((b.commanded (.build page op)).transferred op page).chipBusy := rfl

lemma localBus_started (op : SpiOperation) (page : UInt16) (b : Board) :
    (b.started op page).stores.localBus =
      ((b.commanded (.build page op)).transferred op page).localBus.write
        SpiCommand.controlAddress.toNat
          [((b.commanded (.build page op)).transferred op page).echo (.build page op)] := rfl

/-- The chip answers a question for its status. -/
lemma transferred_status {b : Board}
    (h : b.localBus.get Programmer.bufferAddress.toNat = ChipStatus.opcode) (page : UInt16) :
    b.transferred .arbitrary page =
      { b with
        localBus := b.localBus.write (Programmer.bufferAddress.toNat + 1) [b.chipStatus]
        chipBusy := b.chipBusy - 1 } :=
  if_pos h

/-- The engine does not change how the board is set up. -/
lemma alike_transferred (op : SpiOperation) (page : UInt16) (b : Board) :
    b.Alike (b.transferred op page) := by
  cases op with
  | arbitrary =>
    rw [transferred]
    split
    · exact { Alike.refl b with }
    · exact .refl b
  | _ => exact { Alike.refl b with }

/-- The end of the page buffer lies on the local bus. -/
private lemma buffer_inside {k : Nat} (h : k ≤ 264) :
    Programmer.bufferAddress.toNat + k ≤ 0x10000 := by
  have hb : Programmer.bufferAddress.toNat = 0xF400 := rfl
  omega

/-- Whether a transfer fits into the buffer; that of the chip's status always does. -/
def Fits (op : SpiOperation) (b : Board) : Prop := op = .arbitrary ∨ b.pageSize ≤ 264

/-- A transfer that fits into the buffer. -/
lemma transfer_eq {b : Board} {op : SpiOperation} (hs : b.Fits op) (page : UInt16) :
    transfer (.build page op) b = (.ok (), b.transferred op page) := by
  rw [transfer, bind_ok (get_apply b)]
  simp only [SpiCommand.operation?_build]
  cases op with
  | read =>
    have hs : b.pageSize ≤ 264 := hs.resolve_left (by decide)
    have hlen : ((b.pages page).bytes.take b.pageSize).length ≤ 264 :=
      (List.length_take_le ..).trans hs
    exact (congrFun (if_pos hs) b).trans (storeBus_eq (buffer_inside hlen))
  | write =>
    have hs : b.pageSize ≤ 264 := hs.resolve_left (by decide)
    refine (congrFun (if_pos hs) b).trans ?_
    rw [bind_ok (loadBus_eq (buffer_inside hs))]
    rfl
  | arbitrary =>
    by_cases ho : b.localBus.get Programmer.bufferAddress.toNat = ChipStatus.opcode
    · refine (congrFun (if_pos ho) b).trans ?_
      have hin : Programmer.bufferAddress.toNat + 1 + [b.chipStatus].length ≤ 0x10000 :=
        buffer_inside (k := 2) (by decide)
      rw [bind_ok (storeBus_eq hin), transferred, if_pos ho]
      rfl
    · refine (congrFun (if_neg ho) b).trans ?_
      rw [transferred, if_neg ho]
      rfl

/-- A transfer that does not fit into the buffer kills the board at once. -/
lemma transfer_oversized {b : Board} {op : SpiOperation} (hs : ¬ b.Fits op) (page : UInt16) :
    transfer (.build page op) b = (.error .died, b) := by
  have hs' : ¬ b.pageSize ≤ 264 := fun h => hs (.inr h)
  rw [transfer, bind_ok (get_apply b)]
  simp only [SpiCommand.operation?_build]
  cases op with
  | arbitrary => exact absurd (.inl rfl) hs
  | _ => exact congrFun (if_neg hs') b

/-- A write of the engine's register with the start bit set runs the engine. -/
lemma writeBus_runs (op : SpiOperation) (page : UInt16) (b : Board) :
    writeBus SpiCommand.address (SpiCommand.build page op).encode b =
      runSpi (.build page op) (b.commanded (.build page op)) := by
  have hlen : (SpiCommand.build page op).encode.length = SpiCommand.size :=
    SpiCommand.length_encode _
  have hin : SpiCommand.address.toNat + (SpiCommand.build page op).encode.length ≤ 0x10000 := by
    rw [hlen]
    decide
  have hraw : (b.localBus.write SpiCommand.address.toNat
      (SpiCommand.build page op).encode).range SpiCommand.address.toNat SpiCommand.size =
        (SpiCommand.build page op).encode := by
    have h := Memory.range_write_self b.localBus _ _ hin
    rwa [hlen] at h
  have hcovers : covers SpiCommand.address.toNat (SpiCommand.build page op).encode.length
      SpiCommand.controlAddress.toNat = true := by
    rw [hlen]
    decide
  rw [writeBus, bind_ok (storeBus_eq hin)]
  simp only [hcovers, if_true]
  rw [bind_ok (loadBus_eq (by decide))]
  simp only [hraw, SpiCommand.decode_build]
  rfl

/-- The board after a write that starts the engine. -/
theorem writeBus_start {b : Board} {op : SpiOperation} (hs : b.Fits op) (page : UInt16) :
    writeBus SpiCommand.address (SpiCommand.build page op).encode b =
      (.ok (), b.started op page) := by
  have hin (byte : UInt8) : SpiCommand.controlAddress.toNat + [byte].length ≤ 0x10000 :=
    Nat.le_of_ble_eq_true rfl
  rw [writeBus_runs, runSpi, bind_ok (transfer_eq (b := b.commanded (.build page op)) hs page),
    bind_ok (get_apply _), bind_ok (storeBus_eq (hin _)), modify_apply]
  rfl

/-- A board whose pages are larger than the buffer dies of a transfer. -/
lemma writeBus_start_oversized {b : Board} {op : SpiOperation} (hs : ¬ b.Fits op)
    (page : UInt16) :
    writeBus SpiCommand.address (SpiCommand.build page op).encode b =
      (.error .died, b.commanded (.build page op)) := by
  rw [writeBus_runs, runSpi,
    bind_error (transfer_oversized (b := b.commanded (.build page op)) hs page)]

/-! What the transfers do to the page buffer, to the pages and elsewhere. -/

section Stores

variable (page : UInt16) (b : Board)

private lemma buffer_commanded (cmd : SpiCommand) (k : Nat) :
    (b.commanded cmd).localBus.range Programmer.bufferAddress.toNat k =
      b.localBus.range Programmer.bufferAddress.toNat k := by
  refine Memory.buffer_write_below _ k ?_
  rw [SpiCommand.length_encode]
  decide

private lemma buffer_finished (cmd : SpiCommand) :
    (b.finished cmd).stores.buffer = b.stores.buffer :=
  Memory.buffer_write_below _ _ (Nat.le_of_ble_eq_true rfl)

private lemma elsewhere_commanded (op : SpiOperation) :
    b.stores.SameElsewhere (b.commanded (.build page op)).stores :=
  .register _ (Nat.le_refl _) (by rw [SpiCommand.length_encode])

/-- A command that does not write to the chip works on register and buffer only. -/
lemma elsewhere_started {op : SpiOperation} (hop : op ≠ .write) (hs : b.Fits op) :
    b.stores.SameElsewhere (b.started op page).stores := by
  have htransferred (b : Board) (hs : b.Fits op) :
      b.stores.SameElsewhere (b.transferred op page).stores := by
    cases op with
    | read =>
      have hfits : b.pageSize ≤ 264 := hs.resolve_left (by decide)
      have hlen := (List.length_take_le b.pageSize (b.pages page).bytes).trans hfits
      exact .fill _ (Nat.le_refl _) (Nat.add_le_add_left hlen _)
    | write => exact absurd rfl hop
    | arbitrary =>
      rw [transferred]
      split
      · exact .fill _ (Nat.le_succ _) (Nat.le_of_ble_eq_true rfl)
      · exact .refl _
  refine ((elsewhere_commanded page b op).trans (htransferred _ hs)).trans ?_
  exact .register _ (Nat.le_of_ble_eq_true rfl) (Nat.le_of_ble_eq_true rfl)

/-- A transfer from the chip fills the start of the buffer with the page. -/
theorem start_read_ends :
    Ends
      (fun _ b' => b.stores.SameElsewhere b'.stores ∧ b.pageSize ≤ 264 ∧
        b'.stores.buffer =
          (b.pages page).bytes.take b.pageSize ++ b.stores.buffer.drop b.pageSize)
      (fun _ b' => b.stores.SameElsewhere b'.stores)
      (writeBus SpiCommand.address (SpiCommand.read page).encode b) := by
  by_cases hs : b.pageSize ≤ 264
  · have hlen : ((b.pages page).bytes.take b.pageSize).length = b.pageSize := by
      rw [List.length_take, (b.pages page).length_bytes]
      omega
    rw [SpiCommand.read, writeBus_start (.inr hs)]
    refine ⟨elsewhere_started page b (by decide) (.inr hs), hs, (buffer_finished _ _).trans ?_⟩
    have hw := Memory.range_write_start (b.commanded (.build page .read)).localBus
      (hlen.trans_le hs) (buffer_inside (Nat.le_refl _))
    rw [hlen, buffer_commanded] at hw
    exact hw
  · rw [SpiCommand.read, writeBus_start_oversized (by simpa [Fits] using hs)]
    exact elsewhere_commanded page b .read

/-- A transfer to the chip replaces the start of the page by that of the buffer. -/
theorem start_write_ends :
    Ends
      (fun _ b' => b'.stores.buffer = b.stores.buffer ∧
        b'.pages =
          (b.setPage page ((b.pages page).overwrite 0 (b.stores.buffer.take b.pageSize))).pages)
      (fun _ b' => b'.pages = b.pages)
      (writeBus SpiCommand.address (SpiCommand.write page).encode b) := by
  by_cases hs : b.pageSize ≤ 264
  · have htake : b.stores.buffer.take b.pageSize =
        b.localBus.range Programmer.bufferAddress.toNat b.pageSize :=
      Memory.take_range _ hs
    rw [SpiCommand.write, writeBus_start (.inr hs), htake,
      ← buffer_commanded b (.build page .write)]
    exact ⟨(buffer_finished _ _).trans (buffer_commanded _ _ _), rfl⟩
  · rw [SpiCommand.write, writeBus_start_oversized (by simpa [Fits] using hs)]
    exact rfl

/-- A transfer of the chip's status works on register and buffer only. -/
theorem start_status_ends (length : Nat) :
    Ends (fun _ b' => b.stores.SameElsewhere b'.stores)
      (fun _ b' => b.stores.SameElsewhere b'.stores)
      (writeBus SpiCommand.address (SpiCommand.arbitrary length).encode b) := by
  rw [SpiCommand.arbitrary, writeBus_start (.inl rfl)]
  exact elsewhere_started _ b (by decide) (.inl rfl)

end Stores

end Board

end MotorBoard
