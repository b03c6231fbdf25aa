/-
# What the commands of a mailbox do

The board takes a command that stands in its mailbox for what it is: a read shows the range
that was asked for, and a write stores its payload there.  Both leave everything else that
the board stores alone.  A range that reaches behind the local bus kills the board before
anything is stored, and a board that holds its commands only keeps them.

A read that covers the control byte of the transfer engine may show the engine busy, so the
bytes shown are those of the local bus up to this one bit.  The main results are

* `Board.accept_read`: a read posts what it shows, sealed, perhaps with a bit turned over;
* `Board.accept_write`: a write is executed with its payload;
* `Board.writeBus_plain`: apart from the transfer engine that is a plain store.
-/
import MotorBoard.Proofs.Board.Conduct
import MotorBoard.Proofs.Board.Ranges
import MotorBoard.Proofs.Mailbox.Header

namespace MotorBoard

/-- What a board stores. -/
structure Stores where
  localBus : Memory 0x10000
  /-- The pages of the memory chip. -/
  pages : UInt16 → Image 264

namespace Board

open Call

/-- The bytes that a read of a range shows.  The byte that controls the transfer engine may
carry the busy bit. -/
structure Shows (bus : Memory 0x10000) (address length : Nat) (data : Bytes) : Prop where
  inside : address + length ≤ 0x10000
  size : data.length = length
  bytes : ∀ i, i < length →
    data.byteAt i = bus.get (address + i) ∨
      address + i = SpiCommand.controlAddress.toNat ∧
        data.byteAt i = bus.get (address + i) ||| SpiCommand.busyBit

/-- Where the control byte is not covered, a read shows the range itself. -/
lemma Shows.eq_range {bus : Memory 0x10000} {address length : Nat} {data : Bytes}
    (h : Shows bus address length data)
    (hc : covers address length SpiCommand.controlAddress.toNat = false) :
    data = bus.range address length := by
  obtain ⟨-, rfl, hb⟩ := h
  refine (Memory.eq_range_iff _ _ _).2 fun i hi => ?_
  obtain h | ⟨hi', -⟩ := hb i hi
  · exact h
  · rw [← hi'] at hc
    simp only [covers, Bool.and_eq_false_iff, decide_eq_false_iff_not] at hc
    omega

/-- Two boards with the same local bus and the same pages. -/
def SameStores (b b' : Board) : Prop := b'.localBus = b.localBus ∧ b'.pages = b.pages

/-- What a board stores: its local bus and the pages of its chip. -/
def stores (b : Board) : Stores := ⟨b.localBus, b.pages⟩

lemma sameStores_iff {b b' : Board} : SameStores b b' ↔ b'.stores = b.stores := by
  rw [SameStores, stores, stores, Stores.mk.injEq]

/-- A read shows the range.  Reading it may bring the end of a transfer nearer. -/
lemma readBus_ends (address : UInt16) (length : Nat) (b : Board) :
    Ends
      (fun data b' =>
        Shows b.localBus address.toNat length data ∧ ∃ n, b' = { b with spiBusy := n })
      (fun _ b' => b' = b ∧ 0x10000 < address.toNat + length) (readBus address length b) := by
  by_cases hin : address.toNat + length ≤ 0x10000
  · have hbyte : ∀ i, i < length →
        (b.localBus.range address.toNat length).byteAt i = b.localBus.get (address.toNat + i) :=
      fun _ hi => b.localBus.byteAt_range _ hi
    simp only [readBus, loadBus, bind_apply, get_apply, Memory.load?, if_pos hin, orDie, pure_apply,
      if_apply]
    split
    · next hc =>
      refine ⟨⟨hin, by simp, fun i hi => ?_⟩, _, rfl⟩
      rw [Bytes.byteAt_modify (by simpa using hi), hbyte i hi]
      split
      · next hci =>
        simp only [covers, Bool.and_eq_true, decide_eq_true_eq] at hc
        exact .inr ⟨by omega, rfl⟩
      · exact .inl rfl
    · exact ⟨⟨hin, Memory.length_range .., fun i hi => .inl (hbyte i hi)⟩, b.spiBusy, rfl⟩
  · simp only [readBus, loadBus, bind_apply, get_apply, Memory.load?, if_neg hin, orDie, stop_apply]
    exact ⟨rfl, by omega⟩

lemma accept_held {b : Board} (hold : b.holdCommands = true) :
    accept b = (.ok (), { b with commandFull := true }) := by
  simp only [accept, bind_apply, modify_apply, get_apply, hold, if_true]
  rfl

/-- A board that does not hold the command executes it, and its mailbox is empty again. -/
lemma accept_executed {b : Board} {h : CommandHeader} (hold : b.holdCommands = false)
    (hf : h.Fits)
    (hm : b.memory.range Mailbox.commandAddress.toNat Mailbox.headerSize = h.encode) :
    accept b =
      (executeHeader h >>= fun _ => modify fun b => { b with commandFull := false })
        { b with commandFull := true } := by
  simp only [accept, bind_apply, modify_apply, get_apply, hold, Bool.false_eq_true, if_false,
    execute, hm, CommandHeader.decode_encode hf]

/-- Posting a result that fits. -/
lemma post_eq {b : Board} {result : Bytes}
    (hn : Mailbox.resultAddress.toNat + result.length ≤ 0x3000) :
    post result b =
      (.ok (), { b with
        memory := b.memory.write Mailbox.resultAddress.toNat result
        resultFull := true }) := by
  simp only [post, bind_apply, get_apply, Memory.store?, if_pos hn, orDie, pure_apply, set_apply]

/-- Answering with a result that fits.  Corrupted or not, it has the same length. -/
lemma answer_eq {b : Board} {result : Bytes}
    (hn : Mailbox.resultAddress.toNat + result.length ≤ 0x3000) :
    answer result b =
      (.ok (), { b with
        lastResult := result
        corruptNext := false
        memory := b.memory.write Mailbox.resultAddress.toNat
          (if b.corruptNext then corrupted result else result)
        resultFull := true }) := by
  have hn' : Mailbox.resultAddress.toNat +
      (if b.corruptNext then corrupted result else result).length ≤ 0x3000 := by
    split <;> simpa [corrupted] using hn
  exact post_eq (b := { b with lastResult := result, corruptNext := false }) hn'

/-- What the execution of a read leaves behind. -/
structure HasRead (h : CommandHeader) (b b' : Board) : Prop where
  stores : SameStores b b'
  full : b'.resultFull = true
  posted : ∃ data, Shows b.localBus h.address.toNat h.length data ∧
    b'.lastResult = Checksum.sealed data ∧
    b'.memory.range Mailbox.resultAddress.toNat (h.length + 1) =
      if b.corruptNext then corrupted (Checksum.sealed data) else Checksum.sealed data

lemma executeHeader_read {b : Board} {h : CommandHeader} (hd : h.direction = .read)
    (hl : h.length ≤ Mailbox.maxReadLength) :
    Ends (fun _ b' => HasRead h b b')
      (fun _ b' => SameStores b b' ∧ 0x10000 < h.address.toNat + h.length)
      (executeHeader h b) := by
  have hx : executeHeader h b =
      (readBus h.address h.length >>= fun data => answer (Checksum.sealed data))
        { b with commands := b.commands + 1 } := by
    simp only [executeHeader, bind_apply, modify_apply, get_apply, hd]
  have hr := readBus_ends h.address h.length { b with commands := b.commands + 1 }
  rw [hx, bind_apply]
  revert hr
  rcases readBus h.address h.length { b with commands := b.commands + 1 } with ⟨e | data, b'⟩
  · rintro ⟨rfl, hout⟩
    exact ⟨⟨rfl, rfl⟩, hout⟩
  · rintro ⟨hshows, n, rfl⟩
    -- corrupted or not, the result has the same length and fits into its mailbox
    have hlen : ∀ c : Bool,
        (if c then corrupted (Checksum.sealed data) else Checksum.sealed data).length =
          h.length + 1 := by
      intro c
      cases c <;> simp [corrupted, hshows.size]
    have hfits : ∀ c : Bool, Mailbox.resultAddress.toNat +
        (if c then corrupted (Checksum.sealed data) else Checksum.sealed data).length ≤ 0x3000 := by
      intro c
      have h₁ : Mailbox.resultAddress.toNat = 0x2400 := rfl
      have h₂ : Mailbox.maxReadLength = 510 := rfl
      rw [hlen c]
      omega
    simp only [answer, bind_apply, get_apply, set_apply, post_eq (hfits b.corruptNext)]
    refine ⟨⟨rfl, rfl⟩, rfl, data, hshows, rfl, ?_⟩
    have hw := Memory.range_write_self b.memory _ _ (hfits b.corruptNext)
    rwa [hlen] at hw

/-- A board that does not hold a read posts what it shows, and it dies if the range reaches
behind its local bus. -/
theorem accept_read {b : Board} {h : CommandHeader} (hold : b.holdCommands = false)
    (hf : h.Fits) (hd : h.direction = .read) (hl : h.length ≤ Mailbox.maxReadLength)
    (hm : b.memory.range Mailbox.commandAddress.toNat Mailbox.headerSize = h.encode) :
    Ends (fun _ b' => HasRead h b b' ∧ b'.commandFull = false)
      (fun _ b' => SameStores b b' ∧ 0x10000 < h.address.toNat + h.length) (accept b) := by
  have hx := executeHeader_read (b := { b with commandFull := true }) hd hl
  rw [accept_executed hold hf hm, bind_apply]
  revert hx
  rcases executeHeader h { b with commandFull := true } with ⟨e | _, b'⟩
  · exact id
  · rintro ⟨hs, hfull, hposted⟩
    exact ⟨⟨hs, hfull, hposted⟩, rfl⟩

/-- A write whose payload stands in the mailbox behind its header is executed. -/
lemma executeHeader_write {b : Board} {h : CommandHeader} {data : Bytes}
    (hd : h.direction = .write) (hl : h.length = data.length)
    (hp : b.memory.range (Mailbox.commandAddress.toNat + Mailbox.headerSize) (data.length + 1) =
      Checksum.sealed data) :
    executeHeader h b = writeBus h.address data { b with commands := b.commands + 1 } := by
  have hpayload : payload { b with commands := b.commands + 1 } h = Checksum.sealed data := by
    rw [payload, hl]
    exact hp
  simp only [executeHeader, bind_apply, modify_apply, get_apply, hd, hpayload,
    Checksum.verifies_sealed, if_true]
  rw [Checksum.sealed, hl, List.take_left]

/-- A board that does not hold a write executes it with the very data that were sent. -/
theorem accept_write {b : Board} {h : CommandHeader} {data : Bytes}
    (hold : b.holdCommands = false) (hf : h.Fits) (hd : h.direction = .write)
    (hl : h.length = data.length)
    (hm : b.memory.range Mailbox.commandAddress.toNat (h.encode ++ Checksum.sealed data).length =
      h.encode ++ Checksum.sealed data) :
    accept b =
      (writeBus h.address data >>= fun _ => modify fun b => { b with commandFull := false })
        { b with commandFull := true, commands := b.commands + 1 } := by
  have hlen : (h.encode ++ Checksum.sealed data).length =
      Mailbox.headerSize + (data.length + 1) := by simp
  rw [hlen] at hm
  have hheader : b.memory.range Mailbox.commandAddress.toNat Mailbox.headerSize = h.encode := by
    rw [Memory.range_of_prefix _ hm (Nat.le_add_right ..)]
    exact List.take_left' (CommandHeader.length_encode h)
  -- the checksum of the payload is right, for the mailbox holds what was sent
  have hpayload : b.memory.range (Mailbox.commandAddress.toNat + Mailbox.headerSize)
      (data.length + 1) = Checksum.sealed data := by
    rw [← Memory.drop_range, hm]
    exact List.drop_left' (CommandHeader.length_encode h)
  rw [accept_executed hold hf hheader, bind_apply,
    executeHeader_write (b := { b with commandFull := true }) hd hl hpayload, bind_apply]

/-- Storing bytes inside the local bus. -/
lemma storeBus_eq {b : Board} {start : Nat} {data : Bytes} (h : start + data.length ≤ 0x10000) :
    storeBus start data b = (.ok (), { b with localBus := b.localBus.write start data }) := by
  simp only [storeBus, bind_apply, get_apply, Memory.store?, if_pos h, orDie, pure_apply, set_apply]

/-- Loading bytes from inside the local bus. -/
lemma loadBus_eq {b : Board} {start length : Nat} (h : start + length ≤ 0x10000) :
    loadBus start length b = (.ok (b.localBus.range start length), b) := by
  simp only [loadBus, bind_apply, get_apply, Memory.load?, if_pos h, orDie, pure_apply]

/-- Storing bytes on the local bus. -/
lemma storeBus_ends (start : Nat) (data : Bytes) (b : Board) :
    Ends
      (fun _ b' => start + data.length ≤ 0x10000 ∧
        b' = { b with localBus := b.localBus.write start data })
      (fun _ b' => b' = b ∧ 0x10000 < start + data.length) (storeBus start data b) := by
  by_cases hin : start + data.length ≤ 0x10000
  · rw [storeBus_eq hin]
    exact ⟨hin, rfl⟩
  · simp only [storeBus, bind_apply, get_apply, Memory.store?, if_neg hin, orDie, stop_apply]
    exact ⟨rfl, by omega⟩

/-- A write apart from the control byte of the transfer engine is a plain store. -/
theorem writeBus_plain {address : UInt16} {data : Bytes}
    (hc : covers address.toNat data.length SpiCommand.controlAddress.toNat = false) (b : Board) :
    writeBus address data b = storeBus address.toNat data b := by
  rw [writeBus, bind_apply]
  simp only [hc]
  rcases storeBus address.toNat data b with ⟨e | _, b'⟩ <;> rfl

end Board

end MotorBoard
