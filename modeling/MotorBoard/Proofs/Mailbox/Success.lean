/-
# What a read that ends well shows

A read ends well only if each of its stages does, so it shows something about each of them.
The limits let every frame be sent at least once, and the bus state has mailboxes.  Where no
fault is to come the board shows more of itself: it has taken the command, so its mailbox was
empty; it has posted a result, so it does not hold its commands; and the result verifies, so
it was not corrupted.  Then the board is undisturbed, and all that follows is known exactly.

The main results are

* `Channel.readHeld_needs`: the limits and the lock that a read needs, on any link;
* `Channel.read_needs_undisturbed`: the board that it needs where no fault is to come.
-/
import MotorBoard.Proofs.Mailbox.Undisturbed

namespace MotorBoard

open Call Board

namespace Call

variable {σ τ α β : Type} {P : σ → Prop} {m : Call σ α} {q r : Prop}

/-- A call that starts from `P` ends well only under a condition. -/
def Needs (P : σ → Prop) (m : Call σ α) (q : Prop) : Prop :=
  Triple P m (fun _ _ => q) fun _ _ => True

lemma Triple.trivial : Triple P m (fun _ _ => True) fun _ _ => True := by
  intro s _
  rcases m s with ⟨e | a, s'⟩ <;> exact True.intro

/-- A condition that is all that is known of the state. -/
lemma Triple.when {p : Prop} {Q : α → σ → Prop} {E : Stop → σ → Prop}
    (h : p → Triple (fun _ => True) m Q E) : Triple (fun _ => p) m Q E :=
  fun s hs => h hs s True.intro

namespace Needs

lemma of_not (h : ¬ q → Needs P m False) : Needs P m q := by
  by_cases hq : q
  · exact Triple.trivial.post fun _ _ _ => hq
  · exact (h hq).post fun _ _ => False.elim

lemma fail (e : Error) : Needs P (Call.fail e : Call σ α) q :=
  Triple.fail e fun _ _ => True.intro

lemma and (h : Needs P m q) (h' : Needs P m r) : Needs P m (q ∧ r) :=
  (Triple.and h h').mono (fun _ hs => ⟨hs, hs⟩) (fun _ _ => id) fun _ _ _ => True.intro

/-- What the first of two calls needs. -/
lemma first {f : α → Call σ β} (h : Needs P m q) : Needs P (m >>= f) q :=
  Triple.bind h fun _ => .when fun hq => Triple.trivial.post fun _ _ _ => hq

/-- What the second of two calls needs, whatever the first one does. -/
lemma last {f : α → Call σ β} (h : ∀ a, Needs (fun _ => True) (f a) q) : Needs P (m >>= f) q :=
  Triple.bind Triple.trivial h

lemma second {m : Call τ α} (h : Needs (fun _ => True) m q) :
    Needs (fun _ : σ × τ => True) (Call.within .second m) q :=
  Triple.second (P := fun _ => True) (Q := fun _ _ => q) (E := fun _ _ => True) h

end Needs

end Call

namespace Channel

variable {σ : Type} {c : Channel σ}

/-! What the limits must allow. -/

section Limits

/-- A frame that is never sent does not come back. -/
lemma send_never (link : Link σ) (frame : List Telegram) :
    Triple (fun _ => True) (link.send frame 0) (fun d _ => d = ⟨false, frame, 0⟩)
      fun _ _ => True :=
  .pure _ fun _ _ => rfl

lemma clear_needs : Needs (fun _ => True) c.clear (c.limits.clearAttempts ≠ 0) :=
  .of_not fun h => by
    rw [clear, not_not.1 h]
    refine (send_never _ _).bind fun d => .when ?_
    rintro rfl
    rw [if_pos (by rfl)]
    exact Needs.last fun _ => Needs.fail _

lemma put_needs (command : Bytes) :
    Needs (fun _ => True) (c.put command) (c.limits.writeAttempts ≠ 0) :=
  .of_not fun h => by
    rw [put, not_not.1 h]
    refine (send_never _ _).bind fun d => .when ?_
    rintro rfl
    rw [if_pos (by rfl)]
    exact Needs.last fun _ => Needs.fail _

lemma fetch_needs (n : Nat) :
    Needs (fun _ => True) (c.fetch n) (c.limits.readTries ≠ 0 ∧ c.limits.maxDropped ≠ 0) :=
  .of_not fun h => by
    rw [fetch]
    cases htries : c.limits.readTries with
    | zero => exact Needs.last fun _ => Needs.fail _
    | succ tries =>
      have hdropped : c.limits.maxDropped = 0 := by
        by_contra hne
        exact h ⟨by rw [htries]; exact Nat.succ_ne_zero _, hne⟩
      -- the telegrams are as they were built, so no board has counted itself
      have hpos : 0 < (c.resultFrame n).length := by
        rw [length_resultFrame]
        split <;> decide
      have h₀ := (c.allCount_resultFrame n).counter hpos false 0
      rw [fetchFrom, hdropped]
      refine (send_never c.link _).second.bind fun d => .when ?_
      rintro rfl
      refine .ite (fun _ => Needs.fail _) fun _ => ?_
      rw [if_pos h₀, if_pos (by rfl)]
      exact Needs.fail _

lemma nextCommand_needs (build : UInt8 → Except Error MailboxCommand) :
    Needs (fun _ => True) (c.nextCommand build) (c.slave.state.allowsMailbox = true) :=
  Needs.first (Needs.second (Triple.ite (fun hm => .pure _ fun _ _ => hm) fun _ => Needs.fail _))

/-- A read needs a bus state with mailboxes, and limits that let it send its frames. -/
theorem readHeld_needs (address : UInt16) (length : Nat) :
    Needs (fun _ => True) (c.readHeld address length)
      (c.slave.state.allowsMailbox = true ∧ Patient c.limits) := by
  have hrequest (command : Bytes) : Needs (fun _ => True)
      (do
        c.clear
        c.put command
        c.await Mailbox.resultManager true)
      (c.limits.clearAttempts ≠ 0 ∧ c.limits.writeAttempts ≠ 0) :=
    Triple.bind clear_needs fun _ => .when fun hclear =>
      Triple.bind (put_needs _) fun _ => .when fun hput =>
        Triple.trivial.post fun _ _ _ => ⟨hclear, hput⟩
  refine Triple.bind (nextCommand_needs _) fun command => .when fun hm =>
    Triple.bind (Needs.second (hrequest _)) fun _ => .when fun hframes =>
      Triple.bind (fetch_needs _) fun _ => .when fun hfetch => ?_
  exact Triple.trivial.post fun _ _ _ => ⟨hm, hframes.1, hfetch.1, hfetch.2, hframes.2⟩

end Limits

/-! What the board must be like. -/

section Faultless

variable {board : σ → Board} {b : Board} (h : c.link.Carries board)
  (ha : b.Answers c.slave.station) (hf : b.faults = [])

include h ha hf

/-- A full mailbox refuses a command, and where no fault is to come nothing excuses that. -/
lemma put_needs_empty {command : Bytes} (hlen : command.length ≤ Mailbox.size) :
    Needs (fun s => board s = b) (c.put command) (b.commandFull = false) :=
  .of_not fun hne => by
    have hfull : b.commandFull = true := by simpa using hne
    have hact := actAll_puts_full (b := b.reached []) (c.commandFrame_puts hlen) (.refl _) ha hfull
    by_cases hw : c.limits.writeAttempts = 0
    · exact ((put_needs command).mono (fun _ _ => trivial) (fun _ _ hq => hq hw) fun _ _ => id)
    · refine ((h.send_undisturbed hf hact hw).stop_mono fun _ _ _ => trivial).bind fun d =>
        Triple.lift ?_
      rintro rfl
      obtain ⟨h₀, -⟩ := (c.allCount_commandFrame command).counters
        (length_commandFrame c command) true 1
      rw [if_neg (by simp)]
      refine .ite (fun _ => Needs.fail _) fun _ => ?_
      rw [if_neg (by simp [h₀]), if_pos h₀, if_pos (Nat.le_refl 1)]
      exact Needs.last fun _ => Needs.fail _

/-- The result that a board which executes its commands has posted. -/
def Answering (b : Board) (length : Nat) (b' : Board) : Prop :=
  b'.resultFull = true → b.holdCommands = false ∧ ∃ data,
    b'.memory.range Mailbox.resultAddress.toNat (length + 1) =
      if b.corruptNext then corrupted (Checksum.sealed data) else Checksum.sealed data

/-- The first three stages of a read need a board that takes commands and executes them. -/
lemma request_needs (hl : Patient c.limits) {address : UInt16} {length : Nat}
    (hlength : 1 ≤ length ∧ length ≤ Mailbox.maxReadLength)
    (hin : address.toNat + length ≤ 0x10000) (sequence : UInt8) :
    Triple (fun s => board s = b)
      (do
        c.clear
        c.put (CommandHeader.encode ⟨address, length, sequence &&& 7, .read⟩)
        c.await Mailbox.resultManager true)
      (fun _ s => b.commandFull = false ∧ b.Meets (Answering b length) (board s) ∧
        (board s).resultFull = true)
      fun _ _ => True := by
  have hfits : CommandHeader.Fits ⟨address, length, sequence &&& 7, .read⟩ :=
    CommandHeader.fits_of_le_limit hlength
  have hlen : (CommandHeader.encode ⟨address, length, sequence &&& 7, .read⟩).length =
      Mailbox.headerSize := CommandHeader.length_encode _
  have hsize : (CommandHeader.encode ⟨address, length, sequence &&& 7, .read⟩).length ≤
      Mailbox.size := hlen.trans_le (by decide)
  refine (Triple.mono (P := fun s => b.Meets (fun b' => b'.commandFull = b.commandFull ∧
    b'.corruptNext = b.corruptNext) (board s)) (clear_triple h (fun _ _ => id) fun _ => id) ?_
      (fun _ _ => id) fun _ _ _ => trivial).bind fun _ => Triple.of_eq fun s hs => ?_
  · rintro s rfl
    exact ⟨.refl _, rfl, rfl⟩
  obtain ⟨hfollows, ⟨hsame, hcorrupt⟩, hgone⟩ := hs
  have ha₁ : (board s).Answers c.slave.station := hfollows.answers_iff.2 ha
  have hf₁ : (board s).faults = [] := List.sublist_nil.1 (hf ▸ hfollows.faults)
  cases hfull : (board s).commandFull with
  | true =>
    have hnever := (put_needs_empty h ha₁ hf₁ hsize).first
      (f := fun _ => c.await Mailbox.resultManager true)
    refine hnever.mono (fun _ => congrArg board) (fun _ _ hq => ?_) fun _ _ => id
    exact absurd hfull (by simp [hq])
  | false =>
    have hput := put_undisturbed h hl ha₁ hfull hf₁ hsize (K := Answering b length)
      fun m hm => ?_
    · refine ((hput.mono (fun _ => congrArg board) (fun _ s' hs' => ?_) fun _ _ _ =>
        trivial).bind fun _ => Triple.mono (P := fun s => b.Meets (Answering b length) (board s))
          (await_triple h (fun _ _ => id) isManager_result true) (fun _ => id) ?_
            fun _ _ _ => trivial)
      · exact ⟨hfollows.trans hs'.1, hs'.2⟩
      · rintro _ s' ⟨hmeets, hfound, -⟩
        exact ⟨hsame.symm.trans hfull, hmeets, hfound ha⟩
    · cases hold : b.holdCommands with
      | true =>
        -- a command that is held leaves the mailbox of results empty
        rw [accept_held (b := { (board s).reached [] with memory := m })
          (hfollows.holdCommands.trans hold)]
        exact fun hposted => absurd hposted (by simp [Board.reached, hgone ha])
      | false =>
        rw [hlen] at hm
        refine (accept_read (b := { (board s).reached [] with memory := m })
          (hfollows.holdCommands.trans hold) hfits rfl hlength.2 hm).imp ?_ ?_
        · rintro _ b' ⟨hread, -⟩ -
          obtain ⟨data, -, -, hmem⟩ := hread.posted
          exact ⟨hold, data, hcorrupt ▸ hmem⟩
        · rintro _ _ ⟨-, hout⟩
          exact Nat.not_lt.2 hin hout

end Faultless

section Undisturbed

variable {board : σ → Board} {b : Board} (h : c.link.Carries board) (hf : b.faults = [])
  {address : UInt16} {length : Nat}

include h hf

lemma readHeld_needs_undisturbed (hin : address.toNat + length ≤ 0x10000) :
    Needs (fun s : MailboxState × σ => board s.2 = b) (c.readHeld address length)
      (b.Undisturbed c.slave.station) := by
  have hanswers : Needs (fun s : MailboxState × σ => board s.2 = b) (c.readHeld address length)
      (b.Answers c.slave.station) := by
    refine (readHeld_triple h b address length).mono ?_ (fun _ _ hs => hs.1.1) fun _ _ _ => trivial
    rintro s rfl
    exact ⟨.refl _, rfl, rfl⟩
  by_cases hgood : b.Answers c.slave.station ∧ Patient c.limits
  · obtain ⟨ha, hl⟩ := hgood
    refine ((nextCommand_triple (P := fun s => board s = b) _).stop_mono fun _ _ _ =>
      trivial).bind fun command => Triple.lift ?_
    rintro ⟨sequence, hbuild⟩
    obtain ⟨hlength, rfl⟩ := read_ok hbuild
    refine (request_needs h ha hf hl hlength hin sequence).second.bind fun _ =>
      Triple.lift fun hempty => Triple.of_eq fun s hs => ?_
    obtain ⟨⟨hfollows, hanswering⟩, hfull⟩ := hs
    obtain ⟨hold, data, hmem⟩ := hanswering hfull
    have hfetch := fetch_undisturbed h hl (hfollows.answers_iff.2 ha)
      (List.sublist_nil.1 (hf ▸ hfollows.faults)) (Mailbox.length_result_lt hlength.2) hfull
    refine (hfetch.pre fun t ht => by rw [ht]).unfailing.bind fun result => Triple.lift ?_
    rintro rfl
    refine .ite (fun hv => .pure _ fun _ _ => ⟨ha, hold, hempty, ?_, hf⟩) fun _ => Needs.fail _
    -- a result that was corrupted does not verify
    rw [hmem] at hv
    by_contra hc
    rw [if_pos (by simpa using hc), not_verifies_corrupted] at hv
    cases hv
  · refine (hanswers.and ((readHeld_needs address length).pre fun _ _ => trivial)).post ?_
    exact fun _ _ hq => absurd ⟨hq.1, hq.2.2⟩ hgood

/-- What a read that ends well shows, where no fault is to come. -/
theorem read_needs_undisturbed (hin : address.toNat + length ≤ 0x10000) {m : Mailbox} {s : σ}
    (hs : board s = b) :
    Needs (fun t => t = (m, s)) (c.read address length)
      (m.lock ≠ .poisoned ∧ c.slave.state.allowsMailbox = true ∧ Patient c.limits ∧
        b.Undisturbed c.slave.station) := by
  rintro _ rfl
  by_cases hm : m.lock = .poisoned
  · rw [read, Guarded.locked_poisoned hm]
    trivial
  · have hlimits : Needs (fun s : MailboxState × σ => board s.2 = b) (c.readHeld address length)
        (c.slave.state.allowsMailbox = true ∧ Patient c.limits) :=
      (readHeld_needs address length).pre fun _ _ => trivial
    have hheld := hlimits.and (readHeld_needs_undisturbed h hf hin)
    refine (Guarded.unpoisoned_triple (P := fun s => board s = b) (Q := fun _ _ => _)
      (E := fun _ _ => True) (hheld.onFailure fun _ _ _ => trivial) (m, s) ⟨hm, hs⟩).imp ?_
        fun _ _ => id
    exact fun _ _ hq => ⟨hm, hq.1.1, hq.1.2, hq.2⟩

end Undisturbed

end Channel

end MotorBoard
