/-
# The way through a collection

A collection finds out with a probe whether the board is there, reads two records, and brings
the offset on the board up to date.  These stages are gone through once, for any conditions
between them.  Only the last of them changes anything behind the mailbox.  So what is known of
the board in the beginning is known until then, and the records are read from a board of which
it is true.

The main results are

* `Device.gather_stages`, `Device.syncZeroOffset_stages`: the stages;
* `Device.probe_triple`: the probe leaves the board as it is;
* `Device.gather_triple`: what was read, and that the offset's turn decides the rest;
* `Device.collect_gathered`: a collection that nothing disturbs succeeds.
-/
import MotorBoard.Device.Collect
import MotorBoard.Proofs.Device.BringUp
import MotorBoard.Proofs.Mailbox.Sequence
import MotorBoard.Proofs.Mailbox.Undisturbed

namespace MotorBoard

open Call Board

namespace Board

/-- The first byte of a slave's memory is read without any effect.  A board that answers counts
itself. -/
lemma actAll_probe (station : UInt16) (b : Board) :
    ∃ us, actAll [.read .station station 0 1] b = (.ok us, b) ∧
      (b.Answers station → us.length = 1 ∧ Telegram.AllCount 1 us) := by
  have hread : read 0 1 b = (.ok (b.memory.load? 0 1), b) := rfl
  have hload : b.memory.load? 0 1 = some (b.memory.range 0 1) := if_pos (by decide)
  have hact : ∃ u, act (.read .station station 0 1) b = (.ok u, b) ∧
      (b.Answers station → u.workingCounter = 1) := by
    rw [act, bind_apply, get_apply]
    dsimp only
    split
    · show ∃ u, (read 0 1 >>= _) b = _ ∧ _
      rw [bind_ok hread, hload]
      exact ⟨_, rfl, fun _ => rfl⟩
    · next hnone =>
      refine ⟨_, rfl, fun ha => absurd ?_ hnone⟩
      rw [ha.1, isAddressed, ha.2]
      exact beq_self_eq_true station
  obtain ⟨u, hu, hcount⟩ := hact
  refine ⟨[u], ?_, fun ha => ⟨rfl, fun t ht => ?_⟩⟩
  · rw [actAll, bind_ok hu]
    rfl
  · rw [List.mem_singleton.1 ht]
    exact hcount ha

end Board

/-- A change under a lock does to the value what it does, or it counts that the lock could not
be had. -/
lemma Guarded.update_value {α β : Type} [CountsLockErrors α] {f : α → β × α} {R : α → α → Prop}
    (hf : ∀ a, R a (f a).2) (hlock : ∀ a, R a (countLockError a)) (g : Guarded α) :
    R g.value (g.update f).2.value := by
  rw [Guarded.update]
  split
  · exact hlock _
  · exact hf _

namespace Device

variable {σ : Type} {link : Link σ} {board : σ → Board} {b₀ : Board} {d : Device}
  {station : UInt16} {P : Device → Prop} {J : Stores → Prop}

/-! The stages of a collection, by what is known between two of them. -/

section Stages

variable {A S : Device × σ → Prop} {E : Stop → Device × σ → Prop}

/-- An offset that waits is written.  The store learns of it if the write is reported as done, and
if it is not, that is all. -/
theorem syncZeroOffset_stages {L : Except Error Collected → Device × σ → Prop}
    {W : Collected → Device × σ → Prop} {F : Collected → Stop → Device × σ → Prop}
    (hlook : Triple A (changeStore Guarded.snapshot) L E)
    (hhidden : ∀ e p, L (.error e) p → S p)
    (hnothing : ∀ c p, c.offsetPending = false → L (.ok c) p → S p)
    (hwrite : ∀ c, c.offsetPending = true →
      Triple (L (.ok c)) (writeAppRam link c.zeroOffset) (fun _ => W c) (F c))
    (hfailed : ∀ c e p, F c (.failed e) p → S p)
    (hstops : ∀ c e p, (∀ e', e ≠ .failed e') → F c e p → E e p)
    (hlearned : ∀ c p, W c p → S ({ p.1 with store := (p.1.store.update fun now =>
      ((), { now with cachedZeroOffset := c.zeroOffset })).2 }, p.2)) :
    Triple A (syncZeroOffset link) (fun _ => S) E := by
  refine hlook.bind fun r => ?_
  cases r with
  | error e => exact .pure _ (hhidden e)
  | ok c =>
    refine .ite (fun hpending => ?waiting) fun hnone => ?nothing
    case nothing => exact .pure _ fun p => hnothing c p (Bool.eq_false_iff.2 hnone)
    case waiting =>
      have hwritten := (hwrite c hpending).attempt_unfailed
      refine (hwritten.stop_mono fun e p hp => hstops c e p hp.1 hp.2).bind fun r => ?_
      cases r with
      | error e => exact .pure _ (hfailed c e)
      | ok u =>
        have hlearn : Triple (W c) (changeStore (Guarded.update fun now =>
            ((), { now with cachedZeroOffset := c.zeroOffset }))) (fun _ => S) E :=
          .update _ (hlearned c)
        exact hlearn.bind fun _ => .pure _ fun _ => id

/-- The records are read one after the other, and then the offset is brought up to date where there
is one.  `U` and `V` are what is known of the bytes of the records. -/
theorem gather_stages {U V : Bytes → Prop} (hprobe : Triple A (probe link) (fun _ => A) E)
    (hstatus : Triple A
      (overChannel link fun c => c.read SafetyStatus.address SafetyStatus.size)
      (fun raw p => U raw ∧ A p) E)
    (hinfo : Triple A
      (overChannel link fun c => c.read DiagnosticsInfo.address DiagnosticsInfo.size)
      (fun raw p => V raw ∧ A p) E)
    (hunstated : ∀ raw e, U raw → SafetyStatus.decode raw = .error e →
      ∀ p, A p → E (.failed e) p)
    (huninformed : ∀ raw e, V raw → DiagnosticsInfo.decode raw = .error e →
      ∀ p, A p → E (.failed e) p)
    (hsync : Triple (fun p => A p ∧ p.1.config.appRam = .present) (syncZeroOffset link)
      (fun _ => S) E)
    (hplain : ∀ p, A p → p.1.config.appRam ≠ .present → S p) :
    Triple A (gather link)
      (fun x p => ((∃ raw, U raw ∧ SafetyStatus.decode raw = .ok x.1) ∧
        ∃ raw, V raw ∧ DiagnosticsInfo.decode raw = .ok x.2) ∧ S p) E := by
  refine hprobe.bind fun _ => hstatus.bind fun raw => Triple.lift fun hU => ?_
  have hstated : Triple A (Call.ofExcept (SafetyStatus.decode raw))
      (fun status p => SafetyStatus.decode raw = .ok status ∧ A p) E :=
    .ofExcept (fun _ hx _ hp => ⟨hx, hp⟩) fun e he => hunstated raw e hU he
  refine hstated.bind fun status => Triple.lift fun hx => hinfo.bind fun raw' =>
    Triple.lift fun hV => ?_
  have hinformed : Triple A (Call.ofExcept (DiagnosticsInfo.decode raw'))
      (fun info p => DiagnosticsInfo.decode raw' = .ok info ∧ A p) E :=
    .ofExcept (fun _ hx _ hp => ⟨hx, hp⟩) fun e he => huninformed raw' e hV he
  refine hinformed.bind fun info => Triple.lift fun hy => Triple.get_bind fun p hp =>
    .ite (fun hram => ?synced) fun hram => ?plain
  case synced =>
    refine (hsync.pre ?_).bind fun _ => .pure _ ?_
    · rintro _ rfl
      exact ⟨hp, hram⟩
    · exact fun q hq => ⟨⟨⟨raw, hU, hx⟩, raw', hV, hy⟩, hq⟩
  case plain =>
    refine .pure _ ?_
    rintro _ rfl
    exact ⟨⟨⟨raw, hU, hx⟩, raw', hV, hy⟩, hplain _ hp hram⟩

end Stages

/-- A collection on its way: the device still is in `P`, and the board still meets `J`. -/
abbrev Reaching (board : σ → Board) (b₀ : Board) (station : UInt16) (P : Device → Prop)
    (J : Stores → Prop) (p : Device × σ) : Prop :=
  P p.1 ∧ b₀.Stage station J (board p.2)

/-- The frame of a probe changes nothing behind the mailbox. -/
lemma sendOnce_probe_triple (h : link.Carries board) (slave : UInt16) :
    Triple (fun s => b₀.Stage station J (board s)) (link.sendOnce [.read .station slave 0 1])
      (fun _ s => b₀.Stage station J (board s)) fun _ _ => False := by
  intro s hs
  have hreached : ∀ fs, fs.Sublist (board s).faults → b₀.Stage station J ((board s).reached fs) :=
    fun fs hsub => hs.of_same ⟨rfl, rfl⟩ (hs.1.reached hsub)
  have hboard : Exchange.Ends (fun _ b => b₀.Stage station J b) (fun _ b => b₀.Stage station J b)
      (fun _ => False) ((board s).exchange [.read .station slave 0 1]) := by
    refine Board.exchange_ends (fun fs hsub _ => hreached fs hsub) fun fs hsub => ?_
    obtain ⟨us, hus, -⟩ := actAll_probe slave ((board s).reached fs)
    rw [hus]
    exact ⟨hreached fs hsub, fun _ => ⟨hreached fs hsub, fun _ _ => hreached fs hsub⟩⟩
  have hx := h.exchange_ends hboard
  rw [Link.sendOnce]
  revert hx
  rcases link.exchange _ s with ⟨_ | _ | _, s'⟩ <;> exact id

/-- The probe leaves the board as it is. -/
theorem probe_triple (h : link.Carries board) :
    Triple (Reaching board b₀ station P J) (probe link) (fun _ => Reaching board b₀ station P J)
      fun e p => e ≠ .died ∧ Reaching board b₀ station P J p := by
  have hfail {α : Type} (e : Error) : Triple (Reaching board b₀ station P J) (Call.fail e)
      (fun _ : α => Reaching board b₀ station P J)
      fun e p => e ≠ .died ∧ Reaching board b₀ station P J p :=
    .fail_alive _ fun _ => id
  refine Triple.get_bind fun p hp => ?_
  have hsent : Triple (fun q => q = p)
      (Call.within .second (link.sendOnce [.read .station p.1.slave.station 0 1]))
      (fun _ => Reaching board b₀ station P J)
      fun e p => e ≠ .died ∧ Reaching board b₀ station P J p := by
    refine .within _ ?_
    rintro _ rfl
    refine (sendOnce_probe_triple h _).mono ?_ (fun _ _ hs => ⟨hp.1, hs⟩) fun _ _ => False.elim
    rintro _ rfl
    exact hp.2
  refine hsent.bind fun r => .ite (fun _ => ?lost) fun _ => .ite (fun _ => ?silent) fun _ => ?there
  case lost => exact hfail _
  case silent => exact hfail _
  case there => exact .pure _ fun _ => id

/-- Bringing the offset up to date looks into the store, and the store may learn of an offset. -/
lemma syncZeroOffset_keeps (hP : ∀ d m, P d → P { d with mailbox := m })
    (hlook : ∀ d, P d → P { d with store := d.store.snapshot.2 })
    (hlearn : ∀ d z, P d → P { d with store := (d.store.update fun now =>
      ((), { now with cachedZeroOffset := z })).2 }) : KeepsDevice P (syncZeroOffset link) := by
  have hwrite (z : Binary64) : KeepsDevice P (writeAppRam link z) := overChannel_keeps hP _
  have hsnapshot : KeepsDevice (σ := σ) P (changeStore Guarded.snapshot) :=
    .update fun p => hlook p.1
  exact syncZeroOffset_stages (W := fun _ p => P p.1) hsnapshot (fun _ _ => id) (fun _ _ _ => id)
    (fun c _ => hwrite c.zeroOffset) (fun _ _ _ hp => hp trivial) (fun _ _ _ _ => id)
    fun c p => hlearn p.1 c.zeroOffset

/-- Two records that are those of boards that meet `J`. -/
structure Gleaned (J : Stores → Prop) (x : SafetyStatus × DiagnosticsInfo) : Prop where
  status : ∃ st, J st ∧ SafetyStatus.decode
    (st.localBus.range SafetyStatus.address.toNat SafetyStatus.size) = .ok x.1
  info : ∃ st, J st ∧ DiagnosticsInfo.decode
    (st.localBus.range DiagnosticsInfo.address.toNat DiagnosticsInfo.size) = .ok x.2

section Gathering

variable (h : link.Carries board) (hmailbox : ∀ d m, P d → P { d with mailbox := m })
  (hchannel : ∀ d', P d' → d'.channel link = d.channel link)

include h hmailbox hchannel

/-- A record is read as a board shows it that meets `J`. -/
lemma read_reaching {address : UInt16} {length : Nat} (hin : address.toNat + length ≤ 0x10000)
    (hapart : covers address.toNat length SpiCommand.controlAddress.toNat = false) :
    Triple (Reaching board b₀ d.slave.station P J) (overChannel link fun c => c.read address length)
      (fun raw p => (∃ st, J st ∧ raw = st.localBus.range address.toNat length) ∧
        Reaching board b₀ d.slave.station P J p)
      fun e p => e ≠ .died ∧ Reaching board b₀ d.slave.station P J p := by
  have hread : Triple (fun t : Mailbox × σ => b₀.Stage d.slave.station J (board t.2))
      ((d.channel link).read address length) _ _ := (d.channel link).read_sequence_inside h hin
  refine (overChannel_triple hmailbox hchannel hread).mono (fun _ => id) ?_ ?_
  · rintro raw p ⟨hP, ha, hstage, hshows⟩
    exact ⟨⟨(board p.2).stores, hstage.2.1 ha, hshows.eq_range hapart⟩, hP, hstage⟩
  · exact fun e p hp => ⟨hp.2.1, hp.1, hp.2.2⟩

/-- What a collection reads, it reads from a board that meets `J`; what comes after that is
what bringing the offset up to date does. -/
theorem gather_triple {S : Device × σ → Prop} {E : Stop → Device × σ → Prop}
    (hsync : Triple (Reaching board b₀ d.slave.station P J) (syncZeroOffset link) (fun _ => S) E)
    (hS : ∀ p, Reaching board b₀ d.slave.station P J p → S p)
    (hE : ∀ e p, e ≠ .died → Reaching board b₀ d.slave.station P J p → E e p) :
    Triple (Reaching board b₀ d.slave.station P J) (gather link) (fun x p => Gleaned J x ∧ S p)
      E := by
  have hprobe : Triple (Reaching board b₀ d.slave.station P J) (probe link)
      (fun _ => Reaching board b₀ d.slave.station P J) E :=
    (probe_triple h).stop_mono fun e p hp => hE e p hp.1 hp.2
  have hread {address : UInt16} {length : Nat} (hin : address.toNat + length ≤ 0x10000)
      (hapart : covers address.toNat length SpiCommand.controlAddress.toNat = false) :
      Triple (Reaching board b₀ d.slave.station P J)
        (overChannel link fun c => c.read address length) _ E :=
    (read_reaching h hmailbox hchannel hin hapart).stop_mono fun e p hp => hE e p hp.1 hp.2
  have hrefused (e : Error) : ∀ p, Reaching board b₀ d.slave.station P J p → E (.failed e) p :=
    fun p => hE _ p (Stop.failed_ne_died e)
  refine (gather_stages hprobe (hread (by decide) (by decide)) (hread (by decide) (by decide))
    (fun _ e _ _ => hrefused e) (fun _ e _ _ => hrefused e) (hsync.pre fun _ hp => hp.1)
    fun p hp _ => hS p hp).post ?_
  rintro x p ⟨⟨⟨_, ⟨st, hst, rfl⟩, hstatus⟩, _, ⟨st', hst', rfl⟩, hinfo⟩, hp⟩
  exact ⟨⟨⟨st, hst, hstatus⟩, st', hst', hinfo⟩, hp⟩

end Gathering

section Undisturbed

/-- Between the calls of a collection that nothing disturbs. -/
abbrev Calm (link : Link σ) (board : σ → Board) (d : Device) (b₀ : Board) (p : Device × σ) :
    Prop :=
  SameOrigin d p.1 ∧ (d.channel link).Calm board b₀ (fun _ => True) (p.1.mailbox, p.2)

variable (h : link.Carries board)

include h

lemma probe_undisturbed : Triple (Calm link board d b₀) (probe link)
    (fun _ => Calm link board d b₀) fun _ _ => False := by
  refine Triple.get_bind fun p hp => ?_
  obtain ⟨hsame, hcalm⟩ := hp
  have hb : (board p.2).Undisturbed p.1.slave.station := hsame.slave ▸ hcalm.undisturbed
  obtain ⟨us, hact, hcount⟩ := actAll_probe p.1.slave.station
    ((board p.2).reached (board p.2).faults)
  obtain ⟨hlen, hcount⟩ := hcount hb.answers
  refine Triple.bind (Q := fun r q => r = ⟨true, us, 1⟩ ∧ Calm link board d b₀ q)
    (.within _ fun q hq => ?_) fun r => Triple.lift ?_
  · subst hq
    refine (h.sendOnce_spared (.of_none hb.faultless) hact).mono (fun _ => congrArg board) ?_
      fun _ _ => id
    rintro r s ⟨rfl, hs⟩
    have halike : (board q.2).Alike (board s) := hs ▸ { Alike.refl (board q.2) with }
    refine ⟨rfl, hsame, hcalm.lock, hcalm.alike.trans halike, ?_, trivial⟩
    exact hcalm.undisturbed.alike halike (hs ▸ hcalm.undisturbed.empty)
      (hs ▸ hcalm.undisturbed.faultless)
  · rintro rfl
    have hone := hcount.counter (i := 0) (by rw [hlen]; decide) true 1
    rw [if_neg (by simp), if_neg (by simp [hone])]
    exact .pure _ fun _ => id

/-- A driver and a board in order. -/
structure Collectable (d : Device) (b : Board) : Prop where
  lock : d.mailbox.lock ≠ .poisoned
  store : d.store.lock ≠ .poisoned
  patient : Channel.Patient d.config.mailbox
  state : d.slave.state.allowsMailbox = true
  undisturbed : b.Undisturbed d.slave.station

variable (hd : Collectable d b₀)

include hd

/-- A record is read in full. -/
lemma read_calm (address : UInt16) {length : Nat}
    (hlength : 1 ≤ length ∧ length ≤ Mailbox.maxReadLength)
    (hin : address.toNat + length ≤ 0x10000) :
    Triple (Calm link board d b₀) (overChannel link fun c => c.read address length)
      (fun raw p => raw.length = length ∧ Calm link board d b₀ p) fun _ _ => False := by
  have hread : Triple ((d.channel link).Calm board b₀ fun _ => True)
      ((d.channel link).read address length)
      (fun raw => (d.channel link).Calm board b₀ fun _ => raw.length = length) fun _ _ => False :=
    (d.channel link).read_undisturbed h hd.patient hd.state hlength hin
      fun i _ => i.length_shown _ _
  refine (overChannel_triple (SameOrigin.aloof d).mailbox (fun _ hsame => hsame.channel link)
    hread).mono (fun _ => id) ?_ fun _ _ hp => hp.2
  exact fun raw p hp => ⟨hp.2.interior, hp.1, hp.2.mono fun _ _ => trivial⟩

/-- Both records are read.  What is true in the end is what bringing the offset up to date
makes true, where there is an offset to bring up to date. -/
lemma gather_calm {S : Device × σ → Prop}
    (hsync : d.config.appRam = .present →
      Triple (Calm link board d b₀) (syncZeroOffset link) (fun _ => S) fun _ _ => False)
    (hplain : d.config.appRam ≠ .present → ∀ p, Calm link board d b₀ p → S p) :
    Triple (Calm link board d b₀) (gather link) (fun _ => S) fun _ _ => False := by
  have hstatus : Triple _ (overChannel link fun c => c.read _ SafetyStatus.size) _ _ :=
    read_calm h hd SafetyStatus.address (by decide) (by decide)
  have hinfo : Triple _ (overChannel link fun c => c.read _ DiagnosticsInfo.size) _ _ :=
    read_calm h hd DiagnosticsInfo.address (by decide) (by decide)
  refine (gather_stages (probe_undisturbed h) hstatus hinfo (fun raw e hraw he => ?stated)
    (fun raw e hraw he => ?informed) ?synced fun p hp hram => ?plain).post fun _ _ hp => hp.2
  case stated =>
    rw [SafetyStatus.decode, requireLength_of_le hraw.ge] at he
    cases he
  case informed =>
    rw [DiagnosticsInfo.decode, requireLength_of_le hraw.ge] at he
    cases he
  case synced =>
    rintro p ⟨hp, hram⟩
    exact hsync (hp.1.config ▸ hram) p hp
  case plain => exact hplain (hp.1.config ▸ hram) p hp

omit h hd in
/-- What was gathered is taken in where nobody has poisoned the lock. -/
lemma conclude_ok (x : SafetyStatus × DiagnosticsInfo) {g : CollectedStore}
    (hg : g.lock ≠ .poisoned) : (conclude (.ok x) g).1 = .ok () := by
  rw [conclude, Guarded.update_unpoisoned hg]
  rfl

omit h hd in
/-- A collection succeeds if what it reads is gathered and the store can be had then.  In the
end the store has taken in what was gathered. -/
theorem collect_gathered {S : Device × σ → Prop}
    (hgather : Triple (Calm link board d b₀) (gather link) (fun _ => S) fun _ _ => False)
    (hfree : ∀ p, S p → p.1.store.lock ≠ .poisoned) {s : σ} (hs : Calm link board d b₀ (d, s)) :
    ∃ p x, S p ∧
      collect link (d, s) =
        (.ok (), { p.1 with store := (conclude (.ok x) p.1.store).2 }, p.2) := by
  obtain ⟨x, p, hcall, hS⟩ := hgather.exists_result hs
  refine ⟨p, x, hS, ?_⟩
  have hattempt : Call.attempt (gather link) (d, s) = (.ok (.ok x), p) := by
    rw [Call.attempt, hcall]
  have hconclude : changeStore (conclude (.ok x)) p =
      (.ok (.ok ()), { p.1 with store := (conclude (.ok x) p.1.store).2 }, p.2) := by
    rw [← conclude_ok x (hfree p hS)]
    rfl
  rw [collect, bind_ok hattempt, bind_ok hconclude]
  rfl

/-- A collection that nothing disturbs succeeds where there is no offset to bring up to date. -/
lemma collect_succeeds (hram : d.config.appRam ≠ .present) {s : σ} (hs : board s = b₀) :
    ∃ d' s', collect link (d, s) = (.ok (), d', s') := by
  have hgather := gather_calm h hd (S := Calm link board d b₀) (absurd · hram) fun _ _ => id
  obtain ⟨p, x, -, hcall⟩ := collect_gathered hgather (fun p hp => hp.1.store ▸ hd.store)
    ⟨.refl d, hd.lock, hs ▸ .refl _, hs ▸ hd.undisturbed, trivial⟩
  exact ⟨_, _, hcall⟩

end Undisturbed

end Device

end MotorBoard
