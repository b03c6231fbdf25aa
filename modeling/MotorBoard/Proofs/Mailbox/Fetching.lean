/-
# Fetching a result

The board takes a result for consumed as soon as its last byte has been read, so a frame
that brings the result and gets lost has taken it away.  The bytes are not gone, though: the
lost frame leaves them with the sender, and the board keeps a copy which it posts again when
it is asked to.

Through all of this one thing stays true: whatever stands in the mailbox while it is full,
and whatever the frame carries while it is empty, is a posting of the last result.  That is
the condition under which a fetch is sound.  It is also complete, because a try that does
not bring the result has cost a fault, and there are more tries than faults.

The main results are

* `Channel.repeat_triple`: asking for the last result once more;
* `Channel.fetchFrom_triple`: fetching, with the tries that are left.
-/
import MotorBoard.Proofs.Board.Commands
import MotorBoard.Proofs.Mailbox.Transfers

namespace MotorBoard

open Call Board

namespace Board

/-- What is known of the results that a board has to give away: each is in `G`, and has `n`
bytes. -/
structure Posted (b₀ : Board) (G : Bytes → Prop) (n : Nat) (b : Board) : Prop where
  stores : SameStores b₀ b
  last : G b.lastResult
  memory : b.resultFull = true → G (b.memory.range Mailbox.resultAddress.toNat n)

variable {b₀ b : Board} {G : Bytes → Prop} {n : Nat}

lemma SameStores.trans {b' : Board} (h : SameStores b₀ b) (h' : SameStores b b') :
    SameStores b₀ b' :=
  ⟨h'.1.trans h.1, h'.2.trans h.2⟩

/-- What is known of the results may be told from the beginning. -/
lemma Posted.trans {b' : Board} (h : SameStores b₀ b) (h' : Posted b G n b') :
    Posted b₀ G n b' :=
  ⟨h.trans h'.stores, h'.last, h'.memory⟩

lemma Posted.blind : Blind (Posted b₀ G n) := fun _ _ h => ⟨h.stores, h.last, h.memory⟩

/-- Taking the request bit in.  A board that repeats its results has one afterwards. -/
lemma setRequest_ends (hG : ∀ x, G x → x.length = n) (hn : n ≤ Mailbox.size)
    (h : Posted b₀ G n b) (request : Bool) :
    Ends
      (fun _ b' => Posted b₀ G n b' ∧ b'.repeatRequest = request ∧
        ((b.repeatRequest = request → b.resultFull = true) → b.supportsRepeat = true →
          b'.resultFull = true))
      (fun _ _ => False) (setRequest request b) := by
  have hlast : b.lastResult.length = n := hG _ h.last
  have hfits : Mailbox.resultAddress.toNat + b.lastResult.length ≤ 0x3000 := by
    have h₁ : Mailbox.resultAddress.toNat = 0x2400 := rfl
    have h₂ : Mailbox.size = 512 := rfl
    omega
  simp only [setRequest, bind_apply, get_apply, if_apply]
  split
  · next hr => exact ⟨h, hr.symm, fun hfull _ => hfull hr.symm⟩
  · simp only [set_apply]
    split
    · rw [post_eq hfits]
      have hw := Memory.range_write_self b.memory _ _ hfits
      rw [hlast] at hw
      exact ⟨⟨h.stores, h.last, fun _ => hw.symm ▸ h.last⟩, rfl, fun _ _ => rfl⟩
    · next hs => exact ⟨⟨h.stores, h.last, h.memory⟩, rfl, fun _ hs' => absurd hs' hs⟩

end Board

namespace Channel

variable {σ : Type} {c : Channel σ} {board : σ → Board} {b₀ : Board} {G : Bytes → Prop} {n : Nat}

/-- The losses to come are fewer than any stage of a call can take. -/
structure Outlasts (c : Channel σ) (b : Board) : Prop where
  losses : b.OnlyLosses
  clear : b.faults.length < c.limits.clearAttempts
  write : b.faults.length < c.limits.writeAttempts
  tries : b.faults.length < c.limits.readTries
  dropped : b.faults.length < c.limits.maxDropped
  plain : b.faults.length < Link.plainAttempts

lemma Outlasts.light (h : c.Outlasts b₀) : b₀.Light Link.plainAttempts := ⟨h.losses, h.plain⟩

/-- A change of what the mailbox remembers, next to the ring. -/
lemma count_triple {P : σ → Prop} {E : Stop → MailboxState × σ → Prop}
    (f : MailboxState → MailboxState) :
    Triple (fun s : MailboxState × σ => P s.2) (Call.within .first (Call.modify f))
      (fun _ s => P s.2) E :=
  .within _ fun _ hs => .modify _ fun _ _ => hs

section Repeat

variable (h : c.link.Carries board) (ha : b₀.Answers c.slave.station)
  (hG : ∀ x, G x → x.length = n) (hn : n ≤ Mailbox.size)

/-- The condition for a request that was turned over: a board in order has posted its last
result again. -/
def Requested (b₀ : Board) (G : Bytes → Prop) (n : Nat) (request : Bool) (b : Board) : Prop :=
  Posted b₀ G n b ∧ (b.repeatRequest = request → b₀.Settled → b.resultFull = true)

/-- The condition for a request that was answered. -/
def Repeated (b₀ : Board) (G : Bytes → Prop) (n : Nat) (b : Board) : Prop :=
  Posted b₀ G n b ∧ (b₀.Settled → b.resultFull = true)

include h ha hG hn

lemma writeRequest_triple {request : Bool} {byte : UInt8}
    (hbyte : (byte &&& SyncManager.requestBit != 0) = request) :
    Triple (fun s => b₀.Meets (Requested b₀ G n request) (board s))
      (c.link.writeMemory .station c.slave.station
        (SyncManager.activateAddress Mailbox.resultManager) [byte])
      (fun _ s => b₀.Meets (Repeated b₀ G n) (board s))
      fun e s => e ≠ .died ∧ b₀.Meets (Posted b₀ G n) (board s) ∧
        ¬ b₀.Light Link.plainAttempts := by
  -- a lost request may have turned the bit over already, and turning it over again does nothing
  have hsend := h.send_triple b₀ [.write .station c.slave.station
      (SyncManager.activateAddress Mailbox.resultManager) [byte]]
    (I := fun _ ts b => Requested b₀ G n request b ∧ Telegram.AllCount 0 ts)
    (A := fun _ us b => Repeated b₀ G n b ∧ Telegram.AllCount 1 us)
    (D := fun _ => False)
    (fun _ _ _ _ hI => ⟨⟨Posted.blind _ _ hI.1.1, hI.1.2⟩, hI.2⟩)
    (fun _ _ _ hI => ⟨hI.1, .rewound _⟩)
    (by
      rintro _ ts hsame b ⟨hb, ⟨hP, hfull⟩, hc⟩
      have hset := setRequest_ends hG hn hP request
      rw [actAll_activate hsame (hb.answers_iff.2 ha), hbyte, bind_apply]
      revert hset
      rcases setRequest request b with ⟨e | _, b'⟩
      · exact id
      · rintro ⟨hP', -, hfull'⟩
        have hR : b₀.Settled → b'.resultFull = true := fun hs =>
          hfull' (fun hr => hfull hr hs) (hb.supportsRepeat.trans hs.repeats)
        exact ⟨⟨⟨hP', hR⟩, hc.succ (by simp [Telegram.acted])⟩, ⟨hP', fun _ => hR⟩, .rewound _⟩)
    b₀.faults.length Link.plainAttempts 0 [.write .station c.slave.station
      (SyncManager.activateAddress Mailbox.resultManager) [byte]]
  have hinsist (access : String) :
      Triple (fun s => b₀.Meets (Requested b₀ G n request) (board s))
        (c.link.insist (.write .station c.slave.station
          (SyncManager.activateAddress Mailbox.resultManager) [byte]) access)
        (fun _ s => b₀.Meets (Repeated b₀ G n) (board s))
        fun e s => e ≠ .died ∧ b₀.Meets (Posted b₀ G n) (board s) ∧
          ¬ b₀.Light Link.plainAttempts := by
    refine (hsend.pre fun s hs => ?_).stop_mono (fun _ _ he => he.2.elim) |>.bind fun d s hs => ?_
    · exact ⟨hs.1, hs.1.faults.length_le, .refl _, hs.2,
        by simp [Telegram.AllCount, Telegram.write]⟩
    · cases hs with
      | lost hu =>
        exact ⟨Stop.failed_ne_died _, ⟨hu.follows, hu.holds.1.1⟩, hu.not_light⟩
      | @returned k ts _ _ hans =>
        obtain ⟨us, ⟨hR, hcount⟩, -, hloss⟩ := hans.reply
        have hlen : ts.length = 1 := (List.Forall₂.length_eq hans.same).symm
        show Ends _ _ ((if Delivery.counter ⟨true, ts, k + 1⟩ 0 = 1 then pure _
          else if Delivery.counter ⟨true, ts, k + 1⟩ 0 = 0 then Call.fail _
          else Call.fail _ : Call σ Bytes) s)
        by_cases hc : Delivery.counter ⟨true, ts, k + 1⟩ 0 = 1
        · rw [if_pos hc]
          exact ⟨hans.follows, hR⟩
        · -- the board counts itself once, so another counter was forged
          have hfail : ¬ b₀.Light Link.plainAttempts := by
            intro hl
            obtain rfl := hloss hl.losses
            exact hc (hcount.counter (by omega) _ _)
          rw [if_neg hc]
          split <;> exact ⟨Stop.failed_ne_died _, ⟨hans.follows, hR.1⟩, hfail⟩
  exact (hinsist _).bind fun _ => .pure _ fun _ => id

omit hG hn in
/-- Polling for the answer to a request.  A board in order has answered already. -/
lemma pollRepeat_triple (before : Bool) (start : Nat) (k : Nat) :
    Triple
      (fun s => b₀.Meets (Repeated b₀ G n) (board s) ∧
        (k = 0 → ¬ (b₀.Settled ∧ b₀.Light Link.plainAttempts)))
      (c.pollRepeat before start k)
      (fun _ s => b₀.Meets (fun b => Posted b₀ G n b ∧ b.resultFull = true) (board s))
      fun e s => e ≠ .died ∧ b₀.Meets (Posted b₀ G n) (board s) ∧
        ¬ (b₀.Settled ∧ b₀.Light Link.plainAttempts) := by
  have hblind : Blind (Repeated b₀ G n) := fun _ _ hR => ⟨Posted.blind _ _ hR.1, hR.2⟩
  induction k with
  | zero => exact .stop _ fun s hs => ⟨Stop.stalled_ne_died, ⟨hs.1.1, hs.1.2.1⟩, hs.2 rfl⟩
  | succ k ih =>
    have hlook := SyncManager.read_triple h hblind b₀ c.slave isManager_result
    refine ((hlook.pre fun s hs => hs.1).stop_mono ?_).bind fun sm => ?_
    · rintro e s ⟨he, hs, hl⟩
      exact ⟨he, ⟨hs.1, hs.2.1⟩, fun hgood => hl ⟨ha, hgood.2⟩⟩
    · refine Triple.pre (P := fun s => b₀.Meets (Repeated b₀ G n) (board s) ∧
        sm = (board s).resultManager) ?_ fun s hs => ⟨hs.1, hs.2 ha rfl⟩
      refine .ite (fun hack => .ite (fun _ => ?_) fun hempty => ?_) fun hack => ?_
      · refine .pure _ ?_
        rintro s ⟨hs, rfl⟩
        exact ⟨hs.1, hs.2.1, by rwa [resultManager_mailboxFull] at *⟩
      · refine .fail _ ?_
        rintro s ⟨hs, rfl⟩
        refine ⟨Stop.failed_ne_died _, ⟨hs.1, hs.2.1⟩, fun hgood => hempty ?_⟩
        rw [resultManager_mailboxFull]
        exact hs.2.2 hgood.1
      · -- a board in order has made the two bits equal
        refine Triple.pre (P := fun s => b₀.Meets (Repeated b₀ G n) (board s) ∧
          ¬ (b₀.Settled ∧ b₀.Light Link.plainAttempts)) ?_ ?_
        · refine .ite (fun _ => .fail_alive _ fun s hs => ⟨⟨hs.1.1, hs.1.2.1⟩, hs.2⟩) fun _ => ?_
          refine now_triple.bind fun now =>
            .ite (fun _ => .fail_alive _ fun s hs => ⟨⟨hs.1.1, hs.1.2.1⟩, hs.2⟩) fun _ => ?_
          exact (pause_triple h (P := fun b => b₀.Meets (Repeated b₀ G n) b ∧
            ¬ (b₀.Settled ∧ b₀.Light Link.plainAttempts))).bind fun _ =>
              ih.pre fun s hs => ⟨hs.1, fun _ => hs.2⟩
        · rintro s ⟨hs, rfl⟩
          refine ⟨hs, fun hgood => hack ?_⟩
          rw [resultManager_repeatRequest, resultManager_repeatAck]
          exact (hs.1.settled hgood.1).acknowledged.symm

/-- Asking for the last result once more.  When that ends well, the mailbox is full. -/
theorem repeat_triple :
    Triple (fun s => b₀.Meets (Posted b₀ G n) (board s)) c.repeatRequest
      (fun _ s => b₀.Meets (fun b => Posted b₀ G n b ∧ b.resultFull = true) (board s))
      fun e s => e ≠ .died ∧ b₀.Meets (Posted b₀ G n) (board s) ∧
        ¬ (b₀.Settled ∧ b₀.Light Link.plainAttempts) := by
  have hblind : Blind (Posted b₀ G n) := Posted.blind
  have hlook := SyncManager.read_triple h hblind b₀ c.slave isManager_result
  refine (hlook.stop_mono ?_).bind fun sm => ?_
  · rintro e s ⟨he, hs, hl⟩
    exact ⟨he, hs, fun hgood => hl ⟨ha, hgood.2⟩⟩
  · refine Triple.pre (P := fun s => b₀.Meets (Posted b₀ G n) (board s) ∧
      sm = (board s).resultManager) ?_ fun s hs => ⟨hs.1, hs.2 ha rfl⟩
    refine .ite (fun hne => .fail _ ?_) fun _ => ?_
    · rintro s ⟨hs, rfl⟩
      refine ⟨Stop.failed_ne_died _, hs, fun hgood => hne ?_⟩
      rw [resultManager_repeatRequest, resultManager_repeatAck]
      exact (hs.1.settled hgood.1).acknowledged.symm
    · rintro s ⟨hs, rfl⟩
      have hwrite := writeRequest_triple h ha hG hn (resultManager_toggleRequest (board s))
      refine ((hwrite.stop_mono ?_).bind fun _ => now_triple.bind fun start => Triple.bind
        (Q := fun k s => b₀.Meets (Repeated b₀ G n) (board s) ∧ k ≠ 0) ?_ fun k => ?_) s ?_
      · rintro e s ⟨he, hs, hl⟩
        exact ⟨he, hs, fun hgood => hl hgood.2⟩
      · exact fun s hs => ⟨hs, pollLimit_pos _ _⟩
      · exact (pollRepeat_triple h ha _ start k).pre fun s hs => ⟨hs.1, fun h0 => absurd h0 hs.2⟩
      · refine ⟨hs.1, hs.2, fun hr => ?_⟩
        cases hq : (board s).repeatRequest <;> simp [hq] at hr

lemma countedRepeat_triple :
    Triple (fun s : MailboxState × σ => b₀.Meets (Posted b₀ G n) (board s.2)) c.countedRepeat
      (fun _ s => b₀.Meets (fun b => Posted b₀ G n b ∧ b.resultFull = true) (board s.2))
      fun e s => e ≠ .died ∧ b₀.Meets (Posted b₀ G n) (board s.2) ∧
        ¬ (b₀.Settled ∧ b₀.Light Link.plainAttempts) := by
  refine ((repeat_triple h ha hG hn).second.attempt).bind fun r => ?_
  cases r with
  | ok u =>
    exact (count_triple (P := fun s =>
      b₀.Meets (fun b => Posted b₀ G n b ∧ b.resultFull = true) (board s)) _).bind
        fun _ => .pure _ fun _ => id
  | error e =>
    exact (count_triple (P := fun s => Stop.failed e ≠ .died ∧ b₀.Meets (Posted b₀ G n) (board s) ∧
      ¬ (b₀.Settled ∧ b₀.Light Link.plainAttempts)) _).bind fun _ => .fail _ fun _ => id

end Repeat

/-! Fetching. -/

lemma resultFrame_takes (c : Channel σ) (hn : n < Mailbox.size) :
    TakesResult c.slave.station n (c.resultFrame n) := by
  rw [resultFrame]
  split
  · exact .split hn
  · exact .whole (Nat.le_of_lt hn)

lemma length_resultFrame (c : Channel σ) (n : Nat) :
    (c.resultFrame n).length = if c.splits n then 2 else 1 := by
  rw [resultFrame]
  split <;> rfl

lemma allCount_resultFrame (c : Channel σ) (n : Nat) :
    Telegram.AllCount 0 (c.resultFrame n) := by
  rw [resultFrame]
  split <;> simp [Telegram.AllCount, Telegram.read]

/-- What is known after a frame was sent that should bring a result, when there were `m`
faults before. -/
structure Brought (c : Channel σ) (b₀ : Board) (G : Bytes → Prop) (n m : Nat) (d : Delivery)
    (b : Board) : Prop where
  meets : b₀.Meets (Posted b₀ G n) b
  same : SameFrame (c.resultFrame n) d.telegrams
  faults : b.faults.length + d.dropped ≤ m
  data : d.counter 0 = 1 → G (d.data.take n)
  /-- Where there are only losses, and not too many, the counters are those of the board. -/
  counters : b₀.Settled ∧ c.Outlasts b₀ →
    (c.splits n → d.counter 0 = d.counter 1) ∧ (d.counter 0 = 0 ∨ d.counter 0 = 1) ∧
      (d.dropped = 0 → d.counter 0 = 1)

/-- A frame whose counters are zero as far as they are looked at can be sent again. -/
lemma Brought.allCount {c : Channel σ} {m : Nat} {d : Delivery} {b : Board}
    (hd : c.Brought b₀ G n m d b) (h₀ : d.counter 0 = 0)
    (h₁ : c.splits n → d.counter 0 = d.counter 1) : Telegram.AllCount 0 d.telegrams := by
  have hlen := (List.Forall₂.length_eq hd.same).symm.trans (length_resultFrame c n)
  intro t ht
  obtain ⟨i, hi, rfl⟩ := List.getElem_of_mem ht
  have hcounter : d.counter i = d.telegrams[i].workingCounter := by
    rw [Delivery.counter, List.getElem?_eq_getElem hi]
    rfl
  rw [← hcounter]
  cases hs : c.splits n with
  | true =>
    rw [hlen, hs, if_pos rfl] at hi
    obtain rfl | rfl : i = 0 ∨ i = 1 := by omega
    · exact h₀
    · rw [← h₁ hs, h₀]
  | false =>
    rw [hlen, hs, if_neg (by decide)] at hi
    obtain rfl : i = 0 := by omega
    exact h₀

/-- Giving up after a look around. -/
lemma diagnosed_triple {α : Type} {Q : α → MailboxState × σ → Prop}
    (h : c.link.Carries board) (hbad : ¬ (b₀.Settled ∧ c.Outlasts b₀)) (e : Error) :
    Triple (fun s : MailboxState × σ => b₀.Meets (Posted b₀ G n) (board s.2))
      (Call.within .second c.diagnose >>= fun _ => Call.fail e) Q
      fun e s => e ≠ .died ∧ b₀.Meets (Posted b₀ G n) (board s.2) ∧
        ¬ (b₀.Settled ∧ c.Outlasts b₀) := by
  have hlook := diagnose_triple (E := fun e s => e ≠ .died ∧ b₀.Meets (Posted b₀ G n) (board s) ∧
    ¬ (b₀.Settled ∧ c.Outlasts b₀)) h Posted.blind fun _ _ he hs => ⟨he, hs, hbad⟩
  exact hlook.second.bind fun _ => .fail _ fun s hs => ⟨Stop.failed_ne_died _, hs, hbad⟩

/-- A frame on its way to bring a result, lost `j` times so far.  If the mailbox is empty, a
lost frame has taken the result away, and the frame carries it. -/
structure Bringing (b₀ : Board) (G : Bytes → Prop) (n j : Nat) (ts : List Telegram) (b : Board) :
    Prop where
  posted : Posted b₀ G n b
  uncounted : Telegram.AllCount 0 ts
  carried : b.resultFull = false → G ((firstData ts).take n)
  first : j = 0 → b.resultFull = true

lemma Bringing.reached {j : Nat} {ts : List Telegram} {b : Board} {fs : List (Trigger × Fault)}
    (hI : Bringing b₀ G n j ts b) : Bringing b₀ G n j ts (b.reached fs) :=
  ⟨Posted.blind _ _ hI.posted, hI.uncounted, hI.carried, hI.first⟩

lemma Bringing.rewound {j : Nat} {ts : List Telegram} {b : Board}
    (hI : Bringing b₀ G n j ts b) : Bringing b₀ G n (j + 1) (ts.map Telegram.rewound) b where
  posted := hI.posted
  uncounted := .rewound _
  carried he := (firstData_map_withCounter 0 ts).symm ▸ hI.carried he
  first h0 := absurd h0 (Nat.succ_ne_zero _)

/-- A frame that brings a result, as the board has left it.  The board has counted itself
unless a lost frame had taken the result away. -/
structure Bringer (b₀ : Board) (G : Bytes → Prop) (n j : Nat) (us : List Telegram) (b : Board) :
    Prop where
  posted : Posted b₀ G n b
  data : G ((firstData us).take n)
  counted : ∃ w, Telegram.AllCount w us ∧ (w = 0 ∨ w = 1) ∧ (j = 0 → w = 1)

section Fetch

variable (h : c.link.Carries board) (ha : b₀.Answers c.slave.station)
  (hG : ∀ x, G x → x.length = n) (hn : n < Mailbox.size)

include ha hn

/-- What the board makes of a frame that should bring the result. -/
lemma actAll_bring_triple {ts : List Telegram} (hsame : SameFrame (c.resultFrame n) ts)
    (j : Nat) :
    Triple (fun b => b₀.Follows b ∧ Bringing b₀ G n j ts b) (actAll ts)
      (fun us b => Bringer b₀ G n j us b ∧ Bringing b₀ G n (j + 1) (us.map Telegram.rewound) b)
      fun _ _ => False := by
  have htakes := c.resultFrame_takes hn
  rintro b ⟨hb, hP, hc, hcarried, hfirst⟩
  have hba : b.Answers c.slave.station := hb.answers_iff.2 ha
  have hlater {p : Prop} : j + 1 = 0 → p := fun h0 => absurd h0 (Nat.succ_ne_zero _)
  cases hfull : b.resultFull with
  | true =>
    obtain ⟨us, hus, hdata, hcount⟩ := actAll_takes htakes hsame hba hfull
    have hG : G ((firstData us).take n) := hdata ▸ hP.memory hfull
    have hP' : Posted b₀ G n { b with resultFull := false } :=
      ⟨hP.stores, hP.last, fun h => absurd h Bool.false_ne_true⟩
    rw [hus]
    refine ⟨⟨hP', hG, 1, hcount 0 hc, .inr rfl, fun _ => rfl⟩, hP', .rewound _, fun _ => ?_, hlater⟩
    exact (firstData_map_withCounter 0 us).symm ▸ hG
  | false =>
    -- a lost frame has taken the result away and carries it
    rw [actAll_takes_empty htakes hsame hba hfull]
    refine ⟨⟨hP, hcarried hfull, 0, hc, .inl rfl, fun h0 => ?_⟩, hP, .rewound _, fun _ => ?_,
      hlater⟩
    · exact absurd (hfirst h0) (by simp [hfull])
    · exact (firstData_map_withCounter 0 ts).symm ▸ hcarried hfull

include h

/-- Sending the frame that should bring the result of a full mailbox. -/
lemma bring_triple {frame : List Telegram} (hsame : SameFrame (c.resultFrame n) frame)
    (hzero : Telegram.AllCount 0 frame) (m : Nat) (hm : m ≤ b₀.faults.length) :
    Triple
      (fun s => b₀.Meets (fun b => Posted b₀ G n b ∧ b.resultFull = true) (board s) ∧
        (board s).faults.length ≤ m)
      (c.link.send frame c.limits.maxDropped) (fun d s => c.Brought b₀ G n m d (board s))
      fun _ _ => False := by
  have hsend := h.send_triple b₀ (c.resultFrame n) (I := Bringing b₀ G n) (A := Bringer b₀ G n)
    (D := fun _ => False) (fun _ _ _ _ hI => hI.reached) (fun _ _ _ hI => hI.rewound)
    (fun j _ hsame => actAll_bring_triple ha hn hsame j) m c.limits.maxDropped 0 frame
  refine (hsend.mono (fun s hs => ?_) (fun d s hs => ?_) fun _ _ he => he.2)
  · exact ⟨hs.1.1, hs.2, hsame, hs.1.2.1, hzero,
      fun he => absurd hs.1.2.2 (by simp [he]), fun _ => hs.1.2.2⟩
  · have hpos : 0 < (c.resultFrame n).length := by
      rw [length_resultFrame]
      split <;> decide
    cases hs with
    | @lost ts _ hu =>
      -- a frame that never came back has zero counters
      have hlen : 0 < ts.length := List.Forall₂.length_eq hu.same ▸ hpos
      have hf := hu.faults
      refine ⟨⟨hu.follows, hu.holds.posted⟩, hu.same, by simpa [Delivery.dropped] using hf,
        fun h1 => ?_, fun hgood => ?_⟩
      · rw [hu.holds.uncounted.counter hlen] at h1
        exact absurd h1 (by decide)
      · have hd := hgood.2.dropped
        omega
    | @returned k ts _ _ hans =>
      obtain ⟨us, ⟨hP, hdata, w, hw, hw01, hfirst⟩, hus, hloss⟩ := hans.reply
      have hf := hans.faults
      refine ⟨⟨hans.follows, hP⟩, hans.same, by simpa [Delivery.dropped] using hf, fun _ => ?_,
        fun hgood => ?_⟩
      · show G ((firstData ts).take n)
        rwa [hus]
      · obtain rfl := hloss hgood.2.losses
        have hframe := (List.Forall₂.length_eq hans.same).symm.trans (length_resultFrame c n)
        obtain ⟨h0, h1⟩ := hw.counters hframe true (k + 1)
        refine ⟨fun hs => h0.trans (h1 hs).symm, h0 ▸ hw01, fun hd => h0 ▸ hfirst ?_⟩
        rw [Nat.zero_add]
        exact hd

include hG in
/-- Asking once more for a result that was lost on its way.  The losses are not to come
again. -/
lemma repeat_brought_triple (d : Delivery) (m : Nat) :
    Triple (fun t : MailboxState × σ => c.Brought b₀ G n m d (board t.2)) c.countedRepeat
      (fun _ t => b₀.Meets (fun b => Posted b₀ G n b ∧ b.resultFull = true) (board t.2) ∧
        (board t.2).faults.length + d.dropped ≤ m)
      fun e t => e ≠ .died ∧ b₀.Meets (Posted b₀ G n) (board t.2) ∧
        ¬ (b₀.Settled ∧ c.Outlasts b₀) := by
  refine Triple.of_eq fun t ht => ?_
  obtain ⟨hfollows, hP⟩ := ht.meets
  -- the repetition starts from the board as it is now
  have hrepeat := countedRepeat_triple (G := G) h (hfollows.answers_iff.2 ha) hG
    (Nat.le_of_lt hn)
  refine hrepeat.mono ?_ ?_ ?_
  · rintro _ rfl
    exact ⟨.refl _, ⟨rfl, rfl⟩, hP.last, hP.memory⟩
  · rintro _ t' ⟨hfollows', hP', hfull⟩
    have hfaults := ht.faults
    have hfewer := hfollows'.faults.length_le
    exact ⟨⟨hfollows.trans hfollows', hP'.trans hP.stores, hfull⟩, by omega⟩
  · rintro e t' ⟨he, ⟨hfollows', hP'⟩, hbad⟩
    refine ⟨he, ⟨hfollows.trans hfollows', hP'.trans hP.stores⟩, fun hgood => hbad ?_⟩
    exact ⟨hfollows.settled hgood.1, hfollows.onlyLosses hgood.2.losses,
      Nat.lt_of_le_of_lt hfollows.faults.length_le hgood.2.plain⟩

include hG in
/-- Fetching a result, with the tries that are left.  When every try that fails has cost a
fault, there are more tries than faults. -/
theorem fetchFrom_triple (tries : Nat) {frame : List Telegram} (dropped : Nat)
    (hsame : SameFrame (c.resultFrame n) frame) (hzero : Telegram.AllCount 0 frame) :
    Triple
      (fun s : MailboxState × σ =>
        b₀.Meets (fun b => Posted b₀ G n b ∧ b.resultFull = true) (board s.2) ∧
          (b₀.Settled ∧ c.Outlasts b₀ → (board s.2).faults.length < tries))
      (c.fetchFrom n tries frame dropped)
      (fun data s => b₀.Meets (Posted b₀ G n) (board s.2) ∧ G data)
      fun e s => e ≠ .died ∧ b₀.Meets (Posted b₀ G n) (board s.2) ∧
        ¬ (b₀.Settled ∧ c.Outlasts b₀) := by
  induction tries generalizing frame dropped with
  | zero =>
    -- no tries are left, so there were as many faults
    refine Triple.pre (P := fun s => ¬ (b₀.Settled ∧ c.Outlasts b₀) ∧
      b₀.Meets (Posted b₀ G n) (board s.2)) (Triple.lift fun hbad => ?_) fun s hs => ?_
    · exact diagnosed_triple h hbad _
    · exact ⟨fun hgood => Nat.not_lt_zero _ (hs.2 hgood), hs.1.1, hs.1.2.1⟩
  | succ tries ih =>
    refine Triple.of_eq fun s hs => ?_
    have hbring := bring_triple (G := G) h ha hn hsame hzero (board s.2).faults.length
      hs.1.1.faults.length_le
    refine (hbring.second.pre fun t ht => ?_).unfailing.bind fun d => ?_
    · subst ht
      exact ⟨hs.1, Nat.le_refl _⟩
    · refine .ite (fun hne => .fail_alive _ fun t ht => ⟨ht.meets, fun hgood => ?_⟩) fun heq => ?_
      · -- the two counters of a split frame differ
        exact hne.2 ((ht.counters hgood).1 hne.1)
      refine .ite (fun h0 => .ite (fun hd => ?_) fun hd => ?_) fun h0 =>
        .ite (fun h1 => ?_) fun h1 => ?_
      · -- nothing was lost, so a board in order has been there
        refine .fail_alive _ fun t ht => ⟨ht.meets, fun hgood => ?_⟩
        have h1 := (ht.counters hgood).2.2 hd
        rw [h0] at h1
        exact absurd h1 (by decide)
      · -- the result was lost on its way and is asked for once more
        refine Triple.of_eq fun t ht => ?_
        have hzero' := ht.allCount h0 fun hs => by
          by_contra hne
          exact heq ⟨hs, hne⟩
        have hrepeat := repeat_brought_triple h ha hG hn d (board s.2).faults.length
        refine (hrepeat.pre ?_).bind fun _ => (ih _ ht.same hzero').pre ?_
        · rintro _ rfl
          exact ht
        · rintro t' ⟨hfull, hfaults⟩
          refine ⟨hfull, fun hgood => ?_⟩
          have hfew := hs.2 hgood
          omega
      · exact .pure _ fun t ht => ⟨ht.meets, ht.data h1⟩
      · -- a counter that no board could have made
        refine Triple.pre (P := fun s => ¬ (b₀.Settled ∧ c.Outlasts b₀) ∧
          b₀.Meets (Posted b₀ G n) (board s.2)) (Triple.lift fun hbad => ?_) fun t ht => ?_
        · exact diagnosed_triple h hbad _
        · exact ⟨fun hgood => (ht.counters hgood).2.1.elim h0 h1, ht.meets⟩

end Fetch

end Channel

end MotorBoard
