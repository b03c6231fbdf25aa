/-
# How a reset of the board's logic is inferred

A report raises the flag of a reset when the clock of the board has jumped and the bridge was
switched off because of the operation of the board.  Commands clear the flag, and frames look at
it: while it is set each of them fails.  So the flag tells what the reports since the last clear
have seen, in whatever order the calls of driver, collectors and monitors come.

A report takes copies of what is behind the locks and gives the locks back.  Nothing but the flag
remembers that it was made, as long as no lock is poisoned: asked for again it is the same, and
a driver from which it was asked answers every later call as one whose flag alone was changed.

The main results are

* `Device.Step.infersReset_eq`, `Device.Run.flag_eq`: the flag after a step, and after a run;
* `Device.publish_again`: a report that is made twice;
* `Device.Order.carryOut_alike`: calls that cannot tell a held lock from a free one;
* `Device.Run.reset_inferred`: all of it along every run.
-/
import MotorBoard.Proofs.Call.Agreement
import MotorBoard.Proofs.Cycle.Sticky
import MotorBoard.Proofs.Device.Interlock

namespace MotorBoard

open Call

namespace Device

/-! The flag. -/

/-- Whether an event is a report that infers a reset: the clock has jumped by then, and in the
copy that is reported the bridge went off because of the operation of the board. -/
def Event.infersReset : Event → Bool
  | published report =>
    report.cycle.timestampJumpDetected &&
      Mode.has report.collected.status.held SafetyCause.operational
  | _ => false

section Calls

variable {μ : Type} {models : Models μ} {d d' : Device}

/-- A status frame leaves the flag of a reset as it is, and it fails while the flag is set. -/
lemma unpack_reset {this prev : Bytes} {w w' : μ} {fault : Option CycleFault}
    (h : d.unpack models this prev w = (fault, d', w')) :
    d'.cycle.flags.fpgaInternalResetDetected = d.cycle.flags.fpgaInternalResetDetected ∧
      (d.cycle.flags.fpgaInternalResetDetected = true → fault.isSome = true) := by
  obtain ⟨status, prevStatus, _, _, _, _, -, hv, -⟩ | ⟨-, rfl, rfl⟩ := unpack_cases h
  · rw [← noted_flags status prevStatus d]
    exact ⟨CycleMachine.verify_reset hv, CycleMachine.verify_flagged hv⟩
  · exact ⟨rfl, fun _ => rfl⟩

end Calls

section Runs

variable {σ μ : Type} {link : Link σ} {models : Models μ} {s s' : Stage σ μ} {e : Event}
  {history : List Event}

/-- What a step does to the flag of a reset can be read off its event. -/
theorem Step.infersReset_eq (h : Step link models s e s') :
    s'.device.cycle.flags.fpgaInternalResetDetected =
      (!e.clears && (e.infersReset || s.device.cycle.flags.fpgaInternalResetDetected)) := by
  have hsame {d : Device} (hcycle : d.cycle = s.device.cycle) :
      d.cycle.flags.fpgaInternalResetDetected =
        s.device.cycle.flags.fpgaInternalResetDetected :=
    congrArg (fun m => m.flags.fpgaInternalResetDetected) hcycle
  cases h with
  | bringUp hcall =>
    exact hsame ((bringUp_keeps _ _).after (.refl s.device) hcall fun _ _ => trivial).cycle
  | attachMotorModel hcall => exact hsame (attachMotorModel_same hcall).cycle
  | @pack _ reset _ _ _ hcall =>
    have hcycle := pack_cycle hcall
    cases reset with
    | false => exact congrArg (fun m => m.flags.fpgaInternalResetDetected) hcycle
    | true => exact congrArg (fun m => m.flags.fpgaInternalResetDetected) hcycle
  | unpack hcall => exact (unpack_reset hcall).1
  | collect hcall =>
    exact hsame (collect_keeps.after (.refl s.device) hcall fun _ _ => trivial).cycle
  | publish hcall =>
    obtain ⟨hcycle, hcollected⟩ := publish_shows hcall
    have hflags := congrArg CycleMachine.flags (publish_cycle hcall)
    rw [Event.infersReset, hcycle, hcollected, hflags, Bool.or_comm]
    rfl
  | clear hcall =>
    cases hcall
    rfl
  | publishTrace | die | control | around => rfl

/-- The flag of a reset is set exactly when a report has inferred one since the errors were
cleared. -/
theorem Run.flag_eq (hr : Run link models history s) :
    s.device.cycle.flags.fpgaInternalResetDetected =
      (sinceClear history).any Event.infersReset := by
  induction hr with
  | created hcreate =>
    rw [create_ok hcreate]
    rfl
  | step _ hstep ih => rw [hstep.infersReset_eq, ih, any_sinceClear]

end Runs

/-! Later calls. -/

section Later

variable {σ μ : Type} {link : Link σ} {models : Models μ} {d : Device}

lemma handOffZeroOffset_mailbox (d : Device) (g : Mailbox) :
    { d with mailbox := g }.handOffZeroOffset = { d.handOffZeroOffset with mailbox := g } := by
  rw [handOffZeroOffset, handOffZeroOffset]
  dsimp only
  split
  · rfl
  · split <;> rfl

lemma pack_mailbox (models : Models μ) (halt reset : Bool) (d : Device) (g : Mailbox) (w : μ) :
    { d with mailbox := g }.pack models halt reset w =
      ((d.pack models halt reset w).1, { (d.pack models halt reset w).2.1 with mailbox := g },
        (d.pack models halt reset w).2.2) := by
  have hframe (d : Device) : d.handOffZeroOffset.noteCommand.commandFrame halt reset =
      d.commandFrame halt reset := by
    obtain ⟨_, _, _, -, hhanded⟩ := handOffZeroOffset_handed d
    rw [hhanded]
    rfl
  have hnote : ∀ d d' : Device, d' = { d with mailbox := g } →
      d'.handOffZeroOffset.noteCommand =
        { d.handOffZeroOffset.noteCommand with mailbox := g } := by
    rintro d _ rfl
    rw [handOffZeroOffset_mailbox]
    rfl
  refine Prod.ext (congrArg CommandFrame.encode ((hframe _).trans (.trans ?_ (hframe _).symm)))
    (Prod.ext (hnote _ _ ?_) ?_) <;> cases halt <;> cases reset <;> rfl

lemma verifyState_mailbox (status prev : StatusFrame) (d : Device) (g : Mailbox) (w : μ) :
    { d with mailbox := g }.verifyState models status prev w =
      ((d.verifyState models status prev w).1,
        { (d.verifyState models status prev w).2.1 with mailbox := g },
        (d.verifyState models status prev w).2.2) := by
  rw [verifyState_eq, verifyState_eq]
  rfl

lemma unpack_mailbox (models : Models μ) (this prev : Bytes) (d : Device) (g : Mailbox) (w : μ) :
    { d with mailbox := g }.unpack models this prev w =
      ((d.unpack models this prev w).1, { (d.unpack models this prev w).2.1 with mailbox := g },
        (d.unpack models this prev w).2.2) := by
  rw [unpack, unpack]
  split
  · split
    · exact verifyState_mailbox _ _ (d.noted _ _) g w
    · rfl
  · rfl

/-- The same device on the same bus, but for somebody who may hold the lock of the mailbox. -/
def Alike (p q : Device × σ) : Prop :=
  ∃ g, p.1.mailbox.Alike g ∧ q = ({ p.1 with mailbox := g }, p.2)

lemma overChannel_agree {α : Type} {f : Channel σ → Call (Mailbox × σ) α}
    (hf : ∀ c g g' t, g.Alike g' → f c (g', t) = f c (g, t)) :
    Agree Alike Eq (overChannel link f) (overChannel link f) := by
  rintro ⟨d, t⟩ _ ⟨g, hg, rfl⟩
  have hsame := hf (d.channel link) _ _ t hg
  -- behind the lock the two devices are one
  have hpassed : overChannel link f ({ d with mailbox := g }, t) = overChannel link f (d, t) :=
    congrArg (fun r => (r.1, { d with mailbox := r.2.1 }, r.2.2)) hsame
  rw [hpassed]
  rcases overChannel link f (d, t) with ⟨e | a, p⟩
  · exact .stop ⟨_, .refl _, rfl⟩
  · exact .ok rfl ⟨_, .refl _, rfl⟩

lemma read_agree (address : UInt16) (length : Nat) :
    Agree Alike Eq (overChannel link (·.read address length))
      (overChannel link (·.read address length)) :=
  overChannel_agree fun _ _ _ t hg => hg.locked_eq _ t

lemma writeAppRam_agree (z : Binary64) :
    Agree Alike Eq (writeAppRam link z) (writeAppRam link z) :=
  overChannel_agree fun _ _ _ t hg => hg.locked_eq _ t

lemma changeStore_agree {α : Type} (f : CollectedStore → α × CollectedStore) :
    Agree Alike Eq (changeStore (σ := σ) f) (changeStore f) := by
  rintro ⟨d, t⟩ _ ⟨g, hg, rfl⟩
  exact .ok rfl ⟨g, hg, rfl⟩

lemma probe_agree : Agree Alike Eq (probe link) (probe link) := by
  rintro ⟨d, t⟩ _ ⟨g, hg, rfl⟩
  have hbus {α : Type} (m : Call σ α) :
      Agree Alike Eq (Call.within busOnly m) (Call.within busOnly m) := by
    rintro ⟨d, t⟩ _ ⟨g, hg, rfl⟩
    show SameEnd _ _ ((m t).1, d, (m t).2) ((m t).1, { d with mailbox := g }, (m t).2)
    rcases m t with ⟨e | a, t'⟩
    · exact .stop ⟨g, hg, rfl⟩
    · exact .ok rfl ⟨g, hg, rfl⟩
  refine ((hbus _).bind_eq fun r => ?_) _ _ ⟨g, hg, rfl⟩
  exact .ite Iff.rfl (fun _ => .fail _) fun _ =>
    .ite Iff.rfl (fun _ => .fail _) fun _ => .pure rfl

lemma syncZeroOffset_agree : Agree Alike Eq (syncZeroOffset link) (syncZeroOffset link) := by
  refine (changeStore_agree _).bind_eq fun r => ?_
  cases r with
  | error e => exact .pure rfl
  | ok c =>
    refine .ite Iff.rfl (fun _ => ?_) fun _ => .pure rfl
    refine (writeAppRam_agree _).attempt.bind_eq fun r => ?_
    cases r with
    | error e => exact .pure rfl
    | ok u => exact (changeStore_agree _).bind_eq fun _ => .pure rfl

lemma collect_agree (link : Link σ) : Agree Alike Eq (collect link) (collect link) := by
  have hgather : Agree Alike Eq (gather link) (gather link) := by
    refine probe_agree.bind_eq fun _ => ?_
    refine (read_agree _ _).bind_eq fun raw => (Agree.ofExcept _).bind_eq fun status => ?_
    refine (read_agree _ _).bind_eq fun raw => (Agree.ofExcept _).bind_eq fun info => ?_
    refine Agree.get_bind ?_
    rintro ⟨d, t⟩ _ ⟨g, -, rfl⟩
    exact .ite Iff.rfl (fun _ => syncZeroOffset_agree.bind_eq fun _ => .pure rfl)
      fun _ => .pure rfl
  exact hgather.attempt.bind_eq fun r =>
    (changeStore_agree _).bind_eq fun r => .ofExcept r

lemma publish_mailbox (m : Monitor) {g : Mailbox} (hg : d.mailbox.Alike g) :
    m.publish { d with mailbox := g } = m.publish d := by
  have hrefresh : m.refresh { d with mailbox := g } = m.refresh d := by
    rw [Monitor.refresh, Monitor.refresh, Mailbox.counters, Mailbox.counters, hg.update_eq]
  rw [Monitor.publish, hrefresh]
  rfl

/-- What may be asked of a driver, of its collectors and of its monitors. -/
inductive Order where
  | pack (halt reset : Bool)
  | clear
  | unpack (this prev : Bytes)
  | collect
  | publish (m : Monitor)

/-- What comes back. -/
inductive Answer where
  | command (frame : Bytes)
  | cleared
  | verdict (fault : Option CycleFault)
  | collected (r : Except Stop Unit)
  | report (report : Report)

/-- The answer to an order, and the stage behind it. -/
def Order.carryOut (link : Link σ) (models : Models μ) : Order → Stage σ μ → Answer × Stage σ μ
  | pack halt reset, s =>
    let (frame, d, w) := s.device.pack models halt reset s.world
    (.command frame, { s with device := d, world := w })
  | clear, s =>
    let (d, w) := s.device.clearErrorFlags models s.world
    (.cleared, { s with device := d, world := w })
  | unpack this prev, s =>
    let (fault, d, w) := s.device.unpack models this prev s.world
    (.verdict fault, { s with device := d, world := w })
  | collect, s =>
    let (r, d, bus) := Device.collect link (s.device, s.bus)
    (.collected r, { s with device := d, bus := bus })
  | publish m, s =>
    let (report, _, d) := m.publish s.device
    (.report report, { s with device := d })

/-- The answers to orders that are carried out one after the other. -/
def answers (link : Link σ) (models : Models μ) : List Order → Stage σ μ → List Answer
  | [], _ => []
  | order :: orders, s =>
    (order.carryOut link models s).1 :: answers link models orders (order.carryOut link models s).2

/-- The same stage, but for somebody who may hold the lock of the mailbox. -/
def AlikeStage (s t : Stage σ μ) : Prop :=
  ∃ g, s.device.mailbox.Alike g ∧ t = { s with device := { s.device with mailbox := g } }

/-- Nobody who gives an order can tell whether somebody held the lock of the mailbox. -/
theorem Order.carryOut_alike (link : Link σ) (models : Models μ) {s t : Stage σ μ}
    (h : AlikeStage s t) (order : Order) :
    (order.carryOut link models t).1 = (order.carryOut link models s).1 ∧
      AlikeStage (order.carryOut link models s).2 (order.carryOut link models t).2 := by
  obtain ⟨g, hg, rfl⟩ := h
  cases order with
  | pack halt reset =>
    have hsame := pack_mailbox models halt reset s.device
    have hkept := congrArg (fun r => r.2.1.mailbox) (hsame s.device.mailbox s.world)
    rw [carryOut, hsame]
    exact ⟨rfl, g, hkept ▸ hg, rfl⟩
  | clear => exact ⟨rfl, g, hg, rfl⟩
  | unpack this prev =>
    have hsame := unpack_mailbox models this prev s.device
    have hkept := congrArg (fun r => r.2.1.mailbox) (hsame s.device.mailbox s.world)
    rw [carryOut, hsame]
    exact ⟨rfl, g, hkept ▸ hg, rfl⟩
  | collect =>
    have hend := collect_agree link (s.device, s.bus) _ ⟨g, hg, rfl⟩
    revert hend
    rw [carryOut, carryOut]
    rcases Device.collect link (s.device, s.bus) with ⟨e | a, d, bus⟩ <;>
      rcases Device.collect link ({ s.device with mailbox := g }, s.bus) with ⟨e' | a', p⟩ <;>
      rintro ⟨⟩
    · rename_i hR
      obtain ⟨g', hg', rfl⟩ := hR
      exact ⟨rfl, g', hg', rfl⟩
    · rename_i hR
      obtain ⟨g', hg', rfl⟩ := hR
      exact ⟨rfl, g', hg', rfl⟩
  | publish m =>
    rw [carryOut, carryOut, publish_mailbox m hg]
    exact ⟨rfl, _, .refl _, rfl⟩

lemma answers_alike {s t : Stage σ μ} (h : AlikeStage s t) (orders : List Order) :
    answers link models orders t = answers link models orders s := by
  induction orders generalizing s t with
  | nil => rfl
  | cons order orders ih =>
    obtain ⟨hanswer, hnext⟩ := order.carryOut_alike link models h
    rw [answers, answers, hanswer, ih hnext]

end Later

/-! Reports that are made again. -/

section Again

variable {d : Device}

/-- The copies that a monitor takes when no lock is poisoned. -/
lemma refresh_eq (m : Monitor) (hmailbox : d.mailbox.lock ≠ .poisoned)
    (hstore : d.store.lock ≠ .poisoned) :
    m.refresh d =
      ({ m with
          mailbox := d.mailbox.value.counters
          published := if d.store.lock = .free then d.store.value else m.published },
        { d with mailbox := d.mailbox.release }) := by
  obtain ⟨_, _, _, ⟨_, _, lock⟩, ⟨_, _, lock'⟩, _⟩ := d
  cases lock <;> cases lock' <;> first | rfl | contradiction

/-- Taken again at once the copies are the same, whatever became of the cycle. -/
lemma refresh_again {m m' : Monitor} {d₁ : Device} (hmailbox : d.mailbox.lock ≠ .poisoned)
    (hstore : d.store.lock ≠ .poisoned) (h : m.refresh d = (m', d₁)) (cycle : CycleMachine) :
    m'.refresh { d₁ with cycle := cycle } = (m', { d₁ with cycle := cycle }) := by
  rw [refresh_eq m hmailbox hstore] at h
  cases h
  refine (refresh_eq _ LockState.noConfusion ?_).trans ?_
  · exact hstore
  · dsimp only
    split <;> rfl

/-- A report that is made of the flags as it left them is the same report. -/
lemma report_again (m : Monitor) (before : CycleFlags) {after : CycleFlags}
    (h : after = if Monitor.infersReset before m.published.status.held then
      { before with fpgaInternalResetDetected := true } else before) :
    (if Monitor.infersReset after m.published.status.held then
      { after with fpgaInternalResetDetected := true } else after) = after ∧
      m.report after after = m.report before after := by
  by_cases hinfers : Monitor.infersReset before m.published.status.held = true
  · rw [if_pos hinfers] at h
    subst h
    have hagain : Monitor.infersReset { before with fpgaInternalResetDetected := true }
      m.published.status.held = true := hinfers
    refine ⟨if_pos hagain, ?_⟩
    rw [Monitor.report, Monitor.report, Monitor.conditions, Monitor.conditions, hagain, hinfers,
      Bool.or_true, Bool.or_true]
  · rw [if_neg hinfers] at h
    subst h
    exact ⟨if_neg hinfers, rfl⟩

/-- What a report leaves behind when no lock is poisoned.  Made again at once it is the same
report. -/
theorem publish_again {m m' : Monitor} {report : Report} {d' : Device}
    (hmailbox : d.mailbox.lock ≠ .poisoned) (hstore : d.store.lock ≠ .poisoned)
    (h : m.publish d = (report, m', d')) :
    d' = { d with mailbox := d.mailbox.release, cycle := d'.cycle } ∧
      m'.publish d' = (report, m', d') := by
  rw [Monitor.publish] at h
  rcases hrefresh : m.refresh d with ⟨m₁, d₁⟩
  rw [hrefresh] at h
  cases h
  constructor
  · rw [refresh_eq m hmailbox hstore] at hrefresh
    cases hrefresh
    rfl
  · obtain ⟨hraised, hreport⟩ := report_again m' d₁.cycle.flags rfl
    rw [Monitor.publish, refresh_again hmailbox hstore hrefresh]
    dsimp only
    rw [hraised, hreport]

end Again

/-! Runs. -/

namespace Run

variable {σ μ : Type} {link : Link σ} {models : Models μ} {s : Stage σ μ} {history : List Event}

/-- The flag of a reset is set exactly when a report has inferred one since the errors were
cleared, and every status frame in between fails.  A report shows the jump of the clock that the
device knows of, and it changes nothing in the cycle but the flag.  When no lock is poisoned, a
report that is made again at once is the same, and all later answers are those of a device in
which the flag alone was changed. -/
theorem reset_inferred (hr : Run link models history s) :
    s.device.cycle.flags.fpgaInternalResetDetected =
        (sinceClear history).any Event.infersReset ∧
    (∀ later this prev fault before, history = later ++ .unpacked this prev fault :: before →
      (sinceClear before).any Event.infersReset = true → fault.isSome = true) ∧
    ∀ m report m' d', Monitor.publish m s.device = (report, m', d') →
      report.cycle.timestampJumpDetected = s.device.cycle.flags.timestampJumpDetected ∧
      report.collected = m'.published ∧
      d'.cycle = { s.device.cycle with flags := { s.device.cycle.flags with
        fpgaInternalResetDetected := d'.cycle.flags.fpgaInternalResetDetected } } ∧
      (s.device.mailbox.lock ≠ .poisoned → s.device.store.lock ≠ .poisoned →
        m'.publish d' = (report, m', d') ∧
        ∀ orders, answers link models orders { s with device := d' } =
          answers link models orders { s with device := { s.device with cycle := d'.cycle } }) := by
  refine ⟨hr.flag_eq, ?_, ?_⟩
  · rintro later this prev fault before rfl hinferred
    obtain ⟨s₁, s₂, hbefore, hstep, -⟩ := hr.split
    cases hstep with
    | unpack hcall => exact (unpack_reset hcall).2 (hbefore.flag_eq.trans hinferred)
  · intro m report m' d' hcall
    obtain ⟨hcycle, hcollected⟩ := publish_shows hcall
    have hraised := publish_cycle hcall
    refine ⟨?_, hcollected, ?_, fun hmailbox hstore => ?_⟩
    · rw [hcycle, hraised]
    · rw [hraised]
    · obtain ⟨hleft, hagain⟩ := publish_again hmailbox hstore hcall
      have halike : AlikeStage { s with device := { s.device with cycle := d'.cycle } }
          { s with device := d' } :=
        ⟨s.device.mailbox.release, Guarded.alike_release hmailbox,
          congrArg (fun d => { s with device := d }) hleft⟩
      exact ⟨hagain, answers_alike halike⟩

/-- The clock jumps while the board tells of an operational disable, and a report infers a reset
from that.  The next frame fails, although nothing is wrong with it. -/
theorem reset_inferred_jump :
    ∃ (history : List Event) (report : Report) (this prev : Bytes) (fault : Option CycleFault)
      (s : Stage Ring StandIns),
      Run Ring.link StandIns.models (.unpacked this prev fault :: .published report :: history) s ∧
        sinceClear history = history ∧ history.any Event.infersReset = false ∧
        Event.infersReset (.published report) = true ∧
        Checksum.verifies (this.take StatusFrame.size) = true ∧ fault.isSome = true ∧
        s.device.cycle.flags.fpgaInternalResetDetected = true := by
  obtain ⟨d₀, hd₀⟩ : ∃ d, create {} ⟨1, 0, 0, 0, 0, .op⟩ none = .ok d := ⟨_, rfl⟩
  have hfresh : Run Ring.link StandIns.models []
      ⟨d₀, {}, {}, ⟨{ station := 1, position := 0 }, 0⟩⟩ := .created hd₀
  obtain rfl := Except.ok.inj hd₀
  have hheld := hfresh.step (@Step.around _ _ _ _ _ ⟨1, 0, 0, 0, 0, .op⟩ Mailbox.fresh
    { CollectedStore.fresh with value := { status := { held := SafetyCause.operational } } }
    {} {} ⟨{ station := 1, position := 0 }, 0⟩)
  have hjumped := (hheld.unpacked (StatusFrame.encode { timestamp := 5 }) (Bytes.zeros 44)).unpacked
    (StatusFrame.encode { timestamp := 20000000 }) (StatusFrame.encode { timestamp := 5 })
  have hreported := hjumped.published ⟨"", "", 0, 0, 0, {}, {}⟩
  have hnext := hreported.unpacked (StatusFrame.encode { timestamp := 20000001 })
    (StatusFrame.encode { timestamp := 20000000 })
  obtain ⟨hflag, hfails, -⟩ := reset_inferred hnext
  exact ⟨_, _, _, _, _, _, hnext, rfl, rfl, by decide +kernel, by decide +kernel,
    hfails [] _ _ _ _ rfl (by decide +kernel), hflag.trans (by decide +kernel)⟩

end Run

end Device

end MotorBoard
