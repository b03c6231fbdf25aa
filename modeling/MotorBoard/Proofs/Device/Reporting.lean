/-
# What a report tells

Conditions are merged into a report one after the other.  A worse one takes the place of what the
report said, so the text that is dropped belongs to levels that are no longer the worst, and what is
kept belongs to the worst level so far.  That makes the summary a function of all that was merged:
it shows the messages of the greatest level, and nothing else.

A published report takes its conditions from the flags as they are found, and it raises one of them
itself.  The flags that it shows are those that it leaves; their conditions are the same.

The main results are

* `Summary.Shows.merge`, `Summary.shows_mergeAll`: one condition more, and any number of them;
* `Summary.ofConditions_error_iff`, `Summary.ofConditions_ok_iff`: the level of a list of
  conditions;
* `Device.publish_summary`: the summary of a report belongs to the flags that the report shows;
* `Device.worst_reported`: the summary of any conditions, and the level of every report.
-/
import Mathlib.Data.List.Induction
import Mathlib.Order.Bounds.Basic
import MotorBoard.Proofs.Device.Output

namespace MotorBoard

namespace Level

lemma rank_injective : Function.Injective rank := by
  intro l l' h
  cases l <;> cases l' <;> first | rfl | cases h

/-- Levels go from good to bad. -/
instance : PartialOrder Level := PartialOrder.lift rank rank_injective

lemma ok_le (l : Level) : .ok ≤ l := Nat.zero_le l.rank

lemma le_error (l : Level) : l ≤ .error := by
  cases l <;> decide

end Level

namespace Summary

/-- The messages that were merged at a level, in their order. -/
def messagesAt (level : Level) (calls : List (Level × String)) : List String :=
  (calls.filter fun c => c.1 = level).map Prod.snd

/-- A summary into which these conditions were merged, one after the other. -/
def mergeAll (calls : List (Level × String)) : Summary :=
  calls.foldl (fun s c => s.merge c.1 c.2) {}

/-- A summary that shows the worst of the conditions merged, all of them and no others. -/
structure Shows (s : Summary) (calls : List (Level × String)) : Prop where
  level : IsGreatest {l | l = .ok ∨ l ∈ calls.map Prod.fst} s.level
  text : s.text =
    if s.level = .ok then "OK" else "; ".intercalate (messagesAt s.level calls)

variable {s : Summary} {calls : List (Level × String)} {level : Level} {message : String}

lemma messagesAt_append_self :
    messagesAt level (calls ++ [(level, message)]) = messagesAt level calls ++ [message] := by
  simp [messagesAt]

lemma messagesAt_append_of_ne {other : Level} (h : other ≠ level) :
    messagesAt level (calls ++ [(other, message)]) = messagesAt level calls := by
  simp [messagesAt, h]

/-- Above all levels merged there are no messages. -/
lemma messagesAt_eq_nil (h : ∀ l ∈ calls.map Prod.fst, l < level) :
    messagesAt level calls = [] := by
  rw [messagesAt, List.map_eq_nil_iff, List.filter_eq_nil_iff]
  intro c hc hlevel
  exact (h c.1 (List.mem_map_of_mem hc)).ne (of_decide_eq_true hlevel)

lemma messagesAt_ne_nil (h : level ∈ calls.map Prod.fst) : messagesAt level calls ≠ [] := by
  obtain ⟨c, hc, hlevel⟩ := List.mem_map.1 h
  rw [messagesAt, ne_eq, List.map_eq_nil_iff, List.filter_eq_nil_iff]
  exact fun hnone => hnone c hc (decide_eq_true hlevel)

lemma Shows.le (h : s.Shows calls) {l : Level} (hl : l ∈ calls.map Prod.fst) : l ≤ s.level :=
  h.level.2 (.inr hl)

lemma shows_nil : Shows {} [] where
  level := ⟨.inl rfl, by rintro l (rfl | hl); exacts [le_rfl, absurd hl List.not_mem_nil]⟩
  text := rfl

/-- One condition more: a worse one is shown alone, one that is as bad is added, and any other is
left out. -/
theorem Shows.merge (h : s.Shows calls) (level : Level) (message : String) :
    (s.merge level message).Shows (calls ++ [(level, message)]) := by
  have hlevels {l : Level} (hl : l = .ok ∨ l ∈ (calls ++ [(level, message)]).map Prod.fst) :
      l ≤ s.level ∨ l = level := by
    simp only [List.map_append, List.mem_append, List.map_cons, List.map_nil,
      List.mem_singleton] at hl
    rcases hl with rfl | hl | rfl
    exacts [.inl (Level.ok_le _), .inl (h.le hl), .inr rfl]
  rw [Summary.merge]
  split
  · next hworse =>
    have hlt : s.level < level := hworse
    have hok : level ≠ .ok := fun heq => (Level.ok_le s.level).not_gt (heq ▸ hlt)
    refine ⟨⟨.inr (by simp), ?_⟩, ?_⟩
    · intro l hl
      rcases hlevels hl with hle | rfl
      exacts [hle.trans hlt.le, le_rfl]
    · have hnone := messagesAt_eq_nil fun l hl => (h.le hl).trans_lt hlt
      rw [if_neg hok, messagesAt_append_self, hnone]
      rfl
  · next hno =>
    have hle : level.rank ≤ s.level.rank := Nat.not_lt.1 hno
    have hgreatest : IsGreatest
        {l | l = .ok ∨ l ∈ (calls ++ [(level, message)]).map Prod.fst} s.level := by
      refine ⟨h.level.1.imp_right fun hmem => ?_, ?_⟩
      · rw [List.map_append]
        exact List.mem_append_left _ hmem
      · intro l hl
        rcases hlevels hl with hbelow | rfl
        exacts [hbelow, hle]
    split
    · next hsame =>
      obtain ⟨rfl, hok⟩ := hsame
      refine ⟨hgreatest, ?_⟩
      have hmerged := h.level.1.resolve_left hok
      rw [h.text, if_neg hok, if_neg hok, messagesAt_append_self,
        String.intercalate_append_of_ne_nil (messagesAt_ne_nil hmerged) (List.cons_ne_nil _ _),
        String.intercalate_singleton]
    · next hother =>
      refine ⟨hgreatest, ?_⟩
      by_cases hok : s.level = .ok
      · rw [h.text, if_pos hok, if_pos hok]
      · have hne : level ≠ s.level := fun heq => hother ⟨heq, heq ▸ hok⟩
        rw [h.text, if_neg hok, if_neg hok, messagesAt_append_of_ne hne]

/-- Whatever is merged, the summary shows the worst of it. -/
theorem shows_mergeAll (calls : List (Level × String)) : (mergeAll calls).Shows calls := by
  induction calls using List.reverseRecOn with
  | nil => exact shows_nil
  | append_singleton calls c ih =>
    rw [mergeAll, List.foldl_append]
    exact ih.merge c.1 c.2

/-- Worse conditions take the place of those before them, and later ones that are less bad are left
out. -/
example :
    mergeAll [(.warn, "Timestamp jumped"), (.error, "Safety Lockout"), (.warn, "not collected"),
      (.error, "Checksum error"), (.ok, "fine")] = ⟨.error, "Safety Lockout; Checksum error"⟩ := by
  decide

lemma ofConditions_eq (cs : List Condition) :
    ofConditions cs = mergeAll ((cs.filter (·.holds)).map fun c => (c.level, c.message)) := by
  rw [ofConditions, mergeAll, List.foldl_map]

/-- The level of the conditions that hold. -/
lemma isGreatest_ofConditions (cs : List Condition) :
    IsGreatest {l | l = .ok ∨ ∃ c ∈ cs, c.holds = true ∧ c.level = l} (ofConditions cs).level := by
  have h := (shows_mergeAll ((cs.filter (·.holds)).map fun c => (c.level, c.message))).level
  rw [← ofConditions_eq] at h
  convert h using 4
  simp [and_assoc]

theorem ofConditions_error_iff (cs : List Condition) :
    (ofConditions cs).level = .error ↔ ∃ c ∈ cs, c.holds = true ∧ c.level = .error := by
  obtain ⟨hmem, hle⟩ := isGreatest_ofConditions cs
  constructor
  · intro h
    rw [h] at hmem
    exact hmem.resolve_left (by decide)
  · intro h
    exact (Level.le_error _).antisymm (hle (.inr h))

theorem ofConditions_ok_iff (cs : List Condition) :
    (ofConditions cs).level = .ok ↔ ∀ c ∈ cs, c.holds = true → c.level = .ok := by
  obtain ⟨hmem, hle⟩ := isGreatest_ofConditions cs
  constructor
  · intro h c hc hholds
    have hbelow : c.level ≤ .ok := h ▸ hle (.inr ⟨c, hc, hholds, rfl⟩)
    exact hbelow.antisymm (Level.ok_le _)
  · rintro h
    obtain hok | ⟨c, hc, hholds, hlevel⟩ := hmem
    exacts [hok, hlevel.symm.trans (h c hc hholds)]

end Summary

namespace Device

variable {m m' : Monitor} {report : Report} {d d' : Device}

/-- The flag of a reset that a report infers says what the report has found out already. -/
lemma conditions_raised (flags : CycleFlags) (c : Collected) :
    Monitor.conditions { flags with fpgaInternalResetDetected :=
      flags.fpgaInternalResetDetected || Monitor.infersReset flags c.status.held } c =
      Monitor.conditions flags c := by
  have hinfers (raised : Bool) :
      Monitor.infersReset { flags with fpgaInternalResetDetected := raised } c.status.held =
        Monitor.infersReset flags c.status.held := rfl
  simp only [Monitor.conditions, hinfers, Bool.or_assoc, Bool.or_self]

/-- The summary of a report is that of the flags and the copy that it shows, although the flags were
raised in between. -/
theorem publish_summary (h : m.publish d = (report, m', d')) :
    report.summary = .ofConditions (Monitor.conditions report.cycle report.collected) := by
  obtain ⟨hcycle, hcollected⟩ := publish_shows h
  rw [hcycle, hcollected, publish_cycle h, conditions_raised]
  rw [Monitor.publish] at h
  cases h
  rfl

/-- A report that infers a reset shows the flag of it. -/
lemma publish_raised (h : m.publish d = (report, m', d'))
    (hinfers : Monitor.infersReset report.cycle report.collected.status.held = true) :
    report.cycle.fpgaInternalResetDetected = true := by
  obtain ⟨hcycle, hcollected⟩ := publish_shows h
  rw [hcycle, hcollected, publish_cycle h] at hinfers
  rw [hcycle, publish_cycle h]
  exact Bool.or_eq_true_iff.2 (.inr hinfers)

/-- Which flags make a report an error. -/
lemma publish_error_iff (h : m.publish d = (report, m', d')) :
    report.summary.level = .error ↔
      report.cycle.tooManyDroppedPackets = true ∨ report.cycle.statusChecksumError = true ∨
        report.cycle.inLockout = true ∨ report.cycle.fpgaInternalResetDetected = true := by
  have hraised := publish_raised h
  rw [publish_summary h, Summary.ofConditions_error_iff, Monitor.conditions]
  simp only [List.exists_mem_cons_iff, List.not_mem_nil, false_and, exists_false, or_false,
    Bool.or_eq_true, and_true, reduceCtorEq, and_false, false_or]
  rw [or_iff_left_of_imp hraised]

/-- What a report is good of. -/
lemma publish_ok_iff (h : m.publish d = (report, m', d')) :
    report.summary.level = .ok ↔
      report.cycle.tooManyDroppedPackets = false ∧ report.cycle.statusChecksumError = false ∧
        report.cycle.inLockout = false ∧ report.cycle.fpgaInternalResetDetected = false ∧
        report.cycle.timestampJumpDetected = false ∧
        report.collected.valid = true ∧ report.collected.first = false := by
  have hraised := publish_raised h
  rw [publish_summary h, Summary.ofConditions_ok_iff, Monitor.conditions]
  simp only [List.forall_mem_cons, List.not_mem_nil, reduceCtorEq, imp_false, Bool.not_eq_true,
    Bool.or_eq_false_iff]
  constructor
  · rintro ⟨hdrops, hsum, hfirst, hvalid, hlockout, ⟨hreset, -⟩, hjump, -⟩
    rw [hfirst, Bool.not_false, Bool.true_and, Bool.not_eq_false'] at hvalid
    exact ⟨hdrops, hsum, hlockout, hreset, hjump, hvalid, hfirst⟩
  · rintro ⟨hdrops, hsum, hlockout, hreset, hjump, hvalid, hfirst⟩
    have hcollected : (!report.collected.first && !report.collected.valid) = false := by
      rw [hvalid, Bool.not_true, Bool.and_false]
    have hquiet := mt hraised (Bool.eq_false_iff.1 hreset)
    exact ⟨hdrops, hsum, hfirst, hcollected, hlockout, ⟨hreset, Bool.eq_false_iff.2 hquiet⟩, hjump,
      fun _ h => h.elim⟩

/-- **A report shows the worst conditions, all of them and only them.**  Whatever conditions are
merged into a new report, in whatever order, the level is the greatest of theirs, and that of a
report with nothing wrong if there are none.  The summary lists the messages that were merged at
just this level, in the order in which they were merged.  A published report is an error exactly
when the flags that it shows tell of one, the one that it has raised itself among them; and all is
well exactly when they tell of nothing, something was collected, and the last collection has
succeeded. -/
theorem worst_reported :
    (∀ calls : List (Level × String),
      let s := calls.foldl (fun s c => s.merge c.1 c.2) ({} : Summary)
      IsGreatest {l | l = .ok ∨ l ∈ calls.map Prod.fst} s.level ∧
        s.text = if s.level = .ok then "OK"
          else "; ".intercalate ((calls.filter fun c => c.1 = s.level).map Prod.snd)) ∧
    ∀ (m : Monitor) (d : Device),
      let report := (m.publish d).1
      (report.summary.level = .error ↔
        report.cycle.tooManyDroppedPackets = true ∨ report.cycle.statusChecksumError = true ∨
          report.cycle.inLockout = true ∨ report.cycle.fpgaInternalResetDetected = true) ∧
      (report.summary.level = .ok ↔
        report.cycle.tooManyDroppedPackets = false ∧ report.cycle.statusChecksumError = false ∧
          report.cycle.inLockout = false ∧ report.cycle.fpgaInternalResetDetected = false ∧
          report.cycle.timestampJumpDetected = false ∧
          report.collected.valid = true ∧ report.collected.first = false) := by
  refine ⟨fun calls => ?_, fun m d => ?_⟩
  · have h := Summary.shows_mergeAll calls
    exact ⟨h.level, h.text⟩
  · have hcall : m.publish d = ((m.publish d).1, (m.publish d).2.1, (m.publish d).2.2) := rfl
    exact ⟨publish_error_iff hcall, publish_ok_iff hcall⟩

end Device

end MotorBoard
