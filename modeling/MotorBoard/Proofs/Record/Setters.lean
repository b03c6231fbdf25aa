/-
# Setters of the actuator record

All entries of the record stand in one image, and every setter writes some of them.  The places of
the entries do not overlap, and what is written to a place has its size.  So a setter changes the
entries that it sets and no other byte.  By induction on the calls an entry is what the last call
that sets it has stored there.  The two checks are entries, too: what the filling in of the checks
stores is computed from the record as it is then, and the large check sees the small one.

The main results are

* `ActuatorInfo.Entry.apart`: the places of the entries;
* `ActuatorInfo.get_apply`, `ActuatorInfo.get_apply_of_notMem`: one setter and all getters;
* `ActuatorInfo.get_run_last`, `ActuatorInfo.get_run_of_notMem`: any calls;
* `ActuatorInfo.generateCrc_of_fits`: filling in checks that fit changes nothing;
* `ActuatorInfo.getters_after_setters`: all of it, and what a text field shows.
-/
import MotorBoard.Proofs.Record.Checks

namespace MotorBoard

namespace ActuatorInfo

/-! Entries and their places. -/

/-- What a record has a getter for. -/
inductive Entry
  | major | minor | id | name | robotName | motorMake | motorModel
  | maxCurrent | speedConstant | resistance | torqueConstant | reduction | pulses
  | smallCrc | largeCrc
deriving DecidableEq

/-- What a getter returns. -/
inductive Value
  | word16 (w : UInt16)
  | word32 (w : UInt32)
  | number (x : Binary64)
  | text (s : String)
deriving DecidableEq

/-- What the getter of an entry returns. -/
def get (a : ActuatorInfo) : Entry → Value
  | .major => .word16 a.major
  | .minor => .word16 a.minor
  | .id => .word32 a.id
  | .name => .text a.name
  | .robotName => .text a.robotName
  | .motorMake => .text a.motorMake
  | .motorModel => .text a.motorModel
  | .maxCurrent => .number a.maxCurrent
  | .speedConstant => .number a.speedConstant
  | .resistance => .number a.resistance
  | .torqueConstant => .number a.torqueConstant
  | .reduction => .number a.reduction
  | .pulses => .word32 a.pulsesPerRevolution
  | .smallCrc => .word32 a.smallCrc
  | .largeCrc => .word32 a.largeCrc

namespace Entry

/-- The place of an entry in the record. -/
def field : Entry → Field
  | major => majorField
  | minor => minorField
  | id => idField
  | name => nameField
  | robotName => robotNameField
  | motorMake => motorMakeField
  | motorModel => motorModelField
  | maxCurrent => maxCurrentField
  | speedConstant => speedConstantField
  | resistance => resistanceField
  | torqueConstant => torqueConstantField
  | reduction => reductionField
  | pulses => pulsesField
  | smallCrc => smallCrcField
  | largeCrc => largeCrcField

/-- All entries, in the order of their places. -/
def all : List Entry :=
  [major, minor, id, name, robotName, motorMake, motorModel, maxCurrent, speedConstant, resistance,
    torqueConstant, reduction, pulses, smallCrc, largeCrc]

lemma mem_all (e : Entry) : e ∈ all := by cases e <;> decide

lemma stop_le (e : Entry) : e.field.stop ≤ ActuatorInfo.size := by cases e <;> decide

/-- The places of two entries do not overlap. -/
theorem apart {e e' : Entry} (h : e ≠ e') :
    e.field.stop ≤ e'.field.offset ∨ e'.field.stop ≤ e.field.offset := by
  have hall : ∀ e ∈ all, ∀ e' ∈ all, e ≠ e' →
      e.field.stop ≤ e'.field.offset ∨ e'.field.stop ≤ e.field.offset := by decide
  exact hall e e.mem_all e' e'.mem_all h

/-- What an entry is when its place holds some bytes. -/
def decode : Entry → Bytes → Value
  | major, b | minor, b => .word16 (UInt16.ofNat (Bytes.toNat b))
  | id, b | pulses, b | smallCrc, b | largeCrc, b => .word32 (UInt32.ofNat (Bytes.toNat b))
  | name, b | robotName, b | motorMake, b | motorModel, b =>
    .text (Text.decodeLossy (Text.untilNul b))
  | maxCurrent, b | speedConstant, b | resistance, b | torqueConstant, b | reduction, b =>
    .number ⟨UInt64.ofNat (Bytes.toNat b)⟩

end Entry

/-- A getter looks at the place of its entry and nowhere else. -/
lemma get_eq (a : ActuatorInfo) (e : Entry) :
    a.get e = e.decode (a.bytes.slice e.field.offset e.field.size) := by
  cases e <;> rfl

/-! Setters. -/

/-- The calls that change a record. -/
inductive Setter
  | version (major minor : UInt16)
  | id (id : UInt32)
  | name (name : String)
  | robotName (name : String)
  | motor (make model : String)
  | motorConstants (c : MotorConstants)
  | encoder (reduction : Binary64) (pulses : UInt32)
  | checks

namespace Setter

/-- What a call makes of a record. -/
def apply : Setter → ActuatorInfo → ActuatorInfo
  | version major minor => setVersion major minor
  | id i => setId i
  | name s => setName s
  | robotName s => setRobotName s
  | motor make model => setMotor make model
  | motorConstants c => setMotorConstants c
  | encoder reduction pulses => setEncoder reduction pulses
  | checks => generateCrc

/-- The entries that a call sets. -/
def entries : Setter → List Entry
  | version _ _ => [.major, .minor]
  | id _ => [.id]
  | name _ => [.name]
  | robotName _ => [.robotName]
  | motor _ _ => [.motorMake, .motorModel]
  | motorConstants _ => [.maxCurrent, .speedConstant, .resistance, .torqueConstant]
  | encoder _ _ => [.reduction, .pulses]
  | checks => [.smallCrc, .largeCrc]

/-- What a call stores in the entries that it sets.  A text is stored as far as its field shows it,
and the large check covers the small one. -/
def stores (a : ActuatorInfo) : Setter → List (Entry × Value)
  | version major minor => [(.major, .word16 major), (.minor, .word16 minor)]
  | id i => [(.id, .word32 i)]
  | name s => [(.name, .text (Text.shown 64 s))]
  | robotName s => [(.robotName, .text (Text.shown 32 s))]
  | motor make model =>
    [(.motorMake, .text (Text.shown 32 make)), (.motorModel, .text (Text.shown 32 model))]
  | motorConstants c =>
    [(.maxCurrent, .number c.maxCurrent), (.speedConstant, .number c.speedConstant),
      (.resistance, .number c.resistance), (.torqueConstant, .number c.torqueConstant)]
  | encoder reduction pulses => [(.reduction, .number reduction), (.pulses, .word32 pulses)]
  | checks =>
    [(.smallCrc, .word32 a.expectedSmallCrc), (.largeCrc, .word32 a.putSmallCrc.expectedLargeCrc)]

end Setter

/-- The record after some calls. -/
def run (calls : List Setter) (a : ActuatorInfo) : ActuatorInfo :=
  calls.foldl (fun a s => s.apply a) a

/-! What a setter does is to write to the places of some entries. -/

/-- Bytes for the place of an entry. -/
structure Write where
  /-- The entry. -/
  entry : Entry
  /-- Its bytes. -/
  bytes : Bytes
  length_bytes : bytes.length = entry.field.size

/-- The record with the place of an entry written. -/
def Write.apply (w : Write) (a : ActuatorInfo) : ActuatorInfo := ⟨a.image.put w.entry.field w.bytes⟩

/-- The record with some places written, one after the other. -/
def writeAll (ws : List Write) (a : ActuatorInfo) : ActuatorInfo :=
  ws.foldl (fun a w => w.apply a) a

namespace Write

variable {w : Write} {a : ActuatorInfo}

lemma fits (w : Write) : w.entry.field.offset + w.bytes.length ≤ 264 := by
  rw [w.length_bytes]
  exact w.entry.stop_le

lemma get_apply (w : Write) (a : ActuatorInfo) :
    (w.apply a).get w.entry = w.entry.decode w.bytes := by
  rw [get_eq, ← w.length_bytes]
  exact congrArg _ (a.image.slice_put w.fits)

/-- Bytes apart from the place that is written are as before. -/
lemma slice_apply {i n : Nat} (h : i + n ≤ w.entry.field.offset ∨ w.entry.field.stop ≤ i) :
    (w.apply a).bytes.slice i n = a.bytes.slice i n :=
  a.image.slice_put_apart w.fits (by rwa [w.length_bytes])

lemma get_apply_of_ne {e : Entry} (h : w.entry ≠ e) : (w.apply a).get e = a.get e := by
  rw [get_eq, get_eq, slice_apply (Entry.apart h).symm]

end Write

section WriteAll

variable {ws : List Write} {e : Entry}

lemma slice_writeAll {i n : Nat}
    (h : ∀ w ∈ ws, i + n ≤ w.entry.field.offset ∨ w.entry.field.stop ≤ i) (a : ActuatorInfo) :
    (writeAll ws a).bytes.slice i n = a.bytes.slice i n := by
  induction ws generalizing a with
  | nil => rfl
  | cons w ws ih =>
    rw [List.forall_mem_cons] at h
    exact (ih h.2 _).trans (Write.slice_apply h.1)

lemma get_writeAll_of_ne (h : ∀ w ∈ ws, w.entry ≠ e) (a : ActuatorInfo) :
    (writeAll ws a).get e = a.get e := by
  induction ws generalizing a with
  | nil => rfl
  | cons w ws ih =>
    rw [List.forall_mem_cons] at h
    exact (ih h.2 _).trans (Write.get_apply_of_ne h.1)

/-- Where each entry is written once, it is what was written for it. -/
lemma get_writeAll (hws : (ws.map Write.entry).Nodup) {w : Write} (hw : w ∈ ws)
    (a : ActuatorInfo) : (writeAll ws a).get w.entry = w.entry.decode w.bytes := by
  induction ws generalizing a with
  | nil => nomatch hw
  | cons v ws ih =>
    rw [List.map_cons, List.nodup_cons] at hws
    obtain rfl | hw := List.mem_cons.1 hw
    · have hother : ∀ v ∈ ws, v.entry ≠ w.entry := fun v hv heq =>
        hws.1 (heq ▸ List.mem_map_of_mem hv)
      exact (get_writeAll_of_ne hother _).trans (w.get_apply a)
    · exact ih hws.2 hw _

end WriteAll

namespace Setter

/-- The places that a call writes, with their bytes. -/
def writes (a : ActuatorInfo) : Setter → List Write
  | version major minor =>
    [⟨.major, Bytes.ofWord16 major, Bytes.length_ofWord16 _⟩,
      ⟨.minor, Bytes.ofWord16 minor, Bytes.length_ofWord16 _⟩]
  | id i => [⟨.id, Bytes.ofWord32 i, Bytes.length_ofWord32 _⟩]
  | name s => [⟨.name, Text.encodeField 64 s, Text.length_encodeField ..⟩]
  | robotName s => [⟨.robotName, Text.encodeField 32 s, Text.length_encodeField ..⟩]
  | motor make model =>
    [⟨.motorMake, Text.encodeField 32 make, Text.length_encodeField ..⟩,
      ⟨.motorModel, Text.encodeField 32 model, Text.length_encodeField ..⟩]
  | motorConstants c =>
    [⟨.maxCurrent, Bytes.ofWord64 c.maxCurrent.bits, Bytes.length_ofWord64 _⟩,
      ⟨.speedConstant, Bytes.ofWord64 c.speedConstant.bits, Bytes.length_ofWord64 _⟩,
      ⟨.resistance, Bytes.ofWord64 c.resistance.bits, Bytes.length_ofWord64 _⟩,
      ⟨.torqueConstant, Bytes.ofWord64 c.torqueConstant.bits, Bytes.length_ofWord64 _⟩]
  | encoder reduction pulses =>
    [⟨.reduction, Bytes.ofWord64 reduction.bits, Bytes.length_ofWord64 _⟩,
      ⟨.pulses, Bytes.ofWord32 pulses, Bytes.length_ofWord32 _⟩]
  | checks =>
    [⟨.smallCrc, Bytes.ofWord32 a.expectedSmallCrc, Bytes.length_ofWord32 _⟩,
      ⟨.largeCrc, Bytes.ofWord32 a.putSmallCrc.expectedLargeCrc, Bytes.length_ofWord32 _⟩]

variable (s : Setter) (a : ActuatorInfo)

lemma apply_eq_writeAll : s.apply a = writeAll (s.writes a) a := by cases s <;> rfl

lemma entry_writes : (s.writes a).map Write.entry = s.entries := by cases s <;> rfl

lemma nodup_entries : s.entries.Nodup := by cases s <;> simp [entries]

/-- What is stored is what the bytes that are written say. -/
lemma stores_eq : s.stores a = (s.writes a).map fun w => (w.entry, w.entry.decode w.bytes) := by
  cases s <;> simp [stores, writes, Entry.decode, Text.decodeLossy_encodeField]

end Setter

/-! One setter and all getters. -/

section Apply

variable {s : Setter} {e : Entry}

/-- An entry that a call sets is what the call stores in it. -/
theorem get_apply (a : ActuatorInfo) (h : e ∈ s.entries) :
    (e, (s.apply a).get e) ∈ s.stores a := by
  have hnodup : ((s.writes a).map Write.entry).Nodup := s.entry_writes a ▸ s.nodup_entries
  rw [← s.entry_writes a, List.mem_map] at h
  obtain ⟨w, hw, rfl⟩ := h
  rw [s.stores_eq, s.apply_eq_writeAll, get_writeAll hnodup hw]
  exact List.mem_map_of_mem hw

theorem get_apply_of_notMem (a : ActuatorInfo) (h : e ∉ s.entries) :
    (s.apply a).get e = a.get e := by
  rw [s.apply_eq_writeAll]
  refine get_writeAll_of_ne (fun w hw heq => h ?_) a
  rw [← s.entry_writes a, ← heq]
  exact List.mem_map_of_mem hw

/-- Bytes apart from the places of the entries that a call sets are as before. -/
lemma slice_apply {i n : Nat} (a : ActuatorInfo)
    (h : ∀ e ∈ s.entries, i + n ≤ e.field.offset ∨ e.field.stop ≤ i) :
    (s.apply a).bytes.slice i n = a.bytes.slice i n := by
  rw [s.apply_eq_writeAll]
  refine slice_writeAll (fun w hw => h _ ?_) a
  rw [← s.entry_writes a]
  exact List.mem_map_of_mem hw

end Apply

/-! Any calls. -/

section Run

variable {calls : List Setter} {e : Entry}

lemma run_append (l r : List Setter) (a : ActuatorInfo) : run (l ++ r) a = run r (run l a) :=
  List.foldl_append

/-- An entry that no call sets is as it was. -/
theorem get_run_of_notMem (h : ∀ s ∈ calls, e ∉ s.entries) (a : ActuatorInfo) :
    (run calls a).get e = a.get e := by
  induction calls generalizing a with
  | nil => rfl
  | cons s calls ih =>
    rw [List.forall_mem_cons] at h
    exact (ih h.2 _).trans (get_apply_of_notMem a h.1)

/-- An entry is what the last call that sets it has stored. -/
theorem get_run_last {before after : List Setter} {s : Setter} {a : ActuatorInfo}
    (hset : e ∈ s.entries) (hlast : ∀ t ∈ after, e ∉ t.entries) :
    (e, (run (before ++ s :: after) a).get e) ∈ s.stores (run before a) := by
  have hkept : (run after (s.apply (run before a))).get e = (s.apply (run before a)).get e :=
    get_run_of_notMem hlast _
  rw [run_append]
  exact hkept ▸ get_apply (run before a) hset

/-- Bytes apart from the places of all entries that are set are as they were. -/
lemma slice_run {i n : Nat}
    (h : ∀ s ∈ calls, ∀ e ∈ s.entries, i + n ≤ e.field.offset ∨ e.field.stop ≤ i)
    (a : ActuatorInfo) : (run calls a).bytes.slice i n = a.bytes.slice i n := by
  induction calls generalizing a with
  | nil => rfl
  | cons s calls ih =>
    rw [List.forall_mem_cons] at h
    exact (ih h.2 _).trans (slice_apply a h.1)

end Run

/-! Filling in the checks. -/

/-- Filling in checks that fit changes nothing. -/
theorem generateCrc_of_fits {a : ActuatorInfo} (hsmall : a.smallCrc = a.expectedSmallCrc)
    (hlarge : a.largeCrc = a.expectedLargeCrc) : a.generateCrc = a := by
  have hputSmall : a.putSmallCrc = a := by
    rw [putSmallCrc, ← hsmall]
    exact congrArg ActuatorInfo.mk (a.image.put_word32 (by decide))
  rw [generateCrc, hputSmall, putLargeCrc, ← hlarge]
  exact congrArg ActuatorInfo.mk (a.image.put_word32 (by decide))

/-- **The getters of a record after any calls of its setters.**  An entry that no call sets is as it
was, and any other is what the last call that sets it has stored.  Bytes apart from the places of
the entries that are set are as they were.  Once the checks are filled in, both of them fit, and
filling them in again changes nothing.  A text field of `n` bytes shows the longest prefix of a text
that fits into `n - 1` bytes, up to its first zero; if it has no zero, and if these bytes end inside
of a character, it shows a replacement character behind it. -/
theorem getters_after_setters (a : ActuatorInfo) (calls : List Setter) :
    (∀ e, (∀ s ∈ calls, e ∉ s.entries) → (run calls a).get e = a.get e) ∧
    (∀ e before s after, calls = before ++ s :: after → e ∈ s.entries →
      (∀ t ∈ after, e ∉ t.entries) → (e, (run calls a).get e) ∈ s.stores (run before a)) ∧
    (∀ i, (∀ s ∈ calls, ∀ e ∈ s.entries, i < e.field.offset ∨ e.field.stop ≤ i) →
      (run calls a).bytes.byteAt i = a.bytes.byteAt i) ∧
    ((run (calls ++ [.checks]) a).verifyCrc = true ∧
      (run (calls ++ [.checks]) a).smallCrc = (run (calls ++ [.checks]) a).expectedSmallCrc ∧
      (run (calls ++ [.checks]) a).largeCrc = (run (calls ++ [.checks]) a).expectedLargeCrc ∧
      (run (calls ++ [.checks]) a).generateCrc = run (calls ++ [.checks]) a) ∧
    (∀ (f : Field) (b : Bytes) (s : String), f.stop ≤ b.length →
      (f.writeText? b s).bind f.text? = some (Text.shown f.size s)) ∧
    ∀ (n : Nat) (s : String), ∃ p, Text.LongestFit (n - 1) s.toList p ∧
      (Text.shown n s).toList = p.takeWhile (· != '\x00') ++
        if '\x00' ∉ p ∧ Text.CutsInside (n - 1) s.toList then ['\uFFFD'] else [] := by
  refine ⟨fun e h => get_run_of_notMem h a, ?_, fun i h => ?_, ?_,
    fun f b s h => f.text?_writeText? s h, fun n s => ?_⟩
  · rintro e before s after rfl hset hlast
    exact get_run_last hset hlast
  · rw [Bytes.byteAt_eq_slice, slice_run h, ← Bytes.byteAt_eq_slice]
  · rw [run_append]
    have hsmall := (run calls a).smallCrcFits_generateCrc
    have hlarge := (run calls a).putSmallCrc.largeCrc_putLargeCrc
    exact ⟨verifyCrc_generateCrc _, hsmall, hlarge, generateCrc_of_fits hsmall hlarge⟩
  · exact ⟨_, Text.longestFit_fitting .., String.toList_ofList⟩

/-- A record whose version is set twice and whose name is set in between. -/
theorem getters_after_setters_renamed :
    let calls : List Setter := [.version 1 2, .name "ab", .version 3 4]
    ((∀ s ∈ calls, .id ∉ s.entries) ∧ (run calls blank).get .id = blank.get .id) ∧
    ((∀ t ∈ [Setter.version 3 4], .name ∉ t.entries) ∧
      (run calls blank).get .name = .text "ab") ∧
    (run calls blank).bytes.byteAt 72 = blank.bytes.byteAt 72 ∧
    (run (calls ++ [.checks]) blank).verifyCrc = true ∧
    (Field.writeText? ⟨0, 4⟩ (Bytes.zeros 4) "ab€").bind (Field.text? ⟨0, 4⟩) =
      some "ab\uFFFD" := by
  intro calls
  obtain ⟨hkept, hlast, hbytes, hchecks, htext, -⟩ := getters_after_setters blank calls
  have hid : ∀ s ∈ calls, .id ∉ s.entries := by decide
  have hname : ∀ t ∈ [Setter.version 3 4], .name ∉ t.entries := by decide
  have hshown : (run calls blank).get .name = .text "ab" :=
    (Prod.mk.inj (List.mem_singleton.1
      (hlast .name [.version 1 2] (.name "ab") [.version 3 4] rfl (by decide) hname))).2
  have happart : ∀ s ∈ calls, ∀ e ∈ s.entries, 72 < e.field.offset ∨ e.field.stop ≤ 72 := by
    decide
  exact ⟨⟨hid, hkept .id hid⟩, ⟨hname, hshown⟩, hbytes 72 happart, hchecks.1,
    htext ⟨0, 4⟩ (Bytes.zeros 4) "ab€" (by decide)⟩

end ActuatorInfo

end MotorBoard
