/-
# A link with a board behind it

A link carries a board when its frames reach the board and nothing but frames does; how its
clock runs does not matter.  Every fault in the board's queue hits one frame, so a frame
that was lost has cost one fault, and only a fault that is not a loss makes telegrams come
back with counters that the board has not given them.

What is said of a frame that is sent again and again is said with two conditions: `I` holds
while the frame is on its way, and `A` holds of the telegrams as the board has left them.
The main results are

* `Board.exchange_ends`: the ways in which an exchange can end;
* `Link.Carries.send_triple`: what the board does with a frame, a frame that is sent again
  and again does, and every frame lost has cost a fault.
-/
import MotorBoard.Proofs.Board.Conduct
import MotorBoard.Proofs.Bus.Retry

namespace MotorBoard

/-- Whether a fault makes its frame get lost. -/
def Fault.isLoss : Fault → Bool
  | workingCounter _ => false
  | _ => true

namespace Board

open Call

/-- All faults that are still to come are losses. -/
def OnlyLosses (b : Board) : Prop := ∀ f ∈ b.faults, f.2.isLoss = true

lemma Follows.onlyLosses {b₀ b : Board} (h : Follows b₀ b) (h₀ : b₀.OnlyLosses) :
    b.OnlyLosses :=
  fun f hf => h₀ f (h.faults.subset hf)

lemma length_faults_inject (t : Trigger) (f : Fault) (n : Nat) (b : Board) :
    (b.inject t f n).faults.length = b.faults.length + n := by
  rw [inject, List.length_append, List.length_replicate]

lemma OnlyLosses.of_none {b : Board} (h : b.faults = []) : b.OnlyLosses := by
  simp [OnlyLosses, h]

lemma OnlyLosses.inject {b : Board} (h : b.OnlyLosses) {t : Trigger} {f : Fault}
    (hf : f.isLoss = true) (n : Nat) : (b.inject t f n).OnlyLosses := by
  intro e he
  rcases List.mem_append.1 he with he | he
  · exact h e he
  · rw [List.eq_of_mem_replicate he]
    exact hf

/-- The board after one more frame was sent, with the faults that are left. -/
def reached (faults : List (Trigger × Fault)) (b : Board) : Board :=
  { b with frames := b.frames + 1, faults := faults }

lemma Follows.reached {b₀ b : Board} (h : Follows b₀ b) {fs : List (Trigger × Fault)}
    (hfs : fs.Sublist b.faults) : Follows b₀ (b.reached fs) :=
  h.trans ⟨{ Alike.refl b with }, hfs, fun h => ⟨h.1, h.2, h.3, h.4⟩⟩

/-- A fault that hits a frame is taken out of the queue. -/
lemma nextFault_spec (ts : List Telegram) (fs : List (Trigger × Fault)) :
    (nextFault ts fs).2.Sublist fs ∧
      ∀ f, (nextFault ts fs).1 = some f →
        (nextFault ts fs).2.length < fs.length ∧ ∃ t, (t, f) ∈ fs := by
  induction fs with
  | nil =>
    refine ⟨.refl _, fun f h => ?_⟩
    cases h
  | cons e rest ih =>
    obtain ⟨t, f⟩ := e
    rw [nextFault]
    split
    · refine ⟨.cons _ (.refl _), fun g hg => ⟨Nat.lt_succ_self _, t, ?_⟩⟩
      obtain rfl : f = g := Option.some.inj hg
      exact List.mem_cons_self
    · refine ⟨ih.1.cons_cons _, fun g hg => ?_⟩
      obtain ⟨hl, t', ht'⟩ := ih.2 g hg
      exact ⟨Nat.succ_lt_succ hl, t', List.mem_cons_of_mem _ ht'⟩

/-- An exchange whose fault is known. -/
lemma exchange_eq {ts : List Telegram} {b : Board} {f : Option Fault}
    {fs : List (Trigger × Fault)} (hf : nextFault ts b.faults = (f, fs)) :
    b.exchange ts =
      if f = some .loseRequest then (.lost ts, b.reached fs)
      else
        match actAll ts (b.reached fs) with
        | (.ok ts, b) => (deliver f ts, b)
        | (.error _, b) => (.died, b) := by
  simp only [exchange, hf]
  rfl

/-- The ways in which an exchange can end.  The request is lost, or the board acts on the
frame; then the board dies, or the answer is lost, or it comes back, perhaps with other
counters. -/
theorem exchange_ends {ts : List Telegram} {b : Board} {R L : List Telegram → Board → Prop}
    {D : Board → Prop}
    (request : ∀ fs, fs.Sublist b.faults → fs.length < b.faults.length → L ts (b.reached fs))
    (act : ∀ fs, fs.Sublist b.faults →
      Ends
        (fun us b' =>
          R us b' ∧
            (fs.length < b.faults.length →
              L us b' ∧ (¬ b.OnlyLosses → ∀ n, R (us.map (Telegram.withCounter n)) b')))
        (fun _ => D) (actAll ts (b.reached fs))) :
    Exchange.Ends R L D (b.exchange ts) := by
  obtain ⟨hsub, hspec⟩ := nextFault_spec ts b.faults
  have hact := act _ hsub
  rcases hf : nextFault ts b.faults with ⟨f, fs⟩
  rw [hf] at hsub hspec hact
  rw [exchange_eq hf]
  split
  · next h => exact request fs hsub (hspec _ h).1
  · next h =>
    revert hact
    rcases actAll ts (b.reached fs) with ⟨e | us, b'⟩
    · exact id
    · rintro ⟨hR, hL⟩
      -- a lost request was dealt with above, so the board has acted on the frame
      rcases f with _ | _ | _ | n
      · exact hR
      · exact absurd rfl h
      · exact (hL (hspec _ rfl).1).1
      · obtain ⟨hlt, t, ht⟩ := hspec _ rfl
        exact (hL hlt).2 (fun h => Bool.false_ne_true (h _ ht)) n

/-- A read that gives bytes gives as many as were asked for. -/
lemma read_length (address : UInt16) (n : Nat) :
    Triple (fun _ => True) (read address n) (fun r _ => ∀ d, r = some d → d.length = n)
      fun _ _ => True := by
  have hload : ∀ b : Board, ∀ d, b.memory.load? address.toNat n = some d → d.length = n := by
    intro b d hd
    rw [Memory.load?] at hd
    split at hd
    · exact Option.some.inj hd ▸ Memory.length_range ..
    · cases hd
  have hnone : ∀ d : Bytes, none = some d → d.length = n := by
    intro d hd
    cases hd
  have hregisters : ∀ b : Board, ∀ d, b.readRegisters address.toNat n = some d →
      d.length = n := by
    intro b d hd
    rw [readRegisters] at hd
    split at hd
    · next h =>
      obtain rfl := Option.some.inj hd
      rw [Bytes.slice, List.length_take, List.length_drop, registers, List.length_append,
        SyncManager.length_encode, SyncManager.length_encode]
      omega
    · cases hd
  refine .ite (fun _ => ?results) fun _ => .ite (fun _ => ?commands) fun _ =>
    Triple.get_bind fun b _ => .ite (fun _ => ?registers) fun _ => ?memory
  case results =>
    refine Triple.get_bind fun b _ => .ite (fun _ => ?full) fun _ => ?empty
    case empty => exact .pure _ fun _ _ => hnone
    case full =>
      cases hl : b.memory.load? address.toNat n with
      | none => exact .stop _ fun _ _ => trivial
      | some data =>
        have hd : ∀ d, some data = some d → d.length = n := fun d h => hload b d (hl.trans h)
        refine .ite (fun _ => ?taken) fun _ => .pure _ fun _ _ => hd
        exact .bind (.set (Q := fun _ _ => True) _ fun _ _ => trivial) fun _ =>
          .pure _ fun _ _ => hd
  case commands => exact .pure _ fun _ _ => hnone
  case registers => exact .pure _ fun _ _ => hregisters b
  case memory => exact .pure _ fun _ _ => hload b

/-- The board answers a telegram with one that asks for the same. -/
lemma act_same (t : Telegram) :
    Triple (fun _ => True) (act t) (fun u _ => Telegram.Same t u) fun _ _ => True := by
  refine Triple.get_bind fun b _ => .ite (fun _ => ?addressed) fun _ => ?passed
  case passed => exact .pure _ fun _ _ => .refl t
  case addressed =>
    cases hd : t.direction with
    | read =>
      refine ((read_length _ _).pre fun _ _ => trivial).bind fun r => ?_
      cases r with
      | none => exact .pure _ fun _ _ => .refl t
      | some data =>
        refine .pure _ fun _ h => ⟨hd.symm, rfl, rfl, rfl, h _ rfl, fun h' => ?_⟩
        exact absurd (hd.symm.trans h') (by decide)
    | write =>
      have hwrite : Triple (fun b' => b' = b) (write t.address t.data) (fun _ _ => True)
          fun _ _ => True := by
        intro b' _
        rcases write t.address t.data b' with ⟨e | _, _⟩ <;> trivial
      refine hwrite.bind fun ok => .ite (fun _ => ?taken) fun _ => ?refused
      case taken => exact .pure _ fun _ _ => ⟨hd.symm, rfl, rfl, rfl, rfl, fun _ => rfl⟩
      case refused => exact .pure _ fun _ _ => .refl t

/-- The board answers a frame with telegrams that ask for the same. -/
lemma actAll_same (ts : List Telegram) :
    Triple (fun _ => True) (actAll ts) (fun us _ => SameFrame ts us) fun _ _ => True := by
  induction ts with
  | nil => exact .pure _ fun _ _ => .nil
  | cons t rest ih =>
    have hrest (u : Telegram) : Triple (fun _ => Telegram.Same t u)
        (actAll rest >>= fun us => Pure.pure (u :: us)) (fun us _ => SameFrame (t :: rest) us)
        fun _ _ => True :=
      Triple.pre (Triple.lift fun hu => ih.map fun us _ hus => .cons hu hus) fun _ h =>
        ⟨h, trivial⟩
    exact (act_same t).bind hrest

end Board

/-- A link carries a board when its frames reach the board and its pauses leave the board
alone. -/
structure Link.Carries {σ : Type} (link : Link σ) (board : σ → Board) : Prop where
  exchange : ∀ ts s,
    ((link.exchange ts s).1, board (link.exchange ts s).2) = (board s).exchange ts
  pause : ∀ us s, board (link.pause us s) = board s

/-- The ring carries its board. -/
lemma Ring.carries : Ring.link.Carries Ring.board := ⟨fun _ _ => rfl, fun _ _ => rfl⟩

/-- What is known of a frame on its way when `j` of `m` faults went into it. -/
structure Board.Underway (b₀ : Board) (frame : List Telegram)
    (I : Nat → List Telegram → Board → Prop) (m j : Nat) (ts : List Telegram) (b : Board) :
    Prop where
  follows : b₀.Follows b
  faults : b.faults.length + j ≤ m
  same : SameFrame frame ts
  holds : I j ts b

/-- What is known of a frame that came back after `j` of `m` faults went into it. -/
structure Board.Answered (b₀ : Board) (frame : List Telegram)
    (A : Nat → List Telegram → Board → Prop) (m j : Nat) (ts : List Telegram) (b : Board) :
    Prop where
  follows : b₀.Follows b
  faults : b.faults.length + j ≤ m
  same : SameFrame frame ts
  /-- Only a fault that is not a loss changes the counters. -/
  holds : ∃ us, A j us b ∧
    (ts = us ∨ ¬ b₀.OnlyLosses ∧ ∃ n, ts = us.map (Telegram.withCounter n))

/-- The data of a frame's first telegram. -/
def firstData (ts : List Telegram) : Bytes := (ts.head?.map (·.data)).getD []

lemma firstData_map_withCounter (n : UInt16) (ts : List Telegram) :
    firstData (ts.map (Telegram.withCounter n)) = firstData ts := by
  cases ts <;> rfl

/-- What came back are the telegrams as the board has left them, up to their counters, and
with their counters where there are only losses. -/
lemma Board.Answered.reply {b₀ : Board} {frame : List Telegram}
    {A : Nat → List Telegram → Board → Prop} {m j : Nat} {ts : List Telegram} {b : Board}
    (h : b₀.Answered frame A m j ts b) :
    ∃ us, A j us b ∧ firstData ts = firstData us ∧ (b₀.OnlyLosses → ts = us) := by
  obtain ⟨us, hA, rfl | ⟨hloss, n, rfl⟩⟩ := h.holds
  · exact ⟨ts, hA, rfl, fun _ => rfl⟩
  · exact ⟨us, hA, firstData_map_withCounter n us, fun h₀ => absurd h₀ hloss⟩

namespace Link.Carries

open Call Board

variable {σ : Type} {link : Link σ} {board : σ → Board}

lemma exchange_ends (h : link.Carries board) {ts : List Telegram} {s : σ}
    {R L : List Telegram → Board → Prop} {D : Board → Prop}
    (hb : Exchange.Ends R L D ((board s).exchange ts)) :
    Exchange.Ends (fun ts s => R ts (board s)) (fun ts s => L ts (board s))
      (fun s => D (board s)) (link.exchange ts s) := by
  rw [← h.exchange] at hb
  revert hb
  rcases link.exchange ts s with ⟨ts' | ts' | _, s'⟩ <;> exact id

/-- The rule for frames that are sent to the board until they come back. -/
theorem send_triple (h : link.Carries board) (b₀ : Board) (frame : List Telegram)
    {I A : Nat → List Telegram → Board → Prop} {D : Board → Prop}
    (blind : ∀ j ts b fs, I j ts b → I j ts (b.reached fs))
    (rewind : ∀ j ts b, I j ts b → I (j + 1) (ts.map Telegram.rewound) b)
    (act : ∀ j ts, SameFrame frame ts →
      Triple (fun b => b₀.Follows b ∧ I j ts b) (actAll ts)
        (fun us b => A j us b ∧ I (j + 1) (us.map Telegram.rewound) b) fun _ b => D b)
    (m n j : Nat) (ts : List Telegram) :
    Triple (fun s => Underway b₀ frame I m j ts (board s)) (link.send ts n)
      (Link.Sent (fun j ts s => Underway b₀ frame I m j ts (board s))
        (fun j ts s => Answered b₀ frame A m j ts (board s)) j n)
      (fun e s => e = .died ∧ D (board s)) := by
  refine link.send_triple (I := fun j ts s => Underway b₀ frame I m j ts (board s))
    (A := fun j ts s => Answered b₀ frame A m j ts (board s))
    (D := fun e s => e = .died ∧ D (board s)) (fun j ts s hs => ?_) n j ts
  have hf := hs.faults
  refine h.exchange_ends (D := fun b => Stop.died = .died ∧ D b) (R := Answered b₀ frame A m j)
    (L := fun us b => Underway b₀ frame I m (j + 1) (us.map Telegram.rewound) b)
    (Board.exchange_ends (fun fs hsub hlt => ?_) fun fs hsub => ?_)
  · -- the request was lost, and the board has not seen the frame
    have hm : fs.length + (j + 1) ≤ m := by omega
    exact ⟨hs.follows.reached hsub, hm, hs.same.map_rewound, blind _ _ _ _ (rewind _ _ _ hs.holds)⟩
  · have hb : b₀.Follows ((board s).reached fs) := hs.follows.reached hsub
    have hkept := actAll_follows ((board s).reached fs) ts
    have hT := ((act j ts hs.same).and hkept).and (actAll_same ts)
    have hpre : ((b₀.Follows ((board s).reached fs) ∧ I j ts ((board s).reached fs)) ∧
        ((board s).reached fs).Follows ((board s).reached fs)) ∧ True :=
      ⟨⟨⟨hb, blind _ _ _ _ hs.holds⟩, .refl _⟩, trivial⟩
    refine (hT _ hpre).imp ?_ fun _ _ hD => ⟨rfl, hD.1.1⟩
    rintro us b ⟨⟨⟨hA, hI⟩, hfollows⟩, hsame⟩
    have hl : b.faults.length ≤ fs.length := hfollows.faults.length_le
    have hl' : fs.length ≤ (board s).faults.length := hsub.length_le
    have hsame' := hs.same.trans hsame
    have hm : b.faults.length + j ≤ m := by omega
    refine ⟨⟨hb.trans hfollows, hm, hsame', us, hA, .inl rfl⟩, fun hlt => ⟨?_, fun hloss n => ?_⟩⟩
    · -- the answer was lost, and the same telegrams are sent again
      have hm : b.faults.length + (j + 1) ≤ m := by omega
      exact ⟨hb.trans hfollows, hm, hsame'.map_rewound, hI⟩
    · -- the counters were forged
      exact ⟨hb.trans hfollows, hm, hsame'.map_withCounter n, us, hA,
        .inr ⟨fun h₀ => hloss (hs.follows.onlyLosses h₀), n, rfl⟩⟩

end Link.Carries

end MotorBoard
