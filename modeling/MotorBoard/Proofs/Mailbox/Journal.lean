/-
# A journal of the frames

A link may keep a journal: each frame as it was sent, and what became of it.  Nothing that a
channel does depends on the journal, so whatever is shown of calls with a journal holds of calls
without one.

A command is on its way in every frame that writes to the beginning of the mailbox of commands.
When a frame is lost, its telegrams are sent again as the bus has left them.  Most buses leave
them as they were, but nothing keeps one from putting other bytes into them, and then a frame
carries a command that nobody has asked for.  The journal shows which ones these are: the bus
has left them in a frame that was sent without them.  The main results are

* `Channel.journal_unseen`: a request comes to the same end without its journal;
* `Journal.own_eq_sent`: all commands in the journal are a call's own, if the bus puts none in;
* `Link.Journals.send_confined`: what is known of the commands in a frame stays known, however
  often the frame is sent.
-/
import MotorBoard.Proofs.Bus.Retry
import MotorBoard.Proofs.Mailbox.Pairs

namespace MotorBoard

open Call

/-- The commands in a frame. -/
def commandsIn (ts : List Telegram) : List Bytes :=
  (ts.filter fun t => t.direction = .write ∧ t.address = Mailbox.commandAddress).map (·.data)

@[simp] lemma commandsIn_nil : commandsIn [] = [] := rfl

@[simp] lemma commandsIn_append (ts us : List Telegram) :
    commandsIn (ts ++ us) = commandsIn ts ++ commandsIn us := by
  rw [commandsIn, List.filter_append, List.map_append]
  rfl

@[simp] lemma commandsIn_rewound (ts : List Telegram) :
    commandsIn (ts.map Telegram.rewound) = commandsIn ts := by
  rw [commandsIn, List.filter_map, List.map_map]
  rfl

/-- The telegrams that are left to the sender of a frame. -/
def Exchange.left : Exchange → List Telegram
  | .returned ts => ts
  | .lost ts => ts
  | .died => []

/-- A frame as it was sent, and what became of it. -/
structure Passage where
  sent : List Telegram
  outcome : Exchange
deriving DecidableEq, Repr

/-- Whether the bus has put a command into a frame. -/
def Passage.plants (p : Passage) (command : Bytes) : Bool :=
  command ∈ commandsIn p.outcome.left ∧ command ∉ commandsIn p.sent

/-- The frames that were sent, latest first. -/
abbrev Journal := List Passage

namespace Journal

/-- All commands that were sent. -/
def sent (j : Journal) : List Bytes := j.flatMap fun p => commandsIn p.sent

/-- Whether the bus has put a command into one of the frames. -/
def planted (j : Journal) (command : Bytes) : Bool := j.any (·.plants command)

lemma planted_cons (p : Passage) (j : Journal) (command : Bytes) :
    planted (p :: j) command = (p.plants command || planted j command) := rfl

/-- The commands that were sent without the bus having put them into an earlier frame. -/
def own : Journal → List Bytes
  | [] => []
  | p :: j => (commandsIn p.sent).filter (fun command => !planted j command) ++ own j

/-- A bus that puts no commands into frames makes no difference. -/
theorem own_eq_sent {j : Journal} (hj : ∀ p ∈ j, ∀ command, p.plants command = false) :
    j.own = j.sent := by
  induction j with
  | nil => rfl
  | cons p j ih =>
    have hrest : ∀ q ∈ j, ∀ command, q.plants command = false := fun q hq =>
      hj q (List.mem_cons_of_mem p hq)
    have hnone : ∀ command, planted j command = false := fun command =>
      List.any_eq_false.2 fun q hq => by simp [hrest q hq command]
    simp [own, sent, hnone, ih hrest]

/-- The commands that a journal shows are in `C`, and so are those in a frame at hand, but for
what the bus has put in. -/
structure Confined (C : Bytes → Prop) (frame : List Telegram) (j : Journal) : Prop where
  own : ∀ command ∈ j.own, C command
  frame : ∀ command ∈ commandsIn frame, C command ∨ j.planted command = true

variable {C : Bytes → Prop} {frame ts : List Telegram} {j : Journal}

/-- Before the first frame. -/
lemma Confined.start (hC : ∀ command ∈ commandsIn frame, C command) : Confined C frame [] :=
  ⟨nofun, fun command hcommand => .inl (hC command hcommand)⟩

lemma Confined.frame_of_subset (h : Confined C frame j)
    (hsub : commandsIn ts ⊆ commandsIn frame) : Confined C ts j :=
  ⟨h.own, fun command hcommand => h.frame command (hsub hcommand)⟩

/-- Another frame, whose commands are in `C`. -/
lemma Confined.add (h : Confined C frame j) (hC : ∀ command ∈ commandsIn ts, C command) :
    Confined C (frame ++ ts) j := by
  refine ⟨h.own, fun command hcommand => ?_⟩
  rw [commandsIn_append, List.mem_append] at hcommand
  exact hcommand.elim (h.frame command) fun hts => .inl (hC command hts)

/-- One of two frames is sent.  Of the commands that it leaves behind, the bus has put in those
that it did not carry. -/
lemma Confined.send (h : Confined C (frame ++ ts) j) (x : Exchange) :
    Confined C (frame ++ x.left) (⟨ts, x⟩ :: j) := by
  have hmono : ∀ command, C command ∨ planted j command = true →
      C command ∨ planted (⟨ts, x⟩ :: j) command = true := by
    intro command hcommand
    exact hcommand.imp_right fun hj => by rw [planted_cons, hj, Bool.or_true]
  refine ⟨fun command hcommand => ?_, fun command hcommand => ?_⟩
  · rw [Journal.own, List.mem_append, List.mem_filter] at hcommand
    obtain ⟨hsent, hnot⟩ | hold := hcommand
    · -- a command of this very frame, which nobody had put in before
      refine (h.frame command (by simp [hsent])).resolve_right fun hj => ?_
      simp [hj] at hnot
    · exact h.own command hold
  · rw [commandsIn_append, List.mem_append] at hcommand
    -- what neither frame carried, the bus has just put in
    by_cases hsent : command ∈ commandsIn frame ++ commandsIn ts
    · exact hmono command (h.frame command (by rwa [commandsIn_append]))
    · rw [List.mem_append, not_or] at hsent
      have hplants : Passage.plants ⟨ts, x⟩ command = true :=
        decide_eq_true ⟨hcommand.resolve_left hsent.1, hsent.2⟩
      exact .inr (by rw [planted_cons, hplants, Bool.true_or])

end Journal

open Journal

variable {σ : Type}

/-- A link that keeps a journal. -/
structure Link.Journals (link : Link σ) (journal : σ → Journal) : Prop where
  exchange : ∀ ts s, journal (link.exchange ts s).2 = ⟨ts, (link.exchange ts s).1⟩ :: journal s
  pause : ∀ us s, journal (link.pause us s) = journal s

namespace Link.Journals

variable {link : Link σ} {journal : σ → Journal} {C : Bytes → Prop}

/-- A frame is sent while the commands in another one are remembered, too. -/
theorem send_confined (h : link.Journals journal) (frame ts : List Telegram) (n : Nat) :
    Triple (fun s => Confined C (frame ++ ts) (journal s)) (link.send ts n)
      (fun d s => Confined C (frame ++ d.telegrams) (journal s))
      fun _ s => Confined C frame (journal s) := by
  have hsend := link.send_triple (I := fun _ us s => Confined C (frame ++ us) (journal s))
    (A := fun _ us s => Confined C (frame ++ us) (journal s))
    (D := fun _ s => Confined C frame (journal s)) (fun _ us s hs => ?_) n 0 ts
  · refine hsend.post fun d s hd => ?_
    cases hd with
    | returned _ ha => exact ha
    | lost hl => exact hl
  · -- one attempt: the telegrams that it leaves are the ones to be sent again
    have hx := h.exchange us s
    have hconfined := hs.send (link.exchange us s).1
    rw [← hx] at hconfined
    revert hconfined
    rcases link.exchange us s with ⟨vs | vs | _, s'⟩
    · exact id
    · exact fun hc => hc.frame_of_subset (by simp [Exchange.left])
    · exact fun hc => hc.frame_of_subset (by simp [Exchange.left])

end Link.Journals

/-- The link with a journal beside its ring. -/
def Link.journaled (link : Link σ) : Link (σ × Journal) where
  exchange ts s := ((link.exchange ts s.1).1, (link.exchange ts s.1).2,
    ⟨ts, (link.exchange ts s.1).1⟩ :: s.2)
  pause us s := (link.pause us s.1, s.2)
  clock s := link.clock s.1
  settling s := link.settling s.1

lemma Link.journaled_journals (link : Link σ) : link.journaled.Journals Prod.snd :=
  ⟨fun _ _ => rfl, fun _ _ => rfl⟩

lemma Link.journaled_alike (link : Link σ) :
    link.Alike (fun s t => t.1 = s) link.journaled where
  exchange := by
    rintro ts _ t rfl
    exact ⟨rfl, rfl⟩
  pause := by
    rintro us _ t rfl
    rfl
  clock := by
    rintro _ t rfl
    rfl
  settling := by
    rintro _ t rfl
    rfl

namespace Channel

/-- The channel over a link with a journal. -/
def journaled (c : Channel σ) : Channel (σ × Journal) := c.withLink c.link.journaled

/-- Whoever keeps a journal comes to the same results, the same mailbox and the same ring, if
the two calls agree but for the journal. -/
lemma unseen_of_agree {α : Type} {call : Call (Mailbox × σ) α}
    {call' : Call (Mailbox × σ × Journal) α}
    (hagree : Agree (Beside Mailbox fun s t => t.1 = s) Eq call call') {m m' : Mailbox} {s s' : σ}
    {r : Except Stop α} (hcall : call (m, s) = (r, m', s')) (j : Journal) :
    ∃ j', call' (m, s, j) = (r, m', s', j') := by
  have hsame := hagree (m, s) (m, s, j) ⟨rfl, rfl⟩
  rw [hcall] at hsame
  revert hsame
  rcases call' (m, s, j) with ⟨e | a, m₁, s₁, j'⟩ <;> rintro ⟨⟩
  · rename_i hR
    obtain ⟨rfl, rfl⟩ : m' = m₁ ∧ s₁ = s' := hR
    exact ⟨j', rfl⟩
  · rename_i hS hR
    obtain ⟨rfl, rfl⟩ : m' = m₁ ∧ s₁ = s' := hR
    exact ⟨j', hS ▸ rfl⟩

variable {c : Channel σ} {m m' : Mailbox} {s s' : σ}

lemma read_unseen {address : UInt16} {length : Nat} {r : Except Stop Bytes}
    (hread : c.read address length (m, s) = (r, m', s')) (j : Journal) :
    ∃ j', c.journaled.read address length (m, s, j) = (r, m', s', j') :=
  unseen_of_agree (read_agree_of_held (c.link.journaled_alike.readHeld_agree _ _)) hread j

lemma write_unseen {address : UInt16} {data : Bytes} {r : Except Stop Unit}
    (hwrite : c.write address data (m, s) = (r, m', s')) (j : Journal) :
    ∃ j', c.journaled.write address data (m, s, j) = (r, m', s', j') :=
  unseen_of_agree (write_agree_of_held (c.link.journaled_alike.writeHeld_agree _ _)) hwrite j

theorem journal_unseen {request : Request} {r : Except Stop Bytes}
    (hserve : c.serve request (m, s) = (r, m', s')) (j : Journal) :
    ∃ j', c.journaled.serve request (m, s, j) = (r, m', s', j') :=
  unseen_of_agree (c.link.journaled_alike.serve_agree request) hserve j

end Channel

end MotorBoard
