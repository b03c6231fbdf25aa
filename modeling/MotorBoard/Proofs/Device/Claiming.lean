/-
# The names that a bring-up claims

A board claims its name twice, as an actuator and as a digital output, and each claim may be
refused.  The claims come behind everything else that may fail, so a bring-up that fails has
claimed nothing, with one exception: a name that is new as an actuator and taken as a digital
output.  It stays claimed as an actuator when the digital output is refused, and from then on the
board of this name is refused as an actuator.

The main results are

* `Registry.claim_eq`: what claiming a name comes to;
* `Device.bringUp_claims`: what a bring-up leaves of the names on the ring.
-/
import MotorBoard.Proofs.Device.Learning

namespace MotorBoard

open Call Board

namespace Registry

variable {product : UInt32} {name : String} {r r' : Registry}

/-- The names on a ring once the name of a board is claimed as an actuator, if the board has
one. -/
def withActuator (product : UInt32) (name : String) (r : Registry) : Registry where
  actuators := if product = Product.wg021 then r.actuators else name :: r.actuators
  digitalOuts := r.digitalOuts

/-- The names on a ring when a board has claimed its own. -/
def claimed (product : UInt32) (name : String) (r : Registry) : Registry :=
  { r.withActuator product name with digitalOuts := name :: r.digitalOuts }

/-- What claiming a name comes to.  A refusal as a digital output comes too late. -/
theorem claim_eq :
    r.claim product name =
      if product ≠ Product.wg021 ∧ name ∈ r.actuators then
        (.error (.duplicateName s!"actuator {name}"), r)
      else if name ∈ r.digitalOuts then
        (.error (.duplicateName s!"digital out {name}"), r.withActuator product name)
      else (.ok (), r.claimed product name) := by
  by_cases hproduct : product = Product.wg021
  · simp [claim, registerDigitalOut, claimed, withActuator, hproduct]
  · by_cases hactuator : name ∈ r.actuators <;>
      simp [claim, registerActuator, registerDigitalOut, claimed, withActuator, hproduct,
        hactuator]

/-- A claim is granted for a name that is new in every kind that the board has. -/
lemma claim_ok (h : r.claim product name = (.ok (), r')) :
    (product ≠ Product.wg021 → name ∉ r.actuators) ∧ name ∉ r.digitalOuts ∧
      r' = r.claimed product name := by
  rw [claim_eq] at h
  split_ifs at h with hactuator hout
  · cases h
  · cases h
  · exact ⟨fun hproduct hmem => hactuator ⟨hproduct, hmem⟩, hout, (Prod.mk.inj h).2.symm⟩

/-- The case in which a refused claim leaves something behind. -/
structure HalfClaimed (product : UInt32) (name : String) (r : Registry) (e : Error)
    (r' : Registry) : Prop where
  actuator : product ≠ Product.wg021
  fresh : name ∉ r.actuators
  taken : name ∈ r.digitalOuts
  reason : e = .duplicateName s!"digital out {name}"
  left : r' = { r with actuators := name :: r.actuators }

/-- A claim that is refused leaves the names as they were, or it is half done. -/
lemma claim_error {e : Error} (h : r.claim product name = (.error e, r')) :
    r' = r ∨ r.HalfClaimed product name e r' := by
  rw [claim_eq] at h
  split_ifs at h with hactuator hout
  · cases h
    exact .inl rfl
  · cases h
    by_cases hproduct : product = Product.wg021
    · exact .inl (by simp [withActuator, hproduct])
    · exact .inr ⟨hproduct, fun hmem => hactuator ⟨hproduct, hmem⟩, hout, rfl,
        by simp [withActuator, hproduct]⟩
  · cases h

/-- After a claim that was half done the name is refused as an actuator. -/
lemma HalfClaimed.refused {e : Error} (h : r.HalfClaimed product name e r') :
    r'.claim product name = (.error (.duplicateName s!"actuator {name}"), r') := by
  obtain ⟨hproduct, -, -, -, rfl⟩ := h
  rw [claim_eq, if_pos ⟨hproduct, List.mem_cons_self⟩]

end Registry

namespace Device

variable {σ μ : Type} {link : Link σ} {models : Models μ} {board : σ → Board}

/-- A bring-up that fails has claimed nothing, unless the name of the board was new as an
actuator and taken as a digital output.  One that succeeds has claimed the name of a programmed
board, and nothing for one that is not programmed. -/
theorem bringUp_claims (h : link.Carries board) {s s' : Stage σ μ} {allowUnprogrammed : Bool}
    {x : Except Stop Unit} (hcall : bringUp link models true allowUnprogrammed s = (x, s')) :
    let product := s.device.slave.product
    let info := Programmer.recorded (board s.bus)
    (∀ e, x = .error (.failed e) →
      s'.registry = s.registry ∨ s.registry.HalfClaimed product info.name e s'.registry) ∧
    (x = .ok () → info.verifyCrc = true →
      (product ≠ Product.wg021 → info.name ∉ s.registry.actuators) ∧
        info.name ∉ s.registry.digitalOuts ∧
        s'.registry = s.registry.claimed product info.name) ∧
    (x = .ok () → info.verifyCrc = false → s'.registry = s.registry) := by
  have hends := bringUp_learned h models s true allowUnprogrammed s rfl
  rw [hcall] at hends
  refine ⟨?_, ?_, ?_⟩
  · rintro e rfl
    obtain hsame | ⟨-, hrefused⟩ := hends.registry e rfl
    · exact .inl hsame
    · exact Registry.claim_error hrefused
  · rintro rfl hvalid
    exact Registry.claim_ok (by simpa [hvalid] using hends.registry)
  · rintro rfl hinvalid
    simpa [hinvalid] using hends.registry

/-- A board in order is brought up as its name is claimed: nothing else can get in the way. -/
lemma bringUp_inOrder (models : Models μ) {s : Stage σ μ} (h : link.Carries board)
    (hs : InOrder s.device (board s.bus)) (hheating : s.device.heatingSettings = none)
    (hram : s.device.config.appRam = .present) {z : Binary64}
    (hz : (board s.bus).stores.keptOffset = some z) (allowUnprogrammed : Bool) :
    ∃ s', bringUp link models true allowUnprogrammed s =
        ((s.registry.claim s.device.slave.product
          (Programmer.recorded (board s.bus)).name).1.mapError .failed, s') ∧
      s'.registry = (s.registry.claim s.device.slave.product
        (Programmer.recorded (board s.bus)).name).2 := by
  have hstops := bringUp_underway h hs models hheating hram hz true allowUnprogrammed
    s hs.underway
  have hlearned := bringUp_learned h models s true allowUnprogrammed s rfl
  rcases hcall : bringUp link models true allowUnprogrammed s with ⟨e | ⟨⟩, s'⟩ <;>
    rw [hcall] at hstops hlearned
  · obtain ⟨-, e', rfl, hrefused⟩ := hstops
    exact ⟨s', by rw [hrefused]; rfl, by rw [hrefused]⟩
  · have hgranted := hlearned.registry
    rw [if_pos ⟨rfl, hs.valid⟩] at hgranted
    exact ⟨s', by rw [hgranted]; rfl, by rw [hgranted]⟩

/-- The record of a caster. -/
def casterInfo : ActuatorInfo :=
  ((ActuatorInfo.blank.setVersion 0 2).setName "fl_caster_rotation_motor").generateCrc

/-- A new driver and the board of the caster, on a ring where some names are claimed. -/
def casterStage (r : Registry) : Stage Ring StandIns :=
  ⟨.fresh, r, {}, ⟨.programmed casterInfo ⟨0x3FE0000000000000⟩, 0⟩⟩

lemma name_casterStage (r : Registry) :
    (Programmer.recorded (casterStage r).bus.board).name = "fl_caster_rotation_motor" := by
  have hname : casterInfo.name = "fl_caster_rotation_motor" := by decide +kernel
  exact (congrArg ActuatorInfo.name (Programmer.recorded_programmed _ _)).trans hname

/-- The caster is brought up as its name is claimed. -/
lemma bringUp_casterStage (r : Registry) :
    ∃ s, bringUp Ring.link StandIns.models true false (casterStage r) =
        ((r.claim Product.wg006 "fl_caster_rotation_motor").1.mapError .failed, s) ∧
      s.registry = (r.claim Product.wg006 "fl_caster_rotation_motor").2 := by
  have horder : fresh.InOrder (Board.programmed casterInfo ⟨0x3FE0000000000000⟩) :=
    inOrder_programmed casterInfo _ (ActuatorInfo.verifyCrc_generateCrc _) (by decide +kernel)
  rw [← name_casterStage r]
  exact bringUp_inOrder (s := casterStage r) StandIns.models Ring.carries horder rfl rfl
    (Stores.keptOffset_programmed casterInfo _) false

/-- A name that nobody has claimed is claimed as an actuator and as a digital output. -/
theorem bringUp_claims_caster :
    let others : Registry := ⟨["fr_caster_rotation_motor"], ["fr_caster_rotation_motor"]⟩
    ∃ s, bringUp Ring.link StandIns.models true false (casterStage others) = (.ok (), s) ∧
      s.registry = others.claimed Product.wg006 "fl_caster_rotation_motor" := by
  intro others
  have hgranted : others.claim Product.wg006 "fl_caster_rotation_motor" =
    (.ok (), others.claimed Product.wg006 "fl_caster_rotation_motor") := by decide
  have hvalid : (Programmer.recorded (casterStage others).bus.board).verifyCrc = true := by
    rw [casterStage, Programmer.recorded_programmed]
    exact ActuatorInfo.verifyCrc_generateCrc _
  obtain ⟨s, hcall, -⟩ := bringUp_casterStage others
  rw [hgranted] at hcall
  obtain ⟨-, hclaims, -⟩ := bringUp_claims Ring.carries hcall
  obtain ⟨-, -, hregistry⟩ := hclaims rfl hvalid
  exact ⟨s, hcall, hregistry.trans (congrArg (others.claimed _) (name_casterStage others))⟩

/-- A name that is taken as a digital output only.  The bring-up fails, and yet the name is
claimed as an actuator behind it. -/
theorem bringUp_half_claimed :
    let taken : Registry := { digitalOuts := ["fl_caster_rotation_motor"] }
    ∃ s, bringUp Ring.link StandIns.models true false (casterStage taken) =
        (.error (.failed (.duplicateName "digital out fl_caster_rotation_motor")), s) ∧
      s.registry ≠ taken := by
  intro taken
  have hrefused : taken.claim Product.wg006 "fl_caster_rotation_motor" =
    (.error (.duplicateName "digital out fl_caster_rotation_motor"),
      { taken with actuators := ["fl_caster_rotation_motor"] }) := by decide
  obtain ⟨s, hcall, hregistry⟩ := bringUp_casterStage taken
  rw [hrefused] at hcall hregistry
  exact ⟨s, hcall, by rw [hregistry]; decide⟩

end Device

end MotorBoard
