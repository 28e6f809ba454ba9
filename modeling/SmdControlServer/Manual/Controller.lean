import SmdControlServer.Commands.Footprint

/-!
# The controller of the manual mode

What `_manual_mode_controller` does, seen from outside: it assigns no global, and it
enters `SMD_jog` only after a test of the flag that succeeded.  A point of its code
is quiet when nothing on the way to the next test of the flag moves the motor.
-/

namespace SmdControlServer

open CString Interaction

/-- A register write of a command that stops the motor. -/
def StopWrite (write : Int × Int) : Prop :=
  write ∈ holdMoveProgram.writes ∨ write ∈ immediateStopProgram.writes

instance : DecidablePred StopWrite := fun _ => inferInstanceAs (Decidable (_ ∨ _))

/-- The request enters `SMD_jog`, or it is a register write of no command that stops
the motor. -/
def Request.MovesMotor : Request → Prop
  | .note (.smdJog _ _ _ _ _) => True
  | .modbusWriteRegister _ _ register value => ¬ StopWrite (register, value)
  | _ => False

/-- What the controller may do with its commands; only if `jogs`, move the motor. -/
def Rights.controller (jogs : Prop) : Rights where
  sends cmd := jogs ∨ cmd = holdMoveProgram ∨ cmd = immediateStopProgram
  writes write := jogs ∨ StopWrite write
  assigns _ := False
  notes n := jogs ∧ n.OfMotor ∨ n = .smdHoldMove
  setsErrno _ := True
  writes_of_sends := by
    rintro cmd (hjogs | rfl | rfl) write hwrite
    · exact Or.inl hjogs
    · exact Or.inr (Or.inl hwrite)
    · exact Or.inr (Or.inr hwrite)

/-- All that the controller may do, its loop included.  Unless `jogs`, the flag is
found cleared. -/
def controllerPolicy (jogs : Prop) : Policy serverSignature where
  allows o := o = .readManualFile ∨ (Rights.controller jogs).policy.allows o
  expects
    | .globals, g => jogs ∨ g.statusManualModeEnable ≠ 1
    | .modbusErrno ctx, e => e = ctx.session.connectErrno
    | _, _ => True
  calls q := q = .smdHoldMove ∨ q = .smdImmedStop ∨ ∃ locals, q = .manualModeLoop locals

/-- A point of the controller's code. -/
abbrev OfController {α : Type} (p : Server α) : Prop :=
  p.Obeys (controllerPolicy True)

/-- A point of the controller's code from which the motor is not moved until the flag
has been tested. -/
abbrev Quiet {α : Type} (p : Server α) : Prop :=
  p.Obeys (controllerPolicy False)

section

variable {jogs : Prop} {α : Type}

theorem Rights.allowsStops_controller : (Rights.controller jogs).AllowsStops where
  hold := Or.inr (Or.inl rfl)
  holdNote := Or.inr rfl
  stop := Or.inr (Or.inr rfl)

theorem obeys_of_within {p : Server α} (hp : Within (Rights.controller jogs) p) :
    p.Obeys (controllerPolicy jogs) := by
  refine Program.Obeys.mono hp (fun _ ho => Or.inr ho) ?_ ?_
  · intro o _ x hx
    cases o with
    | writeClient cl message => exact fun _ _ => trivial
    | modbusNewTcp => trivial
    | modbusErrno ctx => exact hx
    | _ => trivial
  · rintro q (rfl | rfl)
    · exact Or.inl rfl
    · exact Or.inr (Or.inl rfl)

theorem composed_jogAt (direction : SmdJogDirection) (speed : Int) :
    Composed (Rights.controller True) (jogAt direction speed) :=
  composed_smdJog (Or.inl trivial) (Or.inl ⟨trivial, trivial⟩)

theorem composed_hold : Composed (Rights.controller True) smdHoldMove :=
  composed_smdHoldMove (Or.inl trivial) (Or.inr rfl)

/-- The code for a sample, in which only the jog and the hold talk to the drive. -/
theorem composed_applySample {rights : Rights}
    (hjog : ∀ direction speed, Composed rights (jogAt direction speed))
    (hhold : Composed rights smdHoldMove) (locals : ControllerLocals) (potValue : Int)
    (jogValue : SmdJogDirection) :
    Composed rights (applySample locals potValue jogValue) := by
  unfold applySample
  refine composed_ite ?_ (composed_ite ?_ (composed_ite ?_ (composed_pure _)))
  · exact composed_ite (composed_bind (hjog _ _) fun _ => composed_pure _) (composed_pure _)
  · exact composed_ite (composed_bind hhold fun _ => composed_pure _) (composed_pure _)
  · have hjogAgain : ∀ locals : ControllerLocals, Composed rights (do
        let _ ← jogAt locals.currentJogDirection locals.currentSpeed
        pure locals) := fun locals =>
      composed_bind (hjog _ _) fun _ => composed_pure _
    refine composed_ite (composed_bind hhold fun _ => ?_) (hjogAgain _)
    exact composed_bind (composed_ask trivial) fun _ => hjogAgain _

theorem composed_decodeSample {rights : Rights} (herange : rights.setsErrno erange)
    (text : Text) : Composed rights (decodeSample text) := by
  unfold decodeSample
  refine composed_conversion (fun _ => herange) fun _ => ?_
  exact composed_conversion (fun _ => herange) fun _ => composed_pure _

/-- What follows the read of the file. -/
theorem composed_handleSample {rights : Rights} (herange : rights.setsErrno erange)
    (hjog : ∀ direction speed, Composed rights (jogAt direction speed))
    (hhold : Composed rights smdHoldMove) (locals : ControllerLocals) :
    Composed rights (handleSample locals) := by
  unfold handleSample
  refine composed_ite ?_ (composed_pure _)
  refine composed_bind (composed_decodeSample herange _) fun sample => ?_
  exact composed_ite (composed_applySample hjog hhold _ _ _) (composed_pure _)

theorem composed_handleSample_controller (locals : ControllerLocals) :
    Composed (Rights.controller True) (handleSample locals) :=
  composed_handleSample trivial composed_jogAt composed_hold locals

theorem ofController_manualModeIteration (locals : ControllerLocals) :
    OfController (manualModeIteration locals) := by
  unfold manualModeIteration readSample
  refine ⟨Or.inl rfl, fun outcome _ => ?_⟩
  cases outcome with
  | noAccess e => trivial
  | openFailed e => trivial
  | readFailed e => exact obeys_of_within (composed_handleSample_controller _).within
  | contents bytes =>
      cases bytes with
      | nil => trivial
      | cons byte rest => exact obeys_of_within (composed_handleSample_controller _).within

/-- The loop, from its test on. -/
theorem obeys_manualModeLoopBody (locals : ControllerLocals) :
    (manualModeLoopBody locals).Obeys (controllerPolicy jogs) := by
  unfold manualModeLoopBody
  refine ⟨Or.inr trivial, fun g hg => ?_⟩
  change Program.Obeys _ (if g.statusManualModeEnable = 1 then _ else _)
  by_cases hflag : g.statusManualModeEnable = 1
  · -- the flag can be found set only where the motor may be moved
    have hjogs : jogs := by
      rcases hg with hjogs | hcleared
      · exact hjogs
      · exact absurd hflag hcleared
    rw [if_pos hflag, eq_true hjogs]
    refine Program.Obeys.bind (ofController_manualModeIteration locals) fun locals => ?_
    exact ⟨Or.inr trivial, fun _ _ => ⟨Or.inr (Or.inr ⟨_, rfl⟩), fun _ => trivial⟩⟩
  · rw [if_neg hflag]
    trivial

/-- The procedures that the controller calls. -/
theorem obeys_procedureBody (q : Procedure) (hq : (controllerPolicy jogs).calls q) :
    (procedureBody q).Obeys (controllerPolicy jogs) := by
  rcases hq with rfl | rfl | ⟨locals, rfl⟩
  · exact obeys_of_within (within_body Rights.allowsStops_controller _ (Or.inl rfl))
  · exact obeys_of_within (within_body Rights.allowsStops_controller _ (Or.inr rfl))
  · exact obeys_manualModeLoopBody locals

end

end SmdControlServer
