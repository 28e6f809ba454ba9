import SmdControlServer.Server.Workers
import SmdControlServer.Session.Commands

/-!
# Code without a fault

Three pieces of the code can fault: the handler of `connect`, the preparation of an
assembled move and the upload of a profile.  Everything else is `Unfailing`: no request of
it is a fault, whatever the answers have been.
-/

namespace SmdControlServer

open CString Interaction

/-- A fault, or the end of the process. -/
def Request.IsFault : Request → Prop
  | .abort _ => True
  | _ => False

/-- Code that comes to no fault and calls nothing but the stops. -/
abbrev Unfailing {α : Type} (p : Server α) : Prop :=
  p.Obeys (Policy.only (fun o : Request => ¬ o.IsFault)
    fun q : Procedure => q = .smdHoldMove ∨ q = .smdImmedStop)

section

variable {α β : Type} {input : Text} {cl : Int}

theorem unfailing_pure (a : α) : Unfailing (pure a : Server α) := trivial

theorem unfailing_bind {p : Server α} {f : α → Server β} (hp : Unfailing p)
    (hf : ∀ a, Unfailing (f a)) : Unfailing (p >>= f) :=
  Program.Obeys.bind hp hf

theorem unfailing_ask {o : Request} {f : Answer o → Server β} (ho : ¬ o.IsFault)
    (hf : ∀ x, Unfailing (f x)) : Unfailing (ask o >>= f) :=
  ⟨ho, fun x _ => hf x⟩

theorem unfailing_ite {c : Prop} [Decidable c] {p q : Server α} (hp : Unfailing p)
    (hq : Unfailing q) : Unfailing (if c then p else q) :=
  Program.Obeys.ite hp hq

/-! ## Sending and reading -/

theorem unfailing_of_ofWorkers {p : Server α} (hp : OfWorkers p) : Unfailing p :=
  hp.obeys (fun o ho hfault => by cases o <;> first | exact ho | exact hfault) fun _ hq => hq

theorem unfailing_sendModbusCommand (cmd : RegisterProgram) :
    Unfailing (sendModbusCommand cmd) :=
  unfailing_of_ofWorkers (ofWorkers_sendModbusCommand cmd)

theorem unfailing_returnModbusRegisters (registers : RegisterStrings) (count : Nat)
    (readType : SmdRegisterReadType) (cl : Int) (line : Option Text) (size : Nat) :
    Unfailing (returnModbusRegisters registers count readType cl line size) :=
  unfailing_of_ofWorkers (ofWorkers_returnModbusRegisters registers count readType cl line size)

theorem unfailing_sendAnd (cmd : RegisterProgram) (success failure : SmdResponseCode) :
    Unfailing (sendAnd cmd success failure) :=
  unfailing_bind (unfailing_sendModbusCommand cmd) fun _ =>
    unfailing_ite (unfailing_pure _) (unfailing_pure _)

theorem unfailing_smdReadRegisters (readType : SmdRegisterReadType) (cl : Int) :
    Unfailing (smdReadRegisters readType cl) :=
  unfailing_ask id fun _ => unfailing_bind (unfailing_returnModbusRegisters _ _ _ _ _ _) fun _ =>
    unfailing_ite (unfailing_pure _) (unfailing_pure _)

/-! ## Converting and answering -/

theorem unfailing_convertStringToLongInt (str : Text) :
    Unfailing (convertStringToLongInt str) := by
  have hlost : Unfailing (perror >>= fun _ => (pure (-1) : Server Int)) :=
    unfailing_ask id fun _ => trivial
  unfold convertStringToLongInt
  apply unfailing_ite
  · exact unfailing_ask id fun _ => unfailing_ask id fun _ => unfailing_ite hlost trivial
  · exact unfailing_ask id fun _ => unfailing_ite hlost trivial

theorem unfailing_conversion {str : Text} {k : Int → Server α} (hk : ∀ n, Unfailing (k n)) :
    Unfailing (convertStringToLongInt str >>= k) :=
  unfailing_bind (unfailing_convertStringToLongInt str) hk

theorem unfailing_withTokens {n : Nat} {f : Tokenized → Server SmdResponseCode}
    (hf : ∀ tokens, Unfailing (f tokens)) : Unfailing (withTokens input n f) :=
  unfailing_ite (unfailing_pure _) (unfailing_ite (unfailing_pure _) (hf _))

theorem unfailing_writeToClient (cl : Int) (message : Text) :
    Unfailing (writeToClient cl message) := by
  refine unfailing_ask id fun answer => ?_
  cases answer with
  | none => exact unfailing_pure _
  | some e => exact unfailing_ask id fun _ => unfailing_pure _

theorem unfailing_answerClient (r : SmdResponseCode) (cl : Int) :
    Unfailing (answerClient r cl) := by
  have htell : Unfailing (tellResponse r cl) := by
    unfold tellResponse
    cases responseLine r with
    | none => exact unfailing_pure _
    | some line =>
        apply unfailing_bind (unfailing_writeToClient cl line)
        intro written
        exact unfailing_ite ⟨id, fun _ _ => trivial⟩ (unfailing_pure _)
  rw [answerClient_eq]
  exact unfailing_ite (unfailing_ask id fun _ => htell) htell

/-! ## Commands -/

theorem unfailing_guard {c : Prop} [Decidable c] {p : Server SmdResponseCode}
    (hp : Unfailing p) : Unfailing (if c then pure .invalidParameter else p) :=
  unfailing_ite (unfailing_pure _) hp

theorem unfailing_smdJog (direction accel decel jerk speed : Int) :
    Unfailing (smdJog direction accel decel jerk speed) :=
  unfailing_ask id fun _ => unfailing_guard (unfailing_guard (unfailing_sendModbusCommand _))

theorem unfailing_smdHoldMove : Unfailing smdHoldMove :=
  unfailing_ask id fun _ => unfailing_sendModbusCommand _

theorem unfailing_smdRunAssembledMove (direction dwellTime : Int)
    (moveType : SmdAssembledMoveType) :
    Unfailing (smdRunAssembledMove direction dwellTime moveType) := by
  refine unfailing_ask id fun g => unfailing_ite (unfailing_sendModbusCommand _) ?_
  refine unfailing_ite ?_ (unfailing_pure _)
  exact unfailing_ite (unfailing_sendModbusCommand _) (unfailing_pure _)

theorem unfailing_smdOpenCommandConnection : Unfailing smdOpenCommandConnection := by
  refine unfailing_ask id fun ctx => unfailing_ask id fun _ => unfailing_ask id fun ip => ?_
  have hanswer : ∀ connected : Bool, Unfailing (if !connected then do
      let e ← modbusErrno ctx
      setErrno e
      modbusFree ctx
      assign (.smdConnected 0)
      pure SmdResponseCode.noRouteToHost
    else do
      assign (.smdConnected 1)
      pure SmdResponseCode.connectSuccess) := by
    intro connected
    apply unfailing_ite
    · refine unfailing_ask id fun _ => unfailing_ask id fun _ => unfailing_ask id fun _ => ?_
      exact unfailing_ask id fun _ => unfailing_pure _
    · exact unfailing_ask id fun _ => unfailing_pure _
  exact unfailing_ite (hanswer false) (unfailing_ask id hanswer)

theorem unfailing_smdCloseCommandConnection : Unfailing smdCloseCommandConnection := by
  refine unfailing_ask id fun g => ?_
  cases g.smdCommandConnection with
  | none => exact unfailing_pure _
  | some ctx =>
      refine unfailing_ite ?_ (unfailing_pure _)
      refine unfailing_ask id fun _ => unfailing_ask id fun _ => ?_
      refine unfailing_ask id fun _ => unfailing_ask id fun _ => unfailing_ask id fun _ => ?_
      exact unfailing_ask id fun _ => ⟨id, fun _ _ => trivial⟩

theorem unfailing_fourParameters {act : Int → Int → Int → Int → Server SmdResponseCode}
    (hact : ∀ a b c d, Unfailing (act a b c d)) :
    Unfailing (withTokens input 5 fun tokens => do
      let a ← convertStringToLongInt (tokens.token 1)
      let b ← convertStringToLongInt (tokens.token 2)
      let c ← convertStringToLongInt (tokens.token 3)
      let d ← convertStringToLongInt (tokens.token 4)
      act a b c d) :=
  unfailing_withTokens fun _ => unfailing_conversion fun a => unfailing_conversion fun b =>
    unfailing_conversion fun c => unfailing_conversion fun d => hact a b c d

theorem unfailing_oneParameter {act : Int → Server SmdResponseCode}
    (hact : ∀ n, Unfailing (act n)) :
    Unfailing (withTokens input 2 fun tokens => do
      let n ← convertStringToLongInt (tokens.token 1)
      act n) :=
  unfailing_withTokens fun _ => unfailing_conversion hact

theorem unfailing_smdFindHome (direction speed accel decel jerk : Int) :
    Unfailing (smdFindHome direction speed accel decel jerk) :=
  unfailing_guard (unfailing_guard (unfailing_sendModbusCommand _))

theorem unfailing_handleSaveConfig : Unfailing (handleSaveConfig input) := by
  refine unfailing_withTokens fun tokens => unfailing_conversion fun _ => ?_
  refine unfailing_conversion fun _ => unfailing_conversion fun _ => ?_
  refine unfailing_conversion fun _ => unfailing_conversion fun _ => ?_
  refine unfailing_conversion fun _ => unfailing_conversion fun _ => ?_
  exact unfailing_guard (unfailing_sendAnd _ _ _)

theorem unfailing_handleRelativeMove : Unfailing (handleRelativeMove input) := by
  refine unfailing_withTokens fun tokens => unfailing_conversion fun _ => ?_
  refine unfailing_conversion fun _ => unfailing_conversion fun _ => ?_
  refine unfailing_conversion fun _ => unfailing_conversion fun _ => ?_
  exact unfailing_guard (unfailing_guard (unfailing_sendModbusCommand _))

/-- The commands but one. -/
theorem unfailing_code {c : Command} (h : c ≠ .programAssembledMove) :
    Unfailing (c.code input cl) := by
  cases c with
  | jogCW => exact unfailing_fourParameters fun _ _ _ _ => unfailing_smdJog _ _ _ _ _
  | jogCCW => exact unfailing_fourParameters fun _ _ _ _ => unfailing_smdJog _ _ _ _ _
  | homeCW => exact unfailing_fourParameters fun _ _ _ _ => unfailing_smdFindHome _ _ _ _ _
  | homeCCW => exact unfailing_fourParameters fun _ _ _ _ => unfailing_smdFindHome _ _ _ _ _
  | disconnect =>
      exact unfailing_bind unfailing_smdCloseCommandConnection fun _ => unfailing_pure _
  | saveConfig => exact unfailing_handleSaveConfig
  | relativeMove => exact unfailing_handleRelativeMove
  | driveEnable => exact unfailing_sendAnd _ _ _
  | driveDisable => exact unfailing_sendAnd _ _ _
  | holdMove => exact unfailing_smdHoldMove
  | immedStop => exact unfailing_sendModbusCommand _
  | resetErrors => exact unfailing_sendModbusCommand _
  | readInputRegisters => exact unfailing_smdReadRegisters _ _
  | loadCurrentConfiguration => exact unfailing_sendAnd _ _ _
  | readCurrentConfiguration => exact unfailing_smdReadRegisters _ _
  | presetMotorPosition =>
      exact unfailing_oneParameter fun _ => unfailing_guard (unfailing_sendAnd _ _ _)
  | presetEncoderPosition =>
      exact unfailing_oneParameter fun _ => unfailing_guard (unfailing_sendAnd _ _ _)
  | programAssembledMove => exact absurd rfl h
  | runAssembledDwellMove =>
      exact unfailing_oneParameter fun _ => unfailing_guard (unfailing_smdRunAssembledMove _ _ _)
  | runAssembledBlendMove =>
      exact unfailing_oneParameter fun _ => unfailing_guard (unfailing_smdRunAssembledMove _ _ _)
  | startManualMode =>
      refine unfailing_ask id fun _ => unfailing_ask id fun created => ?_
      exact unfailing_ite (unfailing_pure _) (unfailing_ask id fun _ => unfailing_pure _)

theorem unfailing_parseScenario2 : Unfailing (parseScenario2 input cl) := by
  refine unfailing_ite (unfailing_ask id fun _ => ?_) ?_
  · apply unfailing_bind (unfailing_sendModbusCommand _)
    intro response
    apply unfailing_ite
    · apply unfailing_bind unfailing_smdCloseCommandConnection
      intro _
      exact unfailing_ask id fun _ => unfailing_pure _
    · exact unfailing_ask id fun _ => unfailing_pure _
  · refine unfailing_ite (unfailing_sendModbusCommand _) ?_
    exact unfailing_ite (unfailing_smdReadRegisters _ _) (unfailing_pure _)

theorem unfailing_uploadSegments (numSegments i : Nat) (segments : List AssembledMoveSegment) :
    Unfailing (uploadSegments numSegments cl i segments) := by
  induction segments generalizing i with
  | nil => exact unfailing_pure _
  | cons s rest ih =>
      unfold uploadSegments
      apply unfailing_bind (unfailing_sendModbusCommand _)
      intro _
      refine unfailing_ask id fun _ => unfailing_ask id fun stack => ?_
      apply unfailing_bind (unfailing_returnModbusRegisters _ _ _ _ _ _)
      intro reply
      refine unfailing_ask id fun _ => unfailing_ite (unfailing_pure _) ?_
      refine unfailing_ite ?_ (unfailing_pure _)
      apply unfailing_bind (unfailing_sendModbusCommand _)
      intro prepared
      refine unfailing_ite (unfailing_ask id fun _ => ?_) (unfailing_pure _)
      apply unfailing_bind (unfailing_returnModbusRegisters _ _ _ _ _ _)
      intro reply'
      refine unfailing_ite (unfailing_pure _) ?_
      exact unfailing_ite (unfailing_bind (unfailing_writeToClient _ _) fun _ => ih _) (ih _)

/-! ## The controllers -/

theorem unfailing_applySample (locals : ControllerLocals) (potValue : Int)
    (jogValue : SmdJogDirection) : Unfailing (applySample locals potValue jogValue) := by
  have hjog : ∀ locals : ControllerLocals, Unfailing (do
      let _ ← jogAt locals.currentJogDirection locals.currentSpeed
      pure locals) :=
    fun _ => unfailing_bind (unfailing_smdJog _ _ _ _ _) fun _ => unfailing_pure _
  unfold applySample
  refine unfailing_ite (unfailing_ite (hjog _) (unfailing_pure _)) (unfailing_ite ?_ ?_)
  · refine unfailing_ite ?_ (unfailing_pure _)
    exact unfailing_bind unfailing_smdHoldMove fun _ => unfailing_pure _
  · refine unfailing_ite (unfailing_ite ?_ (hjog _)) (unfailing_pure _)
    apply unfailing_bind unfailing_smdHoldMove
    intro _
    exact unfailing_ask id fun _ => hjog _

theorem unfailing_handleSample (locals : ControllerLocals) :
    Unfailing (handleSample locals) := by
  refine unfailing_ite (unfailing_bind ?_ fun sample => ?_) (unfailing_pure _)
  · exact unfailing_conversion fun _ => unfailing_conversion fun _ => unfailing_pure _
  · exact unfailing_ite (unfailing_applySample _ _ _) (unfailing_pure _)

theorem unfailing_manualModeIteration (locals : ControllerLocals) :
    Unfailing (manualModeIteration locals) := by
  refine unfailing_ask id fun outcome => ?_
  cases outcome with
  | noAccess e => exact unfailing_pure _
  | openFailed e => exact unfailing_pure _
  | readFailed e => exact unfailing_handleSample _
  | contents bytes =>
      cases bytes with
      | nil => exact unfailing_pure _
      | cons byte rest => exact unfailing_handleSample _

end

end SmdControlServer
