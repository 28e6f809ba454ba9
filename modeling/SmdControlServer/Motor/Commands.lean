import SmdControlServer.Commands.Ranges
import SmdControlServer.Interaction.Obedience
import SmdControlServer.Manual.Controller
import SmdControlServer.Manual.Traffic

/-!
# The commands of the drive

Whatever the client asks for, what is sent to the drive is the program of one of sixteen
commands.

* `MotorCommand.program` — the programs, from the functions that send them.
* `MotorCommand.Checked` — what the code has checked when it sends one.
* `commandingPolicy` — the code of all the threads obeys it: nothing but such programs is
  sent, and only with checked parameters.
-/

namespace SmdControlServer

open CString Interaction

/-- A command with its parameters, before it is cut into registers. -/
inductive MotorCommand where
  | jog (direction accel decel jerk speed : Int)
  | relativeMove (relPos accel decel jerk speed : Int)
  | findHome (direction speed accel decel jerk : Int)
  | driveEnable
  | driveDisable
  | holdMove
  | immediateStop
  | resetErrors
  | loadConfiguration
  | presetEncoder (pos : Int)
  | presetMotor (pos : Int)
  | setConfiguration (controlWord configWord startingSpeed stepsPerTurn encPulsesPerTurn
      idleCurrentPercentage motorCurrent : Int)
  | programFirstBlock
  | moveSegment (s : AssembledMoveSegment)
  | prepareForNextSegment
  | runAssembledMove (lsw dwellTime : Int)
  deriving DecidableEq, Repr

namespace MotorCommand

/-- The program that the command is sent as. -/
def program : MotorCommand → RegisterProgram
  | jog direction accel decel jerk speed => jogProgram direction accel decel jerk speed
  | relativeMove relPos accel decel jerk speed =>
      relativeMoveProgram relPos accel decel jerk speed
  | findHome direction speed accel decel jerk =>
      findHomeProgram direction speed accel decel jerk
  | driveEnable => driveEnableProgram
  | driveDisable => driveDisableProgram
  | holdMove => holdMoveProgram
  | immediateStop => immediateStopProgram
  | resetErrors => resetErrorsProgram
  | loadConfiguration => loadConfigurationProgram
  | presetEncoder pos => presetEncoderProgram pos
  | presetMotor pos => presetMotorProgram pos
  | setConfiguration controlWord configWord startingSpeed stepsPerTurn encPulsesPerTurn
      idleCurrentPercentage motorCurrent =>
      setConfigurationProgram controlWord configWord startingSpeed stepsPerTurn
        encPulsesPerTurn idleCurrentPercentage motorCurrent
  | programFirstBlock => programFirstBlockProgram
  | moveSegment s => moveSegmentProgram s
  | prepareForNextSegment => prepareForNextSegmentProgram
  | runAssembledMove lsw dwellTime => runAssembledMoveProgram lsw dwellTime

/-- What is checked of the parameters.  The fields of a segment are only narrowed to their
types, and the two words of a configuration are not looked at. -/
def Checked : MotorCommand → Prop
  | jog direction accel decel jerk speed =>
      (direction = 0 ∨ direction = 1) ∧ moveParametersValid accel decel jerk speed = true
  | relativeMove relPos accel decel jerk speed =>
      positionValid relPos = true ∧ moveParametersValid accel decel jerk speed = true
  | findHome direction speed accel decel jerk =>
      (direction = 0 ∨ direction = 1) ∧ moveParametersValid accel decel jerk speed = true
  | presetEncoder pos => positionValid pos = true
  | presetMotor pos => positionValid pos = true
  | setConfiguration _ _ startingSpeed stepsPerTurn encPulsesPerTurn idleCurrentPercentage
      motorCurrent =>
      configurationValid startingSpeed stepsPerTurn encPulsesPerTurn idleCurrentPercentage
        motorCurrent = true
  | moveSegment s => s.Narrowed
  | runAssembledMove lsw dwellTime =>
      lsw ∈ ([32768, 32784, 33280] : List Int) ∧ 0 ≤ dwellTime ∧ dwellTime ≤ 65535
  | _ => True

end MotorCommand

/-- The program is that of a command whose parameters have been checked. -/
def RegisterProgram.OfCommand (cmd : RegisterProgram) : Prop :=
  ∃ command : MotorCommand, command.Checked ∧ command.program = cmd

/-- What all the commands need but `disconnect` and `startManualMode`: they send programs of
commands and may note the calls of the motor and set `errno`. -/
structure Rights.SendsCommands (rights : Rights) : Prop where
  sends : ∀ command : MotorCommand, command.Checked → rights.sends command.program
  motorNotes : ∀ n : Note, n.OfMotor → rights.notes n
  erange : rights.setsErrno erange

/-! ## The functions of the commands -/

section

variable {rights : Rights}

theorem composed_smdJog_checked (h : rights.SendsCommands)
    (direction accel decel jerk speed : Int) :
    Composed rights (smdJog direction accel decel jerk speed) := by
  unfold smdJog
  refine composed_bind (composed_ask (h.motorNotes _ trivial)) fun _ => ?_
  by_cases hdirection : direction < 0 ∨ direction > 1
  · rw [if_pos hdirection]
    exact composed_pure _
  · rw [if_neg hdirection]
    refine composed_checked fun hvalid => composed_sendModbusCommand ?_
    exact h.sends (.jog direction accel decel jerk speed) ⟨by omega, hvalid⟩

theorem composed_smdFindHome_checked (h : rights.SendsCommands)
    (direction speed accel decel jerk : Int) :
    Composed rights (smdFindHome direction speed accel decel jerk) := by
  unfold smdFindHome
  by_cases hdirection : direction < 0 ∨ direction > 1
  · rw [if_pos hdirection]
    exact composed_pure _
  · rw [if_neg hdirection]
    refine composed_checked fun hvalid => composed_sendModbusCommand ?_
    exact h.sends (.findHome direction speed accel decel jerk) ⟨by omega, hvalid⟩

theorem composed_smdRelativeMove_checked (h : rights.SendsCommands)
    (relPos accel decel jerk speed : Int) :
    Composed rights (smdRelativeMove relPos accel decel jerk speed) := by
  unfold smdRelativeMove
  refine composed_checked fun hpos => composed_checked fun hvalid => ?_
  refine composed_sendModbusCommand ?_
  exact h.sends (.relativeMove relPos accel decel jerk speed) ⟨hpos, hvalid⟩

theorem composed_smdPresetMotorPosition_checked (h : rights.SendsCommands) (pos : Int) :
    Composed rights (smdPresetMotorPosition pos) := by
  unfold smdPresetMotorPosition
  exact composed_checked fun hpos => composed_sendAnd (h.sends (.presetMotor pos) hpos) _ _

theorem composed_smdPresetEncoderPosition_checked (h : rights.SendsCommands) (pos : Int) :
    Composed rights (smdPresetEncoderPosition pos) := by
  unfold smdPresetEncoderPosition
  exact composed_checked fun hpos => composed_sendAnd (h.sends (.presetEncoder pos) hpos) _ _

theorem composed_smdSetConfiguration_checked (h : rights.SendsCommands)
    (controlWord configWord startingSpeed stepsPerTurn encPulsesPerTurn idleCurrentPercentage
      motorCurrent : Int) :
    Composed rights (smdSetConfiguration controlWord configWord startingSpeed stepsPerTurn
      encPulsesPerTurn idleCurrentPercentage motorCurrent) := by
  unfold smdSetConfiguration
  refine composed_checked fun hvalid => composed_sendAnd ?_ _ _
  exact h.sends (.setConfiguration controlWord configWord startingSpeed stepsPerTurn
    encPulsesPerTurn idleCurrentPercentage motorCurrent) hvalid

theorem composed_smdHoldMove_checked (h : rights.SendsCommands) :
    Composed rights smdHoldMove :=
  composed_smdHoldMove (h.sends .holdMove trivial) (h.motorNotes _ trivial)

theorem composed_smdResetErrors_checked (h : rights.SendsCommands) :
    Composed rights smdResetErrors :=
  composed_sendModbusCommand (h.sends .resetErrors trivial)

/-! ## The messages -/

theorem tokensWithin_of_sendsCommands (h : rights.SendsCommands) (input : Text) (n : Nat) :
    TokensWithin rights input n :=
  fun _ _ _ _ _ => h.erange

/-- A handler with four parameters. -/
theorem composed_fourParameters (h : rights.SendsCommands) {input : Text}
    {act : Int → Int → Int → Int → Server SmdResponseCode}
    (hact : ∀ a b c d, Composed rights (act a b c d)) :
    Composed rights (withTokens input 5 fun tokens => do
      let a ← convertStringToLongInt (tokens.token 1)
      let b ← convertStringToLongInt (tokens.token 2)
      let c ← convertStringToLongInt (tokens.token 3)
      let d ← convertStringToLongInt (tokens.token 4)
      act a b c d) := by
  refine composed_withTokens fun _ => ?_
  refine composed_conversion (fun _ => h.erange) fun _ => ?_
  refine composed_conversion (fun _ => h.erange) fun _ => ?_
  refine composed_conversion (fun _ => h.erange) fun _ => ?_
  exact composed_conversion (fun _ => h.erange) fun _ => hact _ _ _ _

variable {input : Text} {cl : Int}

/-- All the commands but two only send programs of commands, read and answer. -/
theorem composed_code (h : rights.SendsCommands) {c : Command} (hdisconnect : c ≠ .disconnect)
    (hstart : c ≠ .startManualMode) : Composed rights (c.code input cl) := by
  have htokens := tokensWithin_of_sendsCommands h input
  have hruns : ∀ lsw ∈ ([32768, 32784, 33280] : List Int), ∀ dwellTime, 0 ≤ dwellTime →
      dwellTime ≤ 65535 → rights.sends (runAssembledMoveProgram lsw dwellTime) :=
    fun lsw hlsw dwellTime hlo hhi => h.sends (.runAssembledMove lsw dwellTime) ⟨hlsw, hlo, hhi⟩
  cases c with
  | jogCW => exact composed_fourParameters h fun _ _ _ _ => composed_smdJog_checked h _ _ _ _ _
  | jogCCW => exact composed_fourParameters h fun _ _ _ _ => composed_smdJog_checked h _ _ _ _ _
  | homeCW =>
      exact composed_fourParameters h fun _ _ _ _ => composed_smdFindHome_checked h _ _ _ _ _
  | homeCCW =>
      exact composed_fourParameters h fun _ _ _ _ => composed_smdFindHome_checked h _ _ _ _ _
  | disconnect => exact absurd rfl hdisconnect
  | saveConfig =>
      exact composed_handleSaveConfig (htokens 8) (composed_smdSetConfiguration_checked h)
  | relativeMove =>
      exact composed_handleRelativeMove (htokens 6) (composed_smdRelativeMove_checked h)
  | driveEnable => exact composed_sendAnd (h.sends .driveEnable trivial) _ _
  | driveDisable => exact composed_sendAnd (h.sends .driveDisable trivial) _ _
  | holdMove => exact composed_smdHoldMove_checked h
  | immedStop => exact composed_sendModbusCommand (h.sends .immediateStop trivial)
  | resetErrors => exact composed_smdResetErrors_checked h
  | readInputRegisters => exact composed_smdReadRegisters _ _
  | loadCurrentConfiguration => exact composed_sendAnd (h.sends .loadConfiguration trivial) _ _
  | readCurrentConfiguration => exact composed_smdReadRegisters _ _
  | presetMotorPosition =>
      exact composed_handlePresetMotorPosition (htokens 2)
        (composed_smdPresetMotorPosition_checked h)
  | presetEncoderPosition =>
      exact composed_handlePresetEncoderPosition (htokens 2)
        (composed_smdPresetEncoderPosition_checked h)
  | programAssembledMove =>
      exact composed_smdProgramAssembledMove (h.sends .programFirstBlock trivial)
        (h.sends .resetErrors trivial)
  | runAssembledDwellMove => exact composed_handleRunAssembledDwellMove (htokens 2) hruns
  | runAssembledBlendMove => exact composed_handleRunAssembledBlendMove (htokens 2) hruns
  | startManualMode => exact absurd rfl hstart

/-- A profile sends its segments. -/
theorem composed_upload_checked (h : rights.SendsCommands)
    (htype : ∀ moveType, rights.assigns (.statusTypeAssembledMove moveType)) :
    Composed rights (smdParseAndUploadAssembledMove input cl) := by
  refine composed_smdParseAndUploadAssembledMove ?_ (h.sends .prepareForNextSegment trivial) htype
  intro stack members table htable k
  refine h.sends (.moveSegment (table.segments k)) (narrowed_of_collectSegments (fun j => ?_)
    htable k)
  exact (stack.typed j).toNarrowed

/-! ## All the code of a message -/

/-- Anything may be done, but only commands are sent. -/
def Rights.commanding : Rights where
  sends := RegisterProgram.OfCommand
  writes _ := True
  assigns _ := True
  notes _ := True
  setsErrno _ := True
  writes_of_sends _ _ _ _ := trivial

theorem sendsCommands_commanding : Rights.commanding.SendsCommands where
  sends command h := ⟨command, h, rfl⟩
  motorNotes _ _ := trivial
  erange := trivial

theorem within_code_commanding (c : Command) :
    Within Rights.commanding (c.code input cl) := by
  by_cases hdisconnect : c = .disconnect
  · subst hdisconnect
    exact within_bind (within_smdCloseCommandConnection fun _ _ => trivial) fun _ => trivial
  · by_cases hstart : c = .startManualMode
    · subst hstart
      exact within_bind (within_assign trivial) fun _ => within_smdSetManualMode trivial
    · exact (composed_code sendsCommands_commanding hdisconnect hstart).within

theorem within_parseSocketInput_commanding :
    Within Rights.commanding (parseSocketInput input cl) := by
  have hcommands := sendsCommands_commanding
  unfold parseSocketInput dispatchIn
  refine ⟨trivial, fun g _ => within_ite ?_ (within_ite ?_ (within_ite ?_ ?_))⟩
  · exact within_ite (within_handleConnect (fun _ _ => trivial) trivial) (within_pure _)
  · by_cases hselects : ∃ c, Command.Selects input c
    · obtain ⟨c, hc⟩ := hselects
      rw [Command.parseScenario1_of_selects hc]
      exact within_code_commanding c
    · push Not at hselects
      rw [Command.parseScenario1_of_not_selects hselects]
      exact within_pure _
  · refine within_ite ?_ (within_ite (composed_smdResetErrors_checked hcommands).within ?_)
    · exact within_handleStopManualMode (fun _ _ => trivial) trivial
        (hcommands.sends .immediateStop trivial)
    · exact within_ite (composed_smdReadRegisters _ _).within (within_pure _)
  · refine within_ite ?_ (within_pure _)
    exact (composed_parseScenario3 (composed_upload_checked hcommands fun _ => trivial) trivial
      (composed_smdResetErrors_checked hcommands)).within

end

/-! ## The threads -/

/-- Nothing but commands is sent.  `errno` is known to be read from its connection. -/
def commandingPolicy : Policy serverSignature where
  allows
    | .pthreadCreate (.sendModbusCommand cmd) => cmd.OfCommand
    | _ => True
  expects
    | .modbusErrno ctx, e => e = ctx.session.connectErrno
    | _, _ => True
  calls _ := True

section

variable {α β : Type} {cl : Int}

theorem commanding_of_within {p : Server α} (h : Within Rights.commanding p) :
    p.Obeys commandingPolicy := by
  refine Program.Obeys.mono h ?_ ?_ fun _ _ => trivial
  · intro o ho
    cases o with
    | pthreadCreate routine =>
        cases routine with
        | sendModbusCommand cmd => exact ho
        | _ => trivial
    | _ => trivial
  · intro o _ x hx
    cases o with
    | writeClient cl message => exact fun _ _ => trivial
    | modbusErrno ctx => exact hx
    | _ => trivial

theorem commanding_parseSmdResponseToClientInput (input : Text) :
    (parseSmdResponseToClientInput input cl).Obeys commandingPolicy := by
  refine ⟨trivial, fun _ _ => ?_⟩
  change Program.Obeys commandingPolicy
    (parseSocketInput input cl >>= fun r => answerClient r cl)
  refine Program.Obeys.bind (commanding_of_within within_parseSocketInput_commanding) fun r => ?_
  exact commanding_of_within (composed_answerClient trivial r).within

theorem commanding_serverIteration : (serverIteration cl).Obeys commandingPolicy := by
  have hnext : (serveNextClient cl).Obeys commandingPolicy :=
    commanding_of_within (within_serveNextClient (fun _ _ => trivial) trivial)
  have hmessage : ∀ text : Text, (parseSmdResponseToClientInput text cl >>=
      fun _ => (pure cl : Server Int)).Obeys commandingPolicy := fun text =>
    Program.Obeys.bind (commanding_parseSmdResponseToClientInput text) fun _ => trivial
  refine ⟨trivial, fun outcome _ => ?_⟩
  cases outcome with
  | received chunk => exact Program.Obeys.ite (hmessage _) ⟨trivial, fun _ _ => hmessage _⟩
  | endOfFile => exact hnext
  | failed e => exact hnext

theorem commanding_openServerSocket : openServerSocket.Obeys commandingPolicy := by
  refine ⟨trivial, fun next _ => Program.Obeys.ite ⟨trivial, fun x => x.elim⟩ ?_⟩
  exact ⟨trivial, fun _ => trivial⟩

/-- A sample jogs with values that are checked, or it holds the motor. -/
theorem commanding_manualModeIteration (locals : ControllerLocals) :
    (manualModeIteration locals).Obeys commandingPolicy := by
  have hsample : ∀ locals, (handleSample locals).Obeys commandingPolicy := fun locals =>
    commanding_of_within (composed_handleSample trivial
      (fun _ _ => composed_smdJog_checked sendsCommands_commanding _ _ _ _ _)
      (composed_smdHoldMove_checked sendsCommands_commanding) locals).within
  unfold manualModeIteration readSample
  refine ⟨trivial, fun outcome _ => ?_⟩
  cases outcome with
  | noAccess e => trivial
  | openFailed e => trivial
  | readFailed e => exact hsample _
  | contents bytes =>
      cases bytes with
      | nil => trivial
      | cons byte rest => exact hsample _

theorem commanding_procedureBody (p : Procedure) :
    (procedureBody p).Obeys commandingPolicy := by
  cases p with
  | smdHoldMove =>
      exact commanding_of_within (composed_smdHoldMove_checked sendsCommands_commanding).within
  | smdImmedStop =>
      exact commanding_of_within (within_sendModbusCommand
        (sendsCommands_commanding.sends .immediateStop trivial))
  | manualModeLoop locals =>
      refine ⟨trivial, fun g _ => Program.Obeys.ite ?_ trivial⟩
      refine Program.Obeys.bind (commanding_manualModeIteration locals) fun _ => ?_
      exact ⟨trivial, fun _ _ => ⟨trivial, fun _ => trivial⟩⟩
  | serverLoop cl =>
      exact Program.Obeys.bind commanding_serverIteration fun _ => ⟨trivial, fun _ => trivial⟩

end

end SmdControlServer
