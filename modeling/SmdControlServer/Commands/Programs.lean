import SmdControlServer.Commands.Decisions
import SmdControlServer.Commands.Parameters
import SmdControlServer.Drive.Writes

/-!
# The programs of the commands with parameters

A command with parameters converts its tokens, checks what it has read, and then
sends its program or refuses the message.  `ParameterCommand.decision` says which,
as a function of the text, of whether `errno` is `ERANGE` and of the loaded profile,
and `decides_handler` says that the code comes to that decision.
-/

namespace SmdControlServer

open CString Interaction

/-! ## What is read for the tokens -/

/-- What the checks see for tokens of these texts. -/
def seenTokens (l : Latch) (parameters : List Parameter) (tokens : List Text) : List Int :=
  l.seen parameters (tokens.map strtol)

namespace ParameterCommand

/-- The program for the values that were read. -/
def program : ParameterCommand → List Int → Option RegisterProgram
  | jogCW, [accel, decel, jerk, speed] => some (jogProgram 0 accel decel jerk speed)
  | jogCCW, [accel, decel, jerk, speed] => some (jogProgram 1 accel decel jerk speed)
  | homeCW, [speed, accel, decel, jerk] => some (findHomeProgram 0 speed accel decel jerk)
  | homeCCW, [speed, accel, decel, jerk] => some (findHomeProgram 1 speed accel decel jerk)
  | relativeMove, [relPos, accel, decel, jerk, speed] =>
      some (relativeMoveProgram relPos accel decel jerk speed)
  | presetMotorPosition, [pos] => some (presetMotorProgram pos)
  | presetEncoderPosition, [pos] => some (presetEncoderProgram pos)
  | saveConfig, [controlWord, configWord, startingSpeed, stepsPerTurn, encPulsesPerTurn,
      idleCurrentPercentage, motorCurrent] =>
      some (setConfigurationProgram controlWord configWord startingSpeed stepsPerTurn
        encPulsesPerTurn idleCurrentPercentage motorCurrent)
  | runAssembledDwellMove, [dwellTime] => some (runAssembledMoveProgram 33280 dwellTime)
  | runAssembledBlendMove, [direction] =>
      some (runAssembledMoveProgram (if direction = 0 then 32768 else 32784) 0)
  | _, _ => none

/-- What a program that was sent, and one that was not, are reported as. -/
def outcome : ParameterCommand → SmdResponseCode × SmdResponseCode
  | presetMotorPosition => (.presetPosSuccess, .presetPosFail)
  | presetEncoderPosition => (.presetEncSuccess, .presetEncFail)
  | saveConfig => (.saveConfigSuccess, .saveConfigFail)
  | _ => (.commandSuccess, .commandFailed)

def sending (c : ParameterCommand) (values : List Int) : Decision :=
  match c.program values with
  | some cmd => .sends cmd c.outcome.1 c.outcome.2
  | none => .refuses .invalidParameter

instance (c : ParameterCommand) (moveType : SmdAssembledMoveType) :
    Decidable (c.Loaded moveType) := by
  unfold Loaded
  split <;> infer_instance

/-- What the command comes to for a message. -/
def decision (c : ParameterCommand) (moveType : SmdAssembledMoveType) (l : Latch)
    (input : Text) : Decision :=
  if numberOfTokens input = c.parameters.length + 1 ∧
      InRange c.parameters (seenTokens l c.parameters (input.splitOn comma).tail) ∧
        c.Loaded moveType then
    c.sending (seenTokens l c.parameters (input.splitOn comma).tail)
  else
    .refuses .invalidParameter

end ParameterCommand

/-! ## The guard -/

section

variable {input : Text} {w : World}

theorem length_splitOn_of_numberOfTokens {n : Nat} (h : numberOfTokens input = n) :
    (input.splitOn comma).length = n := by
  unfold numberOfTokens at h
  split at h
  · omega
  · exact_mod_cast h

/-- A message with as many fields as are asked for is split without a loss. -/
theorem exists_tokens {n : Nat} (hn : numberOfTokens input = n + 1) :
    ∃ name tokens, tokens.length = n ∧ input.splitOn comma = name :: tokens ∧
      tokenizeClientInput input (n + 1) = ⟨name :: tokens, 0⟩ := by
  have hlength : (input.splitOn comma).length = n + 1 :=
    length_splitOn_of_numberOfTokens (by push_cast; exact hn)
  obtain ⟨name, tokens, hsplit⟩ := List.exists_cons_of_length_eq_add_one hlength
  refine ⟨name, tokens, ?_, hsplit, ?_⟩
  · rw [hsplit, List.length_cons] at hlength
    omega
  · unfold tokenizeClientInput
    rw [if_neg (by omega), hsplit]

theorem decides_withTokens {c : ParameterCommand} {f : Tokenized → Server SmdResponseCode}
    (h : ∀ name tokens, tokens.length = c.parameters.length →
      Decides (f ⟨name :: tokens, 0⟩) w
        (if InRange c.parameters (seenTokens w.latch c.parameters tokens) ∧
            c.Loaded w.globals.statusTypeAssembledMove then
          c.sending (seenTokens w.latch c.parameters tokens)
        else
          .refuses .invalidParameter)) :
    Decides (withTokens input (c.parameters.length + 1) f) w
      (c.decision w.globals.statusTypeAssembledMove w.latch input) := by
  unfold withTokens ParameterCommand.decision
  by_cases hn : numberOfTokens input = c.parameters.length + 1
  · obtain ⟨name, tokens, hlength, hsplit, htokens⟩ := exists_tokens hn
    rw [if_neg (by push_cast; omega), htokens, hsplit]
    simp only [hn, true_and]
    exact h name tokens hlength
  · rw [if_pos (by push_cast; omega), if_neg (by tauto)]
    exact decides_pure _

/-! ## The functions of the commands -/

/-- A check that stands before the rest of the function. -/
theorem decides_checked {p : Server SmdResponseCode} {ok : Bool} {d : Decision}
    (h : Decides p w d) :
    Decides (if !ok then pure .invalidParameter else p) w
      (if ok = true then d else .refuses .invalidParameter) := by
  cases ok with
  | true => exact h
  | false => exact decides_pure _

theorem decides_smdJog {direction accel decel jerk speed : Int}
    (hdirection : direction = 0 ∨ direction = 1) :
    Decides (smdJog direction accel decel jerk speed) w
      (if moveParametersValid accel decel jerk speed = true then
        .sends (jogProgram direction accel decel jerk speed) .commandSuccess .commandFailed
      else
        .refuses .invalidParameter) := by
  unfold smdJog
  apply decides_note
  rw [if_neg (by omega)]
  exact decides_checked (decides_sendModbusCommand _)

theorem decides_smdFindHome {direction speed accel decel jerk : Int}
    (hdirection : direction = 0 ∨ direction = 1) :
    Decides (smdFindHome direction speed accel decel jerk) w
      (if moveParametersValid accel decel jerk speed = true then
        .sends (findHomeProgram direction speed accel decel jerk) .commandSuccess .commandFailed
      else
        .refuses .invalidParameter) := by
  unfold smdFindHome
  rw [if_neg (by omega)]
  exact decides_checked (decides_sendModbusCommand _)

theorem decides_smdRelativeMove {relPos accel decel jerk speed : Int} :
    Decides (smdRelativeMove relPos accel decel jerk speed) w
      (if positionValid relPos = true ∧ moveParametersValid accel decel jerk speed = true then
        .sends (relativeMoveProgram relPos accel decel jerk speed) .commandSuccess
          .commandFailed
      else
        .refuses .invalidParameter) := by
  rw [ite_and]
  exact decides_checked (decides_checked (decides_sendModbusCommand _))

theorem decides_smdPresetMotorPosition {pos : Int} :
    Decides (smdPresetMotorPosition pos) w
      (if positionValid pos = true then
        .sends (presetMotorProgram pos) .presetPosSuccess .presetPosFail
      else
        .refuses .invalidParameter) :=
  decides_checked (decides_sendAnd _ _ _)

theorem decides_smdPresetEncoderPosition {pos : Int} :
    Decides (smdPresetEncoderPosition pos) w
      (if positionValid pos = true then
        .sends (presetEncoderProgram pos) .presetEncSuccess .presetEncFail
      else
        .refuses .invalidParameter) :=
  decides_checked (decides_sendAnd _ _ _)

theorem decides_smdSetConfiguration {controlWord configWord startingSpeed stepsPerTurn
    encPulsesPerTurn idleCurrentPercentage motorCurrent : Int} :
    Decides (smdSetConfiguration controlWord configWord startingSpeed stepsPerTurn
        encPulsesPerTurn idleCurrentPercentage motorCurrent) w
      (if configurationValid startingSpeed stepsPerTurn encPulsesPerTurn
          idleCurrentPercentage motorCurrent = true then
        .sends (setConfigurationProgram controlWord configWord startingSpeed stepsPerTurn
          encPulsesPerTurn idleCurrentPercentage motorCurrent) .saveConfigSuccess
          .saveConfigFail
      else
        .refuses .invalidParameter) :=
  decides_checked (decides_sendAnd _ _ _)

theorem decides_smdRunAssembledMove_blend {direction dwellTime : Int} :
    Decides (smdRunAssembledMove direction dwellTime .blend) w
      (if w.globals.statusTypeAssembledMove = .blend then
        .sends (runAssembledMoveProgram (if direction = 0 then 32768 else 32784) dwellTime)
          .commandSuccess .commandFailed
      else
        .refuses .invalidParameter) := by
  unfold smdRunAssembledMove
  apply decides_globals
  by_cases htype : w.globals.statusTypeAssembledMove = .blend
  · rw [if_pos ⟨rfl, htype⟩, if_pos htype]
    exact decides_sendModbusCommand _
  · rw [if_neg (fun h => htype h.2), if_neg (fun h => nomatch h.1), if_neg htype]
    exact decides_pure _

theorem decides_smdRunAssembledMove_dwell {direction dwellTime : Int}
    (hdwell : 0 ≤ dwellTime) :
    Decides (smdRunAssembledMove direction dwellTime .dwell) w
      (if w.globals.statusTypeAssembledMove = .dwell then
        .sends (runAssembledMoveProgram 33280 dwellTime) .commandSuccess .commandFailed
      else
        .refuses .invalidParameter) := by
  unfold smdRunAssembledMove
  apply decides_globals
  rw [if_neg (fun h => nomatch h.1)]
  by_cases htype : w.globals.statusTypeAssembledMove = .dwell
  · rw [if_pos ⟨rfl, htype⟩, if_pos hdwell, if_pos htype]
    exact decides_sendModbusCommand _
  · rw [if_neg (fun h => htype h.2), if_neg htype]
    exact decides_pure _

/-! ## The handlers -/

/-- The checks of the code are those of the command's parameters. -/
theorem Decides.of_iff {p : Server SmdResponseCode} {d d' : Decision} {P Q : Prop}
    [Decidable P] [Decidable Q] (hd : Decides p w (if P then d else d')) (h : Q ↔ P) :
    Decides p w (if Q then d else d') := by
  rwa [if_congr h rfl rfl]

open ParameterCommand (parameters)

theorem inRange_jog_iff {accel decel jerk speed : Int} :
    InRange (parameters .jogCW) [accel, decel, jerk, speed] ↔
      moveParametersValid accel decel jerk speed = true := by
  rw [moveParametersValid_iff]
  simp only [InRange, parameters, List.forall₂_cons, List.forall₂_nil_left_iff,
    Parameter.Accepts, acceleration, jerkParameter, speedParameter]
  tauto

theorem inRange_home_iff {speed accel decel jerk : Int} :
    InRange (parameters .homeCW) [speed, accel, decel, jerk] ↔
      moveParametersValid accel decel jerk speed = true := by
  rw [moveParametersValid_iff]
  simp only [InRange, parameters, List.forall₂_cons, List.forall₂_nil_left_iff,
    Parameter.Accepts, acceleration, jerkParameter, speedParameter]
  tauto

theorem inRange_relativeMove_iff {relPos accel decel jerk speed : Int} :
    InRange (parameters .relativeMove) [relPos, accel, decel, jerk, speed] ↔
      positionValid relPos = true ∧ moveParametersValid accel decel jerk speed = true := by
  rw [moveParametersValid_iff, positionValid_iff]
  simp only [InRange, parameters, List.forall₂_cons, List.forall₂_nil_left_iff,
    Parameter.Accepts, acceleration, jerkParameter, speedParameter, position]
  tauto

theorem inRange_position_iff {pos : Int} :
    InRange [position] [pos] ↔ positionValid pos = true := by
  rw [positionValid_iff]
  simp only [InRange, List.forall₂_cons, List.forall₂_nil_left_iff, Parameter.Accepts,
    position, and_true]

theorem inRange_saveConfig_iff {controlWord configWord startingSpeed stepsPerTurn
    encPulsesPerTurn idleCurrentPercentage motorCurrent : Int} :
    InRange (parameters .saveConfig) [controlWord, configWord, startingSpeed, stepsPerTurn,
        encPulsesPerTurn, idleCurrentPercentage, motorCurrent] ↔
      configurationValid startingSpeed stepsPerTurn encPulsesPerTurn idleCurrentPercentage
        motorCurrent = true := by
  rw [configurationValid_iff]
  simp only [InRange, parameters, List.forall₂_cons, List.forall₂_nil_left_iff,
    Parameter.Accepts, and_true, true_and]

theorem decides_handleJog :
    Decides (handleJog input) w
      ((if strstr input "jogCCW".toList then ParameterCommand.jogCCW else .jogCW).decision
        w.globals.statusTypeAssembledMove w.latch input) := by
  unfold handleJog jogIn
  cases strstr input "jogCCW".toList with
  | true =>
      refine decides_withTokens (c := .jogCCW) fun name tokens htokens => ?_
      match tokens, htokens with
      | [t₁, t₂, t₃, t₄], _ =>
          refine decides_conversion (decides_conversion ?_)
          refine decides_conversion (decides_conversion ?_)
          simp only [World.latch_afterConversion]
          exact (decides_smdJog (Or.inr rfl)).of_iff
            ((and_iff_left trivial).trans inRange_jog_iff)
  | false =>
      refine decides_withTokens (c := .jogCW) fun name tokens htokens => ?_
      match tokens, htokens with
      | [t₁, t₂, t₃, t₄], _ =>
          refine decides_conversion (decides_conversion ?_)
          refine decides_conversion (decides_conversion ?_)
          simp only [World.latch_afterConversion]
          exact (decides_smdJog (Or.inl rfl)).of_iff
            ((and_iff_left trivial).trans inRange_jog_iff)

theorem decides_handleFindHome :
    Decides (handleFindHome input) w
      ((if strstr input "homeCCW".toList then ParameterCommand.homeCCW else .homeCW).decision
        w.globals.statusTypeAssembledMove w.latch input) := by
  unfold handleFindHome findHomeIn
  cases strstr input "homeCCW".toList with
  | true =>
      refine decides_withTokens (c := .homeCCW) fun name tokens htokens => ?_
      match tokens, htokens with
      | [t₁, t₂, t₃, t₄], _ =>
          refine decides_conversion (decides_conversion ?_)
          refine decides_conversion (decides_conversion ?_)
          simp only [World.latch_afterConversion]
          exact (decides_smdFindHome (Or.inr rfl)).of_iff
            ((and_iff_left trivial).trans inRange_home_iff)
  | false =>
      refine decides_withTokens (c := .homeCW) fun name tokens htokens => ?_
      match tokens, htokens with
      | [t₁, t₂, t₃, t₄], _ =>
          refine decides_conversion (decides_conversion ?_)
          refine decides_conversion (decides_conversion ?_)
          simp only [World.latch_afterConversion]
          exact (decides_smdFindHome (Or.inl rfl)).of_iff
            ((and_iff_left trivial).trans inRange_home_iff)

theorem decides_handleRelativeMove :
    Decides (handleRelativeMove input) w
      (ParameterCommand.relativeMove.decision w.globals.statusTypeAssembledMove w.latch
        input) := by
  refine decides_withTokens (c := .relativeMove) fun name tokens htokens => ?_
  match tokens, htokens with
  | [t₁, t₂, t₃, t₄, t₅], _ =>
      refine decides_conversion (decides_conversion (decides_conversion ?_))
      refine decides_conversion (decides_conversion ?_)
      simp only [World.latch_afterConversion]
      exact decides_smdRelativeMove.of_iff
        ((and_iff_left trivial).trans inRange_relativeMove_iff)

theorem decides_handlePresetMotorPosition :
    Decides (handlePresetMotorPosition input) w
      (ParameterCommand.presetMotorPosition.decision w.globals.statusTypeAssembledMove
        w.latch input) := by
  refine decides_withTokens (c := .presetMotorPosition) fun name tokens htokens => ?_
  match tokens, htokens with
  | [t₁], _ =>
      apply decides_conversion
      exact decides_smdPresetMotorPosition.of_iff
        ((and_iff_left trivial).trans inRange_position_iff)

theorem decides_handlePresetEncoderPosition :
    Decides (handlePresetEncoderPosition input) w
      (ParameterCommand.presetEncoderPosition.decision w.globals.statusTypeAssembledMove
        w.latch input) := by
  refine decides_withTokens (c := .presetEncoderPosition) fun name tokens htokens => ?_
  match tokens, htokens with
  | [t₁], _ =>
      apply decides_conversion
      exact decides_smdPresetEncoderPosition.of_iff
        ((and_iff_left trivial).trans inRange_position_iff)

theorem decides_handleSaveConfig :
    Decides (handleSaveConfig input) w
      (ParameterCommand.saveConfig.decision w.globals.statusTypeAssembledMove w.latch
        input) := by
  refine decides_withTokens (c := .saveConfig) fun name tokens htokens => ?_
  match tokens, htokens with
  | [t₁, t₂, t₃, t₄, t₅, t₆, t₇], _ =>
      refine decides_conversion (decides_conversion (decides_conversion ?_))
      refine decides_conversion (decides_conversion (decides_conversion ?_))
      apply decides_conversion
      simp only [World.latch_afterConversion]
      exact decides_smdSetConfiguration.of_iff
        ((and_iff_left trivial).trans inRange_saveConfig_iff)

theorem decides_dwellMove {n : Int} :
    Decides (if n < 0 ∨ n > 65535 then pure .invalidParameter
        else smdRunAssembledMove 0 n .dwell) w
      (if InRange (parameters .runAssembledDwellMove) [n] ∧
          w.globals.statusTypeAssembledMove = .dwell then
        .sends (runAssembledMoveProgram 33280 n) .commandSuccess .commandFailed
      else
        .refuses .invalidParameter) := by
  have hrange : InRange (parameters .runAssembledDwellMove) [n] ↔ 0 ≤ n ∧ n ≤ 65535 := by
    simp [InRange, parameters, Parameter.Accepts]
  by_cases hn : n < 0 ∨ n > 65535
  · have hout : ¬ InRange (parameters .runAssembledDwellMove) [n] := by
      rw [hrange]
      omega
    rw [if_pos hn, if_neg (fun h => hout h.1)]
    exact decides_pure _
  · have hin := hrange.mpr (by omega)
    rw [if_neg hn]
    exact (decides_smdRunAssembledMove_dwell (by omega)).of_iff (and_iff_right hin)

theorem decides_handleRunAssembledDwellMove :
    Decides (handleRunAssembledDwellMove input) w
      (ParameterCommand.runAssembledDwellMove.decision w.globals.statusTypeAssembledMove
        w.latch input) := by
  refine decides_withTokens (c := .runAssembledDwellMove) fun name tokens htokens => ?_
  match tokens, htokens with
  | [t₁], _ =>
      apply decides_conversion
      rw [← World.globals_afterConversion w t₁]
      exact decides_dwellMove

theorem decides_blendMove {n : Int} :
    Decides (if n < 0 ∨ n > 1 then pure .invalidParameter
        else smdRunAssembledMove n 0 .blend) w
      (if InRange (parameters .runAssembledBlendMove) [n] ∧
          w.globals.statusTypeAssembledMove = .blend then
        .sends (runAssembledMoveProgram (if n = 0 then 32768 else 32784) 0)
          .commandSuccess .commandFailed
      else
        .refuses .invalidParameter) := by
  have hrange : InRange (parameters .runAssembledBlendMove) [n] ↔ 0 ≤ n ∧ n ≤ 1 := by
    simp [InRange, parameters, Parameter.Accepts]
  by_cases hn : n < 0 ∨ n > 1
  · have hout : ¬ InRange (parameters .runAssembledBlendMove) [n] := by
      rw [hrange]
      omega
    rw [if_pos hn, if_neg (fun h => hout h.1)]
    exact decides_pure _
  · have hin := hrange.mpr (by omega)
    rw [if_neg hn]
    exact decides_smdRunAssembledMove_blend.of_iff (and_iff_right hin)

theorem decides_handleRunAssembledBlendMove :
    Decides (handleRunAssembledBlendMove input) w
      (ParameterCommand.runAssembledBlendMove.decision w.globals.statusTypeAssembledMove
        w.latch input) := by
  refine decides_withTokens (c := .runAssembledBlendMove) fun name tokens htokens => ?_
  match tokens, htokens with
  | [t₁], _ =>
      apply decides_conversion
      rw [← World.globals_afterConversion w t₁]
      exact decides_blendMove

/-! ## The dispatcher -/

/-- A message of one of the ten commands comes to the decision of that command. -/
theorem decides_parseScenario1 {c : ParameterCommand} (cl : Int)
    (h : ParameterCommand.ofMessage input = some c) :
    Decides (parseScenario1 input cl) w
      (c.decision w.globals.statusTypeAssembledMove w.latch input) := by
  apply parseScenario1_command
    (Q := fun c p => Decides p w (c.decision w.globals.statusTypeAssembledMove w.latch input))
    h decides_handleJog decides_handleFindHome
  intro c hc
  simp only [List.mem_cons, List.not_mem_nil, or_false] at hc
  rcases hc with rfl | rfl | rfl | rfl | rfl | rfl
  · exact decides_handleSaveConfig
  · exact decides_handleRelativeMove
  · exact decides_handlePresetMotorPosition
  · exact decides_handlePresetEncoderPosition
  · exact decides_handleRunAssembledDwellMove
  · exact decides_handleRunAssembledBlendMove

theorem decides_parseSocketInput {c : ParameterCommand} (cl : Int)
    (hscenario : w.InScenario1) (h : ParameterCommand.ofMessage input = some c) :
    Decides (parseSocketInput input cl) w
      (c.decision w.globals.statusTypeAssembledMove w.latch input) := by
  obtain ⟨w₁, hprepares, hruns⟩ := decides_parseScenario1 (w := w) cl h
  exact ⟨w₁, hprepares, fun r w' =>
    (runs_parseSocketInput_scenario1 hscenario).trans (hruns r w')⟩

end

/-! ## Code that writes registers -/

/-- The code ends, having written a register. -/
def WritesRegisters {α : Type} (p : Server α) (w : World) : Prop :=
  ∃ a w', Runs server p w a w' ∧ registerWrites (newEvents w w') ≠ []

/-- A program with something to write that is not sent again when refused. -/
def SentOnce (cmd : RegisterProgram) : Prop :=
  resentProgram cmd = none ∧ 0 < cmd.numRegisters

section WritesRegisters

variable {w : World}

/-- A program that is not sent again is written when the next session opens. -/
theorem writesRegisters_sendModbusCommand_iff {cmd : RegisterProgram}
    (honce : SentOnce cmd) : WritesRegisters (sendModbusCommand cmd) w ↔ w.opens := by
  obtain ⟨hresent, hne⟩ := honce
  constructor
  · rintro ⟨r, w', hrun, hwrites⟩
    rcases (runs_sendModbusCommand_iff.mp hrun).registerWrites_eq with
      hnil | ⟨cmd', ctx, hwritten, _⟩
    · exact absurd hnil hwrites
    · cases hwritten with
      | first hopens => exact hopens
      | resent _ _ hresends _ =>
          unfold World.resends at hresends
          rw [hresent] at hresends
          split at hresends <;> cases hresends
  · intro hopens
    refine ⟨_, _, (runs_sendModbusCommand_opens hopens).mpr ⟨rfl, rfl⟩, ?_⟩
    rw [registerWrites_newEvents_afterWrites]
    refine List.ne_nil_of_length_pos ?_
    rw [length_sessionWrites]
    exact hne

theorem writesRegisters_sendAnd_iff {cmd : RegisterProgram}
    {success failure : SmdResponseCode} (honce : SentOnce cmd) :
    WritesRegisters (sendAnd cmd success failure) w ↔ w.opens := by
  rw [← writesRegisters_sendModbusCommand_iff honce]
  unfold WritesRegisters
  simp only [runs_sendAnd_iff]
  constructor
  · rintro ⟨_, w', ⟨hsend, _⟩ | ⟨hsend, _⟩, hwrites⟩
    · exact ⟨_, w', hsend, hwrites⟩
    · exact ⟨_, w', hsend, hwrites⟩
  · rintro ⟨r, w', hsend, hwrites⟩
    rcases runs_sendModbusCommand_result hsend with rfl | rfl
    · exact ⟨success, w', Or.inl ⟨hsend, rfl⟩, hwrites⟩
    · exact ⟨failure, w', Or.inr ⟨hsend, rfl⟩, hwrites⟩

/-- Conversions and notes write nothing. -/
theorem World.Prepares.registerWrites_eq {w₁ w' : World} (h : w.Prepares w₁)
    (hextends : w₁.Extends w') :
    registerWrites (newEvents w w') = registerWrites (newEvents w₁ w') := by
  obtain ⟨errno, perrors, notes, rfl⟩ := h
  obtain ⟨es, hes⟩ := hextends.log
  have hlog : w'.log = w.log ++ (notes.map Event.noted ++ es) := by
    rw [← hes]
    simp
  rw [newEvents_of_log _ hlog, newEvents_of_log es hes.symm, registerWrites_append,
    registerWrites_notes, List.nil_append]

/-- Conversions and notes leave `DEVICE_IP` and the drive as they are. -/
theorem World.Prepares.opens_iff {w₁ : World} (h : w.Prepares w₁) : w₁.opens ↔ w.opens := by
  obtain ⟨errno, perrors, notes, rfl⟩ := h
  exact Iff.rfl

/-- A decision that was made writes registers when it is to send a program and the
drive can be reached. -/
theorem Decides.writesRegisters_iff {p : Server SmdResponseCode} {d : Decision}
    (h : Decides p w d)
    (honce : ∀ cmd success failure, d = .sends cmd success failure → SentOnce cmd) :
    WritesRegisters p w ↔ (∃ cmd success failure, d = .sends cmd success failure) ∧ w.opens := by
  obtain ⟨w₁, hprepares, hruns⟩ := h
  have hopens := hprepares.opens_iff
  have hwrites : WritesRegisters p w ↔ WritesRegisters d.program w₁ := by
    unfold WritesRegisters
    constructor
    · rintro ⟨r, w', hrun, hne⟩
      rw [hruns] at hrun
      exact ⟨r, w', hrun, by rwa [← hprepares.registerWrites_eq (extends_of_runs hrun)]⟩
    · rintro ⟨r, w', hrun, hne⟩
      exact ⟨r, w', (hruns r w').mpr hrun,
        by rwa [hprepares.registerWrites_eq (extends_of_runs hrun)]⟩
  rw [hwrites]
  cases d with
  | refuses code =>
      constructor
      · rintro ⟨r, w', hrun, hne⟩
        obtain ⟨_, rfl⟩ := runs_done_iff.mp hrun
        exact absurd (by simp [newEvents]) hne
      · rintro ⟨⟨_, _, _, h⟩, _⟩
        cases h
  | sends cmd success failure =>
      rw [← hopens]
      refine (writesRegisters_sendAnd_iff (honce _ _ _ rfl)).trans ?_
      exact (and_iff_right ⟨_, _, _, rfl⟩).symm

end WritesRegisters

/-! ## Decimal messages -/

namespace ParameterCommand

theorem exists_program (c : ParameterCommand) {values : List Int}
    (h : values.length = c.parameters.length) :
    ∃ cmd, c.program values = some cmd ∧ SentOnce cmd := by
  cases c with
  | jogCW =>
      match values, h with
      | [_, _, _, _], _ => exact ⟨_, rfl, rfl, Nat.succ_pos _⟩
  | jogCCW =>
      match values, h with
      | [_, _, _, _], _ => exact ⟨_, rfl, rfl, Nat.succ_pos _⟩
  | homeCW =>
      match values, h with
      | [_, _, _, _], _ => exact ⟨_, rfl, rfl, Nat.succ_pos _⟩
  | homeCCW =>
      match values, h with
      | [_, _, _, _], _ => exact ⟨_, rfl, rfl, Nat.succ_pos _⟩
  | relativeMove =>
      match values, h with
      | [_, _, _, _, _], _ => exact ⟨_, rfl, rfl, Nat.succ_pos _⟩
  | saveConfig =>
      match values, h with
      | [_, _, _, _, _, _, _], _ => exact ⟨_, rfl, rfl, Nat.succ_pos _⟩
  | _ =>
      match values, h with
      | [_], _ => exact ⟨_, rfl, rfl, Nat.succ_pos _⟩

theorem decision_eq_sends_iff {c : ParameterCommand} {moveType : SmdAssembledMoveType}
    {l : Latch} {input : Text} {cmd : RegisterProgram}
    {success failure : SmdResponseCode} :
    c.decision moveType l input = .sends cmd success failure ↔
      (numberOfTokens input = c.parameters.length + 1 ∧
        InRange c.parameters (seenTokens l c.parameters (input.splitOn comma).tail) ∧
          c.Loaded moveType) ∧
        c.program (seenTokens l c.parameters (input.splitOn comma).tail) = some cmd ∧
          success = c.outcome.1 ∧ failure = c.outcome.2 := by
  unfold decision
  by_cases hguard : numberOfTokens input = c.parameters.length + 1 ∧
      InRange c.parameters (seenTokens l c.parameters (input.splitOn comma).tail) ∧
        c.Loaded moveType
  · rw [if_pos hguard, and_iff_right hguard]
    unfold sending
    cases c.program (seenTokens l c.parameters (input.splitOn comma).tail) with
    | none => simp
    | some cmd' =>
        simp only [Decision.sends.injEq, Option.some.injEq]
        tauto
  · rw [if_neg hguard]
    simp [hguard]

/-- The decision is to send a program when the guard and the checks pass. -/
theorem exists_decision_eq_sends_iff {c : ParameterCommand}
    {moveType : SmdAssembledMoveType} {l : Latch} {input : Text} :
    (∃ cmd success failure, c.decision moveType l input = .sends cmd success failure) ↔
      numberOfTokens input = c.parameters.length + 1 ∧
        InRange c.parameters (seenTokens l c.parameters (input.splitOn comma).tail) ∧
          c.Loaded moveType := by
  constructor
  · rintro ⟨_, _, _, h⟩
    exact (decision_eq_sends_iff.mp h).1
  · intro hguard
    obtain ⟨cmd, hcmd, _⟩ := c.exists_program (List.Forall₂.length_eq hguard.2.1).symm
    exact ⟨cmd, _, _, decision_eq_sends_iff.mpr ⟨hguard, hcmd, rfl, rfl⟩⟩

theorem sentOnce_of_decision {c : ParameterCommand} {moveType : SmdAssembledMoveType}
    {l : Latch} {input : Text} {cmd : RegisterProgram} {success failure : SmdResponseCode}
    (h : c.decision moveType l input = .sends cmd success failure) : SentOnce cmd := by
  obtain ⟨hguard, hprogram, _⟩ := decision_eq_sends_iff.mp h
  obtain ⟨cmd', hcmd', honce⟩ := c.exists_program (List.Forall₂.length_eq hguard.2.1).symm
  rw [hprogram] at hcmd'
  cases hcmd'
  exact honce

theorem decision_cases (c : ParameterCommand) (moveType : SmdAssembledMoveType) (l : Latch)
    (input : Text) :
    c.decision moveType l input = .refuses .invalidParameter ∨
      ∃ cmd, c.decision moveType l input = .sends cmd c.outcome.1 c.outcome.2 := by
  unfold decision
  split
  · unfold sending
    cases c.program (seenTokens l c.parameters (input.splitOn comma).tail) with
    | none => exact Or.inl rfl
    | some cmd => exact Or.inr ⟨cmd, rfl⟩
  · exact Or.inl rfl

theorem fair_outcome (c : ParameterCommand) :
    c.outcome.1.TellsSuccess ∧ ¬ c.outcome.2.TellsSuccess := by
  have h : ∀ c ∈ all, c.outcome.1.TellsSuccess ∧ ¬ c.outcome.2.TellsSuccess := by
    decide +kernel
  exact h c c.mem_all

/-- Code that comes to the decision of one of the ten commands is settled. -/
theorem settled_of_decides {p : Server SmdResponseCode} {c : ParameterCommand} {input : Text}
    (h : ∀ w, Decides p w (c.decision w.globals.statusTypeAssembledMove w.latch input)) :
    Settled p := by
  intro w
  refine ⟨_, h w, ?_⟩
  rcases c.decision_cases w.globals.statusTypeAssembledMove w.latch input with hd | ⟨cmd, hd⟩
  · rw [hd]
    show ¬ SmdResponseCode.invalidParameter.TellsSuccess
    decide +kernel
  · rw [hd]
    exact c.fair_outcome

end ParameterCommand

theorem tail_endFields (ending field : Text) (fields : List Text) :
    (endFields ending (field :: fields)).tail = endFields ending fields := by
  cases fields <;> rfl

/-- For decimal tokens the checks see what the values determine. -/
theorem seenTokens_endFields (l : Latch) (parameters : List Parameter)
    (tokens : List DecimalToken) (ending : LineEnding) :
    seenTokens l parameters (endFields ending.text (tokens.map DecimalToken.text)) =
      seenValues l parameters (tokens.map DecimalToken.value) := by
  have hresults : (endFields ending.text (tokens.map DecimalToken.text)).map strtol =
      (tokens.map DecimalToken.value).map clampLong := by
    induction tokens with
    | nil => rfl
    | cons t rest ih =>
        cases rest with
        | nil => exact congrArg (· :: []) (t.strtol_append ending)
        | cons next rest => exact congrArg₂ List.cons t.strtol_text ih
  unfold seenTokens seenValues
  rw [hresults]

end SmdControlServer
