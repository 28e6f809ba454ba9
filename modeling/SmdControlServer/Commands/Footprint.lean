import SmdControlServer.Commands.Messages
import SmdControlServer.Server.Footprint
import SmdControlServer.Server.Iteration

/-!
# What the commands may do

All the commands but those that upload and run a profile keep the type of the
assembled move and send other programs than the one that runs it, and only
`connect` connects.  A conversion sets `errno` when its token overflows `long`.
-/

namespace SmdControlServer

open CString Interaction

/-- The program runs an assembled move. -/
def RegisterProgram.RunsMove (cmd : RegisterProgram) : Prop :=
  cmd.commandName = "run_assembled_move".toList

instance (cmd : RegisterProgram) : Decidable cmd.RunsMove :=
  inferInstanceAs (Decidable (_ = _))

/-- The assignments of the commands in general. -/
def Assignment.Plain : Assignment → Prop
  | .deviceIp _ => True
  | .statusWaitingForAssembledMove _ => True
  | _ => False

/-- Neither is the type of the assembled move assigned nor is the drive said to be
connected. -/
def Assignment.Ordinary : Assignment → Prop
  | .statusTypeAssembledMove _ => False
  | .smdConnected value => value ≠ 1
  | _ => True

theorem Assignment.ordinary_disconnected : (Assignment.smdConnected 0).Ordinary := by
  show (0 : Int) ≠ 1
  decide

/-- The entries of the functions that move the motor or hold it. -/
def Note.OfMotor : Note → Prop
  | .smdJog _ _ _ _ _ => True
  | .smdHoldMove => True
  | _ => False

/-- A point of the code of a command. -/
def Note.OfCommand : Note → Prop
  | .message _ => False
  | _ => True

/-- What the commands need that do nothing but talk to the drive and do not run a
profile. -/
structure Rights.Commanding (rights : Rights) : Prop where
  sends : ∀ cmd : RegisterProgram, ¬ cmd.RunsMove → rights.sends cmd
  motorNotes : ∀ n : Note, n.OfMotor → rights.notes n

/-- What the commands need that neither run a profile nor change the type of the
assembled move, the connection or the manual mode. -/
structure Rights.Plain (rights : Rights) : Prop where
  sends : ∀ cmd : RegisterProgram, ¬ cmd.RunsMove → rights.sends cmd
  plainAssigns : ∀ a : Assignment, a.Plain → rights.assigns a
  motorNotes : ∀ n : Note, n.OfMotor → rights.notes n

/-- What all the commands need but those that connect, upload a profile or run
one. -/
structure Rights.Ordinary (rights : Rights) : Prop where
  sends : ∀ cmd : RegisterProgram, ¬ cmd.RunsMove → rights.sends cmd
  assigns : ∀ a : Assignment, a.Ordinary → rights.assigns a
  notes : ∀ n : Note, n.OfCommand → rights.notes n

theorem Rights.Commanding.allowsStops {rights : Rights} (h : rights.Commanding) :
    rights.AllowsStops :=
  ⟨h.sends _ (by decide), h.motorNotes _ trivial, h.sends _ (by decide)⟩

theorem Rights.Plain.commanding {rights : Rights} (h : rights.Plain) : rights.Commanding where
  sends := h.sends
  motorNotes := h.motorNotes

theorem Rights.Plain.allowsStops {rights : Rights} (h : rights.Plain) :
    rights.AllowsStops :=
  h.commanding.allowsStops

theorem Rights.Ordinary.plain {rights : Rights} (h : rights.Ordinary) : rights.Plain where
  sends := h.sends
  plainAssigns := fun a ha => h.assigns a (by cases a <;> trivial)
  motorNotes := fun n hn => h.notes n (by cases n <;> trivial)

theorem Rights.Ordinary.allowsStops {rights : Rights} (h : rights.Ordinary) :
    rights.AllowsStops :=
  h.plain.allowsStops

/-- Every token from 1 to `n - 1` may overflow or does not. -/
def TokensWithin (rights : Rights) (input : Text) (n : Nat) : Prop :=
  numberOfTokens input = n → ∀ i, 1 ≤ i → i < n →
    (strtol ((input.splitOn comma).getD i [])).erange = true → rights.setsErrno erange

/-- The number of tokens with which the parameters of a message are converted. -/
def parameterTokens (input : Text) : Option Nat :=
  if strstr input "jogCW".toList || strstr input "jogCCW".toList then
    some 5
  else if strstr input "homeCW".toList || strstr input "homeCCW".toList then
    some 5
  else if startsWith input "saveConfig".toList then
    some 8
  else if startsWith input "relativeMove".toList then
    some 6
  else if startsWith input "presetMotorPosition".toList ||
      startsWith input "presetEncoderPosition".toList ||
      startsWith input "runAssembledDwellMove".toList ||
      startsWith input "runAssembledBlendMove".toList then
    some 2
  else
    none

/-- Every token that the message has converted may overflow or does not. -/
def ConversionsWithin (rights : Rights) (input : Text) : Prop :=
  ∀ n, parameterTokens input = some n → TokensWithin rights input n

section

variable {rights : Rights} {α : Type}

/-! ## The connection -/

theorem within_smdCloseCommandConnection (h : ∀ a : Assignment, a.Ordinary → rights.assigns a) :
    Within rights smdCloseCommandConnection := by
  unfold smdCloseCommandConnection
  refine within_bind (within_ask trivial) fun g => ?_
  cases g.smdCommandConnection with
  | none => trivial
  | some ctx =>
      refine within_ite ?_ trivial
      refine within_bind (within_ask trivial) fun _ => ?_
      refine within_bind (within_ask trivial) fun _ => ?_
      refine within_bind (within_assign (h _ trivial)) fun _ => ?_
      refine within_bind (within_assign (h _ Assignment.ordinary_disconnected)) fun _ => ?_
      refine within_bind (within_assign (h _ trivial)) fun _ => ?_
      refine within_bind (within_assign (h _ trivial)) fun _ => ?_
      exact within_assign (h _ trivial)

theorem within_smdOpenCommandConnection (h : ∀ a : Assignment, a.Ordinary → rights.assigns a)
    (hconnects : rights.assigns (.smdConnected 1)) :
    Within rights smdOpenCommandConnection := by
  unfold smdOpenCommandConnection
  refine ⟨trivial, fun ctx hctx => ?_⟩
  -- the pointer is set before the connection is tried
  change Within rights (assign (.smdCommandConnection (some ctx)) >>= fun _ => _)
  refine within_bind (within_assign (h _ trivial)) fun _ => ?_
  refine within_bind (within_ask trivial) fun ip => ?_
  -- errno is kept over modbus_free, and is the one that the attempt has left
  have hrefused : Within rights (do
      let e ← modbusErrno ctx
      setErrno e
      modbusFree ctx
      assign (.smdConnected 0)
      pure SmdResponseCode.noRouteToHost) := by
    refine ⟨trivial, fun e he => ?_⟩
    have herrno : rights.setsErrno e := by
      have he' : e = ctx.session.connectErrno := he
      rw [he']
      exact hctx
    change Within rights (setErrno e >>= fun _ => _)
    refine within_bind (within_ask herrno) fun _ => within_bind (within_ask trivial) fun _ => ?_
    exact within_bind (within_assign (h _ Assignment.ordinary_disconnected))
      fun _ => trivial
  have hopened : Within rights (do
      assign (.smdConnected 1)
      pure SmdResponseCode.connectSuccess) :=
    within_bind (within_assign hconnects) fun _ => trivial
  exact within_connect fun connected => within_ite hrefused hopened

/-! ## The upload loop -/

theorem composed_uploadSegments {segments : List AssembledMoveSegment}
    (hsegments : ∀ s ∈ segments, rights.sends (moveSegmentProgram s))
    (hprepare : rights.sends prepareForNextSegmentProgram) (numSegments : Nat) (cl : Int)
    (i : Nat) : Composed rights (uploadSegments numSegments cl i segments) := by
  induction segments generalizing i with
  | nil => exact composed_pure _
  | cons s rest ih =>
      have hrest := ih fun s hs => hsegments s (List.mem_cons_of_mem _ hs)
      unfold uploadSegments
      refine composed_bind (composed_sendModbusCommand (hsegments s List.mem_cons_self)) fun _ => ?_
      refine composed_bind (composed_ask trivial) fun _ => ?_
      refine composed_bind (composed_ask trivial) fun stack => ?_
      refine composed_bind (composed_returnModbusRegisters _ _ _ _ _ _) fun reply => ?_
      refine composed_bind (composed_ask trivial) fun _ => ?_
      refine composed_ite (composed_pure _) (composed_ite ?_ (composed_pure _))
      refine composed_bind (composed_sendModbusCommand hprepare) fun prepared => ?_
      refine composed_ite ?_ (composed_pure _)
      refine composed_bind (composed_ask trivial) fun _ => ?_
      refine composed_bind (composed_returnModbusRegisters _ _ _ _ _ _) fun reply => ?_
      refine composed_ite (composed_pure _) (composed_ite ?_ (hrest _))
      exact composed_bind (composed_writeToClient _ _) fun _ => hrest _

theorem Rights.Commanding.sends_moveSegment (h : rights.Commanding) (s : AssembledMoveSegment) :
    rights.sends (moveSegmentProgram s) :=
  h.sends _ (show ¬ "program_move_segment".toList = _ by decide)

/-! ## The messages with parameters -/

theorem composed_withTokens {input : Text} {n : Nat} {f : Tokenized → Server SmdResponseCode}
    (hf : numberOfTokens input = n → Composed rights (f (tokenizeClientInput input n))) :
    Composed rights (withTokens input n f) := by
  unfold withTokens
  by_cases hn : numberOfTokens input = n
  · exact composed_ite (composed_pure _) (composed_ite (composed_pure _) (hf hn))
  · rw [if_pos hn]
    exact composed_pure _

section handlers

variable {input : Text}

theorem composed_jogIn {direction : Int} (h : TokensWithin rights input 5)
    (hjog : ∀ direction accel decel jerk speed,
      Composed rights (smdJog direction accel decel jerk speed)) :
    Composed rights (jogIn direction input) := by
  refine composed_withTokens fun hn => ?_
  have htoken := h hn
  refine composed_conversion (htoken 1 (by omega) (by omega)) fun _ => ?_
  refine composed_conversion (htoken 2 (by omega) (by omega)) fun _ => ?_
  refine composed_conversion (htoken 3 (by omega) (by omega)) fun _ => ?_
  refine composed_conversion (htoken 4 (by omega) (by omega)) fun _ => ?_
  exact hjog _ _ _ _ _

theorem composed_findHomeIn {direction : Int} (h : TokensWithin rights input 5)
    (hhome : ∀ direction speed accel decel jerk,
      Composed rights (smdFindHome direction speed accel decel jerk)) :
    Composed rights (findHomeIn direction input) := by
  refine composed_withTokens fun hn => ?_
  have htoken := h hn
  refine composed_conversion (htoken 1 (by omega) (by omega)) fun _ => ?_
  refine composed_conversion (htoken 2 (by omega) (by omega)) fun _ => ?_
  refine composed_conversion (htoken 3 (by omega) (by omega)) fun _ => ?_
  refine composed_conversion (htoken 4 (by omega) (by omega)) fun _ => ?_
  exact hhome _ _ _ _ _

theorem composed_handleSaveConfig (h : TokensWithin rights input 8)
    (hconfig : ∀ controlWord configWord startingSpeed stepsPerTurn encPulsesPerTurn
      idleCurrentPercentage motorCurrent, Composed rights (smdSetConfiguration controlWord
        configWord startingSpeed stepsPerTurn encPulsesPerTurn idleCurrentPercentage
        motorCurrent)) : Composed rights (handleSaveConfig input) := by
  refine composed_withTokens fun hn => ?_
  have htoken := h hn
  refine composed_conversion (htoken 1 (by omega) (by omega)) fun _ => ?_
  refine composed_conversion (htoken 2 (by omega) (by omega)) fun _ => ?_
  refine composed_conversion (htoken 3 (by omega) (by omega)) fun _ => ?_
  refine composed_conversion (htoken 4 (by omega) (by omega)) fun _ => ?_
  refine composed_conversion (htoken 5 (by omega) (by omega)) fun _ => ?_
  refine composed_conversion (htoken 6 (by omega) (by omega)) fun _ => ?_
  refine composed_conversion (htoken 7 (by omega) (by omega)) fun _ => ?_
  exact hconfig _ _ _ _ _ _ _

theorem composed_handleRelativeMove (h : TokensWithin rights input 6)
    (hmove : ∀ relPos accel decel jerk speed,
      Composed rights (smdRelativeMove relPos accel decel jerk speed)) :
    Composed rights (handleRelativeMove input) := by
  refine composed_withTokens fun hn => ?_
  have htoken := h hn
  refine composed_conversion (htoken 1 (by omega) (by omega)) fun _ => ?_
  refine composed_conversion (htoken 2 (by omega) (by omega)) fun _ => ?_
  refine composed_conversion (htoken 3 (by omega) (by omega)) fun _ => ?_
  refine composed_conversion (htoken 4 (by omega) (by omega)) fun _ => ?_
  refine composed_conversion (htoken 5 (by omega) (by omega)) fun _ => ?_
  exact hmove _ _ _ _ _

theorem composed_handlePresetMotorPosition (h : TokensWithin rights input 2)
    (hpreset : ∀ pos, Composed rights (smdPresetMotorPosition pos)) :
    Composed rights (handlePresetMotorPosition input) := by
  refine composed_withTokens fun hn => ?_
  exact composed_conversion (h hn 1 (by omega) (by omega)) fun _ => hpreset _

theorem composed_handlePresetEncoderPosition (h : TokensWithin rights input 2)
    (hpreset : ∀ pos, Composed rights (smdPresetEncoderPosition pos)) :
    Composed rights (handlePresetEncoderPosition input) := by
  refine composed_withTokens fun hn => ?_
  exact composed_conversion (h hn 1 (by omega) (by omega)) fun _ => hpreset _

/-- The dwell time is checked before the run. -/
theorem composed_handleRunAssembledDwellMove (h : TokensWithin rights input 2)
    (hsends : ∀ lsw ∈ [32768, 32784, 33280], ∀ dwellTime, 0 ≤ dwellTime → dwellTime ≤ 65535 →
      rights.sends (runAssembledMoveProgram lsw dwellTime)) :
    Composed rights (handleRunAssembledDwellMove input) := by
  refine composed_withTokens fun hn => ?_
  refine composed_conversion (h hn 1 (by omega) (by omega)) fun dwellTime => ?_
  by_cases hrange : dwellTime < 0 ∨ dwellTime > 65535
  · rw [if_pos hrange]
    exact composed_pure _
  · rw [if_neg hrange]
    exact composed_smdRunAssembledMove fun lsw hlsw => hsends lsw hlsw _ (by omega) (by omega)

theorem composed_handleRunAssembledBlendMove (h : TokensWithin rights input 2)
    (hsends : ∀ lsw ∈ [32768, 32784, 33280], ∀ dwellTime, 0 ≤ dwellTime → dwellTime ≤ 65535 →
      rights.sends (runAssembledMoveProgram lsw dwellTime)) :
    Composed rights (handleRunAssembledBlendMove input) := by
  refine composed_withTokens fun hn => ?_
  refine composed_conversion (h hn 1 (by omega) (by omega)) fun _ => ?_
  refine composed_ite (composed_pure _) (composed_smdRunAssembledMove fun lsw hlsw => ?_)
  exact hsends lsw hlsw _ (by decide) (by decide)

end handlers

theorem within_smdSetManualMode (hnote : rights.notes .manualModeStarted) :
    Within rights smdSetManualMode := by
  unfold smdSetManualMode
  refine within_bind (within_ask trivial) fun created => ?_
  refine within_ite trivial ?_
  exact within_bind (within_ask hnote) fun _ => trivial

theorem composed_smdResetErrors (h : rights.Commanding) : Composed rights smdResetErrors :=
  composed_sendModbusCommand (h.sends _ (by decide))

/-! ## The dispatcher -/

variable {input : Text} {cl : Int}

theorem within_handleConnect (h : ∀ a : Assignment, a.Ordinary → rights.assigns a)
    (hconnects : rights.assigns (.smdConnected 1)) : Within rights (handleConnect input) := by
  unfold handleConnect withTokens
  refine within_ite trivial (within_ite trivial (within_ite within_abort ?_))
  exact within_bind (within_assign (h _ trivial)) fun _ =>
    within_smdOpenCommandConnection h hconnects

/-- A message runs a profile, disconnects, starts the manual mode, or is plain. -/
theorem parseScenario1_kinds (input : Text) (cl : Int) :
    (startsWith input "runAssembledDwellMove".toList = true ∧ parameterTokens input = some 2 ∧
        parseScenario1 input cl = handleRunAssembledDwellMove input) ∨
      (startsWith input "runAssembledBlendMove".toList = true ∧ parameterTokens input = some 2 ∧
        parseScenario1 input cl = handleRunAssembledBlendMove input) ∨
      (parseScenario1 input cl = do
        smdCloseCommandConnection
        pure .disconnectSuccess) ∨
      (parseScenario1 input cl = do
        assign (.statusManualModeEnable 1)
        smdSetManualMode) ∨
      ∀ rights : Rights, rights.Commanding → ConversionsWithin rights input →
        Composed rights (parseScenario1 input cl) := by
  unfold ConversionsWithin parameterTokens parseScenario1
  -- all but four of the branches keep within the rights of a command
  have plain : ∀ {p : Server SmdResponseCode} {tokens : Option Nat} {P Q P' Q' : Prop},
      (∀ rights : Rights, rights.Commanding →
        (∀ n, tokens = some n → TokensWithin rights input n) → Composed rights p) →
      P ∨ Q ∨ P' ∨ Q' ∨ ∀ rights : Rights, rights.Commanding →
        (∀ n, tokens = some n → TokensWithin rights input n) → Composed rights p :=
    fun h => Or.inr (Or.inr (Or.inr (Or.inr h)))
  -- the branches in the order of the dispatcher
  by_cases hjog : (strstr input "jogCW".toList || strstr input "jogCCW".toList) = true
  · simp only [hjog, if_true]
    exact plain fun rights hr h => composed_jogIn (h 5 rfl) fun _ _ _ _ _ =>
      composed_smdJog (hr.sends _ (show ¬ "jog".toList = _ by decide)) (hr.motorNotes _ trivial)
  rw [if_neg hjog, if_neg hjog]
  by_cases hhome : (strstr input "homeCW".toList || strstr input "homeCCW".toList) = true
  · simp only [hhome, if_true]
    exact plain fun rights hr h => composed_findHomeIn (h 5 rfl) fun _ _ _ _ _ =>
      composed_smdFindHome (hr.sends _ (show ¬ "find_home".toList = _ by decide))
  rw [if_neg hhome, if_neg hhome]
  by_cases hdisconnect : startsWith input "disconnect".toList = true
  · rw [if_pos hdisconnect]
    exact Or.inr (Or.inr (Or.inl rfl))
  rw [if_neg hdisconnect]
  by_cases hsave : startsWith input "saveConfig".toList = true
  · simp only [hsave, if_true]
    exact plain fun rights hr h => composed_handleSaveConfig (h 8 rfl) fun _ _ _ _ _ _ _ =>
      composed_smdSetConfiguration
        (hr.sends _ (show ¬ "set_configuration".toList = _ by decide))
  rw [if_neg hsave, if_neg hsave]
  by_cases hmove : startsWith input "relativeMove".toList = true
  · simp only [hmove, if_true]
    exact plain fun rights hr h => composed_handleRelativeMove (h 6 rfl) fun _ _ _ _ _ =>
      composed_smdRelativeMove (hr.sends _ (show ¬ "relative_move".toList = _ by decide))
  rw [if_neg hmove, if_neg hmove]
  by_cases henable : startsWith input "driveEnable".toList = true
  · rw [if_pos henable]
    exact plain fun rights hr _ => composed_sendAnd (hr.sends _ (by decide)) _ _
  rw [if_neg henable]
  by_cases hdisable : startsWith input "driveDisable".toList = true
  · rw [if_pos hdisable]
    exact plain fun rights hr _ => composed_sendAnd (hr.sends _ (by decide)) _ _
  rw [if_neg hdisable]
  by_cases hhold : startsWith input "holdMove".toList = true
  · rw [if_pos hhold]
    exact plain fun rights hr _ => composed_smdHoldMove hr.allowsStops.hold hr.allowsStops.holdNote
  rw [if_neg hhold]
  by_cases hstop : startsWith input "immedStop".toList = true
  · rw [if_pos hstop]
    exact plain fun rights hr _ => composed_sendModbusCommand hr.allowsStops.stop
  rw [if_neg hstop]
  by_cases hreset : startsWith input "resetErrors".toList = true
  · rw [if_pos hreset]
    exact plain fun rights hr _ => composed_smdResetErrors hr
  rw [if_neg hreset]
  by_cases hinput : startsWith input "readInputRegisters".toList = true
  · rw [if_pos hinput]
    exact plain fun rights _ _ => composed_smdReadRegisters _ _
  rw [if_neg hinput]
  by_cases hload : startsWith input "loadCurrentConfiguration".toList = true
  · rw [if_pos hload]
    exact plain fun rights hr _ => composed_sendAnd (hr.sends _ (by decide)) _ _
  rw [if_neg hload]
  by_cases hread : startsWith input "readCurrentConfiguration".toList = true
  · rw [if_pos hread]
    exact plain fun rights _ _ => composed_smdReadRegisters _ _
  rw [if_neg hread]
  by_cases hmotor : startsWith input "presetMotorPosition".toList = true
  · simp only [hmotor, Bool.true_or, if_true]
    exact plain fun rights hr h => composed_handlePresetMotorPosition (h 2 rfl) fun _ =>
      composed_smdPresetMotorPosition
        (hr.sends _ (show ¬ "preset_motor".toList = _ by decide))
  rw [if_neg hmotor]
  by_cases hencoder : startsWith input "presetEncoderPosition".toList = true
  · simp only [hencoder, Bool.true_or, Bool.or_true, if_true]
    exact plain fun rights hr h => composed_handlePresetEncoderPosition (h 2 rfl) fun _ =>
      composed_smdPresetEncoderPosition
        (hr.sends _ (show ¬ "preset_encoder".toList = _ by decide))
  rw [if_neg hencoder]
  by_cases hprogram : startsWith input "programAssembledMove".toList = true
  · rw [if_pos hprogram]
    exact plain fun rights hr _ =>
      composed_smdProgramAssembledMove (hr.sends _ (by decide)) (hr.sends _ (by decide))
  rw [if_neg hprogram]
  by_cases hdwell : startsWith input "runAssembledDwellMove".toList = true
  · simp only [hdwell, Bool.true_or, Bool.or_true, if_true]
    exact Or.inl ⟨trivial, trivial, rfl⟩
  rw [if_neg hdwell]
  by_cases hblend : startsWith input "runAssembledBlendMove".toList = true
  · simp only [hblend, Bool.or_true, if_true]
    exact Or.inr (Or.inl ⟨trivial, trivial, rfl⟩)
  rw [if_neg hblend]
  by_cases hstart : startsWith input "startManualMode".toList = true
  · rw [if_pos hstart]
    exact Or.inr (Or.inr (Or.inr (Or.inl rfl)))
  · rw [if_neg hstart]
    exact plain fun rights _ _ => composed_pure _

/-- A message runs the profile of one type or of the other, or it is ordinary. -/
theorem parseScenario1_cases (input : Text) (cl : Int) :
    (startsWith input "runAssembledDwellMove".toList = true ∧ parameterTokens input = some 2 ∧
        parseScenario1 input cl = handleRunAssembledDwellMove input) ∨
      (startsWith input "runAssembledBlendMove".toList = true ∧ parameterTokens input = some 2 ∧
        parseScenario1 input cl = handleRunAssembledBlendMove input) ∨
      ∀ rights : Rights, rights.Ordinary → ConversionsWithin rights input →
        Within rights (parseScenario1 input cl) := by
  rcases parseScenario1_kinds input cl with hdwell | hblend | hclose | hstart | hplain
  · exact Or.inl hdwell
  · exact Or.inr (Or.inl hblend)
  · refine Or.inr (Or.inr fun rights hr _ => ?_)
    rw [hclose]
    exact within_bind (within_smdCloseCommandConnection hr.assigns) fun _ => trivial
  · refine Or.inr (Or.inr fun rights hr _ => ?_)
    rw [hstart]
    exact within_bind (within_assign (hr.assigns _ trivial)) fun _ =>
      within_smdSetManualMode (hr.notes _ trivial)
  · exact Or.inr (Or.inr fun rights hr h => (hplain rights hr.plain.commanding h).within)

theorem within_handleStopManualMode (h : ∀ a : Assignment, a.Ordinary → rights.assigns a)
    (hnote : rights.notes .manualModeStopped) (hstop : rights.sends immediateStopProgram) :
    Within rights handleStopManualMode := by
  have hstopped : Within rights (note .manualModeStopped) := within_ask hnote
  unfold handleStopManualMode
  refine within_bind (within_assign (h _ trivial)) fun _ => ?_
  refine within_bind (within_sendModbusCommand hstop) fun response => ?_
  refine within_ite ?_ (within_bind hstopped fun _ => trivial)
  refine within_bind (within_smdCloseCommandConnection h) fun _ => ?_
  exact within_bind hstopped fun _ => trivial

/-- In the manual mode a message stops it or is plain. -/
theorem parseScenario2_cases (input : Text) (cl : Int) :
    parseScenario2 input cl = handleStopManualMode ∨
      ∀ rights : Rights, rights.Commanding → Composed rights (parseScenario2 input cl) := by
  unfold parseScenario2
  by_cases hstop : startsWith input "stopManualMode".toList = true
  · rw [if_pos hstop]
    exact Or.inl rfl
  · rw [if_neg hstop]
    refine Or.inr fun rights hr => composed_ite (composed_smdResetErrors hr) ?_
    exact composed_ite (composed_smdReadRegisters _ _) (composed_pure _)

theorem within_parseScenario2 (hr : rights.Ordinary) :
    Within rights (parseScenario2 input cl) := by
  rcases parseScenario2_cases input cl with hstop | hplain
  · rw [hstop]
    exact within_handleStopManualMode hr.assigns (hr.notes _ trivial) hr.allowsStops.stop
  · exact (hplain rights hr.plain.commanding).within

/-! ## The loop -/

theorem composed_tellResponse (r : SmdResponseCode) :
    Composed rights (tellResponse r cl) := by
  unfold tellResponse
  cases responseLine r with
  | none => exact composed_pure _
  | some line =>
      refine composed_bind (composed_writeToClient _ _) fun written => ?_
      exact composed_ite (composed_ask trivial) (composed_pure _)

theorem composed_answerClient (h : rights.assigns (.statusWaitingForAssembledMove 1))
    (r : SmdResponseCode) : Composed rights (answerClient r cl) := by
  rw [answerClient_eq]
  refine composed_ite ?_ (composed_tellResponse r)
  exact composed_bind (composed_assign h) fun _ => composed_tellResponse r

theorem within_serveNextClient (h : ∀ a : Assignment, a.Ordinary → rights.assigns a)
    (hnote : rights.notes .clientGone) : Within rights (serveNextClient cl) := by
  unfold serveNextClient
  refine within_bind (within_ask trivial) fun _ => ?_
  refine within_bind (within_smdCloseCommandConnection h) fun _ => ?_
  refine within_bind (within_ask hnote) fun _ => ?_
  refine within_bind (within_ask trivial) fun next => ?_
  exact within_ite within_abort trivial

/-! ## What a message does -/

/-- The next message is taken for a profile. -/
def World.ExpectsProfile (w : World) : Prop :=
  w.globals.smdConnected = 1 ∧ w.globals.statusWaitingForAssembledMove = 1

/-- A message goes to Scenario 1 or to Scenario 3, or it connects, or it goes to code
that converts nothing and is ordinary. -/
theorem runs_parseSocketInput_cases {w w' : World} {r : SmdResponseCode}
    (h : Runs server (parseSocketInput input cl) w r w') :
    (w.InScenario1 ∧ Runs server (parseScenario1 input cl) w r w') ∨
      (w.ExpectsProfile ∧ Runs server (parseScenario3 input cl) w r w') ∨
      (w.globals.smdConnected = 0 ∧ startsWith input "connect".toList = true ∧
        Runs server (handleConnect input) w r w') ∨
      ∃ p, Runs server p w r w' ∧ ∀ rights : Rights, rights.Ordinary → Within rights p := by
  by_cases hscenario : w.InScenario1
  · rw [runs_parseSocketInput_scenario1 hscenario] at h
    exact Or.inl ⟨hscenario, h⟩
  · right
    -- the scenarios other than the first, in the order of the code
    unfold parseSocketInput dispatchIn at h
    simp only [Program.bind_eq_bind, Program.perform_bind, Program.done_bind,
      runs_globals] at h
    by_cases hclosed : w.globals.smdConnected = 0
    · rw [if_pos hclosed] at h
      by_cases hconnect : startsWith input "connect".toList = true
      · rw [if_pos hconnect] at h
        exact Or.inr (Or.inl ⟨hclosed, hconnect, h⟩)
      · rw [if_neg hconnect] at h
        exact Or.inr (Or.inr ⟨_, h, fun _ _ => trivial⟩)
    rw [World.InScenario1] at hscenario
    rw [if_neg hclosed, if_neg hscenario] at h
    by_cases hmanual : w.globals.smdConnected = 1 ∧
        w.globals.statusWaitingForAssembledMove = 0 ∧ w.globals.statusManualModeEnable = 1
    · rw [if_pos hmanual] at h
      exact Or.inr (Or.inr ⟨_, h, fun rights hr => within_parseScenario2 hr⟩)
    rw [if_neg hmanual] at h
    by_cases hprofile : w.globals.smdConnected = 1 ∧
        w.globals.statusWaitingForAssembledMove = 1
    · rw [if_pos hprofile] at h
      exact Or.inl ⟨hprofile, h⟩
    · rw [if_neg hprofile] at h
      exact Or.inr (Or.inr ⟨_, h, fun _ _ => trivial⟩)

/-- The upload needs the right to change the type of the assembled move, and that to send
the segments that it collects. -/
theorem composed_smdParseAndUploadAssembledMove
    (hsegments : ∀ (stack : Uninitialised) (members : List CJson) (table : SegmentTable),
      collectSegments members 0 ⟨stack.segments, 0, []⟩ = .ok table →
        ∀ k, rights.sends (moveSegmentProgram (table.segments k)))
    (hprepare : rights.sends prepareForNextSegmentProgram)
    (htype : ∀ moveType, rights.assigns (.statusTypeAssembledMove moveType)) :
    Composed rights (smdParseAndUploadAssembledMove input cl) := by
  unfold smdParseAndUploadAssembledMove
  refine composed_bind (composed_ask trivial) fun root => ?_
  cases root with
  | none => exact composed_pure _
  | some root =>
      refine composed_bind (composed_ask trivial) fun stack => ?_
      cases htable : collectSegments root.child 0 ⟨stack.segments, 0, []⟩ with
      | error fault => exact composed_abort
      | ok table =>
          refine composed_ite (composed_pure _) ?_
          split
          · exact composed_abort
          · split
            · exact composed_pure _
            · refine composed_bind (composed_assign (htype _)) fun _ => ?_
              refine composed_uploadSegments (fun s hs => ?_) hprepare _ _ _
              obtain ⟨k, rfl⟩ := List.mem_ofFn.mp (List.mem_of_mem_take hs)
              exact hsegments stack root.child table htable k

theorem composed_parseScenario3
    (hupload : Composed rights (smdParseAndUploadAssembledMove input cl))
    (hassigns : rights.assigns (.statusWaitingForAssembledMove 0))
    (hreset : Composed rights smdResetErrors) : Composed rights (parseScenario3 input cl) := by
  have hdone : Composed rights (assign (.statusWaitingForAssembledMove 0)) :=
    composed_assign hassigns
  unfold parseScenario3
  refine composed_bind hupload ?_
  intro response
  refine composed_ite (composed_bind hdone fun _ => composed_pure _) ?_
  refine composed_bind hdone fun _ => ?_
  exact composed_bind hreset fun _ => composed_pure _

theorem Rights.Commanding.composed_upload (h : rights.Commanding)
    (htype : ∀ moveType, rights.assigns (.statusTypeAssembledMove moveType)) :
    Composed rights (smdParseAndUploadAssembledMove input cl) :=
  composed_smdParseAndUploadAssembledMove (fun _ _ _ _ _ => h.sends_moveSegment _)
    (h.sends _ (by decide)) htype

theorem Rights.Plain.composed_parseScenario3 (h : rights.Plain)
    (htype : ∀ moveType, rights.assigns (.statusTypeAssembledMove moveType)) :
    Composed rights (parseScenario3 input cl) :=
  SmdControlServer.composed_parseScenario3 (h.commanding.composed_upload htype)
    (h.plainAssigns _ trivial) (composed_smdResetErrors h.commanding)

end

end SmdControlServer
