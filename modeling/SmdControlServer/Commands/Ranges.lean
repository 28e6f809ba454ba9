import SmdControlServer.Commands.Dispatch
import SmdControlServer.Commands.Footprint
import SmdControlServer.Commands.LostTokens
import SmdControlServer.Upload.Collection

/-!
# What can be written in a register

A register of the drive takes a word of 16 bits, while `modbus_write_register` is handed
an `int`.  All the programs but one keep to the registers 1024 to 1033 and to values that
a word can have, whatever the message: their values are checked, narrowed to `int16_t` or
split into words.  `SMD_set_configuration` hands over its first two parameters as they
are.
-/

namespace SmdControlServer

open CString Interaction

/-- A value that a 16-bit word can have, signed or not. -/
def FitsWord (value : Int) : Prop :=
  -32768 ≤ value ∧ value ≤ 65535

/-- A register of the drive, and a value for it. -/
def Writable (write : Int × Int) : Prop :=
  (1024 ≤ write.1 ∧ write.1 ≤ 1033) ∧ FitsWord write.2

instance : DecidablePred FitsWord := fun _ => inferInstanceAs (Decidable (_ ∧ _))

instance : DecidablePred Writable := fun _ => inferInstanceAs (Decidable (_ ∧ _))

/-- All that the program writes can be written. -/
def RegisterProgram.Writable (cmd : RegisterProgram) : Prop :=
  ∀ write ∈ cmd.writes, SmdControlServer.Writable write

instance (cmd : RegisterProgram) : Decidable cmd.Writable :=
  inferInstanceAs (Decidable (∀ write ∈ cmd.writes, _))

/-- The word that is transmitted is the value again, read with a sign or without. -/
theorem fitsWord_iff {value : Int} :
    FitsWord value ↔ toInt16 value = value ∨ value % 65536 = value := by
  unfold FitsWord toInt16
  omega

/-! ## The programs -/

theorem fitsWord_toInt16 (n : Int) : FitsWord (toInt16 n) := by
  unfold FitsWord toInt16
  omega

/-- A program is as good as its registers and its values. -/
theorem RegisterProgram.writable_of_values {cmd : RegisterProgram}
    (hregisters : cmd.registers.all (fun r => decide (1024 ≤ r ∧ r ≤ 1033)) = true)
    (hvalues : cmd.values.Forall FitsWord) : cmd.Writable := by
  intro write hwrite
  obtain ⟨hregister, hvalue⟩ := List.of_mem_zip hwrite
  have hdrive := List.all_eq_true.mp hregisters _ hregister
  exact ⟨of_decide_eq_true hdrive, List.forall_iff_forall_mem.mp hvalues _ hvalue⟩

theorem fitsWord_inlineSpeedWords (speed : Int) :
    FitsWord (inlineSpeedWords speed).1 ∧ FitsWord (inlineSpeedWords speed).2 := by
  unfold inlineSpeedWords
  split
  · exact ⟨fitsWord_toInt16 _, fitsWord_toInt16 _⟩
  · exact ⟨fitsWord_toInt16 _, (by decide : FitsWord 0)⟩

theorem fitsWord_upperWord (n : Int) : FitsWord (convertIntToWords n).upperWord :=
  fitsWord_toInt16 _

theorem fitsWord_lowerWord (n : Int) : FitsWord (convertIntToWords n).lowerWord :=
  fitsWord_toInt16 _

/-- What the motor commands check of their parameters fits. -/
theorem fitsWord_of_moveParametersValid {accel decel jerk speed : Int}
    (h : moveParametersValid accel decel jerk speed = true) :
    FitsWord accel ∧ FitsWord decel ∧ FitsWord jerk := by
  rw [moveParametersValid_iff] at h
  unfold FitsWord
  omega

section programs

variable {direction accel decel jerk speed : Int}

theorem writable_jogProgram (h : moveParametersValid accel decel jerk speed = true) :
    (jogProgram direction accel decel jerk speed).Writable := by
  obtain ⟨haccel, hdecel, hjerk⟩ := fitsWord_of_moveParametersValid h
  obtain ⟨hlower, hupper⟩ := fitsWord_inlineSpeedWords speed
  have htrigger : FitsWord (if direction = 0 then 128 else 256) := by split <;> decide
  exact RegisterProgram.writable_of_values rfl ⟨by decide, by decide, by decide, by decide,
    hupper, hlower, haccel, hdecel, by decide, hjerk, htrigger⟩

theorem writable_relativeMoveProgram {relPos : Int}
    (h : moveParametersValid accel decel jerk speed = true) :
    (relativeMoveProgram relPos accel decel jerk speed).Writable := by
  obtain ⟨haccel, hdecel, hjerk⟩ := fitsWord_of_moveParametersValid h
  exact RegisterProgram.writable_of_values rfl ⟨by decide, by decide, fitsWord_upperWord _,
    fitsWord_lowerWord _, fitsWord_upperWord _, fitsWord_lowerWord _, haccel, hdecel, hjerk,
    by decide⟩

theorem writable_findHomeProgram (h : moveParametersValid accel decel jerk speed = true) :
    (findHomeProgram direction speed accel decel jerk).Writable := by
  obtain ⟨haccel, hdecel, hjerk⟩ := fitsWord_of_moveParametersValid h
  have htrigger : FitsWord (if direction = 0 then 32 else 64) := by split <;> decide
  exact RegisterProgram.writable_of_values rfl ⟨by decide, fitsWord_upperWord _,
    fitsWord_lowerWord _, haccel, hdecel, hjerk, by decide, htrigger⟩

theorem writable_presetProgram {commandName : Text} {named : commandName ≠ []}
    {trigger pos : Int} (h : FitsWord trigger) :
    (presetProgram commandName named trigger pos).Writable :=
  RegisterProgram.writable_of_values rfl ⟨by decide, fitsWord_upperWord _,
    fitsWord_lowerWord _, h⟩

theorem writable_runAssembledMoveProgram {lsw dwellTime : Int} (hlsw : FitsWord lsw)
    (hdwell : FitsWord dwellTime) : (runAssembledMoveProgram lsw dwellTime).Writable :=
  RegisterProgram.writable_of_values rfl ⟨hlsw, hdwell, by decide⟩

/-- The configuration is as good as its two words. -/
theorem writable_setConfigurationProgram_iff {controlWord configWord startingSpeed stepsPerTurn
    encPulsesPerTurn idleCurrentPercentage motorCurrent : Int}
    (h : configurationValid startingSpeed stepsPerTurn encPulsesPerTurn idleCurrentPercentage
      motorCurrent = true) :
    (setConfigurationProgram controlWord configWord startingSpeed stepsPerTurn encPulsesPerTurn
        idleCurrentPercentage motorCurrent).Writable ↔
      FitsWord controlWord ∧ FitsWord configWord := by
  rw [configurationValid_iff] at h
  obtain ⟨hlower, hupper⟩ := fitsWord_inlineSpeedWords startingSpeed
  have hothers : FitsWord stepsPerTurn ∧ FitsWord encPulsesPerTurn ∧
      FitsWord idleCurrentPercentage ∧ FitsWord motorCurrent := by
    unfold FitsWord
    omega
  obtain ⟨hsteps, hpulses, hidle, hcurrent⟩ := hothers
  constructor
  -- the two words are the first two values
  · intro hall
    exact ⟨(hall (1024, controlWord) (List.mem_cons_of_mem _ List.mem_cons_self)).2,
      (hall (1025, configWord) List.mem_cons_self).2⟩
  · rintro ⟨hcontrol, hconfig⟩
    exact RegisterProgram.writable_of_values rfl ⟨hconfig, hcontrol, hupper, hlower, hsteps,
      hpulses, hidle, hcurrent⟩

theorem writable_moveSegmentProgram {s : AssembledMoveSegment} (h : s.Narrowed) :
    (moveSegmentProgram s).Writable := by
  have hfits : ∀ {n : Int}, toInt16 n = n → FitsWord n := fun hn => hn ▸ fitsWord_toInt16 _
  obtain ⟨haccel, hdecel, hjerk⟩ := h
  exact RegisterProgram.writable_of_values rfl ⟨by decide, fitsWord_upperWord _,
    fitsWord_lowerWord _, fitsWord_upperWord _, fitsWord_lowerWord _, hfits haccel,
    hfits hdecel, hfits hjerk, by decide⟩

end programs

/-! ## The segments of a profile -/

theorem toInt16_toInt16 (n : Int) : toInt16 (toInt16 n) = toInt16 n := by
  unfold toInt16
  omega

theorem narrowed_of_readSegment {m : CJson} {s : AssembledMoveSegment}
    (h : readSegment m = some s) : s.Narrowed := by
  unfold readSegment at h
  simp only [Option.bind_eq_bind, Option.bind_eq_some_iff] at h
  obtain ⟨_, _, _, _, _, _, _, _, _, _, h⟩ := h
  cases h
  exact ⟨toInt16_toInt16 _, toInt16_toInt16 _, toInt16_toInt16 _⟩

/-- The loop stores only narrowed segments. -/
theorem narrowed_of_collectSegments {members : List CJson} {i : Nat} {t table : SegmentTable}
    (ht : ∀ k, (t.segments k).Narrowed) (h : collectSegments members i t = .ok table)
    (k : Fin 16) : (table.segments k).Narrowed := by
  induction members generalizing i t with
  | nil =>
      cases h
      exact ht k
  | cons m rest ih =>
      rcases collectSegments_cons_ok h with ⟨_, hrest⟩ | ⟨s, hi, _, hs, hrest⟩
      · exact ih ht hrest
      · refine ih (fun j => ?_) hrest
        show (Function.update t.segments ⟨i, hi⟩ s j).Narrowed
        by_cases hj : j = ⟨i, hi⟩
        · rw [hj, Function.update_self]
          exact narrowed_of_readSegment hs
        · rw [Function.update_of_ne hj]
          exact ht j

/-! ## Code that writes what can be written -/

/-- Unless `loose`, only programs are sent that can be written. -/
def Rights.writing (loose : Prop) : Rights where
  sends cmd := loose ∨ cmd.Writable
  writes write := loose ∨ Writable write
  assigns _ := True
  notes n := n.OfCommand
  setsErrno _ := True
  writes_of_sends := by
    rintro cmd (hloose | hwritable) write hwrite
    · exact Or.inl hloose
    · exact Or.inr (hwritable write hwrite)

section commands

variable {loose : Prop} {α : Type}

/-- A check that stands before the rest of the function. -/
theorem composed_checked {rights : Rights} {ok : Bool} {p : Server SmdResponseCode}
    (h : ok = true → Composed rights p) :
    Composed rights (if !ok then pure .invalidParameter else p) := by
  cases ok with
  | true => exact h rfl
  | false => exact composed_pure _

theorem composed_smdJog_writing (direction accel decel jerk speed : Int) :
    Composed (Rights.writing loose) (smdJog direction accel decel jerk speed) := by
  unfold smdJog
  refine composed_bind (composed_ask trivial) fun _ => composed_ite (composed_pure _) ?_
  exact composed_checked fun h => composed_sendModbusCommand (Or.inr (writable_jogProgram h))

theorem composed_smdRelativeMove_writing (relPos accel decel jerk speed : Int) :
    Composed (Rights.writing loose) (smdRelativeMove relPos accel decel jerk speed) := by
  unfold smdRelativeMove
  refine composed_checked fun _ => composed_checked fun h => ?_
  exact composed_sendModbusCommand (Or.inr (writable_relativeMoveProgram h))

theorem composed_smdFindHome_writing (direction speed accel decel jerk : Int) :
    Composed (Rights.writing loose) (smdFindHome direction speed accel decel jerk) := by
  unfold smdFindHome
  refine composed_ite (composed_pure _) (composed_checked fun h => ?_)
  exact composed_sendModbusCommand (Or.inr (writable_findHomeProgram h))

theorem composed_smdPresetMotorPosition_writing (pos : Int) :
    Composed (Rights.writing loose) (smdPresetMotorPosition pos) :=
  composed_smdPresetMotorPosition (Or.inr (writable_presetProgram (by decide)))

theorem composed_smdPresetEncoderPosition_writing (pos : Int) :
    Composed (Rights.writing loose) (smdPresetEncoderPosition pos) :=
  composed_smdPresetEncoderPosition (Or.inr (writable_presetProgram (by decide)))

theorem fitsWord_lsw : ∀ lsw ∈ ([32768, 32784, 33280] : List Int), FitsWord lsw := by
  decide

theorem sends_runAssembledMove_writing {lsw dwellTime : Int} (hlsw : FitsWord lsw)
    (hlo : 0 ≤ dwellTime) (hhi : dwellTime ≤ 65535) :
    (Rights.writing loose).sends (runAssembledMoveProgram lsw dwellTime) := by
  refine Or.inr (writable_runAssembledMoveProgram hlsw ?_)
  unfold FitsWord
  omega

/-- Any token may overflow. -/
theorem tokensWithin_writing (input : Text) (n : Nat) :
    TokensWithin (Rights.writing loose) input n :=
  fun _ _ _ _ _ => trivial

theorem composed_smdResetErrors_writing : Composed (Rights.writing loose) smdResetErrors :=
  composed_sendModbusCommand (Or.inr (by decide))

/-- All the commands but one write only what can be written, whatever the message. -/
theorem within_code_writing {input : Text} {cl : Int} {c : Command} (hc : c ≠ .saveConfig) :
    Within (Rights.writing loose) (c.code input cl) := by
  cases c with
  | jogCW => exact (composed_jogIn (tokensWithin_writing _ _) composed_smdJog_writing).within
  | jogCCW => exact (composed_jogIn (tokensWithin_writing _ _) composed_smdJog_writing).within
  | homeCW =>
      exact (composed_findHomeIn (tokensWithin_writing _ _) composed_smdFindHome_writing).within
  | homeCCW =>
      exact (composed_findHomeIn (tokensWithin_writing _ _) composed_smdFindHome_writing).within
  | disconnect =>
      exact within_bind (within_smdCloseCommandConnection fun _ _ => trivial) fun _ => trivial
  | saveConfig => exact absurd rfl hc
  | relativeMove =>
      exact (composed_handleRelativeMove (tokensWithin_writing _ _) fun _ _ _ _ _ =>
        composed_smdRelativeMove_writing _ _ _ _ _).within
  | driveEnable => exact (composed_sendAnd (Or.inr (by decide)) _ _).within
  | driveDisable => exact (composed_sendAnd (Or.inr (by decide)) _ _).within
  | holdMove => exact (composed_smdHoldMove (Or.inr (by decide)) trivial).within
  | immedStop => exact within_sendModbusCommand (Or.inr (by decide))
  | resetErrors => exact composed_smdResetErrors_writing.within
  | readInputRegisters => exact (composed_smdReadRegisters _ _).within
  | loadCurrentConfiguration => exact (composed_sendAnd (Or.inr (by decide)) _ _).within
  | readCurrentConfiguration => exact (composed_smdReadRegisters _ _).within
  | presetMotorPosition =>
      exact (composed_handlePresetMotorPosition (tokensWithin_writing _ _) fun _ =>
        composed_smdPresetMotorPosition_writing _).within
  | presetEncoderPosition =>
      exact (composed_handlePresetEncoderPosition (tokensWithin_writing _ _) fun _ =>
        composed_smdPresetEncoderPosition_writing _).within
  | programAssembledMove =>
      exact (composed_smdProgramAssembledMove (Or.inr (by decide)) (Or.inr (by decide))).within
  | runAssembledDwellMove =>
      exact (composed_handleRunAssembledDwellMove (tokensWithin_writing _ _) fun lsw hlsw _ =>
        sends_runAssembledMove_writing (fitsWord_lsw lsw hlsw)).within
  | runAssembledBlendMove =>
      exact (composed_handleRunAssembledBlendMove (tokensWithin_writing _ _) fun lsw hlsw _ =>
        sends_runAssembledMove_writing (fitsWord_lsw lsw hlsw)).within
  | startManualMode =>
      exact within_bind (within_assign trivial) fun _ => within_smdSetManualMode trivial

theorem within_parseScenario2_writing {input : Text} {cl : Int} :
    Within (Rights.writing loose) (parseScenario2 input cl) := by
  refine within_ite ?_ (within_ite composed_smdResetErrors_writing.within ?_)
  · exact within_handleStopManualMode (fun _ _ => trivial) trivial (Or.inr (by decide))
  · exact within_ite (composed_smdReadRegisters _ _).within (within_pure _)

/-- The values of a profile are narrowed and split, and what was in the array before has
values of the same types. -/
theorem within_parseScenario3_writing {input : Text} {cl : Int} :
    Within (Rights.writing loose) (parseScenario3 input cl) := by
  refine (composed_parseScenario3 (composed_smdParseAndUploadAssembledMove ?_ ?_ ?_) trivial
    composed_smdResetErrors_writing).within
  · intro stack members table htable k
    refine Or.inr (writable_moveSegmentProgram (narrowed_of_collectSegments (fun j => ?_) htable k))
    exact (stack.typed j).toNarrowed
  · exact Or.inr (by decide)
  · exact fun _ => trivial

end commands

/-! ## The configuration -/

/-- What the code makes of the parameters of a configuration. -/
def savedValues (l : Latch) (input : Text) : List Int :=
  seenTokens l ParameterCommand.saveConfig.parameters (input.splitOn comma).tail

/-- The message saves a configuration which passes the checks, and its control word or its
configuration word, the first two of its parameters, is no value of a word. -/
structure SavesOutside (l : Latch) (input : Text) : Prop where
  selected : Command.Selects input .saveConfig
  tokens : numberOfTokens input = 8
  checked : InRange ParameterCommand.saveConfig.parameters (savedValues l input)
  outside : ¬ ((savedValues l input).take 2).Forall FitsWord

/-- What the code decides for a configuration can be written if its two words can. -/
theorem writable_of_decision {moveType : SmdAssembledMoveType} {l : Latch} {input : Text}
    {cmd : RegisterProgram} {success failure : SmdResponseCode}
    (h : ParameterCommand.saveConfig.decision moveType l input = .sends cmd success failure) :
    numberOfTokens input = 8 ∧
      InRange ParameterCommand.saveConfig.parameters (savedValues l input) ∧
      (cmd.Writable ↔ ((savedValues l input).take 2).Forall FitsWord) := by
  obtain ⟨⟨hn, hrange, _⟩, hprogram, _⟩ := ParameterCommand.decision_eq_sends_iff.mp h
  refine ⟨hn, hrange, ?_⟩
  unfold savedValues
  match seenTokens l ParameterCommand.saveConfig.parameters (input.splitOn comma).tail,
    hrange, hprogram with
  | [controlWord, configWord, startingSpeed, stepsPerTurn, encPulsesPerTurn,
      idleCurrentPercentage, motorCurrent], hrange, hprogram =>
      cases hprogram
      rw [writable_setConfigurationProgram_iff (inRange_saveConfig_iff.mp hrange)]
      show _ ↔ FitsWord controlWord ∧ FitsWord configWord
      exact Iff.rfl

/-! ## A configuration that is read token by token -/

/-- `errno` is not `ERANGE`, and every `perror` puts another in its place: each token is read
for itself. -/
def Latch.clear : Latch :=
  ⟨false, Stream'.const false⟩

theorem Latch.after_clear (result : StrtolResult) : Latch.clear.after result = Latch.clear := by
  unfold Latch.after
  split
  · exact congrArg₂ Latch.mk (Bool.and_false _) rfl
  · rfl

/-- A result of `strtol` has been read for itself, or it has been lost. -/
def ReadAs (result : StrtolResult) (n : Int) : Prop :=
  n = -1 ∨ n = Latch.clear.read result

theorem Latch.readAs_read (l : Latch) (result : StrtolResult) :
    ReadAs result (l.read result) := by
  by_cases hloses : l.Loses result
  · exact Or.inl (Latch.read_of_loses hloses)
  · have hclear : ¬ Latch.clear.Loses result :=
      Latch.not_loses rfl fun hunread => hloses (Latch.loses_iff.mpr (Or.inr hunread))
    refine Or.inr ?_
    rw [Latch.read, Latch.read, if_neg hloses, if_neg hclear]

/-- The checks have passed on what was read, and one of the two words is none.  So the other
parameters have been read, as -1 does not pass, and so has this word, as -1 is a word. -/
theorem savesOutside_of_readAs {input name t₁ t₂ t₃ t₄ t₅ t₆ t₇ : Text}
    {n₁ n₂ n₃ n₄ n₅ n₆ n₇ : Int}
    (hselected : Command.Selects input .saveConfig) (hn : numberOfTokens input = 8)
    (hsplit : input.splitOn comma = [name, t₁, t₂, t₃, t₄, t₅, t₆, t₇])
    (h₁ : ReadAs (strtol t₁) n₁) (h₂ : ReadAs (strtol t₂) n₂) (h₃ : ReadAs (strtol t₃) n₃)
    (h₄ : ReadAs (strtol t₄) n₄) (h₅ : ReadAs (strtol t₅) n₅) (h₆ : ReadAs (strtol t₆) n₆)
    (h₇ : ReadAs (strtol t₇) n₇)
    (hvalid : configurationValid n₃ (toInt16 n₄) (toInt16 n₅) (toInt16 n₆) (toInt16 n₇) = true)
    (hout : ¬ (FitsWord n₁ ∧ FitsWord n₂)) : SavesOutside .clear input := by
  have hchecks := configurationValid_iff.mp hvalid
  have hlost : toInt16 (-1) = -1 := by decide
  have hne : ∀ {n : Int}, toInt16 n ≠ -1 → n ≠ -1 := by
    rintro n hn rfl
    exact hn hlost
  have hv₃ := h₃.resolve_left (by omega)
  have hv₄ := h₄.resolve_left (hne (by omega))
  have hv₅ := h₅.resolve_left (hne (by omega))
  have hv₆ := h₆.resolve_left (hne (by omega))
  have hv₇ := h₇.resolve_left (hne (by omega))
  have hvalues : savedValues .clear input =
      [Latch.clear.read (strtol t₁), Latch.clear.read (strtol t₂), n₃, toInt16 n₄, toInt16 n₅,
        toInt16 n₆, toInt16 n₇] := by
    unfold savedValues seenTokens
    rw [hsplit, hv₃, hv₄, hv₅, hv₆, hv₇]
    simp only [List.tail_cons, ParameterCommand.parameters, List.map_cons, List.map_nil,
      Latch.seen, Latch.after_clear, Parameter.narrow]
  refine ⟨hselected, hn, ?_, ?_⟩
  · rw [hvalues]
    exact inRange_saveConfig_iff.mpr hvalid
  · rw [hvalues]
    rintro ⟨hfits₁, hfits₂⟩
    refine hout ⟨?_, ?_⟩
    · rcases h₁ with rfl | rfl
      · decide
      · exact hfits₁
    · rcases h₂ with rfl | rfl
      · decide
      · exact hfits₂

/-- What a configuration writes outside in some state, it has in its own text. -/
theorem SavesOutside.clear {l : Latch} {input : Text} (h : SavesOutside l input) :
    SavesOutside .clear input := by
  obtain ⟨name, tokens, hlength, hsplit, _⟩ := exists_tokens (n := 7) h.tokens
  match tokens, hlength, hsplit with
  | [t₁, t₂, t₃, t₄, t₅, t₆, t₇], _, hsplit =>
      have hchecked := h.checked
      have houtside := h.outside
      unfold savedValues seenTokens at hchecked houtside
      rw [hsplit] at hchecked houtside
      exact savesOutside_of_readAs h.selected h.tokens hsplit (l.readAs_read _)
        (Latch.readAs_read _ _) (Latch.readAs_read _ _) (Latch.readAs_read _ _)
        (Latch.readAs_read _ _) (Latch.readAs_read _ _) (Latch.readAs_read _ _)
        (inRange_saveConfig_iff.mp hchecked) houtside

end SmdControlServer
