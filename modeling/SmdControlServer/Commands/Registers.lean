import SmdControlServer.Commands.Programs
import SmdControlServer.Drive.Sessions

/-!
# Parameters in registers

Where each parameter of a command stands in the register program that the command
sends: in a register of its own, or as a pair of words of which the upper one counts
thousands.  A decimal message whose values are in range sends one program, and that
program carries the values.
-/

namespace SmdControlServer

open CString Interaction

/-! ## Word pairs -/

/-- The quotient and the remainder of a division that truncates have the sign of the
dividend. -/
theorem tdiv_thousand_cases (n : Int) :
    n = 1000 * n.tdiv 1000 + n.tmod 1000 ∧
      ((0 ≤ n ∧ 0 ≤ n.tdiv 1000 ∧ 0 ≤ n.tmod 1000 ∧ n.tmod 1000 < 1000) ∨
        (n < 0 ∧ n.tdiv 1000 ≤ 0 ∧ -1000 < n.tmod 1000 ∧ n.tmod 1000 ≤ 0)) := by
  refine ⟨(Int.mul_tdiv_add_tmod n 1000).symm, ?_⟩
  by_cases hn : 0 ≤ n
  · left
    rw [Int.tdiv_eq_ediv_of_nonneg hn, Int.tmod_eq_emod_of_nonneg hn]
    omega
  · right
    have hneg : 0 ≤ -n := by omega
    have hdiv : n.tdiv 1000 = -((-n) / 1000) := by
      rw [← Int.tdiv_eq_ediv_of_nonneg hneg, Int.neg_tdiv, neg_neg]
    have hmod : n.tmod 1000 = -((-n) % 1000) := by
      rw [← Int.tmod_eq_emod_of_nonneg hneg, Int.neg_tmod, neg_neg]
    rw [hdiv, hmod]
    omega

/-- The words of a number before they are narrowed are its remainder and its quotient. -/
theorem splitIntoWords_eq (n : Int) : splitIntoWords n = (n.tmod 1000, n.tdiv 1000) := by
  obtain ⟨hn, hsigns⟩ := tdiv_thousand_cases n
  have hupper : ((n - n.tmod 1000).natAbs : Int).tdiv 1000 = (n.tdiv 1000).natAbs := by
    rw [Int.tdiv_eq_ediv_of_nonneg (by omega)]
    omega
  unfold splitIntoWords
  rw [hupper]
  by_cases hneg : n < 0
  · rw [if_pos hneg, Prod.mk.injEq]
    by_cases hquotient : (n.tdiv 1000).natAbs > 0
    · rw [if_pos hquotient, if_pos hquotient]
      omega
    · rw [if_neg hquotient, if_neg hquotient]
      omega
  · rw [if_neg hneg, Prod.mk.injEq]
    by_cases hquotient : (n.tdiv 1000).natAbs > 0
    · rw [if_pos hquotient, if_pos hquotient]
      omega
    · rw [if_neg hquotient, if_neg hquotient]
      omega

/-- Nothing is lost when the quotient is an `int16_t`. -/
theorem convertIntToWords_eq {n : Int} (hlo : -32767999 ≤ n) (hhi : n ≤ 32767999) :
    convertIntToWords n = ⟨n.tmod 1000, n.tdiv 1000⟩ := by
  obtain ⟨hn, hsigns⟩ := tdiv_thousand_cases n
  unfold convertIntToWords
  rw [splitIntoWords_eq, Words.mk.injEq]
  exact ⟨toInt16_eq_self (by omega) (by omega), toInt16_eq_self (by omega) (by omega)⟩

theorem inlineSpeedWords_eq {speed : Int} (hlo : 0 ≤ speed) (hhi : speed ≤ 32767999) :
    inlineSpeedWords speed = (speed.tmod 1000, speed.tdiv 1000) := by
  obtain ⟨hspeed, hsigns⟩ := tdiv_thousand_cases speed
  have hupper : (speed - speed.tmod 1000).tdiv 1000 = speed.tdiv 1000 := by
    rw [Int.tdiv_eq_ediv_of_nonneg (by omega)]
    omega
  unfold inlineSpeedWords
  rw [hupper]
  by_cases hquotient : speed.tdiv 1000 > 0
  · rw [if_pos hquotient, toInt16_eq_self, toInt16_eq_self] <;> omega
  · rw [if_neg hquotient, toInt16_eq_self, Prod.mk.injEq] <;> omega

/-- A pair of words stands for a thousand times the upper and the lower one. -/
theorem convertIntToWords_value {n : Int} (hlo : -32767999 ≤ n) (hhi : n ≤ 32767999) :
    1000 * (convertIntToWords n).upperWord + (convertIntToWords n).lowerWord = n := by
  rw [convertIntToWords_eq hlo hhi]
  exact Int.mul_tdiv_add_tmod n 1000

theorem inlineSpeedWords_value {speed : Int} (hlo : 0 ≤ speed) (hhi : speed ≤ 32767999) :
    1000 * (inlineSpeedWords speed).2 + (inlineSpeedWords speed).1 = speed := by
  rw [inlineSpeedWords_eq hlo hhi]
  exact Int.mul_tdiv_add_tmod speed 1000

/-! ## Where the parameters stand -/

/-- The value that a program leaves in a register. -/
def RegisterProgram.finalValue (cmd : RegisterProgram) (register : Int) : Option Int :=
  (cmd.writes.reverse.find? fun write => write.1 = register).map Prod.snd

/-- One register, or two for the thousands and the rest of a number. -/
inductive Place where
  | register (r : Int)
  | words (upper lower : Int)
  deriving DecidableEq, Repr

/-- The number that a program leaves at a place. -/
def Place.value (cmd : RegisterProgram) : Place → Option Int
  | register r => cmd.finalValue r
  | words upper lower => do
      let upperWord ← cmd.finalValue upper
      let lowerWord ← cmd.finalValue lower
      pure (1000 * upperWord + lowerWord)

namespace ParameterCommand

/-- The places of a command's parameters, in the order of the tokens. -/
def places : ParameterCommand → List Place
  | jogCW => [.register 1030, .register 1031, .register 1033, .words 1028 1029]
  | jogCCW => [.register 1030, .register 1031, .register 1033, .words 1028 1029]
  | homeCW => [.words 1028 1029, .register 1030, .register 1031, .register 1033]
  | homeCCW => [.words 1028 1029, .register 1030, .register 1031, .register 1033]
  | relativeMove =>
      [.words 1026 1027, .register 1030, .register 1031, .register 1033, .words 1028 1029]
  | presetMotorPosition => [.words 1026 1027]
  | presetEncoderPosition => [.words 1026 1027]
  | saveConfig =>
      [.register 1024, .register 1025, .words 1026 1027, .register 1028, .register 1030,
        .register 1031, .register 1032]
  | _ => []

/-- What the drive is to do, and in which direction: the value left in register 1024. -/
def trigger : ParameterCommand → Option Int
  | jogCW => some 128
  | jogCCW => some 256
  | homeCW => some 32
  | homeCCW => some 64
  | relativeMove => some 2
  | presetMotorPosition => some 512
  | presetEncoderPosition => some 16384
  | _ => none

/-- The program does what the command names, with each value at its own place. -/
structure Carries (c : ParameterCommand) (values : List Int) (cmd : RegisterProgram) :
    Prop where
  triggered : ∀ t, c.trigger = some t → cmd.finalValue 1024 = some t
  placed : c.places.map (Place.value cmd) = values.map some

end ParameterCommand

/-- A value of an `int32_t`. -/
def IsInt32 (n : Int) : Prop :=
  -2147483648 ≤ n ∧ n ≤ 2147483647

theorem IsInt32.not_overflows {n : Int} (h : IsInt32 n) : ¬ Overflows n := by
  unfold IsInt32 at h
  unfold Overflows longMin longMax
  omega

theorem IsInt32.clampLong_eq {n : Int} (h : IsInt32 n) :
    clampLong n = { value := n, consumed := true, erange := false } := by
  unfold IsInt32 at h
  refine clampLong_eq_self ?_ ?_
  · unfold longMin
    omega
  · unfold longMax
    omega

theorem IsInt32.eq_of_clampLong {n m : Int} (hn : IsInt32 n) (hm : IsInt32 m)
    (h : clampLong n = clampLong m) : n = m := by
  rw [hn.clampLong_eq, hm.clampLong_eq] at h
  exact congrArg StrtolResult.value h

theorem IsInt32.not_loses {n : Int} (h : IsInt32 n) {l : Latch} (hstuck : l.stuck = false) :
    ¬ l.Loses (clampLong n) := by
  rw [Latch.loses_clampLong_iff, hstuck]
  simpa using h.not_overflows

theorem IsInt32.read_eq_self {n : Int} (h : IsInt32 n) {l : Latch} (hstuck : l.stuck = false) :
    l.read (clampLong n) = n := by
  rw [Latch.read_clampLong (h.not_loses hstuck), toInt32_eq_self h.1 h.2]

namespace Parameter

/-- No value that is accepted is changed by the narrowing. -/
def fits (p : Parameter) : Bool :=
  match p.width, p.range with
  | .int32, _ => true
  | .int16, some (lo, hi) => -32768 ≤ lo && hi ≤ 32767
  | .int16, none => false

theorem narrow_eq_self {p : Parameter} {n : Int} (hfits : p.fits = true)
    (haccepts : p.Accepts n) : p.narrow n = n := by
  obtain ⟨width, range⟩ := p
  cases width with
  | int32 => rfl
  | int16 =>
      cases range with
      | none => cases hfits
      | some bounds =>
          have hbounds : -32768 ≤ bounds.1 ∧ bounds.2 ≤ 32767 := by
            simpa [fits] using hfits
          have hn : bounds.1 ≤ n ∧ n ≤ bounds.2 := haccepts
          exact toInt16_eq_self (by omega) (by omega)

end Parameter

/-- Values in range reach the checks as they were sent. -/
theorem seenValues_eq_self {l : Latch} (hstuck : l.stuck = false) {parameters : List Parameter}
    {values : List Int} (hfits : ∀ p ∈ parameters, p.fits = true)
    (hrange : InRange parameters values) (hvalues : ∀ n ∈ values, IsInt32 n) :
    seenValues l parameters values = values := by
  unfold InRange at hrange
  unfold seenValues
  induction hrange with
  | nil => rfl
  | @cons p n parameters values haccepts hrest ih =>
      have hn : IsInt32 n := hvalues n (by simp)
      have htail := ih (fun q hq => hfits q (by simp [hq])) fun m hm => hvalues m (by simp [hm])
      rw [List.map_cons, Latch.seen, Latch.after_of_not_loses (hn.not_loses hstuck),
        hn.read_eq_self hstuck, htail, Parameter.narrow_eq_self (hfits p (by simp)) haccepts]

namespace ParameterCommand

theorem fits_parameters (c : ParameterCommand) : ∀ p ∈ c.parameters, p.fits = true := by
  cases c <;> decide

/-- Values in range are sent. -/
theorem decision_message {c : ParameterCommand} {values : List Int}
    {moveType : SmdAssembledMoveType} (hloaded : c.Loaded moveType)
    {l : Latch} (hstuck : l.stuck = false) (hrange : InRange c.parameters values)
    (hvalues : ∀ n ∈ values, IsInt32 n) (ending : LineEnding) :
    c.decision moveType l (c.message (values.map DecimalToken.of) ending) =
      c.sending values := by
  have hlength : (values.map DecimalToken.of).length = c.parameters.length := by
    rw [List.length_map]
    exact (List.Forall₂.length_eq hrange).symm
  have hexact : (values.map DecimalToken.of).map DecimalToken.value = values := by
    rw [List.map_map]
    exact List.map_id values
  have hseen : seenTokens l c.parameters
      ((c.message (values.map DecimalToken.of) ending).splitOn comma).tail = values := by
    rw [c.splitOn_message, tail_endFields, seenTokens_endFields, hexact,
      seenValues_eq_self hstuck c.fits_parameters hrange hvalues]
  unfold decision
  rw [c.numberOfTokens_message, hseen, hlength]
  exact if_pos ⟨rfl, hrange, hloaded⟩

section

variable {direction accel decel jerk speed relPos pos trigger : Int}

theorem placed_jogProgram (hlo : 0 ≤ speed) (hhi : speed ≤ 2999999) :
    (places .jogCW).map (Place.value (jogProgram direction accel decel jerk speed)) =
      [accel, decel, jerk, speed].map some := by
  have hspeed : Place.value (jogProgram direction accel decel jerk speed) (.words 1028 1029) =
      some speed := congrArg some (inlineSpeedWords_value hlo (by omega))
  show [some accel, some decel, some jerk, Place.value _ _] = _
  rw [hspeed]
  rfl

theorem placed_findHomeProgram (hlo : 0 ≤ speed) (hhi : speed ≤ 2999999) :
    (places .homeCW).map (Place.value (findHomeProgram direction speed accel decel jerk)) =
      [speed, accel, decel, jerk].map some := by
  have hspeed : Place.value (findHomeProgram direction speed accel decel jerk)
      (.words 1028 1029) = some speed :=
    congrArg some (convertIntToWords_value (by omega) (by omega))
  show [Place.value _ _, some accel, some decel, some jerk] = _
  rw [hspeed]
  rfl

theorem placed_relativeMoveProgram (hposLo : -8388607 ≤ relPos) (hposHi : relPos ≤ 8388607)
    (hlo : 0 ≤ speed) (hhi : speed ≤ 2999999) :
    (places .relativeMove).map
        (Place.value (relativeMoveProgram relPos accel decel jerk speed)) =
      [relPos, accel, decel, jerk, speed].map some := by
  have hpos : Place.value (relativeMoveProgram relPos accel decel jerk speed)
      (.words 1026 1027) = some relPos :=
    congrArg some (convertIntToWords_value (by omega) (by omega))
  have hspeed : Place.value (relativeMoveProgram relPos accel decel jerk speed)
      (.words 1028 1029) = some speed :=
    congrArg some (convertIntToWords_value (by omega) (by omega))
  show [Place.value _ _, some accel, some decel, some jerk, Place.value _ _] = _
  rw [hpos, hspeed]
  rfl

theorem placed_presetProgram {commandName : Text} (named : commandName ≠ [])
    (hlo : -8388607 ≤ pos) (hhi : pos ≤ 8388607) :
    (places .presetMotorPosition).map
        (Place.value (presetProgram commandName named trigger pos)) = [pos].map some := by
  have hpos : Place.value (presetProgram commandName named trigger pos) (.words 1026 1027) =
      some pos := congrArg some (convertIntToWords_value (by omega) (by omega))
  show [Place.value _ _] = _
  rw [hpos]
  rfl

theorem placed_setConfigurationProgram {controlWord configWord startingSpeed stepsPerTurn
    encPulsesPerTurn idleCurrentPercentage motorCurrent : Int} (hlo : 1 ≤ startingSpeed)
    (hhi : startingSpeed ≤ 1999999) :
    (places .saveConfig).map
        (Place.value (setConfigurationProgram controlWord configWord startingSpeed
          stepsPerTurn encPulsesPerTurn idleCurrentPercentage motorCurrent)) =
      [controlWord, configWord, startingSpeed, stepsPerTurn, encPulsesPerTurn,
        idleCurrentPercentage, motorCurrent].map some := by
  have hspeed : Place.value (setConfigurationProgram controlWord configWord startingSpeed
      stepsPerTurn encPulsesPerTurn idleCurrentPercentage motorCurrent) (.words 1026 1027) =
      some startingSpeed := congrArg some (inlineSpeedWords_value (by omega) (by omega))
  show [some controlWord, some configWord, Place.value _ _, some stepsPerTurn,
    some encPulsesPerTurn, some idleCurrentPercentage, some motorCurrent] = _
  rw [hspeed]
  rfl

end

/-- The program for values in range carries them. -/
theorem carries_program {c : ParameterCommand} (hprofile : ¬ c.RunsProfile)
    {values : List Int} (hrange : InRange c.parameters values) {cmd : RegisterProgram}
    (h : c.program values = some cmd) : c.Carries values cmd := by
  have hlength := List.Forall₂.length_eq hrange
  -- in range, each pair of words gives its speed or position back
  cases c with
  | jogCW =>
      match values, hlength with
      | [accel, decel, jerk, speed], _ =>
          cases h
          obtain ⟨_, _, _, hlo, hhi⟩ := moveParametersValid_iff.mp (inRange_jog_iff.mp hrange)
          exact ⟨fun t ht => ht, placed_jogProgram hlo hhi⟩
  | jogCCW =>
      match values, hlength with
      | [accel, decel, jerk, speed], _ =>
          cases h
          obtain ⟨_, _, _, hlo, hhi⟩ := moveParametersValid_iff.mp (inRange_jog_iff.mp hrange)
          exact ⟨fun t ht => ht, placed_jogProgram hlo hhi⟩
  | homeCW =>
      match values, hlength with
      | [speed, accel, decel, jerk], _ =>
          cases h
          obtain ⟨_, _, _, hlo, hhi⟩ := moveParametersValid_iff.mp (inRange_home_iff.mp hrange)
          exact ⟨fun t ht => ht, placed_findHomeProgram hlo hhi⟩
  | homeCCW =>
      match values, hlength with
      | [speed, accel, decel, jerk], _ =>
          cases h
          obtain ⟨_, _, _, hlo, hhi⟩ := moveParametersValid_iff.mp (inRange_home_iff.mp hrange)
          exact ⟨fun t ht => ht, placed_findHomeProgram hlo hhi⟩
  | relativeMove =>
      match values, hlength with
      | [relPos, accel, decel, jerk, speed], _ =>
          cases h
          obtain ⟨hpos, hmove⟩ := inRange_relativeMove_iff.mp hrange
          obtain ⟨hposLo, hposHi⟩ := positionValid_iff.mp hpos
          obtain ⟨_, _, _, hlo, hhi⟩ := moveParametersValid_iff.mp hmove
          exact ⟨fun t ht => ht, placed_relativeMoveProgram hposLo hposHi hlo hhi⟩
  | presetMotorPosition =>
      match values, hlength with
      | [pos], _ =>
          cases h
          obtain ⟨hlo, hhi⟩ := positionValid_iff.mp (inRange_position_iff.mp hrange)
          exact ⟨fun t ht => ht, placed_presetProgram _ hlo hhi⟩
  | presetEncoderPosition =>
      match values, hlength with
      | [pos], _ =>
          cases h
          obtain ⟨hlo, hhi⟩ := positionValid_iff.mp (inRange_position_iff.mp hrange)
          exact ⟨fun t ht => ht, placed_presetProgram _ hlo hhi⟩
  | saveConfig =>
      match values, hlength with
      | [controlWord, configWord, startingSpeed, stepsPerTurn, encPulsesPerTurn,
          idleCurrentPercentage, motorCurrent], _ =>
          cases h
          obtain ⟨⟨hlo, hhi⟩, _⟩ := configurationValid_iff.mp (inRange_saveConfig_iff.mp hrange)
          exact ⟨fun t ht => (nomatch ht), placed_setConfigurationProgram hlo hhi⟩
  | runAssembledDwellMove => exact absurd (Or.inl rfl) hprofile
  | runAssembledBlendMove => exact absurd (Or.inr rfl) hprofile

end ParameterCommand

/-! ## The program that is sent -/

/-- The program of a call of `send_modbus_command`, whether its thread could be
started or not. -/
def Event.sentProgram? : Event → Option RegisterProgram
  | .threadStarted (.sendModbusCommand cmd) _ => some cmd
  | _ => none

theorem seesThreads_sentProgram : SeesThreads Event.sentProgram? := by
  intro e he
  cases e with
  | threadStarted routine created => exact he.elim
  | _ => rfl

/-- Code that decides to send a program that is not sent again ends, and calls
`send_modbus_command` once. -/
theorem Decides.sentProgram {p : Server SmdResponseCode} {w : World} {cmd : RegisterProgram}
    {success failure : SmdResponseCode} (h : Decides p w (.sends cmd success failure))
    (honce : resentProgram cmd = none) :
    (∃ r w', Runs server p w r w') ∧
      ∀ r w', Runs server p w r w' →
        (newEvents w w').filterMap Event.sentProgram? = [cmd] := by
  obtain ⟨w₁, ⟨errno, perrors, notes, rfl⟩, hruns⟩ := h
  constructor
  · have hsend := (runs_sendOnce_iff (w := w.prepared errno perrors notes) honce).mpr ⟨rfl, rfl⟩
    rcases runs_sendModbusCommand_result hsend with hresult | hresult
    · rw [hresult] at hsend
      exact ⟨_, _, (hruns _ _).mpr (runs_sendAnd_iff.mpr (Or.inl ⟨hsend, rfl⟩))⟩
    · rw [hresult] at hsend
      exact ⟨_, _, (hruns _ _).mpr (runs_sendAnd_iff.mpr (Or.inr ⟨hsend, rfl⟩))⟩
  · intro r w' hrun
    -- what comes before the send is only noted
    have hnotes : Observed Event.sentProgram? w (w.prepared errno perrors notes) [] := by
      refine ⟨notes.map Event.noted, rfl, ?_⟩
      rw [List.filterMap_map, List.filterMap_eq_nil_iff]
      exact fun _ _ => rfl
    have hw' : w' = (w.prepared errno perrors notes).afterSend cmd := by
      rcases runs_sendAnd_iff.mp ((hruns r w').mp hrun) with ⟨hsend, _⟩ | ⟨hsend, _⟩
      · exact ((runs_sendOnce_iff honce).mp hsend).2
      · exact ((runs_sendOnce_iff honce).mp hsend).2
    subst hw'
    exact (hnotes.trans
      (observed_afterSend seesThreads_sentProgram fun _ => rfl)).newEvents_eq

/-- A decimal message whose values are in range sends one program, which carries each
value at its own place. -/
theorem message_sends_values {w : World} (hscenario : w.InScenario1)
    (herrno : w.errno ≠ erange) {c : ParameterCommand} (hprofile : ¬ c.RunsProfile)
    {values : List Int} (hrange : InRange c.parameters values)
    (hvalues : ∀ n ∈ values, IsInt32 n) (ending : LineEnding) (cl : Int) :
    ∃ cmd, c.Carries values cmd ∧
      (∃ r w', Runs server
        (parseSocketInput (c.message (values.map DecimalToken.of) ending) cl) w r w') ∧
      ∀ r w', Runs server
          (parseSocketInput (c.message (values.map DecimalToken.of) ending) cl) w r w' →
        (newEvents w w').filterMap Event.sentProgram? = [cmd] := by
  have hstuck : w.latch.stuck = false := decide_eq_false herrno
  have hloaded := ParameterCommand.loaded_of_not_runsProfile hprofile
    w.globals.statusTypeAssembledMove
  have hdecides := decides_parseSocketInput cl hscenario
    (c.ofMessage_message (values.map DecimalToken.of) ending)
  obtain ⟨cmd, hcmd, honce⟩ := c.exists_program (List.Forall₂.length_eq hrange).symm
  have hsending : c.sending values = .sends cmd c.outcome.1 c.outcome.2 := by
    unfold ParameterCommand.sending
    rw [hcmd]
  rw [ParameterCommand.decision_message hloaded hstuck hrange hvalues ending, hsending]
    at hdecides
  exact ⟨cmd, ParameterCommand.carries_program hprofile hrange hcmd,
    hdecides.sentProgram honce.1⟩

/-- A way home at 1234567 steps a second: the speed comes first in the message. -/
theorem home_sends_values :
    ParameterCommand.homeCCW.message ([1234567, 250, 300, 5].map DecimalToken.of)
        .carriageReturnNewline = "homeCCW,1234567,250,300,5\r\n".toList ∧
      ∃ cmd, ParameterCommand.homeCCW.Carries [1234567, 250, 300, 5] cmd ∧
        (∃ r w', Runs server (parseSocketInput (ParameterCommand.homeCCW.message
          ([1234567, 250, 300, 5].map DecimalToken.of) .carriageReturnNewline) 5)
            World.ready r w') ∧
        ∀ r w', Runs server (parseSocketInput (ParameterCommand.homeCCW.message
            ([1234567, 250, 300, 5].map DecimalToken.of) .carriageReturnNewline) 5)
              World.ready r w' →
          (newEvents World.ready w').filterMap Event.sentProgram? = [cmd] := by
  refine ⟨by decide, ?_⟩
  refine message_sends_values World.ready_inScenario1 (by decide) (by decide) (by decide)
    ?_ .carriageReturnNewline 5
  intro n hn
  simp only [List.mem_cons, List.not_mem_nil, or_false] at hn
  unfold IsInt32
  omega

end SmdControlServer
