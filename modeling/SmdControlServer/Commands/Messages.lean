import SmdControlServer.Commands.Conversion
import SmdControlServer.Server.SocketOps

/-!
# Messages with parameters

The ten commands whose parameters are checked, the messages that ask for them,
and what the dispatcher makes of such a message while it is connected and neither
waits for a profile nor runs the manual mode.  The parameter tokens are decimal
integers of any magnitude, so their texts have no letters that could be taken
for another command.
-/

namespace SmdControlServer

open CString Interaction

/-! ## The text of a message -/

/-- A token that is a decimal integer. -/
structure DecimalToken where
  text : Text
  value : Int
  denotes : Denotes text value

/-- The token that `%d` prints. -/
def DecimalToken.of (n : Int) : DecimalToken where
  text := formatInt n
  value := n
  denotes := formatInt_denotes n

/-- How the client ends its line. -/
inductive LineEnding where
  | none
  | newline
  | carriageReturnNewline
  deriving DecidableEq

def LineEnding.text : LineEnding → Text
  | none => []
  | newline => ['\n']
  | carriageReturnNewline => ['\r', '\n']

/-- The command's name and its tokens between commas, then the end of the line. -/
def messageOf (name : Text) (tokens : List DecimalToken) (ending : LineEnding) : Text :=
  [comma].intercalate (name :: tokens.map DecimalToken.text) ++ ending.text

/-- The fields of a text whose last field is followed by `ending`. -/
def endFields (ending : Text) : List Text → List Text
  | [] => []
  | [field] => [field ++ ending]
  | field :: next :: rest => field :: endFields ending (next :: rest)

theorem intercalate_endFields (ending : Text) {fields : List Text} (hne : fields ≠ []) :
    [comma].intercalate (endFields ending fields) =
      [comma].intercalate fields ++ ending := by
  induction fields with
  | nil => exact absurd rfl hne
  | cons field rest ih =>
      cases rest with
      | nil => simp [endFields, List.intercalate]
      | cons next rest =>
          have htail := ih (by simp)
          have hne' : endFields ending (next :: rest) ≠ [] := by
            cases rest <;> exact List.cons_ne_nil _ _
          rw [endFields, List.intercalate_cons_of_ne_nil hne', htail,
            List.intercalate_cons_cons]
          simp only [List.append_assoc]

theorem length_endFields (ending : Text) (fields : List Text) :
    (endFields ending fields).length = fields.length := by
  induction fields with
  | nil => rfl
  | cons field rest ih =>
      cases rest with
      | nil => rfl
      | cons next rest =>
          rw [endFields, List.length_cons, ih]
          rfl

theorem mem_endFields {ending l : Text} {fields : List Text}
    (h : l ∈ endFields ending fields) : ∃ field ∈ fields, l = field ∨ l = field ++ ending := by
  induction fields with
  | nil => cases h
  | cons field rest ih =>
      cases rest with
      | nil =>
          rw [endFields, List.mem_singleton] at h
          exact ⟨field, by simp, Or.inr h⟩
      | cons next rest =>
          rcases List.mem_cons.mp h with rfl | h
          · exact ⟨l, by simp, Or.inl rfl⟩
          · obtain ⟨f, hf, hl⟩ := ih h
            exact ⟨f, List.mem_cons_of_mem _ hf, hl⟩

/-- The characters of a message that are not those of the command's name. -/
def IsParameterChar (c : Char) : Prop :=
  c.isDigit = true ∨ c = '+' ∨ c = '-' ∨ c = comma ∨ c = '\r' ∨ c = '\n'

instance (c : Char) : Decidable (IsParameterChar c) :=
  inferInstanceAs (Decidable (_ ∨ _))

theorem LineEnding.chars (ending : LineEnding) :
    ∀ c ∈ ending.text, c = '\r' ∨ c = '\n' := by
  cases ending <;> simp [LineEnding.text]

/-- The name comes first, and letters occur nowhere else. -/
theorem messageOf_eq_append (name : Text) (tokens : List DecimalToken)
    (ending : LineEnding) :
    ∃ parameters, messageOf name tokens ending = name ++ parameters ∧
      ∀ c ∈ parameters, IsParameterChar c := by
  have hending : ∀ c ∈ ending.text, IsParameterChar c := by
    intro c hc
    rcases ending.chars c hc with rfl | rfl
    · decide
    · decide
  -- the first token becomes the name of a message with the others
  induction tokens generalizing name with
  | nil =>
      refine ⟨ending.text, ?_, hending⟩
      simp [messageOf, List.intercalate]
  | cons token rest ih =>
      obtain ⟨parameters, heq, hchars⟩ := ih token.text
      refine ⟨comma :: (token.text ++ parameters), ?_, ?_⟩
      · rw [← heq]
        unfold messageOf
        rw [List.map_cons, List.intercalate_cons_of_ne_nil (by simp)]
        simp
      · intro c hc
        rcases List.mem_cons.mp hc with rfl | hc
        · decide
        · rcases List.mem_append.mp hc with hc | hc
          · rcases token.denotes.chars c hc with hdigit | hplus | hminus
            · exact Or.inl hdigit
            · exact Or.inr (Or.inl hplus)
            · exact Or.inr (Or.inr (Or.inl hminus))
          · exact hchars c hc

/-! ## The ten commands -/

/-- The commands whose parameters are range-checked. -/
inductive ParameterCommand where
  | jogCW
  | jogCCW
  | homeCW
  | homeCCW
  | relativeMove
  | presetMotorPosition
  | presetEncoderPosition
  | saveConfig
  | runAssembledDwellMove
  | runAssembledBlendMove
  deriving DecidableEq, Repr

namespace ParameterCommand

def name : ParameterCommand → Text
  | jogCW => "jogCW".toList
  | jogCCW => "jogCCW".toList
  | homeCW => "homeCW".toList
  | homeCCW => "homeCCW".toList
  | relativeMove => "relativeMove".toList
  | presetMotorPosition => "presetMotorPosition".toList
  | presetEncoderPosition => "presetEncoderPosition".toList
  | saveConfig => "saveConfig".toList
  | runAssembledDwellMove => "runAssembledDwellMove".toList
  | runAssembledBlendMove => "runAssembledBlendMove".toList

/-- The branch of the dispatcher for the command. -/
def handler : ParameterCommand → Text → Server SmdResponseCode
  | jogCW => handleJog
  | jogCCW => handleJog
  | homeCW => handleFindHome
  | homeCCW => handleFindHome
  | relativeMove => handleRelativeMove
  | presetMotorPosition => handlePresetMotorPosition
  | presetEncoderPosition => handlePresetEncoderPosition
  | saveConfig => handleSaveConfig
  | runAssembledDwellMove => handleRunAssembledDwellMove
  | runAssembledBlendMove => handleRunAssembledBlendMove

/-- The message of the command. -/
def message (c : ParameterCommand) (tokens : List DecimalToken) (ending : LineEnding) :
    Text :=
  messageOf c.name tokens ending

/-- The command that the dispatcher takes a message for, in the order of its tests;
`none` where it is none of the ten. -/
def ofMessage (input : Text) : Option ParameterCommand :=
  if strstr input "jogCW".toList || strstr input "jogCCW".toList then
    some (if strstr input "jogCCW".toList then jogCCW else jogCW)
  else if strstr input "homeCW".toList || strstr input "homeCCW".toList then
    some (if strstr input "homeCCW".toList then homeCCW else homeCW)
  else if startsWith input "disconnect".toList then
    none
  else if startsWith input "saveConfig".toList then
    some saveConfig
  else if startsWith input "relativeMove".toList then
    some relativeMove
  else if startsWith input "driveEnable".toList then
    none
  else if startsWith input "driveDisable".toList then
    none
  else if startsWith input "holdMove".toList then
    none
  else if startsWith input "immedStop".toList then
    none
  else if startsWith input "resetErrors".toList then
    none
  else if startsWith input "readInputRegisters".toList then
    none
  else if startsWith input "loadCurrentConfiguration".toList then
    none
  else if startsWith input "readCurrentConfiguration".toList then
    none
  else if startsWith input "presetMotorPosition".toList then
    some presetMotorPosition
  else if startsWith input "presetEncoderPosition".toList then
    some presetEncoderPosition
  else if startsWith input "programAssembledMove".toList then
    none
  else if startsWith input "runAssembledDwellMove".toList then
    some runAssembledDwellMove
  else if startsWith input "runAssembledBlendMove".toList then
    some runAssembledBlendMove
  else
    none

/-- The tokens as the dispatcher finds them: the end of the line belongs to the
last one. -/
theorem splitOn_message (c : ParameterCommand) (tokens : List DecimalToken)
    (ending : LineEnding) :
    (c.message tokens ending).splitOn comma =
      endFields ending.text (c.name :: tokens.map DecimalToken.text) := by
  unfold message messageOf
  rw [← intercalate_endFields ending.text (List.cons_ne_nil _ _)]
  refine List.splitOn_intercalate comma ?_ ?_
  · intro l hl
    obtain ⟨field, hfield, hl⟩ := mem_endFields hl
    have hcomma : comma ∉ field := by
      rcases List.mem_cons.mp hfield with rfl | hfield
      · cases c <;> decide
      · obtain ⟨token, _, rfl⟩ := List.mem_map.mp hfield
        intro hmem
        rcases token.denotes.chars comma hmem with hc | hc | hc <;>
          exact absurd hc (by decide)
    have hending : comma ∉ ending.text := by
      cases ending <;> decide
    rcases hl with rfl | rfl
    · exact hcomma
    · rw [List.mem_append]
      exact fun h => h.elim hcomma hending
  · exact List.ne_nil_of_length_pos (by rw [length_endFields]; simp)

theorem numberOfTokens_message (c : ParameterCommand) (tokens : List DecimalToken)
    (ending : LineEnding) :
    numberOfTokens (c.message tokens ending) = tokens.length + 1 := by
  obtain ⟨parameters, heq, hchars⟩ := messageOf_eq_append c.name tokens ending
  have hspace : ' ' ∉ c.message tokens ending := by
    unfold message
    rw [heq, List.mem_append]
    rintro (hname | hparameters)
    · cases c <;> exact absurd hname (by decide)
    · exact absurd (hchars ' ' hparameters) (by decide)
  unfold numberOfTokens
  rw [if_neg hspace, splitOn_message, length_endFields, List.length_cons, List.length_map]
  rfl

end ParameterCommand

/-- Connected, and no profile expected and no manual mode. -/
def World.InScenario1 (w : World) : Prop :=
  w.globals.smdConnected = 1 ∧ w.globals.statusWaitingForAssembledMove = 0 ∧
    w.globals.statusManualModeEnable = 0

theorem World.ready_inScenario1 : World.ready.InScenario1 := ⟨rfl, rfl, rfl⟩

theorem runs_parseSocketInput_scenario1 {w w' : World} {input : Text} {cl : Int}
    {r : SmdResponseCode} (h : w.InScenario1) :
    Runs server (parseSocketInput input cl) w r w' ↔
      Runs server (parseScenario1 input cl) w r w' := by
  obtain ⟨hconnected, hwaiting, hmanual⟩ := h
  unfold parseSocketInput dispatchIn
  simp only [Program.bind_eq_bind, Program.perform_bind, Program.done_bind, runs_globals]
  rw [if_neg (by omega), if_pos ⟨hconnected, hwaiting, hmanual⟩]

/-! ## The dispatcher -/

/-- The code that the dispatcher reaches for a command has a property of that
command's code.  The two jogs, and the two ways home, share their code. -/
theorem parseScenario1_command {Q : ParameterCommand → Server SmdResponseCode → Prop}
    {input : Text} {cl : Int} {c : ParameterCommand}
    (h : ParameterCommand.ofMessage input = some c)
    (hjog : Q (if strstr input "jogCCW".toList then .jogCCW else .jogCW) (handleJog input))
    (hhome : Q (if strstr input "homeCCW".toList then .homeCCW else .homeCW)
      (handleFindHome input))
    (hothers : ∀ c ∈ [ParameterCommand.saveConfig, .relativeMove, .presetMotorPosition,
      .presetEncoderPosition, .runAssembledDwellMove, .runAssembledBlendMove],
      Q c (c.handler input)) : Q c (parseScenario1 input cl) := by
  let Reaches (p : Server SmdResponseCode) (o : Option ParameterCommand) : Prop :=
    ∀ c, o = some c → Q c p
  have hnone : ∀ {p}, Reaches p none := fun _ hc => nomatch hc
  have hsome : ∀ {p c}, Q c p → Reaches p (some c) := by
    intro p c hc c' heq
    cases heq
    exact hc
  have hite : ∀ {P : Prop} [Decidable P] {p q o o'}, Reaches p o → Reaches q o' →
      Reaches (if P then p else q) (if P then o else o') := by
    intro P _ p q o o' hp hq
    split
    · exact hp
    · exact hq
  -- the tests of the dispatcher, in its order
  have hreaches : Reaches (parseScenario1 input cl) (ParameterCommand.ofMessage input) := by
    apply hite (hsome hjog)
    apply hite (hsome hhome)
    apply hite hnone
    apply hite (hsome (hothers .saveConfig (by simp)))
    apply hite (hsome (hothers .relativeMove (by simp)))
    iterate 8 apply hite hnone
    apply hite (hsome (hothers .presetMotorPosition (by simp)))
    apply hite (hsome (hothers .presetEncoderPosition (by simp)))
    apply hite hnone
    apply hite (hsome (hothers .runAssembledDwellMove (by simp)))
    apply hite (hsome (hothers .runAssembledBlendMove (by simp)))
    exact hnone
  exact hreaches c h

theorem parseScenario1_of_ofMessage {input : Text} {cl : Int} {c : ParameterCommand}
    (h : ParameterCommand.ofMessage input = some c) :
    parseScenario1 input cl = c.handler input := by
  apply parseScenario1_command (Q := fun c p => p = c.handler input) h
  · split <;> rfl
  · split <;> rfl
  · exact fun _ _ => rfl

/-- A name is found in a message when it is found in the message's own name. -/
theorem ParameterCommand.strstr_message (c : ParameterCommand) (tokens : List DecimalToken)
    (ending : LineEnding) (needle : Text) {letter : Char}
    (hletter : ¬ IsParameterChar letter) :
    strstr (c.message tokens ending) (needle ++ [letter]) =
      strstr c.name (needle ++ [letter]) := by
  obtain ⟨parameters, heq, hchars⟩ := messageOf_eq_append c.name tokens ending
  have hmessage : c.message tokens ending = c.name ++ parameters := heq
  rw [hmessage, Bool.eq_iff_iff, strstr_iff, strstr_iff]
  constructor
  · intro h
    exact infix_append_of_not_mem (fun hmem => hletter (hchars letter hmem)) h
  · intro h
    exact h.trans (List.prefix_append _ _).isInfix

namespace ParameterCommand

def all : List ParameterCommand :=
  [jogCW, jogCCW, homeCW, homeCCW, relativeMove, presetMotorPosition,
    presetEncoderPosition, saveConfig, runAssembledDwellMove, runAssembledBlendMove]

theorem mem_all (c : ParameterCommand) : c ∈ all := by
  cases c <;> simp [all]

theorem ofMessage_name (c : ParameterCommand) : ofMessage c.name = some c := by
  have h : ∀ c ∈ all, ofMessage c.name = some c := by decide +kernel
  exact h c c.mem_all

/-- The words of the dispatcher's prefix tests. -/
def prefixWords : List Text :=
  ["disconnect".toList, "saveConfig".toList, "relativeMove".toList, "driveEnable".toList,
    "driveDisable".toList, "holdMove".toList, "immedStop".toList, "resetErrors".toList,
    "readInputRegisters".toList, "loadCurrentConfiguration".toList,
    "readCurrentConfiguration".toList, "presetMotorPosition".toList,
    "presetEncoderPosition".toList, "programAssembledMove".toList,
    "runAssembledDwellMove".toList, "runAssembledBlendMove".toList]

/-- No name is a shorter beginning of such a word. -/
theorem name_eq_of_prefix (c : ParameterCommand) :
    ∀ word ∈ prefixWords, c.name <+: word → c.name = word := by
  have h : ∀ c ∈ all, ∀ word ∈ prefixWords, c.name <+: word → c.name = word := by
    decide +kernel
  exact h c c.mem_all

/-- The dispatcher goes by the words it finds. -/
theorem ofMessage_congr {input input' : Text}
    (hjogCW : strstr input "jogCW".toList = strstr input' "jogCW".toList)
    (hjogCCW : strstr input "jogCCW".toList = strstr input' "jogCCW".toList)
    (hhomeCW : strstr input "homeCW".toList = strstr input' "homeCW".toList)
    (hhomeCCW : strstr input "homeCCW".toList = strstr input' "homeCCW".toList)
    (hstarts : ∀ word ∈ prefixWords, startsWith input word = startsWith input' word) :
    ofMessage input = ofMessage input' := by
  simp only [prefixWords, List.forall_mem_cons, List.not_mem_nil, false_implies,
    implies_true, and_true] at hstarts
  unfold ofMessage
  rw [hjogCW, hjogCCW, hhomeCW, hhomeCCW]
  simp only [hstarts]

theorem startsWith_name_append (c : ParameterCommand) (rest : Text) :
    ∀ word ∈ prefixWords, startsWith (c.name ++ rest) word = startsWith c.name word :=
  fun word hword => startsWith_append (c.name_eq_of_prefix word hword)

/-- The dispatcher takes the message to the command it names. -/
theorem ofMessage_message (c : ParameterCommand) (tokens : List DecimalToken)
    (ending : LineEnding) : ofMessage (c.message tokens ending) = some c := by
  obtain ⟨parameters, heq, _⟩ := messageOf_eq_append c.name tokens ending
  have hmessage : c.message tokens ending = c.name ++ parameters := heq
  have hW : ¬ IsParameterChar 'W' := by decide
  rw [← c.ofMessage_name]
  apply ofMessage_congr
  · exact c.strstr_message tokens ending "jogC".toList hW
  · exact c.strstr_message tokens ending "jogCC".toList hW
  · exact c.strstr_message tokens ending "homeC".toList hW
  · exact c.strstr_message tokens ending "homeCC".toList hW
  · rw [hmessage]
    exact c.startsWith_name_append parameters

/-- A message that begins with the name of a command goes to that command, unless the
name of a jog or of a way home is found in it. -/
theorem ofMessage_of_startsWith {c : ParameterCommand} {input : Text}
    (h : startsWith input c.name = true) :
    ofMessage input = some c ∨
      ∃ c' ∈ [jogCW, jogCCW, homeCW, homeCCW], ofMessage input = some c' := by
  obtain ⟨rest, rfl⟩ := startsWith_iff.mp h
  -- strstr finds these names anywhere, so they go before the name in front
  by_cases hjog : (strstr (c.name ++ rest) "jogCW".toList ||
      strstr (c.name ++ rest) "jogCCW".toList) = true
  · right
    unfold ofMessage
    rw [if_pos hjog]
    exact ⟨_, by split <;> simp, rfl⟩
  · by_cases hhome : (strstr (c.name ++ rest) "homeCW".toList ||
        strstr (c.name ++ rest) "homeCCW".toList) = true
    · right
      unfold ofMessage
      rw [if_neg hjog, if_pos hhome]
      exact ⟨_, by split <;> simp, rfl⟩
    · left
      -- none of them stands in the message, so none does in its name
      have hname : ∀ needle, strstr (c.name ++ rest) needle = false →
          strstr (c.name ++ rest) needle = strstr c.name needle := by
        intro needle hneedle
        rw [hneedle, eq_comm, strstr_eq_false_iff]
        intro hfound
        exact strstr_eq_false_iff.mp hneedle
          (hfound.trans (List.prefix_append c.name rest).isInfix)
      simp only [Bool.or_eq_true, not_or, Bool.not_eq_true] at hjog hhome
      rw [← c.ofMessage_name]
      exact ofMessage_congr (hname _ hjog.1) (hname _ hjog.2) (hname _ hhome.1)
        (hname _ hhome.2) (c.startsWith_name_append rest)

end ParameterCommand

theorem parseScenario1_message (c : ParameterCommand) (tokens : List DecimalToken)
    (ending : LineEnding) (cl : Int) :
    parseScenario1 (c.message tokens ending) cl = c.handler (c.message tokens ending) :=
  parseScenario1_of_ofMessage (c.ofMessage_message tokens ending)

end SmdControlServer
