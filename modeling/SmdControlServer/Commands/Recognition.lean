import SmdControlServer.Commands.Codes
import SmdControlServer.Commands.Dispatch
import SmdControlServer.Interaction.Showing
import SmdControlServer.Server.Clients
import SmdControlServer.Server.Iteration

/-!
# Messages that are recognised

`INVALID_INPUT` is the answer to a message that is taken for no command in the state it
comes in, and to no other.  A message that is recognised is attended to: what is done for
it concerns its own client only, and comes to another response code.
-/

namespace SmdControlServer

open CString Interaction

/-- The commands of Scenario 2. -/
def manualModeCommands : List Text :=
  ["stopManualMode".toList, "resetErrors".toList, "readInputRegisters".toList]

/-- The message is taken for no command: without a connection, in Scenario 1 and in
Scenario 2. -/
def Globals.Unrecognised (g : Globals) (input : Text) : Prop :=
  (g.smdConnected = 0 ∧ ¬ "connect".toList <+: input) ∨
  (g.smdConnected = 1 ∧ g.statusWaitingForAssembledMove = 0 ∧ g.statusManualModeEnable = 0 ∧
    ∀ c, ¬ Command.Selects input c) ∨
  (g.smdConnected = 1 ∧ g.statusWaitingForAssembledMove = 0 ∧ g.statusManualModeEnable = 1 ∧
    ∀ name ∈ manualModeCommands, ¬ name <+: input)

section

variable {g : Globals} {input : Text} {cl : Int}

theorem startsWith_eq_false {name : Text} (h : ¬ name <+: input) :
    startsWith input name = false := by
  rw [← Bool.not_eq_true, startsWith_iff]
  exact h

theorem parseScenario2_of_unrecognised (h : ∀ name ∈ manualModeCommands, ¬ name <+: input)
    (cl : Int) : parseScenario2 input cl = pure .invalidInput := by
  unfold parseScenario2
  rw [startsWith_eq_false (h "stopManualMode".toList (by simp [manualModeCommands])),
    startsWith_eq_false (h "resetErrors".toList (by simp [manualModeCommands])),
    startsWith_eq_false (h "readInputRegisters".toList (by simp [manualModeCommands]))]
  rfl

/-- A message that is not recognised is refused, and nothing else is done. -/
theorem dispatchIn_of_unrecognised (h : g.Unrecognised input) (cl : Int) :
    dispatchIn g input cl = pure .invalidInput := by
  unfold dispatchIn
  rcases h with ⟨hclosed, hconnect⟩ | ⟨hopen, hwaiting, hmanual, hnone⟩ |
    ⟨hopen, hwaiting, hmanual, hnone⟩
  · rw [if_pos hclosed, startsWith_eq_false hconnect]
    rfl
  · rw [if_neg (by omega), if_pos ⟨hopen, hwaiting, hmanual⟩]
    exact Command.parseScenario1_of_not_selects hnone cl
  · rw [if_neg (by omega), if_neg (by omega), if_pos ⟨hopen, hwaiting, hmanual⟩]
    exact parseScenario2_of_unrecognised hnone cl

end

/-! ## What is done for a message -/

/-- The code serves the client, and does not come to `INVALID_INPUT`. -/
structure Attends (cl : Int) (p : Server SmdResponseCode) : Prop where
  serves : Serves (some cl) p
  recognised : p.Returns (· ≠ .invalidInput)

section Attends

variable {cl : Int} {input : Text} {α : Type}

theorem attends_of_returns {p : Server SmdResponseCode} {codes : List SmdResponseCode}
    (hp : Serves (some cl) p) (hcodes : ReturnsOneOf codes p) (h : .invalidInput ∉ codes) :
    Attends cl p :=
  ⟨hp, hcodes.mono fun _ hcode heq => h (heq ▸ hcode)⟩

theorem attends_pure {code : SmdResponseCode} (h : code ≠ .invalidInput) :
    Attends cl (pure code) :=
  ⟨serves_pure code, h⟩

theorem attends_abort {fault : Fault} : Attends cl (abort fault) :=
  ⟨serves_abort, fun x => x.elim⟩

theorem attends_bind {p : Server α} {f : α → Server SmdResponseCode} (hp : Serves (some cl) p)
    (hf : ∀ a, Attends cl (f a)) : Attends cl (p >>= f) :=
  ⟨serves_bind hp fun a => (hf a).serves, Program.Returns.bind p fun a => (hf a).recognised⟩

theorem attends_ite {c : Prop} [Decidable c] {p q : Server SmdResponseCode} (hp : Attends cl p)
    (hq : Attends cl q) : Attends cl (if c then p else q) := by
  split
  · exact hp
  · exact hq

/-- A check that refuses the parameters of the message. -/
theorem attends_guard {c : Prop} [Decidable c] {p : Server SmdResponseCode}
    (hp : Attends cl p) : Attends cl (if c then pure .invalidParameter else p) :=
  attends_ite (attends_pure (by decide)) hp

theorem attends_conversion {str : Text} {k : Int → Server SmdResponseCode}
    (hk : ∀ n, Attends cl (k n)) : Attends cl (convertStringToLongInt str >>= k) :=
  attends_bind (serves_convertStringToLongInt str) hk

theorem attends_withTokens {n : Nat} {f : Tokenized → Server SmdResponseCode}
    (hf : ∀ tokens, Attends cl (f tokens)) : Attends cl (withTokens input n f) :=
  attends_guard (attends_guard (hf _))

theorem attends_sendModbusCommand (cmd : RegisterProgram) :
    Attends cl (sendModbusCommand cmd) :=
  attends_of_returns (serves_sendModbusCommand cmd) (returns_sendModbusCommand cmd) (by decide)

theorem attends_sendAnd {cmd : RegisterProgram} {success failure : SmdResponseCode}
    (h : .invalidInput ∉ [success, failure]) : Attends cl (sendAnd cmd success failure) :=
  attends_of_returns (serves_sendAnd cmd success failure) (returns_sendAnd cmd success failure) h

theorem attends_smdReadRegisters (readType : SmdRegisterReadType) :
    Attends cl (smdReadRegisters readType cl) :=
  attends_of_returns (serves_smdReadRegisters readType cl) (returns_smdReadRegisters readType cl)
    (by decide)

/-! ## Scenario 1 -/

theorem attends_jogIn (direction : Int) : Attends cl (jogIn direction input) := by
  apply attends_withTokens
  intro tokens
  apply attends_conversion fun accel => attends_conversion fun decel => ?_
  apply attends_conversion fun jerk => attends_conversion fun speed => ?_
  refine attends_bind (serves_ask trivial) fun _ => ?_
  exact attends_guard (attends_guard (attends_sendModbusCommand _))

theorem attends_findHomeIn (direction : Int) : Attends cl (findHomeIn direction input) := by
  apply attends_withTokens
  intro tokens
  apply attends_conversion fun speed => attends_conversion fun accel => ?_
  apply attends_conversion fun decel => attends_conversion fun jerk => ?_
  exact attends_guard (attends_guard (attends_sendModbusCommand _))

theorem attends_handleSaveConfig : Attends cl (handleSaveConfig input) := by
  apply attends_withTokens
  intro tokens
  apply attends_conversion fun controlWord => attends_conversion fun configWord => ?_
  apply attends_conversion fun startingSpeed => attends_conversion fun stepsPerTurn => ?_
  apply attends_conversion fun encPulsesPerTurn => attends_conversion fun idle => ?_
  exact attends_conversion fun motorCurrent => attends_guard (attends_sendAnd (by decide))

theorem attends_handleRelativeMove : Attends cl (handleRelativeMove input) := by
  apply attends_withTokens
  intro tokens
  apply attends_conversion fun relPos => attends_conversion fun accel => ?_
  apply attends_conversion fun decel => attends_conversion fun jerk => ?_
  exact attends_conversion fun speed =>
    attends_guard (attends_guard (attends_sendModbusCommand _))

theorem attends_smdRunAssembledMove {direction dwellTime : Int}
    {moveType : SmdAssembledMoveType} :
    Attends cl (smdRunAssembledMove direction dwellTime moveType) := by
  refine attends_bind (serves_ask trivial) fun g => ?_
  apply attends_ite (attends_sendModbusCommand _)
  apply attends_ite _ (attends_pure (by decide))
  exact attends_ite (attends_sendModbusCommand _) (attends_pure (by decide))

theorem attends_handlePresetMotorPosition : Attends cl (handlePresetMotorPosition input) := by
  apply attends_withTokens
  intro tokens
  exact attends_conversion fun pos => attends_guard (attends_sendAnd (by decide))

theorem attends_handlePresetEncoderPosition : Attends cl (handlePresetEncoderPosition input) := by
  apply attends_withTokens
  intro tokens
  exact attends_conversion fun pos => attends_guard (attends_sendAnd (by decide))

theorem attends_handleRunAssembledDwellMove : Attends cl (handleRunAssembledDwellMove input) := by
  apply attends_withTokens
  intro tokens
  exact attends_conversion fun dwellTime => attends_guard attends_smdRunAssembledMove

theorem attends_handleRunAssembledBlendMove : Attends cl (handleRunAssembledBlendMove input) := by
  apply attends_withTokens
  intro tokens
  exact attends_conversion fun direction => attends_guard attends_smdRunAssembledMove

/-- Whatever a message is taken for in Scenario 1. -/
theorem attends_code (c : Command) : Attends cl (c.code input cl) := by
  cases c with
  | jogCW => exact attends_jogIn 0
  | jogCCW => exact attends_jogIn 1
  | homeCW => exact attends_findHomeIn 0
  | homeCCW => exact attends_findHomeIn 1
  | disconnect =>
      exact attends_bind serves_smdCloseCommandConnection fun _ => attends_pure (by decide)
  | saveConfig => exact attends_handleSaveConfig
  | relativeMove => exact attends_handleRelativeMove
  | driveEnable => exact attends_sendAnd (by decide)
  | driveDisable => exact attends_sendAnd (by decide)
  | holdMove => exact attends_bind (serves_ask trivial) fun _ => attends_sendModbusCommand _
  | immedStop => exact attends_sendModbusCommand _
  | resetErrors => exact attends_sendModbusCommand _
  | readInputRegisters => exact attends_smdReadRegisters _
  | loadCurrentConfiguration => exact attends_sendAnd (by decide)
  | readCurrentConfiguration => exact attends_smdReadRegisters _
  | presetMotorPosition => exact attends_handlePresetMotorPosition
  | presetEncoderPosition => exact attends_handlePresetEncoderPosition
  | programAssembledMove =>
      exact attends_of_returns serves_smdProgramAssembledMove returns_smdProgramAssembledMove
        (by decide)
  | runAssembledDwellMove => exact attends_handleRunAssembledDwellMove
  | runAssembledBlendMove => exact attends_handleRunAssembledBlendMove
  | startManualMode =>
      refine attends_of_returns ?_ returns_startManualMode (by decide)
      refine serves_bind (serves_ask (Option.some_ne_none cl)) fun _ => ?_
      refine serves_bind (serves_ask trivial) fun created => ?_
      exact serves_ite (serves_pure _) (serves_bind (serves_ask trivial) fun _ => serves_pure _)

/-! ## The other scenarios -/

theorem attends_handleConnect : Attends cl (handleConnect input) := by
  apply attends_withTokens
  intro tokens
  apply attends_ite attends_abort
  refine attends_bind (serves_ask (Option.some_ne_none cl)) fun _ => ?_
  exact attends_of_returns serves_smdOpenCommandConnection returns_smdOpenCommandConnection
    (by decide)

theorem attends_handleStopManualMode : Attends cl handleStopManualMode := by
  refine attends_bind (serves_ask (Option.some_ne_none cl)) fun _ => ?_
  apply attends_bind (serves_sendModbusCommand _)
  intro response
  apply attends_ite
  · apply attends_bind serves_smdCloseCommandConnection
    intro _
    exact attends_bind (serves_ask trivial) fun _ => attends_pure (by decide)
  · exact attends_bind (serves_ask trivial) fun _ => attends_pure (by decide)

theorem attends_parseScenario2 (h : ∃ name ∈ manualModeCommands, name <+: input) :
    Attends cl (parseScenario2 input cl) := by
  obtain ⟨name, hname, hbegins⟩ := h
  unfold parseScenario2
  by_cases hstop : startsWith input "stopManualMode".toList = true
  · rw [if_pos hstop]
    exact attends_handleStopManualMode
  rw [if_neg hstop]
  by_cases hreset : startsWith input "resetErrors".toList = true
  · rw [if_pos hreset]
    exact attends_sendModbusCommand _
  rw [if_neg hreset]
  by_cases hread : startsWith input "readInputRegisters".toList = true
  · rw [if_pos hread]
    exact attends_smdReadRegisters _
  · simp only [manualModeCommands, List.mem_cons, List.not_mem_nil, or_false] at hname
    rcases hname with rfl | rfl | rfl
    · exact absurd (startsWith_iff.mpr hbegins) hstop
    · exact absurd (startsWith_iff.mpr hbegins) hreset
    · exact absurd (startsWith_iff.mpr hbegins) hread

theorem serves_uploadSegments (numSegments : Nat) (i : Nat)
    (segments : List AssembledMoveSegment) :
    Serves (some cl) (uploadSegments numSegments cl i segments) := by
  induction segments generalizing i with
  | nil => exact serves_pure _
  | cons s rest ih =>
      unfold uploadSegments
      apply serves_bind (serves_sendModbusCommand _)
      intro _
      refine serves_bind (serves_ask trivial) fun _ => ?_
      refine serves_bind (serves_ask trivial) fun stack => ?_
      apply serves_bind (serves_readForCaller _ _ _ _ _)
      intro reply
      refine serves_bind (serves_ask trivial) fun _ => ?_
      apply serves_ite (serves_pure _)
      apply serves_ite _ (serves_pure _)
      apply serves_bind (serves_sendModbusCommand _)
      intro prepared
      apply serves_ite _ (serves_pure _)
      refine serves_bind (serves_ask trivial) fun _ => ?_
      apply serves_bind (serves_readForCaller _ _ _ _ _)
      intro reply
      apply serves_ite (serves_pure _)
      -- the line for an accepted segment goes to the client of the upload
      exact serves_ite (serves_bind (serves_writeToClient _ _) fun _ => ih _) (ih _)

theorem serves_smdParseAndUploadAssembledMove :
    Serves (some cl) (smdParseAndUploadAssembledMove input cl) := by
  unfold smdParseAndUploadAssembledMove
  refine serves_bind (serves_ask trivial) fun parsed => ?_
  cases parsed with
  | none => exact serves_pure _
  | some root =>
      refine serves_bind (serves_ask trivial) fun stack => ?_
      cases collectSegments root.child 0 ⟨stack.segments, 0, []⟩ with
      | error fault => exact serves_abort
      | ok table =>
          apply serves_ite (serves_pure _)
          split
          · exact serves_abort
          · split
            · exact serves_pure _
            · refine serves_bind (serves_ask (Option.some_ne_none cl)) fun _ => ?_
              exact serves_uploadSegments _ _ _

theorem attends_parseScenario3 : Attends cl (parseScenario3 input cl) := by
  refine attends_of_returns ?_ (returns_parseScenario3 input cl) (by decide)
  apply serves_bind serves_smdParseAndUploadAssembledMove
  intro response
  have hdone : Serves (some cl) (assign (.statusWaitingForAssembledMove 0)) :=
    serves_ask (Option.some_ne_none cl)
  apply serves_ite (serves_bind hdone fun _ => serves_pure _)
  apply serves_bind hdone
  intro _
  exact serves_bind (serves_sendModbusCommand _) fun _ => serves_pure _

/-- A message that is recognised is attended to. -/
theorem attends_dispatchIn {g : Globals} (h : ¬ g.Unrecognised input) :
    Attends cl (dispatchIn g input cl) := by
  unfold dispatchIn
  by_cases hclosed : g.smdConnected = 0
  · have hconnect : startsWith input "connect".toList = true :=
      startsWith_iff.mpr (not_not.mp fun hnot => h (Or.inl ⟨hclosed, hnot⟩))
    rw [if_pos hclosed, if_pos hconnect]
    exact attends_handleConnect
  rw [if_neg hclosed]
  by_cases hfirst : g.smdConnected = 1 ∧ g.statusWaitingForAssembledMove = 0 ∧
      g.statusManualModeEnable = 0
  · have hselects : ∃ c, Command.Selects input c := by
      by_contra hnone
      exact h (Or.inr (Or.inl ⟨hfirst.1, hfirst.2.1, hfirst.2.2, not_exists.mp hnone⟩))
    obtain ⟨c, hc⟩ := hselects
    rw [if_pos hfirst, Command.parseScenario1_of_selects hc]
    exact attends_code c
  rw [if_neg hfirst]
  by_cases hsecond : g.smdConnected = 1 ∧ g.statusWaitingForAssembledMove = 0 ∧
      g.statusManualModeEnable = 1
  · rw [if_pos hsecond]
    apply attends_parseScenario2
    by_contra hnone
    refine h (Or.inr (Or.inr ⟨hsecond.1, hsecond.2.1, hsecond.2.2, fun name hname hbegins => ?_⟩))
    exact hnone ⟨name, hname, hbegins⟩
  rw [if_neg hsecond]
  exact attends_ite attends_parseScenario3 (attends_pure (by decide))

end Attends

/-! ## The answer -/

section

variable {cl : Int} {α : Type}

theorem serves_tellResponse {r : SmdResponseCode} (hr : r ≠ .invalidInput) :
    Serves (some cl) (tellResponse r cl) := by
  unfold tellResponse
  cases responseLine r with
  | none => exact serves_pure _
  | some line =>
      apply serves_bind (serves_writeToClient cl line)
      intro written
      rw [if_neg fun h => hr h.1]
      exact serves_pure _

/-- Whatever the answer is, unless it is `INVALID_INPUT`, the client stays open. -/
theorem serves_answerClient {r : SmdResponseCode} (hr : r ≠ .invalidInput) :
    Serves (some cl) (answerClient r cl) := by
  rw [answerClient_eq]
  apply serves_ite
  · refine serves_bind (serves_ask (Option.some_ne_none cl)) fun _ => ?_
    exact serves_tellResponse hr
  · exact serves_tellResponse hr

/-! ## Messages after which the client is closed -/

/-- The client that a request closes. -/
def Request.closedClient? : Request → Option Int
  | .closeClient cl => some cl
  | _ => none

/-- A run that closes these clients. -/
abbrev Closes (p : Server α) (w : World) (a : α) (w' : World) (closed : List Int) : Prop :=
  Shows server Request.closedClient? p w a w' closed

theorem closes_of_serves {client : Option Int} {p : Server α} (hp : Serves client p)
    {w w' : World} {a : α} {closed : List Int} :
    Closes p w a w' closed ↔ Runs server p w a w' ∧ closed = [] := by
  have hopen : ∀ {client : Option Int} {β : Type} {p : Server β}, Serves client p →
      p.Obeys (Policy.only (fun o : Request => o.closedClient? = none)
        fun q : Procedure => q = .smdHoldMove ∨ q = .smdImmedStop) := by
    intro client β p hp
    refine hp.mono (fun o ho => ?_) (fun _ _ _ _ => trivial) (fun _ hq => hq)
    cases o with
    | closeClient cl => exact ho.elim
    | _ => rfl
  exact shows_of_obeys (fun q hq => hopen (serves_body q hq)) (hopen hp)

theorem closes_answerInvalidInput {w w' : World} {closed : List Int}
    (h : Closes (answerClient .invalidInput cl) w () w' closed) :
    (closed = [cl] ∧ w.clientWrites.head = none) ∨
      (closed = [] ∧ w.clientWrites.head ≠ none) := by
  obtain ⟨_, rfl, hwritten⟩ := (shows_perform_of_handle rfl).mp h
  cases hwrite : w.clientWrites.head with
  | none =>
      rw [hwrite] at hwritten
      obtain ⟨_, rfl, hclosed⟩ := (shows_perform_of_handle rfl).mp hwritten
      obtain ⟨_, _, rfl⟩ := shows_done_iff.mp hclosed
      exact Or.inl ⟨rfl, rfl⟩
  | some e =>
      rw [hwrite] at hwritten
      obtain ⟨_, rfl, hfailed⟩ := (shows_perform_of_handle rfl).mp hwritten
      obtain ⟨_, _, rfl⟩ := shows_done_iff.mp hfailed
      exact Or.inr ⟨rfl, Option.some_ne_none e⟩

/-- The client is closed exactly when the message is not recognised and the write of
`INVALID_INPUT` succeeds. -/
theorem closes_message {input : Text} {w w' : World} {closed : List Int}
    (h : Closes (parseSmdResponseToClientInput input cl) w () w' closed) :
    (closed = [cl] ∧ w.globals.Unrecognised input ∧ w.clientWrites.head = none) ∨
      (closed = [] ∧ ¬ (w.globals.Unrecognised input ∧ w.clientWrites.head = none)) := by
  -- the note and the read of the globals close nothing
  obtain ⟨_, rfl, hparse⟩ := (shows_perform_of_handle rfl).mp h
  change Closes (getGlobals >>= fun g => dispatchIn g input cl >>= fun r => answerClient r cl)
    _ () w' closed at hparse
  obtain ⟨_, rfl, hrest⟩ := (shows_perform_of_handle rfl).mp hparse
  change Closes (dispatchIn w.globals input cl >>= fun r => answerClient r cl) _ () w' closed
    at hrest
  by_cases hinput : w.globals.Unrecognised input
  · rw [dispatchIn_of_unrecognised hinput] at hrest
    rcases closes_answerInvalidInput hrest with ⟨rfl, hwrite⟩ | ⟨rfl, hwrite⟩
    · exact Or.inl ⟨rfl, hinput, hwrite⟩
    · exact Or.inr ⟨rfl, fun hcond => hwrite hcond.2⟩
  · obtain ⟨hserves, hcode⟩ : Attends cl (dispatchIn w.globals input cl) :=
      attends_dispatchIn hinput
    obtain ⟨r, w₁, _, _, hdispatch, hanswer, rfl⟩ := shows_bind_iff.mp hrest
    obtain ⟨hrun, rfl⟩ := (closes_of_serves hserves).mp hdispatch
    have hr : r ≠ .invalidInput := hrun.returns hcode
    obtain ⟨_, rfl⟩ := (closes_of_serves (serves_answerClient hr)).mp hanswer
    exact Or.inr ⟨rfl, fun hcond => hinput hcond.1⟩

end

end SmdControlServer
