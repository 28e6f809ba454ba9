import SmdControlServer.Commands.Decisions
import SmdControlServer.Drive.Sessions
import SmdControlServer.Interaction.Showing
import SmdControlServer.Server.Clients
import SmdControlServer.Server.Iteration

/-!
# The lines that are written to the client

A message is answered with a line, and an upload writes lines of its own while it goes
on.  What is counted are the calls of `write` with a line that is not one of an upload,
whether they succeed or not.  Most of the code makes no such call: a command sends its
program and leaves it to its caller to tell the client.
-/

namespace SmdControlServer

open CString Interaction

/-- A line that an upload writes while it goes on. -/
def IsProgress (line : Text) : Prop :=
  "MOVE_SEGMENT_ACCEPTED_".toList <+: line

instance (line : Text) : Decidable (IsProgress line) :=
  inferInstanceAs (Decidable (_ <+: _))

/-- A line for a client that is not one of an upload. -/
def Request.terminalLine? : Request → Option (Int × Text)
  | .writeClient cl message => if IsProgress message then none else some (cl, message)
  | _ => none

/-- A run that writes these terminal lines. -/
abbrev Tells {α : Type} (p : Server α) (w : World) (a : α) (w' : World)
    (lines : List (Int × Text)) : Prop :=
  Shows server Request.terminalLine? p w a w' lines

/-- The code writes no terminal line, nor do the stops that a worker sends again. -/
abbrev Unheard {α : Type} (p : Server α) : Prop :=
  p.Obeys (Policy.only (fun o : Request => o.terminalLine? = none)
    fun q : Procedure => q = .smdHoldMove ∨ q = .smdImmedStop)

section Unheard

variable {α : Type}

/-- Code without a client writes no line at all. -/
theorem unheard_of_serves {p : Server α} (hp : Serves none p) : Unheard p := by
  refine hp.mono (fun o ho => ?_) (fun _ _ _ _ => trivial) (fun _ hq => hq)
  cases o with
  | writeClient cl message => cases ho
  | _ => rfl

theorem unheard_sendModbusCommand (cmd : RegisterProgram) : Unheard (sendModbusCommand cmd) :=
  unheard_of_serves (serves_sendModbusCommand cmd)

/-- Without a client the registers are read for the caller only. -/
theorem unheard_returnModbusRegisters (registers : RegisterStrings) (count : Nat)
    (readType : SmdRegisterReadType) (line : Option Text) (size : Nat) :
    Unheard (returnModbusRegisters registers count readType (-1) line size) :=
  unheard_of_serves (serves_readForCaller registers count readType line size)

theorem unheard_body (q : Procedure) (hq : q = .smdHoldMove ∨ q = .smdImmedStop) :
    Unheard (procedureBody q) :=
  unheard_of_serves (serves_body q hq)

/-- Unheard code tells nothing, and the rest is its run. -/
theorem tells_of_unheard {p : Server α} (hp : Unheard p) {w w' : World} {a : α}
    {lines : List (Int × Text)} :
    Tells p w a w' lines ↔ Runs server p w a w' ∧ lines = [] :=
  shows_of_obeys unheard_body hp

end Unheard

/-- The code ends with such a result, and writes these lines. -/
abbrev EndsTelling {α : Type} (p : Server α) (w : World) (lines : List (Int × Text))
    (Q : α → Prop) : Prop :=
  EndsShowing server Request.terminalLine? p w lines Q

theorem endsTelling_ask {α : Type} {o : Request} {k : Answer o → Server α} {w w₁ : World}
    {x : Answer o} {lines : List (Int × Text)} {Q : α → Prop}
    (hx : handle o w = some (x, w₁)) (ho : o.terminalLine? = none)
    (hk : EndsTelling (k x) w₁ lines Q) : EndsTelling (ask o >>= k) w lines Q :=
  endsShowing_unseen hx ho hk

/-! ## Code that leaves it to its caller -/

/-- From every world the code ends with such a result, and has told nothing. -/
abbrev EndsQuietly {α : Type} (p : Server α) (Q : α → Prop) : Prop :=
  EndsUnseen server Request.terminalLine? p Q

/-- The code ends with something to tell the client, and has not told it. -/
abbrev Told (p : Server SmdResponseCode) : Prop :=
  EndsQuietly p fun r => responseLine r ≠ none

section EndsQuietly

variable {α β : Type} {Q : α → Prop} {Q' : β → Prop}

theorem endsQuietly_pure {a : α} (h : Q a) : EndsQuietly (pure a : Server α) Q :=
  fun _ => endsShowing_done h

theorem endsQuietly_bind {p : Server α} {f : α → Server β} (hp : EndsQuietly p Q)
    (hf : ∀ a, Q a → EndsQuietly (f a) Q') : EndsQuietly (p >>= f) Q' :=
  EndsUnseen.bind hp hf

theorem endsQuietly_ask {o : Request} {k : Answer o → Server β} (ho : o.terminalLine? = none)
    (hanswer : ∀ w, ∃ x w', handle o w = some (x, w')) (hk : ∀ x, EndsQuietly (k x) Q') :
    EndsQuietly (ask o >>= k) Q' :=
  endsUnseen_perform ho hanswer hk

theorem endsQuietly_ite {c : Prop} [Decidable c] {p q : Server α} (hp : EndsQuietly p Q)
    (hq : EndsQuietly q Q) : EndsQuietly (if c then p else q) Q := by
  split
  · exact hp
  · exact hq

theorem endsQuietly_of_unheard {p : Server α} (hp : Unheard p)
    (hends : ∀ w, ∃ a w', Runs server p w a w' ∧ Q a) : EndsQuietly p Q := by
  intro w
  obtain ⟨a, w', hrun, ha⟩ := hends w
  exact ⟨a, w', (tells_of_unheard hp).mpr ⟨hrun, rfl⟩, ha⟩

/-- A program that is not sent again. -/
theorem endsQuietly_sendModbusCommand {cmd : RegisterProgram} (honce : resentProgram cmd = none) :
    EndsQuietly (sendModbusCommand cmd) fun r => r = .commandSuccess ∨ r = .commandFailed := by
  apply endsQuietly_of_unheard (unheard_sendModbusCommand cmd)
  intro w
  have hrun : Runs server (sendModbusCommand cmd) w w.sendResult (w.afterSend cmd) :=
    (runs_sendOnce_iff honce).mpr ⟨rfl, rfl⟩
  exact ⟨_, _, hrun, runs_sendModbusCommand_result hrun⟩

theorem endsQuietly_returnModbusRegisters {registers : RegisterStrings}
    {readType : SmdRegisterReadType} {line : Text} :
    EndsQuietly (returnModbusRegisters registers 10 readType (-1) (some line) 128)
      fun _ => True := by
  apply endsQuietly_of_unheard (unheard_returnModbusRegisters _ _ _ _ _)
  intro w
  exact ⟨_, _, runs_returnModbusRegisters_iff.mpr ⟨rfl, rfl⟩, trivial⟩

theorem endsQuietly_convertStringToLongInt (str : Text) :
    EndsQuietly (convertStringToLongInt str) fun _ => True := by
  apply endsQuietly_of_unheard (unheard_of_serves (serves_convertStringToLongInt str))
  intro w
  exact ⟨_, _, runs_convertStringToLongInt_iff.mpr ⟨rfl, rfl⟩, trivial⟩

/-- A line of an upload is not an answer. -/
theorem endsQuietly_writeToClient {cl : Int} {message : Text} (h : IsProgress message) :
    EndsQuietly (writeToClient cl message) fun _ => True := by
  have hunseen : (Request.writeClient cl message).terminalLine? = none := if_pos h
  apply endsQuietly_ask hunseen fun w => ⟨_, _, rfl⟩
  intro answer
  cases answer with
  | none => exact endsQuietly_pure trivial
  | some e => exact endsQuietly_ask rfl (fun w => ⟨_, _, rfl⟩) fun _ => endsQuietly_pure trivial

theorem endsQuietly_smdCloseCommandConnection :
    EndsQuietly smdCloseCommandConnection fun _ => True := by
  apply endsQuietly_ask rfl fun w => ⟨_, _, rfl⟩
  intro g
  cases g.smdCommandConnection with
  | none => exact endsQuietly_pure trivial
  | some ctx =>
      apply endsQuietly_ite _ (endsQuietly_pure trivial)
      apply endsQuietly_ask rfl fun w => ⟨_, _, rfl⟩
      intro _
      apply endsQuietly_ask rfl fun w => ⟨_, _, rfl⟩
      intro _
      apply endsQuietly_ask rfl fun w => ⟨_, _, rfl⟩
      intro _
      apply endsQuietly_ask rfl fun w => ⟨_, _, rfl⟩
      intro _
      apply endsQuietly_ask rfl fun w => ⟨_, _, rfl⟩
      intro _
      apply endsQuietly_ask rfl fun w => ⟨_, _, rfl⟩
      intro _
      exact endsQuietly_ask rfl (fun w => ⟨_, _, rfl⟩) fun _ => endsQuietly_pure trivial

end EndsQuietly

/-! ## Commands -/

section Told

variable {input : Text}

theorem told_pure {code : SmdResponseCode} (h : responseLine code ≠ none) :
    Told (pure code) :=
  endsQuietly_pure h

/-- A check that refuses the message. -/
theorem told_guard {c : Prop} [Decidable c] {p : Server SmdResponseCode} (hp : Told p) :
    Told (if c then pure .invalidParameter else p) :=
  endsQuietly_ite (told_pure (by simp [responseLine])) hp

theorem told_sendModbusCommand {cmd : RegisterProgram} (honce : resentProgram cmd = none) :
    Told (sendModbusCommand cmd) := by
  intro w
  obtain ⟨r, w', htells, hr⟩ := endsQuietly_sendModbusCommand honce w
  refine ⟨r, w', htells, ?_⟩
  rcases hr with rfl | rfl <;> simp [responseLine]

theorem told_sendAnd {cmd : RegisterProgram} {success failure : SmdResponseCode}
    (honce : resentProgram cmd = none) (hsuccess : responseLine success ≠ none)
    (hfailure : responseLine failure ≠ none) : Told (sendAnd cmd success failure) := by
  apply endsQuietly_bind (endsQuietly_sendModbusCommand honce)
  intro response _
  exact endsQuietly_ite (told_pure hsuccess) (told_pure hfailure)

theorem told_conversion {str : Text} {k : Int → Server SmdResponseCode}
    (hk : ∀ n, Told (k n)) : Told (convertStringToLongInt str >>= k) :=
  endsQuietly_bind (endsQuietly_convertStringToLongInt str) fun n _ => hk n

theorem told_withTokens {n : Nat} {f : Tokenized → Server SmdResponseCode}
    (hf : ∀ tokens, Told (f tokens)) : Told (withTokens input n f) :=
  told_guard (told_guard (hf _))

theorem told_smdJog {direction accel decel jerk speed : Int} :
    Told (smdJog direction accel decel jerk speed) := by
  apply endsQuietly_ask rfl fun w => ⟨_, _, rfl⟩
  intro _
  exact told_guard (told_guard (told_sendModbusCommand rfl))

theorem told_smdSetConfiguration {controlWord configWord startingSpeed stepsPerTurn
    encPulsesPerTurn idleCurrentPercentage motorCurrent : Int} :
    Told (smdSetConfiguration controlWord configWord startingSpeed stepsPerTurn
      encPulsesPerTurn idleCurrentPercentage motorCurrent) :=
  told_guard (told_sendAnd rfl (by simp [responseLine]) (by simp [responseLine]))

theorem told_smdRunAssembledMove {direction dwellTime : Int}
    {moveType : SmdAssembledMoveType} :
    Told (smdRunAssembledMove direction dwellTime moveType) := by
  have hinvalid : Told (pure .invalidParameter) := told_pure (by simp [responseLine])
  apply endsQuietly_ask rfl fun w => ⟨_, _, rfl⟩
  intro g
  apply endsQuietly_ite (told_sendModbusCommand rfl)
  exact endsQuietly_ite (endsQuietly_ite (told_sendModbusCommand rfl) hinvalid) hinvalid

theorem told_jogIn (direction : Int) : Told (jogIn direction input) := by
  apply told_withTokens
  intro tokens
  apply told_conversion fun accel => told_conversion fun decel => ?_
  exact told_conversion fun jerk => told_conversion fun speed => told_smdJog

theorem told_findHomeIn (direction : Int) : Told (findHomeIn direction input) := by
  apply told_withTokens
  intro tokens
  apply told_conversion fun speed => told_conversion fun accel => ?_
  apply told_conversion fun decel => told_conversion fun jerk => ?_
  exact told_guard (told_guard (told_sendModbusCommand rfl))

theorem told_handleSaveConfig : Told (handleSaveConfig input) := by
  apply told_withTokens
  intro tokens
  apply told_conversion fun controlWord => told_conversion fun configWord => ?_
  apply told_conversion fun startingSpeed => told_conversion fun stepsPerTurn => ?_
  apply told_conversion fun encPulsesPerTurn => told_conversion fun idle => ?_
  exact told_conversion fun motorCurrent => told_smdSetConfiguration

theorem told_handleRelativeMove : Told (handleRelativeMove input) := by
  apply told_withTokens
  intro tokens
  apply told_conversion fun relPos => told_conversion fun accel => ?_
  apply told_conversion fun decel => told_conversion fun jerk => ?_
  apply told_conversion fun speed => ?_
  exact told_guard (told_guard (told_sendModbusCommand rfl))

theorem told_handlePresetMotorPosition : Told (handlePresetMotorPosition input) := by
  apply told_withTokens
  intro tokens
  apply told_conversion fun pos => told_guard ?_
  exact told_sendAnd rfl (by simp [responseLine]) (by simp [responseLine])

theorem told_handlePresetEncoderPosition : Told (handlePresetEncoderPosition input) := by
  apply told_withTokens
  intro tokens
  apply told_conversion fun pos => told_guard ?_
  exact told_sendAnd rfl (by simp [responseLine]) (by simp [responseLine])

theorem told_handleRunAssembledDwellMove : Told (handleRunAssembledDwellMove input) :=
  told_withTokens fun _ => told_conversion fun _ => told_guard told_smdRunAssembledMove

theorem told_handleRunAssembledBlendMove : Told (handleRunAssembledBlendMove input) :=
  told_withTokens fun _ => told_conversion fun _ => told_guard told_smdRunAssembledMove

theorem told_smdResetErrors : Told smdResetErrors :=
  told_sendModbusCommand rfl

theorem told_startManualMode :
    Told (assign (.statusManualModeEnable 1) >>= fun _ => smdSetManualMode) := by
  apply endsQuietly_ask rfl fun w => ⟨_, _, rfl⟩
  intro _
  apply endsQuietly_ask rfl fun w => ⟨_, _, rfl⟩
  intro created
  apply endsQuietly_ite (told_pure (by simp [responseLine]))
  exact endsQuietly_ask rfl (fun w => ⟨_, _, rfl⟩) fun _ => told_pure (by simp [responseLine])

theorem told_smdOpenCommandConnection : Told smdOpenCommandConnection := by
  apply endsQuietly_ask rfl fun w => ⟨_, _, rfl⟩
  intro ctx
  apply endsQuietly_ask rfl fun w => ⟨_, _, rfl⟩
  intro _
  apply endsQuietly_ask rfl fun w => ⟨_, _, handle_deviceIp w⟩
  intro ip
  -- refused or not, the client is told which
  have hanswer : ∀ connected : Bool, Told (if !connected then do
      let e ← modbusErrno ctx
      setErrno e
      modbusFree ctx
      assign (.smdConnected 0)
      pure SmdResponseCode.noRouteToHost
    else do
      assign (.smdConnected 1)
      pure SmdResponseCode.connectSuccess) := by
    intro connected
    apply endsQuietly_ite
    · apply endsQuietly_ask rfl fun w => ⟨_, _, rfl⟩
      intro e
      apply endsQuietly_ask rfl fun w => ⟨_, _, rfl⟩
      intro _
      apply endsQuietly_ask rfl fun w => ⟨_, _, rfl⟩
      intro _
      exact endsQuietly_ask rfl (fun w => ⟨_, _, rfl⟩) fun _ => told_pure (by simp [responseLine])
    · exact endsQuietly_ask rfl (fun w => ⟨_, _, rfl⟩) fun _ => told_pure (by simp [responseLine])
  exact endsQuietly_ite (hanswer false) (endsQuietly_ask rfl (fun w => ⟨_, _, rfl⟩) hanswer)

end Told

/-! ## The upload loop -/

/-- A part of a line up to the counter, which the limit leaves alone. -/
theorem isProgress_segmentAcceptedMessage (i numSegments : Nat) :
    IsProgress (segmentAcceptedMessage i numSegments) := by
  unfold IsProgress segmentAcceptedMessage snprintf
  rw [List.prefix_take_iff]
  constructor
  · simp only [List.append_assoc]
    exact List.prefix_append _ _
  · decide

theorem endsQuietly_uploadSegments (numSegments : Nat) (cl : Int) (i : Nat)
    (segments : List AssembledMoveSegment) :
    EndsQuietly (uploadSegments numSegments cl i segments) fun _ => True := by
  -- each segment in turn; only an accepted one has a line written
  induction segments generalizing i with
  | nil => exact endsQuietly_pure trivial
  | cons s rest ih =>
      apply endsQuietly_bind (endsQuietly_sendModbusCommand rfl)
      intro _ _
      apply endsQuietly_ask rfl fun w => ⟨_, _, rfl⟩
      intro _
      apply endsQuietly_ask rfl fun w => ⟨_, _, rfl⟩
      intro stack
      apply endsQuietly_bind endsQuietly_returnModbusRegisters
      intro reply _
      apply endsQuietly_ask rfl fun w => ⟨_, _, rfl⟩
      intro _
      apply endsQuietly_ite (endsQuietly_pure trivial)
      apply endsQuietly_ite _ (endsQuietly_pure trivial)
      apply endsQuietly_bind (endsQuietly_sendModbusCommand rfl)
      intro prepared _
      apply endsQuietly_ite _ (endsQuietly_pure trivial)
      apply endsQuietly_ask rfl fun w => ⟨_, _, rfl⟩
      intro _
      apply endsQuietly_bind endsQuietly_returnModbusRegisters
      intro reply _
      apply endsQuietly_ite (endsQuietly_pure trivial)
      apply endsQuietly_ite _ (ih _)
      -- the line is one of progress
      exact endsQuietly_bind (endsQuietly_writeToClient (isProgress_segmentAcceptedMessage _ _))
        fun _ _ => ih _

/-! ## What follows the dispatch -/

theorem not_isProgress_responseLine (r : SmdResponseCode) :
    ∀ line ∈ responseLine r, ¬ IsProgress line := by
  cases r <;> decide

/-- One terminal line is written, and what follows it tells nothing more. -/
theorem endsTelling_line {α : Type} {cl : Int} {line : Text} (h : ¬ IsProgress line)
    {k : Option Int → Server α} {Q : α → Prop} (hk : ∀ answer, EndsQuietly (k answer) Q)
    {w : World} : EndsTelling (writeClient cl line >>= k) w [(cl, line)] Q := by
  have hseen : (Request.writeClient cl line).terminalLine? = some (cl, line) := if_neg h
  have hwrite : EndsTelling (writeClient cl line >>= k) w
      ((Request.writeClient cl line).terminalLine?.toList ++ []) Q :=
    endsShowing_perform rfl (hk w.clientWrites.head _)
  rw [hseen] at hwrite
  exact hwrite

theorem endsTelling_writeToClient {α : Type} {cl : Int} {line : Text}
    (h : ¬ IsProgress line) {k : Int → Server α} {Q : α → Prop} (hk : ∀ n, EndsQuietly (k n) Q)
    (w : World) : EndsTelling (writeToClient cl line >>= k) w [(cl, line)] Q := by
  apply endsTelling_line h
  intro answer
  cases answer with
  | none => exact hk 0
  | some e => exact endsQuietly_ask rfl (fun w => ⟨_, _, rfl⟩) fun _ => hk (-1)

/-- The line for the response code is written, if there is one. -/
theorem endsTelling_tellResponse (r : SmdResponseCode) (cl : Int) (w : World) :
    EndsTelling (tellResponse r cl) w ((responseLine r).toList.map fun line => (cl, line))
      fun _ => True := by
  unfold tellResponse
  cases hr : responseLine r with
  | none => exact endsShowing_done trivial
  | some line =>
      apply endsTelling_writeToClient (not_isProgress_responseLine r line hr)
      intro written
      apply endsQuietly_ite _ (endsQuietly_pure trivial)
      exact endsQuietly_ask rfl (fun w => ⟨_, _, rfl⟩) fun _ => endsQuietly_pure trivial

theorem exists_tells_answerClient (r : SmdResponseCode) (cl : Int) (w : World) :
    ∃ w', Tells (answerClient r cl) w () w'
      ((responseLine r).toList.map fun line => (cl, line)) := by
  have hanswer : EndsTelling (answerClient r cl) w
      ((responseLine r).toList.map fun line => (cl, line)) fun _ => True := by
    rw [answerClient_eq]
    refine endsShowing_ite ?_ (endsTelling_tellResponse r cl w)
    exact endsTelling_ask rfl rfl (endsTelling_tellResponse r cl _)
  obtain ⟨_, w', htells, _⟩ := hanswer
  exact ⟨w', htells⟩

end SmdControlServer
