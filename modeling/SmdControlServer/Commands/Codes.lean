import SmdControlServer.Commands.Programs

/-!
# What the commands return

The response codes that each command can come to.  What is said about a command's
report is read off them.
-/

namespace SmdControlServer

open CString Interaction

/-- Every result is one of these codes. -/
abbrev ReturnsOneOf (codes : List SmdResponseCode) (p : Server SmdResponseCode) : Prop :=
  p.Returns (· ∈ codes)

section ReturnsOneOf

variable {codes : List SmdResponseCode}

theorem returns_pure {code : SmdResponseCode} (h : code ∈ codes) :
    ReturnsOneOf codes (pure code) := h

theorem returns_bind {α : Type} (p : Server α) {f : α → Server SmdResponseCode}
    (hf : ∀ a, ReturnsOneOf codes (f a)) : ReturnsOneOf codes (p >>= f) :=
  Program.Returns.bind p hf

theorem returns_ite {c : Prop} [Decidable c] {p q : Server SmdResponseCode}
    (hp : ReturnsOneOf codes p) (hq : ReturnsOneOf codes q) :
    ReturnsOneOf codes (if c then p else q) := by
  split
  · exact hp
  · exact hq

theorem returns_abort {fault : Fault} : ReturnsOneOf codes (abort fault) :=
  fun x => x.elim

/-- Of the codes of a function, those of its caller are some. -/
theorem returns_of_subset {codes' : List SmdResponseCode} {p : Server SmdResponseCode}
    (hp : ReturnsOneOf codes' p) (h : ∀ code ∈ codes', code ∈ codes) : ReturnsOneOf codes p :=
  hp.mono h

/-! ## Sending and reading -/

theorem returns_sendModbusCommand (cmd : RegisterProgram) :
    ReturnsOneOf [.commandSuccess, .commandFailed] (sendModbusCommand cmd) := by
  have hfailed : ReturnsOneOf [.commandSuccess, .commandFailed] (pure .commandFailed) :=
    returns_pure (by simp)
  unfold sendModbusCommand
  apply returns_bind
  intro created
  apply returns_ite hfailed
  unfold sendModbusCommandWorker
  apply returns_bind
  intro ctx
  apply returns_bind
  intro ip
  -- with no DEVICE_IP nothing is connected, and the worker goes on as after a refusal
  have hworker : ∀ connected, ReturnsOneOf [.commandSuccess, .commandFailed] (if !connected then do
      modbusClose ctx
      modbusFree ctx
      let errno ← modbusErrno ctx
      if errno = ebadf then
        resendStop cmd.commandName
      pure SmdResponseCode.commandFailed
    else do
      let _ ← writeRegisters ctx 0 cmd.writes none
      modbusClose ctx
      modbusFree ctx
      pure SmdResponseCode.commandSuccess) := by
    intro connected
    apply returns_ite
    · apply returns_bind _ fun _ => returns_bind _ fun _ => returns_bind _ fun _ => ?_
      exact returns_ite (returns_bind _ fun _ => hfailed) hfailed
    · refine returns_bind _ fun _ => returns_bind _ fun _ => returns_bind _ fun _ => ?_
      exact returns_pure (by simp)
  exact returns_ite (hworker false) fun connected => hworker connected

theorem returns_sendAnd (cmd : RegisterProgram) (success failure : SmdResponseCode) :
    ReturnsOneOf [success, failure] (sendAnd cmd success failure) := by
  apply returns_bind
  intro response
  exact returns_ite (returns_pure (by simp)) (returns_pure (by simp))

theorem returns_smdReadRegisters (readType : SmdRegisterReadType) (cl : Int) :
    ReturnsOneOf [.commandFailed, .handledByClient] (smdReadRegisters readType cl) := by
  refine returns_bind _ fun stack => returns_bind _ fun reply => ?_
  exact returns_ite (returns_pure (by simp)) (returns_pure (by simp))

/-! ## The other commands -/

theorem returns_smdProgramAssembledMove :
    ReturnsOneOf [.readyForAssembledMove, .commandFailed] smdProgramAssembledMove := by
  apply returns_bind
  intro response
  apply returns_ite (returns_pure (by simp))
  exact returns_bind _ fun _ => returns_pure (by simp)

theorem returns_smdOpenCommandConnection :
    ReturnsOneOf [.noRouteToHost, .connectSuccess] smdOpenCommandConnection := by
  refine returns_bind _ fun ctx => returns_bind _ fun _ => returns_bind _ fun ip => ?_
  have hrefused : ReturnsOneOf [.noRouteToHost, .connectSuccess] (do
      let e ← modbusErrno ctx
      setErrno e
      modbusFree ctx
      assign (.smdConnected 0)
      pure .noRouteToHost) := by
    refine returns_bind _ fun _ => returns_bind _ fun _ => returns_bind _ fun _ => ?_
    exact returns_bind _ fun _ => returns_pure (by simp)
  have hopened : ReturnsOneOf [.noRouteToHost, .connectSuccess] (do
      assign (.smdConnected 1)
      pure .connectSuccess) :=
    returns_bind _ fun _ => returns_pure (by simp)
  exact returns_ite hrefused fun _ => returns_ite hrefused hopened

theorem returns_handleConnect (input : Text) :
    ReturnsOneOf [.invalidParameter, .noRouteToHost, .connectSuccess] (handleConnect input) := by
  apply returns_ite (returns_pure (by simp))
  apply returns_ite (returns_pure (by simp))
  apply returns_ite returns_abort
  apply returns_bind
  intro _
  exact returns_of_subset returns_smdOpenCommandConnection (by simp)

theorem returns_startManualMode :
    ReturnsOneOf [.commandSuccess, .commandFailed]
      (assign (.statusManualModeEnable 1) >>= fun _ => smdSetManualMode) := by
  refine returns_bind _ fun _ => returns_bind _ fun created => ?_
  apply returns_ite (returns_pure (by simp))
  exact returns_bind _ fun _ => returns_pure (by simp)

theorem returns_handleStopManualMode :
    ReturnsOneOf [.commandSuccess, .commandFailed] handleStopManualMode := by
  refine returns_bind _ fun _ => returns_bind _ fun response => ?_
  apply returns_ite
  · refine returns_bind _ fun _ => returns_bind _ fun _ => ?_
    exact returns_pure (by simp)
  · exact returns_bind _ fun _ => returns_pure (by simp)

theorem returns_parseScenario3 (input : Text) (cl : Int) :
    ReturnsOneOf [.assembledMoveAccepted, .commandFailed] (parseScenario3 input cl) := by
  apply returns_bind
  intro response
  apply returns_ite
  · exact returns_bind _ fun _ => returns_pure (by simp)
  · refine returns_bind _ fun _ => returns_bind _ fun _ => ?_
    exact returns_pure (by simp)

end ReturnsOneOf

end SmdControlServer
