import SmdControlServer.Commands.Codes
import SmdControlServer.Server.Iteration

/-!
# Refusals

A message that is refused has changed nothing: the checks of a command stand before
its program and before its assignments, and whatever comes after them is reported
with other codes.
-/

namespace SmdControlServer

open CString Interaction

/-- The code of a message that is not carried out. -/
def SmdResponseCode.Refuses (code : SmdResponseCode) : Prop :=
  code = .invalidInput ∨ code = .invalidParameter

instance (code : SmdResponseCode) : Decidable code.Refuses :=
  inferInstanceAs (Decidable (_ ∨ _))

/-- Between the two worlds no register was written and no global assigned. -/
def World.SameDrive (w w' : World) : Prop :=
  registerWrites (newEvents w w') = [] ∧ w'.globals = w.globals

/-- Where the code refuses, it has written no register and assigned no global. -/
def RefusesCleanly (p : Server SmdResponseCode) : Prop :=
  ∀ w r w', Runs server p w r w' → r.Refuses → w.SameDrive w'

section RefusesCleanly

variable {input : Text} {cl : Int}

theorem refusesCleanly_pure (code : SmdResponseCode) : RefusesCleanly (pure code) := by
  intro w r w' hrun _
  obtain ⟨_, rfl⟩ := runs_done_iff.mp hrun
  exact ⟨by simp [newEvents], rfl⟩

/-- Code that never refuses refuses cleanly. -/
theorem refusesCleanly_of_returns {codes : List SmdResponseCode} {p : Server SmdResponseCode}
    (hp : ReturnsOneOf codes p) (h : ∀ code ∈ codes, ¬ code.Refuses) : RefusesCleanly p := by
  intro w r w' hrun hr
  exact absurd hr (h r (hrun.returns hp))

theorem refusesCleanly_ite {c : Prop} [Decidable c] {p q : Server SmdResponseCode}
    (hp : RefusesCleanly p) (hq : RefusesCleanly q) :
    RefusesCleanly (if c then p else q) := by
  split
  · exact hp
  · exact hq

theorem ParameterCommand.not_refuses_outcome (c : ParameterCommand) :
    ¬ c.outcome.1.Refuses ∧ ¬ c.outcome.2.Refuses := by
  cases c <;> decide

theorem refusesCleanly_of_decides {p : Server SmdResponseCode} {c : ParameterCommand}
    (h : ∀ w, Decides p w (c.decision w.globals.statusTypeAssembledMove w.latch input)) :
    RefusesCleanly p := by
  intro w r w' hrun hr
  obtain ⟨w₁, hprepares, hruns⟩ := h w
  rw [hruns] at hrun
  rcases c.decision_cases w.globals.statusTypeAssembledMove w.latch input with hd | ⟨cmd, hd⟩
  · rw [hd] at hrun
    obtain ⟨_, rfl⟩ := runs_done_iff.mp hrun
    refine ⟨?_, ?_⟩
    · rw [hprepares.registerWrites_eq (World.Extends.refl _)]
      simp [newEvents]
    · obtain ⟨errno, perrors, notes, rfl⟩ := hprepares
      rfl
  · rw [hd] at hrun
    obtain ⟨hsuccess, hfailure⟩ := c.not_refuses_outcome
    rcases runs_sendAnd_iff.mp hrun with ⟨_, rfl⟩ | ⟨_, rfl⟩
    · exact absurd hr hsuccess
    · exact absurd hr hfailure

theorem refusesCleanly_sendModbusCommand (cmd : RegisterProgram) :
    RefusesCleanly (sendModbusCommand cmd) :=
  refusesCleanly_of_returns (returns_sendModbusCommand cmd) (by decide)

theorem refusesCleanly_sendAnd (cmd : RegisterProgram) {success failure : SmdResponseCode}
    (hsuccess : ¬ success.Refuses) (hfailure : ¬ failure.Refuses) :
    RefusesCleanly (sendAnd cmd success failure) :=
  refusesCleanly_of_returns (returns_sendAnd cmd success failure) (by simp [hsuccess, hfailure])

theorem refusesCleanly_smdReadRegisters (readType : SmdRegisterReadType) :
    RefusesCleanly (smdReadRegisters readType cl) :=
  refusesCleanly_of_returns (returns_smdReadRegisters readType cl) (by decide)

theorem refusesCleanly_handleConnect : RefusesCleanly (handleConnect input) := by
  apply refusesCleanly_ite (refusesCleanly_pure _)
  apply refusesCleanly_ite (refusesCleanly_pure _)
  -- what follows the guard is not refused any more
  have hconnects : ReturnsOneOf [.noRouteToHost, .connectSuccess]
      (if ((tokenizeClientInput input 2).token 1).length = 0 then
        abort .outOfBounds
      else do
        assign (.deviceIp (some (deviceIpOf ((tokenizeClientInput input 2).token 1))))
        smdOpenCommandConnection) := by
    apply returns_ite returns_abort
    exact returns_bind _ fun _ => returns_smdOpenCommandConnection
  exact refusesCleanly_of_returns hconnects (by decide)

theorem refusesCleanly_parseScenario1 : RefusesCleanly (parseScenario1 input cl) := by
  -- the branches in the order of the dispatcher
  apply refusesCleanly_ite (refusesCleanly_of_decides fun _ => decides_handleJog)
  apply refusesCleanly_ite (refusesCleanly_of_decides fun _ => decides_handleFindHome)
  apply refusesCleanly_ite
  · have hdisconnects : ReturnsOneOf [.disconnectSuccess]
        (smdCloseCommandConnection >>= fun _ => pure .disconnectSuccess) :=
      returns_bind _ fun _ => returns_pure (by simp)
    exact refusesCleanly_of_returns hdisconnects (by decide)
  apply refusesCleanly_ite (refusesCleanly_of_decides fun _ => decides_handleSaveConfig)
  apply refusesCleanly_ite (refusesCleanly_of_decides fun _ => decides_handleRelativeMove)
  apply refusesCleanly_ite (refusesCleanly_sendAnd _ (by decide) (by decide))
  apply refusesCleanly_ite (refusesCleanly_sendAnd _ (by decide) (by decide))
  apply refusesCleanly_ite
  · have hholds := returns_bind (note .smdHoldMove) fun _ =>
      returns_sendModbusCommand holdMoveProgram
    exact refusesCleanly_of_returns hholds (by decide)
  apply refusesCleanly_ite (refusesCleanly_sendModbusCommand _)
  apply refusesCleanly_ite (refusesCleanly_sendModbusCommand _)
  apply refusesCleanly_ite (refusesCleanly_smdReadRegisters _)
  apply refusesCleanly_ite (refusesCleanly_sendAnd _ (by decide) (by decide))
  apply refusesCleanly_ite (refusesCleanly_smdReadRegisters _)
  apply refusesCleanly_ite (refusesCleanly_of_decides fun _ => decides_handlePresetMotorPosition)
  apply refusesCleanly_ite
    (refusesCleanly_of_decides fun _ => decides_handlePresetEncoderPosition)
  apply refusesCleanly_ite
    (refusesCleanly_of_returns returns_smdProgramAssembledMove (by decide))
  apply refusesCleanly_ite
    (refusesCleanly_of_decides fun _ => decides_handleRunAssembledDwellMove)
  apply refusesCleanly_ite
    (refusesCleanly_of_decides fun _ => decides_handleRunAssembledBlendMove)
  apply refusesCleanly_ite
    (refusesCleanly_of_returns returns_startManualMode (by decide))
  exact refusesCleanly_pure _

theorem refusesCleanly_parseScenario2 : RefusesCleanly (parseScenario2 input cl) := by
  apply refusesCleanly_ite
    (refusesCleanly_of_returns returns_handleStopManualMode (by decide))
  apply refusesCleanly_ite (refusesCleanly_sendModbusCommand _)
  apply refusesCleanly_ite (refusesCleanly_smdReadRegisters _)
  exact refusesCleanly_pure _

theorem refusesCleanly_parseSocketInput : RefusesCleanly (parseSocketInput input cl) := by
  intro w r w' hrun hr
  have hscenarios : RefusesCleanly (dispatchIn w.globals input cl) := by
    unfold dispatchIn
    apply refusesCleanly_ite
    · exact refusesCleanly_ite refusesCleanly_handleConnect (refusesCleanly_pure _)
    apply refusesCleanly_ite refusesCleanly_parseScenario1
    apply refusesCleanly_ite refusesCleanly_parseScenario2
    apply refusesCleanly_ite
    · exact refusesCleanly_of_returns (returns_parseScenario3 input cl) (by decide)
    · exact refusesCleanly_pure _
  exact hscenarios w r w' (runs_globals.mp hrun) hr

/-! ## The answer -/

/-- Telling the client of a refusal changes nothing either. -/
theorem sameDrive_answerClient {w w' : World} {r : SmdResponseCode} (hr : r.Refuses)
    (hrun : Runs server (answerClient r cl) w () w') : w.SameDrive w' := by
  have hsame : ∀ es : List Event, registerWrites es = [] → w'.log = w.log ++ es →
      w'.globals = w.globals → w.SameDrive w' := by
    intro es hes hlog hglobals
    exact ⟨by rw [newEvents_of_log es hlog, hes], hglobals⟩
  cases hwrite : w.clientWrites.head with
  | none =>
      rcases hr with rfl | rfl
      · simp [answerClient, tellResponse, responseLine, writeToClient, hwrite,
          World.afterClientWrite] at hrun
        subst hrun
        exact hsame [.clientWritten cl _, .clientClosed cl] rfl rfl rfl
      · simp [answerClient, tellResponse, responseLine, writeToClient, hwrite,
          World.afterClientWrite] at hrun
        subst hrun
        exact hsame [.clientWritten cl _] rfl rfl rfl
  | some e =>
      rcases hr with rfl | rfl
      · simp [answerClient, tellResponse, responseLine, writeToClient, hwrite,
          World.afterClientWrite] at hrun
        subst hrun
        exact hsame [] rfl (by simp) rfl
      · simp [answerClient, tellResponse, responseLine, writeToClient, hwrite,
          World.afterClientWrite] at hrun
        subst hrun
        exact hsame [] rfl (by simp) rfl

theorem World.SameDrive.trans {w w₁ w' : World} (h : w.SameDrive w₁) (h' : w₁.SameDrive w')
    (hextends : w.Extends w₁) (hextends' : w₁.Extends w') : w.SameDrive w' := by
  obtain ⟨es, hes⟩ := hextends.log
  obtain ⟨es', hes'⟩ := hextends'.log
  have hlog : w'.log = w.log ++ (es ++ es') := by
    rw [← hes', ← hes, List.append_assoc]
  have hfirst := h.1
  have hsecond := h'.1
  rw [newEvents_of_log es hes.symm] at hfirst
  rw [newEvents_of_log es' hes'.symm] at hsecond
  refine ⟨?_, h'.2.trans h.2⟩
  rw [newEvents_of_log _ hlog, registerWrites_append, hfirst, hsecond]
  rfl

/-- Handling a message whose dispatch returns a refusal writes no register and leaves
every global as it is. -/
theorem refused_message_unchanged {w w' : World} {r : SmdResponseCode} (hr : r.Refuses)
    (hreturned : ∃ w₁, Runs server (parseSocketInput input cl)
      (w.recordAll [.noted (.message input)]) r w₁)
    (hrun : Runs server (parseSmdResponseToClientInput input cl) w () w') :
    registerWrites (newEvents w w') = [] ∧ w'.globals = w.globals := by
  obtain ⟨w₁, hparsed⟩ := hreturned
  obtain ⟨r', w₁', hparse, hanswer⟩ := runs_parseSmdResponseToClientInput_iff.mp hrun
  obtain ⟨rfl, rfl⟩ := hparsed.unique hparse
  have hnoted : w.SameDrive (w.recordAll [.noted (.message input)]) :=
    ⟨by rw [newEvents_of_log _ rfl]; rfl, rfl⟩
  have hextends : w.Extends (w.recordAll [.noted (.message input)]) :=
    World.extends_of_log _ rfl rfl
  have hrefused := refusesCleanly_parseSocketInput _ _ _ hparse hr
  have htold := sameDrive_answerClient hr hanswer
  have hboth := hrefused.trans htold (extends_of_runs hparse) (extends_of_runs hanswer)
  exact hnoted.trans hboth hextends
    ((extends_of_runs hparse).trans (extends_of_runs hanswer))

end RefusesCleanly

/-- A jog of too many tokens is refused, in a world where a jog would be sent. -/
theorem refused_jog_unchanged :
    ∃ w', Runs server (parseSmdResponseToClientInput "jogCW,1,1,0,1,1\n".toList 5)
        World.ready () w' ∧
      registerWrites (newEvents World.ready w') = [] ∧
      w'.globals = World.ready.globals := by
  have hparse : (eval server 0 (parseSocketInput "jogCW,1,1,0,1,1\n".toList 5)
      (World.ready.recordAll [.noted (.message "jogCW,1,1,0,1,1\n".toList)])).map Prod.fst =
        some .invalidParameter := by
    decide +kernel
  obtain ⟨r, w₁, hreturned, hr⟩ := exists_runs_of_eval hparse
  have hhandled : (eval server 0
      (parseSmdResponseToClientInput "jogCW,1,1,0,1,1\n".toList 5) World.ready).map
        (fun _ => true) = some true := by
    decide +kernel
  obtain ⟨_, w', hrun, _⟩ := exists_runs_of_eval hhandled
  exact ⟨w', hrun, refused_message_unchanged (Or.inr hr) ⟨w₁, hreturned⟩ hrun⟩

end SmdControlServer
