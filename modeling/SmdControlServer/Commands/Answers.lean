import SmdControlServer.Commands.Errands
import SmdControlServer.Upload.Loaded

/-!
# One answer for each message

The tests of the dispatcher are gone through one after the other, each with the
condition under which what it selects is answered.
-/

namespace SmdControlServer

open CString Interaction

/-! ## The dispatcher -/

section dispatcher

variable {w : World} {cl : Int} {input : Text}

/-- The code answers as is to be expected of a message that asks for this. -/
def AnswersAs (w : World) (input : Text) (cl : Int) (e : Errand) (p : Server SmdResponseCode) :
    Prop :=
  e ≠ .disconnects → (AnsweredBy w cl e p ↔ w.Answers input cl e)

theorem answersAs_of_told {p : Server SmdResponseCode} (hp : Told p) :
    AnswersAs w input cl .other p :=
  fun _ => iff_of_true (answeredBy_of_told (hp w)) trivial

theorem answersAs_disconnects (p : Server SmdResponseCode) :
    AnswersAs w input cl .disconnects p :=
  fun h => absurd rfl h

theorem answersAs_ite {c : Prop} [Decidable c] {e e' : Errand} {p q : Server SmdResponseCode}
    (hp : AnswersAs w input cl e p) (hq : AnswersAs w input cl e' q) :
    AnswersAs w input cl (if c then e else e') (if c then p else q) := by
  split
  · exact hp
  · exact hq

/-- The tests of Scenario 1 one after the other. -/
theorem answersAs_parseScenario1 :
    AnswersAs w input cl (errandInScenario1 input) (parseScenario1 input cl) := by
  have hsend : ∀ {cmd : RegisterProgram} {success failure : SmdResponseCode},
      resentProgram cmd = none → responseLine success ≠ none → responseLine failure ≠ none →
        AnswersAs w input cl .other (sendAnd cmd success failure) :=
    fun honce hsuccess hfailure => answersAs_of_told (told_sendAnd honce hsuccess hfailure)
  apply answersAs_ite (answersAs_of_told (told_jogIn _))
  apply answersAs_ite (answersAs_of_told (told_findHomeIn _))
  apply answersAs_ite (answersAs_disconnects _)
  apply answersAs_ite (answersAs_of_told told_handleSaveConfig)
  apply answersAs_ite (answersAs_of_told told_handleRelativeMove)
  apply answersAs_ite (hsend rfl (by simp [responseLine]) (by simp [responseLine]))
  apply answersAs_ite (hsend rfl (by simp [responseLine]) (by simp [responseLine]))
  apply answersAs_ite fun _ => answeredBy_smdHoldMove_iff
  apply answersAs_ite fun _ => answeredBy_smdImmedStop_iff
  apply answersAs_ite (answersAs_of_told told_smdResetErrors)
  apply answersAs_ite fun _ => answeredBy_smdReadRegisters_iff
  apply answersAs_ite (hsend rfl (by simp [responseLine]) (by simp [responseLine]))
  apply answersAs_ite fun _ => answeredBy_smdReadRegisters_iff
  apply answersAs_ite (answersAs_of_told told_handlePresetMotorPosition)
  apply answersAs_ite (answersAs_of_told told_handlePresetEncoderPosition)
  apply answersAs_ite fun _ => answeredBy_smdProgramAssembledMove_iff
  apply answersAs_of_told
  apply endsQuietly_ite told_handleRunAssembledDwellMove
  apply endsQuietly_ite told_handleRunAssembledBlendMove
  exact endsQuietly_ite told_startManualMode (told_pure (by simp [responseLine]))

theorem answersAs_parseScenario2 :
    AnswersAs w input cl (errandInScenario2 input) (parseScenario2 input cl) := by
  apply answersAs_ite fun _ => answeredBy_handleStopManualMode_iff
  apply answersAs_ite (answersAs_of_told told_smdResetErrors)
  apply answersAs_ite fun _ => answeredBy_smdReadRegisters_iff
  exact answersAs_of_told (told_pure (by simp [responseLine]))

theorem answersAs_parseSocketInput :
    AnswersAs w input cl (w.globals.errand input) (parseSocketInput input cl) := by
  have hscenarios : AnswersAs w input cl (w.globals.errand input)
      (dispatchIn w.globals input cl) := by
    unfold dispatchIn
    apply answersAs_ite
    · apply answersAs_ite fun _ => answeredBy_handleConnect_iff
      exact answersAs_of_told (told_pure (by simp [responseLine]))
    · apply answersAs_ite answersAs_parseScenario1
      apply answersAs_ite answersAs_parseScenario2
      apply answersAs_ite fun _ => answeredBy_parseScenario3_iff
      exact answersAs_of_told (told_pure (by simp [responseLine]))
  intro hdisconnect
  exact (answeredBy_ask_iff rfl rfl).trans (hscenarios hdisconnect)

/-- Before the dispatch the message is noted, and nothing is told. -/
theorem answersOnce_iff_answeredBy :
    w.AnswersOnce input cl ↔
      AnsweredBy (w.recordAll [.noted (.message input)]) cl (w.globals.errand input)
        (parseSocketInput input cl) := by
  have hnote : AnsweredBy w cl (w.globals.errand input)
      (note (.message input) >>= fun _ => parseSocketInput input cl) ↔ _ :=
    answeredBy_ask_iff rfl rfl
  exact hnote

/-- A message is answered with one line when what it asks for can be answered. -/
theorem one_answer (hdisconnect : w.globals.errand input ≠ .disconnects) :
    w.AnswersOnce input cl ↔ w.Answers input cl (w.globals.errand input) :=
  answersOnce_iff_answeredBy.trans (answersAs_parseSocketInput hdisconnect)

end dispatcher

/-- The registers of a drive that can be reached are read for the client. -/
theorem read_answered :
    World.ready.globals.errand "readInputRegisters\n".toList ≠ .disconnects ∧
      World.ready.AnswersOnce "readInputRegisters\n".toList 5 := by
  have herrand : World.ready.globals.errand "readInputRegisters\n".toList =
      .reads .readInputRegisters := by decide +kernel
  have hdisconnect : World.ready.globals.errand "readInputRegisters\n".toList ≠
      .disconnects := by
    rw [herrand]
    decide
  refine ⟨hdisconnect, (one_answer hdisconnect).mpr ?_⟩
  rw [herrand]
  exact fun _ => ⟨Option.some_ne_none _, by decide⟩

/-- The line that asks for the input registers. -/
def readLine : Chunk := .ofLine "readInputRegisters".toList (by decide)

/-- A drive that takes connections and does not read. -/
def unreadableDrive : Stream' Session :=
  Stream'.const { Session.answering (fun _ => 0) with registers := none }

/-- What a failed read depends on, after a turn of the loop. -/
def readsUnread (s : Int × World) : Option Text × Bool × Bool × Bool :=
  (s.2.nextMessage,
    decide ((s.2.afterMessageRead s.1).globals.errand "readInputRegisters\n".toList =
      .reads .readInputRegisters),
    decide (s.2.afterMessageRead s.1).takeMemory.opens,
    (s.2.afterMessageRead s.1).drive.head.registers.isNone)

/-- A client connects and asks for registers that cannot be read, and is not answered. -/
theorem failed_read_unanswered :
    ∃ s : Int × World,
      ServerRun (fun _ => True) (5, World.started [connectLine, readLine] unreadableDrive) s ∧
        s.2.nextMessage = some "readInputRegisters\n".toList ∧
        (s.2.afterMessageRead s.1).globals.errand "readInputRegisters\n".toList ≠
          .disconnects ∧
        ¬ (s.2.afterMessageRead s.1).AnswersOnce "readInputRegisters\n".toList s.1 := by
  have hturn : (eval server 0
      (serverIteration 5) (World.started [connectLine, readLine] unreadableDrive)).map
        readsUnread = some (some "readInputRegisters\n".toList, true, true, true) := by
    decide +kernel
  obtain ⟨cl, w, hrun, hsees⟩ := exists_runs_of_eval hturn
  simp only [readsUnread, Prod.mk.injEq, decide_eq_true_eq, Option.isNone_iff_eq_none] at hsees
  obtain ⟨hmessage, herrand, hopens, hunread⟩ := hsees
  have hdisconnect : (w.afterMessageRead cl).globals.errand "readInputRegisters\n".toList ≠
      .disconnects := by
    rw [herrand]
    decide
  refine ⟨(cl, w), Relation.ReflTransGen.single ⟨trivial, hrun⟩, hmessage, hdisconnect, ?_⟩
  intro hanswers
  have hread : (w.afterMessageRead cl).Answers "readInputRegisters\n".toList cl
      ((w.afterMessageRead cl).globals.errand "readInputRegisters\n".toList) :=
    (answersOnce_iff_answeredBy.trans (answersAs_parseSocketInput hdisconnect)).mp hanswers
  rw [herrand] at hread
  exact (hread hopens).1 hunread

end SmdControlServer
