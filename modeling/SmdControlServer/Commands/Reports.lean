import SmdControlServer.Commands.Codes
import SmdControlServer.Drive.FailedWrites
import SmdControlServer.Server.Iteration

/-!
# What the client is told about a program

A success is told when the session of a program was opened, whatever became of
the single writes.  So what the client is told is true of a message exactly when
the session that opens for its program fails at none of its writes.
-/

namespace SmdControlServer

open CString Interaction

/-- Where the client is told of a success, every program that was sent on the way
was written completely. -/
def ReportsWritten (p : Server SmdResponseCode) (w : World) : Prop :=
  ∀ r w', Runs server p w r w' → r.TellsSuccess →
    ∀ cmd created, .threadStarted (.sendModbusCommand cmd) created ∈ newEvents w w' →
      WrittenCompletely cmd (newEvents w w')

/-! ## Events that say nothing of a program -/

/-- No write, and no session that opens. -/
structure Silent (events : List Event) : Prop where
  writes : registerWrites events = []
  connections : ∀ id, .contextConnected id true ∉ events

theorem Silent.append {es es' : List Event} (h : Silent es) (h' : Silent es') :
    Silent (es ++ es') where
  writes := by rw [registerWrites_append, h.writes, h'.writes, List.append_nil]
  connections := by
    intro id hid
    rcases List.mem_append.mp hid with hid | hid
    · exact h.connections id hid
    · exact h'.connections id hid

theorem silent_nil : Silent [] :=
  ⟨rfl, fun _ h => nomatch h⟩

/-- Silent events around others make no difference to what was written. -/
theorem writtenCompletely_silent_iff {cmd : RegisterProgram} {before after : List Event}
    (hbefore : Silent before) (hafter : Silent after) (es : List Event) :
    WrittenCompletely cmd (before ++ es ++ after) ↔ WrittenCompletely cmd es := by
  have hwrites : registerWrites (before ++ es ++ after) = registerWrites es := by
    simp [registerWrites_append, hbefore.writes, hafter.writes]
  have hconnected : ∀ id, .contextConnected id true ∈ before ++ es ++ after ↔
      .contextConnected id true ∈ es := by
    intro id
    simp only [List.mem_append]
    exact ⟨fun h => (h.resolve_right (hafter.connections id)).resolve_left
      (hbefore.connections id), fun h => Or.inl (Or.inr h)⟩
  unfold WrittenCompletely
  simp only [hwrites, hconnected]

/-- Silent events after others make no difference either. -/
theorem writtenCompletely_after_iff {cmd : RegisterProgram} {es : List Event} {w w₁ w' : World}
    (hextends : w.Extends w₁) (hes : Silent es) (hlog : w'.log = w₁.log ++ es) :
    WrittenCompletely cmd (newEvents w w') ↔ WrittenCompletely cmd (newEvents w w₁) := by
  obtain ⟨new, hnew⟩ := hextends.log
  have hlog' : w'.log = w.log ++ ([] ++ new ++ es) := by
    rw [hlog, ← hnew]
    simp
  rw [newEvents_of_log _ hlog', newEvents_of_log new hnew.symm]
  exact writtenCompletely_silent_iff silent_nil hes new

theorem not_writtenCompletely_of_silent {cmd : RegisterProgram} {es : List Event}
    (h : Silent es) : ¬ WrittenCompletely cmd es :=
  fun ⟨id, hid, _⟩ => h.connections id hid

theorem silent_notes (notes : List Note) : Silent (notes.map .noted) where
  writes := registerWrites_notes notes
  connections := by simp

/-! ## A report on one program -/

section

variable {w w₁ : World} {cmd : RegisterProgram}

/-- Notes around the events make no difference. -/
theorem writtenCompletely_notes_iff (before after : List Note) (es : List Event) :
    WrittenCompletely cmd (before.map .noted ++ es ++ after.map .noted) ↔
      WrittenCompletely cmd es :=
  writtenCompletely_silent_iff (silent_notes before) (silent_notes after) es

theorem threadStarted_afterWrites_iff {cmd' : RegisterProgram} {created : Bool} :
    .threadStarted (.sendModbusCommand cmd') created ∈ newEvents w (w.afterWrites cmd) ↔
      cmd' = cmd ∧ created = true := by
  rw [newEvents_afterWrites]
  constructor
  · intro h
    rcases List.mem_append.mp h with h | hclosing
    · rcases List.mem_append.mp h with hopening | hwrite
      · unfold openingEvents at hopening
        split at hopening <;> simpa using hopening
      · obtain ⟨_, _, _, heq⟩ := eq_registerWritten_of_mem_writeEvents hwrite
        cases heq
    · simp [closingEvents] at hclosing
  · rintro ⟨rfl, rfl⟩
    simp [openingEvents]

/-- The reports on a program are true exactly when the session that opens for it
fails at none of its writes.  The code may note things before and after, and tells
a success exactly when the send returns one. -/
theorem reportsWritten_iff {p : Server SmdResponseCode} (before : List Note)
    (hdrive : w₁.drive = w.drive) (hip : w₁.ip = w.ip)
    (hbefore : w₁.log = w.log ++ before.map .noted)
    (honly : ∀ r w', Runs server p w r w' → r.TellsSuccess →
      ∃ w₂, ∃ after : List Note,
        Runs server (sendModbusCommand cmd) w₁ .commandSuccess w₂ ∧
          w'.log = w₂.log ++ after.map .noted)
    (htold : ∀ w₂, Runs server (sendModbusCommand cmd) w₁ .commandSuccess w₂ →
      ∃ r w', ∃ after : List Note, Runs server p w r w' ∧ r.TellsSuccess ∧
        w'.log = w₂.log ++ after.map .noted) :
    ReportsWritten p w ↔ FailsAtNoWrite cmd w := by
  have hopens : w₁.opens ↔ w.opens := by
    unfold World.opens
    rw [hdrive, hip]
  -- around a session with all its writes stand notes, and nothing else
  have hevents : ∀ {w' : World} {after : List Note},
      w'.log = (w₁.afterWrites cmd).log ++ after.map .noted →
      newEvents w w' =
        before.map .noted ++ newEvents w₁ (w₁.afterWrites cmd) ++ after.map .noted := by
    intro w' after hafter
    apply newEvents_of_log
    have hlog : (w₁.afterWrites cmd).log =
        w₁.log ++ newEvents w₁ (w₁.afterWrites cmd) := by
      rw [newEvents_afterWrites]
      simp [World.afterWrites, World.afterSession]
    rw [hafter, hlog, hbefore]
    simp
  constructor
  · intro h hw i hi
    have hw₁ : w₁.opens := hopens.mpr hw
    obtain ⟨r, w', after, hrun, hr, hafter⟩ :=
      htold _ ((runs_sendModbusCommand_opens hw₁).mpr ⟨rfl, rfl⟩)
    have hwritten := h r w' hrun hr cmd true
    rw [hevents hafter, writtenCompletely_notes_iff,
      writtenCompletely_afterWrites_iff hw₁, hdrive] at hwritten
    refine hwritten ?_ i hi
    apply List.mem_append_left
    apply List.mem_append_right
    exact threadStarted_afterWrites_iff.mpr ⟨rfl, rfl⟩
  · intro h r w' hrun hr cmd' created hstarted
    obtain ⟨w₂, after, hsend, hafter⟩ := honly r w' hrun hr
    cases runs_sendModbusCommand_iff.mp hsend with
    | written hw₁ =>
        rw [hevents hafter] at hstarted ⊢
        -- the only thread that is started is the one of cmd
        have hcmd : cmd' = cmd := by
          rcases List.mem_append.mp hstarted with hstarted | hnoted
          · rcases List.mem_append.mp hstarted with hnoted | hstarted
            · simp at hnoted
            · exact (threadStarted_afterWrites_iff.mp hstarted).1
          · simp at hnoted
        subst hcmd
        rw [writtenCompletely_notes_iff, writtenCompletely_afterWrites_iff hw₁, hdrive]
        exact h (hopens.mp hw₁)

theorem reportsWritten_decides_iff {p : Server SmdResponseCode}
    {success failure : SmdResponseCode} (h : Decides p w (.sends cmd success failure))
    (hfair : (Decision.sends cmd success failure).Fair) :
    ReportsWritten p w ↔ FailsAtNoWrite cmd w := by
  obtain ⟨w₁, ⟨e, perrors, notes, rfl⟩, hruns⟩ := h
  obtain ⟨hsuccess, hfailure⟩ := hfair
  have hdrive : (w.prepared e perrors notes).drive = w.drive := rfl
  refine reportsWritten_iff notes hdrive rfl rfl ?_ ?_
  · intro r w' hrun hr
    rcases runs_sendAnd_iff.mp ((hruns r w').mp hrun) with ⟨hsend, _⟩ | ⟨_, rfl⟩
    · exact ⟨w', [], hsend, by simp⟩
    · exact absurd hr hfailure
  · intro w₂ hsend
    have hrun := (hruns success w₂).mpr (runs_sendAnd_iff.mpr (Or.inl ⟨hsend, rfl⟩))
    exact ⟨success, w₂, [], hrun, hsuccess, by simp⟩

theorem reportsWritten_refuses {p : Server SmdResponseCode} {code : SmdResponseCode}
    (h : Decides p w (.refuses code)) (hfair : (Decision.refuses code).Fair) :
    ReportsWritten p w := by
  obtain ⟨w₁, _, hruns⟩ := h
  intro r w' hrun hr
  obtain ⟨rfl, _⟩ := runs_done_iff.mp ((hruns r w').mp hrun)
  exact absurd hr hfair

end

/-! ## The messages -/

/-- The manual mode is on. -/
def World.InScenario2 (w : World) : Prop :=
  w.globals.smdConnected = 1 ∧ w.globals.statusWaitingForAssembledMove = 0 ∧
    w.globals.statusManualModeEnable = 1

/-- The program that a message is answered for: the one program that its command
decides to send, or the stop that ends the manual mode. -/
def MessageProgram (input : Text) (cl : Int) (w : World) (cmd : RegisterProgram) : Prop :=
  (∃ success failure, Decides (parseSocketInput input cl) w (.sends cmd success failure) ∧
      (Decision.sends cmd success failure).Fair) ∨
    (w.InScenario2 ∧ startsWith input "stopManualMode".toList = true ∧
      cmd = immediateStopProgram)

/-- The code comes to a fair decision, or tells no success of a program. -/
def Accounted (p : Server SmdResponseCode) : Prop :=
  ∀ w, (∃ d, Decides p w d ∧ d.Fair) ∨ ReportsWritten p w

section Accounted

theorem Settled.accounted {p : Server SmdResponseCode} (h : Settled p) : Accounted p :=
  fun w => Or.inl (h w)

theorem accounted_of_decides {p : Server SmdResponseCode} {c : ParameterCommand} {input : Text}
    (h : ∀ w, Decides p w (c.decision w.globals.statusTypeAssembledMove w.latch input)) :
    Accounted p :=
  (ParameterCommand.settled_of_decides h).accounted

theorem accounted_ite {c : Prop} [Decidable c] {p q : Server SmdResponseCode}
    (hp : Accounted p) (hq : Accounted q) : Accounted (if c then p else q) := by
  split
  · exact hp
  · exact hq

/-- The code ends in no code that tells a success. -/
abbrev NeverTells (p : Server SmdResponseCode) : Prop :=
  p.Returns fun r => ¬ SmdResponseCode.TellsSuccess r

theorem NeverTells.accounted {p : Server SmdResponseCode}
    (h : NeverTells p) : Accounted p :=
  fun _ => Or.inr fun _ _ hrun hr => absurd hr (hrun.returns h)

theorem neverTells_pure {code : SmdResponseCode} (h : ¬ code.TellsSuccess) :
    NeverTells (pure code) := h

theorem neverTells_bind {α : Type} (p : Server α) {f : α → Server SmdResponseCode}
    (hf : ∀ a, NeverTells (f a)) : NeverTells (p >>= f) :=
  Program.Returns.bind p hf

theorem neverTells_of_returns {codes : List SmdResponseCode} {p : Server SmdResponseCode}
    (hp : ReturnsOneOf codes p) (h : ∀ code ∈ codes, ¬ code.TellsSuccess) : NeverTells p :=
  hp.mono h

theorem neverTells_smdReadRegisters (readType : SmdRegisterReadType) (cl : Int) :
    NeverTells (smdReadRegisters readType cl) :=
  neverTells_of_returns (returns_smdReadRegisters readType cl) (by decide +kernel)

theorem neverTells_handleConnect (input : Text) : NeverTells (handleConnect input) :=
  neverTells_of_returns (returns_handleConnect input) (by decide +kernel)

theorem neverTells_parseScenario3 (input : Text) (cl : Int) :
    NeverTells (parseScenario3 input cl) :=
  neverTells_of_returns (returns_parseScenario3 input cl) (by decide +kernel)

/-- The manual mode is started without a program. -/
theorem accounted_startManualMode :
    Accounted (assign (.statusManualModeEnable 1) >>= fun _ => smdSetManualMode) := by
  intro w
  right
  intro r w' hrun hr cmd created hstarted
  have hlog : w'.log = w.log ++ [.threadStarted .manualModeController true,
      .noted .manualModeStarted] := by
    unfold smdSetManualMode at hrun
    simp only [Program.bind_eq_bind, Program.perform_bind, Program.done_bind, runs_assign,
      runs_pthreadCreate_controller] at hrun
    cases hcreated : w.controllerThreads.head with
    | false =>
        simp [hcreated] at hrun
        rw [hrun.1] at hr
        exact absurd hr (by decide)
    | true =>
        simp [hcreated] at hrun
        rw [hrun.2]
        simp
  rw [newEvents_of_log _ hlog] at hstarted
  simp at hstarted

theorem accounted_parseScenario1 (input : Text) (cl : Int) :
    Accounted (parseScenario1 input cl) := by
  refine accounted_ite (accounted_of_decides fun _ => decides_handleJog) ?_
  refine accounted_ite (accounted_of_decides fun _ => decides_handleFindHome) ?_
  refine accounted_ite (NeverTells.accounted ?_) ?_
  · exact neverTells_bind _ fun _ => neverTells_pure (by decide)
  refine accounted_ite (accounted_of_decides fun _ => decides_handleSaveConfig) ?_
  refine accounted_ite (accounted_of_decides fun _ => decides_handleRelativeMove) ?_
  refine accounted_ite (settled_sendAnd _ (by decide) (by decide)).accounted ?_
  refine accounted_ite (settled_sendAnd _ (by decide) (by decide)).accounted ?_
  refine accounted_ite settled_smdHoldMove.accounted ?_
  refine accounted_ite (settled_sendModbusCommand _).accounted ?_
  refine accounted_ite (settled_sendModbusCommand _).accounted ?_
  refine accounted_ite (neverTells_smdReadRegisters _ _).accounted ?_
  refine accounted_ite (settled_sendAnd _ (by decide) (by decide)).accounted ?_
  refine accounted_ite (neverTells_smdReadRegisters _ _).accounted ?_
  refine accounted_ite (accounted_of_decides fun _ => decides_handlePresetMotorPosition) ?_
  refine accounted_ite (accounted_of_decides fun _ => decides_handlePresetEncoderPosition) ?_
  refine accounted_ite (neverTells_of_returns returns_smdProgramAssembledMove
    (by decide +kernel)).accounted ?_
  refine accounted_ite (accounted_of_decides fun _ => decides_handleRunAssembledDwellMove) ?_
  refine accounted_ite (accounted_of_decides fun _ => decides_handleRunAssembledBlendMove) ?_
  exact accounted_ite accounted_startManualMode (settled_pure (by decide)).accounted

end Accounted

/-! ## The stop of the manual mode -/

theorem runs_handleStopManualMode_success {w w' : World} :
    (∃ r, Runs server handleStopManualMode w r w' ∧ r.TellsSuccess) ↔
      ∃ w₂, Runs server (sendModbusCommand immediateStopProgram)
          (w.assign (.statusManualModeEnable 0)) .commandSuccess w₂ ∧
        w' = w₂.recordAll [.noted .manualModeStopped] := by
  unfold handleStopManualMode smdImmedStop
  simp only [Program.bind_eq_bind, Program.perform_bind, Program.done_bind, runs_assign,
    runs_bind_iff]
  constructor
  · rintro ⟨r, ⟨r', w₂, hsend, hrest⟩, hr⟩
    rcases runs_sendModbusCommand_result hsend with rfl | rfl
    · simp at hrest
      exact ⟨w₂, hsend, hrest.2⟩
    · rw [if_pos rfl] at hrest
      have hnever : NeverTells (smdCloseCommandConnection >>= fun _ =>
          note .manualModeStopped >>= fun _ => pure .commandFailed) :=
        neverTells_bind _ fun _ => neverTells_bind _ fun _ => neverTells_pure (by decide)
      exact absurd hr (hrest.returns hnever)
  · rintro ⟨w₂, hsend, rfl⟩
    refine ⟨.commandSuccess, ⟨.commandSuccess, w₂, hsend, ?_⟩, by decide⟩
    simp

theorem reportsWritten_handleStopManualMode_iff {w : World} :
    ReportsWritten handleStopManualMode w ↔ FailsAtNoWrite immediateStopProgram w := by
  have hdrive : (w.assign (.statusManualModeEnable 0)).drive = w.drive := rfl
  refine reportsWritten_iff [] hdrive rfl (by simp) ?_ ?_
  · intro r w' hrun hr
    obtain ⟨w₂, hsend, rfl⟩ := runs_handleStopManualMode_success.mp ⟨r, hrun, hr⟩
    exact ⟨w₂, [.manualModeStopped], hsend, rfl⟩
  · intro w₂ hsend
    obtain ⟨r, hrun, hr⟩ := runs_handleStopManualMode_success.mpr ⟨w₂, hsend, rfl⟩
    exact ⟨r, _, [.manualModeStopped], hrun, hr, rfl⟩

/-! ## Every message -/

theorem runs_parseSocketInput_stop {w w' : World} {input : Text} {cl : Int}
    {r : SmdResponseCode} (h : w.InScenario2)
    (hstop : startsWith input "stopManualMode".toList = true) :
    Runs server (parseSocketInput input cl) w r w' ↔
      Runs server handleStopManualMode w r w' := by
  obtain ⟨hconnected, hwaiting, hmanual⟩ := h
  unfold parseSocketInput dispatchIn parseScenario2
  simp only [Program.bind_eq_bind, Program.perform_bind, Program.done_bind, runs_globals]
  rw [if_neg (by omega), if_neg (by omega), if_pos ⟨hconnected, hwaiting, hmanual⟩,
    if_pos hstop]

/-- A message other than the stop of the manual mode is accounted for. -/
theorem parseSocketInput_accounted {w : World} {input : Text} (cl : Int)
    (h : ¬ (w.InScenario2 ∧ startsWith input "stopManualMode".toList = true)) :
    (∃ d, Decides (parseSocketInput input cl) w d ∧ d.Fair) ∨
      ReportsWritten (parseSocketInput input cl) w := by
  have haccounted : Accounted (dispatchIn w.globals input cl) := by
    unfold dispatchIn
    refine accounted_ite ?_ (accounted_ite (accounted_parseScenario1 input cl) ?_)
    · exact accounted_ite (neverTells_handleConnect input).accounted
        (settled_pure (by decide)).accounted
    · split
      · rename_i hmanual
        unfold parseScenario2
        -- stopManualMode is left out: it closes the connection on a failure
        rw [if_neg fun hstop => h ⟨hmanual, hstop⟩]
        refine accounted_ite (settled_sendModbusCommand _).accounted ?_
        exact accounted_ite (neverTells_smdReadRegisters _ _).accounted
          (settled_pure (by decide)).accounted
      · exact accounted_ite (neverTells_parseScenario3 input cl).accounted
          (settled_pure (by decide)).accounted
  rcases haccounted w with ⟨d, hd, hfair⟩ | hreports
  · exact Or.inl ⟨d, decides_globals hd, hfair⟩
  · refine Or.inr fun r w' hrun => hreports r w' ?_
    exact runs_globals.mp hrun

theorem reportsWritten_messageProgram_iff {w : World} {input : Text} {cl : Int}
    {cmd : RegisterProgram} (h : MessageProgram input cl w cmd) :
    ReportsWritten (parseSocketInput input cl) w ↔ FailsAtNoWrite cmd w := by
  rcases h with ⟨success, failure, hdecides, hfair⟩ | ⟨hscenario, hstop, rfl⟩
  · exact reportsWritten_decides_iff hdecides hfair
  · rw [← reportsWritten_handleStopManualMode_iff]
    unfold ReportsWritten
    simp only [runs_parseSocketInput_stop hscenario hstop]

/-- A send that returns a success has written its whole program, and a message that
is answered with a success had its program written, exactly when the session that
opens for the program fails at none of its writes. -/
theorem success_reported_written_iff (cmd : RegisterProgram) (input : Text) (cl : Int)
    (w : World) :
    ((∀ r w', Runs server (sendModbusCommand cmd) w r w' → r = .commandSuccess →
        WrittenCompletely cmd (newEvents w w')) ↔ FailsAtNoWrite cmd w) ∧
    (ReportsWritten (parseSocketInput input cl) w ↔
      ∀ cmd, MessageProgram input cl w cmd → FailsAtNoWrite cmd w) := by
  refine ⟨success_writtenCompletely_iff, ?_⟩
  constructor
  · intro hreports cmd hprogram
    exact (reportsWritten_messageProgram_iff hprogram).mp hreports
  · intro hall
    by_cases hstop : w.InScenario2 ∧ startsWith input "stopManualMode".toList = true
    · have hprogram : MessageProgram input cl w immediateStopProgram :=
        Or.inr ⟨hstop.1, hstop.2, rfl⟩
      exact (reportsWritten_messageProgram_iff hprogram).mpr (hall _ hprogram)
    · rcases parseSocketInput_accounted cl hstop with ⟨d, hd, hfair⟩ | hreports
      · cases d with
        | refuses code => exact reportsWritten_refuses hd hfair
        | sends cmd success failure =>
            have hprogram : MessageProgram input cl w cmd :=
              Or.inl ⟨success, failure, hd, hfair⟩
            exact (reportsWritten_messageProgram_iff hprogram).mpr (hall cmd hprogram)
      · exact hreports

/-- A jog whose speed is not written is a success for the server and for the
client. -/
theorem jog_succeeds_without_speed :
    let w := World.facing (Globals.connectedTo "10.0.0.5".toList) (Stream'.const losesSpeed)
    let cmd := jogProgram 0 250 250 0 5000
    (Runs server (sendModbusCommand cmd) w .commandSuccess (w.afterWrites cmd) ∧
      ¬ WrittenCompletely cmd (newEvents w (w.afterWrites cmd))) ∧
    ∃ w', Runs server (parseSmdResponseToClientInput "jogCW,250,250,0,5000\n".toList 5) w () w' ∧
      .clientWritten 5 "COMMAND_SUCCESS\n".toList ∈ newEvents w w' ∧
      .threadStarted (.sendModbusCommand cmd) true ∈ newEvents w w' ∧
      ⟨0, 1028, 5, false⟩ ∈ registerWrites (newEvents w w') := by
  intro w cmd
  have hopens : w.opens := ⟨rfl, by decide, rfl⟩
  have heval : (eval server 0
      (parseSmdResponseToClientInput "jogCW,250,250,0,5000\n".toList 5) w).map (fun r =>
        decide (.clientWritten 5 "COMMAND_SUCCESS\n".toList ∈ newEvents w r.2 ∧
          .threadStarted (.sendModbusCommand cmd) true ∈ newEvents w r.2 ∧
          ⟨0, 1028, 5, false⟩ ∈ registerWrites (newEvents w r.2))) = some true := by
    decide +kernel
  obtain ⟨_, w', hrun, htold⟩ := exists_runs_of_eval heval
  refine ⟨⟨(runs_sendModbusCommand_opens hopens).mpr ⟨rfl, rfl⟩, ?_⟩, w', hrun,
    of_decide_eq_true htold⟩
  rw [writtenCompletely_afterWrites_iff hopens]
  intro hall
  exact absurd (hall 4 (by decide)) (by decide)

end SmdControlServer
