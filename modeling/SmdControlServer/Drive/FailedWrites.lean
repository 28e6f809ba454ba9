import SmdControlServer.Drive.Writes

/-!
# What a failed write does to a command

Nothing: the loop writes on, and the result is a success.  The theorems say
exactly when this does no harm.  No write follows a failed one when only the
last write of the session may fail, and a success means that the whole program
was written when none fails.

`Motion` collects the commands whose last write is the trigger in register 1024.
-/

namespace SmdControlServer

open CString Interaction

/-! ## No write after a failed one -/

/-- No register is written after the first failed write. -/
def NoWriteAfterFailure (events : List Event) : Prop :=
  (registerWrites events).Pairwise fun earlier _ => earlier.succeeded = true

/-- The session in which a program is written fails at no write but the last. -/
def FailsAtMostAtLastWrite (cmd : RegisterProgram) (w : World) : Prop :=
  ∀ cmd' ctx, WrittenIn cmd w cmd' ctx →
    ∀ i, i + 1 < cmd'.numRegisters → ctx.session.writeSucceeds i = true

theorem pairwise_sessionWrites_iff {ctx : Context} {cmd : RegisterProgram} :
    ((sessionWrites ctx cmd).Pairwise fun earlier _ => earlier.succeeded = true) ↔
      ∀ i, i + 1 < cmd.numRegisters → ctx.session.writeSucceeds i = true := by
  rw [List.pairwise_iff_getElem]
  constructor
  · intro h i hi
    have hj : i + 1 < (sessionWrites ctx cmd).length := by
      rw [length_sessionWrites]
      exact hi
    have hearlier := h i (i + 1) (by omega) hj (by omega)
    rw [succeeded_getElem_sessionWrites] at hearlier
    exact hearlier
  · intro h i j hi hj hij
    rw [length_sessionWrites] at hj
    rw [succeeded_getElem_sessionWrites]
    exact h i (by omega)

/-! ## Triggers -/

/-- The commands that set up parameters and then trigger an action. -/
inductive Motion where
  | jog (direction accel decel jerk speed : Int)
  | relativeMove (relPos accel decel jerk speed : Int)
  | findHome (direction speed accel decel jerk : Int)
  | presetEncoder (pos : Int)
  | presetMotor (pos : Int)
  | moveSegment (segment : AssembledMoveSegment)
  | runAssembledMove (lsw dwellTime : Int)

def Motion.program : Motion → RegisterProgram
  | jog direction accel decel jerk speed => jogProgram direction accel decel jerk speed
  | relativeMove relPos accel decel jerk speed =>
      relativeMoveProgram relPos accel decel jerk speed
  | findHome direction speed accel decel jerk =>
      findHomeProgram direction speed accel decel jerk
  | presetEncoder pos => presetEncoderProgram pos
  | presetMotor pos => presetMotorProgram pos
  | moveSegment segment => moveSegmentProgram segment
  | runAssembledMove lsw dwellTime => runAssembledMoveProgram lsw dwellTime

/-- The last write of a motion goes to register 1024. -/
theorem Motion.exists_trigger (m : Motion) :
    ∃ parameters trigger, m.program.writes = parameters ++ [(1024, trigger)] := by
  have hlast : ∃ trigger, m.program.writes.getLast? = some (1024, trigger) := by
    cases m <;> exact ⟨_, rfl⟩
  obtain ⟨trigger, htrigger⟩ := hlast
  obtain ⟨parameters, hparameters⟩ := List.getLast?_eq_some_iff.mp htrigger
  exact ⟨parameters, trigger, hparameters⟩

/-- A refused motion is not sent again. -/
theorem Motion.resends_eq_none (m : Motion) (w : World) :
    w.resends m.program = none := by
  have hnone : resentProgram m.program = none := by
    cases m <;> rfl
  unfold World.resends
  rw [hnone]
  split <;> rfl

theorem Motion.writtenIn_iff {m : Motion} {w : World} {cmd' : RegisterProgram}
    {ctx : Context} :
    WrittenIn m.program w cmd' ctx ↔
      w.opens ∧ cmd' = m.program ∧ ctx = ⟨w.contextIds.head, w.drive.head⟩ := by
  constructor
  · intro h
    cases h with
    | first hopens => exact ⟨hopens, rfl, rfl⟩
    | resent _ _ hresends _ =>
        rw [m.resends_eq_none w] at hresends
        cases hresends
  · rintro ⟨hopens, rfl, rfl⟩
    exact WrittenIn.first hopens

/-- The final write of the program, which triggers the action, is not issued
when an earlier one failed. -/
def TriggerHeldBack (cmd : RegisterProgram) (events : List Event) : Prop :=
  ∀ parameters trigger, registerWrites events = parameters ++ [trigger] →
    parameters.length + 1 = cmd.numRegisters →
      ∀ write ∈ parameters, write.succeeded = true

theorem pairwise_append_singleton_iff {writes : List RegisterWrite}
    {last : RegisterWrite} :
    ((writes ++ [last]).Pairwise fun earlier _ => earlier.succeeded = true) ↔
      ∀ write ∈ writes, write.succeeded = true := by
  constructor
  · intro h write hwrite
    exact (List.pairwise_append.mp h).2.2 write hwrite last (by simp)
  · intro h
    refine List.pairwise_append.mpr ⟨?_, List.pairwise_singleton _ _, ?_⟩
    · exact List.Pairwise.imp_of_mem (fun ha _ _ => h _ ha)
        (List.pairwise_of_forall fun _ _ => trivial)
    · intro write hwrite _ _
      exact h write hwrite

/-- What holds of the writes of every session in which the program is written
holds after every send, when it holds of no writes at all; and conversely. -/
theorem forall_runs_iff_forall_writtenIn (cmd : RegisterProgram) (w : World)
    {P : List RegisterWrite → Prop} (hnil : P []) :
    (∀ r w', Runs server (sendModbusCommand cmd) w r w' →
        P (registerWrites (newEvents w w'))) ↔
      ∀ cmd' ctx, WrittenIn cmd w cmd' ctx → P (sessionWrites ctx cmd') := by
  constructor
  · intro h cmd' ctx hwritten
    obtain ⟨r, w', hsends, heq⟩ := hwritten.exists_sends
    rw [← heq]
    exact h r w' (runs_sendModbusCommand_iff.mpr hsends)
  · intro h r w' hrun
    rcases (runs_sendModbusCommand_iff.mp hrun).registerWrites_eq with
      heq | ⟨cmd', ctx, hwritten, heq⟩
    · rw [heq]
      exact hnil
    · rw [heq]
      exact h cmd' ctx hwritten

theorem triggerHeldBack_sessionWrites_iff {ctx : Context} {cmd : RegisterProgram}
    (hne : 0 < cmd.numRegisters) :
    (∀ parameters trigger, sessionWrites ctx cmd = parameters ++ [trigger] →
        parameters.length + 1 = cmd.numRegisters →
          ∀ write ∈ parameters, write.succeeded = true) ↔
      ∀ i, i + 1 < cmd.numRegisters → ctx.session.writeSucceeds i = true := by
  have hlength := length_sessionWrites ctx cmd
  rw [← pairwise_sessionWrites_iff]
  cases hwrites : sessionWrites ctx cmd using List.reverseRecOn with
  | nil =>
      rw [hwrites, List.length_nil] at hlength
      omega
  | append_singleton writes last _ =>
      rw [hwrites, List.length_append, List.length_singleton] at hlength
      rw [pairwise_append_singleton_iff]
      constructor
      · intro h
        exact h writes last rfl hlength
      · intro h parameters trigger heq _
        obtain ⟨rfl, _⟩ := List.append_inj' heq rfl
        exact h

/-- Sending a program writes no register after a failed write, and holds back
the trigger of a motion after a failed parameter, exactly when the session in
which it is written fails at no write but the last. -/
theorem sendModbusCommand_noWriteAfterFailure_iff (cmd : RegisterProgram) (m : Motion)
    (w : World) :
    ((∀ r w', Runs server (sendModbusCommand cmd) w r w' →
        NoWriteAfterFailure (newEvents w w')) ↔
      FailsAtMostAtLastWrite cmd w) ∧
    (∃ parameters trigger, m.program.writes = parameters ++ [(1024, trigger)]) ∧
    ((∀ r w', Runs server (sendModbusCommand m.program) w r w' →
        TriggerHeldBack m.program (newEvents w w')) ↔
      FailsAtMostAtLastWrite m.program w) := by
  constructor
  · have hsends := forall_runs_iff_forall_writtenIn cmd w
      (P := List.Pairwise fun earlier _ => earlier.succeeded = true) List.Pairwise.nil
    simp only [pairwise_sessionWrites_iff] at hsends
    exact hsends
  · refine ⟨m.exists_trigger, ?_⟩
    -- the programs of motions are not empty, so the trigger is their last write
    have hne : 0 < m.program.numRegisters := by
      cases m <;> exact Nat.succ_pos _
    have hsends := forall_runs_iff_forall_writtenIn m.program w
      (P := fun writes => ∀ parameters trigger, writes = parameters ++ [trigger] →
        parameters.length + 1 = m.program.numRegisters →
          ∀ write ∈ parameters, write.succeeded = true) (by simp)
    unfold TriggerHeldBack FailsAtMostAtLastWrite
    rw [hsends]
    constructor
    · intro h cmd' ctx hwritten
      have hcmd := h cmd' ctx hwritten
      obtain ⟨_, rfl, _⟩ := Motion.writtenIn_iff.mp hwritten
      exact (triggerHeldBack_sessionWrites_iff hne).mp hcmd
    · intro h cmd' ctx hwritten
      have hcmd := h cmd' ctx hwritten
      obtain ⟨_, rfl, _⟩ := Motion.writtenIn_iff.mp hwritten
      exact (triggerHeldBack_sessionWrites_iff hne).mpr hcmd

/-- A drive that loses the write of the speed's upper word, and nothing else. -/
def losesSpeed : Session :=
  { Session.answering (fun _ => 0) with writeSucceeds := fun i => i ≠ 4 }

/-- A jog whose speed is not written is triggered all the same, and succeeds. -/
theorem jog_triggered_without_speed :
    let w := World.facing (Globals.connectedTo "10.0.0.5".toList) (Stream'.const losesSpeed)
    let cmd := (Motion.jog 0 250 250 0 5000).program
    Runs server (sendModbusCommand cmd) w .commandSuccess (w.afterWrites cmd) ∧
      ¬ NoWriteAfterFailure (newEvents w (w.afterWrites cmd)) ∧
      ¬ TriggerHeldBack cmd (newEvents w (w.afterWrites cmd)) := by
  intro w cmd
  have hopens : w.opens := ⟨rfl, by decide, rfl⟩
  refine ⟨(runs_sendModbusCommand_opens hopens).mpr ⟨rfl, rfl⟩, ?_, ?_⟩
  · unfold NoWriteAfterFailure
    decide
  · unfold TriggerHeldBack
    intro h
    have hspeed := h ((registerWrites (newEvents w (w.afterWrites cmd))).dropLast)
      ⟨0, 1024, 128, true⟩ rfl rfl ⟨0, 1028, 5, false⟩ (by decide)
    exact absurd hspeed (by decide)

/-! ## Success -/

/-- The program was written: in a session that was opened, every register in
turn, and every write succeeded. -/
def WrittenCompletely (cmd : RegisterProgram) (events : List Event) : Prop :=
  ∃ id, .contextConnected id true ∈ events ∧
    (registerWrites events).filter (fun write => write.context = id) =
      cmd.writes.map fun write => ⟨id, write.1, write.2, true⟩

/-- If the next session opens, it fails at none of the program's writes. -/
def FailsAtNoWrite (cmd : RegisterProgram) (w : World) : Prop :=
  w.opens → ∀ i, i < cmd.numRegisters → w.drive.head.writeSucceeds i = true

theorem sessionWrites_eq_map_iff {ctx : Context} {cmd : RegisterProgram} :
    sessionWrites ctx cmd = (cmd.writes.map fun write => ⟨ctx.id, write.1, write.2, true⟩) ↔
      ∀ i, i < cmd.numRegisters → ctx.session.writeSucceeds i = true := by
  rw [List.ext_getElem_iff]
  simp [sessionWrites, RegisterProgram.length_writes]

/-- The session of a program that is written was opened, and only it has that
context, so it shows whether the program was written completely. -/
theorem writtenCompletely_afterWrites_iff {cmd : RegisterProgram} {w : World}
    (hopens : w.opens) :
    WrittenCompletely cmd (newEvents w (w.afterWrites cmd)) ↔
      ∀ i, i < cmd.numRegisters → w.drive.head.writeSucceeds i = true := by
  have hfilter : (sessionWrites ⟨w.contextIds.head, w.drive.head⟩ cmd).filter
      (fun write => write.context = w.contextIds.head) =
        sessionWrites ⟨w.contextIds.head, w.drive.head⟩ cmd := by
    rw [List.filter_eq_self]
    intro write hwrite
    obtain ⟨i, hi, rfl⟩ := List.mem_mapIdx.mp hwrite
    simp
  constructor
  · rintro ⟨id, hconnected, hwrites⟩
    -- the session is the only one that is connected among the new events
    have hid : id = w.contextIds.head := by
      rw [newEvents_afterWrites] at hconnected
      rcases List.mem_append.mp hconnected with hopening | hclosing
      · rcases List.mem_append.mp hopening with hopening | hwrite
        · simp only [openingEvents, if_neg hopens.2.1] at hopening
          simp at hopening
          exact hopening.1
        · obtain ⟨_, _, _, heq⟩ := eq_registerWritten_of_mem_writeEvents hwrite
          cases heq
      · simp [closingEvents] at hclosing
    subst hid
    rw [registerWrites_newEvents_afterWrites, hfilter] at hwrites
    exact sessionWrites_eq_map_iff.mp hwrites
  · intro h
    refine ⟨w.contextIds.head, ?_, ?_⟩
    · rw [newEvents_afterWrites]
      simp [openingEvents, hopens.2.1, hopens.2.2]
    · rw [registerWrites_newEvents_afterWrites, hfilter]
      exact sessionWrites_eq_map_iff.mpr h

theorem success_writtenCompletely_iff {cmd : RegisterProgram} {w : World} :
    (∀ r w', Runs server (sendModbusCommand cmd) w r w' → r = .commandSuccess →
        WrittenCompletely cmd (newEvents w w')) ↔ FailsAtNoWrite cmd w := by
  constructor
  · intro h hopens
    have hrun : Runs server (sendModbusCommand cmd) w .commandSuccess (w.afterWrites cmd) :=
      (runs_sendModbusCommand_opens hopens).mpr ⟨rfl, rfl⟩
    exact (writtenCompletely_afterWrites_iff hopens).mp (h _ _ hrun rfl)
  · intro h r w' hrun hr
    subst hr
    cases runs_sendModbusCommand_iff.mp hrun with
    | written hopens => exact (writtenCompletely_afterWrites_iff hopens).mpr (h hopens)

end SmdControlServer
