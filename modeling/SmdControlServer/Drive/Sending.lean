import SmdControlServer.Server.Rules

/-!
# Sending a register program

`Sends` is `send_modbus_command` as a relation between the world before and the
world after: the thread that cannot be started, the session that opens, the
session that is refused, and the refusal after which a stop is sent again.
`runs_sendModbusCommand_iff` says that these are the runs of the code, so that
nothing after this module looks into `sendModbusCommandWorker`.
-/

namespace SmdControlServer

open CString Interaction

/-! ## Sessions -/

/-- The next session is opened: its thread starts, there is an address, and the
connection is made. -/
def World.opens (w : World) : Prop :=
  w.drive.head.threadCreated = true ∧ w.ip ≠ [] ∧ w.drive.head.connects = true

theorem World.ready_opens : World.ready.opens := ⟨rfl, by decide, rfl⟩

/-- What the worker does first, up to the outcome of its attempt to connect. -/
def openingEvents (routine : Routine) (w : World) : List Event :=
  [.threadStarted routine true, .contextAllocated w.contextIds.head] ++
    if w.ip = [] then [] else [.contextConnected w.contextIds.head w.drive.head.connects]

/-- The way out of every worker. -/
def closingEvents (id : Nat) : List Event :=
  [.contextClosed id, .contextFreed id]

namespace World

/-- The world after a worker that could not be started. -/
def afterNoThread (w : World) (routine : Routine) : World :=
  w.skipSession.recordAll [.threadStarted routine false]

/-- The world after a worker that has done `body` in its session. -/
def afterSession (w : World) (routine : Routine) (body : List Event) : World :=
  w.takeContext.readIp.recordAll
    (openingEvents routine w ++ body ++ closingEvents w.contextIds.head)

end World

/-! ## The loop over the registers -/

/-- The writes of the loop: each element of the program is written, the ones
after a failure too. -/
def writeEvents (ctx : Context) : Nat → List (Int × Int) → List Event
  | _, [] => []
  | i, (register, value) :: rest =>
      .registerWritten ctx.id register value (ctx.session.writeSucceeds i) ::
        writeEvents ctx (i + 1) rest

theorem exists_runs_writeRegisters_iff {ctx : Context} {i : Nat}
    {writes : List (Int × Int)} {result : Option SmdResponseCode} {w w' : World} :
    (∃ r, Runs server (writeRegisters ctx i writes result) w r w') ↔
      w' = w.recordAll (writeEvents ctx i writes) := by
  induction writes generalizing i result w with
  | nil => simp [writeRegisters, writeEvents]
  | cons first rest ih =>
      obtain ⟨register, value⟩ := first
      simp only [writeRegisters, writeEvents]
      by_cases hwrite : ctx.session.writeSucceeds i = true
      · simp [hwrite, ih]
      · simp [hwrite, ih]

/-! ## The relation -/

/-- The program that a refused attempt with `errno` 9 sends again, after what
the log records of it. -/
def resentProgram (cmd : RegisterProgram) : Option (List Event × RegisterProgram) :=
  if cmd.commandName.isPrefixOf "hold_move".toList then
    some ([.noted .smdHoldMove], holdMoveProgram)
  else if cmd.commandName.isPrefixOf "immediate_stop".toList then
    some ([], immediateStopProgram)
  else
    none

/-- What is sent again after the next attempt, if that is refused. -/
def World.resends (w : World) (cmd : RegisterProgram) :
    Option (List Event × RegisterProgram) :=
  if w.drive.head.connectErrno = ebadf then resentProgram cmd else none

/-- The session of a program that is written. -/
def World.afterWrites (w : World) (cmd : RegisterProgram) : World :=
  w.afterSession (.sendModbusCommand cmd)
    (writeEvents ⟨w.contextIds.head, w.drive.head⟩ 0 cmd.writes)

/-- The session of a program that is refused. -/
def World.afterRefusal (w : World) (cmd : RegisterProgram) : World :=
  w.afterSession (.sendModbusCommand cmd) []

/-- `send_modbus_command` as a relation. -/
inductive Sends : RegisterProgram → World → SmdResponseCode → World → Prop
  | noThread {cmd : RegisterProgram} {w : World}
      (hthread : w.drive.head.threadCreated = false) :
      Sends cmd w .commandFailed (w.afterNoThread (.sendModbusCommand cmd))
  | written {cmd : RegisterProgram} {w : World} (hopens : w.opens) :
      Sends cmd w .commandSuccess (w.afterWrites cmd)
  | refused {cmd : RegisterProgram} {w : World}
      (hthread : w.drive.head.threadCreated = true) (hopens : ¬ w.opens)
      (hresends : w.resends cmd = none) :
      Sends cmd w .commandFailed (w.afterRefusal cmd)
  | resent {cmd again : RegisterProgram} {w w' : World} {noted : List Event}
      {r : SmdResponseCode} (hthread : w.drive.head.threadCreated = true)
      (hopens : ¬ w.opens) (hresends : w.resends cmd = some (noted, again))
      (hagain : Sends again ((w.afterRefusal cmd).recordAll noted) r w') :
      Sends cmd w .commandFailed w'

/-- The names of the two stops have no first character in common. -/
theorem not_isPrefixOf_immediate_stop {name : Text} (hne : name ≠ [])
    (h : name.isPrefixOf "hold_move".toList = true) :
    name.isPrefixOf "immediate_stop".toList = false := by
  cases name with
  | nil => exact absurd rfl hne
  | cons c cs =>
      have hhold : c = 'h' := by
        have hc := List.isPrefixOf_iff_prefix.mp h
        exact (List.cons_prefix_cons.mp hc).1
      rw [hhold]
      rfl

/-- The attempt to connect, as every worker makes it. -/
theorem runs_opening_iff {α : Type} {k : Context → Bool → Server α} {w w' : World}
    {a : α} :
    Runs server
        (do
          let ctx ← modbusNewTcp
          let ip ← deviceIp
          let connected ← if ip.length = 0 then pure false else modbusConnect ctx
          k ctx connected) w a w' ↔
      Runs server
        (k ⟨w.contextIds.head, w.drive.head⟩ (decide (w.ip ≠ []) && w.drive.head.connects))
        (w.takeContext.readIp.recordAll
          (.contextAllocated w.contextIds.head ::
            if w.ip = [] then []
            else [.contextConnected w.contextIds.head w.drive.head.connects])) a w' := by
  by_cases hip : w.ip = []
  · simp [hip]
  · simp [hip]

/-! ## The stop that is sent again -/

theorem runs_smdHoldMove_iff {w w' : World} {r : SmdResponseCode} :
    Runs server smdHoldMove w r w' ↔
      Runs server (sendModbusCommand holdMoveProgram)
        (w.recordAll [.noted .smdHoldMove]) r w' := by
  unfold smdHoldMove
  simp only [Program.bind_eq_bind, Program.perform_bind, Program.done_bind, runs_note]

/-- What sending the stop again comes down to. -/
theorem exists_runs_resendStop_iff {cmd : RegisterProgram} {w w' : World} :
    (∃ a, Runs server (resendStop cmd.commandName) w a w') ↔
      match resentProgram cmd with
      | none => w' = w
      | some (noted, again) =>
          ∃ r, Runs server (sendModbusCommand again) (w.recordAll noted) r w' := by
  unfold resendStop resentProgram
  -- strncmp goes as far as the name does, and no name goes into both stops
  generalize hhold : cmd.commandName.isPrefixOf "hold_move".toList = hold
  generalize himm : cmd.commandName.isPrefixOf "immediate_stop".toList = imm
  cases hold with
  | true =>
      have himm' := not_isPrefixOf_immediate_stop cmd.named hhold
      rw [himm] at himm'
      subst himm'
      simp only [Program.bind_eq_bind, Program.perform_bind, Program.done_bind,
        Program.call_bind, Program.pure_eq_done, if_true, Bool.false_eq_true, if_false,
        runs_sleep, runs_call_iff_exists, runs_done_iff]
      constructor
      · rintro ⟨_, r, s₁, hrun, _, rfl⟩
        exact ⟨r, runs_smdHoldMove_iff.mp hrun⟩
      · rintro ⟨r, hrun⟩
        exact ⟨(), r, w', runs_smdHoldMove_iff.mpr hrun, trivial, rfl⟩
  | false =>
      cases imm with
      | true =>
          simp only [Program.bind_eq_bind, Program.perform_bind, Program.done_bind,
            Program.call_bind, Program.pure_eq_done, if_true, Bool.false_eq_true, if_false,
            runs_sleep, runs_call_iff_exists, runs_done_iff, World.recordAll_nil]
          constructor
          · rintro ⟨_, r, s₁, hrun, _, rfl⟩
            exact ⟨r, hrun⟩
          · rintro ⟨r, hrun⟩
            exact ⟨(), r, w', hrun, trivial, rfl⟩
      | false => simp

/-! ## The four cases -/

section cases

variable {cmd : RegisterProgram} {w w' : World} {r : SmdResponseCode}

theorem runs_sendModbusCommand_noThread (h : w.drive.head.threadCreated = false) :
    Runs server (sendModbusCommand cmd) w r w' ↔
      r = .commandFailed ∧ w' = w.afterNoThread (.sendModbusCommand cmd) := by
  unfold sendModbusCommand
  simp [h, World.startWorker_of_not_created h, World.afterNoThread]

/-- With the thread created, the run is that of the worker after its attempt to
connect. -/
theorem runs_sendModbusCommand_worker {b : Bool}
    (hthread : w.drive.head.threadCreated = true)
    (hb : (decide (w.ip ≠ []) && w.drive.head.connects) = b) :
    Runs server (sendModbusCommand cmd) w r w' ↔
      Runs server
        (if !b then do
          modbusClose ⟨w.contextIds.head, w.drive.head⟩
          modbusFree ⟨w.contextIds.head, w.drive.head⟩
          let errno ← modbusErrno ⟨w.contextIds.head, w.drive.head⟩
          if errno = ebadf then
            resendStop cmd.commandName
          pure SmdResponseCode.commandFailed
        else do
          let _ ← writeRegisters ⟨w.contextIds.head, w.drive.head⟩ 0 cmd.writes none
          modbusClose ⟨w.contextIds.head, w.drive.head⟩
          modbusFree ⟨w.contextIds.head, w.drive.head⟩
          pure SmdResponseCode.commandSuccess)
        (w.takeContext.readIp.recordAll
          (openingEvents (.sendModbusCommand cmd) w)) r w' := by
  -- the thread starts first, then the context is allocated
  have hopening : w.takeContext.readIp.recordAll
      (openingEvents (.sendModbusCommand cmd) w) =
      (w.recordAll [.threadStarted (.sendModbusCommand cmd) true]).takeContext.readIp.recordAll
        (.contextAllocated w.contextIds.head ::
          if w.ip = [] then []
          else [.contextConnected w.contextIds.head w.drive.head.connects]) := by
    simp [openingEvents]
  rw [hopening, ← hb]
  unfold sendModbusCommand
  simp only [Program.bind_eq_bind, Program.perform_bind, runs_pthreadCreate_send,
    Program.done_bind, hthread, World.startWorker_of_created hthread]
  exact runs_opening_iff (w := w.recordAll [.threadStarted (.sendModbusCommand cmd) true])

theorem runs_sendModbusCommand_opens (h : w.opens) :
    Runs server (sendModbusCommand cmd) w r w' ↔
      r = .commandSuccess ∧ w' = w.afterWrites cmd := by
  obtain ⟨hthread, hip, hconnects⟩ := h
  rw [runs_sendModbusCommand_worker (b := true) hthread (by simp [hip, hconnects])]
  simp only [Bool.not_true, Bool.false_eq_true, if_false, Program.bind_eq_bind]
  rw [runs_bind_const_iff]
  simp only [exists_runs_writeRegisters_iff, exists_eq_left, Program.perform_bind,
    Program.done_bind, runs_modbusClose, runs_modbusFree, Program.pure_eq_done,
    runs_done_iff]
  have hworld : w.afterWrites cmd = ((w.takeContext.readIp.recordAll
      (openingEvents (.sendModbusCommand cmd) w)).recordAll
        (writeEvents ⟨w.contextIds.head, w.drive.head⟩ 0 cmd.writes)).recordAll
          (closingEvents w.contextIds.head) := by
    simp [World.afterWrites, World.afterSession]
  rw [hworld]
  simp [closingEvents]

/-- A refused session: the stop that is sent again, if any, decides the world
after, and the result is a failure in any case. -/
theorem runs_sendModbusCommand_refused (hthread : w.drive.head.threadCreated = true)
    (hopens : ¬ w.opens) :
    Runs server (sendModbusCommand cmd) w r w' ↔
      r = .commandFailed ∧
        match w.resends cmd with
        | none => w' = w.afterRefusal cmd
        | some (noted, again) =>
            ∃ r', Runs server (sendModbusCommand again)
              ((w.afterRefusal cmd).recordAll noted) r' w' := by
  have hb : (decide (w.ip ≠ []) && w.drive.head.connects) = false := by
    by_contra hb
    rw [Bool.not_eq_false, Bool.and_eq_true, decide_eq_true_eq] at hb
    exact hopens ⟨hthread, hb⟩
  have hworld : w.afterRefusal cmd = (w.takeContext.readIp.recordAll
      (openingEvents (.sendModbusCommand cmd) w)).recordAll
        (closingEvents w.contextIds.head) := by
    simp [World.afterRefusal, World.afterSession]
  rw [runs_sendModbusCommand_worker hthread hb, hworld]
  unfold World.resends
  -- only errno 9 makes the worker send a stop again
  by_cases herrno : w.drive.head.connectErrno = ebadf
  · simp only [Bool.not_false, if_true, Program.bind_eq_bind, Program.perform_bind,
      Program.done_bind, runs_modbusClose, runs_modbusFree, runs_modbusErrno, herrno]
    rw [runs_bind_const_iff]
    simp only [exists_runs_resendStop_iff, Program.pure_eq_done, runs_done_iff,
      World.recordAll_recordAll, closingEvents, List.append_assoc, List.cons_append,
      List.nil_append]
    constructor
    · rintro ⟨s₁, hrun, rfl, rfl⟩
      exact ⟨rfl, hrun⟩
    · rintro ⟨rfl, hrun⟩
      exact ⟨w', hrun, rfl, rfl⟩
  · simp [herrno, closingEvents]

/-- The runs of `send_modbus_command` are the cases of `Sends`.  Each attempt is
logged, which bounds how often a stop can have been sent again. -/
theorem runs_sendModbusCommand_iff :
    Runs server (sendModbusCommand cmd) w r w' ↔ Sends cmd w r w' := by
  constructor
  · intro h
    -- on the events that are new: an attempt leaves some before the next one begins
    induction hn : w'.log.length - w.log.length using Nat.strong_induction_on
      generalizing cmd w r with
    | _ n ih =>
        by_cases hthread : w.drive.head.threadCreated = true
        · by_cases hopens : w.opens
          · obtain ⟨rfl, rfl⟩ := (runs_sendModbusCommand_opens hopens).mp h
            exact Sends.written hopens
          · obtain ⟨rfl, hrest⟩ := (runs_sendModbusCommand_refused hthread hopens).mp h
            rcases hresends : w.resends cmd with _ | ⟨noted, again⟩
            · rw [hresends] at hrest
              subst hrest
              exact Sends.refused hthread hopens hresends
            · rw [hresends] at hrest
              obtain ⟨r', hrun⟩ := hrest
              have hle := (extends_of_runs hrun).log.length_le
              have hlog : w.log.length <
                  ((w.afterRefusal cmd).recordAll noted).log.length := by
                simp [World.afterRefusal, World.afterSession, closingEvents]
              exact Sends.resent hthread hopens hresends
                (ih _ (by omega) hrun rfl)
        · rw [Bool.not_eq_true] at hthread
          obtain ⟨rfl, rfl⟩ := (runs_sendModbusCommand_noThread hthread).mp h
          exact Sends.noThread hthread
  · intro h
    induction h with
    | noThread hthread => exact (runs_sendModbusCommand_noThread hthread).mpr ⟨rfl, rfl⟩
    | written hopens => exact (runs_sendModbusCommand_opens hopens).mpr ⟨rfl, rfl⟩
    | refused hthread hopens hresends =>
        refine (runs_sendModbusCommand_refused hthread hopens).mpr ⟨rfl, ?_⟩
        rw [hresends]
    | resent hthread hopens hresends _ ih =>
        refine (runs_sendModbusCommand_refused hthread hopens).mpr ⟨rfl, ?_⟩
        rw [hresends]
        exact ⟨_, ih⟩

end cases

end SmdControlServer
