import SmdControlServer.Server.SocketOps

/-!
# Operational rules

One rule for each request: a run of a program that begins with it is a run of
the rest from the next world.  With these as simp lemmas, and `runs_bind_iff`
for the calls of functions, a run of the server's code is taken apart along the
code.
-/

namespace SmdControlServer

open CString Interaction

variable {α : Type} {w w' : World} {a : α}

namespace World

/-- Append several entries to the log. -/
@[simps -fullyApplied] def recordAll (w : World) (es : List Event) : World :=
  { w with log := w.log ++ es }

@[simp] theorem record_eq_recordAll (w : World) (e : Event) :
    w.record e = w.recordAll [e] := rfl

@[simp] theorem recordAll_recordAll (w : World) (es es' : List Event) :
    (w.recordAll es).recordAll es' = w.recordAll (es ++ es') := by
  simp [recordAll]

@[simp] theorem recordAll_nil (w : World) : w.recordAll [] = w := by
  simp [recordAll]

/-- The text at `DEVICE_IP`; without a live allocation, whatever is there. -/
def ip (w : World) : Text :=
  match w.globals.deviceIp with
  | some ip => ip
  | none => w.memory.head.text

/-- The memory left after `DEVICE_IP` has been read. -/
def memoryAfterIp (w : World) : Stream' Uninitialised :=
  match w.globals.deviceIp with
  | some _ => w.memory
  | none => w.memory.tail

@[simps -fullyApplied] def readIp (w : World) : World :=
  { w with memory := w.memoryAfterIp }

/-- The drive's next session is used up. -/
@[simps -fullyApplied] def skipSession (w : World) : World :=
  { w with drive := w.drive.tail }

/-- A worker that cannot be started uses up the drive's next session. -/
def startWorker (w : World) : World :=
  { w with drive := if w.drive.head.threadCreated then w.drive else w.drive.tail }

/-- A context takes the drive's next session. -/
@[simps -fullyApplied] def takeContext (w : World) : World :=
  { w with drive := w.drive.tail, contextIds := w.contextIds.tail }

@[simps -fullyApplied] def takeControllerThread (w : World) : World :=
  { w with controllerThreads := w.controllerThreads.tail }

@[simps -fullyApplied] def takeMemory (w : World) : World :=
  { w with memory := w.memory.tail }

@[simps -fullyApplied] def takeClient (w : World) : World :=
  { w with accepts := w.accepts.tail }

/-- What a call of `write` to the client leaves of the world. -/
def afterClientWrite (w : World) (cl : Int) (message : Text) : World :=
  match w.clientWrites.head with
  | none =>
      { w with clientWrites := w.clientWrites.tail }.recordAll [.clientWritten cl message]
  | some _ => { w with clientWrites := w.clientWrites.tail }

theorem startWorker_of_created {w : World} (h : w.drive.head.threadCreated = true) :
    w.startWorker = w := by
  simp [startWorker, h]

theorem startWorker_of_not_created {w : World}
    (h : w.drive.head.threadCreated = false) : w.startWorker = w.skipSession := by
  simp [startWorker, skipSession, h]

section recordAll

variable (w : World) (es : List Event)

@[simp] theorem ip_recordAll : (w.recordAll es).ip = w.ip := rfl
@[simp] theorem ip_takeContext : w.takeContext.ip = w.ip := rfl
@[simp] theorem memoryAfterIp_recordAll :
    (w.recordAll es).memoryAfterIp = w.memoryAfterIp := rfl
@[simp] theorem memoryAfterIp_takeContext :
    w.takeContext.memoryAfterIp = w.memoryAfterIp := rfl
@[simp] theorem readIp_recordAll :
    (w.recordAll es).readIp = w.readIp.recordAll es := rfl
@[simp] theorem skipSession_recordAll :
    (w.recordAll es).skipSession = w.skipSession.recordAll es := rfl
@[simp] theorem takeContext_recordAll :
    (w.recordAll es).takeContext = w.takeContext.recordAll es := rfl
@[simp] theorem takeMemory_recordAll :
    (w.recordAll es).takeMemory = w.takeMemory.recordAll es := rfl
@[simp] theorem takeControllerThread_recordAll :
    (w.recordAll es).takeControllerThread = w.takeControllerThread.recordAll es := rfl
@[simp] theorem assign_recordAll (a : Assignment) :
    (w.recordAll es).assign a = (w.assign a).recordAll es := rfl
@[simp] theorem setErrno_recordAll (e : Int) :
    (w.recordAll es).setErrno e = (w.setErrno e).recordAll es := rfl

end recordAll

end World

theorem handle_deviceIp (w : World) :
    handle .deviceIp w = some (w.ip, w.readIp) := by
  unfold World.readIp World.ip World.memoryAfterIp
  simp only [handle]
  cases w.globals.deviceIp <;> rfl

/-! ## The rules -/

@[simp] theorem runs_globals {k : Globals → Server α} :
    Runs server (.perform Request.globals k) w a w' ↔
      Runs server (k w.globals) w a w' :=
  runs_perform_of_handle rfl

@[simp] theorem runs_assign {g : Assignment} {k : Unit → Server α} :
    Runs server (.perform (Request.assign g) k) w a w' ↔
      Runs server (k ()) (w.assign g) a w' :=
  runs_perform_of_handle rfl

@[simp] theorem runs_deviceIp {k : Text → Server α} :
    Runs server (.perform Request.deviceIp k) w a w' ↔
      Runs server (k w.ip) w.readIp a w' :=
  runs_perform_of_handle (handle_deviceIp w)

@[simp] theorem runs_errnoIsErange {k : Bool → Server α} :
    Runs server (.perform Request.errnoIsErange k) w a w' ↔
      Runs server (k (decide (w.errno = erange))) w a w' :=
  runs_perform_of_handle rfl

@[simp] theorem runs_setErrno {e : Int} {k : Unit → Server α} :
    Runs server (.perform (Request.setErrno e) k) w a w' ↔
      Runs server (k ()) (w.setErrno e) a w' :=
  runs_perform_of_handle rfl

@[simp] theorem runs_perror {k : Unit → Server α} :
    Runs server (.perform Request.perror k) w a w' ↔ Runs server (k ()) w.afterPerror a w' :=
  runs_perform_of_handle rfl

@[simp] theorem runs_pthreadCreate_send {cmd : RegisterProgram} {k : Bool → Server α} :
    Runs server (.perform (Request.pthreadCreate (.sendModbusCommand cmd)) k) w a w' ↔
      Runs server (k w.drive.head.threadCreated)
        (w.startWorker.recordAll
          [.threadStarted (.sendModbusCommand cmd) w.drive.head.threadCreated]) a w' :=
  runs_perform_of_handle rfl

@[simp] theorem runs_pthreadCreate_read {t : SmdRegisterReadType} {k : Bool → Server α} :
    Runs server (.perform (Request.pthreadCreate (.readModbusRegisters t)) k) w a w' ↔
      Runs server (k w.drive.head.threadCreated)
        (w.startWorker.recordAll
          [.threadStarted (.readModbusRegisters t) w.drive.head.threadCreated]) a w' :=
  runs_perform_of_handle rfl

@[simp] theorem runs_pthreadCreate_controller {k : Bool → Server α} :
    Runs server (.perform (Request.pthreadCreate .manualModeController) k) w a w' ↔
      Runs server (k w.controllerThreads.head)
        (w.takeControllerThread.recordAll
          [.threadStarted .manualModeController w.controllerThreads.head]) a w' :=
  runs_perform_of_handle rfl

@[simp] theorem runs_modbusNewTcp {k : Context → Server α} :
    Runs server (.perform Request.modbusNewTcp k) w a w' ↔
      Runs server (k { id := w.contextIds.head, session := w.drive.head })
        (w.takeContext.recordAll [.contextAllocated w.contextIds.head]) a w' :=
  runs_perform_of_handle rfl

@[simp] theorem runs_modbusConnect {ctx : Context} {k : Bool → Server α} :
    Runs server (.perform (Request.modbusConnect ctx) k) w a w' ↔
      Runs server (k ctx.session.connects)
        (w.recordAll [.contextConnected ctx.id ctx.session.connects]) a w' :=
  runs_perform_of_handle rfl

@[simp] theorem runs_modbusErrno {ctx : Context} {k : Int → Server α} :
    Runs server (.perform (Request.modbusErrno ctx) k) w a w' ↔
      Runs server (k ctx.session.connectErrno) w a w' :=
  runs_perform_of_handle rfl

@[simp] theorem runs_modbusWriteRegister {ctx : Context} {i : Nat} {register value : Int}
    {k : Bool → Server α} :
    Runs server (.perform (Request.modbusWriteRegister ctx i register value) k) w a w' ↔
      Runs server (k (ctx.session.writeSucceeds i))
        (w.recordAll [.registerWritten ctx.id register value (ctx.session.writeSucceeds i)])
        a w' :=
  runs_perform_of_handle rfl

@[simp] theorem runs_modbusReadRegisters {ctx : Context}
    {k : Option (Fin 10 → BitVec 16) → Server α} :
    Runs server (.perform (Request.modbusReadRegisters ctx) k) w a w' ↔
      Runs server (k ctx.session.registers)
        (w.recordAll [.registersRead ctx.id ctx.session.registers.isSome]) a w' :=
  runs_perform_of_handle rfl

@[simp] theorem runs_modbusClose {ctx : Context} {k : Unit → Server α} :
    Runs server (.perform (Request.modbusClose ctx) k) w a w' ↔
      Runs server (k ()) (w.recordAll [.contextClosed ctx.id]) a w' :=
  runs_perform_of_handle rfl

@[simp] theorem runs_modbusFree {ctx : Context} {k : Unit → Server α} :
    Runs server (.perform (Request.modbusFree ctx) k) w a w' ↔
      Runs server (k ()) (w.recordAll [.contextFreed ctx.id]) a w' :=
  runs_perform_of_handle rfl

@[simp] theorem runs_closeClient {cl : Int} {k : Unit → Server α} :
    Runs server (.perform (Request.closeClient cl) k) w a w' ↔
      Runs server (k ()) (w.recordAll [.clientClosed cl]) a w' :=
  runs_perform_of_handle rfl

@[simp] theorem runs_acceptClient {k : Int → Server α} :
    Runs server (.perform Request.acceptClient k) w a w' ↔
      Runs server (k w.accepts.head)
        (w.takeClient.recordAll [.clientAccepted w.accepts.head]) a w' :=
  runs_perform_of_handle rfl

@[simp] theorem runs_sleep {n : Nat} {k : Unit → Server α} :
    Runs server (.perform (Request.sleep n) k) w a w' ↔ Runs server (k ()) w a w' :=
  runs_perform_of_handle rfl

@[simp] theorem runs_uninitialised {k : Uninitialised → Server α} :
    Runs server (.perform Request.uninitialised k) w a w' ↔
      Runs server (k w.memory.head) w.takeMemory a w' :=
  runs_perform_of_handle rfl

@[simp] theorem runs_cJsonParse {text : Text} {k : Option CJson → Server α} :
    Runs server (.perform (Request.cJsonParse text) k) w a w' ↔
      Runs server (k (w.cJsonParse text)) w a w' :=
  runs_perform_of_handle rfl

@[simp] theorem runs_note {n : Note} {k : Unit → Server α} :
    Runs server (.perform (Request.note n) k) w a w' ↔
      Runs server (k ()) (w.recordAll [.noted n]) a w' :=
  runs_perform_of_handle rfl

@[simp] theorem not_runs_abort {fault : Fault} {k : Empty → Server α} :
    ¬ Runs server (.perform (Request.abort fault) k) w a w' := by
  intro h
  obtain ⟨x, s₁, hx, _⟩ := runs_perform_iff.mp h
  simp [server, handle] at hx

@[simp] theorem runs_writeClient {cl : Int} {message : Text} {k : Option Int → Server α} :
    Runs server (.perform (Request.writeClient cl message) k) w a w' ↔
      Runs server (k w.clientWrites.head) (w.afterClientWrite cl message) a w' :=
  runs_perform_of_handle rfl

/-! ## Pasts -/

/-- The world with another past: another `errno` and another log. -/
@[simps -fullyApplied] def World.withPast (w : World) (errno : Int) (log : List Event) :
    World :=
  { w with errno := errno, log := log }

/-! ## What no code changes -/

/-- What holds between the world before and the world after any code: entries of
the log stay, and the JSON library stays the same. -/
structure World.Extends (w w' : World) : Prop where
  log : w.log <+: w'.log
  cJsonParse : w'.cJsonParse = w.cJsonParse

theorem World.Extends.refl (w : World) : w.Extends w :=
  ⟨List.prefix_rfl, rfl⟩

theorem World.Extends.trans {w₁ w₂ w₃ : World} (h : w₁.Extends w₂) (h' : w₂.Extends w₃) :
    w₁.Extends w₃ :=
  ⟨h.log.trans h'.log, h'.cJsonParse.trans h.cJsonParse⟩

theorem World.extends_of_log {w w' : World} (es : List Event)
    (hlog : w'.log = w.log ++ es) (hjson : w'.cJsonParse = w.cJsonParse) : w.Extends w' :=
  ⟨⟨es, hlog.symm⟩, hjson⟩

/-- One request extends the world. -/
theorem handle_extends {o : Request} {w : World} {r : Answer o × World}
    (h : handle o w = some r) : w.Extends r.2 := by
  have hsame : ∀ w' : World, w'.log = w.log → w'.cJsonParse = w.cJsonParse → w.Extends w' :=
    fun w' hlog => World.extends_of_log [] (by simpa using hlog)
  -- each request logs one event or none
  cases o with
  | deviceIp =>
      rw [handle_deviceIp] at h
      cases h
      exact hsame _ rfl rfl
  | pthreadCreate routine =>
      cases routine <;> cases h <;>
        exact World.extends_of_log _ rfl rfl
  | modbusNewTcp =>
      cases h
      exact World.extends_of_log _ rfl rfl
  | readClient cl =>
      cases h
      cases hread : w.clientReads.head <;>
        exact World.extends_of_log _ rfl rfl
  | writeClient cl message =>
      cases h
      cases hwrite : w.clientWrites.head with
      | none => exact World.extends_of_log _ rfl rfl
      | some e => exact hsame _ rfl rfl
  | readManualFile =>
      cases h
      cases hread : w.manualReads.head <;>
        exact hsame _ rfl rfl
  | abort fault => cases h
  | modbusConnect ctx => cases h; exact World.extends_of_log _ rfl rfl
  | modbusWriteRegister ctx i register value =>
      cases h
      exact World.extends_of_log _ rfl rfl
  | modbusReadRegisters ctx =>
      cases h
      exact World.extends_of_log _ rfl rfl
  | modbusClose ctx => cases h; exact World.extends_of_log _ rfl rfl
  | modbusFree ctx => cases h; exact World.extends_of_log _ rfl rfl
  | closeClient cl => cases h; exact World.extends_of_log _ rfl rfl
  | acceptClient => cases h; exact World.extends_of_log _ rfl rfl
  | note n => cases h; exact World.extends_of_log _ rfl rfl
  | _ => cases h; exact hsame _ rfl rfl

/-- Any code of the server extends the world. -/
theorem extends_of_runs {p : Server α} (h : Runs server p w a w') : w.Extends w' :=
  Runs.preorder World.Extends.refl (fun _ _ _ => World.Extends.trans)
    (fun _ _ _ _ _ hx => handle_extends hx) (fun _ _ => Program.obeys_true _)
    (Program.obeys_true p) h

/-- What a run has added to the log. -/
def newEvents (w w' : World) : List Event :=
  w'.log.drop w.log.length

theorem newEvents_of_log (es : List Event) (h : w'.log = w.log ++ es) :
    newEvents w w' = es := by
  rw [newEvents, h, List.drop_left]

end SmdControlServer
