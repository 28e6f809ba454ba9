import SmdControlServer.Drive.Sending

/-!
# Reading the registers

`return_modbus_registers` as it is used by the upload of a profile: no client, a
string for the line.  The reply and the world after it are functions of the
world before.  A read that fails in an open session is answered like one that
succeeds, with whatever the caller's arrays held.
-/

namespace SmdControlServer

open CString Interaction

namespace World

/-- The reading thread, started in this world, opens its session. -/
def readOpens (w : World) : Bool :=
  decide (w.ip ≠ []) && w.drive.head.connects

/-- What the reading thread replies without a client. -/
def workerReply (w : World) (readType : SmdRegisterReadType) (registers : RegisterStrings)
    (line : Text) : RegistersReply :=
  if w.readOpens = false then
    ⟨.noRouteToHost, registers, line⟩
  else
    match w.drive.head.registers with
    | none => ⟨.commandSuccess, registers, line⟩
    | some words =>
        ⟨.commandSuccess, fun i => registerText i.val (words i),
          clientWriteString readType words⟩

/-- What the reading thread does in its session. -/
def readEvents (w : World) : List Event :=
  if w.readOpens then [.registersRead w.contextIds.head w.drive.head.registers.isSome]
  else []

/-- What `return_modbus_registers` replies without a client. -/
def readReply (w : World) (readType : SmdRegisterReadType) (registers : RegisterStrings)
    (line : Text) : RegistersReply :=
  if w.drive.head.threadCreated then
    let reply := w.takeMemory.workerReply readType registers w.memory.head.text
    { reply with registersString := reply.registersString.take 128 }
  else
    ⟨.commandFailed, registers, line⟩

/-- The world after `return_modbus_registers` without a client. -/
def afterRead (w : World) (readType : SmdRegisterReadType) : World :=
  if w.drive.head.threadCreated then
    w.takeMemory.afterSession (.readModbusRegisters readType) w.takeMemory.readEvents
  else
    w.afterNoThread (.readModbusRegisters readType)

end World

theorem runs_readModbusRegistersWorker_iff {w w' : World} {readType : SmdRegisterReadType}
    {registers : RegisterStrings} {line : Text} {reply : RegistersReply} :
    Runs server (readModbusRegistersWorker registers readType (-1) (some line))
        (w.recordAll [.threadStarted (.readModbusRegisters readType) true]) reply w' ↔
      reply = w.workerReply readType registers line ∧
        w' = w.afterSession (.readModbusRegisters readType) w.readEvents := by
  have hopening : w.takeContext.readIp.recordAll
      (openingEvents (.readModbusRegisters readType) w) =
      (w.recordAll
        [.threadStarted (.readModbusRegisters readType) true]).takeContext.readIp.recordAll
        (.contextAllocated w.contextIds.head ::
          if w.ip = [] then []
          else [.contextConnected w.contextIds.head w.drive.head.connects]) := by
    simp [openingEvents]
  unfold readModbusRegistersWorker
  refine Iff.trans (runs_opening_iff
    (w := w.recordAll [.threadStarted (.readModbusRegisters readType) true])) ?_
  unfold World.workerReply World.afterSession World.readEvents World.readOpens
  by_cases hip : w.ip = []
  · simp [openingEvents, closingEvents, hip]
  · cases hconnects : w.drive.head.connects with
    | false => simp [openingEvents, closingEvents, hip, hconnects]
    | true =>
        rcases hregisters : w.drive.head.registers with _ | words
        · simp [openingEvents, closingEvents, hip, hconnects, hregisters]
        · simp [openingEvents, closingEvents, hip, hconnects, hregisters]

theorem runs_returnModbusRegisters_iff {w w' : World} {readType : SmdRegisterReadType}
    {registers : RegisterStrings} {line : Text} {reply : RegistersReply} :
    Runs server (returnModbusRegisters registers 10 readType (-1) (some line) 128)
        w reply w' ↔
      reply = w.readReply readType registers line ∧ w' = w.afterRead readType := by
  unfold returnModbusRegisters World.readReply World.afterRead
  cases hthread : w.drive.head.threadCreated with
  | false => simp [hthread, World.startWorker_of_not_created, World.afterNoThread]
  | true =>
      simp only [Nat.lt_irrefl, ne_eq, not_true_eq_false, if_false, Program.bind_eq_bind,
        Program.perform_bind, Program.done_bind, runs_pthreadCreate_read, hthread,
        Bool.not_true, Bool.false_eq_true, Option.isSome_some, if_true,
        runs_uninitialised, World.startWorker_of_created hthread, runs_bind_iff,
        World.takeMemory_recordAll, World.recordAll_memory]
      constructor
      · rintro ⟨a, s₁, hworker, hreply⟩
        obtain ⟨rfl, rfl⟩ := runs_readModbusRegistersWorker_iff.mp hworker
        exact runs_done_iff.mp hreply
      · rintro ⟨rfl, rfl⟩
        exact ⟨_, _, runs_readModbusRegistersWorker_iff.mpr ⟨rfl, rfl⟩,
          runs_done_iff.mpr ⟨rfl, rfl⟩⟩

end SmdControlServer
