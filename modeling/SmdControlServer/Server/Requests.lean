import SmdControlServer.Interaction.Execution
import SmdControlServer.Server.State

/-!
# What the server asks of its surroundings

One request for each access to a global, each library or system call and each
point of the code that the log records.  `handle` answers them from a `World`.
The only request without an answer is `abort`, which stands for undefined
behaviour and for `exit`.

A procedure name is a loop of the source or one of the two functions that
`_send_modbus_command` calls back.
-/

namespace SmdControlServer

open CString Interaction

/-- Why the process cannot go on. -/
inductive Fault where
  | nullDereference
  | outOfBounds
  | exited
  deriving DecidableEq, Repr

inductive Request where
  | globals
  | assign (a : Assignment)
  | deviceIp
  | errnoIsErange
  | setErrno (e : Int)
  | perror
  | pthreadCreate (routine : Routine)
  | modbusNewTcp
  | modbusConnect (ctx : Context)
  | modbusErrno (ctx : Context)
  | modbusWriteRegister (ctx : Context) (i : Nat) (register value : Int)
  | modbusReadRegisters (ctx : Context)
  | modbusClose (ctx : Context)
  | modbusFree (ctx : Context)
  | readClient (cl : Int)
  | writeClient (cl : Int) (message : Text)
  | closeClient (cl : Int)
  | acceptClient
  | readManualFile
  | sleep (microseconds : Nat)
  | uninitialised
  | cJsonParse (text : Text)
  | note (n : Note)
  | abort (fault : Fault)

/-- The answers.  `modbusConnect`, `modbusWriteRegister` and `pthreadCreate`
answer whether the call succeeded, `writeClient` with the `errno` of a call that
did not. -/
abbrev Answer : Request → Type
  | .globals => Globals
  | .assign _ => Unit
  | .deviceIp => Text
  | .errnoIsErange => Bool
  | .setErrno _ => Unit
  | .perror => Unit
  | .pthreadCreate _ => Bool
  | .modbusNewTcp => Context
  | .modbusConnect _ => Bool
  | .modbusErrno _ => Int
  | .modbusWriteRegister _ _ _ _ => Bool
  | .modbusReadRegisters _ => Option (Fin 10 → BitVec 16)
  | .modbusClose _ => Unit
  | .modbusFree _ => Unit
  | .readClient _ => ClientRead
  | .writeClient _ _ => Option Int
  | .closeClient _ => Unit
  | .acceptClient => Int
  | .readManualFile => ManualRead
  | .sleep _ => Unit
  | .uninitialised => Uninitialised
  | .cJsonParse _ => Option CJson
  | .note _ => Unit
  | .abort _ => Empty

/-- The locals of `_manual_mode_controller` that live across iterations. -/
structure ControllerLocals where
  buf : List Char
  currentJogDirection : SmdJogDirection
  currentSpeed : Int
  deriving DecidableEq

inductive Procedure where
  | smdHoldMove
  | smdImmedStop
  | manualModeLoop (locals : ControllerLocals)
  | serverLoop (cl : Int)

abbrev Result : Procedure → Type
  | .smdHoldMove => SmdResponseCode
  | .smdImmedStop => SmdResponseCode
  | .manualModeLoop _ => Unit
  | .serverLoop _ => Unit

abbrev serverSignature : Signature where
  Request := Request
  Answer := Answer
  Procedure := Procedure
  Result := Result

/-- A piece of the server's code that returns an `α`. -/
abbrev Server (α : Type) := Program serverSignature α

/-! ## The requests as code -/

abbrev ask (o : Request) : Server (Answer o) :=
  Program.perform (S := serverSignature) o .done

abbrev invoke (p : Procedure) : Server (Result p) :=
  Program.call (S := serverSignature) p .done

abbrev getGlobals : Server Globals := ask .globals
abbrev assign (a : Assignment) : Server Unit := ask (.assign a)
abbrev deviceIp : Server Text := ask .deviceIp
abbrev errnoIsErange : Server Bool := ask .errnoIsErange
abbrev setErrno (e : Int) : Server Unit := ask (.setErrno e)
abbrev perror : Server Unit := ask .perror
abbrev pthreadCreate (routine : Routine) : Server Bool := ask (.pthreadCreate routine)
abbrev modbusNewTcp : Server Context := ask .modbusNewTcp
abbrev modbusConnect (ctx : Context) : Server Bool := ask (.modbusConnect ctx)
abbrev modbusErrno (ctx : Context) : Server Int := ask (.modbusErrno ctx)
abbrev modbusWriteRegister (ctx : Context) (i : Nat) (register value : Int) :
    Server Bool := ask (.modbusWriteRegister ctx i register value)
abbrev modbusReadRegisters (ctx : Context) :
    Server (Option (Fin 10 → BitVec 16)) := ask (.modbusReadRegisters ctx)
abbrev modbusClose (ctx : Context) : Server Unit := ask (.modbusClose ctx)
abbrev modbusFree (ctx : Context) : Server Unit := ask (.modbusFree ctx)
abbrev readClient (cl : Int) : Server ClientRead := ask (.readClient cl)
abbrev writeClient (cl : Int) (message : Text) : Server (Option Int) :=
  ask (.writeClient cl message)
abbrev closeClient (cl : Int) : Server Unit := ask (.closeClient cl)
abbrev acceptClient : Server Int := ask .acceptClient
abbrev readManualFile : Server ManualRead := ask .readManualFile
abbrev sleep (microseconds : Nat) : Server Unit := ask (.sleep microseconds)
abbrev uninitialised : Server Uninitialised := ask .uninitialised
abbrev cJsonParse (text : Text) : Server (Option CJson) := ask (.cJsonParse text)
abbrev note (n : Note) : Server Unit := ask (.note n)

/-- No code runs after a fault. -/
def abort {α : Type} (fault : Fault) : Server α :=
  Program.perform (S := serverSignature) (.abort fault) Empty.elim

/-! ## The answers -/

/-- Answer one request and log it.  A worker's `pthread_create` uses up the next
session when it fails and leaves it to the worker's `modbus_new_tcp` when it
succeeds.  A write to a client that has gone is answered with `EPIPE` like any other
failure.  The process gets a `SIGPIPE` first, which ends it, so there are runs here that
go on where it has ended, and none is left out. -/
def handle : (o : Request) → World → Option (Answer o × World)
  | .globals, w => some (w.globals, w)
  | .assign a, w => some ((), w.assign a)
  | .deviceIp, w =>
      match w.globals.deviceIp with
      | some ip => some (ip, w)
      | none => some (w.memory.head.text, { w with memory := w.memory.tail })
  | .errnoIsErange, w => some (decide (w.errno = erange), w)
  | .setErrno e, w => some ((), w.setErrno e)
  | .perror, w => some ((), w.afterPerror)
  | .pthreadCreate .manualModeController, w =>
      some (w.controllerThreads.head,
        { w with controllerThreads := w.controllerThreads.tail }.record
          (.threadStarted .manualModeController w.controllerThreads.head))
  | .pthreadCreate routine, w =>
      some (w.drive.head.threadCreated,
        { w with
          drive := if w.drive.head.threadCreated then w.drive else w.drive.tail }.record
          (.threadStarted routine w.drive.head.threadCreated))
  | .modbusNewTcp, w =>
      some ({ id := w.contextIds.head, session := w.drive.head },
        { w with drive := w.drive.tail, contextIds := w.contextIds.tail }.record
          (.contextAllocated w.contextIds.head))
  | .modbusConnect ctx, w =>
      some (ctx.session.connects, w.record (.contextConnected ctx.id ctx.session.connects))
  | .modbusErrno ctx, w => some (ctx.session.connectErrno, w)
  | .modbusWriteRegister ctx i register value, w =>
      some (ctx.session.writeSucceeds i,
        w.record (.registerWritten ctx.id register value (ctx.session.writeSucceeds i)))
  | .modbusReadRegisters ctx, w =>
      some (ctx.session.registers,
        w.record (.registersRead ctx.id ctx.session.registers.isSome))
  | .modbusClose ctx, w => some ((), w.record (.contextClosed ctx.id))
  | .modbusFree ctx, w => some ((), w.record (.contextFreed ctx.id))
  | .readClient cl, w =>
      some (w.clientReads.head,
        (match w.clientReads.head with
        | .failed e => { w with clientReads := w.clientReads.tail, errno := e }
        | _ => { w with clientReads := w.clientReads.tail }).record (.clientRead cl))
  | .writeClient cl message, w =>
      some (w.clientWrites.head,
        match w.clientWrites.head with
        | none =>
            { w with clientWrites := w.clientWrites.tail }.record (.clientWritten cl message)
        | some _ => { w with clientWrites := w.clientWrites.tail })
  | .closeClient cl, w => some ((), w.record (.clientClosed cl))
  | .acceptClient, w =>
      some (w.accepts.head,
        { w with accepts := w.accepts.tail }.record (.clientAccepted w.accepts.head))
  | .readManualFile, w =>
      some (w.manualReads.head,
        match w.manualReads.head with
        | .noAccess e => { w with manualReads := w.manualReads.tail, errno := e }
        | .openFailed e => { w with manualReads := w.manualReads.tail, errno := e }
        | .readFailed e => { w with manualReads := w.manualReads.tail, errno := e }
        | .contents _ => { w with manualReads := w.manualReads.tail })
  | .sleep _, w => some ((), w)
  | .uninitialised, w =>
      some (w.memory.head, { w with memory := w.memory.tail })
  | .cJsonParse text, w => some (w.cJsonParse text, w)
  | .note n, w => some ((), w.record (.noted n))
  | .abort _, _ => none

end SmdControlServer
