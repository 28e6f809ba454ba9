import SmdControlServer.Server.Utilities

/-!
# `SMD_Modbus.c`

A worker thread is joined by the thread that created it, which does nothing
meanwhile, so its code stands in the place of the `pthread_create`.
-/

namespace SmdControlServer

open CString Interaction

/-! ## Writing registers -/

/-- The loop over the registers.  `result` is `cmd_args->result`, which has no
value before the first failure. -/
def writeRegisters (ctx : Context) :
    Nat → List (Int × Int) → Option SmdResponseCode → Server (Option SmdResponseCode)
  | _, [], result => pure result
  | i, (register, value) :: rest, result => do
      let succeeded ← modbusWriteRegister ctx i register value
      if !succeeded then
        writeRegisters ctx (i + 1) rest (some .commandFailed)
      else
        writeRegisters ctx (i + 1) rest result

/-- What the worker does about a refusal with `errno` 9: a stop is sent again.
The result of the resent command is not looked at. -/
def resendStop (commandName : Text) : Server Unit := do
  sleep 50000
  if commandName.isPrefixOf "hold_move".toList then
    let _ ← invoke .smdHoldMove
  if commandName.isPrefixOf "immediate_stop".toList then
    let _ ← invoke .smdImmedStop

/-- `_send_modbus_command`, returning `cmd_args->result`. -/
def sendModbusCommandWorker (cmd : RegisterProgram) : Server SmdResponseCode := do
  let ctx ← modbusNewTcp
  let ip ← deviceIp
  let connected ← if ip.length = 0 then pure false else modbusConnect ctx
  if !connected then
    modbusClose ctx
    modbusFree ctx
    let errno ← modbusErrno ctx
    if errno = ebadf then
      resendStop cmd.commandName
    pure .commandFailed
  else
    let _ ← writeRegisters ctx 0 cmd.writes none
    modbusClose ctx
    modbusFree ctx
    -- whatever the loop has left in `result` is overwritten
    pure .commandSuccess

/-- `send_modbus_command`. -/
def sendModbusCommand (cmd : RegisterProgram) : Server SmdResponseCode := do
  let created ← pthreadCreate (.sendModbusCommand cmd)
  if !created then
    pure .commandFailed
  else
    sendModbusCommandWorker cmd

/-! ## Reading registers -/

/-- The text of the `i`-th register, `0x%X` for the status words and `%d` for
the others. -/
def registerText (i : Nat) (word : BitVec 16) : Text :=
  if i = 0 ∨ i = 1 then
    snprintf 16 ("0x".toList ++ formatHex word.toNat)
  else
    snprintf 16 (formatInt word.toInt)

/-- The leading id of the line. -/
def idString : SmdRegisterReadType → Text
  | .readInputRegisters => ",,".toList
  | .readConfigRegisters => "###".toList

/-- One turn of the loop that builds `client_write_string`.  Both `strncat`s
are limited by the length of their destination. -/
def appendRegister (readType : SmdRegisterReadType) (rc i : Nat) (temp : Text)
    (clientWriteString : Text) : Text :=
  if i = 0 then
    snprintf 128 (idString readType ++ temp ++ ",".toList)
  else
    let temp := if i ≠ rc - 1 then strncat temp ",".toList temp.length else temp
    strncat clientWriteString temp clientWriteString.length

/-- The line that `_read_modbus_registers` builds from the ten registers. -/
def clientWriteString (readType : SmdRegisterReadType) (words : Fin 10 → BitVec 16) :
    Text :=
  let line := (List.finRange 10).foldl
    (fun line i => appendRegister readType 10 i.val (registerText i.val (words i)) line) []
  strncat line "\n".toList line.length

/-- What `return_modbus_registers` hands back: its result, the register strings
and `registers_string`. -/
structure RegistersReply where
  result : SmdResponseCode
  registers : RegisterStrings
  registersString : Text

/-- `write_to_client` in the main thread: 0 or -1. -/
def writeToClient (cl : Int) (message : Text) : Server Int := do
  match ← writeClient cl message with
  | none => pure 0
  | some e =>
      setErrno e
      pure (-1)

/-- `_read_modbus_registers` with the register strings as the caller has them.
A failed read is reported as a success: its branch sets the result, the common
exit sets it again. -/
def readModbusRegistersWorker (registers : RegisterStrings)
    (readType : SmdRegisterReadType) (cl : Int) (registersString : Option Text) :
    Server RegistersReply := do
  let ctx ← modbusNewTcp
  let ip ← deviceIp
  let connected ← if ip.length = 0 then pure false else modbusConnect ctx
  if !connected then
    modbusClose ctx
    modbusFree ctx
    pure ⟨.noRouteToHost, registers, registersString.getD []⟩
  else
    match ← modbusReadRegisters ctx with
    | none =>
        modbusClose ctx
        modbusFree ctx
        pure ⟨.commandSuccess, registers, registersString.getD []⟩
    | some words =>
        if cl > 0 then
          -- `write_to_client` in this thread, whose `errno` ends with it
          let _ ← writeClient cl (clientWriteString readType words)
        modbusClose ctx
        modbusFree ctx
        pure ⟨.commandSuccess, fun i => registerText i.val (words i),
          clientWriteString readType words⟩

/-- `return_modbus_registers`.  With a `registers_string` the worker gets a
freshly allocated one, whose bytes have no value before the read succeeds. -/
def returnModbusRegisters (registers : RegisterStrings) (registersCount : Nat)
    (readType : SmdRegisterReadType) (cl : Int) (registersString : Option Text)
    (registersStringBufSize : Nat) : Server RegistersReply := do
  if registersStringBufSize < 128 then
    pure ⟨.commandFailed, registers, registersString.getD []⟩
  else if registersCount ≠ 10 then
    pure ⟨.commandFailed, registers, registersString.getD []⟩
  else
    let created ← pthreadCreate (.readModbusRegisters readType)
    if !created then
      pure ⟨.commandFailed, registers, registersString.getD []⟩
    else if registersString.isSome then
      let heap ← uninitialised
      let reply ← readModbusRegistersWorker registers readType cl (some heap.text)
      pure { reply with
        registersString := reply.registersString.take registersStringBufSize }
    else
      readModbusRegistersWorker registers readType cl none

/-- `read_modbus_registers`. -/
def readModbusRegisters (registers : RegisterStrings) (registersCount : Nat)
    (readType : SmdRegisterReadType) (cl : Int) : Server RegistersReply :=
  returnModbusRegisters registers registersCount readType cl none 128

end SmdControlServer
