import SmdControlServer.Server.AssembledMove
import SmdControlServer.Server.ManualMode

/-!
# `SMD_SocketOps.c`

The dispatcher, what the client is told, and the loop that reads the client's
socket.  Each command that has parameters is a definition of its own.
-/

namespace SmdControlServer

open CString Interaction

/-! ## Commands with parameters

The parameters are converted in the order of their tokens, since a conversion
that overflows leaves its mark on the later ones. -/

/-- The guard that every command with parameters begins with: exactly `n`
tokens, stored in an array of `n`. -/
def withTokens (input : Text) (n : Nat) (handler : Tokenized → Server SmdResponseCode) :
    Server SmdResponseCode :=
  if numberOfTokens input ≠ n then
    pure .invalidParameter
  else
    let tokens := tokenizeClientInput input n
    if tokens.result ≠ 0 then
      pure .invalidParameter
    else
      handler tokens

/-- The branch of the jogs, with the direction that it passes on. -/
def jogIn (direction : Int) (input : Text) : Server SmdResponseCode :=
  withTokens input 5 fun tokens => do
    let accel ← convertStringToLongInt (tokens.token 1)
    let decel ← convertStringToLongInt (tokens.token 2)
    let jerk ← convertStringToLongInt (tokens.token 3)
    let speed ← convertStringToLongInt (tokens.token 4)
    smdJog direction (toInt16 accel) (toInt16 decel) (toInt16 jerk) speed

def handleJog (input : Text) : Server SmdResponseCode :=
  jogIn (if strstr input "jogCCW".toList then 1 else 0) input

/-- The branch of the ways home, with the direction that it passes on. -/
def findHomeIn (direction : Int) (input : Text) : Server SmdResponseCode :=
  withTokens input 5 fun tokens => do
    let speed ← convertStringToLongInt (tokens.token 1)
    let accel ← convertStringToLongInt (tokens.token 2)
    let decel ← convertStringToLongInt (tokens.token 3)
    let jerk ← convertStringToLongInt (tokens.token 4)
    smdFindHome direction speed (toInt16 accel) (toInt16 decel) (toInt16 jerk)

def handleFindHome (input : Text) : Server SmdResponseCode :=
  findHomeIn (if strstr input "homeCCW".toList then 1 else 0) input

def handleSaveConfig (input : Text) : Server SmdResponseCode :=
  withTokens input 8 fun tokens => do
    let controlWord ← convertStringToLongInt (tokens.token 1)
    let configWord ← convertStringToLongInt (tokens.token 2)
    let startingSpeed ← convertStringToLongInt (tokens.token 3)
    let stepsPerTurn ← convertStringToLongInt (tokens.token 4)
    let encPulsesPerTurn ← convertStringToLongInt (tokens.token 5)
    let idleCurrentPercentage ← convertStringToLongInt (tokens.token 6)
    let motorCurrent ← convertStringToLongInt (tokens.token 7)
    smdSetConfiguration controlWord configWord startingSpeed (toInt16 stepsPerTurn)
      (toInt16 encPulsesPerTurn) (toInt16 idleCurrentPercentage) (toInt16 motorCurrent)

def handleRelativeMove (input : Text) : Server SmdResponseCode :=
  withTokens input 6 fun tokens => do
    let relPos ← convertStringToLongInt (tokens.token 1)
    let accel ← convertStringToLongInt (tokens.token 2)
    let decel ← convertStringToLongInt (tokens.token 3)
    let jerk ← convertStringToLongInt (tokens.token 4)
    let speed ← convertStringToLongInt (tokens.token 5)
    smdRelativeMove relPos (toInt16 accel) (toInt16 decel) (toInt16 jerk) speed

def handlePresetMotorPosition (input : Text) : Server SmdResponseCode :=
  withTokens input 2 fun tokens => do
    let pos ← convertStringToLongInt (tokens.token 1)
    smdPresetMotorPosition pos

def handlePresetEncoderPosition (input : Text) : Server SmdResponseCode :=
  withTokens input 2 fun tokens => do
    let pos ← convertStringToLongInt (tokens.token 1)
    smdPresetEncoderPosition pos

def handleRunAssembledDwellMove (input : Text) : Server SmdResponseCode :=
  withTokens input 2 fun tokens => do
    let dwellTime ← convertStringToLongInt (tokens.token 1)
    if dwellTime < 0 ∨ dwellTime > 65535 then
      pure .invalidParameter
    else
      smdRunAssembledMove 0 dwellTime .dwell

def handleRunAssembledBlendMove (input : Text) : Server SmdResponseCode :=
  withTokens input 2 fun tokens => do
    let converted ← convertStringToLongInt (tokens.token 1)
    let direction := toInt16 converted
    if direction < 0 ∨ direction > 1 then
      pure .invalidParameter
    else
      smdRunAssembledMove direction 0 .blend

/-! ## The dispatcher -/

/-- What `DEVICE_IP` holds for an address token: the copy leaves the last
character out, and a newline ends it.  Bytes of fresh memory that are not
written are taken to be zero. -/
def deviceIpOf (smdIp : Text) : Text :=
  cutAt '\n' smdIp.dropLast

/-- `connect`, the only command without a connection. -/
def handleConnect (input : Text) : Server SmdResponseCode :=
  withTokens input 2 fun tokens =>
    let smdIp := tokens.token 1
    -- `strlen(smd_ip) - 1` wraps for an empty address
    if smdIp.length = 0 then
      abort .outOfBounds
    else do
      assign (.deviceIp (some (deviceIpOf smdIp)))
      smdOpenCommandConnection

/-- The commands of Scenario 1. -/
inductive Command where
  | jogCW
  | jogCCW
  | homeCW
  | homeCCW
  | disconnect
  | saveConfig
  | relativeMove
  | driveEnable
  | driveDisable
  | holdMove
  | immedStop
  | resetErrors
  | readInputRegisters
  | loadCurrentConfiguration
  | readCurrentConfiguration
  | presetMotorPosition
  | presetEncoderPosition
  | programAssembledMove
  | runAssembledDwellMove
  | runAssembledBlendMove
  | startManualMode
  deriving DecidableEq, Repr

namespace Command

/-- The word of a command. -/
def name : Command → Text
  | jogCW => "jogCW".toList
  | jogCCW => "jogCCW".toList
  | homeCW => "homeCW".toList
  | homeCCW => "homeCCW".toList
  | disconnect => "disconnect".toList
  | saveConfig => "saveConfig".toList
  | relativeMove => "relativeMove".toList
  | driveEnable => "driveEnable".toList
  | driveDisable => "driveDisable".toList
  | holdMove => "holdMove".toList
  | immedStop => "immedStop".toList
  | resetErrors => "resetErrors".toList
  | readInputRegisters => "readInputRegisters".toList
  | loadCurrentConfiguration => "loadCurrentConfiguration".toList
  | readCurrentConfiguration => "readCurrentConfiguration".toList
  | presetMotorPosition => "presetMotorPosition".toList
  | presetEncoderPosition => "presetEncoderPosition".toList
  | programAssembledMove => "programAssembledMove".toList
  | runAssembledDwellMove => "runAssembledDwellMove".toList
  | runAssembledBlendMove => "runAssembledBlendMove".toList
  | startManualMode => "startManualMode".toList

/-- What is done for a command, given the message and the client. -/
def code (input : Text) (cl : Int) : Command → Server SmdResponseCode
  | jogCW => jogIn 0 input
  | jogCCW => jogIn 1 input
  | homeCW => findHomeIn 0 input
  | homeCCW => findHomeIn 1 input
  | disconnect => do
      smdCloseCommandConnection
      pure .disconnectSuccess
  | saveConfig => handleSaveConfig input
  | relativeMove => handleRelativeMove input
  | driveEnable => smdDriveEnable
  | driveDisable => smdDriveDisable
  | holdMove => smdHoldMove
  | immedStop => smdImmedStop
  | resetErrors => smdResetErrors
  | readInputRegisters => smdReadInputRegisters cl
  | loadCurrentConfiguration => smdLoadCurrentConfiguration
  | readCurrentConfiguration => smdReadCurrentConfiguration cl
  | presetMotorPosition => handlePresetMotorPosition input
  | presetEncoderPosition => handlePresetEncoderPosition input
  | programAssembledMove => smdProgramAssembledMove
  | runAssembledDwellMove => handleRunAssembledDwellMove input
  | runAssembledBlendMove => handleRunAssembledBlendMove input
  | startManualMode => do
      assign (.statusManualModeEnable 1)
      smdSetManualMode

end Command

/-- Scenario 1: connected, no profile expected, no manual mode. -/
def parseScenario1 (input : Text) (cl : Int) : Server SmdResponseCode :=
  if strstr input "jogCW".toList || strstr input "jogCCW".toList then
    handleJog input
  else if strstr input "homeCW".toList || strstr input "homeCCW".toList then
    handleFindHome input
  else if startsWith input "disconnect".toList then
    Command.disconnect.code input cl
  else if startsWith input "saveConfig".toList then
    Command.saveConfig.code input cl
  else if startsWith input "relativeMove".toList then
    Command.relativeMove.code input cl
  else if startsWith input "driveEnable".toList then
    Command.driveEnable.code input cl
  else if startsWith input "driveDisable".toList then
    Command.driveDisable.code input cl
  else if startsWith input "holdMove".toList then
    Command.holdMove.code input cl
  else if startsWith input "immedStop".toList then
    Command.immedStop.code input cl
  else if startsWith input "resetErrors".toList then
    Command.resetErrors.code input cl
  else if startsWith input "readInputRegisters".toList then
    Command.readInputRegisters.code input cl
  else if startsWith input "loadCurrentConfiguration".toList then
    Command.loadCurrentConfiguration.code input cl
  else if startsWith input "readCurrentConfiguration".toList then
    Command.readCurrentConfiguration.code input cl
  else if startsWith input "presetMotorPosition".toList then
    Command.presetMotorPosition.code input cl
  else if startsWith input "presetEncoderPosition".toList then
    Command.presetEncoderPosition.code input cl
  else if startsWith input "programAssembledMove".toList then
    Command.programAssembledMove.code input cl
  else if startsWith input "runAssembledDwellMove".toList then
    Command.runAssembledDwellMove.code input cl
  else if startsWith input "runAssembledBlendMove".toList then
    Command.runAssembledBlendMove.code input cl
  else if startsWith input "startManualMode".toList then
    Command.startManualMode.code input cl
  else
    pure .invalidInput

/-- `stopManualMode`. -/
def handleStopManualMode : Server SmdResponseCode := do
  assign (.statusManualModeEnable 0)
  let response ← smdImmedStop
  if response = .commandFailed then
    smdCloseCommandConnection
    note .manualModeStopped
    pure .commandFailed
  else
    note .manualModeStopped
    pure .commandSuccess

/-- Scenario 2: connected, manual mode. -/
def parseScenario2 (input : Text) (cl : Int) : Server SmdResponseCode :=
  if startsWith input "stopManualMode".toList then
    handleStopManualMode
  else if startsWith input "resetErrors".toList then
    smdResetErrors
  else if startsWith input "readInputRegisters".toList then
    smdReadInputRegisters cl
  else
    pure .invalidInput

/-- Scenario 3: connected, the message is a profile. -/
def parseScenario3 (input : Text) (cl : Int) : Server SmdResponseCode := do
  let response ← smdParseAndUploadAssembledMove input cl
  if response = .commandSuccess then
    assign (.statusWaitingForAssembledMove 0)
    pure .assembledMoveAccepted
  else
    assign (.statusWaitingForAssembledMove 0)
    let _ ← smdResetErrors
    pure .commandFailed

/-- The scenario that these values of the globals make. -/
def dispatchIn (g : Globals) (input : Text) (cl : Int) : Server SmdResponseCode :=
  if g.smdConnected = 0 then
    if startsWith input "connect".toList then
      handleConnect input
    else
      pure .invalidInput
  else if g.smdConnected = 1 ∧ g.statusWaitingForAssembledMove = 0 ∧
      g.statusManualModeEnable = 0 then
    parseScenario1 input cl
  else if g.smdConnected = 1 ∧ g.statusWaitingForAssembledMove = 0 ∧
      g.statusManualModeEnable = 1 then
    parseScenario2 input cl
  else if g.smdConnected = 1 ∧ g.statusWaitingForAssembledMove = 1 then
    parseScenario3 input cl
  else
    pure .noRouteToHost

/-- `parse_socket_input`. -/
def parseSocketInput (input : Text) (cl : Int) : Server SmdResponseCode := do
  let g ← getGlobals
  dispatchIn g input cl

/-! ## What the client is told -/

/-- The line for a response code; `none` where nothing is written. -/
def responseLine : SmdResponseCode → Option Text
  | .commandSuccess => some "COMMAND_SUCCESS\n".toList
  | .connectSuccess => some "SMD_CONNECT_SUCCESS\n".toList
  | .handledByClient => none
  | .enableSuccess => some "ENABLE_SUCCESS\n".toList
  | .disableSuccess => some "DISABLE_SUCCESS\n".toList
  | .commandFailed => some "COMMAND_ERROR\n".toList
  | .invalidInput => some "INVALID_INPUT\n".toList
  | .noRouteToHost => some "NO_ROUTE_TO_SMD\n".toList
  | .invalidParameter => some "INVALID_PARAMETER\n".toList
  | .presetEncSuccess => some "PRESET_ENCODER_SUCCESS\n".toList
  | .presetEncFail => some "PRESET_ENCODER_FAIL\n".toList
  | .presetPosSuccess => some "PRESET_POSITION_SUCCESS\n".toList
  | .presetPosFail => some "PRESET_POSITION_FAIL\n".toList
  | .saveConfigSuccess => some "CONFIG_SAVE_SUCCESS\n".toList
  | .saveConfigFail => some "CONFIG_SAVE_FAIL\n".toList
  | .readyToReadConfig => some "READY_TO_READ_CONFIG\n".toList
  | .readCurrentConfigFail => some "GET_CURRENT_CONFIG_FAIL\n".toList
  | .resetErrorsSuccess => some "RESET_ERRORS_SUCCESS\n".toList
  | .readyForAssembledMove => some "SEND_ASSEMBLED_MOVE_PARAMETERS\n".toList
  | .assembledMoveAccepted => some "ASSEMBLED_MOVE_ACCEPTED\n".toList
  | .disconnectSuccess => none
  | .unknownError => none

/-- The line for a response code, and the end of a client that was told `INVALID_INPUT`. -/
def tellResponse (r : SmdResponseCode) (cl : Int) : Server Unit :=
  match responseLine r with
  | none => pure ()
  | some line => do
      let written ← writeToClient cl line
      if r = .invalidInput ∧ written = 0 then
        closeClient cl

/-- The chain of tests on the response code, of which one at most applies. -/
def answerClient (r : SmdResponseCode) (cl : Int) : Server Unit := do
  if r = .readyForAssembledMove then
    assign (.statusWaitingForAssembledMove 1)
  tellResponse r cl

/-- `parse_smd_response_to_client_input`. -/
def parseSmdResponseToClientInput (input : Text) (cl : Int) : Server Unit := do
  note (.message input)
  let smdResponse ← parseSocketInput input cl
  answerClient smdResponse cl

/-! ## The read loop -/

/-- The text that `parse_socket_input` sees for a chunk.  The buffer has been
cleared, so a chunk that leaves room ends where it ends; one that fills it runs
on into whatever lies behind. -/
def messageText (chunk : Chunk) (behind : Text) : Text :=
  if chunk.bytes.length < bufSize then
    ofBytes chunk.bytes
  else
    ofBytes (chunk.bytes ++ behind)

/-- The way out of a disconnect: close both connections and wait for the next
client. -/
def serveNextClient (cl : Int) : Server Int := do
  closeClient cl
  smdCloseCommandConnection
  note .clientGone
  -- the descriptor is kept in an `int16_t`
  let cl := toInt16 (← acceptClient)
  if cl = -1 then
    abort .exited
  else
    pure cl

/-- One turn of the `while (1)` of `open_server_socket`. -/
def serverIteration (cl : Int) : Server Int := do
  match ← readClient cl with
  | .received chunk =>
      if chunk.bytes.length < bufSize then
        parseSmdResponseToClientInput (messageText chunk []) cl
      else
        let stack ← uninitialised
        parseSmdResponseToClientInput (messageText chunk stack.text) cl
      pure cl
  | .endOfFile => serveNextClient cl
  | .failed _ => serveNextClient cl

/-- The loop of `open_server_socket`. -/
def serverLoopBody (cl : Int) : Server Unit := do
  let cl ← serverIteration cl
  invoke (.serverLoop cl)

/-- `open_server_socket` from its first `accept` on; the calls before it end the
process when they fail. -/
def openServerSocket : Server Unit := do
  let cl := toInt16 (← acceptClient)
  if cl = -1 then
    abort .exited
  else
    invoke (.serverLoop cl)

/-! ## The interpretation -/

/-- The bodies of the procedures. -/
def procedureBody : (p : Procedure) → Server (Result p)
  | .smdHoldMove => smdHoldMove
  | .smdImmedStop => smdImmedStop
  | .manualModeLoop locals => manualModeLoopBody locals
  | .serverLoop cl => serverLoopBody cl

/-- The server's code in its world. -/
def server : Interpretation serverSignature World where
  handle := handle
  body := procedureBody

end SmdControlServer
