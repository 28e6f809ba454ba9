import SmdControlServer.Server.MotorCommands

/-!
# `SMD_Motor_Commands.c`: the manual mode
-/

namespace SmdControlServer

open CString Interaction

/-- `POT_SCALE`. -/
def potScale : Int := 30

/-- The locals of `_manual_mode_controller` before its loop. -/
def ControllerLocals.initial : ControllerLocals where
  buf := List.replicate 128 '\x00'
  currentJogDirection := .noDirection
  currentSpeed := 0

/-- What `read(filed, buf, 16)` makes of the buffer. -/
def readInto (buf bytes : List Char) : List Char :=
  bytes.take 16 ++ buf.drop (bytes.take 16).length

/-- `if (buf[ln] == '\n') buf[ln] = '\0'` for `ln = strlen(buf) - 1`.  With an
empty text the byte before the buffer is looked at, which the buffer does not
show. -/
def stripNewline (buf : List Char) : List Char :=
  if (ofBytes buf).getLast? = some '\n' then
    buf.set ((ofBytes buf).length - 1) '\x00'
  else
    buf

/-- The sample in the buffer: `pot_value` and `jog_value`, in the order in which
the code converts them. -/
def decodeSample (text : Text) : Server (Int × SmdJogDirection) := do
  let tokens := tokenizeClientInput text 2
  let reading ← convertStringToLongInt (tokens.token 1)
  let direction ← convertStringToLongInt (tokens.token 0)
  pure (toInt32 (reading * potScale),
    if direction = 0 then .clockwise else .counterClockwise)

/-- The range check on a sample.  The direction has been collapsed to two values
already. -/
def sampleValid (potValue : Int) (jogValue : SmdJogDirection) : Bool :=
  (jogValue == .clockwise || jogValue == .counterClockwise) &&
    (potValue.tdiv potScale ≥ 0 && potValue.tdiv potScale ≤ 1023)

/-- `SMD_jog(current_jog_direction, 250, 250, 0, current_speed)`. -/
def jogAt (direction : SmdJogDirection) (speed : Int) : Server SmdResponseCode :=
  smdJog direction.toInt 250 250 0 speed

/-- What the controller does with a valid sample. -/
def applySample (locals : ControllerLocals) (potValue : Int)
    (jogValue : SmdJogDirection) : Server ControllerLocals := do
  if locals.currentJogDirection = .noDirection then
    let locals := { locals with currentJogDirection := jogValue, currentSpeed := potValue }
    if potValue ≠ 0 then
      let _ ← jogAt locals.currentJogDirection locals.currentSpeed
    pure locals
  else if potValue = 0 then
    if locals.currentSpeed ≠ 0 then
      let _ ← smdHoldMove
    pure { locals with currentJogDirection := jogValue, currentSpeed := 0 }
  else if locals.currentSpeed ≠ potValue ∨ locals.currentJogDirection ≠ jogValue then
    if locals.currentJogDirection ≠ jogValue then
      let _ ← smdHoldMove
      sleep 500000
    let locals := { locals with currentJogDirection := jogValue, currentSpeed := potValue }
    let _ ← jogAt locals.currentJogDirection locals.currentSpeed
    pure locals
  else
    pure locals

/-- The part of a turn that follows the read: a text of two tokens is a sample. -/
def handleSample (locals : ControllerLocals) : Server ControllerLocals :=
  if numberOfTokens (ofBytes locals.buf) = 2 then do
    let (potValue, jogValue) ← decodeSample (ofBytes locals.buf)
    if sampleValid potValue jogValue then
      applySample locals potValue jogValue
    else
      pure locals
  else
    pure locals

/-- The file is read into the buffer, and `sample` goes on. -/
def readSample (sample : ControllerLocals → Server ControllerLocals) (locals : ControllerLocals) :
    Server ControllerLocals := do
  match ← readManualFile with
  | .noAccess _ => pure locals
  | .openFailed _ => pure locals
  | .contents [] => pure locals
  | outcome =>
      -- `nbytes` is unsigned, so a failed read goes on with the old buffer
      let bytes := match outcome with
        | .contents bytes => bytes
        | _ => []
      sample { locals with buf := stripNewline (readInto locals.buf bytes) }

/-- One turn of the loop after the flag has been tested, up to the last
`usleep`. -/
def manualModeIteration (locals : ControllerLocals) : Server ControllerLocals :=
  readSample handleSample locals

/-- The loop of `_manual_mode_controller` from its test on. -/
def manualModeLoopBody (locals : ControllerLocals) : Server Unit := do
  let g ← getGlobals
  if g.statusManualModeEnable = 1 then
    let locals ← manualModeIteration locals
    sleep 3000
    invoke (.manualModeLoop locals)
  else
    pure ()

/-- `_manual_mode_controller`. -/
def manualModeController : Server Unit :=
  invoke (.manualModeLoop ControllerLocals.initial)

/-- `SMD_set_manual_mode`.  The controller thread is not joined. -/
def smdSetManualMode : Server SmdResponseCode := do
  let created ← pthreadCreate .manualModeController
  if !created then
    pure .commandFailed
  else
    note .manualModeStarted
    pure .commandSuccess

end SmdControlServer
