import SmdControlServer.Server.Modbus

/-!
# `SMD_Motor_Commands.c`: the connection and the single commands

Each command is a register program.  The programs are definitions of their own,
next to the function that sends them, since most of what is said about the
commands is said about the programs.
-/

namespace SmdControlServer

open CString Interaction

/-! ## Motor command connection -/

/-- `SMD_open_command_connection`. -/
def smdOpenCommandConnection : Server SmdResponseCode := do
  let ctx ← modbusNewTcp
  assign (.smdCommandConnection (some ctx))
  let ip ← deviceIp
  let connected ← if ip.length = 0 then pure false else modbusConnect ctx
  if !connected then
    let e ← modbusErrno ctx
    setErrno e
    modbusFree ctx
    assign (.smdConnected 0)
    pure .noRouteToHost
  else
    assign (.smdConnected 1)
    pure .connectSuccess

/-- `SMD_close_command_connection`. -/
def smdCloseCommandConnection : Server Unit := do
  let g ← getGlobals
  match g.smdCommandConnection with
  | none => pure ()
  | some ctx =>
      if ctx.session.allocated ∧ g.smdConnected = 1 then
        modbusClose ctx
        modbusFree ctx
        assign (.smdCommandConnection none)
        assign (.smdConnected 0)
        assign (.statusManualModeEnable 0)
        assign (.statusWaitingForAssembledMove 0)
        assign (.deviceIp none)
      else
        pure ()

/-! ## Range checks -/

/-- The checks on acceleration, deceleration, jerk and speed that `SMD_jog`,
`SMD_relative_move` and `SMD_find_home` share. -/
def moveParametersValid (accel decel jerk speed : Int) : Bool :=
  !(accel < 1 || accel > 5000) && !(decel < 1 || decel > 5000) &&
    !(jerk < 0 || jerk > 5000) && !(speed < 0 || speed > 2999999)

/-- The check on a position. -/
def positionValid (pos : Int) : Bool :=
  !(pos < -8388607 || pos > 8388607)

/-- The words of a speed as `SMD_jog` and `SMD_set_configuration` compute them,
lower first. -/
def inlineSpeedWords (speed : Int) : Int × Int :=
  if speed.tdiv 1000 > 0 then
    (toInt16 (speed.tmod 1000), toInt16 ((speed - speed.tmod 1000).tdiv 1000))
  else
    (toInt16 speed, 0)

/-! ## Motor moves -/

/-- The program of `SMD_jog`. -/
def jogProgram (direction accel decel jerk speed : Int) : RegisterProgram where
  commandName := "jog".toList
  registers := [1024, 1025, 1026, 1027, 1028, 1029, 1030, 1031, 1032, 1033, 1024]
  values := [0, 32768, 0, 0, (inlineSpeedWords speed).2, (inlineSpeedWords speed).1,
    accel, decel, 0, jerk, if direction = 0 then 128 else 256]
  sameLength := rfl
  named := by decide

/-- `SMD_jog`. -/
def smdJog (direction accel decel jerk speed : Int) : Server SmdResponseCode := do
  note (.smdJog direction accel decel jerk speed)
  if direction < 0 ∨ direction > 1 then
    pure .invalidParameter
  else if !moveParametersValid accel decel jerk speed then
    pure .invalidParameter
  else
    sendModbusCommand (jogProgram direction accel decel jerk speed)

/-- The program of `SMD_relative_move`. -/
def relativeMoveProgram (relPos accel decel jerk speed : Int) : RegisterProgram where
  commandName := "relative_move".toList
  registers := [1024, 1025, 1026, 1027, 1028, 1029, 1030, 1031, 1033, 1024]
  values := [0, 32768, (convertIntToWords relPos).upperWord,
    (convertIntToWords relPos).lowerWord, (convertIntToWords speed).upperWord,
    (convertIntToWords speed).lowerWord, accel, decel, jerk, 2]
  sameLength := rfl
  named := by decide

/-- `SMD_relative_move`. -/
def smdRelativeMove (relPos accel decel jerk speed : Int) : Server SmdResponseCode :=
  if !positionValid relPos then
    pure .invalidParameter
  else if !moveParametersValid accel decel jerk speed then
    pure .invalidParameter
  else
    sendModbusCommand (relativeMoveProgram relPos accel decel jerk speed)

/-- The program of `SMD_find_home`. -/
def findHomeProgram (direction speed accel decel jerk : Int) : RegisterProgram where
  commandName := "find_home".toList
  registers := [1025, 1028, 1029, 1030, 1031, 1033, 1032, 1024]
  values := [32768, (convertIntToWords speed).upperWord,
    (convertIntToWords speed).lowerWord, accel, decel, jerk, 0,
    if direction = 0 then 32 else 64]
  sameLength := rfl
  named := by decide

/-- `SMD_find_home`. -/
def smdFindHome (direction speed accel decel jerk : Int) : Server SmdResponseCode :=
  if direction < 0 ∨ direction > 1 then
    pure .invalidParameter
  else if !moveParametersValid accel decel jerk speed then
    pure .invalidParameter
  else
    sendModbusCommand (findHomeProgram direction speed accel decel jerk)

/-! ## Commands with a fixed program -/

def driveEnableProgram : RegisterProgram where
  commandName := "drive_enable".toList
  registers := [1025, 1024]
  values := [32768, 0]
  sameLength := rfl
  named := by decide

def driveDisableProgram : RegisterProgram where
  commandName := "drive_disable".toList
  registers := [1025, 1024]
  values := [0, 0]
  sameLength := rfl
  named := by decide

def holdMoveProgram : RegisterProgram where
  commandName := "hold_move".toList
  registers := [1024, 1025, 1024]
  values := [0, 32768, 4]
  sameLength := rfl
  named := by decide

def immediateStopProgram : RegisterProgram where
  commandName := "immediate_stop".toList
  registers := [1025, 1024]
  values := [32768, 16]
  sameLength := rfl
  named := by decide

def resetErrorsProgram : RegisterProgram where
  commandName := "reset_errors".toList
  registers := [1024, 1024, 1025]
  values := [0, 1024, 32768]
  sameLength := rfl
  named := by decide

def loadConfigurationProgram : RegisterProgram where
  commandName := "load_configuration".toList
  registers := [1025, 1024, 1026, 1027, 1028, 1029, 1030, 1031, 1032, 1033]
  values := [34816, 32768, 0, 0, 0, 0, 0, 0, 0, 0]
  sameLength := rfl
  named := by decide

/-- Send a program and translate the two outcomes. -/
def sendAnd (cmd : RegisterProgram) (success failure : SmdResponseCode) :
    Server SmdResponseCode := do
  let response ← sendModbusCommand cmd
  if response = .commandSuccess then pure success else pure failure

/-- `SMD_drive_enable`. -/
def smdDriveEnable : Server SmdResponseCode :=
  sendAnd driveEnableProgram .enableSuccess .commandFailed

/-- `SMD_drive_disable`. -/
def smdDriveDisable : Server SmdResponseCode :=
  sendAnd driveDisableProgram .disableSuccess .commandFailed

/-- `SMD_hold_move`. -/
def smdHoldMove : Server SmdResponseCode := do
  note .smdHoldMove
  sendModbusCommand holdMoveProgram

/-- `SMD_immed_stop`. -/
def smdImmedStop : Server SmdResponseCode :=
  sendModbusCommand immediateStopProgram

/-- `SMD_reset_errors`. -/
def smdResetErrors : Server SmdResponseCode :=
  sendModbusCommand resetErrorsProgram

/-- `SMD_load_current_configuration`. -/
def smdLoadCurrentConfiguration : Server SmdResponseCode :=
  sendAnd loadConfigurationProgram .readyToReadConfig .readCurrentConfigFail

/-! ## Reading registers -/

/-- Read the registers for the client.  A refused connection and a refused
thread are failures, everything else has been answered by the worker. -/
def smdReadRegisters (readType : SmdRegisterReadType) (cl : Int) :
    Server SmdResponseCode := do
  let stack ← uninitialised
  let reply ← readModbusRegisters stack.registers 10 readType cl
  if reply.result = .noRouteToHost ∨ reply.result = .commandFailed then
    pure .commandFailed
  else
    pure .handledByClient

/-- `SMD_read_input_registers`. -/
def smdReadInputRegisters (cl : Int) : Server SmdResponseCode :=
  smdReadRegisters .readInputRegisters cl

/-- `SMD_read_current_configuration`. -/
def smdReadCurrentConfiguration (cl : Int) : Server SmdResponseCode :=
  smdReadRegisters .readConfigRegisters cl

/-! ## Presets and configuration -/

/-- The program of the two presets: `trigger` is what register 1024 gets. -/
def presetProgram (commandName : Text) (named : commandName ≠ []) (trigger pos : Int) :
    RegisterProgram where
  commandName := commandName
  registers := [1025, 1026, 1027, 1024]
  values := [32768, (convertIntToWords pos).upperWord,
    (convertIntToWords pos).lowerWord, trigger]
  sameLength := rfl
  named := named

def presetEncoderProgram (pos : Int) : RegisterProgram :=
  presetProgram "preset_encoder".toList (by decide) 16384 pos

def presetMotorProgram (pos : Int) : RegisterProgram :=
  presetProgram "preset_motor".toList (by decide) 512 pos

/-- `SMD_preset_encoder_position`. -/
def smdPresetEncoderPosition (pos : Int) : Server SmdResponseCode :=
  if !positionValid pos then
    pure .invalidParameter
  else
    sendAnd (presetEncoderProgram pos) .presetEncSuccess .presetEncFail

/-- `SMD_preset_motor_position`. -/
def smdPresetMotorPosition (pos : Int) : Server SmdResponseCode :=
  if !positionValid pos then
    pure .invalidParameter
  else
    sendAnd (presetMotorProgram pos) .presetPosSuccess .presetPosFail

/-- The checks of `SMD_set_configuration`. -/
def configurationValid (startingSpeed stepsPerTurn encPulsesPerTurn
    idleCurrentPercentage motorCurrent : Int) : Bool :=
  !(startingSpeed < 1 || startingSpeed > 1999999) &&
    !(stepsPerTurn < 200 || stepsPerTurn > 32767) &&
    !(encPulsesPerTurn != 1024) &&
    !(idleCurrentPercentage < 0 || idleCurrentPercentage > 100) &&
    !(motorCurrent < 10 || motorCurrent > 34)

/-- The program of `SMD_set_configuration`. -/
def setConfigurationProgram (controlWord configWord startingSpeed stepsPerTurn
    encPulsesPerTurn idleCurrentPercentage motorCurrent : Int) : RegisterProgram where
  commandName := "set_configuration".toList
  registers := [1025, 1024, 1026, 1027, 1028, 1030, 1031, 1032]
  values := [configWord, controlWord, (inlineSpeedWords startingSpeed).2,
    (inlineSpeedWords startingSpeed).1, stepsPerTurn, encPulsesPerTurn,
    idleCurrentPercentage, motorCurrent]
  sameLength := rfl
  named := by decide

/-- `SMD_set_configuration`. -/
def smdSetConfiguration (controlWord configWord startingSpeed stepsPerTurn
    encPulsesPerTurn idleCurrentPercentage motorCurrent : Int) :
    Server SmdResponseCode :=
  if !configurationValid startingSpeed stepsPerTurn encPulsesPerTurn
      idleCurrentPercentage motorCurrent then
    pure .invalidParameter
  else
    sendAnd (setConfigurationProgram controlWord configWord startingSpeed stepsPerTurn
      encPulsesPerTurn idleCurrentPercentage motorCurrent)
      .saveConfigSuccess .saveConfigFail

end SmdControlServer
