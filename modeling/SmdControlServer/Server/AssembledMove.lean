import SmdControlServer.Server.MotorCommands

/-!
# `SMD_Motor_Commands.c`: assembled moves
-/

namespace SmdControlServer

open CString Interaction

/-! ## Preparing the drive for an assembled move -/

def programFirstBlockProgram : RegisterProgram where
  commandName := "program_first_block".toList
  registers := [1025, 1024]
  values := [32768, 2048]
  sameLength := by decide
  named := by decide

/-- What `_SMD_program_block_first_block` does with the string of its status read. -/
def checkStatus (registersString : Text) : Server SmdResponseCode :=
  -- a negative or too small size of the variable-length array
  if numberOfTokens registersString < 3 then
    abort .outOfBounds
  else
    let tokens := tokenizeClientInput registersString (numberOfTokens registersString).toNat
    if tokens.result ≠ 0 then
      pure .commandFailed
    else
      let (converted, binString) := hexStringToBinString [] 16 (tokens.token 2)
      if converted = 0 ∧ binString[6]? = some '1' ∧ binString[7]? = some '1' then
        pure .commandSuccess
      else
        pure .commandFailed

/-- `_SMD_program_block_first_block`. -/
def smdProgramBlockFirstBlock : Server SmdResponseCode := do
  let rc ← sendModbusCommand programFirstBlockProgram
  if rc = .commandSuccess then
    sleep 1000000
    let stack ← uninitialised
    let reply ← returnModbusRegisters stack.registers 10 .readInputRegisters (-1)
      (some []) 128
    if reply.result = .noRouteToHost ∨ reply.result = .commandFailed then
      pure .commandFailed
    else
      checkStatus reply.registersString
  else
    pure .commandFailed

/-- `SMD_program_assembled_move`. -/
def smdProgramAssembledMove : Server SmdResponseCode := do
  let response ← smdProgramBlockFirstBlock
  if response = .commandSuccess then
    pure .readyForAssembledMove
  else
    let _ ← smdResetErrors
    pure .commandFailed

/-! ## Uploading a profile -/

/-- The program of `_SMD_program_move_segment`. -/
def moveSegmentProgram (s : AssembledMoveSegment) : RegisterProgram where
  commandName := "program_move_segment".toList
  registers := [1025, 1026, 1027, 1028, 1029, 1030, 1031, 1033, 1024]
  values := [32768, (convertIntToWords s.targetPosInches).upperWord,
    (convertIntToWords s.targetPosInches).lowerWord,
    (convertIntToWords s.programmedSpeed).upperWord,
    (convertIntToWords s.programmedSpeed).lowerWord, s.accel, s.decel, s.jerk, 6144]
  sameLength := rfl
  named := by decide

def prepareForNextSegmentProgram : RegisterProgram where
  commandName := "prepare_for_next_segment".toList
  registers := [1025, 1024]
  values := [32768, 2048]
  sameLength := by decide
  named := by decide

/-- The fields of a segment member, narrowed to those of
`assembled_move_segment`; `none` when one of the five lookups is NULL. -/
def readSegment (subitem : CJson) : Option AssembledMoveSegment := do
  let targetPosInches ← cJsonGetObjectItem subitem "target_pos_inches".toList
  let programmedSpeed ← cJsonGetObjectItem subitem "programmed_speed".toList
  let accel ← cJsonGetObjectItem subitem "accel".toList
  let decel ← cJsonGetObjectItem subitem "decel".toList
  let jerk ← cJsonGetObjectItem subitem "jerk".toList
  pure {
    targetPosInches := targetPosInches.valueint
    programmedSpeed := programmedSpeed.valueint
    accel := toInt16 accel.valueint
    decel := toInt16 decel.valueint
    jerk := toInt16 jerk.valueint }

/-- `segments[16]`, `num_segments` and the indices stored at so far. -/
structure SegmentTable where
  segments : Fin 16 → AssembledMoveSegment
  numSegments : Nat
  storedAt : List Nat

/-- `segments[i] = new_segment; num_segments++`.  A store past the array is not
one the model can go on from. -/
def SegmentTable.store (t : SegmentTable) (i : Nat) (s : AssembledMoveSegment) :
    Except Fault SegmentTable :=
  if h : i < 16 then
    .ok {
      segments := Function.update t.segments ⟨i, h⟩ s
      numSegments := t.numSegments + 1
      storedAt := t.storedAt ++ [i] }
  else
    .error .outOfBounds

/-- The loop over the members of the profile, `i` being the position of the
next one. -/
def collectSegments : List CJson → Nat → SegmentTable → Except Fault SegmentTable
  | [], _, t => .ok t
  | subitem :: rest, i, t =>
      match subitem.string with
      | none => .error .nullDereference
      | some key =>
          if startsWith key "segment".toList then
            match readSegment subitem with
            | none => .error .nullDereference
            | some s =>
                match t.store i s with
                | .error fault => .error fault
                | .ok t => collectSegments rest (i + 1) t
          else
            collectSegments rest (i + 1) t

/-- The move type that a `type` string selects. -/
def moveTypeOf (type : Text) : Option SmdAssembledMoveType :=
  if startsWith type "dwell".toList then
    some .dwell
  else if startsWith type "blend".toList then
    some .blend
  else
    none

/-- `bin_string[6]` for the register string of status word 0. -/
def statusBit (statusMsw : Text) : Option Char :=
  (hexStringToBinString [] 17 statusMsw).2[6]?

/-- The line `MOVE_SEGMENT_ACCEPTED_i_OF_n`, cut to `client_message`. -/
def segmentAcceptedMessage (i numSegments : Nat) : Text :=
  snprintf 32 ("MOVE_SEGMENT_ACCEPTED_".toList ++ formatInt (i + 1) ++ "_OF_".toList ++
    formatInt numSegments ++ "\n".toList)

/-- The upload loop, from the segment at index `i` on. -/
def uploadSegments (numSegments : Nat) (cl : Int) :
    Nat → List AssembledMoveSegment → Server SmdResponseCode
  | _, [] => pure .commandSuccess
  | i, s :: rest => do
      -- what the send returns is not looked at
      let _ ← sendModbusCommand (moveSegmentProgram s)
      sleep 1000000
      let stack ← uninitialised
      let reply ← returnModbusRegisters stack.registers 10 .readInputRegisters (-1)
        (some []) 128
      sleep 1000000
      if reply.result = .noRouteToHost ∨ reply.result = .commandFailed then
        pure .commandFailed
      else if statusBit (reply.registers 0) = some '0' then
        let prepared ← sendModbusCommand prepareForNextSegmentProgram
        if prepared = .commandSuccess then
          sleep 1000000
          let reply ← returnModbusRegisters reply.registers 10 .readInputRegisters (-1)
            (some reply.registersString) 128
          if reply.result = .noRouteToHost ∨ reply.result = .commandFailed then
            pure .commandFailed
          else
            -- a clear bit has no branch of its own: the loop goes on
            if statusBit (reply.registers 0) = some '1' then
              let _ ← writeToClient cl (segmentAcceptedMessage i numSegments)
            uploadSegments numSegments cl (i + 1) rest
        else
          pure .commandFailed
      else
        pure .commandFailed

/-- `SMD_parse_and_upload_assembled_move`. -/
def smdParseAndUploadAssembledMove (jsonString : Text) (cl : Int) :
    Server SmdResponseCode := do
  match ← cJsonParse jsonString with
  | none => pure .commandFailed
  | some root =>
      let stack ← uninitialised
      match collectSegments root.child 0 ⟨stack.segments, 0, []⟩ with
      | .error fault => abort fault
      | .ok table =>
          if table.numSegments = 0 ∨ table.numSegments > 16 then
            pure .commandFailed
          else
            match (cJsonGetObjectItem root "type".toList).bind CJson.valuestring with
            | none => abort .nullDereference
            | some type =>
                match moveTypeOf type with
                | none => pure .commandFailed
                | some moveType =>
                    assign (.statusTypeAssembledMove moveType)
                    uploadSegments table.numSegments cl 0
                      ((List.ofFn table.segments).take table.numSegments)

/-! ## Running the assembled move -/

/-- The program of `SMD_run_assembled_move`. -/
def runAssembledMoveProgram (lsw dwellTime : Int) : RegisterProgram where
  commandName := "run_assembled_move".toList
  registers := [1025, 1033, 1024]
  values := [lsw, dwellTime, 8192]
  sameLength := rfl
  named := by decide

/-- `SMD_run_assembled_move`. -/
def smdRunAssembledMove (blendMoveDirection dwellTime : Int)
    (moveType : SmdAssembledMoveType) : Server SmdResponseCode := do
  let g ← getGlobals
  if moveType = .blend ∧ g.statusTypeAssembledMove = .blend then
    sendModbusCommand (runAssembledMoveProgram
      (if blendMoveDirection = 0 then 32768 else 32784) dwellTime)
  else if moveType = .dwell ∧ g.statusTypeAssembledMove = .dwell then
    if dwellTime ≥ 0 then
      sendModbusCommand (runAssembledMoveProgram 33280 dwellTime)
    else
      pure .invalidParameter
  else
    pure .invalidParameter

end SmdControlServer
