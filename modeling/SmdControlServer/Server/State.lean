import Mathlib.Data.Stream.Defs
import Mathlib.Tactic.Simps.Basic
import SmdControlServer.Text.Numeral

/-!
# The state of the server and of what surrounds it

The first part has the enumerations and the globals of `SMD_Constants.h`.  The
second part is what the server cannot decide itself: how each Modbus/TCP
session with the drive goes, what `read` on the client socket and on the manual
file returns, which `pthread_create` succeeds, what becomes of `errno` in `perror`, what
uninitialised memory holds.  These are streams, one element for each time the server
asks.

`World` puts both together with the log of everything that was done.
-/

namespace SmdControlServer

open CString

/-! ## `SMD_Constants.h` -/

/-- `SMD_RESPONSE_CODES`. -/
inductive SmdResponseCode where
  | commandSuccess
  | commandFailed
  | connectSuccess
  | disconnectSuccess
  | handledByClient
  | enableSuccess
  | disableSuccess
  | invalidInput
  | noRouteToHost
  | invalidParameter
  | presetPosSuccess
  | presetEncSuccess
  | presetPosFail
  | presetEncFail
  | saveConfigSuccess
  | saveConfigFail
  | readCurrentConfigFail
  | readyToReadConfig
  | resetErrorsSuccess
  | unknownError
  | readyForAssembledMove
  | assembledMoveAccepted
  deriving DecidableEq, Repr

/-- `SMD_REGISTER_READ_TYPE`. -/
inductive SmdRegisterReadType where
  | readInputRegisters
  | readConfigRegisters
  deriving DecidableEq, Repr

/-- `SMD_ASSEMBLED_MOVE_TYPE`. -/
inductive SmdAssembledMoveType where
  | blend
  | dwell
  | none
  deriving DecidableEq, Repr

/-- `SMD_JOG_DIRECTION` of the manual mode. -/
inductive SmdJogDirection where
  | noDirection
  | clockwise
  | counterClockwise
  deriving DecidableEq, Repr

/-- The `int` that an `SMD_JOG_DIRECTION` is passed on as. -/
def SmdJogDirection.toInt : SmdJogDirection → Int
  | noDirection => 100
  | clockwise => 0
  | counterClockwise => 1

/-! ## What the drive answers -/

/-- One Modbus/TCP session, from the thread that opens it to its end. -/
structure Session where
  /-- `pthread_create` of the worker thread returned 0 -/
  threadCreated : Bool
  /-- `modbus_new_tcp` did not return NULL -/
  allocated : Bool
  /-- `modbus_connect` did not return -1 -/
  opens : Bool
  /-- the `errno` that a failed attempt to connect leaves -/
  connectErrno : Int
  /-- the `i`-th `modbus_write_register` did not return -1 -/
  writeSucceeds : Nat → Bool
  /-- what `modbus_read_registers` reads, unless it returns -1 -/
  registers : Option (Fin 10 → BitVec 16)

/-- `modbus_connect` succeeds; it fails on a NULL context. -/
def Session.connects (s : Session) : Bool :=
  s.allocated && s.opens

/-- A `modbus_t *`.  `id` is the address that it has. -/
structure Context where
  id : Nat
  session : Session

/-! ## Commands and JSON -/

/-- A register program: the arguments of one `send_modbus_command`.  Both
arrays have `num_registers` elements, and every caller gives its command a
name. -/
structure RegisterProgram where
  commandName : Text
  registers : List Int
  values : List Int
  sameLength : registers.length = values.length
  named : commandName ≠ []
  deriving DecidableEq

/-- The register writes in the order of the loop. -/
def RegisterProgram.writes (cmd : RegisterProgram) : List (Int × Int) :=
  cmd.registers.zip cmd.values

def RegisterProgram.numRegisters (cmd : RegisterProgram) : Nat :=
  cmd.registers.length

theorem RegisterProgram.length_writes (cmd : RegisterProgram) :
    cmd.writes.length = cmd.numRegisters := by
  rw [RegisterProgram.writes, List.length_zip, ← cmd.sameLength, Nat.min_self]
  rfl

/-- What a thread is started to do. -/
inductive Routine where
  | sendModbusCommand (cmd : RegisterProgram)
  | readModbusRegisters (readType : SmdRegisterReadType)
  | manualModeController
  deriving DecidableEq

/-- `assembled_move_segment`. -/
structure AssembledMoveSegment where
  targetPosInches : Int
  programmedSpeed : Int
  accel : Int
  decel : Int
  jerk : Int
  deriving DecidableEq, Repr

/-- The fields that are stored as `int16_t` have values of that type. -/
structure AssembledMoveSegment.Narrowed (s : AssembledMoveSegment) : Prop where
  accel : toInt16 s.accel = s.accel
  decel : toInt16 s.decel = s.decel
  jerk : toInt16 s.jerk = s.jerk

/-- The fields have values of their types, the others that of `int32_t`. -/
structure AssembledMoveSegment.Typed (s : AssembledMoveSegment) : Prop extends s.Narrowed where
  targetPosInches : toInt32 s.targetPosInches = s.targetPosInches
  programmedSpeed : toInt32 s.programmedSpeed = s.programmedSpeed

/-- A `cJSON` item as the library shows it: its key, its string and integer values, its
children, and what a lookup of a key comes to.  Keys and string values may be NULL. -/
inductive CJson where
  | item (string : Option Text) (valuestring : Option Text) (valueint : Int)
      (child : List CJson) (found : Text → Option CJson)

namespace CJson

def string : CJson → Option Text
  | item s _ _ _ _ => s

def valuestring : CJson → Option Text
  | item _ v _ _ _ => v

def valueint : CJson → Int
  | item _ _ n _ _ => n

def child : CJson → List CJson
  | item _ _ _ cs _ => cs

end CJson

/-- `cJSON_GetObjectItem`, which is the library's. -/
def cJsonGetObjectItem : CJson → Text → Option CJson
  | .item _ _ _ _ found, key => found key

namespace CJson

/-- The key of the item, upper and lower case being the same. -/
def isNamed (c : CJson) (key : Text) : Bool :=
  match c.string with
  | none => false
  | some s => s.map Char.toLower == key.map Char.toLower

/-- What is documented of `cJSON_GetObjectItem`: it finds a child with the key, upper and lower
case being the same, and NULL only where there is none. -/
structure Finds (object : CJson) : Prop where
  named : ∀ {key : Text} {c : CJson}, cJsonGetObjectItem object key = some c →
    c ∈ object.child ∧ c.isNamed key = true
  absent : ∀ {key : Text}, cJsonGetObjectItem object key = none →
    ∀ c ∈ object.child, c.isNamed key = false

theorem Finds.ne_none_iff {object : CJson} (h : object.Finds) {key : Text} :
    cJsonGetObjectItem object key ≠ none ↔ ∃ c ∈ object.child, c.isNamed key = true := by
  constructor
  · intro hfound
    obtain ⟨c, hc⟩ := Option.ne_none_iff_exists'.mp hfound
    exact ⟨c, h.named hc⟩
  · rintro ⟨c, hmem, hnamed⟩ hnone
    rw [h.absent hnone c hmem] at hnamed
    cases hnamed

/-- An item in which the first such child is found. -/
def withItems (string valuestring : Option Text) (valueint : Int) (child : List CJson) : CJson :=
  .item string valuestring valueint child fun key => child.find? fun c => c.isNamed key

theorem finds_withItems {string valuestring : Option Text} {valueint : Int} {child : List CJson} :
    (withItems string valuestring valueint child).Finds where
  named {key c} hfound := by
    have hfind : child.find? (fun c => c.isNamed key) = some c := hfound
    have hmem : c ∈ child := List.mem_of_find?_eq_some hfind
    exact ⟨hmem, (List.find?_eq_some_iff_append.mp hfind).1⟩
  absent {key} hnone c hmem := by
    have hfind : child.find? (fun c => c.isNamed key) = none := hnone
    exact Bool.eq_false_iff.mpr (List.find?_eq_none.mp hfind c hmem)

end CJson

/-! ## Globals -/

/-- The globals that the modelled functions read and write.  `deviceIp` is
`none` where `DEVICE_IP` points to no live allocation. -/
structure Globals where
  deviceIp : Option Text
  smdConnected : Int
  smdCommandConnection : Option Context
  statusWaitingForAssembledMove : Int
  statusManualModeEnable : Int
  statusTypeAssembledMove : SmdAssembledMoveType

/-- The initial values of `SMD_Constants.c`. -/
def Globals.initial : Globals where
  deviceIp := none
  smdConnected := 0
  smdCommandConnection := none
  statusWaitingForAssembledMove := 0
  statusManualModeEnable := 0
  statusTypeAssembledMove := .none

/-- One assignment to one global. -/
inductive Assignment where
  | deviceIp (ip : Option Text)
  | smdConnected (value : Int)
  | smdCommandConnection (ctx : Option Context)
  | statusWaitingForAssembledMove (value : Int)
  | statusManualModeEnable (value : Int)
  | statusTypeAssembledMove (moveType : SmdAssembledMoveType)

def Globals.assign (g : Globals) : Assignment → Globals
  | .deviceIp ip => { g with deviceIp := ip }
  | .smdConnected value => { g with smdConnected := value }
  | .smdCommandConnection ctx => { g with smdCommandConnection := ctx }
  | .statusWaitingForAssembledMove value =>
      { g with statusWaitingForAssembledMove := value }
  | .statusManualModeEnable value => { g with statusManualModeEnable := value }
  | .statusTypeAssembledMove moveType =>
      { g with statusTypeAssembledMove := moveType }

/-! ## What the operating system answers -/

/-- `ERANGE`, `EBADF` and `EPIPE`. -/
def erange : Int := 34
def ebadf : Int := 9
def epipe : Int := 32

/-- `BUF_SIZE`. -/
def bufSize : Nat := 8192

/-- The bytes of one successful `read` of the client socket. -/
structure Chunk where
  bytes : List Char
  nonempty : bytes ≠ []
  bounded : bytes.length ≤ bufSize

/-- One `read` of the client socket. -/
inductive ClientRead where
  | received (chunk : Chunk)
  | endOfFile
  | failed (errno : Int)

/-- One turn of the manual mode at its file. -/
inductive ManualRead where
  | noAccess (errno : Int)
  | openFailed (errno : Int)
  | readFailed (errno : Int)
  | contents (bytes : List Char)

/-- The strings of ten registers, `char registers[10][INPUT_REGISTER_STRING_SIZE]`. -/
abbrev RegisterStrings := Fin 10 → Text

/-- Ten registers are read at a time, and a numeral of `Fin 10` is the place of one. -/
instance instNeZeroRegisters : NeZero 10 := ⟨by decide⟩

/-- The `errno` that a `perror` leaves in place of the one it was called with, as it may where
the standard error is closed or open for writing only.  It is not `ERANGE`. -/
structure PerrorErrno where
  errno : Int
  notErange : errno ≠ erange

/-- What a stretch of uninitialised memory holds when it is read. -/
structure Uninitialised where
  registers : RegisterStrings
  text : Text
  segments : Fin 16 → AssembledMoveSegment
  typed : ∀ k, (segments k).Typed

/-! ## The log and the world -/

/-- Points of the code that the log records although nothing outside the server
sees them. -/
inductive Note where
  | message (input : Text)
  | smdJog (direction accel decel jerk speed : Int)
  | smdHoldMove
  | manualModeStarted
  | manualModeStopped
  | clientGone
  deriving DecidableEq

/-- The log of what the server does. -/
inductive Event where
  | threadStarted (routine : Routine) (created : Bool)
  | contextAllocated (id : Nat)
  | contextConnected (id : Nat) (succeeded : Bool)
  | registerWritten (id : Nat) (register value : Int) (succeeded : Bool)
  | registersRead (id : Nat) (succeeded : Bool)
  | contextClosed (id : Nat)
  | contextFreed (id : Nat)
  | clientAccepted (cl : Int)
  | clientRead (cl : Int)
  | clientWritten (cl : Int) (message : Text)
  | clientClosed (cl : Int)
  | noted (note : Note)
  deriving DecidableEq

/-- The server's memory, its surroundings and the log.  `errno` is that of the
running thread. -/
structure World where
  globals : Globals
  errno : Int
  drive : Stream' Session
  clientReads : Stream' ClientRead
  clientWrites : Stream' (Option Int)
  accepts : Stream' Int
  manualReads : Stream' ManualRead
  controllerThreads : Stream' Bool
  perrors : Stream' (Option PerrorErrno)
  memory : Stream' Uninitialised
  cJsonParse : Text → Option CJson
  contextIds : Stream' Nat
  log : List Event

namespace World

/-- Append to the log. -/
def record (w : World) (e : Event) : World :=
  { w with log := w.log ++ [e] }

@[simps -fullyApplied] def assign (w : World) (a : Assignment) : World :=
  { w with globals := w.globals.assign a }

@[simps -fullyApplied] def setErrno (w : World) (e : Int) : World :=
  { w with errno := e }

/-- A `perror` leaves `errno` alone, or it leaves one of its own. -/
@[simps -fullyApplied] def afterPerror (w : World) : World :=
  { w with
    errno := (w.perrors.head.map PerrorErrno.errno).getD w.errno
    perrors := w.perrors.tail }

end World

/-! ## Concrete surroundings

The worlds of the examples: a drive that does what it is asked, and everything
else answering at once. -/

/-- A session in which everything succeeds and the registers read `words`. -/
def Session.answering (words : Fin 10 → BitVec 16) : Session where
  threadCreated := true
  allocated := true
  opens := true
  connectErrno := 0
  writeSucceeds := fun _ => true
  registers := some words

/-- The globals after a successful `connect`. -/
def Globals.connectedTo (ip : Text) : Globals :=
  { Globals.initial with deviceIp := some ip, smdConnected := 1 }

/-- Memory that is zero but for a string. -/
def Uninitialised.cleared (text : Text) : Uninitialised where
  registers := fun _ => []
  text := text
  segments := fun _ => ⟨0, 0, 0, 0, 0⟩
  typed := fun _ => ⟨⟨rfl, rfl, rfl⟩, rfl, rfl⟩

/-- A world in which only the drive matters. -/
def World.facing (globals : Globals) (drive : Stream' Session) : World where
  globals := globals
  errno := 0
  drive := drive
  clientReads := Stream'.const .endOfFile
  clientWrites := Stream'.const none
  accepts := Stream'.const 5
  manualReads := Stream'.const (.contents [])
  controllerThreads := Stream'.const true
  perrors := Stream'.const none
  memory := Stream'.const (Uninitialised.cleared [])
  cJsonParse := fun _ => none
  contextIds := Stream'.const 0
  log := []

/-- A server that is connected to a drive that does what it is asked. -/
def World.ready : World :=
  World.facing (Globals.connectedTo "10.0.0.5".toList)
    (Stream'.const (Session.answering fun _ => 0))

/-- The chunk that is one line. -/
def Chunk.ofLine (body : Text) (h : body.length < bufSize) : Chunk where
  bytes := body ++ ['\n']
  nonempty := by simp
  bounded := by
    rw [List.length_append, List.length_singleton]
    omega

def connectLine : Chunk := .ofLine "connect,10.0.0.5".toList (by decide)
def disconnectLine : Chunk := .ofLine "disconnect".toList (by decide)
def startManualModeLine : Chunk := .ofLine "startManualMode".toList (by decide)
def stopManualModeLine : Chunk := .ofLine "stopManualMode".toList (by decide)

/-- The reads of a client that sends these chunks and then goes. -/
def readsOf (chunks : List Chunk) : Stream' ClientRead :=
  chunks.map ClientRead.received ++ₛ Stream'.const .endOfFile

/-- A numeric member of a JSON object. -/
def CJson.number (key : Text) (n : Int) : CJson :=
  .withItems (some key) none n []

/-- A segment member of a profile. -/
def CJson.segment (key : Text) (s : AssembledMoveSegment) : CJson :=
  .withItems (some key) none 0 [.number "target_pos_inches".toList s.targetPosInches,
    .number "programmed_speed".toList s.programmedSpeed, .number "accel".toList s.accel,
    .number "decel".toList s.decel, .number "jerk".toList s.jerk]

/-- The `type` member of a profile. -/
def CJson.moveType (type : Text) : CJson :=
  .withItems (some "type".toList) (some type) 0 []

@[simp] theorem CJson.finds_segment {key : Text} {s : AssembledMoveSegment} :
    (CJson.segment key s).Finds :=
  finds_withItems

@[simp] theorem CJson.finds_moveType {type : Text} : (CJson.moveType type).Finds :=
  finds_withItems

/-- A server whose client sends this profile, whatever the text. -/
def World.profiling (members : List CJson) (drive : Stream' Session) : World :=
  { World.facing (Globals.connectedTo "10.0.0.5".toList) drive with
    cJsonParse := fun _ => some (.withItems none none 0 members) }

end SmdControlServer
