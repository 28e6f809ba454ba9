import Mathlib.Data.Stream.Defs
import SmdControlServer.Interaction.Traces
import SmdControlServer.Manual.Samples

/-!
# `SMD_Server_Sketch.ino`

The sketch of the board on which the server runs: it starts the server, and as long as
`pgrep` finds it, it reads the potentiometer and the switch and has a shell write them to
the file of the manual mode.
-/

namespace SmdControlServer

open CString Interaction

/-! ## What the sketch asks of the board -/

inductive Pin where
  | analog (n : Nat)
  | digital (n : Nat)
  deriving DecidableEq

inductive PinMode where
  | output
  | inputPullup
  deriving DecidableEq

inductive PinLevel where
  | low
  | high
  deriving DecidableEq

/-- The requests.  A redirected `echo` is two of them, since the shell empties the file before
`echo` writes to it. -/
inductive SketchRequest where
  | fileExists (path : Text)
  | emptyFile (path : Text)
  | writeFile (path text : Text)
  | runCommand (command : Text)
  | pgrep (name : Text)
  | pinMode (pin : Pin) (mode : PinMode)
  | digitalWrite (pin : Pin) (level : PinLevel)
  | analogRead (pin : Pin)
  | digitalRead (pin : Pin)
  | delay (milliseconds : Nat)

/-- The answers: `pgrep` answers with what `parseInt` makes of its output, `analogRead` with
a conversion to ten bits. -/
abbrev SketchAnswer : SketchRequest → Type
  | .fileExists _ => Bool
  | .emptyFile _ => Unit
  | .writeFile _ _ => Unit
  | .runCommand _ => Unit
  | .pgrep _ => Int
  | .pinMode _ _ => Unit
  | .digitalWrite _ _ => Unit
  | .analogRead _ => Fin 1024
  | .digitalRead _ => Fin 2
  | .delay _ => Unit

/-- `LED_ON`, `POT_VALUE` and `JOG_DIRECTION`. -/
structure SketchGlobals where
  ledOn : Int
  potValue : Int
  jogDirection : Int
  deriving DecidableEq

/-- The loops: the wait of `setup`, the loop of `loop`, and `loop` itself, which is called
over and over. -/
inductive SketchProcedure where
  | awaitServer
  | whileLedOn (g : SketchGlobals)
  | loop (g : SketchGlobals)

abbrev SketchResult : SketchProcedure → Type
  | .awaitServer => Unit
  | .whileLedOn _ => SketchGlobals
  | .loop _ => Unit

abbrev sketchSignature : Signature where
  Request := SketchRequest
  Answer := SketchAnswer
  Procedure := SketchProcedure
  Result := SketchResult

abbrev Sketch (α : Type) := Program sketchSignature α

namespace Sketch

abbrev ask (o : SketchRequest) : Sketch (SketchAnswer o) :=
  Program.perform (S := sketchSignature) o .done

abbrev invoke (p : SketchProcedure) : Sketch (SketchResult p) :=
  Program.call (S := sketchSignature) p .done

/-! ## The shell -/

/-- The text and the path of a command `echo text > path`. -/
def redirected (command : Text) : Option (Text × Text) :=
  match command.splitOn ' ' with
  | [name, text, arrow, path] =>
      if name = "echo".toList ∧ arrow = ">".toList then some (text, path) else none
  | _ => none

/-- `runShellCommand`. -/
def runShellCommand (command : Text) : Sketch Unit :=
  match redirected command with
  | some (text, path) => do
      ask (.emptyFile path)
      ask (.writeFile path (text ++ ['\n']))
  | none => ask (.runCommand command)

/-! ## The sketch -/

/-- `ANALOG_INPUT`. -/
def analogInput : Pin := .analog 1

/-- `DIRECTION_SWITCH`. -/
def directionSwitch : Pin := .digital 3

/-- `LED_PIN`. -/
def ledPin : Pin := .digital 13

/-- `MANUAL_VALUES_FILE_PATH`. -/
def manualValuesFilePath : Text := "/tmp/smd_manual_values".toList

def serverPath : Text := "/mnt/sda1/smd_server/SMDServer".toList

/-- The command that starts the server. -/
def startCommand : Text :=
  ("export LD_LIBRARY_PATH=/mnt/sda1/smd_server/lib && ifconfig eth1 10.20.6.2 && " ++
    "/mnt/sda1/smd_server/SMDServer -d").toList

/-- The `touch` of `setup`, with the directory twice. -/
def touchCommand : Text := "touch /tmp/".toList ++ manualValuesFilePath

/-- `while(!FileSystem.exists(..)) delay(1000);` from its test on. -/
def awaitServerBody : Sketch Unit := do
  let found ← ask (.fileExists serverPath)
  if found then
    pure ()
  else
    ask (.delay 1000)
    invoke .awaitServer

/-- `setup`. -/
def setup : Sketch SketchGlobals := do
  invoke .awaitServer
  runShellCommand startCommand
  runShellCommand touchCommand
  ask (.pinMode ledPin .output)
  ask (.pinMode directionSwitch .inputPullup)
  pure { ledOn := 1, potValue := 0, jogDirection := 0 }

/-- `commandString`. -/
def commandString (jogDirection potValue : Int) : Text :=
  "echo ".toList ++ (formatInt jogDirection ++ comma :: (formatInt potValue ++
    (" > ".toList ++ manualValuesFilePath)))

/-- `checkLED`. -/
def checkLed (g : SketchGlobals) : Sketch SketchGlobals := do
  let pid ← ask (.pgrep "SMDServer".toList)
  pure { g with ledOn := if pid > 0 then 1 else 0 }

/-- `while(LED_ON == 1) { .. }` from its test on. -/
def whileLedOnBody (g : SketchGlobals) : Sketch SketchGlobals := do
  if g.ledOn = 1 then
    ask (.digitalWrite ledPin .high)
    let reading ← ask (.analogRead analogInput)
    let direction ← ask (.digitalRead directionSwitch)
    let g := { g with potValue := reading.val, jogDirection := direction.val }
    runShellCommand (commandString g.jogDirection g.potValue)
    let g ← checkLed g
    ask (.delay 1)
    invoke (.whileLedOn g)
  else
    pure g

/-- `loop`, and its next call. -/
def loopBody (g : SketchGlobals) : Sketch Unit := do
  let g ← checkLed g
  let g ← invoke (.whileLedOn g)
  ask (.digitalWrite ledPin .low)
  invoke (.loop g)

/-- `setup` once, and `loop` from then on. -/
def sketch : Sketch Unit := do
  let g ← setup
  invoke (.loop g)

end Sketch

/-! ## The board -/

/-- The files of the board, and what the sketch is going to find. -/
structure Board where
  files : Text → Option Text
  existence : Stream' Bool
  pids : Stream' Int
  readings : Stream' (Fin 1024)
  directions : Stream' (Fin 2)

/-- The contents of the file of the manual mode. -/
def Board.manualFile (b : Board) : Option Text :=
  b.files Sketch.manualValuesFilePath

/-- The file is as the sketch leaves it: there is none, or it is empty, or it has the line of
a sample. -/
def Board.LeftBySketch (b : Board) : Prop :=
  ∀ bytes, b.manualFile = some bytes → bytes = [] ∨ ∃ s : Sample, bytes = s.line

namespace Sketch

/-- Answer one request.  No command but `echo` touches the file: `touch` is given another
path. -/
def handle : (o : SketchRequest) → Board → Option (SketchAnswer o × Board)
  | .fileExists _, b => some (b.existence.head, { b with existence := b.existence.tail })
  | .emptyFile path, b => some ((), { b with files := Function.update b.files path (some []) })
  | .writeFile path text, b =>
      some ((), { b with files := Function.update b.files path (some text) })
  | .runCommand _, b => some ((), b)
  | .pgrep _, b => some (b.pids.head, { b with pids := b.pids.tail })
  | .pinMode _ _, b => some ((), b)
  | .digitalWrite _ _, b => some ((), b)
  | .analogRead _, b => some (b.readings.head, { b with readings := b.readings.tail })
  | .digitalRead _, b => some (b.directions.head, { b with directions := b.directions.tail })
  | .delay _, b => some ((), b)

def procedureBody : (p : SketchProcedure) → Sketch (SketchResult p)
  | .awaitServer => awaitServerBody
  | .whileLedOn g => whileLedOnBody g
  | .loop g => loopBody g

def board : Interpretation sketchSignature Board where
  handle := handle
  body := procedureBody

/-- The sketch is the only thread, and it has nothing of its own. -/
def sharing : Sharing sketchSignature Board Unit where
  load _ b := b
  save _ := ()
  spawn _ _ := none

def start (b : Board) : Threads sketchSignature Board Unit where
  threads := [⟨sketch, ()⟩]
  state := b

/-- What the sketch has done after some steps. -/
abbrev Executes (b : Board) :
    List (Entry sketchSignature) → Threads sketchSignature Board Unit → Prop :=
  Threads.Executes board sharing (fun _ _ => True) (start b)

end Sketch

end SmdControlServer
