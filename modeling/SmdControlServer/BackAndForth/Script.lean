import SmdControlServer.Interaction.Environment
import SmdControlServer.Server.Iteration
import SmdControlServer.Upload.Handshake

/-!
# `back_and_forth.py`

The example client.  It has the server connect to the drive, resets the errors, presets the
position and then asks for one relative move over and over.  After each line it waits for the
success line of the server, and after each move for the time that the move takes.

`telnet` is the example and the server on the two ends of one connection.
-/

namespace SmdControlServer

open CString Interaction

/-! ## What the example asks for -/

/-- What comes of `tn.expect`: a match, `-1`, or an exception when the server has gone. -/
inductive Expected where
  | found
  | timedOut
  | raised
  deriving DecidableEq

inductive ScriptRequest where
  | print (text : Text)
  | rawInput (prompt : Text)
  | telnetOpen (host : Text) (port seconds : Nat)
  | write (line : Text)
  | expect (pattern : Text) (seconds : Nat)
  | sleep (hundredths : Nat)

/-- The answers: `rawInput` has none when the input has ended, and `telnetOpen` and `write`
say whether there was no `socket_error`. -/
abbrev ScriptAnswer : ScriptRequest → Type
  | .print _ => Unit
  | .rawInput _ => Option Text
  | .telnetOpen _ _ _ => Bool
  | .write _ => Bool
  | .expect _ _ => Expected
  | .sleep _ => Unit

/-- The options, in steps and seconds. -/
structure MoveOptions where
  acc : Int
  dec : Int
  jerk : Int
  velocity : Int
  distance : Int
  iterations : Int
  deriving DecidableEq

/-- The two loops of `relativeMove`, from their tests on. -/
inductive ScriptProcedure where
  | whileMovesLeft (a : MoveOptions) (i : Int)
  | whileTrue (a : MoveOptions)

abbrev scriptSignature : Signature where
  Request := ScriptRequest
  Answer := ScriptAnswer
  Procedure := ScriptProcedure
  Result := fun _ => Bool

/-- A piece of the script that returns an `α`. -/
abbrev Script (α : Type) := Program scriptSignature α

namespace BackAndForth

abbrev ask (o : ScriptRequest) : Script (ScriptAnswer o) :=
  Program.perform (S := scriptSignature) o .done

abbrev invoke (p : ScriptProcedure) : Script Bool :=
  Program.call (S := scriptSignature) p .done

/-! ## The script

A part of it that may end the script, by `exit` or by an exception, returns `false` then. -/

/-- The defaults of the options. -/
def defaults : MoveOptions where
  acc := 250
  dec := 250
  jerk := 0
  velocity := 1000
  distance := 1000
  iterations := 4

/-- `AMCI_HOST`. -/
def amciHost : Text := "192.168.1.131".toList

/-- Go on if the script has not ended. -/
def thenIf (p q : Script Bool) : Script Bool := do
  let goesOn ← p
  if goesOn then q else pure false

/-- A line is written, and its answer waited for. -/
def exchange (line pattern complaint : Text) : Script Bool := do
  let written ← ask (.write line)
  if written then
    match ← ask (.expect pattern 5) with
    | .found => pure true
    | .timedOut => do
        ask (.print complaint)
        pure false
    | .raised => pure false
  else
    ask (.print ("Could not write to AMCI host at ".toList ++ amciHost))
    pure false

def connectLine : Text := "connect,".toList ++ amciHost ++ "\n".toList

def resetErrorsLine : Text := "resetErrors\n".toList

def presetMotorPositionLine : Text := "presetMotorPosition,0\n".toList

/-- The line of a move. -/
def relativeMoveLine (a : MoveOptions) : Text :=
  "relativeMove,".toList ++ formatInt a.distance ++ ",".toList ++ formatInt a.acc ++
    ",".toList ++ formatInt a.dec ++ ",".toList ++ formatInt a.jerk ++ ",".toList ++
    formatInt a.velocity ++ "\n".toList

/-- `(distance/velocity)+0.75` in hundredths of a second: the quotient is rounded down, there
is none by zero, and `time.sleep` refuses a time below zero. -/
def moveTime (a : MoveOptions) : Option Nat :=
  if a.velocity = 0 then
    none
  else if 100 * a.distance.fdiv a.velocity + 75 < 0 then
    none
  else
    some (100 * a.distance.fdiv a.velocity + 75).toNat

/-- One turn of either loop. -/
def moveOnce (a : MoveOptions) : Script Bool :=
  thenIf (exchange (relativeMoveLine a) "COMMAND_SUCCESS".toList
      "Could not execute relativeMove!".toList) (
    match moveTime a with
    | none => pure false
    | some hundredths => do
        ask (.sleep hundredths)
        pure true)

/-- `while(i > 0)`. -/
def whileMovesLeftBody (a : MoveOptions) (i : Int) : Script Bool :=
  if i > 0 then
    thenIf (moveOnce a) (invoke (.whileMovesLeft a (i - 1)))
  else
    pure true

/-- `while(True)`. -/
def whileTrueBody (a : MoveOptions) : Script Bool :=
  thenIf (moveOnce a) (invoke (.whileTrue a))

/-- `relativeMove` once the connection to the server is open, up to its last line. -/
def converse (a : MoveOptions) : Script Bool :=
  thenIf (exchange connectLine "SMD_CONNECT_SUCCESS".toList
      "Could not connect to AMCI host!".toList) <|
    thenIf (exchange resetErrorsLine "COMMAND_SUCCESS".toList
        "Could not execute resetErrors!".toList) <|
      thenIf (exchange presetMotorPositionLine "PRESET_POSITION_SUCCESS".toList
          "Could not execute presetMotorPosition!".toList) <|
        if a.iterations > 0 then
          invoke (.whileMovesLeft a a.iterations)
        else
          invoke (.whileTrue a)

/-- The last line of `relativeMove`. -/
def doneText : Text := "Done!".toList

/-- `relativeMove`. -/
def relativeMove (a : MoveOptions) : Script Unit := do
  let opened ← ask (.telnetOpen "localhost".toList 7000 10)
  if opened then
    let finished ← converse a
    if finished then
      ask (.print doneText)
    else
      pure ()
  else
    ask (.print ("Could not connect smd_server at localhost - " ++
      "is the server running?").toList)

/-- What the user is shown.  The distance that is shown is the acceleration. -/
def summary (a : MoveOptions) : List Text :=
  ["Ready to execute move with these parameters:".toList,
    "Acceleration (steps/s^2):\t".toList ++ formatInt a.acc,
    "Deceleration (steps/s^2):\t".toList ++ formatInt a.dec,
    "Acceleration Jerk (steps/s^3):\t".toList ++ formatInt a.jerk,
    "Move velocity (steps/s):\t".toList ++ formatInt a.velocity,
    "Move Distance (steps):\t\t".toList ++ formatInt a.acc,
    [],
    "Number of iterations: ".toList ++
      (if a.iterations > 0 then formatInt a.iterations
      else "Infinite! Stop with ctrl-c.".toList),
    [],
    ("*** Don't want any of this? ctrl-c and execute with the -h option " ++
      "for help ***").toList,
    "*** Want infinite moves? Set iterations (-i) to -1 ***".toList,
    []]

/-- One line after the other. -/
def printAll : List Text → Script Unit
  | [] => pure ()
  | text :: rest => do
      ask (.print text)
      printAll rest

/-- `main` with the options that it was given. -/
def main (a : MoveOptions) : Script Unit := do
  if a.iterations = 0 then
    ask (.print "Iterations cannot be zero!".toList)
  else
    printAll (summary a)
    let answer ← ask (.rawInput "Ready to move? (y/n): ".toList)
    if answer = some "y".toList then
      relativeMove a
    else
      pure ()

def procedureBody : (p : ScriptProcedure) → Script Bool
  | .whileMovesLeft a i => whileMovesLeftBody a i
  | .whileTrue a => whileTrueBody a

end BackAndForth

/-! ## The example and the server -/

/-- What is left of a text after the first match of a pattern without special characters. -/
def afterMatch (pattern : Text) : Text → Option Text
  | [] => if pattern = [] then some [] else none
  | c :: rest =>
      if pattern.isPrefixOf (c :: rest) then
        some ((c :: rest).drop pattern.length)
      else
        afterMatch pattern rest

/-- The two ends: the lines that the server has not read yet, what it has written and the
example has not yet got past, what the example has printed, whether the server has given up
the connection, and the server with the descriptor of its client. -/
structure Telnet where
  outbox : List Text
  inbox : Text
  output : List Text
  gone : Bool
  cl : Int
  world : World

namespace Telnet

/-- What the server writes in one turn of its loop. -/
def told (w w' : World) : Text :=
  ((newEvents w w').filterMap Event.clientLine?).flatten

/-- How the requests of the example are answered.  A `write` that fails may have sent its line
all the same, and `expect` may come to nothing at any time. -/
def Answers : (o : ScriptRequest) → Telnet → ScriptAnswer o → Telnet → Prop
  | .print text, t, _, t' => t' = { t with output := t.output ++ [text] }
  | .write line, t, written, t' =>
      t' = { t with outbox := t.outbox ++ [line] } ∨ written = false ∧ t' = t
  | .expect pattern _, t, .found, t' =>
      ∃ rest, afterMatch pattern t.inbox = some rest ∧ t' = { t with inbox := rest }
  | .expect _ _, t, _, t' => ∃ rest, rest <:+ t.inbox ∧ t' = { t with inbox := rest }
  | .rawInput _, t, _, t' => t' = t
  | .telnetOpen _ _ _, t, _, t' => t' = t
  | .sleep _, t, _, t' => t' = t

/-- One turn of the server, whose `read` gets the next line of the example, whole and alone. -/
def TakesLine (t t' : Telnet) : Prop :=
  t.gone = false ∧ ∃ line rest cl' w', t.outbox = line :: rest ∧
    t.world.nextMessage = some line ∧ Runs server (serverIteration t.cl) t.world cl' w' ∧
    t' = { t with outbox := rest, inbox := t.inbox ++ told t.world w', cl := cl', world := w' }

/-- A turn in which its `read` gets nothing, whether the example has gone or the connection is
broken: the server goes on with its next client. -/
def HangsUp (t t' : Telnet) : Prop :=
  t.gone = false ∧ t.world.nextMessage = none ∧ ∃ cl' w',
    Runs server (serverIteration t.cl) t.world cl' w' ∧
      t' = { t with gone := true, cl := cl', world := w' }

def Moves (t t' : Telnet) : Prop :=
  t.TakesLine t' ∨ t.HangsUp t'

section HangsUp

variable {t t' : Telnet}

theorem HangsUp.output (h : t.HangsUp t') : t'.output = t.output := by
  obtain ⟨_, _, _, _, _, rfl⟩ := h
  rfl

theorem HangsUp.inbox (h : t.HangsUp t') : t'.inbox = t.inbox := by
  obtain ⟨_, _, _, _, _, rfl⟩ := h
  rfl

/-- What is asked of a connection that there still is holds then. -/
theorem HangsUp.vacuous (h : t.HangsUp t') {P : Prop} : t'.gone = false → P := by
  obtain ⟨_, _, _, _, _, rfl⟩ := h
  intro hhere
  cases hhere

end HangsUp

end Telnet

/-- The example in front of the server. -/
def telnet : Environment scriptSignature Telnet where
  answers := Telnet.Answers
  moves := Telnet.Moves
  body := BackAndForth.procedureBody

/-- The example is started, and the server in this world has just accepted it. -/
def BackAndForth.start (a : MoveOptions) (cl : Int) (w : World) : Script Unit × Telnet :=
  (BackAndForth.main a,
    { outbox := [], inbox := [], output := [], gone := false, cl := cl, world := w })

end SmdControlServer
