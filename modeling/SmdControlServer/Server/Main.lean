import SmdControlServer.Text.Getopt
import SmdControlServer.Text.Numeral

/-!
# `main.c`

What the options set and what they start, before the server's loop.
-/

namespace SmdControlServer

open CString

/-- The globals that the options set. -/
structure Settings where
  serverPort : Int
  verbose : Int
  manualValsFilePath : Text
  deriving DecidableEq, Repr

/-- Their values in `SMD_Constants.c`. -/
def Settings.initial : Settings where
  serverPort := 7000
  verbose := 0
  manualValsFilePath := "/tmp/smd_manual_values".toList

/-- The system as `main` finds it: the user, and whether the two `fork`s and `setsid` of
`daemonize` succeed. -/
structure Surroundings where
  geteuid : Int
  firstFork : Bool
  setsid : Bool
  secondFork : Bool
  deriving DecidableEq, Repr

/-- How a process that runs `main` goes on.  At a `fork` it is the child that is followed;
the parent ends there. -/
inductive Started
  /-- `start_listening`, which opens the server socket again and again and never returns -/
  | startListening (settings : Settings)
  /-- `exit(EXIT_FAILURE)` -/
  | exitFailure
  /-- `main` returns 0 -/
  | returned
  deriving DecidableEq, Repr

/-- `daemonize`: whether the last child is reached. -/
def daemonize (surroundings : Surroundings) : Bool :=
  surroundings.firstFork && surroundings.setsid && surroundings.secondFork

/-- `atoi`. -/
def atoi (str : Text) : Int :=
  toInt32 (strtol str).value

/-- The loop of `parse_args` over what `getopt` returns.  The options behind a run option are
never asked for. -/
def parseArgsLoop (surroundings : Surroundings) (argc : Nat) :
    List (Char × Text) → Settings → Started
  | [], _ => if argc = 1 then .exitFailure else .returned
  | ('d', _) :: _, settings =>
      if daemonize surroundings then .startListening settings else .exitFailure
  | ('v', _) :: _, settings => .startListening { settings with verbose := 1 }
  | ('p', optarg) :: rest, settings =>
      if argc ≤ 3 then
        .exitFailure
      else
        parseArgsLoop surroundings argc rest { settings with serverPort := toInt16 (atoi optarg) }
  | ('m', optarg) :: rest, settings =>
      parseArgsLoop surroundings argc rest { settings with manualValsFilePath := optarg }
  -- `show_usage` ends the process for `h`, `?` and the rest alike
  | _ :: _, _ => .exitFailure

/-- `parse_args`.  The first word of `argv` is the program's name. -/
def parseArgs (surroundings : Surroundings) (argv : List Text) : Started :=
  parseArgsLoop surroundings argv.length (getopt "dhvp:m:".toList argv.tail) Settings.initial

/-- `main`. -/
def main (surroundings : Surroundings) (argv : List Text) : Started :=
  if surroundings.geteuid ≠ 0 then
    .exitFailure
  else
    parseArgs surroundings argv

end SmdControlServer
