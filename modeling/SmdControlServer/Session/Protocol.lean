import SmdControlServer.Commands.Dispatch
import SmdControlServer.Interaction.Conversation

/-!
# The protocol of the clients

What a message is taken for depends on the mode that the server is in, and a client is never
told which one that is.  `clientProtocol` says it from the client's side: the mode after
each message follows from the message and the last line that was written for it.  It also
says which lines can be written for a message, and that a connection is to the address that
the client has named.

This is a statement of what the dialogue is meant to be.  `Session.Dialogue` shows that the
server keeps to it.
-/

namespace SmdControlServer

open CString Interaction

/-- What a message is taken for: a `connect`, a command, a command of the manual mode, or
the profile of an assembled move. -/
inductive Mode where
  | disconnected
  | ordinary
  | manual
  | loading
  deriving DecidableEq, Repr

/-- The mode that the server's flags stand for. -/
def Globals.mode (g : Globals) : Mode :=
  if g.smdConnected = 0 then
    .disconnected
  else if g.statusWaitingForAssembledMove = 1 then
    .loading
  else if g.statusManualModeEnable = 1 then
    .manual
  else
    .ordinary

/-! ## The commands of a message -/

instance (input : Text) : DecidablePred (Command.Selects input)
  | .jogCCW => inferInstanceAs (Decidable (_ <:+: input))
  | .jogCW => inferInstanceAs (Decidable (_ ∧ _))
  | .homeCCW => inferInstanceAs (Decidable (_ ∧ _))
  | .homeCW => inferInstanceAs (Decidable (_ ∧ _))
  | .disconnect => inferInstanceAs (Decidable (_ ∧ _))
  | .saveConfig => inferInstanceAs (Decidable (_ ∧ _))
  | .relativeMove => inferInstanceAs (Decidable (_ ∧ _))
  | .driveEnable => inferInstanceAs (Decidable (_ ∧ _))
  | .driveDisable => inferInstanceAs (Decidable (_ ∧ _))
  | .holdMove => inferInstanceAs (Decidable (_ ∧ _))
  | .immedStop => inferInstanceAs (Decidable (_ ∧ _))
  | .resetErrors => inferInstanceAs (Decidable (_ ∧ _))
  | .readInputRegisters => inferInstanceAs (Decidable (_ ∧ _))
  | .loadCurrentConfiguration => inferInstanceAs (Decidable (_ ∧ _))
  | .readCurrentConfiguration => inferInstanceAs (Decidable (_ ∧ _))
  | .presetMotorPosition => inferInstanceAs (Decidable (_ ∧ _))
  | .presetEncoderPosition => inferInstanceAs (Decidable (_ ∧ _))
  | .programAssembledMove => inferInstanceAs (Decidable (_ ∧ _))
  | .runAssembledDwellMove => inferInstanceAs (Decidable (_ ∧ _))
  | .runAssembledBlendMove => inferInstanceAs (Decidable (_ ∧ _))
  | .startManualMode => inferInstanceAs (Decidable (_ ∧ _))

/-- The command that a message selects in the ordinary mode. -/
def Command.selected? (message : Text) : Option Command :=
  (motions ++ others).find? fun c => decide (Selects message c)

theorem Command.selected?_of_selects {message : Text} {c : Command} (h : Selects message c) :
    selected? message = some c := by
  unfold selected?
  cases hfound : (motions ++ others).find? fun c => decide (Selects message c) with
  | none =>
      have hnone := List.find?_eq_none.mp hfound c
        (List.mem_append.mpr c.mem_motions_or_mem_others)
      exact absurd (decide_eq_true h) hnone
  | some c' =>
      have hselects := List.find?_some hfound
      rw [selects_unique h (of_decide_eq_true hselects)]

theorem Command.selected?_eq_none {message : Text} (h : ∀ c, ¬ Selects message c) :
    selected? message = none :=
  List.find?_eq_none.mpr fun c _ hc => h c (of_decide_eq_true hc)

/-- What a command can come to. -/
def Command.codes : Command → List SmdResponseCode
  | disconnect => [.disconnectSuccess]
  | saveConfig => [.invalidParameter, .saveConfigSuccess, .saveConfigFail]
  | driveEnable => [.enableSuccess, .commandFailed]
  | driveDisable => [.disableSuccess, .commandFailed]
  | holdMove => [.commandSuccess, .commandFailed]
  | immedStop => [.commandSuccess, .commandFailed]
  | resetErrors => [.commandSuccess, .commandFailed]
  | readInputRegisters => [.commandFailed, .handledByClient]
  | loadCurrentConfiguration => [.readyToReadConfig, .readCurrentConfigFail]
  | readCurrentConfiguration => [.commandFailed, .handledByClient]
  | presetMotorPosition => [.invalidParameter, .presetPosSuccess, .presetPosFail]
  | presetEncoderPosition => [.invalidParameter, .presetEncSuccess, .presetEncFail]
  | programAssembledMove => [.readyForAssembledMove, .commandFailed]
  | startManualMode => [.commandSuccess, .commandFailed]
  | _ => [.invalidParameter, .commandSuccess, .commandFailed]

/-- The registers that a command has read for the client. -/
def Command.readType? : Command → Option SmdRegisterReadType
  | readInputRegisters => some .readInputRegisters
  | readCurrentConfiguration => some .readConfigRegisters
  | _ => none

/-- The mode after a command, given the last line that was told for it. -/
def Command.modeAfter (last : Option Text) : Command → Mode
  | disconnect => .disconnected
  | startManualMode => .manual
  | programAssembledMove =>
      if last = responseLine .readyForAssembledMove then .loading else .ordinary
  | _ => .ordinary

namespace Mode

/-- What a message can come to. -/
def codes (message : Text) : Mode → List SmdResponseCode
  | disconnected =>
      if "connect".toList <+: message then
        [.invalidParameter, .noRouteToHost, .connectSuccess]
      else
        [.invalidInput]
  | ordinary => (Command.selected? message).elim [.invalidInput] Command.codes
  | manual =>
      if "stopManualMode".toList <+: message ∨ "resetErrors".toList <+: message then
        [.commandSuccess, .commandFailed]
      else if "readInputRegisters".toList <+: message then
        [.commandFailed, .handledByClient]
      else
        [.invalidInput]
  | loading => [.assembledMoveAccepted, .commandFailed]

/-- The registers that are read for the client. -/
def readType? (message : Text) : Mode → Option SmdRegisterReadType
  | ordinary => (Command.selected? message).bind Command.readType?
  | manual =>
      if "readInputRegisters".toList <+: message then some .readInputRegisters else none
  | _ => none

/-- The lines that are written before the line of the response code: those of the segments
that a profile has been accepted for, in their order, or the registers that were read.  A
read that failed in the drive is not told. -/
def Announces (message : Text) (r : SmdResponseCode) (lines : List Text) (mode : Mode) : Prop :=
  lines = [] ∨
  (mode = loading ∧ ∃ n ≤ 16,
    lines.Sublist ((List.range n).map fun i => segmentAcceptedMessage i n)) ∨
  ∃ readType, mode.readType? message = some readType ∧ r = .handledByClient ∧
    ∃ words, lines = [clientWriteString readType words]

/-- What a client can be told for a message. -/
def Replies (mode : Mode) (message : Text) (lines : List Text) : Prop :=
  ∃ r ∈ mode.codes message, ∃ announced, mode.Announces message r announced ∧
    lines = announced ++ (responseLine r).toList

/-- The mode after a message, which the last line gives away. -/
def after (mode : Mode) (e : Exchange Text Text) : Mode :=
  match mode with
  | disconnected =>
      if e.told.getLast? = responseLine .connectSuccess then ordinary else disconnected
  | ordinary => (Command.selected? e.asked).elim ordinary (Command.modeAfter e.told.getLast?)
  | manual =>
      if "stopManualMode".toList <+: e.asked then
        if e.told.getLast? = responseLine .commandSuccess then ordinary else disconnected
      else
        manual
  | loading => ordinary

section

variable {message : Text} {c : Command}

theorem codes_of_selects (h : Command.Selects message c) : ordinary.codes message = c.codes := by
  unfold codes
  rw [Command.selected?_of_selects h]
  rfl

theorem readType?_of_selects (h : Command.Selects message c) :
    ordinary.readType? message = c.readType? := by
  unfold readType?
  rw [Command.selected?_of_selects h]
  rfl

theorem after_of_selects (h : Command.Selects message c) (told : List Text) :
    ordinary.after ⟨message, told⟩ = c.modeAfter told.getLast? := by
  unfold after
  simp only [Command.selected?_of_selects h, Option.elim_some]

end

end Mode

/-- The protocol of the clients. -/
def clientProtocol : Protocol Mode Text Text where
  start := .disconnected
  replies := Mode.Replies
  after := Mode.after

/-- A conversation with a client, the latest message first. -/
abbrev Conversation := List (Exchange Text Text)

/-- The address that a `connect` names. -/
def addressNamed (message : Text) : Text :=
  (tokenizeClientInput message 2).token 1

/-- The address that was named last while there was no connection. -/
def Conversation.address : Conversation → Text
  | [] => []
  | e :: past =>
      if clientProtocol.mode past = .disconnected then addressNamed e.asked
      else Conversation.address past

end SmdControlServer
