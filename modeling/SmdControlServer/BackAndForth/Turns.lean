import SmdControlServer.BackAndForth.Script
import SmdControlServer.Commands.Address
import SmdControlServer.Commands.Registers
import SmdControlServer.Commands.StopAttempts
import SmdControlServer.Motor.Commands
import SmdControlServer.Upload.Loaded

/-!
# The server and the lines of the example

What one turn of the server makes of each line of the example: the program that is sent, the
line that is answered, and the state in which the next line finds the server.

* `Deals` — the dispatch of a line, with the command that it stands for.
* `Deals.turn` — the whole turn.
-/

namespace SmdControlServer

open CString Interaction

/-! ## What is seen of a turn -/

/-- What is written to a register. -/
def Event.written? (e : Event) : Option (Int × Int) :=
  e.registerWrite?.map fun write => (write.register, write.value)

theorem filterMap_written (es : List Event) :
    es.filterMap Event.written? =
      (registerWrites es).map fun write => (write.register, write.value) := by
  unfold registerWrites
  rw [List.map_filterMap]
  rfl

theorem filterMap_writeEvents (ctx : Context) (i : Nat) (writes : List (Int × Int)) :
    (writeEvents ctx i writes).filterMap Event.written? = writes := by
  induction writes generalizing i with
  | nil => rfl
  | cons write rest ih =>
      show write :: (writeEvents ctx (i + 1) rest).filterMap Event.written? = _
      rw [ih]

/-- A program is written in the session that opens for it, and only there. -/
theorem observed_written_afterSend (w : World) (cmd : RegisterProgram) :
    Observed Event.written? w (w.afterSend cmd) (if w.opens then cmd.writes else []) := by
  unfold World.afterSend
  by_cases hopens : w.opens
  · rw [if_pos hopens, if_pos hopens]
    refine ⟨openingEvents (.sendModbusCommand cmd) w ++
      writeEvents ⟨w.contextIds.head, w.drive.head⟩ 0 cmd.writes ++
        closingEvents w.contextIds.head, rfl, ?_⟩
    simp only [List.filterMap_append, filterMap_writeEvents]
    rw [filterMap_written, filterMap_written, registerWrites_openingEvents,
      registerWrites_closingEvents, List.map_nil, List.nil_append, List.append_nil]
  · rw [if_neg hopens, if_neg hopens]
    split
    · refine ⟨refusalEvents cmd w, ?_, ?_⟩
      · simp [World.afterRefusal, World.afterSession, refusalEvents]
      · rw [filterMap_written, registerWrites_refusalEvents, List.map_nil]
    · exact ⟨[.threadStarted (.sendModbusCommand cmd) false], rfl, rfl⟩

/-- Nothing is told while a program is sent. -/
theorem observed_clientLine_afterSend (w : World) (cmd : RegisterProgram) :
    Observed Event.clientLine? w (w.afterSend cmd) [] :=
  observed_afterSend seesThreads_clientLine fun _ => rfl

theorem Telnet.told_eq {w w' : World} {lines : List Text}
    (h : Observed Event.clientLine? w w' lines) : Telnet.told w w' = lines.flatten := by
  unfold Telnet.told
  rw [h.newEvents_eq]

/-! ## The world around a turn -/

namespace World

/-- The server has no connection, and nothing is left of an earlier one. -/
structure Unconnected (w : World) : Prop where
  closed : w.globals.smdConnected = 0
  notWaiting : w.globals.statusWaitingForAssembledMove = 0
  notManual : w.globals.statusManualModeEnable = 0

/-- The server is connected to the drive of the example and waits for a command. -/
structure Commanded (w : World) : Prop where
  scenario : w.InScenario1
  address : w.globals.deviceIp = some BackAndForth.amciHost
  errno : w.errno ≠ erange

/-- Every session of the drive is opened, and every line reaches the client. -/
structure Obliging (w : World) : Prop where
  opens : ∀ n, (w.drive.get n).threadCreated = true ∧ (w.drive.get n).connects = true
  writes : ∀ n, w.clientWrites.get n = none

/-- Reading a message leaves everything else as it is. -/
theorem exists_atDispatch_eq {w : World} {input : Text} (h : w.nextMessage = some input)
    (cl : Int) :
    ∃ memory, w.atDispatch cl input =
      { w with clientReads := w.clientReads.tail, memory := memory,
               log := w.log ++ [.clientRead cl, .noted (.message input)] } := by
  unfold nextMessage at h
  unfold atDispatch afterMessageRead afterClientRead
  cases hread : w.clientReads.head with
  | endOfFile =>
      rw [hread] at h
      cases h
  | failed e =>
      rw [hread] at h
      cases h
  | received chunk =>
      by_cases hroom : chunk.bytes.length < bufSize
      · exact ⟨w.memory, by simp [hroom, recordAll]⟩
      · exact ⟨w.memory.tail, by simp [hroom, recordAll, takeMemory]⟩

end World

/-! ## What is made of a line -/

/-- The codes that the lines of the example may be answered with. -/
def replyCodes : List SmdResponseCode :=
  [.connectSuccess, .commandSuccess, .presetPosSuccess, .noRouteToHost, .commandFailed,
    .presetPosFail, .invalidParameter]

/-- The line for a code; all the codes of a reply have one. -/
def replyLine (r : SmdResponseCode) : Text :=
  (responseLine r).getD []

theorem responseLine_of_mem {r : SmdResponseCode} (h : r ∈ replyCodes) :
    responseLine r = some (replyLine r) ∧ r ≠ .readyForAssembledMove ∧ r ≠ .invalidInput := by
  have hall : ∀ r ∈ replyCodes, responseLine r = some (replyLine r) ∧
      r ≠ .readyForAssembledMove ∧ r ≠ .invalidInput := by
    decide
  exact hall r h

/-- What a command writes to the registers. -/
def commandWrites (commands : List MotorCommand) : List (Int × Int) :=
  commands.flatMap fun command => command.program.writes

/-- The dispatch of a line that stands for these commands comes to the code `r`.  Success
means that the commands have been checked and their programs written, and that the server
waits for the next command. -/
structure Outcome (success : SmdResponseCode) (commands : List MotorCommand) (w : World)
    (r : SmdResponseCode) (w' : World) : Prop where
  code : r ∈ replyCodes
  written : Observed Event.written? w w' (if r = success then commandWrites commands else [])
  quiet : Observed Event.clientLine? w w' []
  checked : r = success → ∀ command ∈ commands, command.Checked
  commanded : r = success → w'.Commanded
  succeeds : w.Obliging → (∀ command ∈ commands, command.Checked) → r = success
  obliging : w.Obliging → w'.Obliging
  clientReads : w'.clientReads = w.clientReads
  clientWrites : w'.clientWrites = w.clientWrites

/-- The line is dispatched in this world, and to nothing else. -/
def Deals (line : Text) (success : SmdResponseCode) (commands : List MotorCommand) (w : World) :
    Prop :=
  ∀ cl, ∃ r w', Outcome success commands w r w' ∧
    ∀ r' w'', Runs server (parseSocketInput line cl) w r' w'' ↔ r' = r ∧ w'' = w'

/-- What a turn comes to in which the line is read, dispatched and answered; the client gets
nothing if the answer cannot be written. -/
structure Turned (success : SmdResponseCode) (commands : List MotorCommand) (w : World)
    (r : SmdResponseCode) (w' : World) : Prop where
  code : r ∈ replyCodes
  written : Observed Event.written? w w' (if r = success then commandWrites commands else [])
  checked : r = success → ∀ command ∈ commands, command.Checked
  told : Telnet.told w w' = replyLine r ∧ (r = success → w'.Commanded) ∨
    Telnet.told w w' = []
  succeeds : w.Obliging → (∀ command ∈ commands, command.Checked) →
    r = success ∧ Telnet.told w w' = replyLine r
  obliging : w.Obliging → w'.Obliging
  clientReads : w'.clientReads = w.clientReads.tail

/-- The answer is one line, if it can be written. -/
theorem runs_answerClient_iff {w w' : World} {r : SmdResponseCode} (hr : r ∈ replyCodes)
    (cl : Int) :
    Runs server (answerClient r cl) w () w' ↔ w' = w.afterLine cl (replyLine r) := by
  obtain ⟨hline, hready, hinvalid⟩ := responseLine_of_mem hr
  rw [answerClient_eq, if_neg hready]
  unfold tellResponse
  rw [hline]
  refine runs_writeToClient.trans ?_
  rw [if_neg (fun h => hinvalid h.1)]
  simp

section afterLine

variable (w : World) (cl : Int) (line : Text)

theorem observed_written_afterLine :
    Observed Event.written? w (w.afterLine cl line) [] := by
  unfold World.afterLine World.afterClientWrite
  cases w.clientWrites.head with
  | none => exact ⟨[.clientWritten cl line], rfl, rfl⟩
  | some e => exact ⟨[], by simp, rfl⟩

theorem fields_afterLine :
    (w.afterLine cl line).globals = w.globals ∧ (w.afterLine cl line).drive = w.drive ∧
      (w.afterLine cl line).clientReads = w.clientReads ∧
      (w.afterLine cl line).clientWrites = w.clientWrites.tail ∧
      (w.clientWrites.head = none → (w.afterLine cl line).errno = w.errno) := by
  unfold World.afterLine World.afterClientWrite
  cases w.clientWrites.head with
  | none => exact ⟨rfl, rfl, rfl, rfl, fun _ => rfl⟩
  | some e => exact ⟨rfl, rfl, rfl, rfl, by simp⟩

end afterLine

theorem World.Obliging.tail {w w' : World} (h : w.Obliging)
    (hdrive : w'.drive = w.drive ∨ w'.drive = w.drive.tail)
    (hwrites : w'.clientWrites = w.clientWrites ∨ w'.clientWrites = w.clientWrites.tail) :
    w'.Obliging where
  opens n := by
    rcases hdrive with hdrive | hdrive
    · rw [hdrive]
      exact h.opens n
    · rw [hdrive]
      exact h.opens (n + 1)
  writes n := by
    rcases hwrites with hwrites | hwrites
    · rw [hwrites]
      exact h.writes n
    · rw [hwrites]
      exact h.writes (n + 1)

/-- A line that is dealt with when it is read makes a turn. -/
theorem Deals.turn {line : Text} {success : SmdResponseCode} {commands : List MotorCommand}
    {w : World} (hmessage : w.nextMessage = some line) {cl : Int}
    (hdeals : Deals line success commands (w.atDispatch cl line)) :
    ∃ r w', Turned success commands w r w' ∧
      ∀ cl' w'', Runs server (serverIteration cl) w cl' w'' ↔ cl' = cl ∧ w'' = w' := by
  obtain ⟨r, w₁, houtcome, hruns⟩ := hdeals cl
  obtain ⟨memory, hdispatch⟩ := World.exists_atDispatch_eq hmessage cl
  obtain ⟨hglobals, hdrive, hreads, hwrites, herrno⟩ := fields_afterLine w₁ cl (replyLine r)
  refine ⟨r, w₁.afterLine cl (replyLine r), ?_, ?_⟩
  · have hread : ∀ {β : Type} {f : Event → Option β}, f (.clientRead cl) = none →
        (∀ n, f (.noted n) = none) → Observed f w (w.atDispatch cl line) [] := by
      intro β f hclient hnoted
      rw [hdispatch]
      exact ⟨_, rfl, by simp [hclient, hnoted]⟩
    have hreceived : w.Obliging → (w.atDispatch cl line).Obliging := by
      intro h
      rw [hdispatch]
      exact h.tail (Or.inl rfl) (Or.inl rfl)
    have hsame : w₁.clientWrites = w.clientWrites := by
      rw [houtcome.clientWrites, hdispatch]
    have htold : w₁.clientWrites.head = none →
        Telnet.told w (w₁.afterLine cl (replyLine r)) = replyLine r := by
      intro hnone
      have hobserved := ((hread rfl fun _ => rfl).trans houtcome.quiet).trans
        (observed_afterLine_of_written cl (replyLine r) hnone)
      rw [Telnet.told_eq hobserved]
      simp
    refine ⟨houtcome.code, ?_, houtcome.checked, ?_, ?_, ?_, ?_⟩
    · have hobserved := ((hread rfl fun _ => rfl).trans houtcome.written).trans
        (observed_written_afterLine w₁ cl (replyLine r))
      rwa [List.nil_append, List.append_nil] at hobserved
    · by_cases hnone : w₁.clientWrites.head = none
      · refine Or.inl ⟨htold hnone, fun hsuccess => ?_⟩
        obtain ⟨hscenario, haddress, hclear⟩ := houtcome.commanded hsuccess
        refine ⟨?_, by rw [hglobals]; exact haddress, by rw [herrno hnone]; exact hclear⟩
        unfold World.InScenario1
        rw [hglobals]
        exact hscenario
      · have hobserved := ((hread rfl fun _ => rfl).trans houtcome.quiet).trans
          (observed_afterLine_of_failed cl (replyLine r) hnone)
        exact Or.inr (Telnet.told_eq hobserved)
    · intro hobliging hchecked
      refine ⟨houtcome.succeeds (hreceived hobliging) hchecked, htold ?_⟩
      rw [hsame]
      exact hobliging.writes 0
    · intro hobliging
      exact (houtcome.obliging (hreceived hobliging)).tail (Or.inl hdrive) (Or.inr hwrites)
    · rw [hreads, houtcome.clientReads, hdispatch]
  · intro cl' w''
    rw [runs_serverIteration_iff, hmessage]
    refine and_congr_right fun _ => ?_
    refine runs_parseSmdResponseToClientInput_iff.trans ?_
    constructor
    · rintro ⟨r', w₂, hdispatch, hanswer⟩
      obtain ⟨rfl, rfl⟩ := (hruns r' w₂).mp hdispatch
      exact (runs_answerClient_iff houtcome.code cl).mp hanswer
    · rintro rfl
      exact ⟨r, w₁, (hruns r w₁).mpr ⟨rfl, rfl⟩, (runs_answerClient_iff houtcome.code cl).mpr rfl⟩

/-! ## A client that has gone -/

theorem observed_written_afterClose (w : World) : Observed Event.written? w w.afterClose [] := by
  unfold World.afterClose
  split
  · exact .refl w
  · rename_i ctx _
    split
    · exact ⟨closingEvents ctx.id, rfl, rfl⟩
    · exact .refl w

/-- When there is nothing to read, the connection to the drive is closed, but nothing is
written to the drive: it goes on with what it does. -/
theorem observed_written_of_none {w w' : World} {cl cl' : Int} (hnone : w.nextMessage = none)
    (h : Runs server (serverIteration cl) w cl' w') : Observed Event.written? w w' [] := by
  rw [runs_serverIteration_iff, hnone] at h
  have hread : Observed Event.written? w ((w.afterClientRead cl).recordAll [.clientClosed cl])
      [] := by
    unfold World.afterClientRead
    cases w.clientReads.head <;>
      exact ⟨[.clientRead cl, .clientClosed cl], by simp [World.recordAll], rfl⟩
  have hclosed := hread.trans (observed_written_afterClose _)
  have haccepted : ∀ (v : World) (n : Int), Observed Event.written? v
      ((v.recordAll [.noted .clientGone]).takeClient.recordAll [.clientAccepted n]) [] := fun v n =>
    ⟨[.noted .clientGone, .clientAccepted n], by simp [World.recordAll, World.takeClient], rfl⟩
  unfold serveNextClient at h
  simp only [Program.bind_eq_bind, runs_bind_iff, runs_smdCloseCommandConnection_iff] at h
  simp only [runs_closeClient, runs_done_iff, true_and, existsAndEq, runs_note,
    runs_acceptClient, Program.pure_eq_done, and_true, exists_eq_left, exists_const] at h
  split at h
  · exact (not_runs_abort h).elim
  · obtain ⟨-, rfl⟩ := runs_done_iff.mp h
    exact hclosed.trans (haccepted _ _)

/-! ## `connect` -/

theorem plain_amciHost :
    ∀ c ∈ BackAndForth.amciHost, c ≠ comma ∧ c ≠ ' ' ∧ c ≠ '\r' ∧ c ≠ '\n' := by
  have hall : BackAndForth.amciHost.all
      (fun c => c ≠ comma ∧ c ≠ ' ' ∧ c ≠ '\r' ∧ c ≠ '\n') = true := by decide
  exact fun c hc => of_decide_eq_true (List.all_eq_true.mp hall c hc)

def amciAddress : Address := ⟨BackAndForth.amciHost, plain_amciHost⟩

/-- The connection has been opened to an address that is not empty. -/
def World.openedConnection (w : World) : World :=
  ((w.takeContext.assign (.smdCommandConnection (some ⟨w.contextIds.head, w.drive.head⟩))).assign
    (.smdConnected 1)).recordAll
      [.contextAllocated w.contextIds.head, .contextConnected w.contextIds.head true]

/-- The connection could not be opened. -/
def World.refusedConnection (w : World) : World :=
  (((w.takeContext.assign
    (.smdCommandConnection (some ⟨w.contextIds.head, w.drive.head⟩))).setErrno
      w.drive.head.connectErrno).assign (.smdConnected 0)).recordAll
        [.contextAllocated w.contextIds.head, .contextConnected w.contextIds.head false,
          .contextFreed w.contextIds.head]

theorem runs_smdOpenCommandConnection_iff {w w' : World} {ip : Text}
    (haddress : w.globals.deviceIp = some ip) (hip : ip ≠ []) {r : SmdResponseCode} :
    Runs server smdOpenCommandConnection w r w' ↔
      if w.drive.head.connects = true then
        r = .connectSuccess ∧ w' = w.openedConnection
      else
        r = .noRouteToHost ∧ w' = w.refusedConnection := by
  have hread : ∀ ctx, (w.takeContext.assign (.smdCommandConnection ctx)).ip = ip := by
    intro ctx
    unfold World.ip
    simp [Globals.assign, haddress]
  have hkeeps : ∀ ctx, (w.takeContext.assign (.smdCommandConnection ctx)).readIp =
      w.takeContext.assign (.smdCommandConnection ctx) := by
    intro ctx
    unfold World.readIp World.memoryAfterIp
    simp [World.assign, World.takeContext, Globals.assign, haddress]
  unfold smdOpenCommandConnection World.openedConnection World.refusedConnection
  cases hconnects : w.drive.head.connects with
  | true => simp [hread, hkeeps, hip, hconnects]
  | false => simp [hread, hkeeps, hip, hconnects]

theorem runs_connectLine_iff {w w' : World} (h : w.Unconnected) (cl : Int)
    {r : SmdResponseCode} :
    Runs server (parseSocketInput BackAndForth.connectLine cl) w r w' ↔
      if w.drive.head.connects = true then
        r = .connectSuccess ∧
          w' = (w.assign (.deviceIp (some BackAndForth.amciHost))).openedConnection
      else
        r = .noRouteToHost ∧
          w' = (w.assign (.deviceIp (some BackAndForth.amciHost))).refusedConnection := by
  have htaken : amciAddress.taken .newline = some BackAndForth.amciHost := rfl
  have hmessage : BackAndForth.connectLine = amciAddress.message .newline := rfl
  rw [hmessage, runs_connect_iff h.closed, htaken]
  simp only [Option.some.injEq, exists_eq_left']
  exact runs_smdOpenCommandConnection_iff rfl (by decide)

theorem deals_connectLine {w : World} (h : w.Unconnected) (herrno : w.errno ≠ erange) :
    Deals BackAndForth.connectLine .connectSuccess [] w := by
  have hruns := fun cl r w' => @runs_connectLine_iff w w' h cl r
  intro cl
  by_cases hconnects : w.drive.head.connects = true
  · refine ⟨_, _, ?_, fun r w' => (hruns cl r w').trans (by rw [if_pos hconnects])⟩
    exact {
      code := by decide
      written := ⟨_, rfl, rfl⟩
      quiet := ⟨_, rfl, rfl⟩
      checked := by simp
      commanded := fun _ => ⟨⟨rfl, h.notWaiting, h.notManual⟩, rfl, herrno⟩
      succeeds := fun _ _ => rfl
      obliging := fun hobliging => hobliging.tail (Or.inr rfl) (Or.inl rfl)
      clientReads := rfl
      clientWrites := rfl }
  · refine ⟨_, _, ?_, fun r w' => (hruns cl r w').trans (by rw [if_neg hconnects])⟩
    exact {
      code := by decide
      written := ⟨_, rfl, rfl⟩
      quiet := ⟨_, rfl, rfl⟩
      checked := by simp
      commanded := by simp
      succeeds := fun hobliging _ => absurd (hobliging.opens 0).2 hconnects
      obliging := fun hobliging => hobliging.tail (Or.inr rfl) (Or.inl rfl)
      clientReads := rfl
      clientWrites := rfl }

/-! ## The commands -/

/-- A program that is sent changes the drive's sessions, the memory and the log. -/
theorem fields_afterSend (w : World) (cmd : RegisterProgram) :
    (w.afterSend cmd).globals = w.globals ∧ (w.afterSend cmd).errno = w.errno ∧
      (w.afterSend cmd).drive = w.drive.tail ∧
      (w.afterSend cmd).clientReads = w.clientReads ∧
      (w.afterSend cmd).clientWrites = w.clientWrites := by
  unfold World.afterSend
  split
  · exact ⟨rfl, rfl, rfl, rfl, rfl⟩
  · split
    · exact ⟨rfl, rfl, rfl, rfl, rfl⟩
    · exact ⟨rfl, rfl, rfl, rfl, rfl⟩

theorem World.Commanded.opens_iff {w : World} (h : w.Commanded) :
    w.opens ↔ w.drive.head.threadCreated = true ∧ w.drive.head.connects = true := by
  have hip : w.ip = BackAndForth.amciHost := by
    unfold World.ip
    rw [h.address]
  have hne : BackAndForth.amciHost ≠ [] := by decide
  unfold World.opens
  rw [hip, and_iff_right hne]

/-- The dispatch of the line of a command: the checks, one send and its code. -/
def DispatchesTo (line : Text) (command : MotorCommand) (success failure : SmdResponseCode)
    (w : World) : Prop :=
  ∀ cl r w', Runs server (parseSocketInput line cl) w r w' ↔
    (command.Checked ∧ r = (if w.opens then success else failure) ∧
        w' = w.afterSend command.program) ∨
      (¬ command.Checked ∧ r = .invalidParameter ∧ w' = w)

theorem DispatchesTo.deals {w : World} (h : w.Commanded) {line : Text} {command : MotorCommand}
    {success failure : SmdResponseCode} (hdispatches : DispatchesTo line command success failure w)
    (hsuccess : success ∈ replyCodes) (hfailure : failure ∈ replyCodes)
    (hdiffers : failure ≠ success ∧ SmdResponseCode.invalidParameter ≠ success) :
    Deals line success [command] w := by
  obtain ⟨hglobals, herrno, hdrive, hreads, hwrites⟩ := fields_afterSend w command.program
  have hobserved := observed_written_afterSend w command.program
  have hprogram : commandWrites [command] = command.program.writes := by
    simp [commandWrites]
  intro cl
  by_cases hchecked : command.Checked
  · refine ⟨if w.opens then success else failure, w.afterSend command.program, ?_, fun r w' => ?_⟩
    · refine ⟨?_, ?_, observed_clientLine_afterSend w _, ?_, ?_, ?_, ?_, hreads, hwrites⟩
      · split
        · exact hsuccess
        · exact hfailure
      · rw [hprogram]
        by_cases hopens : w.opens
        · simpa [hopens] using hobserved
        · simpa [hopens, hdiffers.1] using hobserved
      · intro _ c hc
        rwa [List.mem_singleton.mp hc]
      · intro _
        refine ⟨?_, by rw [hglobals]; exact h.address, by rw [herrno]; exact h.errno⟩
        unfold World.InScenario1
        rw [hglobals]
        exact h.scenario
      · intro hobliging _
        exact if_pos (h.opens_iff.mpr (hobliging.opens 0))
      · exact fun hobliging => hobliging.tail (Or.inr hdrive) (Or.inl hwrites)
    · rw [hdispatches cl r w']
      simp [hchecked]
  · refine ⟨.invalidParameter, w, ?_, fun r w' => ?_⟩
    · refine ⟨by decide, ?_, .refl w, ?_, ?_, ?_, id, rfl, rfl⟩
      · rw [if_neg hdiffers.2]
        exact .refl w
      · exact fun heq => absurd heq hdiffers.2
      · exact fun heq => absurd heq hdiffers.2
      · exact fun _ hall => absurd (hall command (by simp)) hchecked
    · rw [hdispatches cl r w']
      simp [hchecked]

/-- A program that is sent once, and the two codes for it. -/
theorem runs_sendAnd_once_iff {w w' : World} {cmd : RegisterProgram}
    (honce : resentProgram cmd = none) {success failure r : SmdResponseCode} :
    Runs server (sendAnd cmd success failure) w r w' ↔
      r = (if w.opens then success else failure) ∧ w' = w.afterSend cmd := by
  unfold sendAnd
  rw [runs_sendOnce_bind_iff honce]
  unfold World.sendResult
  by_cases hopens : w.opens
  · simp [hopens]
  · simp [hopens]

theorem dispatchesTo_resetErrors {w : World} (h : w.Commanded) :
    DispatchesTo BackAndForth.resetErrorsLine .resetErrors .commandSuccess .commandFailed w := by
  intro cl r w'
  have hselects : Command.Selects BackAndForth.resetErrorsLine .resetErrors :=
    (Command.selects_of_mem_others (by decide)).mpr ⟨by decide, by decide +kernel⟩
  have hline : parseScenario1 BackAndForth.resetErrorsLine cl =
      sendModbusCommand resetErrorsProgram := Command.parseScenario1_of_selects hselects cl
  have hsend : Runs server (sendModbusCommand resetErrorsProgram) w r w' ↔
      r = w.sendResult ∧ w' = w.afterSend resetErrorsProgram := runs_sendOnce_iff rfl
  rw [runs_parseSocketInput_scenario1 h.scenario, hline, hsend]
  show _ ↔ (True ∧ _) ∨ (¬ True ∧ _)
  simp [World.sendResult, MotorCommand.program]

/-! ## Commands with numbers -/

/-- A message with as many tokens as are asked for passes the guard. -/
theorem withTokens_message (c : ParameterCommand) (tokens : List DecimalToken) (n : Nat)
    (hn : n = tokens.length + 1) (ending : LineEnding)
    (f : Tokenized → Server SmdResponseCode) :
    withTokens (c.message tokens ending) n f =
      f ⟨endFields ending.text (c.name :: tokens.map DecimalToken.text), 0⟩ := by
  have htokens : tokenizeClientInput (c.message tokens ending) n =
      ⟨endFields ending.text (c.name :: tokens.map DecimalToken.text), 0⟩ := by
    unfold tokenizeClientInput
    rw [c.splitOn_message, length_endFields]
    simp [hn]
  unfold withTokens
  rw [c.numberOfTokens_message, htokens]
  simp [hn]

section readNumber

variable {α : Type} {w w' : World} {a : α} {n : Int} (hn : IsInt32 n) (hw : w.errno ≠ erange)
  {k : Int → Server α}

include hn hw

/-- A number of `int32_t` is read as it was printed, and `errno` is left alone. -/
theorem runs_readEndedNumber_iff (ending : LineEnding) :
    Runs server (convertStringToLongInt (formatInt n ++ ending.text) >>= k) w a w' ↔
      Runs server (k n) w a w' := by
  have hstuck : w.latch.stuck = false := decide_eq_false hw
  have hstrtol : strtol (formatInt n ++ ending.text) = clampLong n :=
    (DecimalToken.of n).strtol_append ending
  have hvalue : w.latch.read (strtol (formatInt n ++ ending.text)) = n := by
    rw [hstrtol, hn.read_eq_self hstuck]
  have hkeeps : w.afterConversion (formatInt n ++ ending.text) = w := by
    apply World.afterConversion_of_not_loses
    rw [hstrtol]
    exact hn.not_loses hstuck
  rw [Program.bind_eq_bind, runs_bind_iff]
  simp only [runs_convertStringToLongInt_iff, hvalue, hkeeps]
  constructor
  · rintro ⟨_, _, ⟨rfl, rfl⟩, hrest⟩
    exact hrest
  · intro hrest
    exact ⟨n, w, ⟨rfl, rfl⟩, hrest⟩

theorem runs_readNumber_iff :
    Runs server (convertStringToLongInt (formatInt n) >>= k) w a w' ↔
      Runs server (k n) w a w' := by
  have h : Runs server (convertStringToLongInt (formatInt n ++ LineEnding.none.text) >>= k) w a w' ↔
      Runs server (k n) w a w' := runs_readEndedNumber_iff hn hw .none
  rwa [LineEnding.text, List.append_nil] at h

end readNumber

theorem dispatchesTo_presetMotorPosition {w : World} (h : w.Commanded) :
    DispatchesTo BackAndForth.presetMotorPositionLine (.presetMotor 0) .presetPosSuccess
      .presetPosFail w := by
  intro cl r w'
  have hmessage : BackAndForth.presetMotorPositionLine =
      ParameterCommand.presetMotorPosition.message ([0].map DecimalToken.of) .newline := by
    decide
  have hzero : IsInt32 0 := by
    unfold IsInt32
    omega
  have hchecked : (MotorCommand.presetMotor 0).Checked := by
    show positionValid 0 = true
    decide
  have hread : Runs server (handlePresetMotorPosition
        (ParameterCommand.presetMotorPosition.message ([0].map DecimalToken.of) .newline))
        w r w' ↔ Runs server (smdPresetMotorPosition 0) w r w' := by
    unfold handlePresetMotorPosition
    rw [withTokens_message .presetMotorPosition ([0].map DecimalToken.of) 2 rfl]
    exact runs_readEndedNumber_iff hzero h.errno .newline
  rw [runs_parseSocketInput_scenario1 h.scenario, hmessage, parseScenario1_of_ofMessage
    (ParameterCommand.ofMessage_message .presetMotorPosition _ _)]
  refine hread.trans ?_
  show Runs server (sendAnd (presetMotorProgram 0) .presetPosSuccess .presetPosFail) w r w' ↔ _
  rw [runs_sendAnd_once_iff rfl]
  simp [hchecked, MotorCommand.program]

/-- The options have values of `int32_t`. -/
structure MoveOptions.Int32 (a : MoveOptions) : Prop where
  distance : IsInt32 a.distance
  acc : IsInt32 a.acc
  dec : IsInt32 a.dec
  jerk : IsInt32 a.jerk
  velocity : IsInt32 a.velocity

/-- The move that the server makes of the options: it keeps three of the numbers in
`int16_t`. -/
def MoveOptions.move (a : MoveOptions) : MotorCommand :=
  .relativeMove a.distance (toInt16 a.acc) (toInt16 a.dec) (toInt16 a.jerk) a.velocity

theorem relativeMoveLine_eq (a : MoveOptions) :
    BackAndForth.relativeMoveLine a = ParameterCommand.relativeMove.message
      ([a.distance, a.acc, a.dec, a.jerk, a.velocity].map DecimalToken.of) .newline := by
  have hname : "relativeMove,".toList = ParameterCommand.relativeMove.name ++ [comma] := by
    decide
  have hcomma : ",".toList = [comma] := rfl
  unfold BackAndForth.relativeMoveLine ParameterCommand.message messageOf
  rw [hname, hcomma]
  simp only [List.map_cons, List.map_nil, List.intercalate_cons_cons,
    List.intercalate_singleton, List.append_assoc]
  rfl

theorem dispatchesTo_relativeMove {w : World} (h : w.Commanded) {a : MoveOptions}
    (ha : a.Int32) :
    DispatchesTo (BackAndForth.relativeMoveLine a) a.move .commandSuccess .commandFailed w := by
  intro cl r w'
  have hread : Runs server (handleRelativeMove (ParameterCommand.relativeMove.message
        ([a.distance, a.acc, a.dec, a.jerk, a.velocity].map DecimalToken.of) .newline)) w r w' ↔
      Runs server (smdRelativeMove a.distance (toInt16 a.acc) (toInt16 a.dec) (toInt16 a.jerk)
        a.velocity) w r w' := by
    unfold handleRelativeMove
    rw [withTokens_message .relativeMove
      ([a.distance, a.acc, a.dec, a.jerk, a.velocity].map DecimalToken.of) 6 rfl]
    refine (runs_readNumber_iff ha.distance h.errno).trans ?_
    refine (runs_readNumber_iff ha.acc h.errno).trans ?_
    refine (runs_readNumber_iff ha.dec h.errno).trans ?_
    refine (runs_readNumber_iff ha.jerk h.errno).trans ?_
    exact runs_readEndedNumber_iff ha.velocity h.errno .newline
  rw [runs_parseSocketInput_scenario1 h.scenario, relativeMoveLine_eq,
    parseScenario1_of_ofMessage (ParameterCommand.ofMessage_message .relativeMove _ _)]
  refine hread.trans ?_
  have hsend : Runs server (sendModbusCommand a.move.program) w r w' ↔
      r = w.sendResult ∧ w' = w.afterSend a.move.program := runs_sendOnce_iff rfl
  have hchecked : a.move.Checked ↔ positionValid a.distance = true ∧
      moveParametersValid (toInt16 a.acc) (toInt16 a.dec) (toInt16 a.jerk) a.velocity = true :=
    Iff.rfl
  unfold smdRelativeMove
  by_cases hpos : positionValid a.distance = true
  · by_cases hmove : moveParametersValid (toInt16 a.acc) (toInt16 a.dec) (toInt16 a.jerk)
        a.velocity = true
    · rw [if_neg (by simp [hpos]), if_neg (by simp [hmove])]
      refine hsend.trans ?_
      simp [hchecked, hpos, hmove, World.sendResult]
    · rw [if_neg (by simp [hpos]), if_pos (by simp [hmove])]
      simp [hchecked, hmove]
  · rw [if_pos (by simp [hpos])]
    simp [hchecked, hpos]

end SmdControlServer
