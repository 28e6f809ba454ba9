import SmdControlServer.Commands.Codes
import SmdControlServer.Commands.Programs
import SmdControlServer.Commands.Telling
import SmdControlServer.Drive.RegisterLine

/-!
# When a message is answered

A message is answered with one line, unless what it asks for goes wrong in one of five
ways: the registers cannot be read in a session that was opened, a stop is refused and
sent again for ever, the status of a drive that is to be programmed cannot be read, a
profile or an address lacks what the code takes from it.
-/

namespace SmdControlServer

open CString Interaction

/-! ## What a message asks for -/

/-- What a message asks for, as far as its answer depends on it. -/
inductive Errand where
  | connects
  | disconnects
  | reads (readType : SmdRegisterReadType)
  | stops
  | programsMove
  | uploads
  | other
  deriving DecidableEq

/-- The tests of Scenario 1 in their order. -/
def errandInScenario1 (input : Text) : Errand :=
  if strstr input "jogCW".toList || strstr input "jogCCW".toList then
    .other
  else if strstr input "homeCW".toList || strstr input "homeCCW".toList then
    .other
  else if startsWith input "disconnect".toList then
    .disconnects
  else if startsWith input "saveConfig".toList then
    .other
  else if startsWith input "relativeMove".toList then
    .other
  else if startsWith input "driveEnable".toList then
    .other
  else if startsWith input "driveDisable".toList then
    .other
  else if startsWith input "holdMove".toList then
    .stops
  else if startsWith input "immedStop".toList then
    .stops
  else if startsWith input "resetErrors".toList then
    .other
  else if startsWith input "readInputRegisters".toList then
    .reads .readInputRegisters
  else if startsWith input "loadCurrentConfiguration".toList then
    .other
  else if startsWith input "readCurrentConfiguration".toList then
    .reads .readConfigRegisters
  else if startsWith input "presetMotorPosition".toList then
    .other
  else if startsWith input "presetEncoderPosition".toList then
    .other
  else if startsWith input "programAssembledMove".toList then
    .programsMove
  else
    .other

/-- The tests of Scenario 2 in their order. -/
def errandInScenario2 (input : Text) : Errand :=
  if startsWith input "stopManualMode".toList then
    .stops
  else if startsWith input "resetErrors".toList then
    .other
  else if startsWith input "readInputRegisters".toList then
    .reads .readInputRegisters
  else
    .other

/-- What a message asks for in the state it comes in. -/
def Globals.errand (g : Globals) (input : Text) : Errand :=
  if g.smdConnected = 0 then
    if startsWith input "connect".toList then .connects else .other
  else if g.smdConnected = 1 ∧ g.statusWaitingForAssembledMove = 0 ∧
      g.statusManualModeEnable = 0 then
    errandInScenario1 input
  else if g.smdConnected = 1 ∧ g.statusWaitingForAssembledMove = 0 ∧
      g.statusManualModeEnable = 1 then
    errandInScenario2 input
  else if g.smdConnected = 1 ∧ g.statusWaitingForAssembledMove = 1 then
    .uploads
  else
    .other

/-! ## What it takes to answer -/

/-- A worker that is started here is refused, and the drive's `errno` is 9. -/
def Session.RefusesStop (s : Session) (ip : Text) : Prop :=
  s.threadCreated = true ∧ ¬ (ip ≠ [] ∧ s.connects = true) ∧ s.connectErrno = ebadf

namespace World

/-- The address with which the `k`-th session from now on is opened, if all of them
are sessions of a stop. -/
def ipAt (w : World) (k : Nat) : Text :=
  match w.globals.deviceIp with
  | some ip => ip
  | none => (w.memory.get k).text

/-- A stop is not refused and sent again for ever. -/
def StopEnds (w : World) : Prop :=
  ∃ k, ¬ (w.drive.get k).RefusesStop (w.ipAt k)

/-- A read for the client does not fail in a session that was opened, and there is a
client. -/
def AnswersRead (w : World) (cl : Int) : Prop :=
  w.takeMemory.opens → w.drive.head.registers ≠ none ∧ 0 < cl

/-- The world in which the status is read after the first block. -/
def afterFirstBlock (w : World) : World :=
  (w.afterWrites programFirstBlockProgram).takeMemory

/-- A status read that fails in a session that was opened leaves a string of three
tokens by chance. -/
def FindsStatus (w : World) : Prop :=
  w.opens → w.afterFirstBlock.takeMemory.opens →
    w.afterFirstBlock.drive.head.registers = none →
      3 ≤ numberOfTokens (w.afterFirstBlock.memory.head.text.take 128)

/-- Every segment of the profile is complete and has room, and a profile of 1 to 16
segments has a `type` that is a string. -/
def ReadsProfile (w : World) (jsonString : Text) : Prop :=
  ∀ root, w.cJsonParse jsonString = some root →
    ∃ table, collectSegments root.child 0 ⟨w.memory.head.segments, 0, []⟩ = .ok table ∧
      (1 ≤ table.numSegments → table.numSegments ≤ 16 →
        (cJsonGetObjectItem root "type".toList).bind CJson.valuestring ≠ none)

/-- What it takes to answer a message that asks for this. -/
def Answers (w : World) (input : Text) (cl : Int) : Errand → Prop
  | .connects => numberOfTokens input = 2 → (tokenizeClientInput input 2).token 1 ≠ []
  | .disconnects => False
  | .reads _ => w.AnswersRead cl
  | .stops => w.StopEnds
  | .programsMove => w.FindsStatus
  | .uploads => w.ReadsProfile input
  | .other => True

end World

/-- The line of a response code, or the registers for a message that asks for them. -/
def Errand.IsAnswer (e : Errand) (line : Text) : Prop :=
  (∃ code, responseLine code = some line) ∨
    ∃ readType words, e = .reads readType ∧ line = clientWriteString readType words

/-- The message is handled to the end, and one terminal line is written: a status line,
or the register line if the message asks for it. -/
def World.AnswersOnce (w : World) (input : Text) (cl : Int) : Prop :=
  ∃ line w', Tells (parseSmdResponseToClientInput input cl) w () w' [(cl, line)] ∧
    (w.globals.errand input).IsAnswer line

/-! ## From the dispatch to the answer -/

/-- The code, and what follows the dispatch, ends and writes one such line. -/
def AnsweredBy (w : World) (cl : Int) (e : Errand) (p : Server SmdResponseCode) : Prop :=
  ∃ line w', Tells (p >>= fun r => answerClient r cl) w () w' [(cl, line)] ∧ e.IsAnswer line

section AnsweredBy

variable {w w₁ : World} {cl : Int} {e : Errand} {p : Server SmdResponseCode}
  {r : SmdResponseCode}

/-- The code has told what it tells, and the response code tells the rest. -/
theorem answeredBy_iff {lines : List (Int × Text)} (h : Tells p w r w₁ lines) :
    AnsweredBy w cl e p ↔
      ∃ line, lines ++ (responseLine r).toList.map (fun line => (cl, line)) = [(cl, line)] ∧
        e.IsAnswer line := by
  obtain ⟨w', hanswer⟩ := exists_tells_answerClient r cl w₁
  have hall : Tells (p >>= fun r => answerClient r cl) w () w'
      (lines ++ (responseLine r).toList.map fun line => (cl, line)) :=
    shows_bind_iff.mpr ⟨r, w₁, _, _, h, hanswer, rfl⟩
  constructor
  · rintro ⟨line, w₂, htells, hline⟩
    obtain ⟨_, _, heq⟩ := htells.unique hall
    exact ⟨line, heq.symm, hline⟩
  · rintro ⟨line, heq, hline⟩
    rw [heq] at hall
    exact ⟨line, w', hall, hline⟩

theorem answeredBy_of_told
    (h : EndsTelling p w [] fun r => responseLine r ≠ none) :
    AnsweredBy w cl e p := by
  obtain ⟨r, w₁, htells, hr⟩ := h
  obtain ⟨line, hline⟩ := Option.ne_none_iff_exists'.mp hr
  rw [answeredBy_iff htells, hline]
  exact ⟨line, rfl, Or.inl ⟨r, hline⟩⟩

theorem AnsweredBy.exists_runs (h : AnsweredBy w cl e p) : ∃ r w', Runs server p w r w' := by
  obtain ⟨line, w', htells, _⟩ := h
  obtain ⟨r, w₁, _, _, hp, _⟩ := shows_bind_iff.mp htells
  exact ⟨r, w₁, hp.runs⟩

/-- A request that tells nothing. -/
theorem answeredBy_ask_iff {o : Request} {k : Answer o → Server SmdResponseCode} {x : Answer o}
    (hx : handle o w = some (x, w₁)) (ho : o.terminalLine? = none) :
    AnsweredBy w cl e (ask o >>= k) ↔ AnsweredBy w₁ cl e (k x) := by
  have hstep : ∀ line w', Tells ((ask o >>= k) >>= fun r => answerClient r cl) w () w'
      [(cl, line)] ↔ Tells (k x >>= fun r => answerClient r cl) w₁ () w' [(cl, line)] := by
    intro line w'
    refine (shows_perform_of_handle hx).trans ?_
    rw [ho]
    simp only [Option.toList_none, List.nil_append, exists_eq_left']
    rfl
  unfold AnsweredBy
  simp only [hstep]

/-- Code that is not heard is answered for when it ends. -/
theorem answeredBy_iff_exists_runs (hp : Unheard p)
    (hlines : p.Returns fun r => responseLine r ≠ none) :
    AnsweredBy w cl e p ↔ ∃ r w', Runs server p w r w' := by
  constructor
  · exact AnsweredBy.exists_runs
  · rintro ⟨r, w', hrun⟩
    exact answeredBy_of_told ⟨r, w', (tells_of_unheard hp).mpr ⟨hrun, rfl⟩, hrun.returns hlines⟩

end AnsweredBy

/-! ## Reading the registers for the client -/

section reading

variable {w : World} {cl : Int} {readType : SmdRegisterReadType}

/-- The line that a read in an open session writes. -/
def World.readLines (w : World) (readType : SmdRegisterReadType) (cl : Int) :
    List (Int × Text) :=
  match w.drive.head.registers with
  | none => []
  | some words => if cl > 0 then [(cl, clientWriteString readType words)] else []

theorem endsTelling_opening {α : Type} {k : Context → Bool → Server α}
    {lines : List (Int × Text)} {Q : α → Prop}
    (h : ∀ w', EndsTelling (k ⟨w.contextIds.head, w.drive.head⟩
      (decide (w.ip ≠ []) && w.drive.head.connects)) w' lines Q) :
    EndsTelling (do
      let ctx ← modbusNewTcp
      let ip ← deviceIp
      let connected ← if ip.length = 0 then pure false else modbusConnect ctx
      k ctx connected) w lines Q := by
  refine endsTelling_ask rfl rfl ?_
  refine endsTelling_ask (handle_deviceIp _) rfl ?_
  split
  · rename_i hlength
    have hip : w.ip = [] := List.eq_nil_of_length_eq_zero hlength
    simp only [hip, ne_eq, not_true_eq_false, decide_false, Bool.false_and] at h
    exact h _
  · rename_i hlength
    have hip : w.ip ≠ [] := fun heq => hlength (congrArg List.length heq)
    simp only [hip, ne_eq, not_false_eq_true, decide_true, Bool.true_and] at h
    exact endsTelling_ask rfl rfl (h _)

/-- The call that reads the registers for the client. -/
theorem readModbusRegisters_eq (registers : RegisterStrings) :
    readModbusRegisters registers 10 readType cl = (do
      let created ← pthreadCreate (.readModbusRegisters readType)
      if !created then
        pure ⟨.commandFailed, registers, []⟩
      else
        readModbusRegistersWorker registers readType cl none) :=
  rfl

theorem not_isProgress_clientWriteString (words : Fin 10 → BitVec 16) :
    ¬ IsProgress (clientWriteString readType words) := by
  have hfirst : ∀ rest : Text, ¬ IsProgress (idString readType ++ rest) := by
    intro rest hprogress
    cases readType with
    | readInputRegisters => exact absurd (List.cons_prefix_cons.mp hprogress).1 (by decide)
    | readConfigRegisters => exact absurd (List.cons_prefix_cons.mp hprogress).1 (by decide)
  rw [clientWriteString_eq]
  unfold firstField
  simp only [List.append_assoc]
  exact hfirst _

section worker

variable {registers : RegisterStrings} {line : Text}

theorem endsTelling_worker_refused
    (hrefused : (decide (w.ip ≠ []) && w.drive.head.connects) = false) :
    EndsTelling (readModbusRegistersWorker registers readType cl none) w []
      fun reply => reply.result = .noRouteToHost := by
  apply endsTelling_opening
  intro w'
  rw [hrefused]
  refine endsTelling_ask rfl rfl (endsTelling_ask rfl rfl ?_)
  exact endsShowing_done rfl

theorem endsTelling_worker_opened
    (hopened : (decide (w.ip ≠ []) && w.drive.head.connects) = true) :
    EndsTelling (readModbusRegistersWorker registers readType cl none) w
      (w.readLines readType cl) fun reply => reply.result = .commandSuccess := by
  unfold World.readLines
  apply endsTelling_opening
  intro w'
  rw [hopened]
  refine endsTelling_ask rfl rfl ?_
  cases hwords : w.drive.head.registers with
  -- the read fails: the common exit overwrites the failure that the branch has set
  | none =>
      refine endsTelling_ask rfl rfl (endsTelling_ask rfl rfl ?_)
      exact endsShowing_done rfl
  -- the line is written by the worker itself, and only to a positive descriptor
  | some words =>
      have hclose : ∀ w', EndsTelling (do
          modbusClose ⟨w.contextIds.head, w.drive.head⟩
          modbusFree ⟨w.contextIds.head, w.drive.head⟩
          pure (⟨.commandSuccess, fun i => registerText i.val (words i),
            clientWriteString readType words⟩ : RegistersReply)) w' []
          fun reply => reply.result = .commandSuccess := by
        intro w'
        refine endsTelling_ask rfl rfl (endsTelling_ask rfl rfl ?_)
        exact endsShowing_done rfl
      by_cases hcl : cl > 0
      · simp only [if_pos hcl]
        exact endsTelling_line (not_isProgress_clientWriteString words) fun _ => hclose
      · simp only [if_neg hcl]
        exact hclose _

end worker

theorem endsTelling_readModbusRegisters_created {registers : RegisterStrings}
    {lines : List (Int × Text)} {Q : RegistersReply → Prop}
    (hthread : w.drive.head.threadCreated = true)
    (h : EndsTelling (readModbusRegistersWorker registers readType cl none)
      (w.recordAll [.threadStarted (.readModbusRegisters readType) true]) lines Q) :
    EndsTelling (readModbusRegisters registers 10 readType cl) w lines Q := by
  have hcreate : handle (.pthreadCreate (.readModbusRegisters readType)) w =
      some (true, w.recordAll [.threadStarted (.readModbusRegisters readType) true]) := by
    have hstart : handle (.pthreadCreate (.readModbusRegisters readType)) w =
        some (w.drive.head.threadCreated, w.startWorker.recordAll
          [.threadStarted (.readModbusRegisters readType) w.drive.head.threadCreated]) := rfl
    rw [hstart, World.startWorker_of_created hthread, hthread]
  rw [readModbusRegisters_eq]
  exact endsTelling_ask hcreate rfl h

theorem endsTelling_readModbusRegisters_refused (registers : RegisterStrings) (h : ¬ w.opens) :
    EndsTelling (readModbusRegisters registers 10 readType cl) w []
      fun reply => reply.result = .noRouteToHost ∨ reply.result = .commandFailed := by
  cases hthread : w.drive.head.threadCreated with
  | false =>
      have hcreate : handle (.pthreadCreate (.readModbusRegisters readType)) w =
          some (false, w.startWorker.recordAll
            [.threadStarted (.readModbusRegisters readType) false]) := by
        rw [← hthread]
        rfl
      rw [readModbusRegisters_eq]
      exact endsTelling_ask hcreate rfl (endsShowing_done (Or.inr rfl))
  | true =>
      have hrefused : (decide (w.ip ≠ []) && w.drive.head.connects) = false := by
        by_contra hb
        rw [Bool.not_eq_false, Bool.and_eq_true, decide_eq_true_eq] at hb
        exact h ⟨hthread, hb⟩
      apply endsTelling_readModbusRegisters_created hthread
      obtain ⟨reply, w', htells, hreply⟩ := endsTelling_worker_refused
        (w := w.recordAll [.threadStarted (.readModbusRegisters readType) true]) hrefused
      exact ⟨reply, w', htells, Or.inl hreply⟩

theorem endsTelling_readModbusRegisters_opened (registers : RegisterStrings) (h : w.opens) :
    EndsTelling (readModbusRegisters registers 10 readType cl) w (w.readLines readType cl)
      fun reply => reply.result = .commandSuccess := by
  obtain ⟨hthread, hip, hconnects⟩ := h
  apply endsTelling_readModbusRegisters_created hthread
  apply endsTelling_worker_opened
  show (decide (w.ip ≠ []) && w.drive.head.connects) = true
  simp [hip, hconnects]

theorem endsTelling_smdReadRegisters_refused (h : ¬ w.takeMemory.opens) :
    EndsTelling (smdReadRegisters readType cl) w [] fun r => r = .commandFailed := by
  refine endsTelling_ask rfl rfl ?_
  refine EndsShowing.bind (endsTelling_readModbusRegisters_refused _ h) fun reply hreply w' => ?_
  rw [if_pos hreply]
  exact endsShowing_done rfl

theorem endsTelling_smdReadRegisters_opened (h : w.takeMemory.opens) :
    EndsTelling (smdReadRegisters readType cl) w (w.readLines readType cl)
      fun r => r = .handledByClient := by
  have hall : EndsTelling (smdReadRegisters readType cl) w (w.readLines readType cl ++ [])
      fun r => r = .handledByClient := by
    refine endsTelling_ask rfl rfl ?_
    refine EndsShowing.bind (endsTelling_readModbusRegisters_opened _ h) ?_
    intro reply hreply w'
    rw [if_neg (by rw [hreply]; decide)]
    exact endsShowing_done rfl
  rw [List.append_nil] at hall
  exact hall

/-- A read is answered once unless it fails in an open session. -/
theorem answeredBy_smdReadRegisters_iff :
    AnsweredBy w cl (.reads readType) (smdReadRegisters readType cl) ↔ w.AnswersRead cl := by
  unfold World.AnswersRead
  by_cases hopens : w.takeMemory.opens
  · rw [imp_iff_right hopens]
    have hread : EndsTelling (smdReadRegisters readType cl) w (w.readLines readType cl)
        fun r => r = .handledByClient := endsTelling_smdReadRegisters_opened hopens
    obtain ⟨r, w₁, htells, rfl⟩ := hread
    rw [answeredBy_iff htells]
    unfold World.readLines
    cases hwords : w.drive.head.registers with
    | none => simp [responseLine]
    | some words =>
        by_cases hcl : cl > 0
        · simp only [if_pos hcl]
          refine iff_of_true ?_ ⟨Option.some_ne_none words, hcl⟩
          exact ⟨_, rfl, Or.inr ⟨readType, words, rfl, rfl⟩⟩
        · simp only [if_neg hcl]
          simp [responseLine, hcl]
  · have hread : EndsTelling (smdReadRegisters readType cl) w []
        fun r => r = .commandFailed := endsTelling_smdReadRegisters_refused hopens
    obtain ⟨r, w₁, htells, rfl⟩ := hread
    refine iff_of_true (answeredBy_of_told ⟨_, w₁, htells, ?_⟩) fun h => absurd h hopens
    simp [responseLine]

end reading

/-! ## Stops -/

section stops

variable {w w' : World} {cl : Int} {cmd : RegisterProgram} {noted : List Event}
  {r : SmdResponseCode}

theorem World.ipAt_zero : w.ipAt 0 = w.ip := by
  unfold World.ipAt World.ip
  cases w.globals.deviceIp <;> rfl

theorem World.ipAt_after_refusal (k : Nat) :
    ((w.afterRefusal cmd).recordAll noted).ipAt k = w.ipAt (k + 1) := by
  show World.ipAt w.takeContext.readIp k = w.ipAt (k + 1)
  unfold World.ipAt World.readIp World.memoryAfterIp
  cases hdevice : w.globals.deviceIp with
  | none =>
      simp only [World.takeContext_globals, World.takeContext_memory, hdevice]
      rfl
  | some ip => simp [hdevice]

/-- What is sent again after a refused stop sees one session less. -/
theorem World.refusesStop_after_refusal_iff (k : Nat) :
    (((w.afterRefusal cmd).recordAll noted).drive.get k).RefusesStop
        (((w.afterRefusal cmd).recordAll noted).ipAt k) ↔
      (w.drive.get (k + 1)).RefusesStop (w.ipAt (k + 1)) := by
  rw [World.ipAt_after_refusal]
  rfl

/-- The next attempt is refused in the way that has a stop sent again. -/
theorem World.refusesStop_head_iff :
    (w.drive.get 0).RefusesStop (w.ipAt 0) ↔
      w.drive.head.threadCreated = true ∧ ¬ w.opens ∧ w.drive.head.connectErrno = ebadf := by
  rw [World.ipAt_zero]
  unfold Session.RefusesStop World.opens
  constructor
  · rintro ⟨hthread, hrefused, herrno⟩
    exact ⟨hthread, fun h => hrefused h.2, herrno⟩
  · rintro ⟨hthread, hrefused, herrno⟩
    exact ⟨hthread, fun h => hrefused ⟨hthread, h⟩, herrno⟩

theorem stopEnds_of_sends (hcmd : resentProgram cmd = some (noted, cmd))
    (h : Sends cmd w r w') : w.StopEnds := by
  induction h with
  | noThread hthread =>
      refine ⟨0, fun hrefuses => ?_⟩
      rw [(World.refusesStop_head_iff.mp hrefuses).1] at hthread
      cases hthread
  | written hopens =>
      exact ⟨0, fun hrefuses => (World.refusesStop_head_iff.mp hrefuses).2.1 hopens⟩
  | refused hthread hopens hresends =>
      refine ⟨0, fun hrefuses => ?_⟩
      unfold World.resends at hresends
      rw [if_pos (World.refusesStop_head_iff.mp hrefuses).2.2, hcmd] at hresends
      cases hresends
  | resent hthread hopens hresends _ ih =>
      unfold World.resends at hresends
      split at hresends
      · rw [hcmd] at hresends
        cases hresends
        obtain ⟨k, hk⟩ := ih hcmd
        exact ⟨k + 1, fun h => hk ((World.refusesStop_after_refusal_iff k).mpr h)⟩
      · cases hresends

/-- An attempt that is not refused in that way is the last one. -/
theorem exists_sends_of_not_refusesStop (h : ¬ (w.drive.get 0).RefusesStop (w.ipAt 0)) :
    ∃ r w', Sends cmd w r w' := by
  rw [World.refusesStop_head_iff] at h
  cases hthread : w.drive.head.threadCreated with
  | false => exact ⟨_, _, Sends.noThread hthread⟩
  | true =>
      by_cases hopens : w.opens
      · exact ⟨_, _, Sends.written hopens⟩
      · have hresends : w.resends cmd = none :=
          if_neg fun herrno => h ⟨hthread, hopens, herrno⟩
        exact ⟨_, _, Sends.refused hthread hopens hresends⟩

theorem exists_sends_of_stopEnds (hcmd : resentProgram cmd = some (noted, cmd))
    (h : w.StopEnds) : ∃ r w', Sends cmd w r w' := by
  obtain ⟨k, hk⟩ := h
  induction k generalizing w with
  | zero => exact exists_sends_of_not_refusesStop hk
  | succ k ih =>
      by_cases hhead : (w.drive.get 0).RefusesStop (w.ipAt 0)
      · obtain ⟨hthread, hopens, herrno⟩ := World.refusesStop_head_iff.mp hhead
        have hresends : w.resends cmd = some (noted, cmd) := by
          unfold World.resends
          rw [if_pos herrno, hcmd]
        obtain ⟨r, w', hagain⟩ := ih (w := (w.afterRefusal cmd).recordAll noted)
          fun h => hk ((World.refusesStop_after_refusal_iff k).mp h)
        exact ⟨_, _, Sends.resent hthread hopens hresends hagain⟩
      · exact exists_sends_of_not_refusesStop hhead

/-- A stop comes to an end exactly when one of the attempts is not refused so. -/
theorem exists_runs_stop_iff (hcmd : resentProgram cmd = some (noted, cmd)) :
    (∃ r w', Runs server (sendModbusCommand cmd) w r w') ↔ w.StopEnds := by
  simp only [runs_sendModbusCommand_iff]
  constructor
  · rintro ⟨r, w', h⟩
    exact stopEnds_of_sends hcmd h
  · exact exists_sends_of_stopEnds hcmd

theorem returns_answer_sendModbusCommand (cmd : RegisterProgram) :
    (sendModbusCommand cmd).Returns fun r => responseLine r ≠ none := by
  apply (returns_sendModbusCommand cmd).mono
  intro r hr
  simp only [List.mem_cons, List.not_mem_nil, or_false] at hr
  rcases hr with rfl | rfl <;> simp [responseLine]

theorem answeredBy_smdHoldMove_iff : AnsweredBy w cl .stops smdHoldMove ↔ w.StopEnds := by
  have hruns : (∃ r w', Runs server smdHoldMove w r w') ↔
      (w.recordAll [.noted .smdHoldMove]).StopEnds := by
    simp only [runs_smdHoldMove_iff]
    exact exists_runs_stop_iff rfl
  have hanswered : AnsweredBy w cl .stops smdHoldMove ↔
      ∃ r w', Runs server smdHoldMove w r w' :=
    answeredBy_iff_exists_runs (unheard_body .smdHoldMove (Or.inl rfl))
      fun _ => returns_answer_sendModbusCommand _
  exact hanswered.trans hruns

theorem answeredBy_smdImmedStop_iff : AnsweredBy w cl .stops smdImmedStop ↔ w.StopEnds :=
  (answeredBy_iff_exists_runs (unheard_sendModbusCommand _)
    (returns_answer_sendModbusCommand _)).trans (exists_runs_stop_iff rfl)

/-- What comes after the stop ends in any case. -/
theorem answeredBy_handleStopManualMode_iff :
    AnsweredBy w cl .stops handleStopManualMode ↔ w.StopEnds := by
  have hstop : (∃ r w', Runs server smdImmedStop (w.assign (.statusManualModeEnable 0)) r w') ↔
      w.StopEnds := exists_runs_stop_iff rfl
  rw [← hstop]
  constructor
  -- only the stop itself can keep the handler from returning
  · intro h
    obtain ⟨r, w', hrun⟩ := h.exists_runs
    have hassigned := runs_assign.mp hrun
    rw [Program.done_bind, Program.bind_eq_bind, runs_bind_iff] at hassigned
    obtain ⟨r', w₁, himmed, _⟩ := hassigned
    exact ⟨r', w₁, himmed⟩
  · rintro ⟨r, w₁, himmed⟩
    have himmed' : EndsTelling smdImmedStop (w.assign (.statusManualModeEnable 0)) []
        fun _ => True :=
      ⟨r, w₁, (tells_of_unheard (unheard_sendModbusCommand _)).mpr ⟨himmed, rfl⟩, trivial⟩
    apply answeredBy_of_told
    refine endsTelling_ask rfl rfl ?_
    refine EndsShowing.bind himmed' ?_
    intro response _
    -- a stop that fails takes the connection with it, and is answered as well
    have hclose : Told (smdCloseCommandConnection >>= fun _ =>
        note .manualModeStopped >>= fun _ => pure .commandFailed) := by
      apply endsQuietly_bind endsQuietly_smdCloseCommandConnection
      intro _ _
      exact endsQuietly_ask rfl (fun w => ⟨_, _, rfl⟩) fun _ => told_pure (by simp [responseLine])
    apply endsQuietly_ite hclose
    exact endsQuietly_ask rfl (fun w => ⟨_, _, rfl⟩) fun _ => told_pure (by simp [responseLine])

end stops

/-! ## Programming a move -/

section programming

variable {w : World} {cl : Int}

theorem unheard_smdProgramAssembledMove : Unheard smdProgramAssembledMove :=
  unheard_of_serves serves_smdProgramAssembledMove

/-- A status read leaves three tokens unless it fails in an open session. -/
theorem three_le_numberOfTokens_readReply_iff {registers : RegisterStrings} {line : Text}
    (h : w.takeMemory.opens) :
    3 ≤ numberOfTokens (w.readReply .readInputRegisters registers line).registersString ↔
      (w.drive.head.registers = none → 3 ≤ numberOfTokens (w.memory.head.text.take 128)) := by
  rw [readReply_registersString h]
  cases w.drive.head.registers with
  | none => simp
  | some words => simp [three_le_numberOfTokens_clientWriteString]

theorem exists_runs_failed : ∃ r w', Runs server (pure .commandFailed : Server SmdResponseCode)
    w r w' :=
  ⟨_, w, runs_done_iff.mpr ⟨rfl, rfl⟩⟩

theorem exists_runs_checkStatus_iff {registersString : Text} :
    (∃ r w', Runs server (checkStatus registersString) w r w') ↔
      3 ≤ numberOfTokens registersString := by
  unfold checkStatus
  by_cases hfew : numberOfTokens registersString < 3
  · rw [if_pos hfew]
    refine iff_of_false ?_ (by omega)
    rintro ⟨r, w', hrun⟩
    exact not_runs_abort hrun
  · rw [if_neg hfew]
    refine iff_of_true ?_ (by omega)
    dsimp only
    split
    · exact exists_runs_failed
    · split
      · exact ⟨_, w, runs_done_iff.mpr ⟨rfl, rfl⟩⟩
      · exact exists_runs_failed

/-- The status is looked at when the first block was sent and the read opened its
session. -/
theorem runs_smdProgramBlockFirstBlock_iff {r : SmdResponseCode} {w' : World} (h : w.opens) :
    Runs server smdProgramBlockFirstBlock w r w' ↔
      let reply := w.afterFirstBlock.readReply .readInputRegisters
        (w.afterWrites programFirstBlockProgram).memory.head.registers []
      Runs server (if reply.result = .noRouteToHost ∨ reply.result = .commandFailed then
          pure .commandFailed
        else
          checkStatus reply.registersString) (w.afterFirstBlock.afterRead .readInputRegisters)
        r w' := by
  have hsent : w.sendResult = .commandSuccess := if_pos h
  have hworld : w.afterSend programFirstBlockProgram =
      w.afterWrites programFirstBlockProgram := if_pos h
  unfold smdProgramBlockFirstBlock
  rw [runs_sendOnce_bind_iff rfl, hsent, hworld, if_pos rfl, runs_sleep_bind_iff,
    runs_uninitialised_bind_iff, runs_read_bind_iff]
  rfl

theorem exists_runs_smdProgramBlockFirstBlock_iff :
    (∃ r w', Runs server smdProgramBlockFirstBlock w r w') ↔ w.FindsStatus := by
  unfold World.FindsStatus
  by_cases hopens : w.opens
  · rw [imp_iff_right hopens]
    simp only [runs_smdProgramBlockFirstBlock_iff hopens, readReply_failed_iff]
    by_cases hread : w.afterFirstBlock.takeMemory.opens
    · rw [imp_iff_right hread, ← three_le_numberOfTokens_readReply_iff hread]
      simp only [not_true_eq_false, hread, if_false]
      exact exists_runs_checkStatus_iff
    · simp only [hread, not_false_eq_true, if_true, false_imp_iff, iff_true]
      exact exists_runs_failed
  · refine iff_of_true ?_ fun h => absurd h hopens
    have hsent : w.sendResult = .commandFailed := if_neg hopens
    unfold smdProgramBlockFirstBlock
    simp only [runs_sendOnce_bind_iff (show resentProgram programFirstBlockProgram = none from rfl),
      hsent, reduceCtorEq, if_false]
    exact exists_runs_failed

/-- A move that is programmed is answered unless its status cannot be read. -/
theorem answeredBy_smdProgramAssembledMove_iff :
    AnsweredBy w cl .programsMove smdProgramAssembledMove ↔ w.FindsStatus := by
  have hcodes : smdProgramAssembledMove.Returns fun r => responseLine r ≠ none := by
    apply returns_smdProgramAssembledMove.mono
    intro r hr
    simp only [List.mem_cons, List.not_mem_nil, or_false] at hr
    rcases hr with rfl | rfl <;> simp [responseLine]
  rw [answeredBy_iff_exists_runs unheard_smdProgramAssembledMove hcodes,
    ← exists_runs_smdProgramBlockFirstBlock_iff]
  unfold smdProgramAssembledMove
  constructor
  · rintro ⟨r, w', hrun⟩
    obtain ⟨r', w₁, hfirst, _⟩ := runs_bind_iff.mp hrun
    exact ⟨r', w₁, hfirst⟩
  · rintro ⟨r, w₁, hfirst⟩
    have hrest : EndsQuietly (if r = .commandSuccess then pure SmdResponseCode.readyForAssembledMove
        else smdResetErrors >>= fun _ => pure SmdResponseCode.commandFailed) fun _ => True := by
      apply endsQuietly_ite (endsQuietly_pure trivial)
      exact endsQuietly_bind (endsQuietly_sendModbusCommand rfl) fun _ _ => endsQuietly_pure trivial
    obtain ⟨r', w', htells, _⟩ := hrest w₁
    exact ⟨r', w', runs_bind_iff.mpr ⟨r, w₁, hfirst, htells.runs⟩⟩

end programming

/-! ## Profiles and addresses -/

section profiles

variable {w w' : World} {cl : Int} {input : Text} {r : SmdResponseCode}

theorem endsTelling_smdParseAndUpload (h : w.ReadsProfile input) :
    EndsTelling (smdParseAndUploadAssembledMove input cl) w [] fun _ => True := by
  refine endsTelling_ask rfl rfl ?_
  cases hroot : w.cJsonParse input with
  | none => exact endsShowing_done trivial
  | some root =>
      obtain ⟨table, htable, htype⟩ := h root hroot
      refine endsTelling_ask rfl rfl ?_
      rw [htable]
      dsimp only
      split
      · exact endsShowing_done trivial
      · rename_i hcount
        obtain ⟨type, hstring⟩ := Option.ne_none_iff_exists'.mp
          (htype (by omega) (by omega))
        rw [hstring]
        cases hmove : moveTypeOf type with
        | none =>
            simp only [hmove]
            exact endsShowing_done trivial
        | some moveType =>
            simp only [hmove]
            exact endsTelling_ask rfl rfl (endsQuietly_uploadSegments _ _ _ _ _)

theorem readsProfile_of_runs
    (h : Runs server (smdParseAndUploadAssembledMove input cl) w r w') :
    w.ReadsProfile input := by
  intro root hroot
  unfold smdParseAndUploadAssembledMove at h
  simp only [Program.bind_eq_bind, Program.perform_bind, Program.done_bind, runs_cJsonParse,
    hroot, runs_uninitialised] at h
  cases htable : collectSegments root.child 0 ⟨w.memory.head.segments, 0, []⟩ with
  | error fault =>
      rw [htable] at h
      exact absurd h not_runs_abort
  | ok table =>
      refine ⟨table, rfl, fun hlo hhi hnone => ?_⟩
      rw [htable] at h
      dsimp only at h
      rw [if_neg (by omega), hnone] at h
      exact absurd h not_runs_abort

/-- A profile is answered when it can be read. -/
theorem answeredBy_parseScenario3_iff :
    AnsweredBy w cl .uploads (parseScenario3 input cl) ↔ w.ReadsProfile input := by
  constructor
  · intro h
    obtain ⟨r, w', hrun⟩ := h.exists_runs
    obtain ⟨r', w₁, hupload, _⟩ := runs_bind_iff.mp hrun
    exact readsProfile_of_runs hupload
  · intro h
    apply answeredBy_of_told
    refine EndsShowing.bind (endsTelling_smdParseAndUpload h) ?_
    intro response _
    apply endsQuietly_ite
    · exact endsQuietly_ask rfl (fun w => ⟨_, _, rfl⟩) fun _ => told_pure (by simp [responseLine])
    · apply endsQuietly_ask rfl fun w => ⟨_, _, rfl⟩
      intro _
      exact endsQuietly_bind (endsQuietly_sendModbusCommand rfl)
        fun _ _ => told_pure (by simp [responseLine])

/-- `connect` is answered unless its address is empty. -/
theorem answeredBy_handleConnect_iff :
    AnsweredBy w cl .connects (handleConnect input) ↔
      (numberOfTokens input = 2 → (tokenizeClientInput input 2).token 1 ≠ []) := by
  have hguard : ∀ {p : Server SmdResponseCode}, Told p → AnsweredBy w cl .connects p :=
    fun hp => answeredBy_of_told (hp w)
  unfold handleConnect withTokens
  by_cases hn : numberOfTokens input = 2
  · have hresult : (tokenizeClientInput input 2).result = 0 := by
      have hlength := length_splitOn_of_numberOfTokens (n := 2) hn
      exact if_neg (by omega)
    rw [if_neg (fun h => h hn), imp_iff_right hn]
    dsimp only
    rw [if_neg (fun h => h hresult)]
    by_cases haddress : (tokenizeClientInput input 2).token 1 = []
    · rw [haddress, if_pos List.length_nil]
      refine iff_of_false ?_ (fun h => h rfl)
      intro h
      obtain ⟨r, w', hrun⟩ := h.exists_runs
      exact not_runs_abort hrun
    · rw [if_neg (fun h => haddress (List.eq_nil_of_length_eq_zero h))]
      refine iff_of_true (hguard ?_) haddress
      exact endsQuietly_ask rfl (fun w => ⟨_, _, rfl⟩) fun _ => told_smdOpenCommandConnection
  · rw [if_pos (show numberOfTokens input ≠ (2 : Nat) from hn)]
    exact iff_of_true (hguard (told_pure (by simp [responseLine]))) fun h => absurd h hn

end profiles

end SmdControlServer
