import SmdControlServer.Commands.Errands
import SmdControlServer.Upload.Limits

/-!
# What a read of the registers returns, and who goes by it

`_read_modbus_registers` sets its result in the branch that fails and sets it again at
the exit that both branches share, so a read that fails in an open session returns a
success with whatever the caller's strings held.  The program of the first block and the
upload go by these strings.
-/

namespace SmdControlServer

open CString Interaction

/-! ## The result of a read -/

/-- The session opens, and the registers cannot be read in it. -/
def World.LosesRead (v : World) : Prop :=
  v.opens ∧ v.drive.head.registers = none

/-- The world in which the reading thread works.  With a string for the line some memory
is allocated first. -/
def World.forRead (v : World) (registersString : Option Text) : World :=
  if registersString.isSome then v.takeMemory else v

/-- The result is a success if and only if the connection was opened and the registers
were read, and a read that failed is a failure. -/
def ReportsRead (events : List Event) (result : SmdResponseCode) : Prop :=
  (result = .commandSuccess ↔
      ∃ id, .contextConnected id true ∈ events ∧ .registersRead id true ∈ events) ∧
    ((∃ id, .registersRead id false ∈ events) → result = .commandFailed)

/-- The attempt to connect and the read. -/
def Event.reading? : Event → Option Event
  | .contextConnected id succeeded => some (.contextConnected id succeeded)
  | .registersRead id succeeded => some (.registersRead id succeeded)
  | _ => none

/-- What the reading thread does of this. -/
def World.readingEvents (v : World) : List Event :=
  (if v.ip = [] then [] else [.contextConnected v.contextIds.head v.drive.head.connects]) ++
    v.readEvents

section

variable {v v' : World} {registers : RegisterStrings} {count : Nat}
  {readType : SmdRegisterReadType} {cl : Int} {registersString : Option Text} {size : Nat}
  {reply : RegistersReply} {events : List Event} {result : SmdResponseCode}

/-- Of the events only these two kinds matter for the report. -/
theorem reportsRead_iff_filterMap :
    ReportsRead events result ↔ ReportsRead (events.filterMap Event.reading?) result := by
  have hconnected : ∀ id b, .contextConnected id b ∈ events.filterMap Event.reading? ↔
      .contextConnected id b ∈ events := by
    intro id b
    rw [List.mem_filterMap]
    constructor
    · rintro ⟨e, he, hseen⟩
      cases e <;> cases hseen
      exact he
    · exact fun he => ⟨_, he, rfl⟩
  have hread : ∀ id b, .registersRead id b ∈ events.filterMap Event.reading? ↔
      .registersRead id b ∈ events := by
    intro id b
    rw [List.mem_filterMap]
    constructor
    · rintro ⟨e, he, hseen⟩
      cases e <;> cases hseen
      exact he
    · exact fun he => ⟨_, he, rfl⟩
  unfold ReportsRead
  simp only [hconnected, hread]

/-- A result without any read. -/
theorem reportsRead_nil_iff : ReportsRead [] result ↔ result ≠ .commandSuccess := by
  simp [ReportsRead]

/-- Whether or not it reaches the client, the line is no read. -/
theorem observed_afterClientWrite (cl : Int) (w : World) (message : Text) :
    Observed Event.reading? w (w.afterClientWrite cl message) [] := by
  unfold World.afterClientWrite
  cases w.clientWrites.head with
  | none => exact ⟨[.clientWritten cl message], rfl, rfl⟩
  | some e => exact ⟨[], (List.append_nil _).symm, rfl⟩

/-- The thread reads when its session opens, and the result is a success whether or not
the read is. -/
theorem runs_readWorker_reading (h : Runs server
      (readModbusRegistersWorker registers readType cl registersString)
      (v.recordAll [.threadStarted (.readModbusRegisters readType) true]) reply v') :
    Observed Event.reading? v v' v.readingEvents ∧
      reply.result = if v.readOpens then .commandSuccess else .noRouteToHost := by
  have hrun := (runs_opening_iff
    (w := v.recordAll [.threadStarted (.readModbusRegisters readType) true])).mp h
  unfold World.readingEvents World.readEvents World.readOpens
  by_cases hip : v.ip = []
  · simp [hip] at hrun
    obtain ⟨rfl, rfl⟩ := hrun
    simp only [hip, ne_eq, not_true_eq_false, decide_false, Bool.false_and, if_true,
      Bool.false_eq_true, if_false]
    exact ⟨⟨_, rfl, rfl⟩, trivial⟩
  · simp only [hip, ne_eq, not_false_eq_true, decide_true, Bool.true_and, if_false]
    cases hconnects : v.drive.head.connects with
    | false =>
        simp [hip, hconnects] at hrun
        obtain ⟨rfl, rfl⟩ := hrun
        exact ⟨⟨_, rfl, rfl⟩, rfl⟩
    | true =>
        cases hwords : v.drive.head.registers with
        | none =>
            simp [hip, hconnects, hwords] at hrun
            obtain ⟨rfl, rfl⟩ := hrun
            exact ⟨⟨_, rfl, rfl⟩, rfl⟩
        | some words =>
            simp [hip, hconnects, hwords] at hrun
            -- with a client the line is written before the session is closed
            split at hrun
            · simp at hrun
              obtain ⟨rfl, rfl⟩ := hrun
              refine ⟨?_, rfl⟩
              have hread : Observed Event.reading? v (v.takeContext.readIp.recordAll
                  [.threadStarted (.readModbusRegisters readType) true,
                    .contextAllocated v.contextIds.head,
                    .contextConnected v.contextIds.head true,
                    .registersRead v.contextIds.head true])
                  [.contextConnected v.contextIds.head true,
                    .registersRead v.contextIds.head true] := ⟨_, rfl, rfl⟩
              have hline := hread.trans (observed_afterClientWrite cl _
                (clientWriteString readType words))
              exact hline.trans ⟨closingEvents v.contextIds.head, rfl, rfl⟩
            · simp at hrun
              obtain ⟨rfl, rfl⟩ := hrun
              exact ⟨⟨_, rfl, rfl⟩, rfl⟩

/-- The thread reports what it has done unless its read fails in an open session. -/
theorem reportsRead_worker_iff :
    ReportsRead v.readingEvents (if v.readOpens then .commandSuccess else .noRouteToHost) ↔
      ¬ (v.readOpens = true ∧ v.drive.head.registers = none) := by
  unfold World.readingEvents World.readEvents World.readOpens
  by_cases hip : v.ip = []
  · simp [hip, ReportsRead]
  · cases hconnects : v.drive.head.connects with
    | false => simp [hip, ReportsRead]
    | true =>
        cases hwords : v.drive.head.registers with
        | none => simp [hip, ReportsRead]
        | some words => simp [hip, ReportsRead]

/-- The read in a thread of its own. -/
theorem reportsRead_of_worker (hthread : v.drive.head.threadCreated = true)
    (h : Runs server (readModbusRegistersWorker registers readType cl registersString)
      (v.recordAll [.threadStarted (.readModbusRegisters readType) true]) reply v') :
    ReportsRead (newEvents v v') reply.result ↔ ¬ v.LosesRead := by
  obtain ⟨hobserved, hresult⟩ := runs_readWorker_reading h
  rw [reportsRead_iff_filterMap, hobserved.newEvents_eq, hresult, reportsRead_worker_iff]
  unfold World.LosesRead World.opens World.readOpens
  simp [hthread]

/-- `return_modbus_registers` reports what was done unless the read fails in an open
session. -/
theorem reportsRead_returned_iff (h : Runs server
      (returnModbusRegisters registers count readType cl registersString size) v reply v') :
    ReportsRead (newEvents v v') reply.result ↔
      ¬ (128 ≤ size ∧ count = 10 ∧ (v.forRead registersString).LosesRead) := by
  have hquiet : newEvents v v = [] := newEvents_of_log [] (List.append_nil _).symm
  have hfailed : (SmdResponseCode.commandFailed ≠ .commandSuccess) := by decide
  unfold returnModbusRegisters at h
  by_cases hsize : size < 128
  · rw [if_pos hsize] at h
    obtain ⟨rfl, rfl⟩ := runs_done_iff.mp h
    rw [hquiet]
    exact iff_of_true (reportsRead_nil_iff.mpr hfailed) fun hlost => by omega
  · rw [if_neg hsize] at h
    by_cases hcount : count ≠ 10
    · rw [if_pos hcount] at h
      obtain ⟨rfl, rfl⟩ := runs_done_iff.mp h
      rw [hquiet]
      exact iff_of_true (reportsRead_nil_iff.mpr hfailed) fun hlost => hcount hlost.2.1
    · rw [if_neg hcount] at h
      simp only [Program.bind_eq_bind, Program.perform_bind, Program.done_bind,
        runs_pthreadCreate_read] at h
      have hsize' : 128 ≤ size := Nat.le_of_not_lt hsize
      have hcount' : count = 10 := not_not.mp hcount
      simp only [hsize', hcount', true_and]
      cases hthread : v.drive.head.threadCreated with
      | false =>
          rw [hthread] at h
          obtain ⟨rfl, rfl⟩ := runs_done_iff.mp h
          rw [World.startWorker_of_not_created hthread,
            newEvents_of_log [.threadStarted (.readModbusRegisters readType) false] rfl,
            reportsRead_iff_filterMap]
          refine iff_of_true (reportsRead_nil_iff.mpr hfailed) fun hlost => ?_
          have hcreated : v.drive.head.threadCreated = true := by
            unfold World.forRead at hlost
            split at hlost <;> exact hlost.1.1
          rw [hthread] at hcreated
          cases hcreated
      | true =>
          rw [hthread, World.startWorker_of_created hthread] at h
          cases registersString with
          | none => exact reportsRead_of_worker hthread h
          | some line =>
              -- the string is allocated after the thread is started
              simp only [Bool.not_true, Bool.false_eq_true, if_false, Option.isSome_some,
                if_true, runs_uninitialised, runs_bind_iff] at h
              obtain ⟨reply', v₁, hworker, hreply⟩ := h
              obtain ⟨rfl, rfl⟩ := runs_done_iff.mp hreply
              have hreports : ReportsRead (newEvents v.takeMemory v') reply'.result ↔
                  ¬ v.takeMemory.LosesRead := reportsRead_of_worker hthread hworker
              exact hreports

theorem exists_runs_readWorker (registers : RegisterStrings) (readType : SmdRegisterReadType)
    (cl : Int) (registersString : Option Text) (w : World) : ∃ reply w', Runs server
      (readModbusRegistersWorker registers readType cl registersString) w reply w' := by
  unfold readModbusRegistersWorker
  by_cases hip : w.ip = []
  · simp [hip]
  · cases hconnects : w.drive.head.connects with
    | false => simp [hip, hconnects]
    | true =>
        cases hwords : w.drive.head.registers with
        | none => simp [hip, hconnects, hwords]
        | some words =>
            by_cases hcl : cl > 0
            · simp [hip, hconnects, hwords, hcl]
            · simp [hip, hconnects, hwords, hcl]

/-- A read always returns. -/
theorem exists_runs_returnModbusRegisters (v : World) : ∃ reply v', Runs server
    (returnModbusRegisters registers count readType cl registersString size) v reply v' := by
  unfold returnModbusRegisters
  by_cases hsize : size < 128
  · rw [if_pos hsize]
    exact ⟨_, v, runs_done_iff.mpr ⟨rfl, rfl⟩⟩
  · by_cases hcount : count ≠ 10
    · rw [if_neg hsize, if_pos hcount]
      exact ⟨_, v, runs_done_iff.mpr ⟨rfl, rfl⟩⟩
    · rw [if_neg hsize, if_neg hcount]
      simp only [Program.bind_eq_bind, Program.perform_bind, Program.done_bind,
        runs_pthreadCreate_read]
      cases v.drive.head.threadCreated with
      | false => simp
      | true =>
          simp only [Bool.not_true, Bool.false_eq_true, if_false]
          split
          · simp only [runs_uninitialised, runs_bind_iff]
            obtain ⟨reply, v', hrun⟩ := exists_runs_readWorker registers readType cl _ _
            exact ⟨_, v', reply, v', hrun, runs_done_iff.mpr ⟨rfl, rfl⟩⟩
          · exact exists_runs_readWorker _ _ _ _ _

end

/-! ## The callers -/

/-- The caller goes by the strings of the reply. -/
def RegistersReply.Used (reply : RegistersReply) : Prop :=
  ¬ (reply.result = .noRouteToHost ∨ reply.result = .commandFailed)

/-- The strings are those of the registers that were read in this world. -/
def RegistersReply.HasRead (reply : RegistersReply) (v : World) : Prop :=
  ∃ words, v.readWords = some words ∧
    reply.registers = (fun i => registerText i.val (words i)) ∧
    reply.registersString = (clientWriteString .readInputRegisters words).take 128

/-- The status read of `_SMD_program_block_first_block`: it is made when the program was
sent. -/
inductive FirstBlockRead (w : World) : World → RegistersReply → Prop
  | status : w.opens → FirstBlockRead w w.afterFirstBlock
      (w.afterFirstBlock.readReply .readInputRegisters
        (w.afterWrites programFirstBlockProgram).memory.head.registers [])

/-- The status reads of a segment: the second one is made when the first showed the bit
clear and the drive was prepared. -/
inductive SegmentRead (w : World) (s : AssembledMoveSegment) : World → RegistersReply → Prop
  | first : SegmentRead w s (w.atFirstRead s) (w.firstReply s)
  | second : (w.firstReply s).Used → statusBit ((w.firstReply s).registers 0) = some '0' →
      (w.atPrepare s).opens → SegmentRead w s (w.atSecondRead s) (w.secondReply s)

/-- A status read of an upload. -/
def UploadRead (w : World) (jsonString : Text) (cl : Int) (v : World)
    (reply : RegistersReply) : Prop :=
  ∃ moveType segments, w.upload jsonString = some (moveType, segments) ∧
    ∃ k p, TurnComes segments.length cl segments (w.atUpload moveType) k ∧
      (uploadWorlds segments.length cl 0 segments (w.atUpload moveType))[k]? = some p ∧
      SegmentRead p.1 p.2 v reply

section

variable {v : World} {registers : RegisterStrings} {line : Text}

/-- The strings that a caller goes by were read in the same step, unless the read failed
in an open session. -/
theorem used_hasRead_iff :
    ((v.readReply .readInputRegisters registers line).Used →
        (v.readReply .readInputRegisters registers line).HasRead v) ↔
      ¬ v.takeMemory.LosesRead := by
  have hused : (v.readReply .readInputRegisters registers line).Used ↔ v.takeMemory.opens :=
    not_iff_comm.mp readReply_failed_iff.symm
  have hdrive : v.takeMemory.drive.head.registers = v.drive.head.registers := rfl
  unfold World.LosesRead
  rw [hused, hdrive, not_and, ← ne_eq]
  constructor
  · intro h hopens hlost
    obtain ⟨words, hwords, _⟩ := h hopens
    rw [World.readWords, if_pos hopens, hlost] at hwords
    cases hwords
  · intro h hopens
    obtain ⟨words, hwords⟩ := Option.ne_none_iff_exists'.mp (h hopens)
    have hread : v.readWords = some words := (if_pos hopens).trans hwords
    refine ⟨words, hread, readReply_registers hread, ?_⟩
    rw [readReply_registersString hopens, hwords]

theorem FirstBlockRead.used_hasRead_iff {w : World} {reply : RegistersReply}
    (h : FirstBlockRead w v reply) :
    (reply.Used → reply.HasRead v) ↔ ¬ v.takeMemory.LosesRead := by
  cases h
  exact SmdControlServer.used_hasRead_iff

theorem UploadRead.used_hasRead_iff {w : World} {jsonString : Text} {cl : Int}
    {reply : RegistersReply} (h : UploadRead w jsonString cl v reply) :
    (reply.Used → reply.HasRead v) ↔ ¬ v.takeMemory.LosesRead := by
  obtain ⟨_, _, _, _, _, _, _, hread⟩ := h
  cases hread with
  | first => exact SmdControlServer.used_hasRead_iff
  | second => exact SmdControlServer.used_hasRead_iff

end

/-- The two functions that read the registers report what they did, and the two that go
by the strings go by strings that were read in the same step, exactly where no read fails
in an open session. -/
theorem read_results_iff (v : World) :
    (∀ registers count readType cl registersString size,
      (∃ reply v', Runs server
        (returnModbusRegisters registers count readType cl registersString size) v reply v') ∧
      ∀ reply v', Runs server
          (returnModbusRegisters registers count readType cl registersString size) v reply v' →
        (ReportsRead (newEvents v v') reply.result ↔
          ¬ (128 ≤ size ∧ count = 10 ∧ (v.forRead registersString).LosesRead))) ∧
    (∀ registers count readType cl,
      (∃ reply v', Runs server (readModbusRegisters registers count readType cl) v reply v') ∧
      ∀ reply v', Runs server (readModbusRegisters registers count readType cl) v reply v' →
        (ReportsRead (newEvents v v') reply.result ↔ ¬ (count = 10 ∧ v.LosesRead))) ∧
    (∀ w reply, FirstBlockRead w v reply →
      ((reply.Used → reply.HasRead v) ↔ ¬ v.takeMemory.LosesRead)) ∧
    ∀ w jsonString cl reply, UploadRead w jsonString cl v reply →
      ((reply.Used → reply.HasRead v) ↔ ¬ v.takeMemory.LosesRead) := by
  refine ⟨?_, ?_, fun w reply h => h.used_hasRead_iff,
    fun w jsonString cl reply h => h.used_hasRead_iff⟩
  · intro registers count readType cl registersString size
    exact ⟨exists_runs_returnModbusRegisters v, fun reply v' => reportsRead_returned_iff⟩
  · intro registers count readType cl
    refine ⟨exists_runs_returnModbusRegisters v, fun reply v' hrun => ?_⟩
    have hreports := reportsRead_returned_iff hrun
    simpa [World.forRead] using hreports

/-- A drive that takes everything but lets nothing be read, and memory in which the line
of an earlier read has been left. -/
def World.losingReads : World :=
  { World.facing (Globals.connectedTo "10.0.0.5".toList)
      (Stream'.const { Session.answering (fun _ => 0) with registers := none }) with
    memory := Stream'.const (Uninitialised.cleared ",,0x8300,0x0,0\n".toList) }

/-- A failed read is a success, and a move is ready to be programmed by a status word that
was not read. -/
theorem failed_read_succeeds :
    (∃ reply v', Runs server (readModbusRegisters (fun _ => []) 10 .readInputRegisters 5)
        World.losingReads reply v' ∧ reply.result = .commandSuccess ∧
      .registersRead 0 false ∈ newEvents World.losingReads v' ∧
      ¬ ReportsRead (newEvents World.losingReads v') reply.result) ∧
    ∃ w', Runs server smdProgramAssembledMove World.losingReads .readyForAssembledMove w' ∧
      .registersRead 0 false ∈ newEvents World.losingReads w' ∧
      .registersRead 0 true ∉ newEvents World.losingReads w' := by
  constructor
  · have heval : (eval server 0 (readModbusRegisters (fun _ => []) 10 .readInputRegisters 5)
        World.losingReads).map (fun r => decide (r.1.result = .commandSuccess ∧
          .registersRead 0 false ∈ newEvents World.losingReads r.2)) = some true := by
      decide +kernel
    obtain ⟨reply, v', hrun, htold⟩ := exists_runs_of_eval heval
    obtain ⟨hresult, hfailed⟩ := of_decide_eq_true htold
    refine ⟨reply, v', hrun, hresult, hfailed, fun hreports => ?_⟩
    have hfails := hreports.2 ⟨0, hfailed⟩
    rw [hresult] at hfails
    cases hfails
  · have heval : (eval server 0 smdProgramAssembledMove World.losingReads).map (fun r =>
        (r.1, decide (.registersRead 0 false ∈ newEvents World.losingReads r.2 ∧
          .registersRead 0 true ∉ newEvents World.losingReads r.2))) =
        some (.readyForAssembledMove, true) := by
      decide +kernel
    obtain ⟨r, w', hrun, heq⟩ := exists_runs_of_eval heval
    obtain ⟨rfl, htold⟩ := Prod.mk.inj heq
    exact ⟨w', hrun, of_decide_eq_true htold⟩

end SmdControlServer
