import SmdControlServer.Drive.Reading
import SmdControlServer.Drive.Writes

/-!
# One session at a time

A program that is not sent again and a status read take one session each.  What
they return and the world after them are functions of the world before, and what
they leave in the log can be taken in by a function of the single events.
-/

namespace SmdControlServer

open CString Interaction

namespace World

instance (w : World) : Decidable w.opens :=
  inferInstanceAs (Decidable (_ ∧ _ ∧ _))

/-! ## One session -/

/-- The world after a program that is not sent again. -/
def afterSend (w : World) (cmd : RegisterProgram) : World :=
  if w.opens then
    w.afterWrites cmd
  else if w.drive.head.threadCreated then
    w.afterRefusal cmd
  else
    w.afterNoThread (.sendModbusCommand cmd)

/-- What `send_modbus_command` returns. -/
def sendResult (w : World) : SmdResponseCode :=
  if w.opens then .commandSuccess else .commandFailed

/-- The registers that a status read gets, if it succeeds. -/
def readWords (w : World) : Option (Fin 10 → BitVec 16) :=
  if w.takeMemory.opens then w.drive.head.registers else none

end World

section

variable {w : World}

theorem runs_sendOnce_iff {cmd : RegisterProgram} (honce : resentProgram cmd = none)
    {r : SmdResponseCode} {w' : World} :
    Runs server (sendModbusCommand cmd) w r w' ↔ r = w.sendResult ∧ w' = w.afterSend cmd := by
  have hresends : w.resends cmd = none := by
    unfold World.resends
    rw [honce, ite_self]
  unfold World.sendResult World.afterSend
  by_cases hopens : w.opens
  · rw [if_pos hopens, if_pos hopens]
    exact runs_sendModbusCommand_opens hopens
  · rw [if_neg hopens, if_neg hopens]
    cases hthread : w.drive.head.threadCreated with
    | true =>
        rw [runs_sendModbusCommand_refused hthread hopens, hresends]
        rfl
    | false =>
        rw [runs_sendModbusCommand_noThread hthread]
        rfl

/-- A status read is reported as a success when its session opens. -/
theorem readReply_result_iff (readType : SmdRegisterReadType) (registers : RegisterStrings)
    (line : Text) :
    (w.readReply readType registers line).result = .commandSuccess ↔ w.takeMemory.opens := by
  unfold World.readReply World.workerReply World.readOpens World.opens
  cases hthread : w.drive.head.threadCreated with
  | false => simp [hthread]
  | true =>
      by_cases hip : w.takeMemory.ip = []
      · simp [hip]
      · cases hconnects : w.drive.head.connects with
        | false => simp [hthread, hip, hconnects]
        | true =>
            cases hregisters : w.drive.head.registers with
            | none => simp [hthread, hip, hconnects, hregisters]
            | some words => simp [hthread, hip, hconnects, hregisters]

/-- A read that does not open its session is reported with one of two codes. -/
theorem readReply_failed_iff {readType : SmdRegisterReadType} {registers : RegisterStrings}
    {line : Text} :
    ((w.readReply readType registers line).result = .noRouteToHost ∨
        (w.readReply readType registers line).result = .commandFailed) ↔
      ¬ w.takeMemory.opens := by
  rw [← readReply_result_iff readType registers line]
  unfold World.readReply World.workerReply
  cases w.drive.head.threadCreated with
  | false => simp
  | true =>
      cases w.takeMemory.readOpens with
      | false => simp
      | true => cases hregisters : w.drive.head.registers <;> simp [hregisters]

/-- The worker of a read that opens its session is created and connects. -/
theorem readOpens_of_opens (h : w.takeMemory.opens) :
    w.drive.head.threadCreated = true ∧ w.takeMemory.readOpens = true := by
  obtain ⟨hthread, hip, hconnects⟩ := h
  have hconnects' : w.drive.head.connects = true := hconnects
  exact ⟨hthread, by simp [World.readOpens, hip, hconnects']⟩

/-- The strings of a successful read are those of its registers. -/
theorem readReply_registers {readType : SmdRegisterReadType} {registers : RegisterStrings}
    {line : Text} {words : Fin 10 → BitVec 16} (h : w.readWords = some words) :
    (w.readReply readType registers line).registers =
      fun i => registerText i.val (words i) := by
  unfold World.readWords at h
  by_cases hopens : w.takeMemory.opens
  · rw [if_pos hopens] at h
    obtain ⟨hthread, hread⟩ := readOpens_of_opens hopens
    have hregisters : w.takeMemory.drive.head.registers = some words := h
    unfold World.readReply World.workerReply
    rw [if_pos hthread, hread, hregisters]
    rfl
  · rw [if_neg hopens] at h
    cases h

/-- What a status read in an open session leaves in the string. -/
theorem readReply_registersString {readType : SmdRegisterReadType} {registers : RegisterStrings}
    {line : Text} (h : w.takeMemory.opens) :
    (w.readReply readType registers line).registersString =
      match w.drive.head.registers with
      | none => w.memory.head.text.take 128
      | some words => (clientWriteString readType words).take 128 := by
  obtain ⟨hthread, hread⟩ := readOpens_of_opens h
  have hdrive : w.takeMemory.drive = w.drive := rfl
  unfold World.readReply World.workerReply
  rw [if_pos hthread, hread, hdrive]
  cases w.drive.head.registers <;> rfl

end

section

variable {α : Type} {w w' : World} {a : α}

theorem runs_sendOnce_bind_iff {cmd : RegisterProgram} (honce : resentProgram cmd = none)
    {k : SmdResponseCode → Server α} :
    Runs server (sendModbusCommand cmd >>= k) w a w' ↔
      Runs server (k w.sendResult) (w.afterSend cmd) a w' := by
  rw [Program.bind_eq_bind, runs_bind_iff]
  constructor
  · rintro ⟨r, w₁, hsend, hrest⟩
    obtain ⟨rfl, rfl⟩ := (runs_sendOnce_iff honce).mp hsend
    exact hrest
  · intro hrest
    exact ⟨_, _, (runs_sendOnce_iff honce).mpr ⟨rfl, rfl⟩, hrest⟩

theorem runs_read_bind_iff {readType : SmdRegisterReadType} {registers : RegisterStrings}
    {line : Text} {k : RegistersReply → Server α} :
    Runs server (returnModbusRegisters registers 10 readType (-1) (some line) 128 >>= k)
        w a w' ↔
      Runs server (k (w.readReply readType registers line)) (w.afterRead readType) a w' := by
  rw [Program.bind_eq_bind, runs_bind_iff]
  constructor
  · rintro ⟨r, w₁, hread, hrest⟩
    obtain ⟨rfl, rfl⟩ := runs_returnModbusRegisters_iff.mp hread
    exact hrest
  · intro hrest
    exact ⟨_, _, runs_returnModbusRegisters_iff.mpr ⟨rfl, rfl⟩, hrest⟩

theorem runs_sleep_bind_iff {n : Nat} {p : Server α} :
    Runs server (sleep n >>= fun _ => p) w a w' ↔ Runs server p w a w' :=
  runs_sleep

theorem runs_uninitialised_bind_iff {k : Uninitialised → Server α} :
    Runs server (uninitialised >>= k) w a w' ↔
      Runs server (k w.memory.head) w.takeMemory a w' :=
  runs_uninitialised

end

/-! ## What a session leaves in the log -/

/-- The events of a session after its thread has been started. -/
def Event.OfSession : Event → Prop
  | .contextAllocated _ => True
  | .contextConnected _ _ => True
  | .registerWritten _ _ _ _ => True
  | .registersRead _ _ => True
  | .contextClosed _ => True
  | .contextFreed _ => True
  | _ => False

/-- Between the two worlds `f` sees `xs` in the log. -/
def Observed {β : Type} (f : Event → Option β) (w w' : World) (xs : List β) : Prop :=
  ∃ es, w'.log = w.log ++ es ∧ es.filterMap f = xs

section Observed

variable {β : Type} {f : Event → Option β} {w w₁ w₂ : World}

theorem Observed.refl (w : World) : Observed f w w [] :=
  ⟨[], by simp, rfl⟩

theorem Observed.trans {xs ys : List β} (h : Observed f w w₁ xs) (h' : Observed f w₁ w₂ ys) :
    Observed f w w₂ (xs ++ ys) := by
  obtain ⟨es, hlog, hes⟩ := h
  obtain ⟨es', hlog', hes'⟩ := h'
  refine ⟨es ++ es', ?_, ?_⟩
  · rw [hlog', hlog, List.append_assoc]
  · rw [List.filterMap_append, hes, hes']

theorem Observed.newEvents_eq {xs : List β} (h : Observed f w w₁ xs) :
    (newEvents w w₁).filterMap f = xs := by
  obtain ⟨es, hlog, hes⟩ := h
  rw [newEvents_of_log es hlog, hes]

/-- `f` sees nothing of a session but that its thread is started. -/
def SeesThreads (f : Event → Option β) : Prop :=
  ∀ e : Event, e.OfSession → f e = none

/-- Of the start of a thread and a session, `f` sees the start only. -/
theorem observed_of_session (hf : SeesThreads f) (routine : Routine) (created : Bool)
    (es : List Event) (hes : ∀ e ∈ es, e.OfSession)
    (hlog : w₁.log = w.log ++ .threadStarted routine created :: es) :
    Observed f w w₁ (f (.threadStarted routine created)).toList := by
  refine ⟨_, hlog, ?_⟩
  have hnone : es.filterMap f = [] := by
    rw [List.filterMap_eq_nil_iff]
    exact fun e he => hf e (hes e he)
  rw [List.filterMap_cons, hnone]
  cases f (.threadStarted routine created) <;> rfl

theorem observed_afterSession (hf : SeesThreads f) (routine : Routine) {body : List Event}
    (hbody : ∀ e ∈ body, e.OfSession) :
    Observed f w (w.afterSession routine body) (f (.threadStarted routine true)).toList := by
  refine observed_of_session hf routine true (.contextAllocated w.contextIds.head ::
    (if w.ip = [] then [] else [.contextConnected w.contextIds.head w.drive.head.connects]) ++
      body ++ closingEvents w.contextIds.head) ?_ ?_
  · intro e he
    rcases List.mem_append.mp he with he | hclosing
    · rcases List.mem_append.mp he with hopening | hmem
      · rcases List.mem_cons.mp hopening with rfl | hconnected
        · trivial
        · split at hconnected
          · cases hconnected
          · rw [List.mem_singleton.mp hconnected]
            trivial
      · exact hbody e hmem
    · have h : e = .contextClosed w.contextIds.head ∨ e = .contextFreed w.contextIds.head := by
        simpa [closingEvents] using hclosing
      rcases h with rfl | rfl <;> trivial
  · simp [World.afterSession, openingEvents]

theorem observed_afterNoThread (hf : SeesThreads f) (routine : Routine) :
    Observed f w (w.afterNoThread routine) (f (.threadStarted routine false)).toList :=
  observed_of_session hf routine false [] (by simp) (by simp [World.afterNoThread])

theorem observed_afterSend (hf : SeesThreads f) {cmd : RegisterProgram} {xs : List β}
    (hstarted : ∀ created,
      (f (.threadStarted (.sendModbusCommand cmd) created)).toList = xs) :
    Observed f w (w.afterSend cmd) xs := by
  unfold World.afterSend
  by_cases hopens : w.opens
  · rw [if_pos hopens, ← hstarted true]
    refine observed_afterSession hf _ fun e he => ?_
    obtain ⟨_, _, _, rfl⟩ := eq_registerWritten_of_mem_writeEvents he
    trivial
  · rw [if_neg hopens]
    split
    · rw [← hstarted true]
      exact observed_afterSession hf _ (by simp)
    · rw [← hstarted false]
      exact observed_afterNoThread hf _

theorem observed_afterRead (hf : SeesThreads f) {readType : SmdRegisterReadType}
    (hstarted : ∀ created, f (.threadStarted (.readModbusRegisters readType) created) = none) :
    Observed f w (w.afterRead readType) [] := by
  unfold World.afterRead
  split
  · have h : Observed f w.takeMemory (w.takeMemory.afterSession (.readModbusRegisters readType)
        w.takeMemory.readEvents) _ := observed_afterSession hf _ fun e he => by
      unfold World.readEvents at he
      split at he
      · rw [List.mem_singleton.mp he]
        trivial
      · cases he
    rw [hstarted] at h
    exact h
  · have h : Observed f w (w.afterNoThread (.readModbusRegisters readType)) _ :=
      observed_afterNoThread hf _
    rw [hstarted] at h
    exact h

end Observed

end SmdControlServer
