import SmdControlServer.Drive.Sending

/-!
# The register writes of a command

What reaches the drive when a program is sent, read off the log.  The loop of
`_send_modbus_command` goes on after a write that failed, so the writes are those
of the whole program in the one session that opens, whatever their outcomes.  A
program is written up to its first failure only when its session fails at no
write but the last, and a success is truthful only when the session fails at
none.
-/

namespace SmdControlServer

open CString Interaction

/-- One call of `modbus_write_register`. -/
structure RegisterWrite where
  context : Nat
  register : Int
  value : Int
  succeeded : Bool
  deriving DecidableEq

def Event.registerWrite? : Event → Option RegisterWrite
  | .registerWritten id register value succeeded => some ⟨id, register, value, succeeded⟩
  | _ => none

/-- The register writes of a part of the log, in order. -/
def registerWrites (events : List Event) : List RegisterWrite :=
  events.filterMap Event.registerWrite?

@[simp] theorem registerWrites_nil : registerWrites [] = [] := rfl

@[simp] theorem registerWrites_append (es es' : List Event) :
    registerWrites (es ++ es') = registerWrites es ++ registerWrites es' :=
  List.filterMap_append

@[simp] theorem registerWrites_openingEvents (routine : Routine) (w : World) :
    registerWrites (openingEvents routine w) = [] := by
  unfold openingEvents
  by_cases hip : w.ip = []
  · rw [if_pos hip]
    rfl
  · rw [if_neg hip]
    rfl

@[simp] theorem registerWrites_closingEvents (id : Nat) :
    registerWrites (closingEvents id) = [] := rfl

@[simp] theorem registerWrites_notes (notes : List Note) :
    registerWrites (notes.map Event.noted) = [] := by
  unfold registerWrites
  rw [List.filterMap_map, List.filterMap_eq_nil_iff]
  exact fun _ _ => rfl

/-- The writes that a program makes in a session that opens. -/
def sessionWrites (ctx : Context) (cmd : RegisterProgram) : List RegisterWrite :=
  cmd.writes.mapIdx fun i write =>
    ⟨ctx.id, write.1, write.2, ctx.session.writeSucceeds i⟩

theorem registerWrites_writeEvents (ctx : Context) (i : Nat) (writes : List (Int × Int)) :
    registerWrites (writeEvents ctx i writes) =
      writes.mapIdx fun j write =>
        ⟨ctx.id, write.1, write.2, ctx.session.writeSucceeds (i + j)⟩ := by
  induction writes generalizing i with
  | nil => rfl
  | cons first rest ih =>
      have htail : registerWrites (writeEvents ctx i (first :: rest)) =
          ⟨ctx.id, first.1, first.2, ctx.session.writeSucceeds i⟩ ::
            registerWrites (writeEvents ctx (i + 1) rest) := rfl
      rw [htail, ih (i + 1), List.mapIdx_cons]
      have hidx : ∀ j, i + 1 + j = i + (j + 1) := fun j => by omega
      simp only [hidx, Nat.add_zero]

theorem eq_registerWritten_of_mem_writeEvents {ctx : Context} {i : Nat}
    {writes : List (Int × Int)} {e : Event} (h : e ∈ writeEvents ctx i writes) :
    ∃ register value succeeded, e = .registerWritten ctx.id register value succeeded := by
  induction writes generalizing i with
  | nil => cases h
  | cons first rest ih =>
      rcases List.mem_cons.mp h with rfl | hrest
      · exact ⟨_, _, _, rfl⟩
      · exact ih hrest

@[simp] theorem length_sessionWrites (ctx : Context) (cmd : RegisterProgram) :
    (sessionWrites ctx cmd).length = cmd.numRegisters := by
  rw [sessionWrites, List.length_mapIdx, RegisterProgram.length_writes]

theorem succeeded_getElem_sessionWrites {ctx : Context} {cmd : RegisterProgram} {i : Nat}
    (hi : i < (sessionWrites ctx cmd).length) :
    (sessionWrites ctx cmd)[i].succeeded = ctx.session.writeSucceeds i := by
  simp [sessionWrites]

/-- The part of the log that the session of a written program adds. -/
theorem newEvents_afterWrites (w : World) (cmd : RegisterProgram) :
    newEvents w (w.afterWrites cmd) =
      openingEvents (.sendModbusCommand cmd) w ++
        writeEvents ⟨w.contextIds.head, w.drive.head⟩ 0 cmd.writes ++
          closingEvents w.contextIds.head :=
  newEvents_of_log _ (by simp [World.afterWrites, World.afterSession])

theorem registerWrites_newEvents_afterWrites (w : World) (cmd : RegisterProgram) :
    registerWrites (newEvents w (w.afterWrites cmd)) =
      sessionWrites ⟨w.contextIds.head, w.drive.head⟩ cmd := by
  rw [newEvents_afterWrites]
  simp [registerWrites_writeEvents, sessionWrites]

theorem newEvents_afterNoThread (w : World) (routine : Routine) :
    newEvents w (w.afterNoThread routine) = [.threadStarted routine false] :=
  newEvents_of_log _ rfl

/-- What a refused attempt adds to the log. -/
def refusalEvents (cmd : RegisterProgram) (w : World) : List Event :=
  openingEvents (.sendModbusCommand cmd) w ++ closingEvents w.contextIds.head

@[simp] theorem registerWrites_refusalEvents (cmd : RegisterProgram) (w : World) :
    registerWrites (refusalEvents cmd w) = [] := by
  simp [refusalEvents]

theorem newEvents_afterRefusal (w : World) (cmd : RegisterProgram) :
    newEvents w (w.afterRefusal cmd) = refusalEvents cmd w :=
  newEvents_of_log _ (by simp [World.afterRefusal, World.afterSession, refusalEvents])

/-- The log of a stop that is sent again: the refused attempt comes first. -/
theorem newEvents_resent {cmd : RegisterProgram} {noted : List Event} {w w' : World}
    (h : ((w.afterRefusal cmd).recordAll noted).Extends w') :
    newEvents w w' = refusalEvents cmd w ++ noted ++
      newEvents ((w.afterRefusal cmd).recordAll noted) w' := by
  obtain ⟨es, hes⟩ := h.log
  rw [newEvents_of_log es hes.symm]
  refine newEvents_of_log _ ?_
  rw [← hes]
  simp [World.afterRefusal, World.afterSession, refusalEvents]

/-! ## The session in which a program is written -/

/-- `WrittenIn cmd w cmd' ctx`: when `cmd` is sent, the first session that is
opened is that of `ctx`, and it is `cmd'` that is written there, the program
itself or the stop that was sent again. -/
inductive WrittenIn : RegisterProgram → World → RegisterProgram → Context → Prop
  | first {cmd : RegisterProgram} {w : World} (hopens : w.opens) :
      WrittenIn cmd w cmd ⟨w.contextIds.head, w.drive.head⟩
  | resent {cmd again cmd' : RegisterProgram} {w : World} {noted : List Event}
      {ctx : Context} (hthread : w.drive.head.threadCreated = true)
      (hopens : ¬ w.opens) (hresends : w.resends cmd = some (noted, again))
      (hagain : WrittenIn again ((w.afterRefusal cmd).recordAll noted) cmd' ctx) :
      WrittenIn cmd w cmd' ctx

/-- What is noted of a stop that is sent again contains no write. -/
theorem registerWrites_noted {cmd again : RegisterProgram} {w : World}
    {noted : List Event} (h : w.resends cmd = some (noted, again)) :
    registerWrites noted = [] := by
  unfold World.resends resentProgram at h
  split at h
  · split at h
    · cases h
      rfl
    · split at h
      · cases h
        rfl
      · cases h
  · cases h

/-- A refused attempt and what is noted after it add no writes. -/
theorem registerWrites_newEvents_afterRefusal {cmd again : RegisterProgram} {w w' : World}
    {noted : List Event} (hresends : w.resends cmd = some (noted, again))
    (h : ((w.afterRefusal cmd).recordAll noted).Extends w') :
    registerWrites (newEvents w w') =
      registerWrites (newEvents ((w.afterRefusal cmd).recordAll noted) w') := by
  rw [newEvents_resent h]
  simp [registerWrites_noted hresends]

/-- A send writes the whole program in one session, or nothing at all. -/
theorem Sends.registerWrites_eq {cmd : RegisterProgram} {w w' : World}
    {r : SmdResponseCode} (h : Sends cmd w r w') :
    registerWrites (newEvents w w') = [] ∨
      ∃ cmd' ctx, WrittenIn cmd w cmd' ctx ∧
        registerWrites (newEvents w w') = sessionWrites ctx cmd' := by
  induction h with
  | @noThread cmd w hthread =>
      left
      rw [newEvents_afterNoThread]
      rfl
  | written hopens =>
      exact Or.inr ⟨_, _, WrittenIn.first hopens, registerWrites_newEvents_afterWrites _ _⟩
  | @refused cmd w hthread hopens hresends =>
      left
      rw [newEvents_afterRefusal, registerWrites_refusalEvents]
  | resent hthread hopens hresends hagain ih =>
      have hextends := extends_of_runs (runs_sendModbusCommand_iff.mpr hagain)
      rw [registerWrites_newEvents_afterRefusal hresends hextends]
      rcases ih with hnil | ⟨cmd', ctx, hwritten, heq⟩
      · exact Or.inl hnil
      · exact Or.inr ⟨cmd', ctx, WrittenIn.resent hthread hopens hresends hwritten, heq⟩

/-- When a session opens for the program, the send ends, having written there. -/
theorem WrittenIn.exists_sends {cmd cmd' : RegisterProgram} {w : World} {ctx : Context}
    (h : WrittenIn cmd w cmd' ctx) :
    ∃ r w', Sends cmd w r w' ∧
      registerWrites (newEvents w w') = sessionWrites ctx cmd' := by
  induction h with
  | first hopens =>
      exact ⟨_, _, Sends.written hopens, registerWrites_newEvents_afterWrites _ _⟩
  | resent hthread hopens hresends _ ih =>
      obtain ⟨r, w', hsends, heq⟩ := ih
      refine ⟨_, w', Sends.resent hthread hopens hresends hsends, ?_⟩
      rw [registerWrites_newEvents_afterRefusal hresends
        (extends_of_runs (runs_sendModbusCommand_iff.mpr hsends))]
      exact heq

end SmdControlServer
