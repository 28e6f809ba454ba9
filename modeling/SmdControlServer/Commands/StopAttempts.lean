import SmdControlServer.Commands.Answers
import SmdControlServer.Commands.Reports

/-!
# The attempts of a stop

A stop that is refused with `errno` 9 is sent again, by a worker of the worker, as often
as it is refused in that way.  `LastAttempt` is the first attempt that is not; a send of
the stop ends there or not at all, and it is that attempt that decides what the drive is
written.  What the send returns is decided by the first attempt alone.
-/

namespace SmdControlServer

open CString Interaction

/-! ## The last attempt -/

/-- The `k`-th attempt from now on is refused in the way that has the stop sent again. -/
def World.RefusesAttempt (w : World) (k : Nat) : Prop :=
  (w.drive.get k).RefusesStop (w.ipAt k)

/-- All attempts before the `k`-th are refused in that way, and the `k`-th is not. -/
structure World.LastAttempt (w : World) (k : Nat) : Prop where
  before : ∀ j < k, w.RefusesAttempt j
  last : ¬ w.RefusesAttempt k

/-- The program is written in this session, every register of it. -/
structure Session.Takes (s : Session) (ip : Text) (cmd : RegisterProgram) : Prop where
  threadCreated : s.threadCreated = true
  address : ip ≠ []
  connects : s.connects = true
  writes : ∀ i < cmd.numRegisters, s.writeSucceeds i = true

theorem Session.Takes.not_refusesStop {s : Session} {ip : Text} {cmd : RegisterProgram}
    (h : s.Takes ip cmd) : ¬ s.RefusesStop ip :=
  fun hrefuses => hrefuses.2.1 ⟨h.address, h.connects⟩

namespace World

variable {w : World} {cmd : RegisterProgram} {noted : List Event}

theorem LastAttempt.unique {k k' : Nat} (h : w.LastAttempt k) (h' : w.LastAttempt k') :
    k = k' := by
  rcases Nat.lt_trichotomy k k' with hlt | heq | hgt
  · exact absurd (h'.before k hlt) h.last
  · exact heq
  · exact absurd (h.before k' hgt) h'.last

/-- The log makes no difference to the attempts. -/
theorem lastAttempt_recordAll_iff {es : List Event} {k : Nat} :
    (w.recordAll es).LastAttempt k ↔ w.LastAttempt k :=
  ⟨fun h => ⟨h.before, h.last⟩, fun h => ⟨h.before, h.last⟩⟩

theorem stopEnds_iff_exists_lastAttempt : w.StopEnds ↔ ∃ k, w.LastAttempt k := by
  classical
  constructor
  · intro h
    exact ⟨Nat.find h, fun j hj => not_not.mp (Nat.find_min h hj), Nat.find_spec h⟩
  · rintro ⟨k, hk⟩
    exact ⟨k, hk.last⟩

/-- What is sent again sees the attempts from the second on. -/
theorem refusesAttempt_afterRefusal_iff (k : Nat) :
    ((w.afterRefusal cmd).recordAll noted).RefusesAttempt k ↔ w.RefusesAttempt (k + 1) :=
  refusesStop_after_refusal_iff k

theorem lastAttempt_succ_iff (hfirst : w.RefusesAttempt 0) (k : Nat) :
    w.LastAttempt (k + 1) ↔ ((w.afterRefusal cmd).recordAll noted).LastAttempt k := by
  constructor
  · rintro ⟨hbefore, hlast⟩
    refine ⟨fun j hj => ?_, fun h => hlast ((refusesAttempt_afterRefusal_iff k).mp h)⟩
    exact (refusesAttempt_afterRefusal_iff j).mpr (hbefore (j + 1) (by omega))
  · rintro ⟨hbefore, hlast⟩
    refine ⟨fun j hj => ?_, fun h => hlast ((refusesAttempt_afterRefusal_iff k).mpr h)⟩
    cases j with
    | zero => exact hfirst
    | succ j => exact (refusesAttempt_afterRefusal_iff j).mp (hbefore j (by omega))

end World

/-! ## What the attempts leave in the log -/

/-- A worker was started to send the program. -/
def Event.isAttempt (cmd : RegisterProgram) : Event → Bool
  | .threadStarted (.sendModbusCommand cmd') _ => cmd' == cmd
  | _ => false

/-- How many workers were started to send the program. -/
def attempts (cmd : RegisterProgram) (events : List Event) : Nat :=
  events.countP (Event.isAttempt cmd)

@[simp] theorem attempts_append (cmd : RegisterProgram) (es es' : List Event) :
    attempts cmd (es ++ es') = attempts cmd es + attempts cmd es' :=
  List.countP_append

@[simp] theorem attempts_openingEvents (cmd : RegisterProgram) (w : World) :
    attempts cmd (openingEvents (.sendModbusCommand cmd) w) = 1 := by
  unfold openingEvents
  split <;> simp [attempts, Event.isAttempt]

@[simp] theorem attempts_closingEvents (cmd : RegisterProgram) (id : Nat) :
    attempts cmd (closingEvents id) = 0 := rfl

@[simp] theorem attempts_writeEvents (cmd : RegisterProgram) (ctx : Context) (i : Nat)
    (writes : List (Int × Int)) : attempts cmd (writeEvents ctx i writes) = 0 := by
  unfold attempts
  rw [List.countP_eq_zero]
  intro e he
  obtain ⟨_, _, _, rfl⟩ := eq_registerWritten_of_mem_writeEvents he
  exact Bool.false_ne_true

theorem silent_refusalEvents {cmd : RegisterProgram} {w : World}
    (hthread : w.drive.head.threadCreated = true) (hopens : ¬ w.opens) :
    Silent (refusalEvents cmd w) where
  writes := registerWrites_refusalEvents cmd w
  connections := by
    intro id hid
    unfold refusalEvents openingEvents at hid
    by_cases hip : w.ip = []
    · simp [hip, closingEvents] at hid
    · have hconnects : w.drive.head.connects = false := by
        rw [← Bool.not_eq_true]
        exact fun hconnects => hopens ⟨hthread, hip, hconnects⟩
      simp [hip, closingEvents, hconnects] at hid

/-! ## What a send of a stop comes to -/

/-- The two commands that are sent again. -/
inductive Stop where
  | holdMove
  | immediateStop
  deriving DecidableEq, Repr

namespace Stop

def program : Stop → RegisterProgram
  | holdMove => holdMoveProgram
  | immediateStop => immediateStopProgram

/-- What the log has before the stop is sent again. -/
def noted : Stop → List Event
  | holdMove => [.noted .smdHoldMove]
  | immediateStop => []

theorem resentProgram_eq (s : Stop) :
    resentProgram s.program = some (s.noted, s.program) := by
  cases s <;> rfl

theorem silent_noted (s : Stop) : Silent s.noted := by
  cases s with
  | holdMove => exact ⟨rfl, by simp [noted]⟩
  | immediateStop => exact ⟨rfl, by simp [noted]⟩

theorem attempts_noted (s : Stop) : attempts s.program s.noted = 0 := by
  cases s <;> rfl

variable {s : Stop} {w w' : World} {r : SmdResponseCode}

theorem refusesAttempt_zero_iff : w.RefusesAttempt 0 ↔
    w.drive.head.threadCreated = true ∧ ¬ w.opens ∧ w.drive.head.connectErrno = ebadf :=
  World.refusesStop_head_iff

theorem resends_of_refuses (h : w.RefusesAttempt 0) :
    w.resends s.program = some (s.noted, s.program) := by
  unfold World.resends
  rw [if_pos (refusesAttempt_zero_iff.mp h).2.2, s.resentProgram_eq]

/-- The attempt that is not the last one is a refusal, and the stop is sent again. -/
theorem sends_iff_of_refuses (h : w.RefusesAttempt 0) :
    Sends s.program w r w' ↔ r = .commandFailed ∧
      ∃ r', Sends s.program ((w.afterRefusal s.program).recordAll s.noted) r' w' := by
  obtain ⟨hthread, hopens, _⟩ := refusesAttempt_zero_iff.mp h
  rw [← runs_sendModbusCommand_iff, runs_sendModbusCommand_refused hthread hopens,
    resends_of_refuses h]
  simp only [runs_sendModbusCommand_iff]

/-- What a send does whose first attempt is the last one. -/
theorem sends_last (h : Sends s.program w r w') (hlast : ¬ w.RefusesAttempt 0) :
    attempts s.program (newEvents w w') = 1 ∧
      (WrittenCompletely s.program (newEvents w w') ↔
        w.drive.head.Takes w.ip s.program) := by
  cases h with
  | noThread hthread =>
      have hsilent : Silent [.threadStarted (.sendModbusCommand s.program) false] :=
        ⟨rfl, by simp⟩
      rw [newEvents_afterNoThread]
      refine ⟨by simp [attempts, Event.isAttempt], ?_⟩
      refine iff_of_false (not_writtenCompletely_of_silent hsilent) fun htakes => ?_
      rw [htakes.threadCreated] at hthread
      cases hthread
  | written hopens =>
      refine ⟨by rw [newEvents_afterWrites]; simp, ?_⟩
      rw [writtenCompletely_afterWrites_iff hopens]
      exact ⟨fun hwrites => ⟨hopens.1, hopens.2.1, hopens.2.2, hwrites⟩, fun h => h.writes⟩
  | refused hthread hopens hresends =>
      rw [newEvents_afterRefusal]
      refine ⟨by simp [refusalEvents], ?_⟩
      refine iff_of_false
        (not_writtenCompletely_of_silent (silent_refusalEvents hthread hopens)) fun htakes => ?_
      exact hopens ⟨hthread, htakes.address, htakes.connects⟩
  | resent hthread hopens hresends _ =>
      -- a stop is sent again after errno 9 only
      have herrno : w.drive.head.connectErrno = ebadf := by
        by_contra herrno
        unfold World.resends at hresends
        rw [if_neg herrno] at hresends
        cases hresends
      exact absurd (refusesAttempt_zero_iff.mpr ⟨hthread, hopens, herrno⟩) hlast

/-- A send of a stop ends at the last attempt.  It is made after as many others as are
refused, and what is written in it is what is written at all. -/
theorem exists_lastAttempt_of_sends (h : Sends s.program w r w') :
    ∃ k, w.LastAttempt k ∧ attempts s.program (newEvents w w') = k + 1 ∧
      (WrittenCompletely s.program (newEvents w w') ↔
        (w.drive.get k).Takes (w.ipAt k) s.program) := by
  have hends := stopEnds_of_sends s.resentProgram_eq h
  obtain ⟨k, hk⟩ := World.stopEnds_iff_exists_lastAttempt.mp hends
  refine ⟨k, hk, ?_⟩
  clear hends
  -- on the number of refusals before the last attempt
  induction k generalizing w r with
  | zero =>
      rw [World.ipAt_zero]
      exact sends_last h hk.last
  | succ k ih =>
      have hfirst := hk.before 0 (Nat.succ_pos k)
      obtain ⟨_, r', hagain⟩ := (sends_iff_of_refuses hfirst).mp h
      obtain ⟨hattempts, hwritten⟩ := ih hagain ((World.lastAttempt_succ_iff hfirst k).mp hk)
      obtain ⟨hthread, hopens, _⟩ := refusesAttempt_zero_iff.mp hfirst
      have hsilent : Silent (refusalEvents s.program w ++ s.noted) :=
        (silent_refusalEvents hthread hopens).append s.silent_noted
      have hextends := extends_of_runs (runs_sendModbusCommand_iff.mpr hagain)
      rw [newEvents_resent hextends]
      constructor
      · rw [attempts_append, attempts_append, hattempts, s.attempts_noted]
        simp [refusalEvents]
        omega
      · have hafter : WrittenCompletely s.program (refusalEvents s.program w ++ s.noted ++
            newEvents ((w.afterRefusal s.program).recordAll s.noted) w' ++ []) ↔ _ :=
          writtenCompletely_silent_iff hsilent silent_nil _
        rw [List.append_nil] at hafter
        rw [hafter, hwritten, World.ipAt_after_refusal]
        rfl

theorem exists_sends_iff :
    (∃ r w', Sends s.program w r w') ↔ ∃ k, w.LastAttempt k := by
  rw [← World.stopEnds_iff_exists_lastAttempt]
  constructor
  · rintro ⟨r, w', h⟩
    exact stopEnds_of_sends s.resentProgram_eq h
  · exact exists_sends_of_stopEnds s.resentProgram_eq

/-- A send returns what its first attempt comes to. -/
theorem success_iff_opens (h : Sends s.program w r w') : r = .commandSuccess ↔ w.opens := by
  cases h with
  | noThread hthread =>
      refine iff_of_false (by decide) fun hopens => ?_
      rw [hopens.1] at hthread
      cases hthread
  | written hopens => exact iff_of_true rfl hopens
  | refused _ hopens _ => exact iff_of_false (by decide) hopens
  | resent _ hopens _ _ => exact iff_of_false (by decide) hopens

end Stop

/-! ## Delivered, and reported as a failure -/

/-- A stop that was written completely is reported as a success. -/
def ReportsStop (s : Stop) (w : World) : Prop :=
  ∀ r w', Runs server (sendModbusCommand s.program) w r w' →
    WrittenCompletely s.program (newEvents w w') → r = .commandSuccess

/-- The first attempt is refused with `errno` 9, and a later one, before which all are
refused in that way, is written completely. -/
def World.DeliversLate (w : World) (s : Stop) : Prop :=
  ∃ k, 0 < k ∧ (∀ j < k, w.RefusesAttempt j) ∧
    (w.drive.get k).Takes (w.ipAt k) s.program

theorem reportsStop_iff {s : Stop} {w : World} : ReportsStop s w ↔ ¬ w.DeliversLate s := by
  constructor
  · rintro h ⟨k, hk, hrefuses, htakes⟩
    have hlast : w.LastAttempt k := ⟨hrefuses, htakes.not_refusesStop⟩
    obtain ⟨r, w', hsends⟩ := Stop.exists_sends_iff.mpr ⟨k, hlast⟩
    obtain ⟨k', hk', _, hwritten⟩ := Stop.exists_lastAttempt_of_sends hsends
    rw [hk'.unique hlast] at hwritten
    have hsuccess := h r w' (runs_sendModbusCommand_iff.mpr hsends) (hwritten.mpr htakes)
    exact (Stop.refusesAttempt_zero_iff.mp (hrefuses 0 hk)).2.1
      ((Stop.success_iff_opens hsends).mp hsuccess)
  · intro h r w' hrun hwritten
    have hsends := runs_sendModbusCommand_iff.mp hrun
    obtain ⟨k, hk, _, htakes⟩ := Stop.exists_lastAttempt_of_sends hsends
    rw [htakes] at hwritten
    cases k with
    | zero =>
        rw [World.ipAt_zero] at hwritten
        exact (Stop.success_iff_opens hsends).mpr
          ⟨hwritten.threadCreated, hwritten.address, hwritten.connects⟩
    | succ k => exact absurd ⟨k + 1, Nat.succ_pos k, hk.before, hwritten⟩ h

/-! ## The stop of the manual mode -/

/-- The world after `SMD_close_command_connection`. -/
def World.afterClose (w : World) : World :=
  match w.globals.smdCommandConnection with
  | none => w
  | some ctx =>
      if ctx.session.allocated ∧ w.globals.smdConnected = 1 then
        { w with
          globals := { w.globals with
            smdCommandConnection := none
            smdConnected := 0
            statusManualModeEnable := 0
            statusWaitingForAssembledMove := 0
            deviceIp := none } }.recordAll (closingEvents ctx.id)
      else
        w

theorem runs_smdCloseCommandConnection_iff {w w' : World} {a : Unit} :
    Runs server smdCloseCommandConnection w a w' ↔ w' = w.afterClose := by
  unfold smdCloseCommandConnection World.afterClose
  cases hconnection : w.globals.smdCommandConnection with
  | none => simp [hconnection]
  | some ctx =>
      by_cases hopen : ctx.session.allocated ∧ w.globals.smdConnected = 1
      · simp only [Program.bind_eq_bind, Program.perform_bind, Program.done_bind, runs_globals,
          hconnection, hopen, and_self, if_true, runs_modbusClose, runs_modbusFree, runs_assign,
          runs_done_iff, true_and, World.recordAll_recordAll]
        rfl
      · simp [hconnection, hopen]

/-- Closing the connection is silent. -/
theorem World.exists_log_afterClose (w : World) :
    ∃ es, Silent es ∧ w.afterClose.log = w.log ++ es := by
  unfold World.afterClose
  split
  · exact ⟨[], silent_nil, (List.append_nil _).symm⟩
  · rename_i ctx _
    split
    · exact ⟨closingEvents ctx.id, ⟨rfl, by simp [closingEvents]⟩, rfl⟩
    · exact ⟨[], silent_nil, (List.append_nil _).symm⟩

/-- After a failed stop of the manual mode the connection is closed and the mode noted,
neither of which is a write. -/
theorem writtenCompletely_afterClose_iff {cmd : RegisterProgram} {w w₁ : World}
    (hextends : w.Extends w₁) :
    WrittenCompletely cmd
        (newEvents w (w₁.afterClose.recordAll [.noted .manualModeStopped])) ↔
      WrittenCompletely cmd (newEvents w w₁) := by
  obtain ⟨es, hes, hlog⟩ := w₁.exists_log_afterClose
  have hnoted : Silent [.noted .manualModeStopped] := ⟨rfl, by simp⟩
  refine writtenCompletely_after_iff hextends (hes.append hnoted) ?_
  rw [World.recordAll_log, hlog, List.append_assoc]

/-- The stop that ends the manual mode, by what the send of it returns. -/
theorem runs_handleStopManualMode_iff {w w' : World} {r : SmdResponseCode} :
    Runs server handleStopManualMode w r w' ↔
      ∃ r₁ w₁, Sends immediateStopProgram (w.assign (.statusManualModeEnable 0)) r₁ w₁ ∧
        if r₁ = .commandFailed then
          r = .commandFailed ∧ w' = w₁.afterClose.recordAll [.noted .manualModeStopped]
        else
          r = .commandSuccess ∧ w' = w₁.recordAll [.noted .manualModeStopped] := by
  unfold handleStopManualMode smdImmedStop
  simp only [Program.bind_eq_bind, Program.perform_bind, Program.done_bind, runs_assign,
    runs_bind_iff, runs_sendModbusCommand_iff]
  refine exists_congr fun r₁ => exists_congr fun w₁ => and_congr_right fun _ => ?_
  by_cases hr : r₁ = .commandFailed
  · rw [if_pos hr, if_pos hr]
    simp only [runs_bind_iff, runs_smdCloseCommandConnection_iff, exists_eq_left, runs_note,
      Program.pure_eq_done, runs_done_iff, exists_const]
  · rw [if_neg hr, if_neg hr]
    simp only [runs_note, Program.pure_eq_done, runs_done_iff]

/-- After a stop of the manual mode that was written completely, the client is told so
and the connection is still there. -/
def ReportsManualStop (p : Server SmdResponseCode) (w : World) : Prop :=
  ∀ r w', Runs server p w r w' → WrittenCompletely immediateStopProgram (newEvents w w') →
    r = .commandSuccess ∧ w'.globals.smdConnected = 1

theorem reportsManualStop_iff {w : World} (hconnected : w.globals.smdConnected = 1) :
    ReportsManualStop handleStopManualMode w ↔ ¬ w.DeliversLate .immediateStop := by
  have hsame : (w.assign (.statusManualModeEnable 0)).DeliversLate .immediateStop ↔
      w.DeliversLate .immediateStop := Iff.rfl
  rw [← hsame, ← reportsStop_iff]
  constructor
  · intro h r₁ w₁ hrun hwritten
    by_contra hr
    have hfailed : r₁ = .commandFailed := (runs_sendModbusCommand_result hrun).resolve_left hr
    have hhandled : Runs server handleStopManualMode w .commandFailed
        (w₁.afterClose.recordAll [.noted .manualModeStopped]) := by
      refine runs_handleStopManualMode_iff.mpr
        ⟨r₁, w₁, runs_sendModbusCommand_iff.mp hrun, ?_⟩
      rw [if_pos hfailed]
      exact ⟨rfl, rfl⟩
    have hafter := (writtenCompletely_afterClose_iff (extends_of_runs hrun)).mpr hwritten
    exact absurd (h _ _ hhandled hafter).1 (by decide)
  · intro h r w' hrun hwritten
    obtain ⟨r₁, w₁, hsends, hrest⟩ := runs_handleStopManualMode_iff.mp hrun
    have hrun₁ := runs_sendModbusCommand_iff.mpr hsends
    by_cases hr : r₁ = .commandFailed
    · rw [if_pos hr] at hrest
      obtain ⟨_, rfl⟩ := hrest
      have hbefore := (writtenCompletely_afterClose_iff (extends_of_runs hrun₁)).mp hwritten
      rw [hr] at hrun₁
      exact absurd (h _ _ hrun₁ hbefore) (by decide)
    · rw [if_neg hr] at hrest
      obtain ⟨rfl, rfl⟩ := hrest
      refine ⟨rfl, ?_⟩
      -- a send that succeeds leaves the globals as they are
      cases hsends with
      | written _ => exact hconnected
      | noThread _ => exact absurd rfl hr
      | refused _ _ _ => exact absurd rfl hr
      | resent _ _ _ _ => exact absurd rfl hr

/-- A delivered stop is reported as one, by the send and by the handler of
`stopManualMode`, unless it was refused with `errno` 9 and delivered by a later
attempt. -/
theorem delivered_stop_reported_iff (w : World) :
    (∀ s : Stop, ReportsStop s w ↔ ¬ w.DeliversLate s) ∧
      ∀ input cl, w.InScenario2 → startsWith input "stopManualMode".toList = true →
        (ReportsManualStop (parseSocketInput input cl) w ↔
          ¬ w.DeliversLate .immediateStop) := by
  refine ⟨fun s => reportsStop_iff, ?_⟩
  intro input cl hscenario hstop
  rw [← reportsManualStop_iff hscenario.1]
  unfold ReportsManualStop
  simp only [runs_parseSocketInput_stop hscenario hstop]

/-- A session that is refused with `errno` 9. -/
def Session.overflowing : Session :=
  { Session.answering (fun _ => 0) with opens := false, connectErrno := ebadf }

/-- A drive that refuses the first `n` sessions and then does what it is asked. -/
def driveAfter (n : Nat) : Stream' Session :=
  fun i => if i < n then Session.overflowing else Session.answering fun _ => 0

/-- A server in the manual mode before such a drive. -/
def World.overflowing (n : Nat) : World :=
  World.facing { Globals.connectedTo "10.0.0.5".toList with statusManualModeEnable := 1 }
    (driveAfter n)

theorem World.overflowing_refusesAttempt_iff (n k : Nat) :
    (World.overflowing n).RefusesAttempt k ↔ k < n := by
  have hget : (World.overflowing n).drive.get k =
      if k < n then Session.overflowing else Session.answering fun _ => 0 := rfl
  unfold World.RefusesAttempt
  rw [hget]
  by_cases hk : k < n
  · rw [if_pos hk]
    refine iff_of_true ⟨rfl, ?_, rfl⟩ hk
    rintro ⟨_, hconnects⟩
    cases hconnects
  · rw [if_neg hk]
    have hip : (World.overflowing n).ipAt k = "10.0.0.5".toList := rfl
    rw [hip]
    refine iff_of_false ?_ hk
    rintro ⟨_, hrefused, _⟩
    exact hrefused ⟨by decide, rfl⟩

/-- The second attempt delivers the stop, and the client is told that it failed. -/
theorem late_stop_reported_failed :
    (World.overflowing 1).DeliversLate .immediateStop ∧
      ¬ ReportsStop .immediateStop (World.overflowing 1) ∧
      ¬ ReportsManualStop (parseSocketInput "stopManualMode\n".toList 5)
        (World.overflowing 1) := by
  have hlate : (World.overflowing 1).DeliversLate .immediateStop :=
    ⟨1, Nat.one_pos, fun j hj => (World.overflowing_refusesAttempt_iff 1 j).mpr hj,
      rfl, by decide, rfl, fun _ _ => rfl⟩
  refine ⟨hlate, fun h => reportsStop_iff.mp h hlate, fun h => ?_⟩
  have hscenario : (World.overflowing 1).InScenario2 := ⟨rfl, rfl, rfl⟩
  have hhandled : ReportsManualStop handleStopManualMode (World.overflowing 1) := by
    intro r w' hrun
    exact h r w' ((runs_parseSocketInput_stop hscenario (by decide)).mpr hrun)
  exact (reportsManualStop_iff rfl).mp hhandled hlate

/-! ## How many attempts -/

/-- `SMD_hold_move` and `SMD_immed_stop`. -/
def Stop.code : Stop → Server SmdResponseCode
  | .holdMove => smdHoldMove
  | .immediateStop => smdImmedStop

/-- The code of a stop sends its program, after a note that the log may have of it. -/
theorem Stop.runs_code_iff {s : Stop} {w w' : World} {r : SmdResponseCode} :
    Runs server s.code w r w' ↔ Sends s.program (w.recordAll s.noted) r w' := by
  cases s with
  | holdMove => exact runs_smdHoldMove_iff.trans runs_sendModbusCommand_iff
  | immediateStop =>
      rw [show w.recordAll Stop.immediateStop.noted = w from World.recordAll_nil w]
      exact runs_sendModbusCommand_iff

theorem Stop.exists_runs_code_iff (s : Stop) (w : World) :
    (∃ r w', Runs server s.code w r w') ↔ ∃ k, w.LastAttempt k := by
  simp only [Stop.runs_code_iff, Stop.exists_sends_iff, World.lastAttempt_recordAll_iff]

theorem Stop.attempts_of_runs_code {s : Stop} {w w' : World} {r : SmdResponseCode} {k : Nat}
    (hk : w.LastAttempt k) (h : Runs server s.code w r w') :
    attempts s.program (newEvents w w') = k + 1 := by
  have hsends := Stop.runs_code_iff.mp h
  obtain ⟨k', hk', hattempts, _⟩ := Stop.exists_lastAttempt_of_sends hsends
  have hsame : k' = k := (World.lastAttempt_recordAll_iff.mp hk').unique hk
  obtain ⟨es, hes⟩ := (extends_of_runs (runs_sendModbusCommand_iff.mpr hsends)).log
  have hlog : w'.log = w.log ++ (s.noted ++ es) := by
    rw [← hes]
    simp
  rw [newEvents_of_log es hes.symm] at hattempts
  rw [newEvents_of_log _ hlog, attempts_append, s.attempts_noted, hattempts, hsame, Nat.zero_add]

/-! ## The messages that ask for a stop -/

/-- Code that is to stop the drive ends with a send of the stop that ends. -/
def StopsAs (w : World) (e : Errand) (p : Server SmdResponseCode) : Prop :=
  e = .stops → (∃ r w', Runs server p w r w') → w.StopEnds

section StopsAs

variable {w : World} {e e' : Errand} {p q : Server SmdResponseCode} {input : Text} {cl : Int}

theorem stopsAs_of_ne (h : e ≠ .stops) : StopsAs w e p :=
  fun he => absurd he h

theorem stopsAs_ite {c : Prop} [Decidable c] (hp : StopsAs w e p) (hq : StopsAs w e' q) :
    StopsAs w (if c then e else e') (if c then p else q) := by
  split
  · exact hp
  · exact hq

theorem stopsAs_code (s : Stop) : StopsAs w e s.code :=
  fun _ h => World.stopEnds_iff_exists_lastAttempt.mpr ((s.exists_runs_code_iff w).mp h)

theorem stopsAs_handleStopManualMode : StopsAs w e handleStopManualMode := by
  rintro _ ⟨r, w', hrun⟩
  obtain ⟨r₁, w₁, hsends, _⟩ := runs_handleStopManualMode_iff.mp hrun
  have hends : (w.assign (.statusManualModeEnable 0)).StopEnds :=
    stopEnds_of_sends Stop.immediateStop.resentProgram_eq hsends
  exact hends

theorem stopsAs_parseScenario1 :
    StopsAs w (errandInScenario1 input) (parseScenario1 input cl) := by
  -- the tests before the two stops, and those after them, lead to other errands
  iterate 7 apply stopsAs_ite (stopsAs_of_ne (by decide))
  apply stopsAs_ite (stopsAs_code .holdMove)
  apply stopsAs_ite (stopsAs_code .immediateStop)
  iterate 7 apply stopsAs_ite (stopsAs_of_ne (by decide))
  exact stopsAs_of_ne (by decide)

theorem stopsAs_parseScenario2 :
    StopsAs w (errandInScenario2 input) (parseScenario2 input cl) := by
  apply stopsAs_ite stopsAs_handleStopManualMode
  apply stopsAs_ite (stopsAs_of_ne (by decide))
  apply stopsAs_ite (stopsAs_of_ne (by decide))
  exact stopsAs_of_ne (by decide)

theorem stopsAs_parseSocketInput :
    StopsAs w (w.globals.errand input) (parseSocketInput input cl) := by
  have hscenarios : StopsAs w (w.globals.errand input)
      (dispatchIn w.globals input cl) := by
    unfold dispatchIn
    apply stopsAs_ite
    · apply stopsAs_ite (stopsAs_of_ne (by decide))
      exact stopsAs_of_ne (by decide)
    · apply stopsAs_ite stopsAs_parseScenario1
      apply stopsAs_ite stopsAs_parseScenario2
      apply stopsAs_ite (stopsAs_of_ne (by decide))
      exact stopsAs_of_ne (by decide)
  rintro he ⟨r, w', hrun⟩
  exact hscenarios he ⟨r, w', runs_globals.mp hrun⟩

end StopsAs

/-- A message that asks for a stop is answered when the stop has a last attempt, and is
not handled to the end otherwise. -/
theorem stop_message_iff {w : World} {input : Text} (herrand : w.globals.errand input = .stops)
    (cl : Int) :
    ((∃ w', Runs server (parseSmdResponseToClientInput input cl) w () w') ↔
        ∃ k, w.LastAttempt k) ∧
      ((∃ k, w.LastAttempt k) → w.AnswersOnce input cl) := by
  have hanswers : (∃ k, w.LastAttempt k) → w.AnswersOnce input cl := by
    intro h
    have hends : w.StopEnds := World.stopEnds_iff_exists_lastAttempt.mpr h
    have hstops : AnswersAs (w.recordAll [.noted (.message input)]) input cl
        (w.globals.errand input) (parseSocketInput input cl) := answersAs_parseSocketInput
    rw [herrand] at hstops
    rw [answersOnce_iff_answeredBy, herrand]
    exact (hstops (by decide)).mpr hends
  refine ⟨⟨?_, ?_⟩, hanswers⟩
  · rintro ⟨w', hrun⟩
    obtain ⟨r, w₁, hparse, _⟩ := runs_parseSmdResponseToClientInput_iff.mp hrun
    have hstops : StopsAs (w.recordAll [.noted (.message input)]) (w.globals.errand input)
        (parseSocketInput input cl) := stopsAs_parseSocketInput
    have hends : w.StopEnds := hstops herrand ⟨r, w₁, hparse⟩
    exact World.stopEnds_iff_exists_lastAttempt.mp hends
  · intro h
    obtain ⟨line, w', hshows, _⟩ := hanswers h
    exact ⟨w', hshows.runs⟩

/-- How often a stop is attempted: as often as it is refused with `errno` 9, and once
more.  The functions return, the message is answered and the loop goes on where that is a
number, and only there. -/
theorem stop_attempts (w : World) :
    (∀ s : Stop, ((∃ r w', Runs server s.code w r w') ↔ ∃ k, w.LastAttempt k) ∧
        ∀ k, w.LastAttempt k → ∀ r w', Runs server s.code w r w' →
          attempts s.program (newEvents w w') = k + 1) ∧
      (∀ input cl, w.globals.errand input = .stops →
        ((∃ w', Runs server (parseSmdResponseToClientInput input cl) w () w') ↔
            ∃ k, w.LastAttempt k) ∧
          ((∃ k, w.LastAttempt k) → w.AnswersOnce input cl)) ∧
      ∀ input cl, w.nextMessage = some input →
        (w.afterMessageRead cl).globals.errand input = .stops →
          ((∃ w', Runs server (serverIteration cl) w cl w') ↔
            ∃ k, (w.afterMessageRead cl).LastAttempt k) := by
  refine ⟨fun s => ⟨s.exists_runs_code_iff w, fun k hk r w' => Stop.attempts_of_runs_code hk⟩,
    fun input cl herrand => stop_message_iff herrand cl, ?_⟩
  intro input cl hmessage herrand
  rw [← (stop_message_iff herrand cl).1]
  simp only [runs_serverIteration_iff, hmessage, true_and]

/-- No number of attempts is enough for every drive, and against one that refuses for ever
neither function returns. -/
theorem stop_attempts_unbounded :
    (∀ n, ∃ w r w', Runs server smdImmedStop w r w' ∧
        attempts immediateStopProgram (newEvents w w') = n + 1) ∧
      ∃ w : World, (∀ k, w.RefusesAttempt k) ∧
        ∀ s : Stop, ¬ ∃ r w', Runs server s.code w r w' := by
  constructor
  · intro n
    have hlast : (World.overflowing n).LastAttempt n :=
      ⟨fun j hj => (World.overflowing_refusesAttempt_iff n j).mpr hj,
        fun h => absurd ((World.overflowing_refusesAttempt_iff n n).mp h) (Nat.lt_irrefl n)⟩
    obtain ⟨r, w', hrun⟩ := (Stop.immediateStop.exists_runs_code_iff _).mpr ⟨n, hlast⟩
    exact ⟨World.overflowing n, r, w', hrun,
      Stop.attempts_of_runs_code (s := .immediateStop) hlast hrun⟩
  · have hrefuses : ∀ k, (World.facing (Globals.connectedTo "10.0.0.5".toList)
        (Stream'.const Session.overflowing)).RefusesAttempt k :=
      fun k => ⟨rfl, fun h => Bool.false_ne_true h.2, rfl⟩
    refine ⟨_, hrefuses, fun s hruns => ?_⟩
    obtain ⟨k, hk⟩ := (s.exists_runs_code_iff _).mp hruns
    exact hk.last (hrefuses k)

end SmdControlServer
