import SmdControlServer.Interaction.Threads
import SmdControlServer.Manual.Controller
import SmdControlServer.Manual.MainThread

/-!
# Stopping the manual mode

The main thread and the controllers, in any interleaving.  The stop should be final:
once it is complete no controller moves the motor until the manual mode is started
again.  The controller looks at the flag only between its turns, so this holds when
the stop finds every controller quiet, and the next start finds none.
-/

namespace SmdControlServer

open CString Interaction

/-! ## The threads -/

/-- Each thread has its own `errno`; the manual mode starts a controller. -/
def serverSharing : Sharing serverSignature World Int where
  load errno w := w.setErrno errno
  save w := w.errno
  spawn
    | .pthreadCreate .manualModeController, created =>
        if created then some ⟨manualModeController, 0⟩ else none
    | _, _ => none

abbrev ServerThreads := Threads serverSignature World Int

/-- The server when it starts: the main thread alone, at its first `accept`. -/
def serverStart (w : World) : ServerThreads where
  threads := [⟨openServerSocket, 0⟩]
  state := w

/-- All the threads but the main thread are at such points of their code. -/
def ControllersAre (P : Server Unit → Prop) (c : ServerThreads) : Prop :=
  ∀ i t, 0 < i → c.threads[i]? = some t → P t.program

/-! ## Stopped and started -/

/-- Whether the manual mode has been stopped and not been started since. -/
def stoppedAfter (stopped : Bool) : Event → Bool
  | .noted .manualModeStopped => true
  | .noted .clientGone => true
  | .threadStarted .manualModeController true => false
  | _ => stopped

def ManualModeStopped (log : List Event) : Prop :=
  log.foldl stoppedAfter false = true

instance : DecidablePred ManualModeStopped := fun _ => inferInstanceAs (Decidable (_ = _))

theorem manualModeStopped_append (log es : List Event) :
    ManualModeStopped (log ++ es) ↔
      es.foldl stoppedAfter (log.foldl stoppedAfter false) = true := by
  unfold ManualModeStopped
  rw [List.foldl_append]

/-- What one request does to the globals and to the log. -/
structure ModeAfter (o : Request) (w : World) (x : Answer o) (w' : World) : Prop where
  globals : w'.globals = mainMonitor.next w.globals o x
  expected : mainMonitor.expects w.globals o x
  stopped : ManualModeStopped w'.log →
    ManualModeStopped w.log ∨ ∃ n, o = .note n ∧ n.StopsManualMode
  unspawned : ManualModeStopped w'.log → serverSharing.spawn o x = none

theorem modeAfter_of_log {o : Request} {w w' : World} {x : Answer o} (es : List Event)
    (hes : ∀ stopped, es.foldl stoppedAfter stopped = stopped) (hlog : w'.log = w.log ++ es)
    (hglobals : w'.globals = mainMonitor.next w.globals o x)
    (hexpected : mainMonitor.expects w.globals o x)
    (hspawn : serverSharing.spawn o x = none) : ModeAfter o w x w' where
  globals := hglobals
  expected := hexpected
  stopped := by
    rw [hlog, manualModeStopped_append, hes]
    exact Or.inl
  unspawned := fun _ => hspawn

theorem modeAfter_handle {o : Request} {w w' : World} {x : Answer o}
    (h : handle o w = some (x, w')) : ModeAfter o w x w' := by
  have hnil : w.log = w.log ++ [] := (List.append_nil _).symm
  -- the log says stopped from the note of a stop to the start of a controller
  cases o with
  | deviceIp =>
      rw [handle_deviceIp] at h
      cases h
      exact modeAfter_of_log [] (fun _ => rfl) hnil rfl trivial rfl
  | pthreadCreate routine =>
      cases routine with
      | sendModbusCommand cmd =>
          cases h
          exact modeAfter_of_log [_] (fun _ => rfl) rfl rfl trivial rfl
      | readModbusRegisters t =>
          cases h
          exact modeAfter_of_log [_] (fun _ => rfl) rfl rfl trivial rfl
      | manualModeController =>
          cases h
          cases hcreated : w.controllerThreads.head with
          | false =>
              refine modeAfter_of_log [.threadStarted .manualModeController false]
                (fun _ => rfl) ?_ rfl trivial rfl
              rw [← hcreated]
              rfl
          | true =>
              have hstarted : ¬ ManualModeStopped
                  (w.log ++ [.threadStarted .manualModeController true]) := by
                rw [manualModeStopped_append]
                exact Bool.false_ne_true
              exact ⟨rfl, trivial, fun h => absurd h hstarted, fun h => absurd h hstarted⟩
  | readClient cl =>
      cases h
      cases hread : w.clientReads.head <;>
        exact modeAfter_of_log [_] (fun _ => rfl) rfl rfl trivial rfl
  | writeClient cl message =>
      cases h
      cases hwrite : w.clientWrites.head with
      | none =>
          exact modeAfter_of_log [.clientWritten cl message] (fun _ => rfl) rfl rfl trivial rfl
      | some e => exact modeAfter_of_log [] (fun _ => rfl) hnil rfl trivial rfl
  | readManualFile =>
      cases h
      cases hread : w.manualReads.head <;>
        exact modeAfter_of_log [] (fun _ => rfl) hnil rfl trivial rfl
  | note n =>
      cases h
      refine ⟨rfl, trivial, fun hstopped => ?_, fun _ => rfl⟩
      by_cases hn : n.StopsManualMode
      · exact Or.inr ⟨n, rfl, hn⟩
      · left
        have hkept : stoppedAfter (w.log.foldl stoppedAfter false) (.noted n) =
            w.log.foldl stoppedAfter false := by
          cases n <;> first | rfl | exact absurd trivial hn
        have hlog : ManualModeStopped (w.log ++ [.noted n]) := hstopped
        rw [manualModeStopped_append, List.foldl_cons, List.foldl_nil, hkept] at hlog
        exact hlog
  | abort fault => cases h
  | globals => cases h; exact modeAfter_of_log [] (fun _ => rfl) hnil rfl rfl rfl
  | assign a => cases h; exact modeAfter_of_log [] (fun _ => rfl) hnil rfl trivial rfl
  | errnoIsErange => cases h; exact modeAfter_of_log [] (fun _ => rfl) hnil rfl trivial rfl
  | setErrno e => cases h; exact modeAfter_of_log [] (fun _ => rfl) hnil rfl trivial rfl
  | perror => cases h; exact modeAfter_of_log [] (fun _ => rfl) hnil rfl trivial rfl
  | modbusErrno ctx => cases h; exact modeAfter_of_log [] (fun _ => rfl) hnil rfl rfl rfl
  | sleep n => cases h; exact modeAfter_of_log [] (fun _ => rfl) hnil rfl trivial rfl
  | uninitialised => cases h; exact modeAfter_of_log [] (fun _ => rfl) hnil rfl trivial rfl
  | cJsonParse text => cases h; exact modeAfter_of_log [] (fun _ => rfl) hnil rfl trivial rfl
  | modbusConnect ctx => cases h; exact modeAfter_of_log [_] (fun _ => rfl) rfl rfl rfl rfl
  | _ => cases h; exact modeAfter_of_log [_] (fun _ => rfl) rfl rfl trivial rfl

/-! ## One step -/

/-- What holds throughout: the main thread is where its monitor knows the globals, the
others are controllers, and after a stop they are quiet while the flag is cleared, or
they have ended. -/
structure Tracked (c : ServerThreads) : Prop where
  main : ∃ t, c.threads[0]? = some t ∧
    t.program.Safe mainMonitor (fun _ _ => True) c.state.globals
  controllers : ControllersAre OfController c
  stopped : ManualModeStopped c.state.log →
    (c.state.globals.statusManualModeEnable ≠ 1 ∧ ControllersAre Quiet c) ∨
      ControllersAre (· = .done ()) c

/-- The main thread completes a stop when every controller is quiet, and starts the
manual mode again when every controller has ended. -/
def StopsQuietly (c : ServerThreads) (i : Nat) : Prop :=
  i = 0 →
    (∀ n, c.next 0 = some (.note n) → n.StopsManualMode → ControllersAre Quiet c) ∧
    (c.next 0 = some (.assign (.statusManualModeEnable 1)) →
      ControllersAre (· = .done ()) c)

section

variable {c c' : ServerThreads} {i : Nat}

theorem expects_controllerPolicy {jogs : Prop} {g : Globals} {o : Request} {x : Answer o}
    (hflag : jogs ∨ g.statusManualModeEnable ≠ 1) (h : mainMonitor.expects g o x) :
    (controllerPolicy jogs).expects o x := by
  cases o with
  | globals =>
      rw [show x = g from h]
      exact hflag
  | modbusErrno ctx => exact h
  | _ => trivial

/-- Of the threads after a step, the ones that ran or were started are such that `P`
holds, and so are the others. -/
theorem controllersAre_step {P : Server Unit → Prop} {threads : List (Thread serverSignature Int)}
    {t' : Thread serverSignature Int} {started : Option (Thread serverSignature Int)}
    {w w' : World} (hold : ControllersAre P ⟨threads, w⟩)
    (hran : 0 < i → P t'.program) (hstarted : ∀ t ∈ started, P t.program) :
    ControllersAre P ⟨threads.set i t' ++ started.toList, w'⟩ := by
  intro j t hj ht
  rcases Threads.getElem?_set_append ht with ⟨rfl, rfl⟩ | ⟨_, hother⟩ | ⟨_, hnew⟩
  · exact hran hj
  · exact hold j t hj hother
  · exact hstarted t (Option.mem_toList.mp hnew)

theorem controllersAre_set {P : Server Unit → Prop} {threads : List (Thread serverSignature Int)}
    {t' : Thread serverSignature Int} {w w' : World} (hold : ControllersAre P ⟨threads, w⟩)
    (hran : 0 < i → P t'.program) : ControllersAre P ⟨threads.set i t', w'⟩ := by
  have h := @controllersAre_step i P threads t' none w w' hold hran (fun _ hnone => by cases hnone)
  simpa using h

theorem creates_of_spawn {o : Request} {x : Answer o} {t : Thread serverSignature Int}
    (h : t ∈ serverSharing.spawn o x) : o = .pthreadCreate .manualModeController := by
  cases o with
  | pthreadCreate routine =>
      cases routine with
      | manualModeController => rfl
      | _ => cases h
  | _ => cases h

/-- A thread that is started is a controller. -/
theorem eq_of_spawn {o : Request} {x : Answer o} {t : Thread serverSignature Int}
    (h : t ∈ serverSharing.spawn o x) : t = ⟨manualModeController, 0⟩ := by
  cases o with
  | pthreadCreate routine =>
      cases routine with
      | manualModeController =>
          cases x with
          | true => exact (Option.some.inj h).symm
          | false => cases h
      | _ => cases h
  | _ => cases h

theorem ofController_of_spawn {o : Request} {x : Answer o} {t : Thread serverSignature Int}
    (h : t ∈ serverSharing.spawn o x) : OfController t.program := by
  rw [eq_of_spawn h]
  exact ⟨Or.inr (Or.inr ⟨_, rfl⟩), fun _ => trivial⟩

/-- The flag stays cleared unless it is set. -/
theorem cleared_next {g : Globals} {o : Request} {x : Answer o}
    (hg : g.statusManualModeEnable ≠ 1) (ho : o ≠ .assign (.statusManualModeEnable 1)) :
    (mainMonitor.next g o x).statusManualModeEnable ≠ 1 := by
  cases o with
  | assign a =>
      cases a with
      | statusManualModeEnable value =>
          intro hvalue
          exact ho (by rw [show value = 1 from hvalue])
      | _ => exact hg
  | _ => exact hg

/-- A step of the main thread. -/
theorem tracked_mainStep (hc : Tracked c) (hquiet : StopsQuietly c 0)
    (h : c.step server serverSharing 0 = some c') : Tracked c' := by
  obtain ⟨⟨t, ht, hsafe⟩, hcontrollers, hstopped⟩ := hc
  obtain ⟨hstops, hstarts⟩ := hquiet rfl
  rcases Threads.step_cases h with
    ⟨o, k, l, x, w', hthread, hhandle, rfl⟩ | ⟨q, k, l, hthread, rfl⟩
  · have hnext := Threads.next_of_perform hthread
    rw [hthread] at ht
    cases ht
    obtain ⟨hallowed, hrest⟩ := hsafe
    have hmode := modeAfter_handle hhandle
    have hlength : 0 < c.threads.length := (List.getElem?_eq_some_iff.mp hthread).1
    refine ⟨⟨⟨k x, serverSharing.save w'⟩, ?_, ?_⟩, ?_, fun hafter => ?_⟩
    · rw [List.getElem?_append_left (by rw [List.length_set]; exact hlength)]
      exact List.getElem?_set_self hlength
    · rw [show w'.globals = _ from hmode.globals]
      exact hrest x hmode.expected
    · exact controllersAre_step hcontrollers (fun hlt => absurd hlt (Nat.lt_irrefl 0))
        fun t ht => ofController_of_spawn ht
    -- while the log says stopped the step starts no controller
    · have hkeep : ∀ {P : Server Unit → Prop}, ControllersAre P c →
          ControllersAre P ⟨c.threads.set 0 ⟨k x, serverSharing.save w'⟩ ++
            (serverSharing.spawn o x).toList, w'⟩ := by
        intro P hP
        rw [hmode.unspawned hafter]
        exact controllersAre_step hP (fun hlt => absurd hlt (Nat.lt_irrefl 0))
          fun t ht => by cases ht
      have hglobals : w'.globals = mainMonitor.next c.state.globals o x := hmode.globals
      -- stopped before this step, or by it
      rcases hmode.stopped hafter with hbefore | ⟨n, rfl, hn⟩
      · rcases hstopped hbefore with ⟨hcleared, hquiet⟩ | hended
        -- a start sets the flag again, and then the earlier controllers have ended
        · by_cases hsets : o = .assign (.statusManualModeEnable 1)
          · rw [hsets] at hnext
            exact Or.inr (hkeep (hstarts hnext))
          · refine Or.inl ⟨?_, hkeep hquiet⟩
            show w'.globals.statusManualModeEnable ≠ 1
            rw [hglobals]
            exact cleared_next hcleared hsets
        · exact Or.inr (hkeep hended)
      · refine Or.inl ⟨?_, hkeep (hstops n hnext hn)⟩
        show w'.globals.statusManualModeEnable ≠ 1
        rw [hglobals]
        exact hallowed hn
  · rw [hthread] at ht
    cases ht
    have hlength : 0 < c.threads.length := (List.getElem?_eq_some_iff.mp hthread).1
    have hkeep : ∀ {P : Server Unit → Prop}, ControllersAre P c →
        ControllersAre P ⟨c.threads.set 0 ⟨(server.body q).bind k, l⟩, c.state⟩ := fun hP =>
      controllersAre_set hP fun hlt => absurd hlt (Nat.lt_irrefl 0)
    refine ⟨⟨⟨(server.body q).bind k, l⟩, List.getElem?_set_self hlength, ?_⟩,
      hkeep hcontrollers, fun hafter => ?_⟩
    · exact Program.Safe.unfold (fun hpre => safe_procedureBody q hpre) hsafe
    · rcases hstopped hafter with ⟨hcleared, hquiet⟩ | hended
      · exact Or.inl ⟨hcleared, hkeep hquiet⟩
      · exact Or.inr (hkeep hended)

/-- A controller leaves the globals alone and completes no stop. -/
theorem controller_request {o : Request} (ho : (controllerPolicy True).allows o) :
    (∀ g x, mainMonitor.next g o x = g) ∧ ∀ n, o = .note n → ¬ n.StopsManualMode := by
  rcases ho with rfl | ho
  · exact ⟨fun _ _ => rfl, fun _ h => by cases h⟩
  · refine ⟨fun g x => ?_, ?_⟩
    · cases o with
      | assign a => exact ho.elim
      | _ => rfl
    · rintro n rfl hn
      have hmotor : n.OfMotor := by
        rcases ho with ⟨_, hmotor⟩ | rfl
        · exact hmotor
        · trivial
      cases n <;> first | exact hn.elim | exact hmotor.elim

/-- A step of a controller. -/
theorem tracked_controllerStep (hc : Tracked c) (hi : 0 < i)
    (h : c.step server serverSharing i = some c') : Tracked c' := by
  obtain ⟨⟨t, ht, hsafe⟩, hcontrollers, hstopped⟩ := hc
  have hlength : 0 < c.threads.length := (List.getElem?_eq_some_iff.mp ht).1
  have hmain : ∀ t', (c.threads.set i t')[0]? = some t := fun t' => by
    rw [List.getElem?_set_ne (by omega)]
    exact ht
  rcases Threads.step_cases h with
    ⟨o, k, l, x, w', hthread, hhandle, rfl⟩ | ⟨q, k, l, hthread, rfl⟩
  · have hmode := modeAfter_handle hhandle
    obtain ⟨hallowed, hrest⟩ :
        OfController (Program.perform (S := serverSignature) o k) := hcontrollers i _ hi hthread
    obtain ⟨hkeeps, hnoStop⟩ := controller_request hallowed
    have hglobals : w'.globals = c.state.globals := hmode.globals.trans (hkeeps _ x)
    refine ⟨⟨t, ?_, ?_⟩, ?_, fun hafter => ?_⟩
    · rw [List.getElem?_append_left (by rw [List.length_set]; exact hlength)]
      exact hmain _
    · rw [hglobals]
      exact hsafe
    · exact controllersAre_step hcontrollers
        (fun _ => hrest x (expects_controllerPolicy (Or.inl trivial) hmode.expected))
        fun t ht => ofController_of_spawn ht
    · rw [hmode.unspawned hafter]
      -- a controller makes no note that stops the manual mode, so it was stopped before
      rcases hmode.stopped hafter with hbefore | ⟨n, hn, hstops⟩
      · rcases hstopped hbefore with ⟨hcleared, hquiet⟩ | hended
        · have hquietRest : Quiet (k x) :=
            (hquiet i _ hi hthread).2 x (expects_controllerPolicy (Or.inr hcleared) hmode.expected)
          refine Or.inl ⟨?_, ?_⟩
          · show w'.globals.statusManualModeEnable ≠ 1
            rw [hglobals]
            exact hcleared
          · exact controllersAre_step hquiet (fun _ => hquietRest) fun t ht => by cases ht
        · exact absurd (hended i _ hi hthread) (by simp)
      · exact absurd hstops (hnoStop n hn)
  · obtain ⟨hcalled, hrest⟩ :
        OfController (Program.call (S := serverSignature) q k) := hcontrollers i _ hi hthread
    refine ⟨⟨t, hmain _, hsafe⟩, ?_, fun hafter => ?_⟩
    · exact controllersAre_set hcontrollers fun _ =>
        Program.Obeys.bind (obeys_procedureBody q hcalled) hrest
    · rcases hstopped hafter with ⟨hcleared, hquiet⟩ | hended
      · obtain ⟨hcalledQuiet, hrestQuiet⟩ :
            Quiet (Program.call (S := serverSignature) q k) := hquiet i _ hi hthread
        exact Or.inl ⟨hcleared, controllersAre_set hquiet fun _ =>
          Program.Obeys.bind (obeys_procedureBody q hcalledQuiet) hrestQuiet⟩
      · exact absurd (hended i _ hi hthread) (by simp)

end

/-! ## Runs -/

theorem tracked_serverStart {w : World} (hinitial : w.globals = Globals.initial) :
    Tracked (serverStart w) where
  main := by
    refine ⟨_, rfl, safe_openServerSocket ?_⟩
    show w.globals.Consistent
    rw [hinitial]
    exact Globals.consistent_initial
  controllers := by
    intro i t hi ht
    cases i with
    | zero => exact absurd hi (Nat.lt_irrefl 0)
    | succ i => cases ht
  stopped := by
    intro _
    right
    intro i t hi ht
    cases i with
    | zero => exact absurd hi (Nat.lt_irrefl 0)
    | succ i => cases ht

theorem tracked_of_steps {c c' : ServerThreads} (hc : Tracked c)
    (h : Threads.Steps server serverSharing StopsQuietly c c') : Tracked c' := by
  refine Threads.Steps.invariant (fun c i c' hc hquiet hstep => ?_) hc h
  cases i with
  | zero => exact tracked_mainStep hc hquiet hstep
  | succ i => exact tracked_controllerStep hc (Nat.succ_pos i) hstep

/-- A quiet controller is not about to move the motor, and one that has ended is about
to do nothing. -/
theorem not_movesMotor_of_quiet {c : ServerThreads} {i : Nat} {o : Request} (hi : 0 < i)
    (hquiet : ControllersAre Quiet c) (ho : c.next i = some o) : ¬ o.MovesMotor := by
  unfold Threads.next at ho
  split at ho
  · rename_i o' k l hthread
    cases ho
    rcases (hquiet i _ hi hthread).1 with rfl | hallowed
    · exact not_false
    · cases o with
      | modbusWriteRegister ctx j register value =>
          have hstop : StopWrite (register, value) := hallowed.resolve_left not_false
          exact fun hmoves => hmoves hstop
      | note n =>
          have hhold : n = .smdHoldMove := hallowed.resolve_left fun h => h.1
          rw [hhold]
          exact not_false
      | _ => exact not_false
  · cases ho

/-- In every interleaving in which each stop finds the controllers quiet and each start
finds them ended, no controller enters `SMD_jog` or makes a register write of another
command than a stop, from the time a stop is complete until a controller is started. -/
theorem no_jog_while_stopped {w : World} (hinitial : w.globals = Globals.initial)
    {c : ServerThreads}
    (hsteps : Threads.Steps server serverSharing StopsQuietly (serverStart w) c)
    (hstopped : ManualModeStopped c.state.log) {i : Nat} (hi : 0 < i) {o : Request}
    (ho : c.next i = some o) : ¬ o.MovesMotor := by
  have hc := tracked_of_steps (tracked_serverStart hinitial) hsteps
  rcases hc.stopped hstopped with ⟨_, hquiet⟩ | hended
  · exact not_movesMotor_of_quiet hi hquiet ho
  · refine not_movesMotor_of_quiet hi (fun i t hi ht => ?_) ho
    rw [hended i t hi ht]
    trivial

/-! ## Two interleavings -/

/-- A client that starts the manual mode and stops it, with the manual file always at
the same reading. -/
def World.stopsManualMode : World :=
  { World.facing Globals.initial (Stream'.const (Session.answering fun _ => 0)) with
    clientReads := readsOf [connectLine, startManualModeLine, stopManualModeLine]
    manualReads := Stream'.const (.contents "0,100\n".toList) }

/-- The note that a thread is about to make, if it is at one. -/
def noteAt (c : ServerThreads) (i : Nat) : Option Note :=
  match c.next i with
  | some (.note n) => some n
  | _ => none

theorem next_of_noteAt {c : ServerThreads} {i : Nat} {n : Note} (h : noteAt c i = some n) :
    c.next i = some (.note n) := by
  unfold noteAt at h
  split at h
  · rename_i hnext
    cases h
    exact hnext
  · cases h

/-- A controller that is at the test of the flag, or has ended. -/
def restsAtTest : Server Unit → Bool
  | .done _ => true
  | .call (.manualModeLoop _) k =>
      match k () with
      | .done _ => true
      | _ => false
  | _ => false

theorem quiet_of_restsAtTest {p : Server Unit} (h : restsAtTest p = true) : Quiet p := by
  unfold restsAtTest at h
  split at h
  · trivial
  · rename_i locals k
    refine ⟨Or.inr (Or.inr ⟨locals, rfl⟩), fun _ => ?_⟩
    split at h
    · rename_i hdone
      show Quiet (k ())
      rw [hdone]
      trivial
    · cases h
  · cases h

/-- A test for `StopsQuietly`. -/
def stopTest (c : ServerThreads) (i : Nat) : Bool :=
  i ≠ 0 || match c.next 0 with
  | some (.note n) => !decide n.StopsManualMode || c.threads.tail.all fun t => restsAtTest t.program
  | some (.assign (.statusManualModeEnable value)) => value ≠ 1 || c.threads.length = 1
  | _ => true

theorem restsAtTest_of_tail {c : ServerThreads} {i : Nat} {t : Thread serverSignature Int}
    (h : (c.threads.tail.all fun t => restsAtTest t.program) = true) (hi : 0 < i)
    (ht : c.threads[i]? = some t) : restsAtTest t.program = true := by
  obtain ⟨j, rfl⟩ : ∃ j, i = j + 1 := ⟨i - 1, by omega⟩
  have htail : c.threads.tail[j]? = some t := by rw [List.getElem?_tail, ht]
  exact List.all_eq_true.mp h t (List.mem_of_getElem? htail)

theorem stopsQuietly_of_stopTest (c : ServerThreads) (i : Nat) (h : stopTest c i = true) :
    StopsQuietly c i := by
  rintro rfl
  unfold stopTest at h
  constructor
  · intro n hnext hstops
    rw [hnext] at h
    have hrest : (c.threads.tail.all fun t => restsAtTest t.program) = true := by
      simpa [hstops] using h
    intro j t hj ht
    exact quiet_of_restsAtTest (restsAtTest_of_tail hrest hj ht)
  · intro hnext
    rw [hnext] at h
    have hlength : c.threads.length = 1 := by simpa using h
    intro j t hj ht
    have hlt : j < c.threads.length := (List.getElem?_eq_some_iff.mp ht).1
    omega

/-- The stop is complete after the controller has jogged and is back at its test. -/
theorem stopped_between_turns :
    ∃ c, Threads.Steps server serverSharing StopsQuietly (serverStart World.stopsManualMode) c ∧
      .registerWritten 0 1024 128 true ∈ c.state.log ∧ ManualModeStopped c.state.log ∧
      ∀ o, c.next 1 = some o → ¬ o.MovesMotor := by
  have hschedule : ((Threads.scheduled server serverSharing stopTest
      (List.replicate 21 0 ++ List.replicate 24 1 ++ List.replicate 13 0 ++ [1])
      (serverStart World.stopsManualMode)).map fun c =>
        decide (.registerWritten 0 1024 128 true ∈ c.state.log ∧
          ManualModeStopped c.state.log)) = some true := by decide +kernel
  obtain ⟨c, hsteps, hc⟩ := Option.map_eq_some_iff.mp hschedule
  obtain ⟨hjogged, hstopped⟩ := of_decide_eq_true hc
  have hquietly := Threads.steps_of_scheduled stopsQuietly_of_stopTest hsteps
  exact ⟨c, hquietly, hjogged, hstopped, fun o ho =>
    no_jog_while_stopped rfl hquietly hstopped Nat.one_pos ho⟩

/-- The controller has read its file when the stop comes.  The stop is complete, and
then the controller jogs. -/
theorem jog_after_stop :
    ∃ c c', Threads.Steps server serverSharing (fun _ _ => True)
        (serverStart World.stopsManualMode) c ∧
      ManualModeStopped c.state.log ∧
      c.next 1 = some (.note (.smdJog 0 250 250 0 3000)) ∧
      .registerWritten 0 1024 128 true ∉ c.state.log ∧
      Threads.Steps server serverSharing (fun _ _ => True) c c' ∧
      ManualModeStopped c'.state.log ∧ .registerWritten 0 1024 128 true ∈ c'.state.log := by
  have hschedule : ((Threads.scheduled server serverSharing (fun _ _ => true)
      (List.replicate 21 0 ++ List.replicate 5 1 ++ List.replicate 13 0)
      (serverStart World.stopsManualMode)).bind fun c =>
        (Threads.scheduled server serverSharing (fun _ _ => true) (List.replicate 16 1) c).map
          fun c' => (noteAt c 1, decide (ManualModeStopped c.state.log ∧
            .registerWritten 0 1024 128 true ∉ c.state.log ∧ ManualModeStopped c'.state.log ∧
            .registerWritten 0 1024 128 true ∈ c'.state.log))) =
      some (some (.smdJog 0 250 250 0 3000), true) := by decide +kernel
  obtain ⟨c, hsteps, hrest⟩ := Option.bind_eq_some_iff.mp hschedule
  obtain ⟨c', hsteps', hc⟩ := Option.map_eq_some_iff.mp hrest
  obtain ⟨hnote, hlogs⟩ := Prod.mk.inj hc
  obtain ⟨hstopped, hbefore, hstopped', hafter⟩ := of_decide_eq_true hlogs
  have hany : ∀ (c : ServerThreads) (i : Nat), (fun _ _ => true) c i = true → True :=
    fun _ _ _ => trivial
  exact ⟨c, c', Threads.steps_of_scheduled hany hsteps, hstopped, next_of_noteAt hnote, hbefore,
    Threads.steps_of_scheduled hany hsteps', hstopped', hafter⟩

end SmdControlServer
