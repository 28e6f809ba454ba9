import SmdControlServer.Commands.Ranges
import SmdControlServer.Commands.Registers
import SmdControlServer.Manual.Traffic

/-!
# What the drive is asked to hold

A register takes a word of 16 bits, while `modbus_write_register` is handed an `int`.  In
any interleaving every write can be made as it stands, unless the client saves a
configuration whose control word or configuration word is no word: these two alone are
neither checked nor narrowed.
-/

namespace SmdControlServer

open CString Interaction

/-! ## The monitor -/

/-- The last message that the thread has been given, and whether its `errno` is known to
be `ERANGE`. -/
structure Reading where
  message : Text
  stuck : Bool

/-- Every write can be made, unless the message is one that may save such a
configuration. -/
def rangeMonitor : Monitor serverSignature Reading where
  allows q
    | .modbusWriteRegister _ _ register value =>
        SavesOutside .clear q.message ∨ Writable (register, value)
    | _ => True
  expects q
    | .errnoIsErange, x => q.stuck = true → x = true
    | .modbusErrno ctx, e => e = ctx.session.connectErrno
    | _, _ => True
  next q
    | .note (.message input), _ => { q with message := input }
    | .setErrno e, _ => { q with stuck := decide (e = erange) }
    | .perror, _ => { q with stuck := false }
    | .readClient _, _ => { q with stuck := false }
    | .readManualFile, _ => { q with stuck := false }
    | _, _ => q
  pre _ _ := True
  post
    | .smdHoldMove, q, _, q' => q'.message = q.message
    | .smdImmedStop, q, _, q' => q'.message = q.message
    | _, _, _, _ => True

/-- What a thread knows of its `errno`. -/
def Reading.Knows (q : Reading) (errno : Int) : Prop :=
  q.stuck = true → errno = erange

theorem knows_handle {q : Reading} {o : Request} {errno : Int} {w w' : World} {x : Answer o}
    (hq : q.Knows errno) (h : handle o (w.setErrno errno) = some (x, w')) :
    rangeMonitor.expects q o x ∧ (rangeMonitor.next q o x).Knows w'.errno := by
  cases o with
  | deviceIp =>
      rw [handle_deviceIp] at h
      cases h
      exact ⟨trivial, hq⟩
  | pthreadCreate routine => cases routine <;> (cases h; exact ⟨trivial, hq⟩)
  | errnoIsErange =>
      cases h
      exact ⟨fun hstuck => decide_eq_true (hq hstuck), hq⟩
  | setErrno e =>
      cases h
      exact ⟨trivial, of_decide_eq_true⟩
  | perror => exact ⟨trivial, fun hstuck => by cases hstuck⟩
  | readClient cl => exact ⟨trivial, fun hstuck => by cases hstuck⟩
  | readManualFile => exact ⟨trivial, fun hstuck => by cases hstuck⟩
  | writeClient cl message =>
      cases h
      refine ⟨trivial, ?_⟩
      cases hwrite : (w.setErrno errno).clientWrites.head <;> exact hq
  | note n =>
      cases h
      refine ⟨trivial, ?_⟩
      cases n <;> exact hq
  | abort fault => cases h
  | modbusErrno ctx =>
      cases h
      exact ⟨rfl, hq⟩
  | _ =>
      cases h
      exact ⟨trivial, hq⟩

/-! ## The code of the threads -/

section

variable {α β : Type} {q : Reading} {input : Text} {cl : Int}

/-- After a piece of the code the message is still the same. -/
abbrev SameMessage (input : Text) : α → Reading → Prop :=
  fun _ q' => q'.message = input

/-- Code that writes what can be written. -/
theorem ranged_of_within {p : Server α} (hq : q.message = input)
    (hp : Within (Rights.writing (SavesOutside .clear input)) p) :
    p.Safe rangeMonitor (SameMessage input) q := by
  refine Program.Obeys.safe ?_ ?_ hp hq
  · intro o ho q hq
    cases o with
    | modbusWriteRegister ctx i register value =>
        refine ⟨?_, fun _ _ => ⟨trivial, hq⟩⟩
        show SavesOutside .clear q.message ∨ Writable (register, value)
        rw [hq]
        exact ho
    | note n =>
        refine ⟨trivial, fun _ _ => ⟨trivial, ?_⟩⟩
        cases n with
        | message text => exact ho.elim
        | _ => exact hq
    | readClient cl => exact ho.elim
    | readManualFile => exact ho.elim
    | writeClient cl message => exact ⟨trivial, fun _ _ => ⟨fun _ _ => trivial, hq⟩⟩
    | modbusNewTcp => exact ⟨trivial, fun _ _ => ⟨trivial, hq⟩⟩
    | modbusErrno ctx => exact ⟨trivial, fun _ hx => ⟨hx, hq⟩⟩
    | _ => exact ⟨trivial, fun _ _ => ⟨trivial, hq⟩⟩
  · rintro p (rfl | rfl) q hq
    · exact ⟨trivial, fun _ _ hq' => hq'.trans hq⟩
    · exact ⟨trivial, fun _ _ hq' => hq'.trans hq⟩

theorem ranged_bind {p : Server α} {f : α → Server β} {post : β → Reading → Prop}
    (h : p.Safe rangeMonitor (fun a q' => (f a).Safe rangeMonitor post q') q) :
    (p >>= f).Safe rangeMonitor post q :=
  Program.Safe.bind h

theorem ranged_ite {c : Prop} [Decidable c] {p p' : Server α} {post : α → Reading → Prop}
    (hp : p.Safe rangeMonitor post q) (hp' : p'.Safe rangeMonitor post q) :
    (if c then p else p').Safe rangeMonitor post q := by
  split
  · exact hp
  · exact hp'

/-! ## The configuration -/

/-- A conversion comes to the value of the token, or to -1. -/
theorem ranged_convertStringToLongInt (str : Text) (hq : q.message = input) :
    (convertStringToLongInt str).Safe rangeMonitor
      (fun n q' => q'.message = input ∧ ReadAs (strtol str) n) q := by
  unfold convertStringToLongInt
  cases herange : (strtol str).erange with
  | true =>
      simp only [herange, if_true]
      refine ⟨trivial, fun _ _ => ⟨trivial, fun b hb => ?_⟩⟩
      -- errno is ERANGE now, and the test finds it
      obtain rfl : b = true := hb rfl
      show Program.Safe rangeMonitor (if !(strtol str).consumed || true then _ else _) _ _
      rw [Bool.or_true, if_pos rfl]
      exact ⟨trivial, fun _ _ => ⟨hq, Or.inl rfl⟩⟩
  | false =>
      simp only [herange, Bool.false_eq_true, if_false]
      refine ⟨trivial, fun b _ => Program.Safe.ite ?_ ?_⟩
      · exact fun _ => ⟨trivial, fun _ _ => ⟨hq, Or.inl rfl⟩⟩
      · intro hread
        have hconsumed : (strtol str).consumed = true := by
          cases hconsumed : (strtol str).consumed with
          | true => rfl
          | false => exact absurd (by rw [hconsumed]; rfl) hread
        have hclear : ¬ Latch.clear.Loses (strtol str) := by
          refine Latch.not_loses rfl ?_
          unfold Unread
          simp [hconsumed, herange]
        exact ⟨hq, Or.inr (if_neg hclear).symm⟩

theorem ranged_conversion {str : Text} {k : Int → Server β} (hq : q.message = input)
    (hk : ∀ n q', ReadAs (strtol str) n → q'.message = input →
      (k n).Safe rangeMonitor (SameMessage input) q') :
    (convertStringToLongInt str >>= k).Safe rangeMonitor (SameMessage input) q :=
  ranged_bind ((ranged_convertStringToLongInt str hq).mono fun n q' hq' =>
    hk n q' hq'.2 hq'.1)

theorem ranged_handleSaveConfig (hselected : Command.Selects input .saveConfig)
    (hq : q.message = input) :
    (handleSaveConfig input).Safe rangeMonitor (SameMessage input) q := by
  unfold handleSaveConfig withTokens
  by_cases hn : numberOfTokens input = ↑(8 : Nat)
  · obtain ⟨name, tokens, hlength, hsplit, htokens⟩ := exists_tokens (n := 7) hn
    rw [if_neg (fun hne => hne hn), htokens]
    match tokens, hlength, hsplit with
    | [t₁, t₂, t₃, t₄, t₅, t₆, t₇], _, hsplit =>
        refine ranged_conversion hq fun n₁ q h₁ hq => ranged_conversion hq fun n₂ q h₂ hq => ?_
        refine ranged_conversion hq fun n₃ q h₃ hq => ranged_conversion hq fun n₄ q h₄ hq => ?_
        refine ranged_conversion hq fun n₅ q h₅ hq => ranged_conversion hq fun n₆ q h₆ hq => ?_
        refine ranged_conversion hq fun n₇ q h₇ hq => ?_
        refine ranged_of_within hq (composed_checked fun hvalid => composed_sendAnd ?_ _ _).within
        by_cases hfits : FitsWord n₁ ∧ FitsWord n₂
        · exact Or.inr ((writable_setConfigurationProgram_iff hvalid).mpr hfits)
        · exact Or.inl (savesOutside_of_readAs hselected hn hsplit h₁ h₂ h₃ h₄ h₅ h₆ h₇ hvalid
            hfits)
  · rw [if_pos hn]
    exact hq

/-! ## Messages and turns -/

theorem ranged_parseScenario1 (hq : q.message = input) :
    (parseScenario1 input cl).Safe rangeMonitor (SameMessage input) q := by
  by_cases hselects : ∃ c, Command.Selects input c
  · obtain ⟨c, hc⟩ := hselects
    rw [Command.parseScenario1_of_selects hc]
    by_cases hsave : c = .saveConfig
    · subst hsave
      exact ranged_handleSaveConfig hc hq
    · exact ranged_of_within hq (within_code_writing hsave)
  · push Not at hselects
    rw [Command.parseScenario1_of_not_selects hselects]
    exact hq

theorem ranged_parseSocketInput (hq : q.message = input) :
    (parseSocketInput input cl).Safe rangeMonitor (SameMessage input) q := by
  unfold parseSocketInput dispatchIn
  refine ⟨trivial, fun g _ => ranged_ite (ranged_of_within hq ?_) (ranged_ite ?_ ?_)⟩
  · exact within_ite (within_handleConnect (fun _ _ => trivial) trivial) (within_pure _)
  · exact ranged_parseScenario1 hq
  · refine ranged_of_within hq (within_ite within_parseScenario2_writing ?_)
    exact within_ite within_parseScenario3_writing (within_pure _)

theorem ranged_parseSmdResponseToClientInput :
    (parseSmdResponseToClientInput input cl).Safe rangeMonitor (fun _ _ => True) q := by
  refine ⟨trivial, fun _ _ => ?_⟩
  change Program.Safe rangeMonitor (parseSocketInput input cl >>= fun r => answerClient r cl) _
    { q with message := input }
  refine ranged_bind ((ranged_parseSocketInput rfl).mono fun r q' hq' => ?_)
  exact (ranged_of_within hq' (composed_answerClient trivial r).within).mono fun _ _ _ => trivial

theorem ranged_serverIteration :
    (serverIteration cl).Safe rangeMonitor (fun _ _ => True) q := by
  have hnext : ∀ q : Reading, (serveNextClient cl).Safe rangeMonitor (fun _ _ => True) q :=
    fun q => (ranged_of_within rfl (within_serveNextClient (fun _ _ => trivial) trivial)).mono
      fun _ _ _ => trivial
  have hmessage : ∀ (text : Text) (q : Reading), (parseSmdResponseToClientInput text cl >>=
      fun _ => (pure cl : Server Int)).Safe rangeMonitor (fun _ _ => True) q := fun text q =>
    ranged_bind (ranged_parseSmdResponseToClientInput.mono fun _ _ _ => trivial)
  refine ⟨trivial, fun outcome _ => ?_⟩
  cases outcome with
  | received chunk =>
      exact ranged_ite (hmessage _ _) ⟨trivial, fun _ _ => hmessage _ _⟩
  | endOfFile => exact hnext _
  | failed e => exact hnext _

theorem ranged_openServerSocket : openServerSocket.Safe rangeMonitor (fun _ _ => True) q := by
  refine ⟨trivial, fun next _ => ranged_ite ⟨trivial, fun x => x.elim⟩ ?_⟩
  exact ⟨trivial, fun _ _ _ => trivial⟩

/-- A sample jogs with values that are checked, or it holds the motor. -/
theorem ranged_handleSample (locals : ControllerLocals) :
    (handleSample locals).Safe rangeMonitor (fun _ _ => True) q := by
  have hhold : Composed (Rights.writing (SavesOutside .clear q.message)) smdHoldMove :=
    composed_smdHoldMove (Or.inr (by decide)) trivial
  have hsample : Composed (Rights.writing (SavesOutside .clear q.message)) (handleSample locals) :=
    composed_handleSample trivial (fun _ _ => composed_smdJog_writing _ _ _ _ _) hhold locals
  exact (ranged_of_within rfl hsample.within).mono fun _ _ _ => trivial

theorem ranged_manualModeIteration (locals : ControllerLocals) :
    (manualModeIteration locals).Safe rangeMonitor (fun _ _ => True) q := by
  unfold manualModeIteration readSample
  refine ⟨trivial, fun outcome _ => ?_⟩
  cases outcome with
  | noAccess e => trivial
  | openFailed e => trivial
  | readFailed e => exact ranged_handleSample _
  | contents bytes =>
      cases bytes with
      | nil => trivial
      | cons byte rest => exact ranged_handleSample _

theorem ranged_procedureBody (p : Procedure) (q : Reading) (_ : rangeMonitor.pre p q) :
    (procedureBody p).Safe rangeMonitor (rangeMonitor.post p q) q := by
  cases p with
  | smdHoldMove =>
      exact ranged_of_within rfl (composed_smdHoldMove (Or.inr (by decide)) trivial).within
  | smdImmedStop => exact ranged_of_within rfl (within_sendModbusCommand (Or.inr (by decide)))
  | manualModeLoop locals =>
      refine ⟨trivial, fun g _ => ranged_ite (ranged_bind ?_) trivial⟩
      refine (ranged_manualModeIteration locals).mono fun _ _ _ => ?_
      exact ⟨trivial, fun _ _ => ⟨trivial, fun _ _ _ => trivial⟩⟩
  | serverLoop cl =>
      refine ranged_bind (ranged_serverIteration.mono fun _ _ _ => ?_)
      exact ⟨trivial, fun _ _ _ => trivial⟩

end

/-! ## Executions -/

def Request.message? : Request → Option Text
  | .note (.message input) => some input
  | _ => none

/-- The messages of a trace. -/
def messages (es : Trace) : List Text :=
  es.filterMap fun e => e.request.message?

/-- A thread that has read nothing yet. -/
def Reading.fresh : Reading :=
  ⟨[], false⟩

def readings (es : Trace) : Nat → Reading :=
  rangeMonitor.followAll (fun _ => Reading.fresh) es

theorem message_next (q : Reading) (o : Request) (x : Answer o) :
    (rangeMonitor.next q o x).message = (o.message?).getD q.message := by
  cases o with
  | note n => cases n <;> rfl
  | _ => rfl

/-- The message that a thread works on has been noted. -/
theorem message_readings (es : Trace) (i : Nat) :
    (readings es i).message = [] ∨ (readings es i).message ∈ messages es := by
  induction es using List.reverseRecOn with
  | nil => exact Or.inl rfl
  | append_singleton es e ih =>
      have hmessages : messages (es ++ [e]) = messages es ++ e.request.message?.toList := by
        unfold messages
        rw [List.filterMap_append]
        cases hmessage : e.request.message? <;> simp [hmessage]
      unfold readings at ih ⊢
      rw [Monitor.followAll_append_singleton, hmessages]
      by_cases hi : i = e.thread
      · subst hi
        rw [Function.update_self, message_next]
        cases hmessage : e.request.message? with
        | none => exact ih.imp_right (List.mem_append_left _)
        | some input => exact Or.inr (List.mem_append_right _ (by simp))
      · rw [Function.update_of_ne hi]
        exact ih.imp_right (List.mem_append_left _)

theorem not_savesOutside_nil (l : Latch) : ¬ SavesOutside l [] := by
  intro h
  have hbegins := ((Command.selects_of_mem_others (by decide)).mp h.selected).1
  exact absurd hbegins (by decide)

/-- In every interleaving a write is asked for only of a thread that may. -/
theorem ranged_of_executes {P : ServerThreads → Nat → Prop} {w : World} {es : Trace}
    {c : ServerThreads} (h : ServerExecutes P (serverStart w) es c) :
    Threads.Monitored rangeMonitor Reading.fresh (readings es) c := by
  have hfresh : ∀ errno, Reading.fresh.Knows errno := fun _ hstuck => by cases hstuck
  refine (Threads.Executes.tied (R := fun _ _ => True) ?_ ranged_procedureBody ?_ ?_ trivial
    (fun i t _ => hfresh t.locals) h).1
  · intro q w i o errno x w' _ hq _ hx
    obtain ⟨hexpected, hnext⟩ := knows_handle hq hx
    exact ⟨hexpected, trivial, hnext⟩
  · intro o x t ht
    refine ⟨?_, hfresh _⟩
    rw [eq_of_spawn ht]
    exact ⟨trivial, fun _ _ _ => trivial⟩
  -- at the start there is the main thread only
  · refine ⟨fun i t ht => ?_, fun _ _ => rfl⟩
    cases i with
    | zero =>
        cases ht
        exact ranged_openServerSocket
    | succ i => cases ht

/-- Unless a configuration of that kind is saved, every write can be made. -/
theorem writable_of_executes {P : ServerThreads → Nat → Prop} {w : World} {es : Trace}
    {c : ServerThreads} (h : ServerExecutes P (serverStart w) es c)
    (hmessages : ∀ input ∈ messages es, ¬ SavesOutside .clear input) :
    ∀ write ∈ (traffic es).written, Writable write := by
  induction h with
  | refl =>
      intro write hwrite
      cases hwrite
  | @step es c c' i h _ hstep ih =>
      have hbefore := ih fun input hinput => hmessages input (by
        unfold messages
        rw [List.filterMap_append]
        exact List.mem_append_left _ hinput)
      rcases Threads.step_cases hstep with ⟨o, k, l, x, w', hthread, hx, _⟩ | ⟨p, k, l, hthread, _⟩
      · rw [Threads.performed_of_perform hthread hx]
        intro write hwrite
        rw [Option.toList_some, traffic_append_singleton] at hwrite
        rcases List.mem_append.mp hwrite with hwrite | hwrite
        · exact hbefore write hwrite
        · have hallowed := (ranged_of_executes h).allows (Threads.next_of_perform hthread)
          cases o with
          | modbusWriteRegister ctx n register value =>
              obtain rfl : (register, value) = write :=
                Option.some.inj (Option.mem_toList.mp hwrite)
              -- another value is written for a message that saves it, and there is none
              refine Or.resolve_left hallowed fun hsaves => ?_
              rcases message_readings es i with hnone | hnoted
              · rw [hnone] at hsaves
                exact not_savesOutside_nil _ hsaves
              · refine hmessages _ ?_ hsaves
                unfold messages at hnoted ⊢
                rw [List.filterMap_append]
                exact List.mem_append_left _ hnoted
          | _ => cases hwrite
      · rw [Threads.performed_of_call hthread, Option.toList_none, List.append_nil]
        exact hbefore

/-! ## One message -/

/-- All that the code writes can be written. -/
def WritesFit {α : Type} (p : Server α) (w : World) : Prop :=
  ∀ a w', Runs server p w a w' →
    ∀ write ∈ registerWrites (newEvents w w'), Writable (write.register, write.value)

section

variable {α : Type} {w : World} {input : Text} {cl : Int}

theorem writesFit_of_within {p : Server α} (hp : Within (Rights.writing False) p) :
    WritesFit p w := by
  have hstops : (Rights.writing False).AllowsStops :=
    ⟨Or.inr (by decide), trivial, Or.inr (by decide)⟩
  let Added (w w' : World) : Prop := ∃ es, w'.log = w.log ++ es ∧
    ∀ write ∈ registerWrites es, Writable (write.register, write.value)
  have hadded : ∀ {a w'}, Runs server p w a w' → Added w w' := by
    intro a w' hrun
    refine Within.preorder hstops (fun _ => trivial) ?_ ?_ ?_ hp hrun
    · exact fun w => ⟨[], (List.append_nil _).symm, by simp⟩
    · rintro w₁ w₂ w₃ ⟨es, hes, hfit⟩ ⟨es', hes', hfit'⟩
      refine ⟨es ++ es', by rw [hes', hes, List.append_assoc], ?_⟩
      rw [registerWrites_append, List.forall_mem_append]
      exact ⟨hfit, hfit'⟩
    · intro o ho w x w' hx
      refine ⟨o.events x, log_handle hx, ?_⟩
      cases o with
      | modbusWriteRegister ctx i register value =>
          have hwritable : Writable (register, value) := Or.resolve_left ho not_false
          simpa [Request.events, registerWrites, Event.registerWrite?] using hwritable
      | writeClient cl message => cases x <;> (intro write hwrite; cases hwrite)
      | _ => intro write hwrite; cases hwrite
  intro a w' hrun
  obtain ⟨es, hes, hfit⟩ := hadded hrun
  rw [newEvents_of_log es hes]
  exact hfit

/-- Past the first scenario no configuration can be saved. -/
theorem writesFit_of_not_inScenario1 (h : ¬ w.InScenario1) :
    WritesFit (parseSocketInput input cl) w := by
  -- the scenarios other than the first, in the order of the code
  have hp : ∃ p, Within (Rights.writing False) p ∧ ∀ r w',
      Runs server (parseSocketInput input cl) w r w' ↔ Runs server p w r w' := by
    unfold parseSocketInput dispatchIn
    simp only [Program.bind_eq_bind, Program.perform_bind, Program.done_bind, runs_globals]
    by_cases hclosed : w.globals.smdConnected = 0
    · rw [if_pos hclosed]
      refine ⟨_, within_ite ?_ (within_pure _), fun _ _ => Iff.rfl⟩
      exact within_handleConnect (fun _ _ => trivial) trivial
    · rw [World.InScenario1] at h
      rw [if_neg hclosed, if_neg h]
      refine ⟨_, within_ite within_parseScenario2_writing ?_, fun _ _ => Iff.rfl⟩
      exact within_ite within_parseScenario3_writing (within_pure _)
  obtain ⟨p, hwithin, hruns⟩ := hp
  exact fun r w' hrun => writesFit_of_within hwithin r w' ((hruns r w').mp hrun)

/-- In a session that opens the values are those of the program. -/
theorem writable_sessionWrites_iff (ctx : Context) (cmd : RegisterProgram) :
    (∀ write ∈ sessionWrites ctx cmd, Writable (write.register, write.value)) ↔
      cmd.Writable := by
  have hmap : (sessionWrites ctx cmd).map (fun write => (write.register, write.value)) =
      cmd.writes := by
    refine List.ext_getElem? fun i => ?_
    unfold sessionWrites
    rw [List.getElem?_map, List.getElem?_mapIdx, Option.map_map]
    exact Option.map_id'
  unfold RegisterProgram.Writable
  rw [← hmap, List.forall_mem_map]

theorem registerWrites_newEvents_afterSend (w : World) (cmd : RegisterProgram) :
    registerWrites (newEvents w (w.afterSend cmd)) =
      if w.opens then sessionWrites ⟨w.contextIds.head, w.drive.head⟩ cmd else [] := by
  unfold World.afterSend
  by_cases hopens : w.opens
  · rw [if_pos hopens, if_pos hopens, registerWrites_newEvents_afterWrites]
  · rw [if_neg hopens, if_neg hopens]
    split
    · rw [newEvents_afterRefusal, registerWrites_refusalEvents]
    · rw [newEvents_afterNoThread]
      rfl

/-- What code writes that has decided to send a program once. -/
theorem Decides.writesFit_iff {p : Server SmdResponseCode} {cmd : RegisterProgram}
    {success failure : SmdResponseCode} (h : Decides p w (.sends cmd success failure))
    (honce : resentProgram cmd = none) : WritesFit p w ↔ (w.opens → cmd.Writable) := by
  obtain ⟨⟨r, w', hrun⟩, _⟩ := h.sentProgram honce
  obtain ⟨w₁, hprepares, hruns⟩ := h
  have hends : ∀ {r w'}, Runs server p w r w' → w' = w₁.afterSend cmd := by
    intro r w' hrun
    rcases runs_sendAnd_iff.mp ((hruns r w').mp hrun) with ⟨hsend, _⟩ | ⟨hsend, _⟩
    · exact ((runs_sendOnce_iff honce).mp hsend).2
    · exact ((runs_sendOnce_iff honce).mp hsend).2
  have hopens := hprepares.opens_iff
  have hwrites : ∀ {r w'}, Runs server p w r w' → registerWrites (newEvents w w') =
      if w.opens then sessionWrites ⟨w₁.contextIds.head, w₁.drive.head⟩ cmd else [] := by
    intro r w' hrun
    rw [hprepares.registerWrites_eq (extends_of_runs ((hruns r w').mp hrun)), hends hrun,
      registerWrites_newEvents_afterSend]
    exact if_congr hopens rfl rfl
  unfold WritesFit
  constructor
  · intro hfit hopen
    have hall := hfit r w' hrun
    rw [hwrites hrun, if_pos hopen] at hall
    exact (writable_sessionWrites_iff _ _).mp hall
  · intro hwritable r w' hrun
    rw [hwrites hrun]
    split
    · exact (writable_sessionWrites_iff _ _).mpr (hwritable ‹_›)
    · intro write hwrite
      cases hwrite

/-- A configuration is written as the client gave it. -/
theorem writesFit_saveConfig_iff (hselected : Command.Selects input .saveConfig) :
    WritesFit (parseScenario1 input cl) w ↔ ¬ (w.opens ∧ SavesOutside w.latch input) := by
  rw [Command.parseScenario1_of_selects hselected]
  show WritesFit (handleSaveConfig input) w ↔ _
  have hdecides : Decides (handleSaveConfig input) w _ := decides_handleSaveConfig
  rcases ParameterCommand.saveConfig.decision_cases w.globals.statusTypeAssembledMove w.latch
    input with hd | ⟨cmd, hd⟩
  · rw [hd] at hdecides
    constructor
    -- a configuration that passes the checks is sent
    · rintro _ ⟨_, hsaves⟩
      obtain ⟨_, _, _, hsends⟩ := ParameterCommand.exists_decision_eq_sends_iff.mpr
        ⟨hsaves.tokens, hsaves.checked, trivial⟩
      rw [hd] at hsends
      cases hsends
    · intro _ r w' hrun
      obtain ⟨w₁, hprepares, hruns⟩ := hdecides
      obtain ⟨_, rfl⟩ := runs_done_iff.mp ((hruns r w').mp hrun)
      rw [hprepares.registerWrites_eq (World.Extends.refl w')]
      simp [newEvents]
  · rw [hd] at hdecides
    obtain ⟨hn, hrange, hwritable⟩ := writable_of_decision hd
    rw [hdecides.writesFit_iff (ParameterCommand.sentOnce_of_decision hd).1, hwritable]
    constructor
    · rintro hfits ⟨hopens, hsaves⟩
      exact hsaves.outside (hfits hopens)
    · intro hnot hopens
      by_contra hout
      exact hnot ⟨hopens, hselected, hn, hrange, hout⟩

/-- What a message writes can be written, unless it is such a configuration, accepted and
sent. -/
theorem writesFit_parseSocketInput_iff :
    WritesFit (parseSocketInput input cl) w ↔
      ¬ (w.InScenario1 ∧ w.opens ∧ SavesOutside w.latch input) := by
  by_cases hscenario : w.InScenario1
  · have hruns : WritesFit (parseSocketInput input cl) w ↔
        WritesFit (parseScenario1 input cl) w := by
      unfold WritesFit
      simp only [runs_parseSocketInput_scenario1 hscenario]
    rw [hruns, and_iff_right hscenario]
    by_cases hsave : Command.Selects input .saveConfig
    · exact writesFit_saveConfig_iff hsave
    · refine iff_of_true ?_ fun h => hsave h.2.selected
      by_cases hselects : ∃ c, Command.Selects input c
      · obtain ⟨c, hc⟩ := hselects
        rw [Command.parseScenario1_of_selects hc]
        exact writesFit_of_within (within_code_writing fun heq => hsave (heq ▸ hc))
      · push Not at hselects
        rw [Command.parseScenario1_of_not_selects hselects]
        exact writesFit_of_within (within_pure _)
  · exact iff_of_true (writesFit_of_not_inScenario1 hscenario) fun h => hscenario h.1

end

/-- In every interleaving, after any messages but those that save such a configuration when
each of their tokens is read for itself, each write has a register of the drive and a value
of a word.  A single message, in any state, writes something else exactly when it saves such
a configuration in that state, and it is sent. -/
theorem register_writes_fit (w : World) :
    (∀ (es : Trace) (c : ServerThreads),
      ServerExecutes (fun _ _ => True) (serverStart w) es c →
        (∀ input ∈ messages es, ¬ SavesOutside .clear input) →
          ∀ write ∈ (traffic es).written, Writable write) ∧
    ∀ (input : Text) (cl : Int),
      WritesFit (parseSocketInput input cl) w ↔
        ¬ (w.InScenario1 ∧ w.opens ∧ SavesOutside w.latch input) :=
  ⟨fun _ _ h hmessages => writable_of_executes h hmessages,
    fun _ _ => writesFit_parseSocketInput_iff⟩

/-- A configuration with the control word 70000, all else being in range. -/
def longControlWordLine : Chunk :=
  .ofLine "saveConfig,70000,0,1,200,1024,0,10".toList (by decide)

def World.savesLongControlWord : World :=
  { World.facing Globals.initial (Stream'.const (Session.answering fun _ => 0)) with
    clientReads := readsOf [connectLine, longControlWordLine] }

/-- The drive is handed 70000 for its control word, and the word that it gets is 4464. -/
theorem control_word_wraps :
    ∃ es c, ServerExecutes (fun _ _ => True) (serverStart World.savesLongControlWord) es c ∧
      (1024, 70000) ∈ (traffic es).written ∧ ¬ Writable (1024, 70000) ∧
      toInt16 70000 = 4464 := by
  have htraced : ((Threads.traced server serverSharing (List.replicate 35 0)
      (serverStart World.savesLongControlWord)).map fun r =>
        decide ((1024, 70000) ∈ (traffic r.1).written)) = some true := by decide +kernel
  obtain ⟨⟨es, c⟩, hes, hc⟩ := Option.map_eq_some_iff.mp htraced
  exact ⟨es, c, Threads.executes_of_traced hes, of_decide_eq_true hc, by decide, by decide⟩

end SmdControlServer
