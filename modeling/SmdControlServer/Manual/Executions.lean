import SmdControlServer.Interaction.Traces
import SmdControlServer.Manual.Accounted

/-!
# Executions of the server

An execution is any interleaving of the main thread with the controllers, from the
start of the server on, with the trace of what was done.  `monitored_of_executes` gives
the accounts of all threads at its end.
-/

namespace SmdControlServer

open CString Interaction

abbrev Trace := List (Entry serverSignature)

/-- An execution of the server whose steps meet the condition. -/
abbrev ServerExecutes (P : ServerThreads → Nat → Prop) :
    ServerThreads → Trace → ServerThreads → Prop :=
  Threads.Executes server serverSharing P

/-! ## Traces and the log -/

/-- What the log records of a request. -/
def Request.events : (o : Request) → Answer o → List Event
  | .pthreadCreate routine, created => [.threadStarted routine created]
  | .modbusNewTcp, ctx => [.contextAllocated ctx.id]
  | .modbusConnect ctx, connected => [.contextConnected ctx.id connected]
  | .modbusWriteRegister ctx _ register value, succeeded =>
      [.registerWritten ctx.id register value succeeded]
  | .modbusReadRegisters ctx, words => [.registersRead ctx.id words.isSome]
  | .modbusClose ctx, _ => [.contextClosed ctx.id]
  | .modbusFree ctx, _ => [.contextFreed ctx.id]
  | .readClient cl, _ => [.clientRead cl]
  | .writeClient cl message, none => [.clientWritten cl message]
  | .closeClient cl, _ => [.clientClosed cl]
  | .acceptClient, cl => [.clientAccepted cl]
  | .note n, _ => [.noted n]
  | _, _ => []

theorem log_handle {o : Request} {w w' : World} {x : Answer o} (h : handle o w = some (x, w')) :
    w'.log = w.log ++ o.events x := by
  cases o with
  | deviceIp =>
      rw [handle_deviceIp] at h
      cases h
      exact (List.append_nil _).symm
  | pthreadCreate routine => cases routine <;> (cases h; rfl)
  | readClient cl =>
      cases h
      cases hread : w.clientReads.head <;> rfl
  | writeClient cl message =>
      cases h
      cases hwrite : w.clientWrites.head with
      | none => rfl
      | some e => exact (List.append_nil _).symm
  | readManualFile =>
      cases h
      cases hread : w.manualReads.head <;> exact (List.append_nil _).symm
  | abort fault => cases h
  | _ => cases h; first | rfl | exact (List.append_nil _).symm

/-- What the last `pthread_create` of a controller has come to. -/
def lastStartAfter : Option Bool → Event → Option Bool
  | _, .threadStarted .manualModeController created => some created
  | created, _ => created

def lastStart (log : List Event) : Option Bool :=
  log.foldl lastStartAfter none

theorem lastStart_handle {o : Request} {w w' : World} {x : Answer o}
    (h : handle o w = some (x, w')) : lastStart w'.log = o.createdAfter x (lastStart w.log) := by
  rw [log_handle h]
  unfold lastStart
  rw [List.foldl_append]
  cases o with
  | pthreadCreate routine => cases routine <;> rfl
  | writeClient cl message => cases x <;> rfl
  | _ => rfl

theorem createdAfter_of_imp {o : Request} {x : Answer o} {created created' : Option Bool}
    (h : ∀ b, created = some b → created' = some b) (b : Bool)
    (hb : o.createdAfter x created = some b) : o.createdAfter x created' = some b := by
  cases o with
  | pthreadCreate routine =>
      cases routine with
      | manualModeController => exact hb
      | _ => exact h b hb
  | _ => exact h b hb

/-! ## Accounts and the world -/

/-- The main thread's account has the globals, and no other account has. -/
structure Linked (q : Nat → Account) (w : World) : Prop where
  known : (q 0).known = some w.globals
  others : ∀ i, 0 < i → (q i).known = none
  flags : w.globals.FlagsAreBits
  created : ∀ b, (q 0).created = some b → lastStart w.log = some b

theorem Globals.FlagsAreBits.next {g : Globals} {o : Request} {x : Answer o} {q : Account}
    (hg : g.FlagsAreBits) (ho : accountMonitor.allows q o) :
    (mainMonitor.next g o x).FlagsAreBits := by
  cases o with
  | assign a =>
      obtain ⟨_, hbit⟩ := ho
      cases a with
      | smdConnected value => exact ⟨hbit, hg.waiting, hg.manualMode⟩
      | statusWaitingForAssembledMove value => exact ⟨hg.smdConnected, hbit, hg.manualMode⟩
      | statusManualModeEnable value => exact ⟨hg.smdConnected, hg.waiting, hbit⟩
      | _ => exact ⟨hg.smdConnected, hg.waiting, hg.manualMode⟩
  | _ => exact hg

/-- A thread that does not know the globals neither assigns them nor starts another. -/
theorem unknown_request {q : Account} {o : Request} (hq : q.known = none)
    (ho : accountMonitor.allows q o) :
    (∀ g x, mainMonitor.next g o x = g) ∧ ∀ x created, o.createdAfter x created = created := by
  cases o with
  | assign a => exact absurd hq ho.1
  | pthreadCreate routine =>
      cases routine with
      | manualModeController => exact absurd hq ho.1
      | _ => exact ⟨fun _ _ => rfl, fun _ _ => rfl⟩
  | _ => exact ⟨fun _ _ => rfl, fun _ _ => rfl⟩

theorem linked_handle (q : Nat → Account) (w : World) (i : Nat) (o : Request) (errno : Int)
    (x : Answer o) (w' : World) (hq : Linked q w) (ho : accountMonitor.allows (q i) o)
    (h : handle o (w.setErrno errno) = some (x, w')) :
    accountMonitor.expects (q i) o x ∧
      Linked (Function.update q i (accountMonitor.next (q i) o x)) w' := by
  have hmode := modeAfter_handle h
  have hglobals : w'.globals = mainMonitor.next w.globals o x := hmode.globals
  have hlast : lastStart w'.log = o.createdAfter x (lastStart w.log) :=
    lastStart_handle (w := w.setErrno errno) h
  -- only what the main thread reads is expected: the account has its globals
  have hexpects : accountMonitor.expects (q i) o x := by
    cases o with
    | globals =>
        intro g hg
        have hx : x = w.globals := hmode.expected
        -- the main thread moves its own account, another thread leaves the globals alone
        by_cases hi : i = 0
        · rw [hi, hq.known] at hg
          rw [hx]
          exact Option.some.inj hg
        · rw [hq.others i (by omega)] at hg
          cases hg
    | modbusConnect ctx => exact hmode.expected
    | _ => trivial
  refine ⟨hexpects, ?_⟩
  have hflags : w'.globals.FlagsAreBits := by
    rw [hglobals]
    exact hq.flags.next ho
  by_cases hi : i = 0
  · subst hi
    refine ⟨?_, fun j hj => ?_, hflags, fun b hb => ?_⟩
    · rw [Function.update_self, hglobals]
      show Option.map _ _ = _
      rw [hq.known]
      rfl
    · rw [Function.update_of_ne (by omega)]
      exact hq.others j hj
    · rw [Function.update_self] at hb
      rw [hlast]
      exact createdAfter_of_imp hq.created b hb
  · have hunknown := hq.others i (by omega)
    obtain ⟨hkeeps, hnone⟩ := unknown_request hunknown ho
    refine ⟨?_, fun j hj => ?_, hflags, fun b hb => ?_⟩
    · rw [Function.update_of_ne (Ne.symm hi), hq.known, hglobals, hkeeps]
    · by_cases hij : j = i
      · rw [hij, Function.update_self]
        show Option.map _ _ = _
        rw [hunknown]
        rfl
      · rw [Function.update_of_ne hij]
        exact hq.others j hj
    · rw [Function.update_of_ne (Ne.symm hi)] at hb
      rw [hlast, hnone]
      exact hq.created b hb

/-! ## The accounts of an execution -/

/-- Of a thread that has not been started nothing is known. -/
def Account.fresh : Account :=
  ⟨none, [], .idle, false, none⟩

def startAccounts (g : Globals) : Nat → Account :=
  Function.update (fun _ => Account.fresh) 0 (mainAccount g [] none)

/-- The accounts of all the threads after a trace. -/
def accounts (g : Globals) (es : Trace) : Nat → Account :=
  accountMonitor.followAll (startAccounts g) es

theorem between_initial : Between Globals.initial [] none := by
  refine ⟨⟨⟨Or.inl rfl, Or.inl rfl, Or.inl rfl⟩, ?_, ?_, ?_⟩, ?_⟩
  · intro h
    cases h
  · exact fun _ => ⟨rfl, rfl, rfl⟩
  · intro h
    cases h
  · intro h
    cases h

theorem monitored_of_spawn {o : Request} {x : Answer o} {t : Thread serverSignature Int}
    (h : serverSharing.spawn o x = some t) :
    t.program.Safe accountMonitor (fun _ _ => True) Account.fresh := by
  rw [eq_of_spawn h]
  exact ⟨⟨rfl, rfl⟩, fun _ _ _ => trivial⟩

/-- In every interleaving each thread keeps its account. -/
theorem monitored_of_executes {P : ServerThreads → Nat → Prop} {w : World}
    (hinitial : w.globals = Globals.initial) {es : Trace} {c : ServerThreads}
    (h : ServerExecutes P (serverStart w) es c) :
    Threads.Monitored accountMonitor Account.fresh (accounts Globals.initial es) c ∧
      Linked (accounts Globals.initial es) c.state := by
  refine Threads.Executes.monitored linked_handle monitored_procedureBody
    (fun o x t ht => monitored_of_spawn ht) ?_ ?_ h
  -- at the start there is the main thread only, and its account is that of the globals
  · refine ⟨fun i t ht => ?_, fun i hi => ?_⟩
    · cases i with
      | zero =>
          cases ht
          exact monitored_openServerSocket between_initial rfl
      | succ i => cases ht
    · have hne : i ≠ 0 := by
        have hpos : 1 ≤ i := hi
        omega
      exact Function.update_of_ne hne _ _
  · refine ⟨?_, fun i hi => ?_, ?_, fun b hb => ?_⟩
    · show some Globals.initial = some w.globals
      rw [hinitial]
    · unfold startAccounts
      rw [Function.update_of_ne (by omega)]
      rfl
    · show w.globals.FlagsAreBits
      rw [hinitial]
      exact between_initial.accounted.flags
    · cases hb

/-- A step is entered into the account of the thread that makes it. -/
theorem accounts_step (g : Globals) (es : Trace) {c c' : ServerThreads} {i : Nat}
    (h : c.step server serverSharing i = some c') :
    (∃ o x errno w', c.next i = some o ∧ handle o (c.state.setErrno errno) = some (x, w') ∧
        c.performed server serverSharing i = some ⟨i, o, x⟩ ∧
        accounts g (es ++ (c.performed server serverSharing i).toList) =
          Function.update (accounts g es) i (accountMonitor.next (accounts g es i) o x)) ∨
      (c.next i = none ∧ c.performed server serverSharing i = none ∧
        accounts g (es ++ (c.performed server serverSharing i).toList) = accounts g es) := by
  rcases Threads.step_cases h with ⟨o, k, l, x, w', hthread, hx, _⟩ | ⟨p, k, l, hthread, _⟩
  · left
    have hperformed : c.performed server serverSharing i = some ⟨i, o, x⟩ :=
      Threads.performed_of_perform hthread hx
    refine ⟨o, x, l, w', Threads.next_of_perform hthread, hx, hperformed, ?_⟩
    rw [hperformed]
    exact Monitor.followAll_append_singleton _ _ _ _
  · right
    have hperformed : c.performed server serverSharing i = none :=
      Threads.performed_of_call hthread
    refine ⟨?_, hperformed, ?_⟩
    · unfold Threads.next
      rw [hthread]
    · rw [hperformed]
      show accounts g (es ++ []) = _
      rw [List.append_nil]

/-- The main thread is about to read a message. -/
def readsMessage (c : ServerThreads) : Bool :=
  match c.next 0 with
  | some (.readClient _) => true
  | _ => false

theorem next_of_readsMessage {c : ServerThreads} (h : readsMessage c = true) :
    ∃ cl, c.next 0 = some (.readClient cl) := by
  unfold readsMessage at h
  split at h
  · rename_i cl hnext
    exact ⟨cl, hnext⟩
  · cases h

end SmdControlServer
