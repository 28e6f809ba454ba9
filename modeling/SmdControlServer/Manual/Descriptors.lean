import SmdControlServer.Commands.Recognition
import SmdControlServer.Interaction.Handles
import SmdControlServer.Manual.Executions

/-!
# The client's descriptor

`accept` returns a descriptor, the loop of `open_server_socket` reads from it and closes it
when the client is gone.  `parse_smd_response_to_client_input` closes it as well, once
`INVALID_INPUT` has been written, and does not tell the loop, which goes on reading.  As
long as no message comes to that, the descriptors are handles that are used in turn, in
every interleaving of the main thread with the controllers.
-/

namespace SmdControlServer

open CString Interaction

/-! ## What is done with the descriptors -/

/-- What a request does with a client's descriptor.  It is opened by an `accept` that does
not fail, and used by `read` and `write`. -/
def Request.clientUse? : (o : Request) → Answer o → Option (HandleUse Int)
  | .acceptClient, cl => if cl = -1 then none else some (.opened cl)
  | .readClient cl, _ => some (.used cl)
  | .writeClient cl _, _ => some (.used cl)
  | .closeClient cl, _ => some (.closed cl)
  | _, _ => none

theorem clientUse?_acceptClient (cl : Int) :
    Request.acceptClient.clientUse? cl = if cl = -1 then none else some (.opened cl) := rfl

/-- What all the threads have done with the descriptors of the clients. -/
def clientUses (es : Trace) : List (HandleUse Int) :=
  es.filterMap fun e => e.request.clientUse? e.answer

theorem clientUses_append_singleton (es : Trace) (e : Entry serverSignature) :
    clientUses (es ++ [e]) = clientUses es ++ (e.request.clientUse? e.answer).toList := by
  unfold clientUses
  rw [List.filterMap_append]
  cases huse : e.request.clientUse? e.answer with
  | none => simp [huse]
  | some u => simp [huse]

/-- The step does not begin with a message that is answered `INVALID_INPUT` in a write that
succeeds, and `accept` returns a descriptor that an `int16_t` holds, unless it comes to -1
there, which ends the process. -/
def LeavesClientOpen (c : ServerThreads) (i : Nat) : Prop :=
  (∀ input, c.next i = some (.note (.message input)) →
    ¬ (c.state.globals.Unrecognised input ∧ c.state.clientWrites.head = none)) ∧
  (c.next i = some .acceptClient →
    toInt16 c.state.accepts.head = c.state.accepts.head ∨ toInt16 c.state.accepts.head = -1)

/-! ## The monitor -/

/-- What the main thread has to know of its client, if it has one: besides the descriptor
the globals, which decide what a message is taken for, and how its writes will go. -/
structure Hosting where
  client : Option Int
  globals : Globals
  writes : Stream' (Option Int)

namespace Request

/-- The descriptor after the request. -/
def clientAfter (o : Request) (x : Answer o) (client : Option Int) : Option Int :=
  (o.clientUse? x).elim client (HandleUse.inHand client)

/-- The writes that are left after the request. -/
def writesAfter : Request → Stream' (Option Int) → Stream' (Option Int)
  | .writeClient _ _, writes => writes.tail
  | _, writes => writes

end Request

/-- The main thread has this client, or it has none. -/
def Hosts (client : Option Int) (q : Option Hosting) : Prop :=
  ∃ g writes, q = some ⟨client, g, writes⟩

/-- The monitor of the descriptor.  The main thread has a client, or waits for one; the
controllers have nothing to do with one. -/
def clientMonitor : Monitor serverSignature (Option Hosting) where
  allows
    | none, o => o.Serves none
    | some h, o => ∀ x, ∀ u ∈ o.clientUse? x, u.Fits h.client
  expects
    | none, _, _ => True
    | some h, .globals, x => x = h.globals
    | some h, .writeClient _ _, x => x = h.writes.head
    | some _, .acceptClient, cl => toInt16 cl = cl ∨ toInt16 cl = -1
    | some h, .note (.message input), _ =>
        ¬ (h.globals.Unrecognised input ∧ h.writes.head = none)
    | some _, _, _ => True
  next
    | none, _, _ => none
    | some h, o, x => some {
        client := o.clientAfter x h.client
        globals := mainMonitor.next h.globals o x
        writes := o.writesAfter h.writes }
  pre
    | .serverLoop cl, q => Hosts (some cl) q
    | .manualModeLoop _, q => q = none
    | _, _ => True
  post
    | .smdHoldMove, q, _, q' => q' = q
    | .smdImmedStop, q, _, q' => q' = q
    | _, _, _, _ => True

section

variable {cl : Int} {q : Option Hosting} {g : Globals} {writes : Stream' (Option Int)}
  {α β : Type}

/-- A request without a client leaves alone all that the monitor follows. -/
theorem kept_of_serves_none {o : Request} (ho : o.Serves none) (x : Answer o) :
    o.clientUse? x = none ∧ (∀ g, mainMonitor.next g o x = g) ∧
      ∀ writes, o.writesAfter writes = writes := by
  cases o with
  | assign a => exact absurd rfl ho
  | writeClient cl message => cases ho
  | readClient cl => exact ho.elim
  | closeClient cl => exact ho.elim
  | acceptClient => exact ho.elim
  | _ => exact ⟨rfl, fun _ => rfl, fun _ => rfl⟩

theorem clientMonitor_of_serves_none {o : Request} (ho : o.Serves none) :
    clientMonitor.allows q o ∧ ∀ x, clientMonitor.next q o x = q := by
  cases q with
  | none => exact ⟨ho, fun _ => rfl⟩
  | some h =>
      refine ⟨fun x u hu => ?_, fun x => ?_⟩
      · rw [(kept_of_serves_none ho x).1] at hu
        cases hu
      · obtain ⟨huse, hglobals, hwrites⟩ := kept_of_serves_none ho x
        show some (Hosting.mk _ _ _) = _
        unfold Request.clientAfter
        rw [huse, hglobals, hwrites]
        rfl

/-- Code without a client changes nothing. -/
theorem keeps_of_serves_none {p : Server α} (hp : Serves none p) (q : Option Hosting) :
    p.Safe clientMonitor (fun _ q' => q' = q) q := by
  refine Program.Obeys.safe ?_ ?_ hp rfl
  · rintro o ho q' rfl
    obtain ⟨hallowed, hnext⟩ := clientMonitor_of_serves_none (q := q') ho
    exact ⟨hallowed, fun x _ => ⟨trivial, hnext x⟩⟩
  · rintro p (rfl | rfl) q' rfl
    · exact ⟨trivial, fun _ _ h => h⟩
    · exact ⟨trivial, fun _ _ h => h⟩

/-- Code that serves the client keeps it. -/
theorem hosts_of_serves {p : Server α} (hp : Serves (some cl) p) (hq : Hosts (some cl) q) :
    p.Safe clientMonitor (fun _ q' => Hosts (some cl) q') q := by
  refine Program.Obeys.safe ?_ ?_ hp hq
  · rintro o ho q' ⟨g, writes, rfl⟩
    cases o with
    | writeClient cl' message =>
        obtain rfl : cl = cl' := Option.some.inj ho
        refine ⟨fun x u hu => ?_, fun x _ => ⟨trivial, _, _, rfl⟩⟩
        obtain rfl : HandleUse.used cl = u := Option.some.inj hu
        rfl
    | readClient cl => exact ho.elim
    | closeClient cl => exact ho.elim
    | acceptClient => exact ho.elim
    | _ => exact ⟨fun _ _ hu => (by cases hu), fun x _ => ⟨trivial, _, _, rfl⟩⟩
  · rintro p (rfl | rfl) q' hq'
    · exact ⟨trivial, fun _ _ h => h ▸ hq'⟩
    · exact ⟨trivial, fun _ _ h => h ▸ hq'⟩

theorem hosting_bind {p : Server α} {f : α → Server β} {post : β → Option Hosting → Prop}
    (h : p.Safe clientMonitor (fun a q' => (f a).Safe clientMonitor post q') q) :
    (p >>= f).Safe clientMonitor post q :=
  Program.Safe.bind h

theorem hosting_ite {c : Prop} [Decidable c] {p p' : Server α} {post : α → Option Hosting → Prop}
    (hp : c → p.Safe clientMonitor post q) (hp' : ¬ c → p'.Safe clientMonitor post q) :
    (if c then p else p').Safe clientMonitor post q := by
  split
  · exact hp ‹c›
  · exact hp' ‹¬ c›

/-! ## Messages -/

/-- The client has its line, and is not closed unless the line is `INVALID_INPUT`. -/
theorem hosts_answerClient {r : SmdResponseCode} (hr : r ≠ .invalidInput)
    (hq : Hosts (some cl) q) :
    (answerClient r cl).Safe clientMonitor (fun _ q' => Hosts (some cl) q') q :=
  hosts_of_serves (serves_answerClient hr) hq

/-- `INVALID_INPUT` in a write that fails leaves the client open. -/
theorem hosts_answerInvalidInput (hwrite : writes.head ≠ none) :
    (answerClient .invalidInput cl).Safe clientMonitor (fun _ q' => Hosts (some cl) q')
      (some ⟨some cl, g, writes⟩) := by
  refine ⟨fun x u hu => ?_, fun x hx => ?_⟩
  · obtain rfl : HandleUse.used cl = u := Option.some.inj hu
    rfl
  · have hfailed : x ≠ none := by
      rw [show x = writes.head from hx]
      exact hwrite
    cases x with
    | none => exact absurd rfl hfailed
    | some e =>
        refine ⟨fun _ _ hu => (by cases hu), fun _ _ => ?_⟩
        exact ⟨g, writes.tail, rfl⟩

theorem hosts_parseSmdResponseToClientInput {input : Text} (hq : Hosts (some cl) q) :
    (parseSmdResponseToClientInput input cl).Safe clientMonitor
      (fun _ q' => Hosts (some cl) q') q := by
  obtain ⟨g, writes, rfl⟩ := hq
  refine ⟨fun _ _ hu => (by cases hu), fun _ hmessage => ?_⟩
  change Program.Safe clientMonitor (parseSocketInput input cl >>= fun r => answerClient r cl)
    (fun _ q' => Hosts (some cl) q') (some ⟨some cl, g, writes⟩)
  rw [parseSocketInput_eq]
  refine ⟨fun _ _ hu => (by cases hu), fun x hx => ?_⟩
  obtain rfl : x = g := hx
  change Program.Safe clientMonitor (dispatchIn x input cl >>= fun r => answerClient r cl)
    (fun _ q' => Hosts (some cl) q') (some ⟨some cl, x, writes⟩)
  by_cases hinput : x.Unrecognised input
  · rw [dispatchIn_of_unrecognised hinput]
    exact hosts_answerInvalidInput fun hnone => hmessage ⟨hinput, hnone⟩
  · have hattends : Attends cl (dispatchIn x input cl) := attends_dispatchIn hinput
    obtain ⟨hserves, hcode⟩ := hattends
    have hdispatch := (hosts_of_serves hserves ⟨x, writes, rfl⟩).and_returns hcode
    exact hosting_bind (hdispatch.mono fun r q' h => hosts_answerClient h.2 h.1)

/-! ## Turns -/

/-- A request that has nothing to do with a client. -/
theorem hosting_ask {client : Option Int} {o : Request} {k : Answer o → Server β}
    {post : β → Option Hosting → Prop} (ho : ∀ x, o.clientUse? x = none) (hq : Hosts client q)
    (hk : ∀ x q', Hosts client q' → (k x).Safe clientMonitor post q') :
    (ask o >>= k).Safe clientMonitor post q := by
  obtain ⟨g, writes, rfl⟩ := hq
  refine ⟨fun x u hu => ?_, fun x _ => hk x _ ⟨mainMonitor.next g o x, o.writesAfter writes, ?_⟩⟩
  · rw [ho x] at hu
    cases hu
  · show some (Hosting.mk _ _ _) = _
    unfold Request.clientAfter
    rw [ho x]
    rfl

theorem hosts_smdCloseCommandConnection {client : Option Int} (hq : Hosts client q) :
    smdCloseCommandConnection.Safe clientMonitor (fun _ q' => Hosts client q') q := by
  unfold smdCloseCommandConnection
  refine hosting_ask (fun _ => rfl) hq fun g q₁ hq₁ => ?_
  cases g.smdCommandConnection with
  | none => exact hq₁
  | some ctx =>
      refine hosting_ite (fun _ => ?_) (fun _ => hq₁)
      refine hosting_ask (fun _ => rfl) hq₁ fun _ q₂ hq₂ => ?_
      refine hosting_ask (fun _ => rfl) hq₂ fun _ q₃ hq₃ => ?_
      refine hosting_ask (fun _ => rfl) hq₃ fun _ q₄ hq₄ => ?_
      refine hosting_ask (fun _ => rfl) hq₄ fun _ q₅ hq₅ => ?_
      refine hosting_ask (fun _ => rfl) hq₅ fun _ q₆ hq₆ => ?_
      refine hosting_ask (fun _ => rfl) hq₆ fun _ q₇ hq₇ => ?_
      exact hosting_ask (k := fun _ => pure ()) (fun _ => rfl) hq₇ fun _ _ hq₈ => hq₈

/-- The descriptor that `accept` returns is the one that is kept, or the process ends. -/
theorem hosts_accept {k : Int → Server β} {post : β → Option Hosting → Prop}
    (hq : Hosts none q) (hk : ∀ cl q', Hosts (some cl) q' → (k cl).Safe clientMonitor post q') :
    Program.Safe clientMonitor (do
      let cl := toInt16 (← acceptClient)
      if cl = -1 then
        abort .exited
      else
        k cl) post q := by
  obtain ⟨g, writes, rfl⟩ := hq
  refine ⟨fun x u hu => ?_, fun accepted haccepted => ?_⟩
  · by_cases hfailed : x = -1
    · rw [clientUse?_acceptClient, if_pos hfailed] at hu
      cases hu
    · rw [clientUse?_acceptClient, if_neg hfailed] at hu
      obtain rfl : HandleUse.opened x = u := Option.some.inj hu
      rfl
  · refine hosting_ite (fun _ => ⟨fun _ _ hu => (by cases hu), fun x => x.elim⟩) fun hkept => ?_
    have heq : toInt16 accepted = accepted := haccepted.resolve_right hkept
    rw [heq]
    have hopened : (Request.acceptClient).clientAfter accepted none = some accepted := by
      unfold Request.clientAfter
      rw [clientUse?_acceptClient, if_neg (heq ▸ hkept)]
      rfl
    refine hk accepted _ ⟨g, writes, ?_⟩
    show some (Hosting.mk _ _ _) = _
    rw [hopened]
    rfl

/-- The client that is gone is closed, and the next one takes its place. -/
theorem hosts_serveNextClient (hq : Hosts (some cl) q) :
    (serveNextClient cl).Safe clientMonitor (fun cl' q' => Hosts (some cl') q') q := by
  obtain ⟨g, writes, rfl⟩ := hq
  refine ⟨fun x u hu => ?_, fun _ _ => ?_⟩
  · obtain rfl : HandleUse.closed cl = u := Option.some.inj hu
    rfl
  change Program.Safe clientMonitor (smdCloseCommandConnection >>= _) _
    (some ⟨none, g, writes⟩)
  have hnone : Hosts none (some ⟨none, g, writes⟩) := ⟨g, writes, rfl⟩
  refine hosting_bind ((hosts_smdCloseCommandConnection hnone).mono fun _ q₁ hq₁ => ?_)
  refine hosting_ask (fun _ => rfl) hq₁ fun _ q₂ hq₂ => ?_
  exact hosts_accept hq₂ fun _ _ hq₃ => hq₃

theorem hosts_serverIteration (hq : Hosts (some cl) q) :
    (serverIteration cl).Safe clientMonitor (fun cl' q' => Hosts (some cl') q') q := by
  have hmessage : ∀ (text : Text) (q : Option Hosting), Hosts (some cl) q →
      (parseSmdResponseToClientInput text cl >>= fun _ => (pure cl : Server Int)).Safe
        clientMonitor (fun cl' q' => Hosts (some cl') q') q := fun text q hq =>
    hosting_bind ((hosts_parseSmdResponseToClientInput hq).mono fun _ _ hq' => hq')
  obtain ⟨g, writes, rfl⟩ := hq
  have hread : Hosts (some cl) (some ⟨some cl, g, writes⟩) := ⟨g, writes, rfl⟩
  refine ⟨fun x u hu => ?_, fun outcome _ => ?_⟩
  · obtain rfl : HandleUse.used cl = u := Option.some.inj hu
    rfl
  cases outcome with
  | received chunk =>
      refine hosting_ite (fun _ => hmessage _ _ hread) fun _ => ?_
      exact hosting_ask (fun _ => rfl) hread fun stack q' hq' => hmessage _ q' hq'
  | endOfFile => exact hosts_serveNextClient hread
  | failed e => exact hosts_serveNextClient hread

theorem hosts_openServerSocket (hq : Hosts none q) :
    openServerSocket.Safe clientMonitor (fun _ _ => True) q := by
  refine hosts_accept (k := fun cl => invoke (.serverLoop cl)) hq fun cl q' hq' => ?_
  exact ⟨hq', fun _ _ _ => trivial⟩

/-- The procedures of the main thread and of the controllers. -/
theorem hosts_procedureBody (p : Procedure) (q : Option Hosting) (hp : clientMonitor.pre p q) :
    (procedureBody p).Safe clientMonitor (clientMonitor.post p q) q := by
  cases p with
  | smdHoldMove => exact keeps_of_serves_none (serves_body _ (Or.inl rfl)) q
  | smdImmedStop => exact keeps_of_serves_none (serves_body _ (Or.inr rfl)) q
  | manualModeLoop locals =>
      obtain rfl : q = none := hp
      refine ⟨trivial, fun g _ => hosting_ite (fun _ => ?_) fun _ => trivial⟩
      have hiteration := keeps_of_serves_none (serves_manualModeIteration locals) none
      refine hosting_bind (hiteration.mono fun _ q' hq' => ?_)
      obtain rfl : q' = none := hq'
      exact ⟨trivial, fun _ _ => ⟨rfl, fun _ _ _ => trivial⟩⟩
  | serverLoop cl =>
      refine hosting_bind ((hosts_serverIteration hp).mono fun cl' q' hq' => ?_)
      exact ⟨hq', fun _ _ _ => trivial⟩

end

/-! ## Executions -/

/-- The monitor of the main thread knows the globals and the writes to come, and the other
threads have no client. -/
structure Housed (q : Nat → Option Hosting) (w : World) : Prop where
  main : ∃ client, q 0 = some ⟨client, w.globals, w.clientWrites⟩
  others : ∀ i, 0 < i → q i = none

theorem writesAfter_handle {o : Request} {w w' : World} {x : Answer o}
    (h : handle o w = some (x, w')) : w'.clientWrites = o.writesAfter w.clientWrites := by
  cases o with
  | deviceIp =>
      rw [handle_deviceIp] at h
      cases h
      rfl
  | pthreadCreate routine => cases routine <;> (cases h; rfl)
  | readClient cl =>
      cases h
      cases hread : w.clientReads.head <;> rfl
  | writeClient cl message =>
      cases h
      cases hwrite : w.clientWrites.head <;> rfl
  | readManualFile =>
      cases h
      cases hread : w.manualReads.head <;> rfl
  | abort fault => cases h
  | _ => cases h; rfl

/-- The world, in such a step, answers the main thread as its monitor expects. -/
theorem expects_handle {c : ServerThreads} {i : Nat} {o : Request} {errno : Int} {x : Answer o}
    {w' : World} (hstep : LeavesClientOpen c i) (hnext : c.next i = some o)
    (h : handle o (c.state.setErrno errno) = some (x, w')) (client : Option Int) :
    clientMonitor.expects (some ⟨client, c.state.globals, c.state.clientWrites⟩) o x := by
  cases o with
  | globals => exact (modeAfter_handle h).expected
  | writeClient cl message =>
      cases h
      rfl
  | acceptClient =>
      cases h
      exact hstep.2 hnext
  | note n =>
      cases n with
      | message input => exact hstep.1 input hnext
      | _ => trivial
  | _ => trivial

theorem housed_handle (q : Nat → Option Hosting) (c : ServerThreads) (i : Nat) (o : Request)
    (errno : Int) (x : Answer o) (w' : World) (hstep : LeavesClientOpen c i)
    (hnext : c.next i = some o) (hq : Housed q c.state) (ho : clientMonitor.allows (q i) o)
    (h : handle o (c.state.setErrno errno) = some (x, w')) :
    clientMonitor.expects (q i) o x ∧
      Housed (Function.update q i (clientMonitor.next (q i) o x)) w' := by
  have hglobals : w'.globals = mainMonitor.next c.state.globals o x := (modeAfter_handle h).globals
  have hwrites : w'.clientWrites = o.writesAfter c.state.clientWrites :=
    writesAfter_handle (w := c.state.setErrno errno) h
  by_cases hi : i = 0
  · subst hi
    obtain ⟨client, hmain⟩ := hq.main
    rw [hmain]
    refine ⟨expects_handle hstep hnext h client, ⟨⟨o.clientAfter x client, ?_⟩, fun j hj => ?_⟩⟩
    · rw [Function.update_self, hglobals, hwrites]
      rfl
    · rw [Function.update_of_ne (by omega)]
      exact hq.others j hj
  · -- a controller leaves the globals alone, and does not write to a client
    have hnone := hq.others i (by omega)
    rw [hnone] at ho ⊢
    obtain ⟨_, hkept, hunwritten⟩ := kept_of_serves_none ho x
    refine ⟨trivial, ⟨?_, fun j hj => ?_⟩⟩
    · rw [Function.update_of_ne (Ne.symm hi), hglobals, hwrites, hkept, hunwritten]
      exact hq.main
    · by_cases hij : j = i
      · rw [hij, Function.update_self]
        rfl
      · rw [Function.update_of_ne hij]
        exact hq.others j hj

/-- The main thread before its first `accept`, and no other thread. -/
def startHosting (w : World) : Nat → Option Hosting :=
  Function.update (fun _ => none) 0 (some ⟨none, w.globals, w.clientWrites⟩)

theorem hosting_of_executes {w : World} {es : Trace} {c : ServerThreads}
    (h : ServerExecutes LeavesClientOpen (serverStart w) es c) :
    Threads.Monitored clientMonitor none (clientMonitor.followAll (startHosting w) es) c ∧
      Housed (clientMonitor.followAll (startHosting w) es) c.state := by
  refine Threads.Executes.monitored_where housed_handle hosts_procedureBody ?_ ?_ ?_ h
  · intro o x t ht
    rw [eq_of_spawn ht]
    exact ⟨rfl, fun _ _ _ => trivial⟩
  -- at the start there is the main thread only, and it has no client
  · refine ⟨fun i t ht => ?_, fun i hi => ?_⟩
    · cases i with
      | zero =>
          cases ht
          exact hosts_openServerSocket ⟨w.globals, w.clientWrites, rfl⟩
      | succ i => cases ht
    · have hpos : 1 ≤ i := hi
      exact Function.update_of_ne (by omega) _ _
  · refine ⟨⟨none, rfl⟩, fun i hi => ?_⟩
    exact Function.update_of_ne (by omega) _ _

/-- What the monitor allows goes on with the uses in an orderly way. -/
theorem orderly_clientUse {uses : List (HandleUse Int)} {o : Request} {x : Answer o}
    (h : Orderly none uses)
    (hallowed : ∀ u ∈ o.clientUse? x, u.Fits (handleAfter none uses)) :
    Orderly none (uses ++ (o.clientUse? x).toList) ∧
      o.clientAfter x (handleAfter none uses) =
        handleAfter none (uses ++ (o.clientUse? x).toList) := by
  unfold Request.clientAfter
  rw [orderly_append, handleAfter_append]
  cases huse : o.clientUse? x with
  | none => exact ⟨⟨h, trivial⟩, rfl⟩
  | some u => exact ⟨⟨h, hallowed u huse, trivial⟩, rfl⟩

/-- In such an execution the descriptors are used in an orderly way, and the one in hand is
the main thread's. -/
theorem orderly_of_executes {w : World} {es : Trace} {c : ServerThreads}
    (h : ServerExecutes LeavesClientOpen (serverStart w) es c) :
    Orderly none (clientUses es) ∧
      ∀ hosting, clientMonitor.followAll (startHosting w) es 0 = some hosting →
        hosting.client = handleAfter none (clientUses es) := by
  induction h with
  | refl =>
      refine ⟨trivial, fun hosting hmain => ?_⟩
      cases hmain
      rfl
  | @step es c c' i hbefore hP hstep ih =>
      obtain ⟨horderly, hclient⟩ := ih
      obtain ⟨hmonitored, hhoused⟩ := hosting_of_executes hbefore
      rcases Threads.step_cases hstep with ⟨o, k, l, x, w', hthread, hx, _⟩ | ⟨p, k, l, hthread, _⟩
      · have hallowed := hmonitored.allows (Threads.next_of_perform hthread)
        rw [Threads.performed_of_perform hthread hx, Option.toList_some,
          clientUses_append_singleton, Monitor.followAll_append_singleton]
        show Orderly none (_ ++ (o.clientUse? x).toList) ∧ _
        by_cases hi : i = 0
        · subst hi
          obtain ⟨client, hmain⟩ := hhoused.main
          have hheld : client = handleAfter none (clientUses es) := hclient _ hmain
          rw [hmain, hheld] at hallowed
          obtain ⟨horderly', hafter⟩ := orderly_clientUse horderly (hallowed x)
          refine ⟨horderly', fun hosting hnext => ?_⟩
          rw [Function.update_self, hmain, hheld] at hnext
          cases hnext
          exact hafter
        · -- another thread does nothing with a descriptor
          rw [hhoused.others i (by omega)] at hallowed
          rw [(kept_of_serves_none hallowed x).1, Option.toList_none, List.append_nil,
            Function.update_of_ne (Ne.symm hi)]
          exact ⟨horderly, hclient⟩
      · rw [Threads.performed_of_call hthread, Option.toList_none, List.append_nil]
        exact ⟨horderly, hclient⟩

/-- In every interleaving, for any clients, messages and drive: as long as no message comes
to `INVALID_INPUT` in a write that succeeds, and the descriptors fit, each descriptor that
`accept` returns is closed once before the next `accept`, and it is not read, written or
closed again after that. -/
theorem clients_closed_once {w : World} {es : Trace} {c : ServerThreads}
    (h : ServerExecutes LeavesClientOpen (serverStart w) es c) :
    HandlesInTurn (clientUses es) :=
  (orderly_of_executes h).1.handlesInTurn

/-- A test for steps that leave the client open: of the messages it passes `connect`. -/
def leavesClientOpen (c : ServerThreads) (i : Nat) : Bool :=
  match c.next i with
  | some (.note (.message input)) =>
      decide (c.state.globals.smdConnected = 0) && startsWith input "connect".toList
  | some .acceptClient => decide (toInt16 c.state.accepts.head = c.state.accepts.head)
  | _ => true

theorem leavesClientOpen_of_test {c : ServerThreads} {i : Nat}
    (h : leavesClientOpen c i = true) : LeavesClientOpen c i := by
  unfold leavesClientOpen at h
  refine ⟨fun input hnext hrefused => ?_, fun hnext => ?_⟩
  · rw [hnext] at h
    obtain ⟨hclosed, hconnect⟩ := Bool.and_eq_true_iff.mp h
    have hzero : c.state.globals.smdConnected = 0 := of_decide_eq_true hclosed
    rcases hrefused.1 with ⟨_, hnot⟩ | ⟨hone, _⟩ | ⟨hone, _⟩
    · exact hnot (startsWith_iff.mp hconnect)
    · omega
    · omega
  · rw [hnext] at h
    exact Or.inl (of_decide_eq_true h)

/-- A client that connects the drive and goes. -/
def World.servesOneClient : World :=
  { World.facing Globals.initial (Stream'.const (Session.answering fun _ => 0)) with
    clientReads := readsOf [connectLine] }

/-- It is read twice and written once, and it is closed before the next one is accepted. -/
theorem clients_closed_once_connect :
    ∃ es c, ServerExecutes LeavesClientOpen (serverStart World.servesOneClient) es c ∧
      clientUses es = [.opened 5, .used 5, .used 5, .used 5, .closed 5, .opened 5] ∧
      HandlesInTurn (clientUses es) := by
  have htraced : ((Threads.tracedWhere server serverSharing leavesClientOpen
      (List.replicate 25 0) (serverStart World.servesOneClient)).map fun r =>
        clientUses r.1) =
      some [.opened 5, .used 5, .used 5, .used 5, .closed 5, .opened 5] := by decide +kernel
  obtain ⟨⟨es, c⟩, hes, huses⟩ := Option.map_eq_some_iff.mp htraced
  have hexecutes := Threads.executes_of_tracedWhere (fun _ _ => leavesClientOpen_of_test) hes
  exact ⟨es, c, hexecutes, huses, clients_closed_once hexecutes⟩

/-- A client that says hello to a server without a connection to the drive. -/
def World.saysHello : World :=
  { World.facing Globals.initial (Stream'.const (Session.answering fun _ => 0)) with
    clientReads := readsOf [.ofLine "hello".toList (by decide)] }

/-- The client is closed once it has been told `INVALID_INPUT`.  The loop reads from the
same descriptor, and closes it again. -/
theorem client_closed_twice :
    ∃ es c, ServerExecutes (fun _ _ => True) (serverStart World.saysHello) es c ∧
      clientUses es =
        [.opened 5, .used 5, .used 5, .closed 5, .used 5, .closed 5, .opened 5] ∧
      ¬ HandlesInTurn (clientUses es) := by
  have htraced : ((Threads.traced server serverSharing (List.replicate 13 0)
      (serverStart World.saysHello)).map fun r => clientUses r.1) =
      some [.opened 5, .used 5, .used 5, .closed 5, .used 5, .closed 5, .opened 5] := by
    decide +kernel
  obtain ⟨⟨es, c⟩, hes, huses⟩ := Option.map_eq_some_iff.mp htraced
  refine ⟨es, c, Threads.executes_of_traced hes, huses, fun h => ?_⟩
  have huses' : clientUses es = [] ++ .opened 5 ::
      ([.used 5, .used 5, .closed 5, .used 5, .closed 5] ++ .opened 5 :: []) := huses
  exact absurd (h.closed_once _ _ _ _ _ huses' (by simp)) (by decide)

end SmdControlServer
