import SmdControlServer.Session.Executions

/-!
# Whom a line is for

The server writes to the number that `accept` has returned last.  That is a descriptor of the
client until it is closed.  The loop closes it when the client is gone, and takes the next
client before anything is written.  After `INVALID_INPUT` it is closed as well, and the loop
goes on with the number, which something else may have by then.

* `told_client` — only the main thread writes to a client, to the number that was accepted
  last and after a message that was read from it, and the descriptor has not been closed
  unless a message of the conversation was answered `INVALID_INPUT`.
-/

namespace SmdControlServer

open CString Interaction

/-! ## Closed descriptors -/

/-- Whether the descriptor of the client is closed after a request. -/
def Request.closedAfter : Request → Bool → Bool
  | .closeClient _, _ => true
  | .acceptClient, _ => false
  | _, closed => closed

/-- Whether any thread has closed the descriptor since the last `accept`. -/
def closedOf (es : Trace) : Bool :=
  es.foldl (fun closed e => e.request.closedAfter closed) false

theorem closedOf_append_singleton (es : Trace) (e : Entry serverSignature) :
    closedOf (es ++ [e]) = e.request.closedAfter (closedOf es) := by
  unfold closedOf
  rw [List.foldl_append, List.foldl_cons, List.foldl_nil]

/-- A message of the conversation was answered `INVALID_INPUT`. -/
def Conversation.Refused (conversation : Conversation) : Prop :=
  ∃ e ∈ conversation, "INVALID_INPUT\n".toList ∈ e.told

theorem Conversation.Refused.tellLine {conversation : Conversation} (h : conversation.Refused)
    (line : Text) : Refused (tellLine line conversation) := by
  obtain ⟨e, hmem, htold⟩ := h
  cases conversation with
  | nil => cases hmem
  | cons latest past =>
      rcases List.mem_cons.mp hmem with rfl | hpast
      · exact ⟨_, List.mem_cons_self, List.mem_append_left _ htold⟩
      · exact ⟨e, List.mem_cons_of_mem _ hpast, htold⟩

/-- What the main thread has done with its client. -/
structure Closing where
  closed : Bool
  conversation : Conversation

/-- The client is not written to any more, or it has been refused. -/
def Closing.Sound (s : Closing) : Prop :=
  s.closed = true → s.conversation.Refused

def Closing.after (s : Closing) (o : Request) : Closing where
  closed := o.closedAfter s.closed
  conversation := o.conversationAfter s.conversation

/-- The monitor of the descriptor's end; the controllers have no client. -/
def closingMonitor : Monitor serverSignature (Option Closing) where
  allows
    | none, o => o.Serves none
    | some s, .writeClient _ _ => s.Sound
    | some _, _ => True
  expects _ _ _ := True
  next q o _ := q.map fun s => s.after o
  pre
    | .serverLoop _, q => ∃ s, q = some s ∧ s.Sound
    | .manualModeLoop _, q => q = none
    | _, _ => True
  post
    | .smdHoldMove, q, _, q' => q' = q
    | .smdImmedStop, q, _, q' => q' = q
    | _, _, _, _ => True

/-- The main thread may go on to write. -/
abbrev SoundAfter (q : Option Closing) : Prop :=
  ∃ s, q = some s ∧ s.Sound

section

variable {s : Closing} {cl : Int} {q : Option Closing} {α β : Type}

/-- A request without a client is none of a client's. -/
theorem Closing.after_of_serves_none {o : Request} (ho : o.Serves none) (s : Closing) :
    s.after o = s := by
  cases o with
  | writeClient cl line => cases ho
  | closeClient cl => exact ho.elim
  | acceptClient => exact ho.elim
  | note n =>
      cases n with
      | message input => exact ho.elim
      | _ => rfl
  | _ => rfl

theorem closing_of_serves_none {p : Server α} (hp : Serves none p) (q : Option Closing) :
    p.Safe closingMonitor (fun _ q' => q' = q) q := by
  refine Program.Obeys.safe ?_ ?_ hp rfl
  · rintro o ho q' rfl
    cases q' with
    | none => exact ⟨ho, fun _ _ => ⟨trivial, rfl⟩⟩
    | some s =>
        refine ⟨?_, fun _ _ => ⟨trivial, congrArg some (s.after_of_serves_none ho)⟩⟩
        cases o with
        | writeClient cl line => cases ho
        | _ => trivial
  · rintro p (rfl | rfl) q' rfl
    · exact ⟨trivial, fun _ _ h => h⟩
    · exact ⟨trivial, fun _ _ h => h⟩

/-- Code that serves a client does not close it, and what it is told is not taken back. -/
theorem closing_of_serves {p : Server α} (hp : Serves (some cl) p) (hs : s.Sound) :
    p.Safe closingMonitor (fun _ q' => SoundAfter q') (some s) := by
  refine Program.Obeys.safe ?_ ?_ hp ⟨s, rfl, hs⟩
  · rintro o ho q ⟨s', rfl, hs'⟩
    cases o with
    | writeClient cl' line =>
        exact ⟨hs', fun _ _ => ⟨trivial, _, rfl, fun hclosed => (hs' hclosed).tellLine line⟩⟩
    | closeClient cl => exact ho.elim
    | acceptClient => exact ho.elim
    | note n =>
        cases n with
        | message input => exact ho.elim
        | _ => exact ⟨trivial, fun _ _ => ⟨trivial, _, rfl, hs'⟩⟩
    | _ => exact ⟨trivial, fun _ _ => ⟨trivial, _, rfl, hs'⟩⟩
  · rintro p (rfl | rfl) q hq
    · exact ⟨trivial, fun _ _ h => h ▸ hq⟩
    · exact ⟨trivial, fun _ _ h => h ▸ hq⟩

/-- Code for any client does not write to one. -/
theorem closing_of_silent {p : Server α} (hp : ∀ cl, Serves (some cl) p) (s : Closing) :
    p.Safe closingMonitor (fun _ q' => q' = some s) (some s) := by
  refine Program.Obeys.safe ?_ ?_ ((hp 0).and (hp 1)) rfl
  · rintro o ⟨hzero, hone⟩ q rfl
    cases o with
    | writeClient cl line => exact (not_two_clients hzero hone).elim
    | closeClient cl => exact hzero.elim
    | acceptClient => exact hzero.elim
    | note n =>
        cases n with
        | message input => exact hzero.elim
        | _ => exact ⟨trivial, fun _ _ => ⟨⟨trivial, trivial⟩, rfl⟩⟩
    | _ => exact ⟨trivial, fun _ _ => ⟨⟨trivial, trivial⟩, rfl⟩⟩
  · rintro p ⟨rfl | rfl, _⟩ q rfl
    · exact ⟨trivial, fun _ _ h => h⟩
    · exact ⟨trivial, fun _ _ h => h⟩

/-! ## Messages and turns -/

/-- `INVALID_INPUT` is told before the descriptor is closed. -/
theorem closing_answerInvalidInput {input : Text} {told : List Text} {past : Conversation}
    {closed : Bool} (hs : Closing.Sound ⟨closed, ⟨input, told⟩ :: past⟩) :
    (answerClient .invalidInput cl).Safe closingMonitor (fun _ q' => SoundAfter q')
      (some ⟨closed, ⟨input, told⟩ :: past⟩) := by
  have hrefused : Conversation.Refused
      (⟨input, told ++ ["INVALID_INPUT\n".toList]⟩ :: past) :=
    ⟨_, List.mem_cons_self, List.mem_append_right _ List.mem_cons_self⟩
  refine ⟨hs, fun failed _ => ?_⟩
  cases failed with
  | none => exact ⟨trivial, fun _ _ => ⟨_, rfl, fun _ => hrefused⟩⟩
  | some e => exact ⟨trivial, fun _ _ => ⟨_, rfl, fun _ => hrefused⟩⟩

theorem closing_parseSmdResponseToClientInput {input : Text} (hs : s.Sound) :
    (parseSmdResponseToClientInput input cl).Safe closingMonitor (fun _ q' => SoundAfter q')
      (some s) := by
  have hheard : Closing.Sound ⟨s.closed, ⟨input, []⟩ :: s.conversation⟩ := fun hclosed => by
    obtain ⟨e, hmem, htold⟩ := hs hclosed
    exact ⟨e, List.mem_cons_of_mem _ hmem, htold⟩
  refine ⟨trivial, fun _ _ => ?_⟩
  change Program.Safe closingMonitor (getGlobals >>= fun g => dispatchIn g input cl >>= fun r =>
    answerClient r cl) _ (some ⟨s.closed, ⟨input, []⟩ :: s.conversation⟩)
  refine ⟨trivial, fun g _ => ?_⟩
  change Program.Safe closingMonitor (dispatchIn g input cl >>= fun r => answerClient r cl) _
    (some ⟨s.closed, ⟨input, []⟩ :: s.conversation⟩)
  by_cases hinput : g.Unrecognised input
  · rw [dispatchIn_of_unrecognised hinput]
    exact closing_answerInvalidInput hheard
  · obtain ⟨hserves, hcode⟩ : Attends cl (dispatchIn g input cl) := attends_dispatchIn hinput
    refine Program.Safe.bind (((closing_of_serves hserves hheard).and_returns hcode).mono ?_)
    rintro r _ ⟨⟨s', rfl, hs'⟩, hr⟩
    exact closing_of_serves (serves_answerClient hr) hs'

/-- The next client is another one. -/
theorem closing_accept {k : Int → Server β} {post : β → Option Closing → Prop}
    (hk : ∀ cl q, SoundAfter q → (k cl).Safe closingMonitor post q) (s : Closing) :
    Program.Safe closingMonitor (do
      let cl := toInt16 (← acceptClient)
      if cl = -1 then
        abort .exited
      else
        k cl) post (some s) := by
  refine ⟨trivial, fun accepted _ => Program.Safe.ite (fun _ => ?_) fun _ => ?_⟩
  · exact ⟨trivial, fun x => x.elim⟩
  · exact hk _ _ ⟨_, rfl, fun hclosed => Bool.noConfusion hclosed⟩

/-- Nothing is written between the end of a client and the next one. -/
theorem closing_serveNextClient (s : Closing) :
    (serveNextClient cl).Safe closingMonitor (fun _ q' => SoundAfter q') (some s) := by
  refine ⟨trivial, fun _ _ => ?_⟩
  refine Program.Safe.bind (p := smdCloseCommandConnection)
    ((closing_of_silent (fun _ => serves_smdCloseCommandConnection) _).mono ?_)
  rintro _ _ rfl
  exact ⟨trivial, fun _ _ => closing_accept (k := pure) (fun _ _ hq => hq) _⟩

theorem closing_serverIteration (hs : s.Sound) :
    (serverIteration cl).Safe closingMonitor (fun _ q' => SoundAfter q') (some s) := by
  have hmessage : ∀ text : Text,
      (parseSmdResponseToClientInput text cl >>= fun _ => (pure cl : Server Int)).Safe
        closingMonitor (fun _ q' => SoundAfter q') (some s) :=
    fun text => Program.Safe.bind
      ((closing_parseSmdResponseToClientInput hs).mono fun _ _ hq => hq)
  refine ⟨trivial, fun outcome _ => ?_⟩
  cases outcome with
  | received chunk =>
      refine Program.Safe.ite (fun _ => hmessage _) fun _ => ?_
      exact ⟨trivial, fun stack _ => hmessage _⟩
  | endOfFile => exact closing_serveNextClient s
  | failed e => exact closing_serveNextClient s

theorem closing_procedureBody (p : Procedure) (q : Option Closing)
    (hp : closingMonitor.pre p q) :
    (procedureBody p).Safe closingMonitor (closingMonitor.post p q) q := by
  cases p with
  | smdHoldMove => exact closing_of_serves_none (serves_body _ (Or.inl rfl)) q
  | smdImmedStop => exact closing_of_serves_none (serves_body _ (Or.inr rfl)) q
  | manualModeLoop locals =>
      obtain rfl : q = none := hp
      refine ⟨trivial, fun g _ => Program.Safe.ite (fun _ => Program.Safe.bind ?_) fun _ => trivial⟩
      refine (closing_of_serves_none (serves_manualModeIteration locals) none).mono ?_
      rintro _ _ rfl
      exact ⟨trivial, fun _ _ => ⟨rfl, fun _ _ _ => trivial⟩⟩
  | serverLoop cl =>
      obtain ⟨s, rfl, hs⟩ := hp
      refine Program.Safe.bind ((closing_serverIteration hs).mono fun cl' q' hq' => ?_)
      exact ⟨hq', fun _ _ _ => trivial⟩

end

/-! ## Executions -/

section

variable {P : ServerThreads → Nat → Prop} {w : World} {es : Trace} {c : ServerThreads}

/-- The main thread before its first `accept`. -/
def startClosing : Nat → Option Closing :=
  Function.update (fun _ => none) 0 (some ⟨false, []⟩)

theorem closing_of_executes (h : ServerExecutes P (serverStart w) es c) :
    Threads.Monitored closingMonitor none (closingMonitor.followAll startClosing es) c ∧
      ∀ i, 0 < i → closingMonitor.followAll startClosing es i = none := by
  refine Threads.Executes.monitored (R := fun q _ => ∀ i, 0 < i → q i = none) ?_
    closing_procedureBody ?_ ?_ ?_ h
  · intro q w i o l x w' hq _ _
    refine ⟨trivial, fun j hj => ?_⟩
    by_cases hij : j = i
    · subst hij
      rw [Function.update_self, hq j hj]
      rfl
    · rw [Function.update_of_ne hij]
      exact hq j hj
  · intro o x t ht
    rw [eq_of_spawn ht]
    exact ⟨rfl, fun _ _ _ => trivial⟩
  · refine ⟨fun i t ht => ?_, fun i hi => ?_⟩
    · cases i with
      | zero =>
          cases ht
          refine closing_accept (k := fun cl => invoke (.serverLoop cl)) ?_ _
          exact fun _ _ hq => ⟨hq, fun _ _ _ => trivial⟩
      | succ i => cases ht
    · have hpos : 1 ≤ i := hi
      exact Function.update_of_ne (by omega) _ _
  · exact fun i hi => Function.update_of_ne (by omega) _ _

/-- What the main thread's monitor knows is the trace's. -/
theorem closing_eq_of_executes (h : ServerExecutes P (serverStart w) es c) :
    closingMonitor.followAll startClosing es 0 = some ⟨closedOf es, conversationOf es⟩ := by
  refine h.induct_requests (motive := fun es _ =>
    closingMonitor.followAll startClosing es 0 = some ⟨closedOf es, conversationOf es⟩) rfl ?_
  rintro es c i o k l x w' hbefore _ hthread _ hmain
  obtain ⟨hmonitored, hothers⟩ := closing_of_executes hbefore
  rw [closedOf_append_singleton, conversationOf_append_singleton,
    Monitor.followAll_append_singleton]
  by_cases hi : i = 0
  · subst hi
    rw [Function.update_self, hmain]
    rfl
  · have hallowed := hmonitored.allows (Threads.next_of_perform hthread)
    rw [hothers i (by omega)] at hallowed
    have hkept := Closing.after_of_serves_none hallowed ⟨closedOf es, conversationOf es⟩
    rw [Function.update_of_ne (Ne.symm hi), hmain]
    exact congrArg some hkept.symm

/-- The main thread writes, to the number that was accepted last, and after a message. -/
theorem served_of_writes (hinitial : w.globals = Globals.initial)
    (h : ServerExecutes P (serverStart w) es c) {i : Nat} {cl : Int} {line : Text}
    (hnext : c.next i = some (.writeClient cl line)) :
    i = 0 ∧ servedClient es = some cl ∧ conversationOf es ≠ [] := by
  obtain ⟨hmonitored, hvoiced⟩ := voiced_of_executes hinitial h
  have hallowed := hmonitored.allows hnext
  by_cases hi : i = 0
  · subst hi
    rw [dialogue_of_executes hinitial h] at hallowed
    exact ⟨rfl, hallowed⟩
  · rw [hvoiced.others i (by omega)] at hallowed
    cases hallowed

/-- In every interleaving: a line is written by the main thread, to the number that was
accepted last, and after a message that was read from it.  If the descriptor has been closed
since it was accepted, the client has been told `INVALID_INPUT`. -/
theorem told_client (hinitial : w.globals = Globals.initial)
    (h : ServerExecutes P (serverStart w) es c) {i : Nat} {cl : Int} {line : Text}
    (hnext : c.next i = some (.writeClient cl line)) :
    i = 0 ∧ servedClient es = some cl ∧ conversationOf es ≠ [] ∧
      (closedOf es = true → (conversationOf es).Refused) := by
  obtain ⟨rfl, hserved, hheard⟩ := served_of_writes hinitial h hnext
  have hallowed := (closing_of_executes h).1.allows hnext
  rw [closing_eq_of_executes h] at hallowed
  exact ⟨rfl, hserved, hheard, hallowed⟩

/-- A test for a main thread that is about to write this line to client 5. -/
def tellsClient (line : Text) (c : ServerThreads) : Bool :=
  match c.next 0 with
  | some (.writeClient cl line') => decide (cl = 5 ∧ line' = line)
  | _ => false

theorem next_of_tellsClient {line : Text} {c : ServerThreads} (h : tellsClient line c = true) :
    c.next 0 = some (.writeClient 5 line) := by
  unfold tellsClient at h
  split at h
  · rename_i cl line' hnext
    obtain ⟨rfl, rfl⟩ := of_decide_eq_true h
    exact hnext
  · cases h

/-- The success of a `connect` is told to the client that has asked for it. -/
theorem told_client_connect :
    ∃ es c, ServerExecutes (fun _ _ => True) (serverStart World.stopsManualMode) es c ∧
      c.next 0 = some (.writeClient 5 "SMD_CONNECT_SUCCESS\n".toList) ∧
        servedClient es = some 5 ∧ conversationOf es ≠ [] ∧
          (closedOf es = true → (conversationOf es).Refused) := by
  have htraced : ((Threads.traced server serverSharing (List.replicate 11 0)
      (serverStart World.stopsManualMode)).map fun r =>
        tellsClient "SMD_CONNECT_SUCCESS\n".toList r.2) = some true := by
    decide +kernel
  obtain ⟨⟨es, c⟩, hes, htest⟩ := Option.map_eq_some_iff.mp htraced
  have hexecutes := Threads.executes_of_traced hes
  have hinitial : World.stopsManualMode.globals = Globals.initial := rfl
  have hnext := next_of_tellsClient htest
  exact ⟨es, c, hexecutes, hnext, (told_client hinitial hexecutes hnext).2⟩

end

end SmdControlServer
