import SmdControlServer.Session.Replies

/-!
# Answers and turns

The line for the response code closes the exchange, and the dialogue is settled again when
the next message is read.  With the next client it begins anew, disconnected.  So the
procedures of the server are safe for `dialogueMonitor`.
-/

namespace SmdControlServer

open CString Interaction

/-- The postcondition of a message and of a turn. -/
abbrev SettledWith (cl : Int) (q : Option Dialogue) : Prop :=
  ∃ d, q = some d ∧ d.Settled ∧ d.client = some cl

section

variable {g : Globals} {input : Text} {past : Conversation} {cl : Int} {mode : Mode} {β : Type}

/-! ## Answers -/

/-- The line of the response code closes the exchange. -/
theorem settled_answerClient {r : SmdResponseCode} {announced : List Text}
    (hpast : clientProtocol.Conforms past) (hmode : clientProtocol.mode past = mode)
    (h : Dispatched mode input past cl r g announced) :
    (answerClient r cl).Safe dialogueMonitor (fun _ q' => SettledWith cl q')
      (talking g (some cl) (⟨input, announced⟩ :: past)) := by
  have hsettled : Dialogue.Settled ⟨g.answered r, some cl,
      ⟨input, announced ++ (responseLine r).toList⟩ :: past⟩ := by
    refine ⟨h.tidy, ?_, ⟨?_, hpast⟩, ?_⟩
    · show Mode.after (clientProtocol.mode past) _ = _
      rw [hmode]
      exact h.mode
    · show Mode.Replies (clientProtocol.mode past) _ _
      rw [hmode]
      exact ⟨r, h.code, announced, h.announces, rfl⟩
    · unfold Globals.answered
      split
      · exact fun hone => h.addressed hone
      · exact fun hone => h.addressed hone
  have htell : (tellResponse r cl).Safe dialogueMonitor (fun _ q' => SettledWith cl q')
      (talking (g.answered r) (some cl) (⟨input, announced⟩ :: past)) := by
    unfold tellResponse
    cases hline : responseLine r with
    | none =>
        rw [hline, Option.toList_none, List.append_nil] at hsettled
        exact ⟨_, rfl, hsettled, rfl⟩
    | some line =>
        rw [hline] at hsettled
        refine dialogue_writeToClient fun written => Program.Safe.ite (fun _ => ?_) fun _ => ?_
        · exact ⟨trivial, fun _ _ => ⟨_, rfl, hsettled, rfl⟩⟩
        · exact ⟨_, rfl, hsettled, rfl⟩
  rw [answerClient_eq]
  unfold Globals.answered at htell
  split
  · rename_i hready
    rw [if_pos hready] at htell
    exact dialogue_assign htell
  · rename_i hready
    rwa [if_neg hready] at htell

theorem settled_parseSmdResponseToClientInput
    (hsettled : Dialogue.Settled ⟨g, some cl, past⟩) :
    (parseSmdResponseToClientInput input cl).Safe dialogueMonitor
      (fun _ q' => SettledWith cl q') (talking g (some cl) past) := by
  refine ⟨trivial, fun _ _ => ?_⟩
  change Program.Safe dialogueMonitor (getGlobals >>= fun g => dispatchIn g input cl >>= fun r =>
    answerClient r cl) _ (hearing g cl input past)
  refine dialogue_getGlobals (dialogue_bind ((dispatched_dispatchIn hsettled).mono ?_))
  rintro r _ ⟨g', announced, rfl, h⟩
  exact settled_answerClient hsettled.conforms hsettled.mode h

/-! ## Turns -/

/-- Without a connection a dialogue can begin. -/
theorem settled_start (hg : g.Tidy) (hclosed : g.smdConnected = 0) (client : Option Int) :
    Dialogue.Settled ⟨g, client, []⟩ where
  tidy := hg
  mode := (hg.mode_eq_disconnected_iff.mpr hclosed).symm
  conforms := trivial
  addressed hone := by
    have hone' : g.smdConnected = 1 := hone
    omega

/-- The next client is served from the start of the protocol on. -/
theorem settled_accept {client : Option Int} {conversation : Conversation}
    {k : Int → Server β} {post : β → Option Dialogue → Prop} (hg : g.Tidy)
    (hclosed : g.smdConnected = 0)
    (hk : ∀ cl, SettledWith cl (talking g (some cl) []) →
      (k cl).Safe dialogueMonitor post (talking g (some cl) [])) :
    Program.Safe dialogueMonitor (do
      let cl := toInt16 (← acceptClient)
      if cl = -1 then
        abort .exited
      else
        k cl) post (talking g client conversation) := by
  refine ⟨trivial, fun accepted _ => Program.Safe.ite (fun _ => dialogue_abort) fun _ => ?_⟩
  exact hk (toInt16 accepted) ⟨_, rfl, settled_start hg hclosed _, rfl⟩

theorem settled_serveNextClient (hg : g.Tidy) :
    (serveNextClient cl).Safe dialogueMonitor (fun cl' q' => SettledWith cl' q')
      (talking g (some cl) past) := by
  unfold serveNextClient
  refine ⟨trivial, fun _ _ => ?_⟩
  change Program.Safe dialogueMonitor (smdCloseCommandConnection >>= _) _
    (talking g (some cl) past)
  refine dialogue_bind ((dialogue_smdCloseCommandConnection hg).mono ?_)
  rintro _ _ ⟨g', rfl, htidy, hzero⟩
  refine dialogue_ask trivial fun _ => ?_
  exact settled_accept htidy hzero fun _ hsettled => hsettled

theorem settled_serverIteration {q : Option Dialogue} (hq : SettledWith cl q) :
    (serverIteration cl).Safe dialogueMonitor (fun cl' q' => SettledWith cl' q') q := by
  obtain ⟨⟨g, client, past⟩, rfl, hsettled, hclient⟩ := hq
  obtain rfl : client = some cl := hclient
  have hmessage : ∀ text : Text, (parseSmdResponseToClientInput text cl >>= fun _ =>
      (pure cl : Server Int)).Safe dialogueMonitor (fun cl' q' => SettledWith cl' q')
        (talking g (some cl) past) :=
    fun text => dialogue_bind (settled_parseSmdResponseToClientInput hsettled)
  refine ⟨⟨hsettled, rfl⟩, fun outcome _ => ?_⟩
  cases outcome with
  | received chunk =>
      refine Program.Safe.ite (fun _ => hmessage _) fun _ => ?_
      exact dialogue_ask trivial fun stack => hmessage _
  | endOfFile => exact settled_serveNextClient hsettled.tidy
  | failed e => exact settled_serveNextClient hsettled.tidy

theorem settled_openServerSocket {client : Option Int} {conversation : Conversation}
    (hg : g.Tidy) (hclosed : g.smdConnected = 0) :
    openServerSocket.Safe dialogueMonitor (fun _ _ => True) (talking g client conversation) := by
  refine settled_accept (k := fun cl => invoke (.serverLoop cl)) hg hclosed fun cl hsettled => ?_
  exact ⟨hsettled, fun _ _ _ => trivial⟩

end

/-! ## The procedures -/

theorem dialogueMonitor_of_serves_none {o : Request} (ho : o.Serves none) {q : Option Dialogue}
    (hq : ∀ d, q = some d → d.Addressed) :
    dialogueMonitor.allows q o ∧ ∀ x, dialogueMonitor.next q o x = q := by
  cases q with
  | none => exact ⟨ho, fun _ => rfl⟩
  | some d =>
      cases o with
      | deviceIp => exact ⟨hq d rfl, fun _ => rfl⟩
      | assign a => exact absurd rfl ho
      | writeClient cl line => cases ho
      | readClient cl => exact ho.elim
      | acceptClient => exact ho.elim
      | note n =>
          cases n with
          | message input => exact ho.elim
          | _ => exact ⟨trivial, fun _ => rfl⟩
      | _ => exact ⟨trivial, fun _ => rfl⟩

/-- Code without a client, of a controller or of a stop that is sent again. -/
theorem dialogue_of_serves_none {α : Type} {p : Server α} (hp : Serves none p)
    {q : Option Dialogue} (hq : ∀ d, q = some d → d.Addressed) :
    p.Safe dialogueMonitor (fun _ q' => q' = q) q := by
  refine Program.Obeys.safe ?_ ?_ hp rfl
  · rintro o ho q' rfl
    obtain ⟨hallowed, hnext⟩ := dialogueMonitor_of_serves_none ho hq
    exact ⟨hallowed, fun x _ => ⟨trivial, hnext x⟩⟩
  · rintro p (rfl | rfl) q' rfl
    · exact ⟨hq, fun _ _ h => h⟩
    · exact ⟨hq, fun _ _ h => h⟩

theorem dialogue_procedureBody (p : Procedure) (q : Option Dialogue)
    (hp : dialogueMonitor.pre p q) :
    (procedureBody p).Safe dialogueMonitor (dialogueMonitor.post p q) q := by
  cases p with
  | smdHoldMove => exact dialogue_of_serves_none serves_smdHoldMove hp
  | smdImmedStop => exact dialogue_of_serves_none (serves_sendModbusCommand _) hp
  | manualModeLoop locals =>
      obtain rfl : q = none := hp
      refine ⟨trivial, fun g _ => Program.Safe.ite (fun _ => dialogue_bind ?_) fun _ => trivial⟩
      have hnone : ∀ d, (none : Option Dialogue) = some d → d.Addressed := fun d hd => by cases hd
      refine (dialogue_of_serves_none (serves_manualModeIteration locals) hnone).mono ?_
      rintro _ _ rfl
      exact ⟨trivial, fun _ _ => ⟨rfl, fun _ _ _ => trivial⟩⟩
  | serverLoop cl =>
      refine dialogue_bind ((settled_serverIteration hp).mono fun cl' q' hq' => ?_)
      exact ⟨hq', fun _ _ _ => trivial⟩

end SmdControlServer
