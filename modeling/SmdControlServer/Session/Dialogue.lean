import SmdControlServer.Commands.Recognition
import SmdControlServer.Interaction.Obedience
import SmdControlServer.Manual.Accounted
import SmdControlServer.Motor.Commands
import SmdControlServer.Session.Protocol

/-!
# The dialogue with a client

`dialogueMonitor` follows the main thread with the globals, the client and the conversation
with it.  Where the next message is read the conversation must have come to the mode of the
globals, each message must have been answered as the protocol says, and the address of the
drive must be the one that the client has named.  Most commands leave all of this alone,
and are told about by the code that comes after them; those that do not are gone through one
by one.  Controllers take no part in a conversation.
-/

namespace SmdControlServer

open CString Interaction

/-! ## The monitor -/

/-- What holds of the globals between two messages. -/
structure Globals.Tidy (g : Globals) : Prop where
  flags : g.FlagsAreBits
  connected : g.smdConnected = 1 →
    ∃ ctx, g.smdCommandConnection = some ctx ∧ ctx.session.allocated = true
  closed : g.smdConnected = 0 →
    g.statusWaitingForAssembledMove = 0 ∧ g.statusManualModeEnable = 0
  exclusive : g.statusWaitingForAssembledMove = 1 → g.statusManualModeEnable ≠ 1

/-- What the main thread has to know of a dialogue. -/
structure Dialogue where
  globals : Globals
  client : Option Int
  conversation : Conversation

/-- The workers connect to the address that the client has named. -/
def Dialogue.Addressed (d : Dialogue) : Prop :=
  d.globals.deviceIp = some (deviceIpOf d.conversation.address)

/-- What holds of a dialogue between two messages. -/
structure Dialogue.Settled (d : Dialogue) : Prop where
  tidy : d.globals.Tidy
  mode : clientProtocol.mode d.conversation = d.globals.mode
  conforms : clientProtocol.Conforms d.conversation
  addressed : d.globals.smdConnected = 1 → d.Addressed

namespace Request

/-- The client after a request: `accept` takes the next one. -/
def servedAfter (o : Request) (x : Answer o) (client : Option Int) : Option Int :=
  match o, x with
  | .acceptClient, cl => some (toInt16 cl)
  | _, _ => client

/-- The conversation after a request.  It begins anew with each client. -/
def conversationAfter : Request → Conversation → Conversation
  | .note (.message input), conversation => ⟨input, []⟩ :: conversation
  | .writeClient _ line, conversation => tellLine line conversation
  | .acceptClient, _ => []
  | _, conversation => conversation

end Request

/-- The monitor of a dialogue; the controllers have none. -/
def dialogueMonitor : Monitor serverSignature (Option Dialogue) where
  allows
    | none, o => o.Serves none
    | some d, .readClient cl => d.Settled ∧ d.client = some cl
    | some d, .writeClient cl _ => d.client = some cl ∧ d.conversation ≠ []
    | some d, .deviceIp => d.Addressed
    | some _, _ => True
  expects
    | none, _, _ => True
    | some d, o, x => mainMonitor.expects d.globals o x
  next
    | none, _, _ => none
    | some d, o, x => some {
        globals := mainMonitor.next d.globals o x
        client := o.servedAfter x d.client
        conversation := o.conversationAfter d.conversation }
  pre
    | .serverLoop cl, q => ∃ d, q = some d ∧ d.Settled ∧ d.client = some cl
    | .manualModeLoop _, q => q = none
    | _, q => ∀ d, q = some d → d.Addressed
  post
    | .smdHoldMove, q, _, q' => q' = q
    | .smdImmedStop, q, _, q' => q' = q
    | _, _, _, _ => True

section

variable {g : Globals} {client : Option Int} {conversation : Conversation} {q : Option Dialogue}
  {α β : Type}

/-- The monitor of the main thread. -/
abbrev talking (g : Globals) (client : Option Int) (conversation : Conversation) :
    Option Dialogue :=
  some ⟨g, client, conversation⟩

/-! ## The rules -/

theorem dialogue_bind {p : Server α} {f : α → Server β} {post : β → Option Dialogue → Prop}
    (h : p.Safe dialogueMonitor (fun a q' => (f a).Safe dialogueMonitor post q') q) :
    (p >>= f).Safe dialogueMonitor post q :=
  Program.Safe.bind h

theorem dialogue_abort {fault : Fault} {post : α → Option Dialogue → Prop} :
    (abort fault : Server α).Safe dialogueMonitor post (talking g client conversation) :=
  ⟨trivial, fun x => x.elim⟩

/-- A request that has nothing to do with the client, the globals or the address. -/
def Request.Aside : Request → Prop
  | .deviceIp => False
  | o => o.Serves none

theorem dialogue_ask {o : Request} {k : Answer o → Server β} {post : β → Option Dialogue → Prop}
    (ho : o.Aside) (hk : ∀ x, (k x).Safe dialogueMonitor post (talking g client conversation)) :
    (ask o >>= k).Safe dialogueMonitor post (talking g client conversation) := by
  cases o with
  | assign a => exact absurd rfl ho
  | writeClient cl line => cases ho
  | note n =>
      cases n with
      | message input => exact ho.elim
      | _ => exact ⟨trivial, fun x _ => hk x⟩
  | _ => first | exact ho.elim | exact ⟨trivial, fun x _ => hk x⟩

theorem dialogue_getGlobals {f : Globals → Server β} {post : β → Option Dialogue → Prop}
    (h : (f g).Safe dialogueMonitor post (talking g client conversation)) :
    (getGlobals >>= f).Safe dialogueMonitor post (talking g client conversation) := by
  refine ⟨trivial, fun x hx => ?_⟩
  obtain rfl : x = g := hx
  exact h

theorem dialogue_assign {a : Assignment} {f : Unit → Server β} {post : β → Option Dialogue → Prop}
    (h : (f ()).Safe dialogueMonitor post (talking (g.assign a) client conversation)) :
    (assign a >>= f).Safe dialogueMonitor post (talking g client conversation) :=
  ⟨trivial, fun _ _ => h⟩

/-! ## Code that leaves the dialogue alone -/

/-- The same flags and the same drive. -/
structure Globals.SameDrive (g g' : Globals) : Prop where
  flags : g.SameFlags g'
  deviceIp : g'.deviceIp = g.deviceIp

theorem Globals.SameDrive.refl (g : Globals) : g.SameDrive g := ⟨⟨rfl, rfl, rfl, rfl⟩, rfl⟩

theorem Globals.SameFlags.trans {g₁ g₂ g₃ : Globals} (h : g₁.SameFlags g₂)
    (h' : g₂.SameFlags g₃) : g₁.SameFlags g₃ where
  smdConnected := h'.smdConnected.trans h.smdConnected
  smdCommandConnection := h'.smdCommandConnection.trans h.smdCommandConnection
  statusWaitingForAssembledMove :=
    h'.statusWaitingForAssembledMove.trans h.statusWaitingForAssembledMove
  statusManualModeEnable := h'.statusManualModeEnable.trans h.statusManualModeEnable

theorem Globals.SameDrive.trans {g₁ g₂ g₃ : Globals} (h : g₁.SameDrive g₂)
    (h' : g₂.SameDrive g₃) : g₁.SameDrive g₃ :=
  ⟨h.flags.trans h'.flags, h'.deviceIp.trans h.deviceIp⟩

theorem Globals.SameDrive.tidy {g' : Globals} (h : g.SameDrive g') (hg : g.Tidy) : g'.Tidy := by
  obtain ⟨⟨hconnected, hconnection, hwaiting, hmanual⟩, _⟩ := h
  obtain ⟨⟨hbit, hbit', hbit''⟩, hopen, hclosed, hexclusive⟩ := hg
  refine ⟨⟨?_, ?_, ?_⟩, ?_, ?_, ?_⟩
  · rwa [hconnected]
  · rwa [hwaiting]
  · rwa [hmanual]
  · rwa [hconnected, hconnection]
  · rwa [hconnected, hwaiting, hmanual]
  · rwa [hwaiting, hmanual]

theorem Globals.SameDrive.mode {g' : Globals} (h : g.SameDrive g') : g'.mode = g.mode := by
  unfold Globals.mode
  rw [h.flags.smdConnected, h.flags.statusWaitingForAssembledMove,
    h.flags.statusManualModeEnable]

/-- Code that talks to the drive, and to no client in particular. -/
structure Apart (p : Server α) : Prop where
  within : Within Rights.keepingFlags p
  serves : ∀ cl, Serves (some cl) p

/-- No line is for two clients. -/
theorem not_two_clients {cl : Int} (hzero : some 0 = some cl) (hone : some 1 = some cl) :
    False := by
  obtain rfl : 0 = cl := Option.some.inj hzero
  cases hone

/-- Such a request changes nothing but the type of the assembled move. -/
theorem apart_request {o : Request} (hwithin : Rights.keepingFlags.policy.allows o)
    (hzero : o.Serves (some 0)) (hone : o.Serves (some 1)) (x : Answer o) :
    (∀ g : Globals, g.SameDrive (mainMonitor.next g o x)) ∧
      (∀ client, o.servedAfter x client = client) ∧
        ∀ conversation, o.conversationAfter conversation = conversation := by
  have hrefl : ∀ g : Globals, g.SameDrive g := .refl
  cases o with
  | assign a =>
      obtain ⟨moveType, rfl⟩ := hwithin
      exact ⟨fun _ => ⟨⟨rfl, rfl, rfl, rfl⟩, rfl⟩, fun _ => rfl, fun _ => rfl⟩
  | writeClient cl line => exact (not_two_clients hzero hone).elim
  | acceptClient => exact hzero.elim
  | note n =>
      cases n with
      | message input => exact hzero.elim
      | _ => exact ⟨hrefl, fun _ => rfl, fun _ => rfl⟩
  | _ => exact ⟨hrefl, fun _ => rfl, fun _ => rfl⟩

/-- Such code leaves the dialogue as it is. -/
theorem dialogue_of_apart {p : Server α} (hp : Apart p)
    (haddressed : Dialogue.Addressed ⟨g, client, conversation⟩) :
    p.Safe dialogueMonitor (fun _ q' => ∃ g', q' = talking g' client conversation ∧
      g.SameDrive g') (talking g client conversation) := by
  have hobeys := hp.within.and ((hp.serves 0).and (hp.serves 1))
  refine Program.Obeys.safe ?_ ?_ hobeys ⟨g, rfl, .refl g⟩
  · rintro o ⟨hwithin, hzero, hone⟩ q ⟨g', rfl, hsame⟩
    have haddressed' : Dialogue.Addressed ⟨g', client, conversation⟩ :=
      hsame.deviceIp.trans haddressed
    refine ⟨?_, fun x hx => ⟨⟨?_, trivial, trivial⟩, ?_⟩⟩
    · cases o with
      | deviceIp => exact haddressed'
      | readClient cl => exact hzero.elim
      | writeClient cl line => exact (not_two_clients hzero hone).elim
      | _ => trivial
    · cases o with
      | writeClient cl line => exact fun _ _ => trivial
      | modbusErrno ctx => exact hx
      | _ => trivial
    · obtain ⟨hnext, hclient, hconversation⟩ := apart_request hwithin hzero hone x
      refine ⟨mainMonitor.next g' o x, ?_, hsame.trans (hnext g')⟩
      show some (Dialogue.mk _ _ _) = _
      rw [hclient, hconversation]
  · rintro p ⟨hstop, _⟩ q ⟨g', rfl, hsame⟩
    have haddressed' : Dialogue.Addressed ⟨g', client, conversation⟩ :=
      hsame.deviceIp.trans haddressed
    rcases hstop with rfl | rfl
    · exact ⟨fun d hd => Option.some.inj hd ▸ haddressed', fun _ _ hq => ⟨g', hq, hsame⟩⟩
    · exact ⟨fun d hd => Option.some.inj hd ▸ haddressed', fun _ _ hq => ⟨g', hq, hsame⟩⟩

theorem dialogue_bind_of_apart {p : Server α} {f : α → Server β}
    {post : β → Option Dialogue → Prop} (hp : Apart p)
    (haddressed : Dialogue.Addressed ⟨g, client, conversation⟩)
    (hf : ∀ a g', g.SameDrive g' →
      (f a).Safe dialogueMonitor post (talking g' client conversation)) :
    (p >>= f).Safe dialogueMonitor post (talking g client conversation) := by
  refine dialogue_bind ((dialogue_of_apart hp haddressed).mono fun a q' hq' => ?_)
  obtain ⟨g', rfl, hsame⟩ := hq'
  exact hf a g' hsame

end

end SmdControlServer
