import SmdControlServer.Commands.Footprint
import SmdControlServer.Interaction.Monitor

/-!
# The main thread

Only the main thread assigns globals, so at every point of its code their values are
known, whatever the controllers do.  `mainMonitor` keeps them, and demands that the
flag of the manual mode is cleared where a stop is complete.
-/

namespace SmdControlServer

open CString Interaction

/-- What holds of the globals between two messages. -/
structure Globals.Consistent (g : Globals) : Prop where
  connection : g.smdConnected = 1 →
    ∃ ctx, g.smdCommandConnection = some ctx ∧ ctx.session.allocated = true
  manualMode : g.statusManualModeEnable = 1 → g.smdConnected = 1

theorem Globals.consistent_initial : Globals.initial.Consistent where
  connection := by
    intro h
    cases h
  manualMode := by
    intro h
    cases h

/-- The same connection and the same flag. -/
structure Globals.SameMode (g g' : Globals) : Prop where
  smdConnected : g'.smdConnected = g.smdConnected
  smdCommandConnection : g'.smdCommandConnection = g.smdCommandConnection
  statusManualModeEnable : g'.statusManualModeEnable = g.statusManualModeEnable

theorem Globals.SameMode.refl (g : Globals) : g.SameMode g := ⟨rfl, rfl, rfl⟩

theorem Globals.SameMode.trans {g₁ g₂ g₃ : Globals} (h : g₁.SameMode g₂)
    (h' : g₂.SameMode g₃) : g₁.SameMode g₃ where
  smdConnected := h'.smdConnected.trans h.smdConnected
  smdCommandConnection := h'.smdCommandConnection.trans h.smdCommandConnection
  statusManualModeEnable := h'.statusManualModeEnable.trans h.statusManualModeEnable

theorem Globals.SameMode.consistent {g g' : Globals} (h : g.SameMode g')
    (hg : g.Consistent) : g'.Consistent where
  connection := by
    rw [h.smdConnected, h.smdCommandConnection]
    exact hg.connection
  manualMode := by
    rw [h.statusManualModeEnable, h.smdConnected]
    exact hg.manualMode

/-- The two places at which the manual mode has been stopped. -/
def Note.StopsManualMode : Note → Prop
  | .manualModeStopped => True
  | .clientGone => True
  | _ => False

instance : DecidablePred Note.StopsManualMode := fun n => by
  cases n <;> unfold Note.StopsManualMode <;> infer_instance

/-- The monitor of the main thread; its state are the globals. -/
def mainMonitor : Monitor serverSignature Globals where
  allows g
    | .note n => n.StopsManualMode → g.statusManualModeEnable ≠ 1
    | _ => True
  expects g
    | .globals, x => x = g
    | .modbusConnect ctx, x => x = ctx.session.connects
    | .modbusErrno ctx, e => e = ctx.session.connectErrno
    | _, _ => True
  next g
    | .assign a, _ => g.assign a
    | _, _ => g
  pre
    | .serverLoop _, g => g.Consistent
    | .manualModeLoop _, _ => False
    | _, _ => True
  post
    | .smdHoldMove, g, _, g' => g.SameMode g'
    | .smdImmedStop, g, _, g' => g.SameMode g'
    | _, _, _, _ => True

/-! ## Code that leaves the mode alone -/

/-- The assignment is to no global of the connection or of the manual mode. -/
def Assignment.KeepsMode : Assignment → Prop
  | .deviceIp _ => True
  | .statusWaitingForAssembledMove _ => True
  | .statusTypeAssembledMove _ => True
  | _ => False

/-- Code that does not change the mode. -/
def Rights.keepingMode : Rights where
  sends _ := True
  writes _ := True
  assigns a := a.KeepsMode
  notes n := n.OfMotor
  setsErrno _ := True
  writes_of_sends _ _ _ _ := trivial

theorem Rights.plain_keepingMode : Rights.keepingMode.Plain where
  sends _ _ := trivial
  plainAssigns a ha := by cases a <;> trivial
  motorNotes _ hn := hn

/-- The postcondition of a message. -/
abbrev ConsistentAfter {α : Type} : α → Globals → Prop :=
  fun _ g => g.Consistent

section

variable {α β : Type} {g : Globals}

theorem safe_of_within {p : Server α} (hp : Within Rights.keepingMode p) (g : Globals) :
    p.Safe mainMonitor (fun _ g' => g.SameMode g') g := by
  refine Program.Obeys.safe ?_ ?_ hp (Globals.SameMode.refl g)
  · intro o ho g₁ hg₁
    cases o with
    | assign a =>
        refine ⟨trivial, fun _ _ => ⟨trivial, ?_⟩⟩
        obtain ⟨hconnected, hconnection, hflag⟩ := hg₁
        cases a <;> first | exact ⟨hconnected, hconnection, hflag⟩ | exact ho.elim
    | note n =>
        refine ⟨fun hstops => ?_, fun _ _ => ⟨trivial, hg₁⟩⟩
        cases n <;> first | exact hstops.elim | exact ho.elim
    | writeClient cl message => exact ⟨trivial, fun _ _ => ⟨fun _ _ => trivial, hg₁⟩⟩
    | modbusErrno ctx => exact ⟨trivial, fun _ hx => ⟨hx, hg₁⟩⟩
    | readClient cl => exact ho.elim
    | readManualFile => exact ho.elim
    | _ => exact ⟨trivial, fun _ _ => ⟨trivial, hg₁⟩⟩
  · rintro q (rfl | rfl) g₁ hg₁
    · exact ⟨trivial, fun _ _ hg' => hg₁.trans hg'⟩
    · exact ⟨trivial, fun _ _ hg' => hg₁.trans hg'⟩

/-! ## The rules -/

theorem safe_getGlobals {f : Globals → Server β} {post : β → Globals → Prop}
    (h : (f g).Safe mainMonitor post g) : (getGlobals >>= f).Safe mainMonitor post g := by
  refine ⟨trivial, fun x hx => ?_⟩
  have heq : x = g := hx
  rw [heq]
  exact h

theorem safe_assign {a : Assignment} {f : Unit → Server β} {post : β → Globals → Prop}
    (h : (f ()).Safe mainMonitor post (g.assign a)) :
    (assign a >>= f).Safe mainMonitor post g :=
  ⟨trivial, fun _ _ => h⟩

theorem safe_bind {p : Server α} {f : α → Server β} {post : β → Globals → Prop}
    (h : p.Safe mainMonitor (fun a g' => (f a).Safe mainMonitor post g') g) :
    (p >>= f).Safe mainMonitor post g :=
  Program.Safe.bind h

theorem safe_ite {c : Prop} [Decidable c] {p q : Server α} {post : α → Globals → Prop}
    (hp : c → p.Safe mainMonitor post g) (hq : ¬ c → q.Safe mainMonitor post g) :
    (if c then p else q).Safe mainMonitor post g := by
  split
  · exact hp ‹c›
  · exact hq ‹¬ c›

theorem safe_abort {fault : Fault} {post : α → Globals → Prop} :
    (abort fault : Server α).Safe mainMonitor post g :=
  ⟨trivial, fun x => x.elim⟩

/-- A connection that opens has been allocated. -/
theorem safe_connect {c : Prop} [Decidable c] {ctx : Context} {k : Bool → Server α}
    {post : α → Globals → Prop}
    (hk : ∀ b, (b = true → ctx.session.allocated = true) → (k b).Safe mainMonitor post g) :
    (if c then k false else modbusConnect ctx >>= k).Safe mainMonitor post g := by
  refine safe_ite (fun _ => hk false fun h => by cases h) fun _ => ⟨trivial, fun b hb => ?_⟩
  refine hk b fun htrue => ?_
  have hconnects : ctx.session.connects = true := (show b = _ from hb) ▸ htrue
  unfold Session.connects at hconnects
  exact (Bool.and_eq_true_iff.mp hconnects).1

/-- Code that does not change the mode, and then some more. -/
theorem safe_bind_of_within {p : Server α} {f : α → Server β} {post : β → Globals → Prop}
    (hp : Within Rights.keepingMode p)
    (hf : ∀ a g', g.SameMode g' → (f a).Safe mainMonitor post g') :
    (p >>= f).Safe mainMonitor post g :=
  safe_bind ((safe_of_within hp g).mono hf)

theorem safe_consistent {p : Server α} (hp : Within Rights.keepingMode p)
    (hg : g.Consistent) : p.Safe mainMonitor ConsistentAfter g :=
  (safe_of_within hp g).mono fun _ _ hsame => hsame.consistent hg

/-! ## The connection and the manual mode -/

/-- The command connection is closed where there is one, so the flag is cleared. -/
theorem safe_smdCloseCommandConnection (hg : g.Consistent) :
    smdCloseCommandConnection.Safe mainMonitor
      (fun _ g' => g'.Consistent ∧ g'.statusManualModeEnable ≠ 1) g := by
  -- where the code does nothing there was no connection, and so no manual mode
  have hclosed : g.smdConnected ≠ 1 → g.statusManualModeEnable ≠ 1 :=
    fun hconnected hflag => hconnected (hg.manualMode hflag)
  unfold smdCloseCommandConnection
  refine safe_getGlobals ?_
  cases hctx : g.smdCommandConnection with
  | none =>
      refine ⟨hg, hclosed fun hconnected => ?_⟩
      obtain ⟨ctx, hsome, _⟩ := hg.connection hconnected
      rw [hctx] at hsome
      cases hsome
  | some ctx =>
      refine safe_ite (fun _ => ?_) (fun hopen => ?_)
      · refine ⟨trivial, fun _ _ => ⟨trivial, fun _ _ => ?_⟩⟩
        refine ⟨trivial, fun _ _ => ⟨trivial, fun _ _ => ⟨trivial, fun _ _ => ?_⟩⟩⟩
        refine ⟨trivial, fun _ _ => ⟨trivial, fun _ _ => ⟨⟨?_, ?_⟩, ?_⟩⟩⟩
        · intro h
          cases h
        · intro h
          cases h
        · intro h
          cases h
      · refine ⟨hg, hclosed fun hconnected => ?_⟩
        obtain ⟨ctx', hsome, hallocated⟩ := hg.connection hconnected
        rw [hctx] at hsome
        cases hsome
        exact hopen ⟨hallocated, hconnected⟩

/-- Where nothing is connected, the flag is cleared, and so it stays. -/
theorem safe_smdOpenCommandConnection (hg : g.Consistent) (hclosed : g.smdConnected ≠ 1) :
    smdOpenCommandConnection.Safe mainMonitor ConsistentAfter g := by
  have hflag : g.statusManualModeEnable ≠ 1 := fun hflag => hclosed (hg.manualMode hflag)
  unfold smdOpenCommandConnection
  refine ⟨trivial, fun ctx _ => ⟨trivial, fun _ _ => ⟨trivial, fun ip _ => ?_⟩⟩⟩
  refine safe_connect fun connected hallocated => safe_ite (fun _ => ?_) (fun hopened => ?_)
  · refine ⟨trivial, fun e _ => ⟨trivial, fun _ _ => ⟨trivial, fun _ _ => ?_⟩⟩⟩
    refine ⟨trivial, fun _ _ => ⟨?_, fun h => absurd h hflag⟩⟩
    intro h
    cases h
  · refine ⟨trivial, fun _ _ => ⟨fun _ => ⟨ctx, rfl, ?_⟩, fun h => absurd h hflag⟩⟩
    apply hallocated
    simpa using hopened

theorem safe_handleConnect {input : Text} (hg : g.Consistent) (hclosed : g.smdConnected ≠ 1) :
    (handleConnect input).Safe mainMonitor ConsistentAfter g := by
  unfold handleConnect withTokens
  refine safe_ite (fun _ => hg) fun _ => safe_ite (fun _ => hg) fun _ => ?_
  refine safe_ite (fun _ => safe_abort) fun _ => safe_assign ?_
  exact safe_smdOpenCommandConnection ⟨hg.connection, hg.manualMode⟩ hclosed

theorem safe_startManualMode (hg : g.Consistent) (hconnected : g.smdConnected = 1) :
    Program.Safe mainMonitor (do
      assign (.statusManualModeEnable 1)
      smdSetManualMode) ConsistentAfter g := by
  have hstarted : (g.assign (.statusManualModeEnable 1)).Consistent :=
    ⟨hg.connection, fun _ => hconnected⟩
  refine safe_assign ⟨trivial, fun created _ => ?_⟩
  refine safe_ite (fun _ => hstarted) fun _ => ⟨fun h => h.elim, fun _ _ => hstarted⟩

/-- The flag is cleared first, and stays so until the stop is complete. -/
theorem safe_handleStopManualMode (hg : g.Consistent) :
    handleStopManualMode.Safe mainMonitor ConsistentAfter g := by
  have hcleared : (g.assign (.statusManualModeEnable 0)).Consistent := by
    refine ⟨hg.connection, fun h => ?_⟩
    cases h
  unfold handleStopManualMode
  refine safe_assign (safe_bind_of_within (within_sendModbusCommand trivial) ?_)
  intro response g' hsame
  have hflag : g'.statusManualModeEnable ≠ 1 := by
    rw [hsame.statusManualModeEnable]
    show (0 : Int) ≠ 1
    decide
  have hg' := hsame.consistent hcleared
  refine safe_ite (fun _ => safe_bind ?_) fun _ => ⟨fun _ => hflag, fun _ _ => hg'⟩
  refine (safe_smdCloseCommandConnection hg').mono fun _ g'' hclosed => ?_
  exact ⟨fun _ => hclosed.2, fun _ _ => hclosed.1⟩

/-! ## Messages and turns -/

variable {input : Text} {cl : Int}

theorem safe_parseScenario1 (hg : g.Consistent) (hconnected : g.smdConnected = 1) :
    (parseScenario1 input cl).Safe mainMonitor ConsistentAfter g := by
  have hconversions : ConversionsWithin Rights.keepingMode input := fun _ _ _ _ _ _ _ => trivial
  rcases parseScenario1_kinds input cl with
    ⟨_, htokens, hdwell⟩ | ⟨_, htokens, hblend⟩ | hclose | hstart | hplain
  · rw [hdwell]
    exact safe_consistent (composed_handleRunAssembledDwellMove (hconversions 2 htokens)
      fun _ _ _ _ _ => trivial).within hg
  · rw [hblend]
    exact safe_consistent (composed_handleRunAssembledBlendMove (hconversions 2 htokens)
      fun _ _ _ _ _ => trivial).within hg
  · rw [hclose]
    exact safe_bind ((safe_smdCloseCommandConnection hg).mono fun _ _ hclosed => hclosed.1)
  · rw [hstart]
    exact safe_startManualMode hg hconnected
  · exact safe_consistent (hplain _ Rights.plain_keepingMode.commanding hconversions).within hg

theorem safe_parseSocketInput (hg : g.Consistent) :
    (parseSocketInput input cl).Safe mainMonitor ConsistentAfter g := by
  unfold parseSocketInput dispatchIn
  refine safe_getGlobals (safe_ite (fun hclosed => ?_) fun _ => ?_)
  · exact safe_ite (fun _ => safe_handleConnect hg (by omega)) fun _ => hg
  refine safe_ite (fun hconnected => safe_parseScenario1 hg hconnected.1) fun _ => ?_
  refine safe_ite (fun _ => ?_) fun _ => ?_
  · rcases parseScenario2_cases input cl with hstop | hplain
    · rw [hstop]
      exact safe_handleStopManualMode hg
    · exact safe_consistent (hplain _ Rights.plain_keepingMode.commanding).within hg
  refine safe_ite (fun _ => ?_) fun _ => hg
  have hprofile : Composed Rights.keepingMode (parseScenario3 input cl) :=
    Rights.plain_keepingMode.composed_parseScenario3 fun _ => trivial
  exact safe_consistent hprofile.within hg

theorem safe_parseSmdResponseToClientInput (hg : g.Consistent) :
    (parseSmdResponseToClientInput input cl).Safe mainMonitor ConsistentAfter g := by
  refine ⟨fun h => h.elim, fun _ _ => ?_⟩
  change Program.Safe mainMonitor (parseSocketInput input cl >>= fun r => answerClient r cl)
    ConsistentAfter g
  refine safe_bind ((safe_parseSocketInput hg).mono fun r g' hg' => ?_)
  exact safe_consistent (composed_answerClient trivial r).within hg'

/-- A client that goes leaves a closed connection and a cleared flag. -/
theorem safe_serveNextClient (hg : g.Consistent) :
    (serveNextClient cl).Safe mainMonitor ConsistentAfter g := by
  unfold serveNextClient
  refine ⟨trivial, fun _ _ => ?_⟩
  change Program.Safe mainMonitor (smdCloseCommandConnection >>= _) _ g
  refine safe_bind ((safe_smdCloseCommandConnection hg).mono fun _ g' hclosed => ?_)
  refine ⟨fun _ => hclosed.2, fun _ _ => ⟨trivial, fun next _ => ?_⟩⟩
  exact safe_ite (fun _ => safe_abort) fun _ => hclosed.1

theorem safe_serverIteration (hg : g.Consistent) :
    (serverIteration cl).Safe mainMonitor ConsistentAfter g := by
  have hmessage : ∀ text : Text, (parseSmdResponseToClientInput text cl >>= fun _ =>
      (pure cl : Server Int)).Safe mainMonitor ConsistentAfter g := fun text =>
    safe_bind (safe_parseSmdResponseToClientInput hg)
  refine ⟨trivial, fun outcome _ => ?_⟩
  cases outcome with
  | received chunk =>
      refine safe_ite (fun _ => hmessage _) fun _ => ⟨trivial, fun stack _ => ?_⟩
      exact hmessage _
  | endOfFile => exact safe_serveNextClient hg
  | failed e => exact safe_serveNextClient hg

/-- The procedures that the main thread calls. -/
theorem safe_procedureBody (q : Procedure) (hq : mainMonitor.pre q g) :
    (procedureBody q).Safe mainMonitor (mainMonitor.post q g) g := by
  have hstops := Rights.plain_keepingMode.allowsStops
  cases q with
  | smdHoldMove => exact safe_of_within (within_body hstops _ (Or.inl rfl)) g
  | smdImmedStop => exact safe_of_within (within_body hstops _ (Or.inr rfl)) g
  | manualModeLoop locals => exact hq.elim
  | serverLoop cl =>
      refine safe_bind ((safe_serverIteration hq).mono fun cl' g' hg' => ?_)
      exact ⟨hg', fun _ _ _ => trivial⟩

theorem safe_openServerSocket (hg : g.Consistent) :
    openServerSocket.Safe mainMonitor (fun _ _ => True) g := by
  refine ⟨trivial, fun cl _ => safe_ite (fun _ => safe_abort) fun _ => ?_⟩
  exact ⟨hg, fun _ _ _ => trivial⟩

end

end SmdControlServer
