import SmdControlServer.Commands.Codes
import SmdControlServer.Manual.Accounts
import SmdControlServer.Manual.Stopping

/-!
# The threads keep their accounts

The code of the main thread and of the controllers, under `accountMonitor`: between two
messages the main thread has nothing under way, and a controller never has when it is
at its test.  `monitored_of_executes` then holds in every interleaving.
-/

namespace SmdControlServer

open CString Interaction

/-! ## The main thread -/

/-- The main thread with nothing under way. -/
abbrev mainAccount (g : Globals) (live : List Nat) (created : Option Bool) : Account :=
  ⟨some g, live, .idle, false, created⟩

/-- What holds between two messages. -/
structure Between (g : Globals) (live : List Nat) (created : Option Bool) : Prop where
  accounted : g.Accounted live
  created : g.statusManualModeEnable = 1 → created ≠ none

theorem settled_mainAccount {g : Globals} {live : List Nat} {created : Option Bool}
    (h : Between g live created) : (mainAccount g live created).Settled where
  sending := rfl
  starting := rfl
  globals := by
    rintro g' ⟨⟩
    exact h.accounted
  created := by
    rintro g' ⟨⟩
    exact h.created

/-- The account of a thread that knows the globals and has nothing under way. -/
theorem Account.Settled.eq_mainAccount {q : Account} (hq : q.Settled) (hknown : q.known ≠ none) :
    ∃ g live created, q = mainAccount g live created ∧ Between g live created := by
  obtain ⟨known, live, sending, starting, created⟩ := q
  obtain ⟨hsending, hstarting, hglobals, hcreated⟩ := hq
  cases known with
  | none => exact absurd rfl hknown
  | some g =>
      obtain rfl : sending = .idle := hsending
      obtain rfl : starting = false := hstarting
      exact ⟨g, live, created, rfl, hglobals g rfl, hcreated g rfl⟩

/-- Code that talks to the drive and may change the type of the assembled move. -/
def Rights.keepingFlags : Rights where
  sends _ := True
  writes _ := True
  assigns a := ∃ moveType, a = .statusTypeAssembledMove moveType
  notes n := n.OfMotor
  setsErrno _ := True
  writes_of_sends _ _ _ _ := trivial

theorem Rights.commanding_keepingFlags : Rights.keepingFlags.Commanding where
  sends _ _ := trivial
  motorNotes _ hn := hn

theorem keepAccount_mainAccount {g : Globals} {live : List Nat} {created : Option Bool} :
    Rights.keepingFlags.KeepAccount (mainAccount g live created) where
  assigns _ ha := ⟨Option.some_ne_none g, ha⟩
  notes _ hn := hn

/-- The postcondition of a message. -/
abbrev SettledAfter {α : Type} : α → Account → Prop :=
  fun _ q => q.known ≠ none ∧ q.Settled

section

variable {α β : Type} {g : Globals} {live : List Nat} {created : Option Bool}

theorem settledAfter (h : Between g live created) :
    (mainAccount g live created).known ≠ none ∧ (mainAccount g live created).Settled :=
  ⟨Option.some_ne_none g, settled_mainAccount h⟩

theorem monitored_getGlobals {f : Globals → Server β} {post : β → Account → Prop}
    (h : (f g).Safe accountMonitor post (mainAccount g live created)) :
    (getGlobals >>= f).Safe accountMonitor post (mainAccount g live created) := by
  refine ⟨trivial, fun x hx => ?_⟩
  rw [show x = g from hx g rfl, accountMonitor_next (o := .globals) trivial]
  exact h

/-- An assignment, to another global than the flag of the manual mode. -/
theorem monitored_assign {a : Assignment} {f : Unit → Server β} {post : β → Account → Prop}
    (hbit : a.AssignsBit)
    (hstarting : (Request.assign a).startingAfter () false = false)
    (h : (f ()).Safe accountMonitor post (mainAccount (g.assign a) live created)) :
    (assign a >>= f).Safe accountMonitor post (mainAccount g live created) := by
  refine ⟨⟨Option.some_ne_none g, hbit⟩, fun _ _ => ?_⟩
  have hnext : accountMonitor.next (mainAccount g live created) (.assign a) () =
      mainAccount (g.assign a) live created := by
    show Account.mk _ _ _ _ _ = _
    rw [hstarting]
    rfl
  rw [hnext]
  exact h

/-- Code that is put together from blocks changes no flag. -/
theorem monitored_of_composed {p : Server α} (hp : Composed Rights.keepingFlags p) :
    p.Safe accountMonitor (fun _ q' => ∃ g', q' = mainAccount g' live created ∧ g.SameFlags g')
      (mainAccount g live created) := by
  refine (monitored_composed keepAccount_mainAccount hp rfl).mono fun _ q' hkeeps => ?_
  obtain ⟨g', hg', hsame⟩ := hkeeps.known g rfl
  refine ⟨g', ?_, hsame⟩
  rw [hkeeps.account, hg']

theorem monitored_bind_of_composed {p : Server α} {f : α → Server β}
    {post : β → Account → Prop} (hp : Composed Rights.keepingFlags p)
    (hf : ∀ a g', g.SameFlags g' → (f a).Safe accountMonitor post (mainAccount g' live created)) :
    (p >>= f).Safe accountMonitor post (mainAccount g live created) := by
  refine monitored_bind ((monitored_of_composed hp).mono fun a q' hq' => ?_)
  obtain ⟨g', rfl, hsame⟩ := hq'
  exact hf a g' hsame

theorem Between.of_sameFlags {g' : Globals} (h : Between g live created)
    (hsame : g.SameFlags g') : Between g' live created := by
  obtain ⟨⟨⟨hbit, hbit', hbit''⟩, hconnected, hclosed, hexclusive⟩, hcreated⟩ := h
  obtain ⟨hsameConnected, hsameConnection, hsameWaiting, hsameManual⟩ := hsame
  refine ⟨⟨⟨?_, ?_, ?_⟩, ?_, ?_, ?_⟩, ?_⟩
  · rwa [hsameConnected]
  · rwa [hsameWaiting]
  · rwa [hsameManual]
  · rwa [hsameConnected, hsameConnection]
  · rwa [hsameConnected, hsameWaiting, hsameManual]
  · rwa [hsameWaiting, hsameManual]
  · rwa [hsameManual]

/-! ## The connection and the manual mode -/

/-- Where there is a connection, its context is freed and all the flags are cleared. -/
theorem monitored_smdCloseCommandConnection (h : Between g live created) :
    smdCloseCommandConnection.Safe accountMonitor
      (fun _ q' => ∃ g', q' = mainAccount g' [] created ∧ Between g' [] created ∧
        g'.smdConnected = 0) (mainAccount g live created) := by
  -- with the connection closed the code does nothing, and nothing is live
  have hclosed : g.smdConnected ≠ 1 → ∃ g', mainAccount g live created = mainAccount g' [] created ∧
      Between g' [] created ∧ g'.smdConnected = 0 := by
    intro hnot
    have hzero : g.smdConnected = 0 := h.accounted.flags.smdConnected.resolve_right hnot
    have hlive := (h.accounted.closed hzero).2.2
    rw [hlive] at h ⊢
    exact ⟨g, rfl, h, hzero⟩
  unfold smdCloseCommandConnection
  refine monitored_getGlobals ?_
  cases hctx : g.smdCommandConnection with
  | none =>
      refine hclosed fun hconnected => ?_
      obtain ⟨ctx, hsome, _⟩ := h.accounted.connected hconnected
      rw [hctx] at hsome
      cases hsome
  | some ctx =>
      refine monitored_ite (fun hopen => ?_) fun hnot => ?_
      -- the context that is freed is the one that is live
      · obtain ⟨ctx', hsome, _, hlive⟩ := h.accounted.connected hopen.2
        rw [hctx] at hsome
        cases hsome
        refine monitored_ask trivial fun _ => ?_
        refine ⟨⟨?_, fun _ _ hsending => by cases hsending⟩, fun _ _ => ?_⟩
        · rw [hlive]
          exact List.mem_singleton_self _
        have hfreed : accountMonitor.next (mainAccount g live created) (.modbusFree ctx) () =
            mainAccount g [] created := by
          rw [accountMonitor_next_of_known fun _ => rfl, hlive]
          simp only [Request.liveAfter, Request.sendingAfter, Request.startingAfter,
            Request.createdAfter, List.erase_cons_head]
        rw [hfreed]
        refine monitored_assign trivial rfl (monitored_assign (Or.inl rfl) rfl ?_)
        refine monitored_assign (Or.inl rfl) rfl (monitored_assign (Or.inl rfl) rfl ?_)
        refine ⟨⟨Option.some_ne_none _, trivial⟩, fun _ _ => ⟨_, rfl, ?_, rfl⟩⟩
        refine ⟨⟨⟨Or.inl rfl, Or.inl rfl, Or.inl rfl⟩, ?_, ?_, ?_⟩, ?_⟩
        · intro hone
          cases hone
        · exact fun _ => ⟨rfl, rfl, rfl⟩
        · intro hone
          cases hone
        · intro hone
          cases hone
      -- the test of the pointer fails only when nothing is connected
      · refine hclosed fun hconnected => ?_
        obtain ⟨ctx', hsome, hallocated, _⟩ := h.accounted.connected hconnected
        rw [hctx] at hsome
        cases hsome
        exact hnot ⟨hallocated, hconnected⟩

/-- A refused connection leaves no context behind, another one its own. -/
theorem monitored_smdOpenCommandConnection (h : Between g live created)
    (hclosed : g.smdConnected = 0) :
    smdOpenCommandConnection.Safe accountMonitor SettledAfter (mainAccount g live created) := by
  obtain ⟨hwaiting, hmanual, hlive⟩ := h.accounted.closed hclosed
  unfold smdOpenCommandConnection
  refine ⟨trivial, fun ctx _ => ?_⟩
  have hallocated : accountMonitor.next (mainAccount g live created) .modbusNewTcp ctx =
      mainAccount g [ctx.id] created := by
    rw [accountMonitor_next_of_known fun _ => rfl, hlive]
    rfl
  rw [hallocated]
  refine monitored_assign trivial rfl (monitored_ask trivial fun ip => ?_)
  have hmanual' : g.statusManualModeEnable ≠ 1 := by omega
  have hwaiting' : g.statusWaitingForAssembledMove ≠ 1 := by omega
  -- a refused connection frees its context, and leaves the pointer as it is
  have hrefused : Program.Safe accountMonitor (do
      let e ← modbusErrno ctx
      setErrno e
      modbusFree ctx
      assign (.smdConnected 0)
      pure SmdResponseCode.noRouteToHost) SettledAfter
      (mainAccount (g.assign (.smdCommandConnection (some ctx))) [ctx.id] created) := by
    refine monitored_ask trivial fun e => monitored_ask trivial fun _ => ?_
    refine ⟨⟨List.mem_singleton_self _, fun _ _ hsending => by cases hsending⟩, fun _ _ => ?_⟩
    have hfreed : accountMonitor.next
        (mainAccount (g.assign (.smdCommandConnection (some ctx))) [ctx.id] created)
        (.modbusFree ctx) () =
        mainAccount (g.assign (.smdCommandConnection (some ctx))) [] created := by
      rw [accountMonitor_next_of_known fun _ => rfl]
      simp only [Request.liveAfter, Request.sendingAfter, Request.startingAfter,
        Request.createdAfter, List.erase_cons_head]
    rw [hfreed]
    refine monitored_assign (Or.inl rfl) rfl (settledAfter ?_)
    refine ⟨⟨⟨Or.inl rfl, Or.inl hwaiting, Or.inl hmanual⟩, ?_, ?_, ?_⟩, ?_⟩
    · intro hone
      cases hone
    · exact fun _ => ⟨hwaiting, hmanual, rfl⟩
    · exact fun hone => absurd hone hwaiting'
    · exact fun hone => absurd hone hmanual'
  -- modbus_connect fails on NULL, so the open context was allocated
  refine monitored_connect hrefused fun connected hallocated => ?_
  change Program.Safe accountMonitor _ SettledAfter
    (mainAccount (g.assign (.smdCommandConnection (some ctx))) [ctx.id] created)
  refine monitored_ite (fun _ => hrefused) fun hopened => ?_
  refine monitored_assign (Or.inr rfl) rfl (settledAfter ?_)
  refine ⟨⟨⟨Or.inr rfl, Or.inl hwaiting, Or.inl hmanual⟩, ?_, ?_, ?_⟩, ?_⟩
  · exact fun _ => ⟨ctx, rfl, hallocated (by simpa using hopened), rfl⟩
  · intro hzero
    cases hzero
  · exact fun hone => absurd hone hwaiting'
  · exact fun hone => absurd hone hmanual'

theorem monitored_handleConnect {input : Text} (h : Between g live created)
    (hclosed : g.smdConnected = 0) :
    (handleConnect input).Safe accountMonitor SettledAfter (mainAccount g live created) := by
  have hrefused := settledAfter h
  unfold handleConnect withTokens
  refine monitored_ite (fun _ => hrefused) fun _ => monitored_ite (fun _ => hrefused) fun _ => ?_
  refine monitored_ite (fun _ => monitored_abort) fun _ => monitored_assign trivial rfl ?_
  obtain ⟨⟨hflags, hconnected, hclosed', hexclusive⟩, hcreated⟩ := h
  have hassigned : ∀ ip, Between (g.assign (.deviceIp ip)) live created := fun ip =>
    ⟨⟨⟨hflags.1, hflags.2, hflags.3⟩, hconnected, hclosed', hexclusive⟩, hcreated⟩
  exact monitored_smdOpenCommandConnection (hassigned _) hclosed

/-- The flag is set before the thread is created, and stays set if it is not. -/
theorem monitored_startManualMode (h : Between g live created) (hconnected : g.smdConnected = 1)
    (hwaiting : g.statusWaitingForAssembledMove = 0) :
    Program.Safe accountMonitor (do
      assign (.statusManualModeEnable 1)
      smdSetManualMode) SettledAfter (mainAccount g live created) := by
  refine ⟨⟨Option.some_ne_none g, Or.inr rfl⟩, fun _ _ => ?_⟩
  refine ⟨⟨Option.some_ne_none _, rfl⟩, fun b _ => ?_⟩
  have hstarted : Between (g.assign (.statusManualModeEnable 1)) live (some b) := by
    refine ⟨⟨⟨Or.inr hconnected, Or.inl hwaiting, Or.inr rfl⟩, ?_, ?_, ?_⟩, ?_⟩
    · exact h.accounted.connected
    · intro hzero
      have hzero' : g.smdConnected = 0 := hzero
      omega
    · intro hone
      have hone' : g.statusWaitingForAssembledMove = 1 := hone
      omega
    · exact fun _ => Option.some_ne_none b
  change Program.Safe accountMonitor _ SettledAfter
    (mainAccount (g.assign (.statusManualModeEnable 1)) live (some b))
  refine monitored_ite (fun _ => settledAfter hstarted) fun _ => ?_
  exact monitored_ask trivial fun _ => settledAfter hstarted

theorem monitored_handleStopManualMode (h : Between g live created) :
    handleStopManualMode.Safe accountMonitor SettledAfter (mainAccount g live created) := by
  have hcleared : Between (g.assign (.statusManualModeEnable 0)) live created := by
    obtain ⟨⟨hflags, hconnected, hclosed, hexclusive⟩, hcreated⟩ := h
    refine ⟨⟨⟨hflags.1, hflags.2, Or.inl rfl⟩, hconnected, ?_, ?_⟩, ?_⟩
    · intro hzero
      obtain ⟨hwaiting, _, hlive⟩ := hclosed hzero
      exact ⟨hwaiting, rfl, hlive⟩
    · intro _ hone
      cases hone
    · intro hone
      cases hone
  unfold handleStopManualMode
  refine monitored_assign (Or.inl rfl) rfl ?_
  refine monitored_bind_of_composed (composed_sendModbusCommand trivial) fun response g' hsame => ?_
  have hsent := hcleared.of_sameFlags hsame
  refine monitored_ite (fun _ => monitored_bind ?_) fun _ => ?_
  · refine (monitored_smdCloseCommandConnection hsent).mono fun _ q' hq' => ?_
    obtain ⟨g'', rfl, hclosed, _⟩ := hq'
    exact monitored_ask trivial fun _ => settledAfter hclosed
  · exact monitored_ask trivial fun _ => settledAfter hsent

/-! ## Messages and turns -/

variable {input : Text} {cl : Int}

/-- A message that leaves the server ready for a profile has left it connected and out
of the manual mode. -/
abbrev Ready (r : SmdResponseCode) (q : Account) : Prop :=
  SettledAfter r q ∧ (r = .readyForAssembledMove → ∀ g, q.known = some g →
    g.smdConnected = 1 ∧ g.statusManualModeEnable = 0)

/-- Most commands cannot come to that. -/
theorem ready_of_returns {codes : List SmdResponseCode} {q : Account}
    {p : Server SmdResponseCode} (hp : p.Safe accountMonitor SettledAfter q)
    (hcodes : ReturnsOneOf codes p) (hready : .readyForAssembledMove ∉ codes) :
    p.Safe accountMonitor Ready q := by
  refine (hp.and_returns hcodes).mono fun r q' hq' => ⟨hq'.1, fun hr => ?_⟩
  rw [hr] at hq'
  exact absurd hq'.2 hready

theorem ready_of_composed {p : Server SmdResponseCode} (hp : Composed Rights.keepingFlags p)
    (h : Between g live created) (hconnected : g.smdConnected = 1)
    (hmanual : g.statusManualModeEnable = 0) :
    p.Safe accountMonitor Ready (mainAccount g live created) := by
  refine (monitored_of_composed hp).mono fun r q' hq' => ?_
  obtain ⟨g', rfl, hsame⟩ := hq'
  refine ⟨settledAfter (h.of_sameFlags hsame), ?_⟩
  rintro - _ ⟨⟩
  exact ⟨hsame.smdConnected.trans hconnected, hsame.statusManualModeEnable.trans hmanual⟩

theorem monitored_parseScenario1 (h : Between g live created) (hconnected : g.smdConnected = 1)
    (hwaiting : g.statusWaitingForAssembledMove = 0) (hmanual : g.statusManualModeEnable = 0) :
    (parseScenario1 input cl).Safe accountMonitor Ready (mainAccount g live created) := by
  have hconversions : ConversionsWithin Rights.keepingFlags input := fun _ _ _ _ _ _ _ => trivial
  rcases parseScenario1_kinds input cl with
    ⟨_, htokens, hdwell⟩ | ⟨_, htokens, hblend⟩ | hclose | hstart | hplain
  · rw [hdwell]
    exact ready_of_composed (composed_handleRunAssembledDwellMove (hconversions 2 htokens)
      fun _ _ _ _ _ => trivial) h hconnected hmanual
  · rw [hblend]
    exact ready_of_composed (composed_handleRunAssembledBlendMove (hconversions 2 htokens)
      fun _ _ _ _ _ => trivial) h hconnected hmanual
  · rw [hclose]
    refine monitored_bind ((monitored_smdCloseCommandConnection h).mono fun _ q' hq' => ?_)
    obtain ⟨g', rfl, hclosed, _⟩ := hq'
    exact ⟨settledAfter hclosed, fun hr => by cases hr⟩
  · rw [hstart]
    exact ready_of_returns (monitored_startManualMode h hconnected hwaiting)
      returns_startManualMode (by decide)
  · exact ready_of_composed (hplain _ Rights.commanding_keepingFlags hconversions) h hconnected
      hmanual

theorem returns_parseScenario2 :
    ReturnsOneOf [.commandSuccess, .commandFailed, .handledByClient, .invalidInput]
      (parseScenario2 input cl) := by
  unfold parseScenario2
  apply returns_ite
  · exact returns_of_subset returns_handleStopManualMode (by simp)
  apply returns_ite
  · exact returns_of_subset (returns_sendModbusCommand _) (by simp)
  apply returns_ite
  · exact returns_of_subset (returns_smdReadRegisters _ _) (by simp)
  · exact returns_pure (by simp)

theorem monitored_parseScenario3 (h : Between g live created) :
    (parseScenario3 input cl).Safe accountMonitor SettledAfter (mainAccount g live created) := by
  unfold parseScenario3
  refine monitored_bind_of_composed (Rights.commanding_keepingFlags.composed_upload
    fun moveType => ⟨moveType, rfl⟩) fun response g' hsame => ?_
  have hdone : Between (g'.assign (.statusWaitingForAssembledMove 0)) live created := by
    obtain ⟨⟨hflags, hopen, hclosed, _⟩, hcreated⟩ := h.of_sameFlags hsame
    refine ⟨⟨⟨hflags.1, Or.inl rfl, hflags.3⟩, hopen, ?_, ?_⟩, hcreated⟩
    · intro hzero
      exact ⟨rfl, (hclosed hzero).2⟩
    · intro hone
      cases hone
  refine monitored_ite (fun _ => monitored_assign (Or.inl rfl) rfl (settledAfter hdone)) fun _ => ?_
  refine monitored_assign (Or.inl rfl) rfl ?_
  refine monitored_bind_of_composed (composed_smdResetErrors Rights.commanding_keepingFlags) ?_
  intro _ g'' hsame'
  exact settledAfter (hdone.of_sameFlags hsame')

theorem monitored_parseSocketInput (h : Between g live created) :
    (parseSocketInput input cl).Safe accountMonitor Ready (mainAccount g live created) := by
  have hother : ∀ r : SmdResponseCode, r ≠ .readyForAssembledMove →
      Ready r (mainAccount g live created) := fun r hr =>
    ⟨settledAfter h, fun hready => absurd hready hr⟩
  unfold parseSocketInput dispatchIn
  refine monitored_getGlobals (monitored_ite (fun hclosed => ?_) fun _ => ?_)
  · refine monitored_ite (fun _ => ?_) fun _ => hother _ (by decide)
    exact ready_of_returns (monitored_handleConnect h hclosed) (returns_handleConnect _) (by decide)
  refine monitored_ite (fun hscenario => ?_) fun _ => monitored_ite (fun _ => ?_) fun _ => ?_
  · exact monitored_parseScenario1 h hscenario.1 hscenario.2.1 hscenario.2.2
  · rcases parseScenario2_cases input cl with hstop | hplain
    · rw [hstop]
      exact ready_of_returns (monitored_handleStopManualMode h) returns_handleStopManualMode
        (by decide)
    · refine ready_of_returns ?_ returns_parseScenario2 (by decide)
      refine (monitored_of_composed (hplain _ Rights.commanding_keepingFlags)).mono ?_
      rintro _ _ ⟨g', rfl, hsame⟩
      exact settledAfter (h.of_sameFlags hsame)
  · refine monitored_ite (fun _ => ?_) fun _ => hother _ (by decide)
    exact ready_of_returns (monitored_parseScenario3 h) (returns_parseScenario3 _ _) (by decide)

/-- The server expects a profile only where it is connected and not in the manual mode. -/
theorem monitored_tellResponse (r : SmdResponseCode) (h : Between g live created) :
    (tellResponse r cl).Safe accountMonitor SettledAfter (mainAccount g live created) := by
  refine (monitored_of_composed (composed_tellResponse r)).mono fun _ q' hq' => ?_
  obtain ⟨g', rfl, hsame⟩ := hq'
  exact settledAfter (h.of_sameFlags hsame)

theorem monitored_answerClient {r : SmdResponseCode} {q : Account} (hq : Ready r q) :
    (answerClient r cl).Safe accountMonitor SettledAfter q := by
  obtain ⟨⟨hknown, hsettled⟩, hready⟩ := hq
  obtain ⟨g, live, created, rfl, h⟩ := hsettled.eq_mainAccount hknown
  rw [answerClient_eq]
  refine monitored_ite (fun hr => monitored_assign (Or.inr rfl) rfl
    (monitored_tellResponse r ?_)) fun _ => monitored_tellResponse r h
  obtain ⟨hconnected, hmanual⟩ := hready hr g rfl
  obtain ⟨⟨hflags, hopen, _, _⟩, hcreated⟩ := h
  refine ⟨⟨⟨hflags.1, Or.inr rfl, hflags.3⟩, hopen, ?_, ?_⟩, hcreated⟩
  · intro hzero
    have hzero' : g.smdConnected = 0 := hzero
    omega
  · intro _ hone
    have hone' : g.statusManualModeEnable = 1 := hone
    omega

theorem monitored_parseSmdResponseToClientInput (h : Between g live created) :
    (parseSmdResponseToClientInput input cl).Safe accountMonitor SettledAfter
      (mainAccount g live created) := by
  refine ⟨settled_mainAccount h, fun _ _ => ?_⟩
  rw [accountMonitor_next_of_known fun _ => rfl]
  change Program.Safe accountMonitor (parseSocketInput input cl >>= fun r => answerClient r cl)
    SettledAfter (mainAccount g live created)
  exact monitored_bind ((monitored_parseSocketInput h).mono fun _ _ => monitored_answerClient)

/-- The next client finds no connection and no flag set. -/
theorem monitored_serveNextClient (h : Between g live created) :
    (serveNextClient cl).Safe accountMonitor SettledAfter (mainAccount g live created) := by
  unfold serveNextClient
  refine monitored_ask trivial fun _ => monitored_bind ?_
  refine (monitored_smdCloseCommandConnection h).mono fun _ q' hq' => ?_
  obtain ⟨g', rfl, hclosed, hzero⟩ := hq'
  refine monitored_ask trivial fun _ => ⟨⟨settled_mainAccount hclosed, ?_⟩, fun next _ => ?_⟩
  · rintro _ ⟨⟩
    exact hzero
  · rw [accountMonitor_next_of_known fun _ => rfl]
    exact monitored_ite (fun _ => monitored_abort) fun _ => settledAfter hclosed

theorem monitored_serverIteration (h : Between g live created) :
    (serverIteration cl).Safe accountMonitor SettledAfter (mainAccount g live created) := by
  have hmessage : ∀ text : Text, (parseSmdResponseToClientInput text cl >>= fun _ =>
      (pure cl : Server Int)).Safe accountMonitor SettledAfter (mainAccount g live created) :=
    fun text => monitored_bind (monitored_parseSmdResponseToClientInput h)
  refine ⟨settled_mainAccount h, fun outcome _ => ?_⟩
  rw [accountMonitor_next_of_known fun _ => rfl]
  cases outcome with
  | received chunk =>
      refine monitored_ite (fun _ => hmessage _) fun _ => monitored_ask trivial fun stack => ?_
      exact hmessage _
  | endOfFile => exact monitored_serveNextClient h
  | failed e => exact monitored_serveNextClient h

theorem monitored_openServerSocket (h : Between g live created) (hclosed : g.smdConnected = 0) :
    openServerSocket.Safe accountMonitor (fun _ _ => True) (mainAccount g live created) := by
  refine ⟨⟨settled_mainAccount h, ?_⟩, fun cl _ => ?_⟩
  · rintro _ ⟨⟩
    exact hclosed
  · rw [accountMonitor_next_of_known fun _ => rfl]
    refine monitored_ite (fun _ => monitored_abort) fun _ => ⟨settledAfter h, fun _ _ _ => ?_⟩
    trivial

end

/-! ## The controllers -/

/-- A controller that is sending nothing. -/
structure Account.OfController (q : Account) : Prop where
  known : q.known = none
  sending : q.sending = .idle

section

variable {q : Account}

theorem Account.OfController.keeps {q' : Account} (hq : q.OfController) (h : q.Keeps q') :
    q'.OfController where
  known := h.unknown hq.known
  sending := h.sending.trans hq.sending

theorem keepAccount_controller : (Rights.controller True).KeepAccount q where
  assigns _ ha := ha.elim
  notes := by
    rintro n (⟨_, hmotor⟩ | rfl)
    · exact hmotor
    · trivial

theorem monitored_handleSample (locals : ControllerLocals) (hq : q.OfController) :
    (handleSample locals).Safe accountMonitor (fun _ q' => q'.OfController) q :=
  (monitored_composed keepAccount_controller (composed_handleSample_controller locals)
    hq.sending).mono fun _ _ => hq.keeps

theorem monitored_manualModeIteration (locals : ControllerLocals) (hq : q.OfController) :
    (manualModeIteration locals).Safe accountMonitor (fun _ q' => q'.OfController) q := by
  unfold manualModeIteration readSample
  refine monitored_ask trivial fun outcome => ?_
  cases outcome with
  | noAccess e => exact hq
  | openFailed e => exact hq
  | readFailed e => exact monitored_handleSample _ hq
  | contents bytes =>
      cases bytes with
      | nil => exact hq
      | cons byte rest => exact monitored_handleSample _ hq

theorem monitored_manualModeLoopBody (locals : ControllerLocals) (hq : q.OfController) :
    (manualModeLoopBody locals).Safe accountMonitor (fun _ _ => True) q := by
  unfold manualModeLoopBody
  refine monitored_ask trivial fun g => monitored_ite (fun _ => monitored_bind ?_) fun _ => trivial
  refine (monitored_manualModeIteration locals hq).mono fun locals q' hq' => ?_
  refine monitored_ask trivial fun _ => ⟨⟨hq'.known, hq'.sending⟩, fun _ _ _ => trivial⟩

/-! ## The procedures -/

theorem monitored_procedureBody (p : Procedure) (q : Account) (hp : accountMonitor.pre p q) :
    (procedureBody p).Safe accountMonitor (accountMonitor.post p q) q := by
  cases p with
  | smdHoldMove =>
      exact monitored_ask trivial fun _ => monitored_sendModbusCommand _ hp
  | smdImmedStop => exact monitored_sendModbusCommand _ hp
  | manualModeLoop locals => exact monitored_manualModeLoopBody locals ⟨hp.1, hp.2⟩
  | serverLoop cl =>
      obtain ⟨g, live, created, rfl, h⟩ := hp.2.eq_mainAccount hp.1
      refine monitored_bind ((monitored_serverIteration h).mono fun cl' q' hq' => ?_)
      exact ⟨hq', fun _ _ _ => trivial⟩

end

end SmdControlServer
