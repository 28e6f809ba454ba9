import SmdControlServer.Session.Commands

/-!
# What a message comes to

A message is dispatched in the mode of the globals, by `dispatchIn`.  In each of the four
modes it comes to one of the codes that the protocol names, after lines that the protocol
names, and leaves the globals in the mode that the line of the code will give away.
-/

namespace SmdControlServer

open CString Interaction

/-! ## Modes -/

section

variable {g : Globals}

/-- The flags of a tidy server are those of one of the modes. -/
theorem Globals.Tidy.cases (h : g.Tidy) :
    (g.smdConnected = 0 ∧ g.mode = .disconnected) ∨
    (g.smdConnected = 1 ∧ g.statusWaitingForAssembledMove = 0 ∧ g.statusManualModeEnable = 0 ∧
      g.mode = .ordinary) ∨
    (g.smdConnected = 1 ∧ g.statusWaitingForAssembledMove = 0 ∧ g.statusManualModeEnable = 1 ∧
      g.mode = .manual) ∨
    (g.smdConnected = 1 ∧ g.statusWaitingForAssembledMove = 1 ∧ g.statusManualModeEnable = 0 ∧
      g.mode = .loading) := by
  obtain ⟨⟨hconnected, hwaiting, hmanual⟩, _, _, hexclusive⟩ := h
  unfold Globals.mode
  rcases hconnected with hzero | hone
  · simp [hzero]
  · rcases hwaiting with hwaiting | hwaiting
    · rcases hmanual with hmanual | hmanual
      · simp [hone, hwaiting, hmanual]
      · simp [hone, hwaiting, hmanual]
    · have hnot := hexclusive hwaiting
      have hmanual' : g.statusManualModeEnable = 0 := by omega
      simp [hone, hwaiting, hmanual']

theorem Globals.Tidy.mode_eq_disconnected_iff (h : g.Tidy) :
    g.mode = .disconnected ↔ g.smdConnected = 0 := by
  constructor
  · intro hmode
    rcases h.cases with hcase | hcase | hcase | hcase
    · exact hcase.1
    · rw [hcase.2.2.2] at hmode
      cases hmode
    · rw [hcase.2.2.2] at hmode
      cases hmode
    · rw [hcase.2.2.2] at hmode
      cases hmode
  · intro hzero
    unfold Globals.mode
    rw [if_pos hzero]

/-- The globals once the message has been answered: after `programAssembledMove` a profile
is expected. -/
def Globals.answered (g : Globals) (r : SmdResponseCode) : Globals :=
  if r = .readyForAssembledMove then g.assign (.statusWaitingForAssembledMove 1) else g

theorem Globals.answered_of_ne {r : SmdResponseCode} (h : r ≠ .readyForAssembledMove) :
    g.answered r = g := by
  unfold Globals.answered
  rw [if_neg h]

end

/-! ## Dispatched messages -/

/-- What a message has come to when it is about to be answered. -/
structure Dispatched (mode : Mode) (input : Text) (past : Conversation) (cl : Int)
    (r : SmdResponseCode) (g : Globals) (announced : List Text) : Prop where
  code : r ∈ mode.codes input
  announces : mode.Announces input r announced
  tidy : (g.answered r).Tidy
  mode : mode.after ⟨input, announced ++ (responseLine r).toList⟩ = (g.answered r).mode
  addressed : g.smdConnected = 1 → Dialogue.Addressed ⟨g, some cl, ⟨input, announced⟩ :: past⟩

/-- The postcondition of the dispatcher. -/
abbrev DispatchedAfter (mode : Mode) (input : Text) (past : Conversation) (cl : Int)
    (r : SmdResponseCode) (q : Option Dialogue) : Prop :=
  ∃ g announced, q = talking g (some cl) (⟨input, announced⟩ :: past) ∧
    Dispatched mode input past cl r g announced

section

variable {g : Globals} {input : Text} {past : Conversation} {cl : Int} {mode : Mode}

/-- The message that is being handled, before anything has been told. -/
abbrev hearing (g : Globals) (cl : Int) (input : Text) (past : Conversation) :
    Option Dialogue :=
  talking g (some cl) (⟨input, []⟩ :: past)

/-- Code that keeps the flags leaves the mode to the response code. -/
theorem dispatched_of_sameDrive {r : SmdResponseCode} {g' : Globals} {announced : List Text}
    (hg : g.Tidy) (hsame : g.SameDrive g') (hcode : r ∈ mode.codes input)
    (hannounces : mode.Announces input r announced) (hready : r ≠ .readyForAssembledMove)
    (hmode : mode.after ⟨input, announced ++ (responseLine r).toList⟩ = g.mode)
    (haddressed : Dialogue.Addressed ⟨g, some cl, ⟨input, []⟩ :: past⟩) :
    Dispatched mode input past cl r g' announced where
  code := hcode
  announces := hannounces
  tidy := by
    rw [Globals.answered_of_ne hready]
    exact hsame.tidy hg
  mode := by
    rw [Globals.answered_of_ne hready, hsame.mode]
    exact hmode
  addressed _ := addressed_told haddressed hsame.deviceIp

/-- Commands apart from the client. -/
theorem dispatched_of_apart {p : Server SmdResponseCode} (hp : Apart p)
    (hcodes : ReturnsOneOf (mode.codes input) p)
    (hready : .readyForAssembledMove ∉ mode.codes input) (hg : g.Tidy)
    (hmode : ∀ r ∈ mode.codes input, mode.after ⟨input, (responseLine r).toList⟩ = g.mode)
    (haddressed : Dialogue.Addressed ⟨g, some cl, ⟨input, []⟩ :: past⟩) :
    p.Safe dialogueMonitor (DispatchedAfter mode input past cl) (hearing g cl input past) := by
  refine ((dialogue_of_apart hp haddressed).and_returns hcodes).mono ?_
  rintro r _ ⟨⟨g', rfl, hsame⟩, hr⟩
  have hne : r ≠ .readyForAssembledMove := fun heq => hready (heq ▸ hr)
  exact ⟨g', [], rfl, dispatched_of_sameDrive hg hsame hr (Or.inl rfl) hne (hmode r hr) haddressed⟩

/-- Commands that have the registers read for the client. -/
theorem dispatched_smdReadRegisters {readType : SmdRegisterReadType}
    (hcodes : mode.codes input = [.commandFailed, .handledByClient])
    (hread : mode.readType? input = some readType) (hg : g.Tidy)
    (hmode : ∀ told, mode.after ⟨input, told⟩ = g.mode)
    (haddressed : Dialogue.Addressed ⟨g, some cl, ⟨input, []⟩ :: past⟩) :
    (smdReadRegisters readType cl).Safe dialogueMonitor (DispatchedAfter mode input past cl)
      (hearing g cl input past) := by
  refine ((dialogue_smdReadRegisters haddressed).and_returns
    (returns_smdReadRegisters readType cl)).mono ?_
  rintro r _ ⟨⟨told, rfl, htold⟩, hr⟩
  have hne : r ≠ .readyForAssembledMove := by
    rintro rfl
    simp at hr
  refine ⟨g, told, rfl, dispatched_of_sameDrive hg (.refl g) ?_ ?_ hne (hmode _) haddressed⟩
  · rw [hcodes]
    exact hr
  · exact htold.imp id fun h => Or.inr ⟨readType, hread, h⟩

/-! ## The connection -/

/-- With the connection closed no flag is set. -/
theorem dialogue_smdCloseCommandConnection {client : Option Int} {conversation : Conversation}
    (hg : g.Tidy) :
    smdCloseCommandConnection.Safe dialogueMonitor
      (fun _ q' => ∃ g', q' = talking g' client conversation ∧ g'.Tidy ∧ g'.smdConnected = 0)
      (talking g client conversation) := by
  have hclosed : g.smdConnected ≠ 1 → ∃ g',
      talking g client conversation = talking g' client conversation ∧ g'.Tidy ∧
        g'.smdConnected = 0 :=
    fun hnot => ⟨g, rfl, hg, hg.flags.smdConnected.resolve_right hnot⟩
  unfold smdCloseCommandConnection
  refine dialogue_getGlobals ?_
  cases hctx : g.smdCommandConnection with
  | none =>
      refine hclosed fun hconnected => ?_
      obtain ⟨ctx, hsome, _⟩ := hg.connected hconnected
      rw [hctx] at hsome
      cases hsome
  | some ctx =>
      refine Program.Safe.ite (fun hopen => ?_) fun hnot => ?_
      · refine dialogue_ask trivial fun _ => dialogue_ask trivial fun _ => ?_
        refine dialogue_assign (dialogue_assign (dialogue_assign (dialogue_assign ?_)))
        refine ⟨trivial, fun _ _ =>
          ⟨_, rfl, ⟨⟨Or.inl rfl, Or.inl rfl, Or.inl rfl⟩, ?_, ?_, ?_⟩, rfl⟩⟩
        · intro hone
          cases hone
        · exact fun _ => ⟨rfl, rfl⟩
        · intro hone
          cases hone
      -- the test of the pointer fails only when nothing is connected
      · refine hclosed fun hconnected => ?_
        obtain ⟨ctx', hsome, hallocated⟩ := hg.connected hconnected
        rw [hctx] at hsome
        cases hsome
        exact hnot ⟨hallocated, hconnected⟩

/-- A connection to the drive is made or refused. -/
theorem dialogue_smdOpenCommandConnection {client : Option Int} {conversation : Conversation}
    (hg : g.Tidy) (hclosed : g.smdConnected = 0)
    (haddressed : Dialogue.Addressed ⟨g, client, conversation⟩) :
    smdOpenCommandConnection.Safe dialogueMonitor
      (fun r q' => ∃ g', q' = talking g' client conversation ∧ g'.Tidy ∧
        g'.deviceIp = g.deviceIp ∧
          ((r = .noRouteToHost ∧ g'.mode = .disconnected) ∨
            r = .connectSuccess ∧ g'.mode = .ordinary)) (talking g client conversation) := by
  obtain ⟨hwaiting, hmanual⟩ := hg.closed hclosed
  have hexclusive : g.statusWaitingForAssembledMove = 1 → g.statusManualModeEnable ≠ 1 := by
    omega
  unfold smdOpenCommandConnection
  refine dialogue_ask trivial fun ctx => dialogue_assign ⟨haddressed, fun ip _ => ?_⟩
  have hrefused : Program.Safe dialogueMonitor (do
      let e ← modbusErrno ctx
      setErrno e
      modbusFree ctx
      assign (.smdConnected 0)
      pure SmdResponseCode.noRouteToHost)
      (fun r q' => ∃ g', q' = talking g' client conversation ∧ g'.Tidy ∧
        g'.deviceIp = g.deviceIp ∧
          ((r = .noRouteToHost ∧ g'.mode = .disconnected) ∨
            r = .connectSuccess ∧ g'.mode = .ordinary))
      (talking (g.assign (.smdCommandConnection (some ctx))) client conversation) := by
    refine dialogue_ask trivial fun e => dialogue_ask trivial fun _ => ?_
    refine dialogue_ask trivial fun _ => dialogue_assign ⟨_, rfl, ?_, rfl, Or.inl ⟨rfl, rfl⟩⟩
    refine ⟨⟨Or.inl rfl, Or.inl hwaiting, Or.inl hmanual⟩, ?_, ?_, hexclusive⟩
    · intro hone
      cases hone
    · exact fun _ => ⟨hwaiting, hmanual⟩
  refine Program.Safe.ite (fun _ => hrefused) fun _ => ⟨trivial, fun connected hconnected => ?_⟩
  refine Program.Safe.ite (fun _ => hrefused) fun hopened => ?_
  -- modbus_connect fails on NULL, so the open context was allocated
  have hallocated : ctx.session.allocated = true := by
    have hconnects : connected = ctx.session.connects := hconnected
    rw [hconnects] at hopened
    unfold Session.connects at hopened
    simp only [Bool.not_eq_true', Bool.not_eq_false, Bool.and_eq_true] at hopened
    exact hopened.1
  refine dialogue_assign ⟨_, rfl, ?_, rfl, Or.inr ⟨rfl, ?_⟩⟩
  · refine ⟨⟨Or.inr rfl, Or.inl hwaiting, Or.inl hmanual⟩, ?_, ?_, hexclusive⟩
    · exact fun _ => ⟨ctx, rfl, hallocated⟩
    · intro hzero
      cases hzero
  · show (if (1 : Int) = 0 then Mode.disconnected
      else if g.statusWaitingForAssembledMove = 1 then .loading
      else if g.statusManualModeEnable = 1 then .manual else .ordinary) = _
    simp [hwaiting, hmanual]

/-! ## The modes -/

/-- A message without effect on the globals. -/
theorem dispatched_pure {r : SmdResponseCode} (hcode : r ∈ mode.codes input) (hg : g.Tidy)
    (hready : r ≠ .readyForAssembledMove)
    (hmode : mode.after ⟨input, (responseLine r).toList⟩ = g.mode)
    (haddressed : g.smdConnected = 1 →
      Dialogue.Addressed ⟨g, some cl, ⟨input, []⟩ :: past⟩) :
    (pure r : Server SmdResponseCode).Safe dialogueMonitor (DispatchedAfter mode input past cl)
      (hearing g cl input past) := by
  refine ⟨g, [], rfl, hcode, Or.inl rfl, ?_, ?_, haddressed⟩
  · rwa [Globals.answered_of_ne hready]
  · rw [Globals.answered_of_ne hready]
    exact hmode

theorem dispatched_handleConnect (hbegins : "connect".toList <+: input) (hg : g.Tidy)
    (hclosed : g.smdConnected = 0) (hpast : clientProtocol.mode past = .disconnected) :
    (handleConnect input).Safe dialogueMonitor (DispatchedAfter .disconnected input past cl)
      (hearing g cl input past) := by
  have hcodes : Mode.disconnected.codes input =
      [.invalidParameter, .noRouteToHost, .connectSuccess] := if_pos hbegins
  have hmode : g.mode = .disconnected := hg.mode_eq_disconnected_iff.mpr hclosed
  have hrefused : (pure .invalidParameter : Server SmdResponseCode).Safe dialogueMonitor
      (DispatchedAfter .disconnected input past cl) (hearing g cl input past) := by
    refine dispatched_pure ?_ hg (by simp) ?_ fun hone => by omega
    · simp [hcodes]
    · rw [hmode]
      rfl
  unfold handleConnect withTokens
  refine Program.Safe.ite (fun _ => hrefused) fun _ => ?_
  refine Program.Safe.ite (fun _ => hrefused) fun _ => ?_
  refine Program.Safe.ite (fun _ => dialogue_abort) fun _ => dialogue_assign ?_
  -- the message names the address, since there has been no connection
  have haddress : Conversation.address (⟨input, []⟩ :: past) = addressNamed input := if_pos hpast
  have haddressed : Dialogue.Addressed ⟨g.assign (.deviceIp (some (deviceIpOf
      ((tokenizeClientInput input 2).token 1)))), some cl, ⟨input, []⟩ :: past⟩ := by
    show some _ = some _
    rw [haddress]
    rfl
  have hassigned : (g.assign (.deviceIp (some (deviceIpOf
      ((tokenizeClientInput input 2).token 1))))).Tidy :=
    ⟨⟨hg.flags.1, hg.flags.2, hg.flags.3⟩, hg.connected, hg.closed, hg.exclusive⟩
  refine (dialogue_smdOpenCommandConnection hassigned hclosed haddressed).mono ?_
  rintro r _ ⟨g', rfl, htidy, hip, hopened⟩
  refine ⟨g', [], rfl, ?_⟩
  have haddressed' : g'.smdConnected = 1 →
      Dialogue.Addressed ⟨g', some cl, ⟨input, []⟩ :: past⟩ := fun _ => hip.trans haddressed
  rcases hopened with ⟨rfl, hmode'⟩ | ⟨rfl, hmode'⟩
  · exact ⟨by simp [hcodes], Or.inl rfl, htidy, hmode'.symm, haddressed'⟩
  · exact ⟨by simp [hcodes], Or.inl rfl, htidy, hmode'.symm, haddressed'⟩

/-- The flag is set whether or not the controller can be started. -/
theorem dispatched_startManualMode (hselects : Command.Selects input .startManualMode)
    (hg : g.Tidy) (hconnected : g.smdConnected = 1) (hwaiting : g.statusWaitingForAssembledMove = 0)
    (haddressed : Dialogue.Addressed ⟨g, some cl, ⟨input, []⟩ :: past⟩) :
    (assign (.statusManualModeEnable 1) >>= fun _ => smdSetManualMode).Safe dialogueMonitor
      (DispatchedAfter .ordinary input past cl) (hearing g cl input past) := by
  have hafter : ∀ told, Mode.ordinary.after ⟨input, told⟩ = .manual :=
    Mode.after_of_selects hselects
  have hcodes : Mode.ordinary.codes input = [.commandSuccess, .commandFailed] :=
    Mode.codes_of_selects hselects
  have hstarted : ∀ r : SmdResponseCode, r ∈ [.commandSuccess, .commandFailed] →
      DispatchedAfter .ordinary input past cl r
        (hearing (g.assign (.statusManualModeEnable 1)) cl input past) := by
    intro r hr
    have hready : r ≠ .readyForAssembledMove := by
      rintro rfl
      simp at hr
    refine ⟨_, [], rfl, hcodes ▸ hr, Or.inl rfl, ?_, ?_, fun _ => haddressed⟩
    · rw [Globals.answered_of_ne hready]
      refine ⟨⟨hg.flags.1, hg.flags.2, Or.inr rfl⟩, hg.connected, ?_, ?_⟩
      · intro hzero
        have hzero' : g.smdConnected = 0 := hzero
        omega
      · intro hone
        have hone' : g.statusWaitingForAssembledMove = 1 := hone
        omega
    · rw [Globals.answered_of_ne hready, hafter]
      show _ = (if g.smdConnected = 0 then Mode.disconnected
        else if g.statusWaitingForAssembledMove = 1 then .loading
        else if (1 : Int) = 1 then .manual else .ordinary)
      simp [hconnected, hwaiting]
  refine dialogue_assign (dialogue_ask trivial fun created => ?_)
  refine Program.Safe.ite (fun _ => hstarted _ (by simp)) fun _ => ?_
  exact dialogue_ask trivial fun _ => hstarted _ (by simp)

theorem dispatched_disconnect (hselects : Command.Selects input .disconnect) (hg : g.Tidy) :
    (smdCloseCommandConnection >>= fun _ => pure .disconnectSuccess).Safe dialogueMonitor
      (DispatchedAfter .ordinary input past cl) (hearing g cl input past) := by
  refine dialogue_bind ((dialogue_smdCloseCommandConnection hg).mono ?_)
  rintro _ _ ⟨g', rfl, htidy, hzero⟩
  refine dispatched_pure ?_ htidy (by simp) ?_ fun hone => by omega
  · rw [Mode.codes_of_selects hselects]
    simp [Command.codes]
  · rw [htidy.mode_eq_disconnected_iff.mpr hzero]
    exact Mode.after_of_selects hselects _

/-- `programAssembledMove`, after which a profile is expected. -/
theorem dispatched_programAssembledMove
    (hselects : Command.Selects input .programAssembledMove) (hg : g.Tidy)
    (hmode : g.mode = .ordinary) (hmanual : g.statusManualModeEnable = 0)
    (hconnected : g.smdConnected = 1)
    (haddressed : Dialogue.Addressed ⟨g, some cl, ⟨input, []⟩ :: past⟩) :
    smdProgramAssembledMove.Safe dialogueMonitor (DispatchedAfter .ordinary input past cl)
      (hearing g cl input past) := by
  have hapart : Apart (Command.programAssembledMove.code input cl) :=
    apart_code rfl (by simp) (by simp)
  refine ((dialogue_of_apart hapart haddressed).and_returns returns_smdProgramAssembledMove).mono ?_
  rintro r _ ⟨⟨g', rfl, hsame⟩, hr⟩
  have hcode : r ∈ Mode.ordinary.codes input := by
    rw [Mode.codes_of_selects hselects]
    exact hr
  have hafter := Mode.after_of_selects hselects ([] ++ (responseLine r).toList)
  rcases List.mem_pair.mp hr with rfl | rfl
  · refine ⟨g', [], rfl, hcode, Or.inl rfl, ?_, ?_, fun _ =>
      addressed_told haddressed hsame.deviceIp⟩
    · have htidy := hsame.tidy hg
      have hconnected' : g'.smdConnected = 1 := hsame.flags.smdConnected.trans hconnected
      have hmanual' : g'.statusManualModeEnable = 0 :=
        hsame.flags.statusManualModeEnable.trans hmanual
      refine ⟨⟨htidy.flags.1, Or.inr rfl, htidy.flags.3⟩, htidy.connected, ?_, ?_⟩
      · intro hzero
        have hzero' : g'.smdConnected = 0 := hzero
        omega
      · intro _ hone
        have hone' : g'.statusManualModeEnable = 1 := hone
        omega
    · rw [hafter]
      show Mode.loading = (if g'.smdConnected = 0 then .disconnected
        else if (1 : Int) = 1 then .loading else _)
      rw [hsame.flags.smdConnected, hconnected]
      rfl
  · refine ⟨g', [], rfl, ?_⟩
    refine dispatched_of_sameDrive hg hsame hcode (Or.inl rfl) (by simp) ?_ haddressed
    rw [hafter, hmode]
    rfl

/-- The commands of the ordinary mode. -/
theorem dispatched_parseScenario1 (hg : g.Tidy) (hconnected : g.smdConnected = 1)
    (hwaiting : g.statusWaitingForAssembledMove = 0) (hmanual : g.statusManualModeEnable = 0)
    (hmode : g.mode = .ordinary)
    (haddressed : Dialogue.Addressed ⟨g, some cl, ⟨input, []⟩ :: past⟩) :
    (parseScenario1 input cl).Safe dialogueMonitor (DispatchedAfter .ordinary input past cl)
      (hearing g cl input past) := by
  by_cases hnone : ∀ c, ¬ Command.Selects input c
  · rw [Command.parseScenario1_of_not_selects hnone]
    have hselected := Command.selected?_eq_none hnone
    refine dispatched_pure ?_ hg (by simp) ?_ fun _ => haddressed
    · simp [Mode.codes, hselected]
    · simp [Mode.after, hselected, hmode]
  · simp only [not_forall, not_not] at hnone
    obtain ⟨c, hselects⟩ := hnone
    rw [Command.parseScenario1_of_selects hselects]
    have hcodes := Mode.codes_of_selects hselects
    have hread := Mode.readType?_of_selects hselects
    have hafter := Mode.after_of_selects hselects
    -- the rest of the commands leave the flags alone
    have hordinary : (∀ last, c.modeAfter last = .ordinary) →
        ∀ told, Mode.ordinary.after ⟨input, told⟩ = g.mode := by
      intro hkeeps told
      rw [hafter, hkeeps, hmode]
    have hplain : c.readType? = none → (∀ last, c.modeAfter last = .ordinary) →
        .readyForAssembledMove ∉ c.codes → c ≠ .disconnect → c ≠ .startManualMode →
        (c.code input cl).Safe dialogueMonitor (DispatchedAfter .ordinary input past cl)
          (hearing g cl input past) := by
      intro hnoread hkeeps hready hdisconnect hstart
      refine dispatched_of_apart (apart_code hnoread hdisconnect hstart) ?_ ?_ hg
        (fun _ _ => hordinary hkeeps _) haddressed
      · rw [hcodes]
        exact returns_code c
      · rw [hcodes]
        exact hready
    cases c with
    | disconnect => exact dispatched_disconnect hselects hg
    | startManualMode =>
        exact dispatched_startManualMode hselects hg hconnected hwaiting haddressed
    | programAssembledMove =>
        exact dispatched_programAssembledMove hselects hg hmode hmanual hconnected haddressed
    | readInputRegisters =>
        exact dispatched_smdReadRegisters hcodes hread hg (hordinary fun _ => rfl) haddressed
    | readCurrentConfiguration =>
        exact dispatched_smdReadRegisters hcodes hread hg (hordinary fun _ => rfl) haddressed
    | _ => exact hplain rfl (fun _ => rfl) (by simp [Command.codes]) (by simp) (by simp)

/-- `stopManualMode` ends in the ordinary mode, or without a connection. -/
theorem dispatched_handleStopManualMode (hbegins : "stopManualMode".toList <+: input)
    (hg : g.Tidy) (hconnected : g.smdConnected = 1)
    (hwaiting : g.statusWaitingForAssembledMove = 0)
    (haddressed : Dialogue.Addressed ⟨g, some cl, ⟨input, []⟩ :: past⟩) :
    handleStopManualMode.Safe dialogueMonitor (DispatchedAfter .manual input past cl)
      (hearing g cl input past) := by
  have hcodes : Mode.manual.codes input = [.commandSuccess, .commandFailed] :=
    if_pos (Or.inl hbegins)
  have hafter : ∀ told, Mode.manual.after ⟨input, told⟩ =
      if told.getLast? = responseLine .commandSuccess then .ordinary else .disconnected :=
    fun told => if_pos hbegins
  have hcleared : (g.assign (.statusManualModeEnable 0)).Tidy := by
    refine ⟨⟨hg.flags.1, hg.flags.2, Or.inl rfl⟩, hg.connected, ?_, ?_⟩
    · exact fun hzero => ⟨(hg.closed hzero).1, rfl⟩
    · intro _ hone
      cases hone
  unfold handleStopManualMode
  refine dialogue_assign (dialogue_bind_of_apart (apart_sendModbusCommand _) haddressed ?_)
  intro response g' hsame
  refine Program.Safe.ite (fun _ => dialogue_bind ?_) fun _ => dialogue_ask trivial fun _ => ?_
  · refine (dialogue_smdCloseCommandConnection (hsame.tidy hcleared)).mono ?_
    rintro _ _ ⟨g'', rfl, htidy, hzero⟩
    refine dialogue_ask trivial fun _ => ?_
    refine dispatched_pure (by simp [hcodes]) htidy (by simp) ?_ fun hone => by omega
    rw [hafter, htidy.mode_eq_disconnected_iff.mpr hzero]
    rfl
  · refine dispatched_pure (by simp [hcodes]) (hsame.tidy hcleared) (by simp) ?_ fun _ =>
      addressed_told haddressed hsame.deviceIp
    rw [hafter, hsame.mode]
    show Mode.ordinary = (if g.smdConnected = 0 then .disconnected
      else if g.statusWaitingForAssembledMove = 1 then .loading
      else if (0 : Int) = 1 then .manual else .ordinary)
    simp [hconnected, hwaiting]

/-- The commands of the manual mode. -/
theorem dispatched_parseScenario2 (hg : g.Tidy) (hconnected : g.smdConnected = 1)
    (hwaiting : g.statusWaitingForAssembledMove = 0) (hmode : g.mode = .manual)
    (haddressed : Dialogue.Addressed ⟨g, some cl, ⟨input, []⟩ :: past⟩) :
    (parseScenario2 input cl).Safe dialogueMonitor (DispatchedAfter .manual input past cl)
      (hearing g cl input past) := by
  unfold parseScenario2
  refine Program.Safe.ite (fun hstop => ?_) fun hstop => ?_
  · exact dispatched_handleStopManualMode (startsWith_iff.mp hstop) hg hconnected hwaiting
      haddressed
  rw [startsWith_iff] at hstop
  have hkeeps : ∀ told, Mode.manual.after ⟨input, told⟩ = g.mode := by
    intro told
    rw [hmode]
    exact if_neg hstop
  refine Program.Safe.ite (fun hreset => ?_) fun hreset => ?_
  · have hcodes : Mode.manual.codes input = [.commandSuccess, .commandFailed] :=
      if_pos (Or.inr (startsWith_iff.mp hreset))
    refine dispatched_of_apart (apart_sendModbusCommand _) ?_ (by simp [hcodes]) hg
      (fun _ _ => hkeeps _) haddressed
    rw [hcodes]
    exact returns_sendModbusCommand _
  rw [startsWith_iff] at hreset
  have hneither : ¬ ("stopManualMode".toList <+: input ∨ "resetErrors".toList <+: input) :=
    not_or.mpr ⟨hstop, hreset⟩
  refine Program.Safe.ite (fun hread => ?_) fun hread => ?_
  · have hbegins := startsWith_iff.mp hread
    refine dispatched_smdReadRegisters ?_ (if_pos hbegins) hg hkeeps haddressed
    show (if _ then _ else if _ then _ else _) = _
    rw [if_neg hneither, if_pos hbegins]
  · rw [startsWith_iff] at hread
    refine dispatched_pure ?_ hg (by simp) (hkeeps _) fun _ => haddressed
    show _ ∈ (if _ then _ else if _ then _ else _)
    rw [if_neg hneither, if_neg hread]
    simp

/-- What an upload has told: its segments, in their order. -/
theorem dialogue_smdParseAndUploadAssembledMove
    (haddressed : Dialogue.Addressed ⟨g, some cl, ⟨input, []⟩ :: past⟩) :
    (smdParseAndUploadAssembledMove input cl).Safe dialogueMonitor
      (fun _ q' => ∃ g' lines, q' = talking g' (some cl) (⟨input, lines⟩ :: past) ∧
        g.SameDrive g' ∧ ∃ n ≤ 16,
          lines.Sublist ((List.range n).map fun i => segmentAcceptedMessage i n))
      (hearing g cl input past) := by
  have hnothing : ∃ g' lines, hearing g cl input past =
      talking g' (some cl) (⟨input, lines⟩ :: past) ∧ g.SameDrive g' ∧ ∃ n ≤ 16,
        lines.Sublist ((List.range n).map fun i => segmentAcceptedMessage i n) :=
    ⟨g, [], rfl, .refl g, 0, by omega, List.nil_sublist _⟩
  unfold smdParseAndUploadAssembledMove
  refine dialogue_ask trivial fun parsed => ?_
  cases parsed with
  | none => exact hnothing
  | some root =>
      refine dialogue_ask trivial fun stack => ?_
      cases collectSegments root.child 0 ⟨stack.segments, 0, []⟩ with
      | error fault => exact dialogue_abort
      | ok table =>
          refine Program.Safe.ite (fun _ => hnothing) fun hsize => ?_
          split
          · exact dialogue_abort
          · split
            · exact hnothing
            · rename_i moveType _
              have haddressed' : Dialogue.Addressed
                  ⟨g.assign (.statusTypeAssembledMove moveType), some cl, ⟨input, []⟩ :: past⟩ :=
                haddressed
              refine dialogue_assign ((dialogue_uploadSegments _ _ _ haddressed').mono ?_)
              rintro _ _ ⟨g', lines, rfl, hsame, hlines⟩
              have hle : table.numSegments ≤ 16 := by omega
              have hlength : ((List.ofFn table.segments).take table.numSegments).length =
                  table.numSegments := by
                rw [List.length_take, List.length_ofFn]
                omega
              rw [hlength, ← List.range_eq_range'] at hlines
              have htyped : g.SameDrive (g.assign (.statusTypeAssembledMove moveType)) :=
                ⟨⟨rfl, rfl, rfl, rfl⟩, rfl⟩
              exact ⟨g', lines, rfl, htyped.trans hsame, _, hle, hlines⟩

/-- A profile, whatever comes of it, leaves the ordinary mode. -/
theorem dispatched_parseScenario3 (hg : g.Tidy) (hconnected : g.smdConnected = 1)
    (hmanual : g.statusManualModeEnable = 0)
    (haddressed : Dialogue.Addressed ⟨g, some cl, ⟨input, []⟩ :: past⟩) :
    (parseScenario3 input cl).Safe dialogueMonitor (DispatchedAfter .loading input past cl)
      (hearing g cl input past) := by
  have hdone : ∀ {r : SmdResponseCode} {g' : Globals} {lines : List Text}, g.SameDrive g' →
      r ∈ [.assembledMoveAccepted, .commandFailed] →
      (∃ n ≤ 16, lines.Sublist ((List.range n).map fun i => segmentAcceptedMessage i n)) →
      ∀ g'', (g'.assign (.statusWaitingForAssembledMove 0)).SameDrive g'' →
        DispatchedAfter .loading input past cl r
          (talking g'' (some cl) (⟨input, lines⟩ :: past)) := by
    intro r g' lines hsame hr hlines g'' hsame'
    have hready : r ≠ .readyForAssembledMove := by
      rintro rfl
      simp at hr
    have htidy := hsame.tidy hg
    have hconnected' : g'.smdConnected = 1 := hsame.flags.smdConnected.trans hconnected
    have hmanual' : g'.statusManualModeEnable = 0 :=
      hsame.flags.statusManualModeEnable.trans hmanual
    have hcleared : (g'.assign (.statusWaitingForAssembledMove 0)).Tidy := by
      refine ⟨⟨htidy.flags.1, Or.inl rfl, htidy.flags.3⟩, htidy.connected, ?_, ?_⟩
      · exact fun hzero => ⟨rfl, (htidy.closed hzero).2⟩
      · intro hone
        cases hone
    refine ⟨g'', lines, rfl, dispatched_of_sameDrive hcleared hsame' hr ?_ hready ?_ ?_⟩
    · exact Or.inr (Or.inl ⟨rfl, hlines⟩)
    · show Mode.ordinary = (if g'.smdConnected = 0 then Mode.disconnected
        else if (0 : Int) = 1 then .loading
        else if g'.statusManualModeEnable = 1 then .manual else .ordinary)
      simp [hconnected', hmanual']
    · exact addressed_told haddressed hsame.deviceIp
  unfold parseScenario3
  refine dialogue_bind ((dialogue_smdParseAndUploadAssembledMove haddressed).mono ?_)
  rintro response _ ⟨g', lines, rfl, hsame, hlines⟩
  refine Program.Safe.ite (fun _ => dialogue_assign ?_) fun _ => dialogue_assign ?_
  · exact hdone hsame (by simp) hlines _ (.refl _)
  · refine dialogue_bind_of_apart (apart_sendModbusCommand _)
      (addressed_told haddressed hsame.deviceIp) fun _ g'' hsame' => ?_
    exact hdone hsame (by simp) hlines g'' hsame'

/-- A message is dispatched as the protocol says for the mode that the conversation has
led to. -/
theorem dispatched_dispatchIn (hsettled : Dialogue.Settled ⟨g, some cl, past⟩) :
    (dispatchIn g input cl).Safe dialogueMonitor (DispatchedAfter g.mode input past cl)
      (hearing g cl input past) := by
  have hg : g.Tidy := hsettled.tidy
  have hpast : clientProtocol.mode past = g.mode := hsettled.mode
  -- while there is a connection the message does not count as naming an address
  have haddressed : g.smdConnected = 1 →
      Dialogue.Addressed ⟨g, some cl, ⟨input, []⟩ :: past⟩ := by
    intro hone
    have hmode : clientProtocol.mode past ≠ .disconnected := by
      rw [hpast, Ne, hg.mode_eq_disconnected_iff]
      omega
    have haddress : Conversation.address (⟨input, []⟩ :: past) = past.address := if_neg hmode
    show g.deviceIp = some (deviceIpOf _)
    rw [haddress]
    exact hsettled.addressed hone
  unfold dispatchIn
  rcases hg.cases with ⟨hclosed, hmode⟩ | ⟨hopen, hwaiting, hmanual, hmode⟩ |
    ⟨hopen, hwaiting, hmanual, hmode⟩ | ⟨hopen, hwaiting, hmanual, hmode⟩
  · rw [if_pos hclosed, hmode]
    refine Program.Safe.ite (fun hbegins => ?_) fun hbegins => ?_
    · exact dispatched_handleConnect (startsWith_iff.mp hbegins) hg hclosed (hpast.trans hmode)
    · rw [startsWith_iff] at hbegins
      have hcodes : Mode.disconnected.codes input = [.invalidInput] := if_neg hbegins
      refine dispatched_pure (by simp [hcodes]) hg (by simp) ?_ fun hone => by omega
      rw [hmode]
      rfl
  · rw [if_neg (by omega), if_pos ⟨hopen, hwaiting, hmanual⟩, hmode]
    exact dispatched_parseScenario1 hg hopen hwaiting hmanual hmode (haddressed hopen)
  · rw [if_neg (by omega), if_neg (by omega), if_pos ⟨hopen, hwaiting, hmanual⟩, hmode]
    exact dispatched_parseScenario2 hg hopen hwaiting hmode (haddressed hopen)
  · rw [if_neg (by omega), if_neg (by omega), if_neg (by omega), if_pos ⟨hopen, hwaiting⟩, hmode]
    exact dispatched_parseScenario3 hg hopen hmanual (haddressed hopen)

end

end SmdControlServer
