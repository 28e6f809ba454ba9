import SmdControlServer.Commands.Footprint
import SmdControlServer.Drive.Writes

/-!
# Conversions and history

`convert_string_to_long_int` looks at `errno` and does not clear it, so a
conversion depends on its text alone exactly while `errno` is not `ERANGE`.  A run
stays in such states when no token that it converts overflows `long`, and then the
history of a state does not matter: states with the same mode and the same
surroundings do the same with the same message.
-/

namespace SmdControlServer

open CString Interaction

/-! ## One conversion -/

/-- The value that a conversion should yield. -/
def textValue (str : Text) : Int :=
  convertedValue false str

/-- Conversions in this state yield what their text says. -/
def ConvertsByText (w : World) : Prop :=
  ∀ str n w', Runs server (convertStringToLongInt str) w n w' → n = textValue str

theorem convertsByText_iff {w : World} : ConvertsByText w ↔ w.stuck = false := by
  constructor
  · intro h
    have hfive := h "5".toList _ _ (runs_convertStringToLongInt_iff.mpr ⟨rfl, rfl⟩)
    rw [Latch.read_strtol] at hfive
    cases hstuck : w.stuck with
    | false => rfl
    | true =>
        have hlatch : w.latch.stuck = true := hstuck
        rw [hlatch] at hfive
        exact absurd hfive (by decide)
  · intro hstuck str n w' hrun
    obtain ⟨rfl, _⟩ := runs_convertStringToLongInt_iff.mp hrun
    have hlatch : w.latch.stuck = false := hstuck
    rw [Latch.read_strtol, hlatch]
    rfl

/-! ## Two histories -/

/-- The same mode, and the same surroundings from now on. -/
structure World.SameFuture (s t : World) : Prop where
  globals : t.globals = s.globals
  drive : t.drive = s.drive
  clientReads : t.clientReads = s.clientReads
  clientWrites : t.clientWrites = s.clientWrites
  accepts : t.accepts = s.accepts
  manualReads : t.manualReads = s.manualReads
  controllerThreads : t.controllerThreads = s.controllerThreads
  perrors : t.perrors = s.perrors
  memory : t.memory = s.memory
  cJsonParse : t.cJsonParse = s.cJsonParse
  contextIds : t.contextIds = s.contextIds

theorem World.SameFuture.eq_withPast {s t : World} (h : s.SameFuture t) :
    t = s.withPast t.errno t.log := by
  obtain ⟨h₁, h₂, h₃, h₄, h₅, h₆, h₇, h₈, h₉, h₁₀, h₁₁⟩ := h
  cases t
  simp only at h₁ h₂ h₃ h₄ h₅ h₆ h₇ h₈ h₉ h₁₀ h₁₁
  subst h₁ h₂ h₃ h₄ h₅ h₆ h₇ h₈ h₉ h₁₀ h₁₁
  rfl

/-- A request is answered alike and logged alike, whatever the past, as long as
both pasts agree on `ERANGE`. -/
theorem handle_withPast {o : Request} {w : World} {r : Answer o × World}
    (h : handle o w = some r) {e : Int} {log : List Event}
    (hstuck : (w.withPast e log).stuck = w.stuck) :
    ∃ e' es, r.2.log = w.log ++ es ∧
      handle o (w.withPast e log) = some (r.1, r.2.withPast e' (log ++ es)) ∧
      (r.2.withPast e' (log ++ es)).stuck = r.2.stuck := by
  have hnil : w.log = w.log ++ [] := (List.append_nil _).symm
  -- the past shows in the answer to errnoIsErange only, and there as far as hstuck goes
  cases o with
  | errnoIsErange =>
      cases h
      refine ⟨e, [], hnil, ?_, hstuck⟩
      have hanswer : decide ((w.withPast e log).errno = erange) = decide (w.errno = erange) :=
        hstuck
      simp only [handle, hanswer, List.append_nil]
  | setErrno n =>
      cases h
      exact ⟨n, [], hnil, by simp [handle, World.withPast, World.setErrno], rfl⟩
  | perror =>
      cases h
      refine ⟨(w.withPast e log).afterPerror.errno, [], hnil, by rw [List.append_nil]; rfl, ?_⟩
      show (w.withPast e log).afterPerror.stuck = _
      rw [World.stuck_afterPerror, World.stuck_afterPerror, hstuck]
      rfl
  | deviceIp =>
      rw [handle_deviceIp] at h ⊢
      cases h
      exact ⟨e, [], hnil, by rw [List.append_nil]; rfl, hstuck⟩
  | pthreadCreate routine =>
      cases routine <;> cases h <;> exact ⟨e, [_], rfl, rfl, hstuck⟩
  | readClient cl =>
      cases h
      cases hread : w.clientReads.head with
      | failed n =>
          refine ⟨n, [_], rfl, ?_, rfl⟩
          simp [handle, World.withPast, hread, World.record]
      | received chunk =>
          refine ⟨e, [_], rfl, ?_, hstuck⟩
          simp [handle, World.withPast, hread, World.record]
      | endOfFile =>
          refine ⟨e, [_], rfl, ?_, hstuck⟩
          simp [handle, World.withPast, hread, World.record]
  | writeClient cl message =>
      cases h
      cases hwrite : w.clientWrites.head with
      | none =>
          refine ⟨e, [.clientWritten cl message], rfl, ?_, hstuck⟩
          simp [handle, World.withPast, hwrite, World.record]
      | some n =>
          refine ⟨e, [], hnil, ?_, hstuck⟩
          simp [handle, World.withPast, hwrite]
  | readManualFile =>
      cases h
      cases hread : w.manualReads.head with
      | contents bytes =>
          refine ⟨e, [], hnil, ?_, hstuck⟩
          simp [handle, World.withPast, hread]
      | noAccess n =>
          refine ⟨n, [], hnil, ?_, rfl⟩
          simp [handle, World.withPast, hread]
      | openFailed n =>
          refine ⟨n, [], hnil, ?_, rfl⟩
          simp [handle, World.withPast, hread]
      | readFailed n =>
          refine ⟨n, [], hnil, ?_, rfl⟩
          simp [handle, World.withPast, hread]
  | abort fault => cases h
  | globals => cases h; exact ⟨e, [], hnil, by rw [List.append_nil]; rfl, hstuck⟩
  | assign a => cases h; exact ⟨e, [], hnil, by rw [List.append_nil]; rfl, hstuck⟩
  | modbusErrno ctx => cases h; exact ⟨e, [], hnil, by rw [List.append_nil]; rfl, hstuck⟩
  | sleep n => cases h; exact ⟨e, [], hnil, by rw [List.append_nil]; rfl, hstuck⟩
  | uninitialised => cases h; exact ⟨e, [], hnil, by rw [List.append_nil]; rfl, hstuck⟩
  | cJsonParse text => cases h; exact ⟨e, [], hnil, by rw [List.append_nil]; rfl, hstuck⟩
  | _ => cases h; exact ⟨e, [_], rfl, rfl, hstuck⟩

/-- Code that runs in one state runs alike in a state with another past that
agrees on `ERANGE`: the same result, and the same new entries of the log. -/
theorem runs_withPast {α : Type} {p : Server α} {s t s' : World} {a : α}
    (h : Runs server p s a s') (hfuture : s.SameFuture t) (hstuck : t.stuck = s.stuck) :
    ∃ t', Runs server p t a t' ∧ newEvents t t' = newEvents s s' := by
  have hrelated := Runs.of_related
    (R := fun s₁ t₁ => ∃ e es, s₁.log = s.log ++ es ∧ t₁ = s₁.withPast e (t.log ++ es) ∧
      t₁.stuck = s₁.stuck)
    (fun o s₁ t₁ x s₂ hst hx => by
      obtain ⟨e, es, hlog, rfl, hst⟩ := hst
      obtain ⟨e', es', hlog', hx', hst'⟩ := handle_withPast hx hst
      refine ⟨_, hx', e', es ++ es', ?_, ?_, hst'⟩
      · rw [hlog', hlog, List.append_assoc]
      · rw [List.append_assoc])
    h (t := t) ⟨t.errno, [], by simp, by simpa using hfuture.eq_withPast, hstuck⟩
  obtain ⟨t', hrun, e, es, hlog, rfl, _⟩ := hrelated
  refine ⟨_, hrun, ?_⟩
  rw [newEvents_of_log es hlog]
  exact newEvents_of_log es rfl

/-! ## Code that does not set `ERANGE` -/

/-- The surroundings never fail with `ERANGE`, and `errno` is something else. -/
structure World.Unstuck (w : World) : Prop where
  stuck : w.stuck = false
  clientReads : ∀ k, w.clientReads.get k ≠ .failed erange
  clientWrites : ∀ k, w.clientWrites.get k ≠ some erange
  drive : ∀ k, (w.drive.get k).connectErrno ≠ erange

/-- Code that may do anything but set `ERANGE`. -/
def Rights.withoutErange : Rights where
  sends _ := True
  writes _ := True
  assigns _ := True
  notes n := n.OfCommand
  setsErrno e := e ≠ erange
  writes_of_sends _ _ _ _ := trivial

theorem Rights.ordinary_withoutErange : Rights.withoutErange.Ordinary where
  sends _ _ := trivial
  assigns _ _ := trivial
  notes _ hn := hn

theorem handle_unstuck {o : Request} (ho : Rights.withoutErange.policy.allows o)
    {w w' : World} {x : Answer o} (hw : w.Unstuck) (h : handle o w = some (x, w')) :
    Rights.withoutErange.policy.expects o x ∧ w'.Unstuck := by
  obtain ⟨hstuck, hreads, hwrites, hdrive⟩ := hw
  have htail : ∀ k, w.clientWrites.tail.get k ≠ some erange := fun k => hwrites (k + 1)
  have hnext : ∀ k, (w.drive.tail.get k).connectErrno ≠ erange := fun k => hdrive (k + 1)
  -- errno is set from streams that never hold ERANGE, or by the program, which may not
  cases o with
  | setErrno e =>
      cases h
      refine ⟨trivial, ?_, hreads, hwrites, hdrive⟩
      exact decide_eq_false ho
  | perror =>
      cases h
      refine ⟨trivial, ?_, hreads, hwrites, hdrive⟩
      rw [World.stuck_afterPerror, hstuck, Bool.false_and]
  | deviceIp =>
      rw [handle_deviceIp] at h
      cases h
      exact ⟨trivial, hstuck, hreads, hwrites, hdrive⟩
  | pthreadCreate routine =>
      have hstart : ∀ k, (w.startWorker.drive.get k).connectErrno ≠ erange := by
        intro k
        cases hthread : w.drive.head.threadCreated with
        | true => rw [World.startWorker_of_created hthread]; exact hdrive k
        | false => rw [World.startWorker_of_not_created hthread]; exact hnext k
      cases routine with
      | manualModeController =>
          cases h
          exact ⟨trivial, hstuck, hreads, hwrites, hdrive⟩
      | _ =>
          cases h
          exact ⟨trivial, hstuck, hreads, hwrites, hstart⟩
  | modbusNewTcp =>
      cases h
      exact ⟨hdrive 0, hstuck, hreads, hwrites, hnext⟩
  | modbusErrno ctx =>
      cases h
      exact ⟨rfl, hstuck, hreads, hwrites, hdrive⟩
  | readClient cl => cases ho
  | readManualFile => cases ho
  | writeClient cl message =>
      cases h
      refine ⟨?_, ?_⟩
      · rintro e he rfl
        exact hwrites 0 he
      · cases w.clientWrites.head <;> exact ⟨hstuck, hreads, htail, hdrive⟩
  | abort fault => cases h
  | _ => cases h; exact ⟨trivial, hstuck, hreads, hwrites, hdrive⟩

/-- None of the first `n` tokens but the command overflows `long`. -/
def TokensFit (input : Text) (n : Nat) : Prop :=
  numberOfTokens input = n →
    ∀ i, 1 ≤ i → i < n → (strtol ((input.splitOn comma).getD i [])).erange = false

/-- No token that the message has converted overflows `long`. -/
def ConversionsFit (input : Text) : Prop :=
  ∀ n, parameterTokens input = some n → TokensFit input n

theorem ConversionsFit.within {input : Text} (h : ConversionsFit input) (rights : Rights) :
    ConversionsWithin rights input := by
  intro n hn hcount i hi hlt herange
  rw [h n hn hcount i hi hlt] at herange
  cases herange

theorem unstuck_of_runs {α : Type} {p : Server α} (hp : Within Rights.withoutErange p)
    {w w' : World} {a : α} (hw : w.Unstuck) (h : Runs server p w a w') : w'.Unstuck :=
  Within.invariant Rights.ordinary_withoutErange.allowsStops
    (fun _ ho _ _ _ hs hx => handle_unstuck ho hs hx) hp hw h

theorem unstuck_parseScenario1 {input : Text} {cl : Int} (h : ConversionsFit input) :
    Within Rights.withoutErange (parseScenario1 input cl) := by
  have hfit := h.within Rights.withoutErange
  rcases parseScenario1_cases input cl with
    ⟨_, htokens, hdwell⟩ | ⟨_, htokens, hblend⟩ | hordinary
  · rw [hdwell]
    exact (composed_handleRunAssembledDwellMove (hfit 2 htokens) fun _ _ _ _ _ => trivial).within
  · rw [hblend]
    exact (composed_handleRunAssembledBlendMove (hfit 2 htokens) fun _ _ _ _ _ => trivial).within
  · exact hordinary _ Rights.ordinary_withoutErange hfit

theorem unstuck_parseSocketInput {w w' : World} {input : Text} {cl : Int}
    {r : SmdResponseCode} (hfit : w.InScenario1 → ConversionsFit input) (hw : w.Unstuck)
    (h : Runs server (parseSocketInput input cl) w r w') : w'.Unstuck := by
  have hordinary := Rights.ordinary_withoutErange
  rcases runs_parseSocketInput_cases h with
    ⟨hscenario, h⟩ | ⟨_, h⟩ | ⟨_, _, h⟩ | ⟨p, h, hp⟩
  · exact unstuck_of_runs (unstuck_parseScenario1 (hfit hscenario)) hw h
  · exact unstuck_of_runs (hordinary.plain.composed_parseScenario3 fun _ => trivial).within hw h
  · exact unstuck_of_runs (within_handleConnect hordinary.assigns trivial) hw h
  · exact unstuck_of_runs (hp _ hordinary) hw h

theorem unstuck_message {w w' : World} {input : Text} {cl : Int}
    (hfit : w.InScenario1 → ConversionsFit input) (hw : w.Unstuck)
    (h : Runs server (parseSmdResponseToClientInput input cl) w () w') : w'.Unstuck := by
  obtain ⟨r, w₁, hparse, hanswer⟩ := runs_parseSmdResponseToClientInput_iff.mp h
  have hnoted : (w.recordAll [.noted (.message input)]).Unstuck :=
    ⟨hw.stuck, hw.clientReads, hw.clientWrites, hw.drive⟩
  have hw₁ : w₁.Unstuck :=
    unstuck_parseSocketInput (w := w.recordAll [.noted (.message input)]) hfit hnoted hparse
  exact unstuck_of_runs (composed_answerClient trivial r).within
    hw₁ hanswer

theorem World.Unstuck.afterClientRead {w : World} (hw : w.Unstuck) (cl : Int) :
    (w.afterClientRead cl).Unstuck := by
  have hread := hw.clientReads 0
  have hnext : ∀ k, w.clientReads.tail.get k ≠ .failed erange := fun k => hw.clientReads (k + 1)
  unfold World.afterClientRead
  cases hhead : w.clientReads.head with
  | failed e =>
      have he : e ≠ erange := by
        intro he
        apply hread
        show w.clientReads.head = _
        rw [hhead, he]
      exact ⟨decide_eq_false he, hnext, hw.clientWrites, hw.drive⟩
  | received chunk => exact ⟨hw.stuck, hnext, hw.clientWrites, hw.drive⟩
  | endOfFile => exact ⟨hw.stuck, hnext, hw.clientWrites, hw.drive⟩

theorem World.Unstuck.afterMessageRead {w : World} (hw : w.Unstuck) (cl : Int) :
    (w.afterMessageRead cl).Unstuck := by
  have hread := hw.afterClientRead cl
  unfold World.afterMessageRead
  split
  · split
    · exact hread
    · exact ⟨hread.stuck, hread.clientReads, hread.clientWrites, hread.drive⟩
  · exact hread

/-! ## Runs of the server -/

/-- The message that comes next has no token converted that overflows `long`. -/
def NextConversionsFit (s : Int × World) : Prop :=
  ∀ input, s.2.nextMessage = some input → s.2.InScenario1 → ConversionsFit input

/-- One turn of the loop. -/
theorem unstuck_serverIteration {s s' : Int × World} (hw : s.2.Unstuck)
    (hfit : NextConversionsFit s) (h : Runs server (serverIteration s.1) s.2 s'.1 s'.2) :
    s'.2.Unstuck := by
  rw [runs_serverIteration_iff] at h
  cases hmessage : s.2.nextMessage with
  | none =>
      rw [hmessage] at h
      exact unstuck_of_runs (within_serveNextClient Rights.ordinary_withoutErange.assigns trivial)
        (hw.afterClientRead _) h
  | some input =>
      rw [hmessage] at h
      refine unstuck_message (fun hscenario => ?_) (hw.afterMessageRead _) h.2
      refine hfit input hmessage ?_
      rwa [World.InScenario1, World.globals_afterMessageRead] at hscenario

/-- While no message has a token converted that overflows `long`, every conversion
goes by its text, and what a message does is the same after any two histories. -/
theorem conversions_independent_of_history (w : World) {s t s' t' : Int × World} :
    (ConvertsByText w ↔ w.stuck = false) ∧
      (s.2.Unstuck → t.2.Unstuck →
        ServerRun NextConversionsFit s s' → ServerRun NextConversionsFit t t' →
        ConvertsByText s'.2 ∧ ConvertsByText t'.2 ∧
          (s'.2.SameFuture t'.2 → ∀ input cl w,
            Runs server (parseSmdResponseToClientInput input cl) s'.2 () w →
            ∃ w', Runs server (parseSmdResponseToClientInput input cl) t'.2 () w' ∧
              newEvents t'.2 w' = newEvents s'.2 w)) := by
  refine ⟨convertsByText_iff, ?_⟩
  intro hs ht hrun hrun'
  have hreach : ∀ {u u' : Int × World}, u.2.Unstuck → ServerRun NextConversionsFit u u' →
      u'.2.Unstuck := fun hu =>
    @ServerRun.invariant _ (fun u => u.2.Unstuck)
      (fun _ _ hw hfit hstep => unstuck_serverIteration hw hfit hstep) _ _ hu
  have hs' := (hreach hs hrun).stuck
  have ht' := (hreach ht hrun').stuck
  refine ⟨convertsByText_iff.mpr hs', convertsByText_iff.mpr ht', ?_⟩
  intro hfuture input cl w hmessage
  exact runs_withPast hmessage hfuture (ht'.trans hs'.symm)

theorem World.unstuck_withPast_ready {e : Int} (he : e ≠ erange) (log : List Event) :
    (World.ready.withPast e log).Unstuck where
  stuck := decide_eq_false he
  clientReads := fun _ h => nomatch h
  clientWrites := fun _ h => nomatch h
  drive := by
    intro k
    show (0 : Int) ≠ erange
    decide

/-- A position preset to 500 after no history and after a lost client. -/
theorem preset_independent_of_history :
    ∃ w w', Runs server (parseSmdResponseToClientInput "presetMotorPosition,500\n".toList 5)
        (World.ready.withPast 0 []) () w ∧
      Runs server (parseSmdResponseToClientInput "presetMotorPosition,500\n".toList 5)
        (World.ready.withPast ebadf [.noted .clientGone]) () w' ∧
      newEvents (World.ready.withPast ebadf [.noted .clientGone]) w' =
        newEvents (World.ready.withPast 0 []) w := by
  have heval : (eval server 0
      (parseSmdResponseToClientInput "presetMotorPosition,500\n".toList 5)
      (World.ready.withPast 0 [])).map (fun _ => ()) = some () := by decide +kernel
  obtain ⟨_, w, hrun, _⟩ := exists_runs_of_eval heval
  have hready : (World.ready.withPast 0 []).Unstuck := World.unstuck_withPast_ready (by decide) _
  have hlost : (World.ready.withPast ebadf [.noted .clientGone]).Unstuck :=
    World.unstuck_withPast_ready (by decide) _
  obtain ⟨_, hruns⟩ := @conversions_independent_of_history World.ready
    (5, World.ready.withPast 0 []) (5, World.ready.withPast ebadf [.noted .clientGone]) _ _
  obtain ⟨_, _, h⟩ := hruns hready hlost .refl .refl
  obtain ⟨w', hrun', hevents⟩ :=
    h ⟨rfl, rfl, rfl, rfl, rfl, rfl, rfl, rfl, rfl, rfl, rfl⟩ _ 5 w hrun
  exact ⟨w, w', hrun, hrun', hevents⟩

/-! ## An overflow that stays -/

/-- A dwell time that `long` cannot hold. -/
def overlongDwell : Chunk where
  bytes := "runAssembledDwellMove,99999999999999999999\n".toList
  nonempty := by decide
  bounded := by decide

/-- The refused message leaves `ERANGE` behind. -/
theorem runs_overlongDwell {w : World} (h : w.InScenario1) (cl : Int) :
    Runs server (parseSocketInput (messageText overlongDwell []) cl) w .invalidParameter
      (w.setErrno erange).afterPerror := by
  have htext : messageText overlongDwell [] =
      ParameterCommand.runAssembledDwellMove.message [DecimalToken.of 99999999999999999999]
        .newline := by decide
  rw [runs_parseSocketInput_scenario1 h, htext, parseScenario1_message, ← htext]
  have hcount : numberOfTokens (messageText overlongDwell []) = 2 := by decide
  have hresult : (tokenizeClientInput (messageText overlongDwell []) 2).result = 0 := by decide
  change Runs server (handleRunAssembledDwellMove _) _ _ _
  unfold handleRunAssembledDwellMove withTokens
  rw [if_neg (by rw [hcount]; simp), if_neg (by rw [hresult]; simp)]
  have herange : (strtol ((tokenizeClientInput (messageText overlongDwell []) 2).token 1)).erange
      = true := by decide
  have hloses : w.latch.Loses
      (strtol ((tokenizeClientInput (messageText overlongDwell []) 2).token 1)) :=
    Or.inr (Or.inr herange)
  refine runs_bind_iff.mpr ⟨-1, (w.setErrno erange).afterPerror, ?_, ?_⟩
  · rw [runs_convertStringToLongInt_iff]
    refine ⟨(Latch.read_of_loses hloses).symm, ?_⟩
    unfold World.afterConversion
    rw [if_pos hloses, if_pos herange]
  · rw [if_pos (by decide)]
    exact runs_done_iff.mpr ⟨rfl, rfl⟩

/-- The client sends the overlong dwell time first. -/
def World.overlong : World :=
  { World.ready with
    clientReads := Stream'.cons (.received overlongDwell) World.ready.clientReads }

/-- What a position preset to 500 writes, up to the trigger. -/
def writtenValues (w w' : World) : List (Int × Int) :=
  (registerWrites (newEvents w w')).map fun x => (x.register, x.value)

/-- After the overlong dwell time the server is in the mode it was in, and takes a
position of 500 for -1. -/
theorem preset_depends_on_history :
    ∃ w, ServerRun (fun _ => True) (5, World.overlong) (5, w) ∧ World.ready.SameFuture w ∧
      (∃ w', Runs server (parseSmdResponseToClientInput "presetMotorPosition,500\n".toList 5)
          World.ready () w' ∧
        writtenValues World.ready w' = [(1025, 32768), (1026, 0), (1027, 500), (1024, 512)]) ∧
      (∃ w', Runs server (parseSmdResponseToClientInput "presetMotorPosition,500\n".toList 5)
          w () w' ∧
        writtenValues w w' = [(1025, 32768), (1026, 0), (1027, -1), (1024, 512)]) := by
  -- the refused line leaves ERANGE behind and nothing else
  let w := World.ready.withPast erange
    [.clientRead 5, .noted (.message (messageText overlongDwell [])),
      .clientWritten 5 "INVALID_PARAMETER\n".toList]
  have hturn : Runs server (serverIteration 5) World.overlong 5 w := by
    rw [runs_serverIteration_iff]
    refine ⟨rfl, ?_⟩
    unfold parseSmdResponseToClientInput
    simp only [Program.bind_eq_bind, Program.perform_bind, Program.done_bind, runs_note]
    refine runs_bind_iff.mpr ⟨_, _, runs_overlongDwell ⟨rfl, rfl, rfl⟩ 5, ?_⟩
    exact runs_writeClient.mpr (runs_done_iff.mpr ⟨rfl, rfl⟩)
  -- the same message, once before that line and once after it
  have hready : (eval server 0
      (parseSmdResponseToClientInput "presetMotorPosition,500\n".toList 5) World.ready).map
      (fun r => writtenValues World.ready r.2) =
        some [(1025, 32768), (1026, 0), (1027, 500), (1024, 512)] := by decide +kernel
  have hstuck : (eval server 0
      (parseSmdResponseToClientInput "presetMotorPosition,500\n".toList 5) w).map
      (fun r => writtenValues w r.2) =
        some [(1025, 32768), (1026, 0), (1027, -1), (1024, 512)] := by decide +kernel
  obtain ⟨_, w₁, hready⟩ := exists_runs_of_eval hready
  obtain ⟨_, w₂, hstuck⟩ := exists_runs_of_eval hstuck
  exact ⟨w, .single ⟨trivial, hturn⟩, ⟨rfl, rfl, rfl, rfl, rfl, rfl, rfl, rfl, rfl, rfl,
    rfl⟩, ⟨w₁, hready⟩, ⟨w₂, hstuck⟩⟩

end SmdControlServer
