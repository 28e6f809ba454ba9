import SmdControlServer.Interaction.Progress
import SmdControlServer.Session.Addressees
import SmdControlServer.Session.Unfailing
import SmdControlServer.Startup.Orders
import SmdControlServer.Upload.AbsentItems

/-!
# Where the server can get stuck

No other request than a fault remains without an answer, but a write to a client that has
gone raises `SIGPIPE`, which nothing in the server ignores or handles: the process ends where
the model would go on with the `EPIPE` that the write returns elsewhere (`RaisesSigpipe`).
`faultMonitor` follows what the main thread knows where one of the three pieces of code that
can fault does: the mode, the message, what the memory for a line held and whether the last
read of the registers came to an end.  `Position.Faults` lists the four situations, and
`stuck_threads` says of every interleaving that there is no other one than these and the
signal, for any thread.
-/

namespace SmdControlServer

open CString Interaction

/-! ## The situations -/

/-- What the main thread has before it. -/
structure Position where
  globals : Globals
  client : Option Int
  message : Text
  memory : Text
  registersRead : Bool

/-- The faults of a main thread in this position, where `parse` is `cJSON_Parse`. -/
inductive Position.Faults (parse : Text → Option CJson) (p : Position) : Fault → Prop
  /-- `accept` has failed, or its descriptor becomes -1 as an `int16_t`. -/
  | noClient (hclient : p.client = some (-1)) : p.Faults parse .exited
  /-- The length of an empty address is decreased. -/
  | noAddress (hmode : p.globals.mode = .disconnected) (hconnect : "connect".toList <+: p.message)
      (htokens : numberOfTokens p.message = 2) (haddress : addressNamed p.message = []) :
      p.Faults parse .outOfBounds
  /-- The read has failed, and what the memory held is taken for the line. -/
  | noStatus (hmode : p.globals.mode = .ordinary)
      (hcommand : Command.selected? p.message = some .programAssembledMove)
      (hread : p.registersRead = false) (hmemory : numberOfTokens (p.memory.take 128) < 3) :
      p.Faults parse .outOfBounds
  /-- An item that the upload takes for granted is absent. -/
  | noItem {fault : Fault} (hmode : p.globals.mode = .loading) {root : CJson}
      (hparse : parse p.message = some root) (hitems : ¬ root.ItemsPresent)
      (hfault : fault ≠ .exited) : p.Faults parse fault

namespace Request

/-- The message after a request. -/
def messageAfter : Request → Text → Text
  | .note (.message input), _ => input
  | _, message => message

/-- What the memory that was asked for last held. -/
def memoryAfter (o : Request) (x : Answer o) (memory : Text) : Text :=
  match o, x with
  | .uninitialised, stack => stack.text
  | _, _ => memory

/-- Whether the last read of the registers came to an end. -/
def registersReadAfter (o : Request) (x : Answer o) (registersRead : Bool) : Bool :=
  match o, x with
  | .modbusReadRegisters _, words => words.isSome
  | _, _ => registersRead

end Request

/-- The position after a request. -/
def Position.after (p : Position) (o : Request) (x : Answer o) : Position where
  globals := mainMonitor.next p.globals o x
  client := o.servedAfter x p.client
  message := o.messageAfter p.message
  memory := o.memoryAfter x p.memory
  registersRead := o.registersReadAfter x p.registersRead

/-- What the stops leave as it is. -/
def Position.fixed (p : Position) : Globals × Option Int × Text :=
  (p.globals, p.client, p.message)

/-- The monitor of the faults.  The controllers have no position, and no faults. -/
def faultMonitor (parse : Text → Option CJson) : Monitor serverSignature (Option Position) where
  allows
    | none, o => o.Serves none ∧ ¬ o.IsFault
    | some p, .abort fault => p.Faults parse fault
    | some _, _ => True
  expects
    | none, _, _ => True
    | some _, .cJsonParse text, x => x = parse text
    | some p, o, x => mainMonitor.expects p.globals o x
  next
    | none, _, _ => none
    | some p, o, x => some (p.after o x)
  pre
    | .serverLoop _, q => q ≠ none
    | .manualModeLoop _, q => q = none
    | _, _ => True
  post
    | .smdHoldMove, q, _, q' => q'.map Position.fixed = q.map Position.fixed
    | .smdImmedStop, q, _, q' => q'.map Position.fixed = q.map Position.fixed
    | _, _, _, _ => True

section

variable {parse : Text → Option CJson} {p : Position} {cl : Int} {input : Text} {α β : Type}

/-! ## Code without a fault -/

theorem faultMonitor_allows {o : Request} (ho : ¬ o.IsFault) :
    (faultMonitor parse).allows (some p) o := by
  cases o with
  | abort fault => exact absurd trivial ho
  | _ => trivial

theorem messageAfter_of_serves {client : Option Int} {o : Request} (ho : o.Serves client)
    (message : Text) : o.messageAfter message = message := by
  cases o with
  | note n =>
      cases n with
      | message input => exact ho.elim
      | _ => rfl
  | _ => rfl

/-- The main thread keeps a position. -/
theorem faults_of_unfailing {code : Server α} (hcode : Unfailing code) (p : Position) :
    code.Safe (faultMonitor parse) (fun _ q' => q' ≠ none) (some p) := by
  refine Program.Obeys.safe ?_ ?_ hcode (Option.some_ne_none p)
  · intro o ho q hq
    obtain ⟨p', rfl⟩ := Option.ne_none_iff_exists'.mp hq
    exact ⟨faultMonitor_allows ho, fun x _ => ⟨trivial, Option.some_ne_none _⟩⟩
  · have hkeeps : ∀ q q' : Option Position, q ≠ none →
        q'.map Position.fixed = q.map Position.fixed → q' ≠ none := by
      rintro q _ hq hfixed rfl
      obtain ⟨p', rfl⟩ := Option.ne_none_iff_exists'.mp hq
      cases hfixed
    rintro s (rfl | rfl) q hq
    · exact ⟨trivial, fun _ q' hq' => hkeeps q q' hq hq'⟩
    · exact ⟨trivial, fun _ q' hq' => hkeeps q q' hq hq'⟩

/-- Code that has no client leaves more as it is. -/
theorem faults_of_serves_none {code : Server α} (hserves : Serves none code)
    (hcode : Unfailing code) (q : Option Position) :
    code.Safe (faultMonitor parse)
      (fun _ q' => q'.map Position.fixed = q.map Position.fixed) q := by
  refine Program.Obeys.safe ?_ ?_ (hserves.and hcode) rfl
  · rintro o ⟨hnone, hunfailing⟩ q' hq'
    cases q' with
    | none => exact ⟨⟨hnone, hunfailing⟩, fun x _ => ⟨⟨trivial, trivial⟩, hq'⟩⟩
    | some p' =>
        refine ⟨faultMonitor_allows hunfailing, fun x _ => ⟨⟨trivial, trivial⟩, ?_⟩⟩
        obtain ⟨hglobals, hclient, _⟩ := silent_of_serves_none hnone x
        have hafter : (p'.after o x).fixed = p'.fixed := by
          show (mainMonitor.next p'.globals o x, o.servedAfter x p'.client,
            o.messageAfter p'.message) = p'.fixed
          rw [hglobals, hclient, messageAfter_of_serves hnone]
          rfl
        show some (p'.after o x).fixed = _
        rw [hafter]
        exact hq'
  · rintro s ⟨rfl | rfl, _⟩ q' hq'
    · exact ⟨trivial, fun _ q'' hq'' => hq''.trans hq'⟩
    · exact ⟨trivial, fun _ q'' hq'' => hq''.trans hq'⟩

/-- The position, as far as a fault can depend on it. -/
def Position.Matches (p p' : Position) : Prop :=
  p.globals.SameDrive p'.globals ∧ p'.message = p.message

/-- Code that talks to the drive. -/
theorem faults_of_apart {code : Server α} (hapart : Apart code) (hcode : Unfailing code)
    (p : Position) :
    code.Safe (faultMonitor parse) (fun _ q' => ∃ p', q' = some p' ∧ p.Matches p') (some p) := by
  have hobeys := (hapart.within.and ((hapart.serves 0).and (hapart.serves 1))).and hcode
  refine Program.Obeys.safe ?_ ?_ hobeys ⟨p, rfl, .refl _, rfl⟩
  · rintro o ⟨⟨hwithin, hzero, hone⟩, hunfailing⟩ q ⟨p', rfl, hdrive, hmessage⟩
    refine ⟨faultMonitor_allows hunfailing, fun x hx => ⟨⟨⟨?_, trivial, trivial⟩, trivial⟩, ?_⟩⟩
    · cases o with
      | writeClient cl line => exact fun _ _ => trivial
      | modbusErrno ctx => exact hx
      | _ => trivial
    · obtain ⟨hnext, _⟩ := apart_request hwithin hzero hone x
      exact ⟨_, rfl, hdrive.trans (hnext p'.globals),
        (messageAfter_of_serves hzero _).trans hmessage⟩
  · have hkeeps : ∀ (p' : Position) (q' : Option Position), p.Matches p' →
        q'.map Position.fixed = (some p').map Position.fixed →
          ∃ p'', q' = some p'' ∧ p.Matches p'' := by
      rintro p' q' ⟨hdrive, hmessage⟩ hfixed
      obtain ⟨p'', rfl, heq⟩ := Option.map_eq_some_iff.mp hfixed
      have hglobals : p''.globals = p'.globals := congrArg Prod.fst heq
      have hmessage' : p''.message = p'.message := congrArg (fun f => f.2.2) heq
      refine ⟨p'', rfl, ?_, hmessage'.trans hmessage⟩
      rwa [hglobals]
    rintro s ⟨⟨hstop, _⟩, _⟩ q ⟨p', rfl, hmatches⟩
    rcases hstop with rfl | rfl
    · exact ⟨trivial, fun _ q' hq' => hkeeps p' q' hmatches hq'⟩
    · exact ⟨trivial, fun _ q' hq' => hkeeps p' q' hmatches hq'⟩

/-! ## The preparation of an assembled move -/

/-- What a status read leaves, if it does not fail. -/
def Position.HasStatus (p : Position) (registersString : Text) : Prop :=
  numberOfTokens registersString < 3 →
    p.registersRead = false ∧ numberOfTokens (p.memory.take 128) < 3

/-- The thread that reads.  Where its read fails, the line is what the memory held. -/
theorem faults_statusReadWorker (registers : RegisterStrings) (p : Position) :
    (readModbusRegistersWorker registers .readInputRegisters (-1) (some p.memory)).Safe
      (faultMonitor parse) (fun reply q' => ∃ p', q' = some p' ∧ p.Matches p' ∧
        (¬ (reply.result = .noRouteToHost ∨ reply.result = .commandFailed) →
          p'.HasStatus (reply.registersString.take 128)))
      (some p) := by
  have hmatches : ∀ registersRead, p.Matches { p with registersRead := registersRead } :=
    fun _ => ⟨.refl _, rfl⟩
  refine ⟨trivial, fun ctx _ => ⟨trivial, fun ip _ => ?_⟩⟩
  refine Program.Safe.ite (fun _ => ?_) fun _ => ⟨trivial, fun connected _ => ?_⟩
  · refine ⟨trivial, fun _ _ => ⟨trivial, fun _ _ => ⟨p, rfl, hmatches _, ?_⟩⟩⟩
    simp
  refine Program.Safe.ite (fun _ => ?_) fun _ => ⟨trivial, fun words _ => ?_⟩
  · refine ⟨trivial, fun _ _ => ⟨trivial, fun _ _ => ⟨p, rfl, hmatches _, ?_⟩⟩⟩
    simp
  cases words with
  | none =>
      refine ⟨trivial, fun _ _ => ⟨trivial, fun _ _ => ⟨_, rfl, hmatches false, ?_⟩⟩⟩
      exact fun _ hfew => ⟨rfl, hfew⟩
  | some words =>
      refine ⟨trivial, fun _ _ => ⟨trivial, fun _ _ => ⟨_, rfl, hmatches true, ?_⟩⟩⟩
      intro _ hfew
      have htokens := three_le_numberOfTokens_clientWriteString words
      exact absurd (Int.lt_of_le_of_lt htokens hfew) (lt_irrefl 3)

theorem faults_statusRead (registers : RegisterStrings) (p : Position) :
    (returnModbusRegisters registers 10 .readInputRegisters (-1) (some []) 128).Safe
      (faultMonitor parse) (fun reply q' => ∃ p', q' = some p' ∧ p.Matches p' ∧
        (¬ (reply.result = .noRouteToHost ∨ reply.result = .commandFailed) →
          p'.HasStatus reply.registersString)) (some p) := by
  refine ⟨trivial, fun created _ => ?_⟩
  refine Program.Safe.ite (fun _ => ?_) fun _ => ⟨trivial, fun heap _ => ?_⟩
  · exact ⟨p, rfl, ⟨.refl _, rfl⟩, by simp⟩
  · refine Program.Safe.bind (p := readModbusRegistersWorker registers _ _ _)
      ((faults_statusReadWorker registers { p with memory := heap.text }).mono ?_)
    rintro reply _ ⟨p', rfl, hmatches, hstatus⟩
    exact ⟨p', rfl, hmatches, hstatus⟩

theorem faults_smdProgramBlockFirstBlock (hmode : p.globals.mode = .ordinary)
    (hcommand : Command.selected? p.message = some .programAssembledMove) :
    smdProgramBlockFirstBlock.Safe (faultMonitor parse) (fun _ q' => q' ≠ none) (some p) := by
  refine Program.Safe.bind ((faults_of_apart (apart_sendModbusCommand _)
    (unfailing_sendModbusCommand _) p).mono ?_)
  rintro rc _ ⟨p₁, rfl, hdrive, hmessage⟩
  refine Program.Safe.ite (fun _ => ⟨trivial, fun _ _ => ⟨trivial, fun stack _ => ?_⟩⟩) fun _ =>
    Option.some_ne_none _
  refine Program.Safe.bind (p := returnModbusRegisters _ _ _ _ _ _)
    ((faults_statusRead stack.registers { p₁ with memory := stack.text }).mono ?_)
  rintro reply _ ⟨p₂, rfl, ⟨hdrive', hmessage'⟩, hstatus⟩
  refine Program.Safe.ite (fun _ => Option.some_ne_none _) fun hread => ?_
  refine Program.Safe.ite (fun hfew => ⟨?_, fun x => x.elim⟩) fun _ => ?_
  · obtain ⟨hfailed, hmemory⟩ := hstatus hread hfew
    have hmessages : p₂.message = p.message := hmessage'.trans hmessage
    refine .noStatus ?_ ?_ hfailed hmemory
    · exact hdrive'.mode.trans (hdrive.mode.trans hmode)
    · rwa [hmessages]
  · exact Program.Safe.ite (fun _ => Option.some_ne_none _) fun _ =>
      Program.Safe.ite (fun _ => Option.some_ne_none _) fun _ => Option.some_ne_none _

theorem faults_smdProgramAssembledMove (hmode : p.globals.mode = .ordinary)
    (hcommand : Command.selected? p.message = some .programAssembledMove) :
    smdProgramAssembledMove.Safe (faultMonitor parse) (fun _ q' => q' ≠ none) (some p) := by
  refine Program.Safe.bind ((faults_smdProgramBlockFirstBlock hmode hcommand).mono ?_)
  intro response q hq
  obtain ⟨p', rfl⟩ := Option.ne_none_iff_exists'.mp hq
  refine faults_of_unfailing (unfailing_ite (unfailing_pure _) ?_) p'
  exact unfailing_bind (unfailing_sendModbusCommand _) fun _ => unfailing_pure _

/-! ## The upload of a profile -/

/-- The loop over the members does not end the process by itself. -/
theorem ne_exited_of_collectSegments {members : List CJson} {i : Nat} {t : SegmentTable}
    {fault : Fault} (h : collectSegments members i t = .error fault) : fault ≠ .exited := by
  induction members generalizing i t with
  | nil => cases h
  | cons m rest ih =>
      rw [collectSegments] at h
      split at h
      · cases h
        simp
      · split at h
        · split at h
          · cases h
            simp
          · split at h
            · rename_i hstore
              unfold SegmentTable.store at hstore
              split at hstore
              · cases hstore
              · cases h
                cases hstore
                simp
            · exact ih h
        · exact ih h

theorem faults_smdParseAndUploadAssembledMove (hmode : p.globals.mode = .loading) :
    (smdParseAndUploadAssembledMove p.message cl).Safe (faultMonitor parse)
      (fun _ q' => q' ≠ none) (some p) := by
  refine ⟨trivial, fun parsed hparsed => ?_⟩
  have hparse : parsed = parse p.message := hparsed
  cases parsed with
  | none => exact Option.some_ne_none _
  | some root =>
      refine ⟨trivial, fun stack _ => ?_⟩
      have hfault : ∀ fault, ¬ root.ItemsPresent → fault ≠ .exited →
          Position.Faults parse { p with memory := stack.text } fault :=
        fun fault hitems hfault => .noItem hmode hparse.symm hitems hfault
      show Program.Safe _ _ _ (some { p with memory := stack.text })
      dsimp only [Program.done_bind]
      cases htable : collectSegments root.child 0 ⟨stack.segments, 0, []⟩ with
      | error fault =>
          refine ⟨hfault fault ?_ (ne_exited_of_collectSegments htable), fun x => x.elim⟩
          intro hitems
          obtain ⟨table, hok, _⟩ := itemsPresent_iff.mp hitems
          rw [htable] at hok
          cases hok
      | ok table =>
          refine Program.Safe.ite (fun _ => Option.some_ne_none _) fun hcount => ?_
          cases htype : (cJsonGetObjectItem root "type".toList).bind CJson.valuestring with
          | none =>
              refine ⟨hfault _ ?_ (by simp), fun x => x.elim⟩
              intro hitems
              obtain ⟨table', hok, hstring⟩ := itemsPresent_iff.mp hitems
              rw [htable] at hok
              cases hok
              exact hstring (by omega) (by omega) htype
          | some type =>
              dsimp only
              cases hselected : moveTypeOf type with
              | none => exact Option.some_ne_none _
              | some moveType =>
                  exact faults_of_unfailing (unfailing_ask id fun _ =>
                    unfailing_uploadSegments _ _ _) _

theorem faults_parseScenario3 (hmode : p.globals.mode = .loading) :
    (parseScenario3 p.message cl).Safe (faultMonitor parse) (fun _ q' => q' ≠ none) (some p) := by
  refine Program.Safe.bind ((faults_smdParseAndUploadAssembledMove hmode).mono ?_)
  intro response q hq
  obtain ⟨p', rfl⟩ := Option.ne_none_iff_exists'.mp hq
  refine faults_of_unfailing (unfailing_ite ?_ ?_) p'
  · exact unfailing_ask id fun _ => unfailing_pure _
  · refine unfailing_ask id fun _ => ?_
    exact unfailing_bind (unfailing_sendModbusCommand _) fun _ => unfailing_pure _

/-! ## Messages -/

theorem faults_handleConnect (hmode : p.globals.mode = .disconnected)
    (hconnect : "connect".toList <+: p.message) :
    (handleConnect p.message).Safe (faultMonitor parse) (fun _ q' => q' ≠ none) (some p) := by
  refine Program.Safe.ite (fun _ => Option.some_ne_none _) fun htokens => ?_
  refine Program.Safe.ite (fun _ => Option.some_ne_none _) fun _ => ?_
  refine Program.Safe.ite (fun hempty => ⟨?_, fun x => x.elim⟩) fun _ => ?_
  · exact .noAddress hmode hconnect (by simpa using htokens) (List.length_eq_zero_iff.mp hempty)
  · exact faults_of_unfailing (unfailing_ask id fun _ => unfailing_smdOpenCommandConnection) p

theorem faults_parseScenario1 (hmode : p.globals.mode = .ordinary) :
    (parseScenario1 p.message cl).Safe (faultMonitor parse) (fun _ q' => q' ≠ none) (some p) := by
  by_cases hnone : ∀ c, ¬ Command.Selects p.message c
  · rw [Command.parseScenario1_of_not_selects hnone]
    exact Option.some_ne_none _
  · obtain ⟨c, hselects⟩ := not_forall_not.mp hnone
    rw [Command.parseScenario1_of_selects hselects]
    by_cases hprogram : c = .programAssembledMove
    · subst hprogram
      exact faults_smdProgramAssembledMove hmode (Command.selected?_of_selects hselects)
    · exact faults_of_unfailing (unfailing_code hprogram) p

theorem faults_dispatchIn :
    (dispatchIn p.globals p.message cl).Safe (faultMonitor parse) (fun _ q' => q' ≠ none)
      (some p) := by
  have hmode : ∀ {mode : Mode}, (if p.globals.smdConnected = 0 then Mode.disconnected
      else if p.globals.statusWaitingForAssembledMove = 1 then .loading
      else if p.globals.statusManualModeEnable = 1 then .manual else .ordinary) = mode →
        p.globals.mode = mode := fun h => h
  refine Program.Safe.ite (fun hclosed => ?_) fun hopen => ?_
  · refine Program.Safe.ite (fun hconnect => ?_) fun _ => Option.some_ne_none _
    exact faults_handleConnect (hmode (by simp [hclosed])) (startsWith_iff.mp hconnect)
  refine Program.Safe.ite (fun hfirst => ?_) fun _ => Program.Safe.ite (fun _ => ?_) fun _ => ?_
  · exact faults_parseScenario1 (hmode (by simp [hfirst]))
  · exact faults_of_unfailing unfailing_parseScenario2 p
  · refine Program.Safe.ite (fun hthird => ?_) fun _ => Option.some_ne_none _
    exact faults_parseScenario3 (hmode (by simp [hthird]))

theorem faults_parseSmdResponseToClientInput (p : Position) :
    (parseSmdResponseToClientInput input cl).Safe (faultMonitor parse) (fun _ q' => q' ≠ none)
      (some p) := by
  refine ⟨trivial, fun _ _ => ⟨trivial, fun g hg => ?_⟩⟩
  obtain rfl : g = p.globals := hg
  change Program.Safe (faultMonitor parse) (dispatchIn p.globals input cl >>= fun r =>
    answerClient r cl) _ (some { p with message := input })
  refine Program.Safe.bind ((faults_dispatchIn (p := { p with message := input })).mono ?_)
  intro r q hq
  obtain ⟨p', rfl⟩ := Option.ne_none_iff_exists'.mp hq
  exact faults_of_unfailing (unfailing_answerClient r cl) p'

/-! ## The procedures -/

/-- The next client. -/
theorem faults_accept {k : Int → Server β} {post : β → Option Position → Prop}
    (hk : ∀ cl q, q ≠ none → (k cl).Safe (faultMonitor parse) post q) (p : Position) :
    Program.Safe (faultMonitor parse) (do
      let cl := toInt16 (← acceptClient)
      if cl = -1 then
        abort .exited
      else
        k cl) post (some p) := by
  refine ⟨trivial, fun accepted _ => Program.Safe.ite (fun hnone => ?_) fun _ => ?_⟩
  · exact ⟨.noClient (congrArg some hnone), fun x => x.elim⟩
  · exact hk _ _ (Option.some_ne_none _)

theorem faults_serverIteration (p : Position) :
    (serverIteration cl).Safe (faultMonitor parse) (fun _ q' => q' ≠ none) (some p) := by
  have hmessage : ∀ (text : Text) (p : Position),
      (parseSmdResponseToClientInput text cl >>= fun _ => (pure cl : Server Int)).Safe
        (faultMonitor parse) (fun _ q' => q' ≠ none) (some p) :=
    fun text p => Program.Safe.bind (faults_parseSmdResponseToClientInput p)
  have hnext : ∀ p : Position, (serveNextClient cl).Safe (faultMonitor parse)
      (fun _ q' => q' ≠ none) (some p) := by
    intro p
    refine ⟨trivial, fun _ _ => ?_⟩
    refine Program.Safe.bind (p := smdCloseCommandConnection)
      ((faults_of_unfailing unfailing_smdCloseCommandConnection _).mono ?_)
    intro _ q hq
    obtain ⟨p', rfl⟩ := Option.ne_none_iff_exists'.mp hq
    exact ⟨trivial, fun _ _ => faults_accept (k := pure) (fun _ _ hq' => hq') _⟩
  refine ⟨trivial, fun outcome _ => ?_⟩
  cases outcome with
  | received chunk =>
      refine Program.Safe.ite (fun _ => hmessage _ _) fun _ => ?_
      exact ⟨trivial, fun stack _ => hmessage _ _⟩
  | endOfFile => exact hnext _
  | failed e => exact hnext _

theorem faults_procedureBody (s : Procedure) (q : Option Position)
    (hs : (faultMonitor parse).pre s q) :
    (procedureBody s).Safe (faultMonitor parse) ((faultMonitor parse).post s q) q := by
  cases s with
  | smdHoldMove => exact faults_of_serves_none serves_smdHoldMove unfailing_smdHoldMove q
  | smdImmedStop =>
      exact faults_of_serves_none (serves_sendModbusCommand _) (unfailing_sendModbusCommand _) q
  | manualModeLoop locals =>
      obtain rfl : q = none := hs
      refine ⟨⟨trivial, id⟩, fun g _ => ?_⟩
      refine Program.Safe.ite (fun _ => Program.Safe.bind ?_) fun _ => trivial
      refine (faults_of_serves_none (serves_manualModeIteration locals)
        (unfailing_manualModeIteration locals) none).mono ?_
      intro locals' q' hq'
      obtain rfl : q' = none := Option.map_eq_none_iff.mp hq'
      exact ⟨⟨trivial, id⟩, fun _ _ => ⟨rfl, fun _ _ _ => trivial⟩⟩
  | serverLoop cl =>
      obtain ⟨p, rfl⟩ := Option.ne_none_iff_exists'.mp hs
      refine Program.Safe.bind ((faults_serverIteration p).mono fun cl' q' hq' => ?_)
      exact ⟨hq', fun _ _ _ => trivial⟩

end

/-! ## Interleavings -/

/-- The main thread before its first `accept`. -/
def Position.initial : Position := ⟨Globals.initial, none, [], [], false⟩

/-- The position of the main thread, from its own requests. -/
def positionOf (es : Trace) : Position :=
  (ownEntries 0 es).foldl (fun p e => p.after e.request e.answer) .initial

/-- The main thread's monitor knows the globals, and no other thread has a position. -/
structure Placed (parse : Text → Option CJson) (q : Nat → Option Position) (w : World) :
    Prop where
  main : ∃ p, q 0 = some p ∧ p.globals = w.globals
  others : ∀ i, 0 < i → q i = none
  parses : w.cJsonParse = parse

theorem cJsonParse_of_handle {o : Request} {w w' : World} {x : Answer o}
    (h : handle o w = some (x, w')) : w'.cJsonParse = w.cJsonParse :=
  (handle_extends h).cJsonParse

section

variable {parse : Text → Option CJson} {P : ServerThreads → Nat → Prop} {w : World}
  {es : Trace} {c : ServerThreads}

theorem placed_handle (q : Nat → Option Position) (w : World) (i : Nat) (o : Request)
    (errno : Int) (x : Answer o) (w' : World) (hq : Placed parse q w)
    (ho : (faultMonitor parse).allows (q i) o) (h : handle o (w.setErrno errno) = some (x, w')) :
    (faultMonitor parse).expects (q i) o x ∧
      Placed parse (Function.update q i ((faultMonitor parse).next (q i) o x)) w' := by
  have hmode := modeAfter_handle h
  have hglobals : w'.globals = mainMonitor.next w.globals o x := hmode.globals
  have hparses : w'.cJsonParse = parse := (cJsonParse_of_handle h).trans hq.parses
  by_cases hi : i = 0
  · subst hi
    obtain ⟨p, hmain, hknown⟩ := hq.main
    have hexpected : mainMonitor.expects p.globals o x := by
      rw [hknown]
      exact hmode.expected
    rw [hmain]
    refine ⟨?_, ⟨⟨p.after o x, ?_, ?_⟩, fun j hj => ?_, hparses⟩⟩
    · cases o with
      | cJsonParse text =>
          cases h
          exact congrFun hq.parses text
      | _ => exact hexpected
    · rw [Function.update_self]
      rfl
    · rw [hglobals, ← hknown]
      rfl
    · rw [Function.update_of_ne (by omega)]
      exact hq.others j hj
  · have hnone := hq.others i (by omega)
    rw [hnone] at ho ⊢
    obtain ⟨hkept, _, _⟩ := silent_of_serves_none ho.1 x
    refine ⟨trivial, ⟨?_, fun j hj => ?_, hparses⟩⟩
    · rw [Function.update_of_ne (Ne.symm hi), hglobals, hkept]
      exact hq.main
    · by_cases hij : j = i
      · rw [hij, Function.update_self]
        rfl
      · rw [Function.update_of_ne hij]
        exact hq.others j hj

theorem follow_faultMonitor (p : Position) (es : Trace) :
    (faultMonitor parse).follow (some p) es =
      some (es.foldl (fun p e => p.after e.request e.answer) p) := by
  induction es generalizing p with
  | nil => rfl
  | cons e es ih => exact ih (p.after e.request e.answer)

theorem faults_openServerSocket (p : Position) :
    openServerSocket.Safe (faultMonitor parse) (fun _ _ => True) (some p) := by
  refine faults_accept (k := fun cl => invoke (.serverLoop cl)) ?_ p
  exact fun _ _ hq => ⟨hq, fun _ _ _ => trivial⟩

theorem placed_of_executes (hinitial : w.globals = Globals.initial)
    (h : ServerExecutes P (serverStart w) es c) :
    ∃ q : Nat → Option Position,
      Threads.Monitored (faultMonitor w.cJsonParse) none q c ∧
        Placed w.cJsonParse q c.state ∧ q 0 = some (positionOf es) := by
  let start : Nat → Option Position := Function.update (fun _ => none) 0 (some .initial)
  have hothers : ∀ i, 0 < i → start i = none := fun i hi =>
    Function.update_of_ne (Nat.ne_of_gt hi) _ _
  refine ⟨(faultMonitor w.cJsonParse).followAll start es, ?_⟩
  have hmonitored : Threads.Monitored (faultMonitor w.cJsonParse) none
      ((faultMonitor w.cJsonParse).followAll start es) c ∧
        Placed w.cJsonParse ((faultMonitor w.cJsonParse).followAll start es) c.state := by
    refine Threads.Executes.monitored placed_handle faults_procedureBody ?_ ?_ ?_ h
    · intro o x t ht
      rw [eq_of_spawn ht]
      exact ⟨rfl, fun _ _ _ => trivial⟩
    · refine ⟨fun i t ht => ?_, fun i hi => hothers i hi⟩
      cases i with
      | zero =>
          cases ht
          exact faults_openServerSocket _
      | succ i => cases ht
    · exact ⟨⟨.initial, rfl, hinitial.symm⟩, hothers, rfl⟩
  refine ⟨hmonitored.1, hmonitored.2, ?_⟩
  rw [Monitor.followAll_apply]
  exact follow_faultMonitor _ _

/-- Only a fault remains without an answer. -/
theorem eq_abort_of_handle_eq_none {o : Request} (h : handle o w = none) :
    ∃ fault, o = .abort fault := by
  cases o with
  | abort fault => exact ⟨fault, rfl⟩
  | deviceIp =>
      rw [handle_deviceIp] at h
      cases h
  | pthreadCreate routine => cases routine <;> cases h
  | _ => cases h

theorem endless_openServerSocket : Endless openServerSocket := by
  intro accepted
  show Endless (if toInt16 accepted = -1 then _ else _)
  split
  · exact fun x => x.elim
  · exact Or.inl ⟨toInt16 accepted, rfl⟩

/-- The main thread does not come to an end. -/
theorem endless_of_executes (h : ServerExecutes P (serverStart w) es c) :
    ∃ t, c.threads[0]? = some t ∧ Endless t.program := by
  refine h.keeps (fun o k x hkeep => hkeep x) (fun s k hkeep => ?_) rfl endless_openServerSocket
  rcases hkeep with ⟨cl, rfl⟩ | hk
  · exact endless_serverLoop k
  · exact endless_bind hk _

/-! ## The signal -/

/-- The thread is about to write to a client that has gone. -/
def RaisesSigpipe (c : ServerThreads) (i : Nat) : Prop :=
  ∃ cl line, c.next i = some (.writeClient cl line) ∧ c.state.clientWrites.head = some epipe

/-- The thread can make no step, or its next step is the end of the process. -/
def Stuck (c : ServerThreads) (i : Nat) : Prop :=
  c.step server serverSharing i = none ∨ RaisesSigpipe c i

/-- The signal is raised by the main thread only, with a line for the client that was accepted
last and has sent a message. -/
theorem served_of_raisesSigpipe (hinitial : w.globals = Globals.initial)
    (h : ServerExecutes P (serverStart w) es c) {i : Nat} (hraises : RaisesSigpipe c i) :
    i = 0 ∧ ∃ cl line, c.next 0 = some (.writeClient cl line) ∧
      c.state.clientWrites.head = some epipe ∧ servedClient es = some cl ∧
        conversationOf es ≠ [] := by
  obtain ⟨cl, line, hnext, hgone⟩ := hraises
  obtain ⟨rfl, hserved, hheard⟩ := served_of_writes hinitial h hnext
  exact ⟨rfl, cl, line, hnext, hgone, hserved, hheard⟩

/-- What keeps the main thread, if anything does. -/
def MainStuck (parse : Text → Option CJson) (es : Trace) (c : ServerThreads) : Prop :=
  (∃ fault, c.next 0 = some (.abort fault) ∧ (positionOf es).Faults parse fault) ∨
    ∃ cl line, c.next 0 = some (.writeClient cl line) ∧
      c.state.clientWrites.head = some epipe ∧ servedClient es = some cl ∧
        conversationOf es ≠ []

/-- In every interleaving: a thread that makes no step is a controller at its end, or the
main thread at a fault, which there are only these four kinds of, or at a write to a client
that has gone. -/
theorem stuck_threads (hinitial : w.globals = Globals.initial)
    (h : ServerExecutes (fun c i => ¬ RaisesSigpipe c i) (serverStart w) es c) {i : Nat}
    {t : Thread serverSignature Int} (ht : c.threads[i]? = some t) (hstuck : Stuck c i) :
    (i ≠ 0 ∧ t.program = .done ()) ∨
      (i = 0 ∧ (positionOf es).globals = c.state.globals ∧ MainStuck w.cJsonParse es c) := by
  obtain ⟨q, hmonitored, hplaced, hmain⟩ := placed_of_executes hinitial h
  obtain ⟨p, hp, hglobals⟩ := hplaced.main
  rw [hmain] at hp
  cases hp
  rcases hstuck with hnone | hraises
  · rcases Threads.step_eq_none_cases ht hnone with ⟨⟨⟩, hdone⟩ | ⟨o, hnext, hunanswered⟩
    · refine Or.inl ⟨?_, hdone⟩
      obtain ⟨t₀, ht₀, hendless⟩ := endless_of_executes h
      rintro rfl
      rw [ht₀] at ht
      cases ht
      rw [hdone] at hendless
      exact hendless
    · obtain ⟨fault, rfl⟩ := eq_abort_of_handle_eq_none hunanswered
      have hallowed := hmonitored.allows hnext
      by_cases hi : i = 0
      · subst hi
        rw [hmain] at hallowed
        exact Or.inr ⟨rfl, hglobals, Or.inl ⟨fault, hnext, hallowed⟩⟩
      -- a controller makes no such request
      · rw [hplaced.others i (Nat.pos_of_ne_zero hi)] at hallowed
        exact absurd trivial hallowed.2
  · obtain ⟨rfl, hwrites⟩ := served_of_raisesSigpipe hinitial h hraises
    exact Or.inr ⟨rfl, hglobals, Or.inr hwrites⟩

/-- A test for steps that raise no signal. -/
def raisesNoSigpipe (c : ServerThreads) (i : Nat) : Bool :=
  match c.next i with
  | some (.writeClient _ _) => decide (c.state.clientWrites.head ≠ some epipe)
  | _ => true

theorem not_raisesSigpipe_of_test {c : ServerThreads} {i : Nat}
    (h : raisesNoSigpipe c i = true) : ¬ RaisesSigpipe c i := by
  rintro ⟨cl, line, hnext, hgone⟩
  unfold raisesNoSigpipe at h
  rw [hnext] at h
  exact of_decide_eq_true h hgone

/-- A client that names no address, and does not end its line. -/
def World.namesNoAddress : World :=
  { World.facing Globals.initial (Stream'.const (Session.answering fun _ => 0)) with
    clientReads := readsOf [⟨"connect,".toList, by decide, by decide⟩] }

/-- The length of an empty address is where the server stops. -/
theorem stuck_threads_noAddress :
    ∃ es c t, ServerExecutes (fun c i => ¬ RaisesSigpipe c i) (serverStart World.namesNoAddress)
        es c ∧ c.threads[0]? = some t ∧ Stuck c 0 ∧
          (((0 : Nat) ≠ 0 ∧ t.program = .done ()) ∨
            ((0 : Nat) = 0 ∧ (positionOf es).globals = c.state.globals ∧
              MainStuck World.namesNoAddress.cJsonParse es c)) := by
  have htraced : ((Threads.tracedWhere server serverSharing raisesNoSigpipe
      (List.replicate 5 0) (serverStart World.namesNoAddress)).map fun r =>
        r.2.threads[0]?.isSome && (r.2.step server serverSharing 0).isNone) = some true := by
    decide +kernel
  obtain ⟨⟨es, c⟩, hes, htest⟩ := Option.map_eq_some_iff.mp htraced
  simp only [Bool.and_eq_true, Option.isNone_iff_eq_none] at htest
  obtain ⟨t, ht⟩ := Option.isSome_iff_exists.mp htest.1
  have hexecutes := Threads.executes_of_tracedWhere (fun _ _ => not_raisesSigpipe_of_test) hes
  have hinitial : World.namesNoAddress.globals = Globals.initial := rfl
  have hstuck : Stuck c 0 := Or.inl htest.2
  exact ⟨es, c, t, hexecutes, ht, hstuck, stuck_threads hinitial hexecutes ht hstuck⟩

/-- A client that goes before its `connect` is answered ends the process. -/
example : ((Threads.tracedWhere server serverSharing raisesNoSigpipe (List.replicate 11 0)
    (serverStart { World.stopsManualMode with
      clientWrites := Stream'.const (some epipe) })).map fun r =>
        raisesNoSigpipe r.2 0) = some false := by
  decide +kernel

end

end SmdControlServer
