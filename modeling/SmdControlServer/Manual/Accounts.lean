import SmdControlServer.Manual.MainThread

/-!
# What each thread has in hand

The account of a thread is what can be told from its own requests: which contexts it
has allocated and not yet freed, how far it is with sending a program, and how far with
starting the manual mode.  The main thread alone assigns the globals, so its account
also has their values.

`accountMonitor` says what the code keeps to.  A program is written as it stands, after
its session has opened and to the end before its context is freed.  A context is freed
by the thread that allocated it.  Between two messages nothing is under way.
-/

namespace SmdControlServer

open CString Interaction

/-- How far a thread is with sending a program: `started` once the worker runs, `opened`
with the writes still to be made. -/
inductive Sending where
  | idle
  | started (cmd : RegisterProgram)
  | opened (pending : List (Int × Int))

/-- The account of a thread.  `created` is what the last `pthread_create` of a
controller has come to, `starting` holds from the assignment of the flag until it. -/
structure Account where
  known : Option Globals
  live : List Nat
  sending : Sending
  starting : Bool
  created : Option Bool

/-! ## How requests change it -/

namespace Request

/-- The contexts that have been allocated and not been freed. -/
def liveAfter : (o : Request) → Answer o → List Nat → List Nat
  | .modbusNewTcp, ctx, live => ctx.id :: live
  | .modbusFree ctx, _, live => live.erase ctx.id
  | _, _, live => live

def sendingAfter : (o : Request) → Answer o → Sending → Sending
  | .pthreadCreate (.sendModbusCommand cmd), created, _ =>
      if created then .started cmd else .idle
  | .modbusConnect _, connected, .started cmd =>
      if connected then .opened cmd.writes else .started cmd
  | .modbusWriteRegister _ _ _ _, _, .opened pending => .opened pending.tail
  | .modbusFree _, _, _ => .idle
  | _, _, sending => sending

def startingAfter : (o : Request) → Answer o → Bool → Bool
  | .assign (.statusManualModeEnable value), _, starting => starting || value = 1
  | .pthreadCreate .manualModeController, _, _ => false
  | _, _, starting => starting

def createdAfter : (o : Request) → Answer o → Option Bool → Option Bool
  | .pthreadCreate .manualModeController, created, _ => some created
  | _, _, created => created

end Request

/-! ## What holds between two messages -/

/-- The flags are 0 or 1. -/
structure Globals.FlagsAreBits (g : Globals) : Prop where
  smdConnected : g.smdConnected = 0 ∨ g.smdConnected = 1
  waiting : g.statusWaitingForAssembledMove = 0 ∨ g.statusWaitingForAssembledMove = 1
  manualMode : g.statusManualModeEnable = 0 ∨ g.statusManualModeEnable = 1

/-- The globals agree with the contexts that the main thread has not freed. -/
structure Globals.Accounted (g : Globals) (live : List Nat) : Prop where
  flags : g.FlagsAreBits
  connected : g.smdConnected = 1 → ∃ ctx, g.smdCommandConnection = some ctx ∧
    ctx.session.allocated = true ∧ live = [ctx.id]
  closed : g.smdConnected = 0 → g.statusWaitingForAssembledMove = 0 ∧
    g.statusManualModeEnable = 0 ∧ live = []
  exclusive : g.statusWaitingForAssembledMove = 1 → g.statusManualModeEnable ≠ 1

/-- Nothing is under way. -/
structure Account.Settled (q : Account) : Prop where
  sending : q.sending = .idle
  starting : q.starting = false
  globals : ∀ g, q.known = some g → g.Accounted q.live
  created : ∀ g, q.known = some g → g.statusManualModeEnable = 1 → q.created ≠ none

/-- A flag is assigned 0 or 1. -/
def Assignment.AssignsBit : Assignment → Prop
  | .smdConnected value => value = 0 ∨ value = 1
  | .statusWaitingForAssembledMove value => value = 0 ∨ value = 1
  | .statusManualModeEnable value => value = 0 ∨ value = 1
  | _ => True

/-- What the code keeps to. -/
def accountMonitor : Monitor serverSignature Account where
  allows q
    | .assign a => q.known ≠ none ∧ a.AssignsBit
    | .pthreadCreate (.sendModbusCommand _) => q.sending = .idle
    | .pthreadCreate .manualModeController => q.known ≠ none ∧ q.starting = true
    | .modbusWriteRegister _ _ register value =>
        ∃ rest, q.sending = .opened ((register, value) :: rest)
    | .modbusFree ctx => ctx.id ∈ q.live ∧ ∀ write rest, q.sending ≠ .opened (write :: rest)
    | .readClient _ => q.Settled
    | .note (.message _) => q.Settled
    | .acceptClient => q.Settled ∧ ∀ g, q.known = some g → g.smdConnected = 0
    | _ => True
  expects q
    | .globals, x => ∀ g, q.known = some g → x = g
    | .modbusConnect ctx, x => x = ctx.session.connects
    | _, _ => True
  next q o x := {
    known := q.known.map fun g => mainMonitor.next g o x
    live := o.liveAfter x q.live
    sending := o.sendingAfter x q.sending
    starting := o.startingAfter x q.starting
    created := o.createdAfter x q.created }
  pre
    | .serverLoop _, q => q.known ≠ none ∧ q.Settled
    | .manualModeLoop _, q => q.known = none ∧ q.sending = .idle
    | _, q => q.sending = .idle
  post
    | .smdHoldMove, q, _, q' => q' = q
    | .smdImmedStop, q, _, q' => q' = q
    | _, _, _, _ => True

/-- The request is not one that the account follows. -/
def Request.Unaccounted : Request → Prop
  | .assign _ => False
  | .pthreadCreate (.sendModbusCommand _) => False
  | .pthreadCreate .manualModeController => False
  | .modbusNewTcp => False
  | .modbusConnect _ => False
  | .modbusWriteRegister _ _ _ _ => False
  | .modbusFree _ => False
  | .readClient _ => False
  | .acceptClient => False
  | .note (.message _) => False
  | _ => True

section

variable {q : Account} {α β : Type}

theorem accountMonitor_allows {o : Request} (ho : o.Unaccounted) : accountMonitor.allows q o := by
  cases o with
  | pthreadCreate routine => cases routine <;> trivial
  | note n => cases n <;> trivial
  | _ => trivial

/-- Only an assignment changes what is known of the globals. -/
theorem accountMonitor_next_of_known {o : Request} {x : Answer o}
    (ho : ∀ g, mainMonitor.next g o x = g) :
    accountMonitor.next q o x = {
      known := q.known
      live := o.liveAfter x q.live
      sending := o.sendingAfter x q.sending
      starting := o.startingAfter x q.starting
      created := o.createdAfter x q.created } := by
  have hknown : (q.known.map fun g => mainMonitor.next g o x) = q.known := by
    rw [funext ho]
    exact Option.map_id'
  show Account.mk _ _ _ _ _ = _
  rw [hknown]

theorem accountMonitor_next {o : Request} (ho : o.Unaccounted) (x : Answer o) :
    accountMonitor.next q o x = q := by
  have hknown : ∀ g, mainMonitor.next g o x = g := fun g => by
    cases o <;> first | rfl | exact ho.elim
  have hsending : o.sendingAfter x q.sending = q.sending := by
    cases o with
    | pthreadCreate routine => cases routine <;> first | rfl | exact ho.elim
    | _ => first | rfl | exact ho.elim
  have hrest : o.liveAfter x q.live = q.live ∧ o.startingAfter x q.starting = q.starting ∧
      o.createdAfter x q.created = q.created := by
    cases o with
    | pthreadCreate routine =>
        cases routine <;> first | exact ⟨rfl, rfl, rfl⟩ | exact ho.elim
    | _ => first | exact ⟨rfl, rfl, rfl⟩ | exact ho.elim
  obtain ⟨hlive, hstarting, hcreated⟩ := hrest
  rw [accountMonitor_next_of_known hknown, hlive, hsending, hstarting, hcreated]

/-! ## The rules -/

theorem monitored_bind {p : Server α} {f : α → Server β} {post : β → Account → Prop}
    (h : p.Safe accountMonitor (fun a q' => (f a).Safe accountMonitor post q') q) :
    (p >>= f).Safe accountMonitor post q :=
  Program.Safe.bind h

theorem monitored_ite {c : Prop} [Decidable c] {p p' : Server α} {post : α → Account → Prop}
    (hp : c → p.Safe accountMonitor post q) (hp' : ¬ c → p'.Safe accountMonitor post q) :
    (if c then p else p').Safe accountMonitor post q := by
  split
  · exact hp ‹c›
  · exact hp' ‹¬ c›

theorem monitored_abort {fault : Fault} {post : α → Account → Prop} :
    (abort fault : Server α).Safe accountMonitor post q :=
  ⟨trivial, fun x => x.elim⟩

/-- A request that the account does not follow. -/
theorem monitored_ask {o : Request} {k : Answer o → Server β} {post : β → Account → Prop}
    (ho : o.Unaccounted) (hk : ∀ x, (k x).Safe accountMonitor post q) :
    (ask o >>= k).Safe accountMonitor post q := by
  refine ⟨accountMonitor_allows ho, fun x _ => ?_⟩
  rw [accountMonitor_next ho]
  exact hk x

/-- A connection that opens has been allocated. -/
theorem monitored_connect {c : Prop} [Decidable c] {ctx : Context} {k : Bool → Server β}
    {post : β → Account → Prop} (hrefused : (k false).Safe accountMonitor post q)
    (hanswer : ∀ b, (b = true → ctx.session.allocated = true) →
      (k b).Safe accountMonitor post
        { q with sending := (Request.modbusConnect ctx).sendingAfter b q.sending }) :
    (if c then k false else modbusConnect ctx >>= k).Safe accountMonitor post q := by
  refine monitored_ite (fun _ => hrefused) fun _ => ⟨trivial, fun b hb => ?_⟩
  have hnext : accountMonitor.next q (.modbusConnect ctx) b =
      { q with sending := (Request.modbusConnect ctx).sendingAfter b q.sending } :=
    accountMonitor_next_of_known fun _ => rfl
  rw [hnext]
  refine hanswer b fun htrue => ?_
  have hconnects : ctx.session.connects = true := (show b = _ from hb) ▸ htrue
  unfold Session.connects at hconnects
  exact (Bool.and_eq_true_iff.mp hconnects).1

/-! ## Sending -/

/-- The writes of the program are made one after the other. -/
theorem monitored_writeRegisters (ctx : Context) (i : Nat) (writes : List (Int × Int))
    (result : Option SmdResponseCode) (hq : q.sending = .opened writes) :
    (writeRegisters ctx i writes result).Safe accountMonitor
      (fun _ q' => q' = { q with sending := .opened [] }) q := by
  induction writes generalizing i result q with
  | nil =>
      show q = _
      rw [← hq]
  | cons write rest ih =>
      refine ⟨⟨rest, hq⟩, fun succeeded _ => ?_⟩
      have hnext : accountMonitor.next q (.modbusWriteRegister ctx i write.1 write.2) succeeded =
          { q with sending := .opened rest } := by
        rw [accountMonitor_next_of_known fun _ => rfl, hq]
        rfl
      rw [hnext]
      have hrest := fun result => ih (q := { q with sending := .opened rest }) (i + 1) result rfl
      exact monitored_ite (fun _ => hrest _) fun _ => hrest _

/-- A stop is sent again when nothing else is being sent. -/
theorem monitored_resendStop (commandName : Text) (hq : q.sending = .idle) :
    (resendStop commandName).Safe accountMonitor (fun _ q' => q' = q) q := by
  have hstop : (if commandName.isPrefixOf "immediate_stop".toList then
      (invoke .smdImmedStop >>= fun _ => pure ()) else pure () : Server Unit).Safe accountMonitor
      (fun _ q' => q' = q) q :=
    monitored_ite (fun _ => ⟨hq, fun _ _ hq' => hq'⟩) fun _ => rfl
  unfold resendStop
  refine monitored_ask trivial fun _ => ?_
  refine monitored_ite (fun _ => ⟨hq, fun _ q' hq' => ?_⟩) fun _ => ?_
  · rw [show q' = q from hq']
    exact hstop
  · exact hstop

/-- The context of a worker is freed, and so nothing is left of the program. -/
theorem monitored_free {ctx : Context} {k : Unit → Server β} {post : β → Account → Prop}
    {sending : Sending} (hq : q.sending = .idle)
    (hsending : ∀ write rest, sending ≠ .opened (write :: rest))
    (hk : (k ()).Safe accountMonitor post q) :
    (modbusClose ctx >>= fun _ => modbusFree ctx >>= k).Safe accountMonitor post
      { q with live := ctx.id :: q.live, sending := sending } := by
  refine monitored_ask trivial fun _ => ⟨⟨List.mem_cons_self, hsending⟩, fun _ _ => ?_⟩
  have hnext : accountMonitor.next { q with live := ctx.id :: q.live, sending := sending }
      (.modbusFree ctx) () = q := by
    rw [accountMonitor_next_of_known fun _ => rfl]
    simp only [Request.liveAfter, Request.sendingAfter, Request.startingAfter,
      Request.createdAfter, List.erase_cons_head, ← hq]
  rw [hnext]
  exact hk

theorem monitored_sendModbusCommand (cmd : RegisterProgram) (hq : q.sending = .idle) :
    (sendModbusCommand cmd).Safe accountMonitor (fun _ q' => q' = q) q := by
  unfold sendModbusCommand sendModbusCommandWorker
  refine ⟨hq, fun created _ => ?_⟩
  rw [accountMonitor_next_of_known fun _ => rfl]
  refine monitored_ite (fun hrefused => ?_) fun hcreated => ?_
  · show Account.mk _ _ _ _ _ = q
    have hfalse : created = false := by simpa using hrefused
    rw [hfalse]
    simp only [Request.liveAfter, Request.sendingAfter, Request.startingAfter,
      Request.createdAfter, Bool.false_eq_true, if_false, ← hq]
  · have htrue : created = true := by simpa using hcreated
    subst htrue
    refine ⟨trivial, fun ctx _ => ?_⟩
    rw [accountMonitor_next_of_known fun _ => rfl]
    refine monitored_ask trivial fun ip => ?_
    -- neither a refused session nor one that has ended leaves writes to be made
    have hrefused : Program.Safe accountMonitor (do
        modbusClose ctx
        modbusFree ctx
        let errno ← modbusErrno ctx
        if errno = ebadf then
          resendStop cmd.commandName
        pure SmdResponseCode.commandFailed) (fun _ q' => q' = q)
        { q with live := ctx.id :: q.live, sending := .started cmd } := by
      refine monitored_free hq (fun _ _ h => by cases h) ?_
      refine monitored_ask trivial fun errno => monitored_ite (fun _ => ?_) fun _ => rfl
      refine monitored_bind ((monitored_resendStop _ hq).mono fun _ q' hq' => ?_)
      exact hq'
    refine monitored_connect hrefused fun connected _ => monitored_ite (fun hfailed => ?_) ?_
    · have hfalse : connected = false := by simpa using hfailed
      rw [hfalse]
      exact hrefused
    · intro hconnected
      have htrue : connected = true := by simpa using hconnected
      rw [htrue]
      refine monitored_bind ((monitored_writeRegisters ctx 0 cmd.writes none rfl).mono ?_)
      intro _ q' hq'
      rw [hq']
      exact monitored_free (q := q) hq (fun _ _ h => by cases h) rfl

/-! ## Reading -/

/-- The context of a reading thread, which sends nothing. -/
theorem monitored_freeRead {ctx : Context} {k : Unit → Server β} {post : β → Account → Prop}
    (hq : q.sending = .idle) (hk : (k ()).Safe accountMonitor post q) :
    (modbusClose ctx >>= fun _ => modbusFree ctx >>= k).Safe accountMonitor post
      { q with live := ctx.id :: q.live } := by
  have h : (modbusClose ctx >>= fun _ => modbusFree ctx >>= k).Safe accountMonitor post
      { q with live := ctx.id :: q.live, sending := .idle } :=
    monitored_free hq (fun _ _ h => by cases h) hk
  rwa [← hq] at h

theorem monitored_readModbusRegistersWorker (registers : RegisterStrings)
    (readType : SmdRegisterReadType) (cl : Int) (line : Option Text) (hq : q.sending = .idle) :
    (readModbusRegistersWorker registers readType cl line).Safe accountMonitor
      (fun _ q' => q' = q) q := by
  unfold readModbusRegistersWorker
  refine ⟨trivial, fun ctx _ => ?_⟩
  rw [accountMonitor_next_of_known fun _ => rfl]
  refine monitored_ask trivial fun ip => ?_
  -- a session that sends nothing opens without a trace in the account
  have hidle : ∀ connected, (Request.modbusConnect ctx).sendingAfter connected q.sending =
      q.sending := fun connected => by
    rw [hq]
    rfl
  refine monitored_connect (monitored_freeRead hq rfl) fun connected _ => ?_
  show Program.Safe accountMonitor _ _ { q with
    live := ctx.id :: q.live
    sending := (Request.modbusConnect ctx).sendingAfter connected q.sending }
  rw [hidle]
  refine monitored_ite (fun _ => monitored_freeRead hq rfl) fun _ => ?_
  refine monitored_ask trivial fun words => ?_
  cases words with
  | none => exact monitored_freeRead hq rfl
  | some words =>
      refine monitored_ite (fun _ => ?_) fun _ => monitored_freeRead hq rfl
      exact monitored_ask trivial fun _ => monitored_freeRead hq rfl

theorem monitored_returnModbusRegisters (registers : RegisterStrings) (count : Nat)
    (readType : SmdRegisterReadType) (cl : Int) (line : Option Text) (size : Nat)
    (hq : q.sending = .idle) :
    (returnModbusRegisters registers count readType cl line size).Safe accountMonitor
      (fun _ q' => q' = q) q := by
  unfold returnModbusRegisters
  refine monitored_ite (fun _ => rfl) fun _ => monitored_ite (fun _ => rfl) fun _ => ?_
  refine monitored_ask trivial fun created => monitored_ite (fun _ => rfl) fun _ => ?_
  refine monitored_ite (fun _ => monitored_ask trivial fun heap => ?_) fun _ => ?_
  · refine monitored_bind ((monitored_readModbusRegistersWorker _ _ _ _ hq).mono ?_)
    intro reply q' hq'
    exact hq'
  · exact monitored_readModbusRegistersWorker _ _ _ _ hq

/-! ## Composed code -/

/-- The same flags and the same connection. -/
structure Globals.SameFlags (g g' : Globals) : Prop where
  smdConnected : g'.smdConnected = g.smdConnected
  smdCommandConnection : g'.smdCommandConnection = g.smdCommandConnection
  statusWaitingForAssembledMove :
    g'.statusWaitingForAssembledMove = g.statusWaitingForAssembledMove
  statusManualModeEnable : g'.statusManualModeEnable = g.statusManualModeEnable

/-- Nothing has changed but globals that are no flags. -/
structure Account.Keeps (q q' : Account) : Prop where
  account : q' = { q with known := q'.known }
  unknown : q.known = none → q'.known = none
  known : ∀ g, q.known = some g → ∃ g', q'.known = some g' ∧ g.SameFlags g'

theorem Account.Keeps.refl (q : Account) : q.Keeps q where
  account := rfl
  unknown := id
  known := fun g hg => ⟨g, hg, rfl, rfl, rfl, rfl⟩

theorem Account.Keeps.of_eq {q' : Account} (h : q' = q) : q.Keeps q' := by
  rw [h]
  exact .refl q

theorem Account.Keeps.trans {q₁ q₂ q₃ : Account} (h : q₁.Keeps q₂) (h' : q₂.Keeps q₃) :
    q₁.Keeps q₃ where
  account := by rw [h'.account, h.account]
  unknown := fun hq => h'.unknown (h.unknown hq)
  known := by
    intro g hg
    obtain ⟨g₂, hg₂, hsame⟩ := h.known g hg
    obtain ⟨g₃, hg₃, hsame'⟩ := h'.known g₂ hg₂
    refine ⟨g₃, hg₃, ?_, ?_, ?_, ?_⟩
    · exact hsame'.smdConnected.trans hsame.smdConnected
    · exact hsame'.smdCommandConnection.trans hsame.smdCommandConnection
    · exact hsame'.statusWaitingForAssembledMove.trans hsame.statusWaitingForAssembledMove
    · exact hsame'.statusManualModeEnable.trans hsame.statusManualModeEnable

theorem Account.Keeps.sending {q' : Account} (h : q.Keeps q') : q'.sending = q.sending := by
  rw [h.account]

/-- The rights with which the account is kept: no global is assigned but the type of the
assembled move, and that by the main thread. -/
structure Rights.KeepAccount (rights : Rights) (q : Account) : Prop where
  assigns : ∀ a, rights.assigns a →
    q.known ≠ none ∧ ∃ moveType, a = .statusTypeAssembledMove moveType
  notes : ∀ n, rights.notes n → n.OfMotor

theorem monitored_convertStringToLongInt (str : Text) :
    (convertStringToLongInt str).Safe accountMonitor (fun _ q' => q' = q) q := by
  have htest : Program.Safe accountMonitor (do
      let stillErange ← errnoIsErange
      if !(strtol str).consumed || stillErange then do
        perror
        pure (-1)
      else
        pure (toInt32 (strtol str).value)) (fun _ q' => q' = q) q :=
    monitored_ask trivial fun _ =>
      monitored_ite (fun _ => monitored_ask trivial fun _ => rfl) fun _ => rfl
  unfold convertStringToLongInt
  exact monitored_ite (fun _ => monitored_ask trivial fun _ => htest) fun _ => htest

theorem monitored_writeToClient (cl : Int) (message : Text) :
    (writeToClient cl message).Safe accountMonitor (fun _ q' => q' = q) q := by
  unfold writeToClient
  refine monitored_ask trivial fun written => ?_
  cases written with
  | none => rfl
  | some e => exact monitored_ask trivial fun _ => rfl

theorem monitored_block {rights : Rights} (hrights : rights.KeepAccount q) {p : Server α}
    (hp : Block rights p) (hq : q.sending = .idle) :
    p.Safe accountMonitor (fun _ q' => q.Keeps q') q := by
  have hkept : ∀ {γ : Type} {p : Server γ}, p.Safe accountMonitor (fun _ q' => q' = q) q →
      p.Safe accountMonitor (fun _ q' => q.Keeps q') q := fun h =>
    h.mono fun _ _ heq => .of_eq heq
  cases hp with
  | @ask o h =>
      by_cases ho : o.Unaccounted
      · exact monitored_ask (k := fun x => Program.done x) ho fun _ => .refl q
      · cases o with
        | assign a =>
            -- of the globals only the type may be assigned, and that by the main thread
            obtain ⟨hmain, moveType, rfl⟩ := hrights.assigns a h
            refine ⟨⟨hmain, trivial⟩, fun _ _ => ⟨rfl, fun hq => ?_, fun g hg => ?_⟩⟩
            · show q.known.map _ = none
              rw [hq]
              rfl
            · refine ⟨g.assign (.statusTypeAssembledMove moveType), ?_, rfl, rfl, rfl, rfl⟩
              show q.known.map _ = _
              rw [hg]
              rfl
        | note n =>
            have hmotor := hrights.notes n h
            cases n <;> first | exact absurd trivial ho | exact hmotor.elim
        | pthreadCreate routine => exact h.elim
        | _ => first | exact absurd trivial ho | exact h.elim
  | abort fault => exact monitored_abort
  | @convert str _ => exact hkept (monitored_convertStringToLongInt str)
  | answer cl message => exact hkept (monitored_writeToClient cl message)
  | send h => exact hkept (monitored_sendModbusCommand _ hq)
  | read registers count readType cl line size =>
      exact hkept (monitored_returnModbusRegisters _ _ _ _ _ _ hq)

theorem Rights.KeepAccount.of_keeps {rights : Rights} {q' : Account}
    (hrights : rights.KeepAccount q) (h : q.Keeps q') : rights.KeepAccount q' where
  assigns := by
    intro a ha
    obtain ⟨hmain, htype⟩ := hrights.assigns a ha
    refine ⟨?_, htype⟩
    cases hq : q.known with
    | none => exact absurd hq hmain
    | some g =>
        obtain ⟨g', hg', _⟩ := h.known g hq
        rw [hg']
        exact Option.some_ne_none g'
  notes := hrights.notes

/-- What is put together from blocks keeps the account. -/
theorem monitored_composed {rights : Rights} (hrights : rights.KeepAccount q) {p : Server α}
    (hp : Composed rights p) (hq : q.sending = .idle) :
    p.Safe accountMonitor (fun _ q' => q.Keeps q') q := by
  refine Program.MadeOf.safe (fun hblock q₁ hq₁ => ?_) hp (Account.Keeps.refl q)
  have hidle : q₁.sending = .idle := hq₁.sending.trans hq
  exact (monitored_block (hrights.of_keeps hq₁) hblock hidle).mono fun _ _ => hq₁.trans

end

end SmdControlServer
