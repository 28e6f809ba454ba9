import SmdControlServer.Server.SocketOps

/-!
# What code has to do with the client

Most of the code knows a client by its descriptor only, if at all.  It may write to that
client.  It neither reads from a client nor closes the connection to one, takes the next
one or begins with a message: this is left to the loop of `open_server_socket`.  The
controllers have no client, and they assign no global.
-/

namespace SmdControlServer

open CString Interaction

/-- What code asks for that serves this client, or none. -/
def Request.Serves (client : Option Int) : Request → Prop
  | .writeClient cl _ => client = some cl
  | .assign _ => client ≠ none
  | .readClient _ => False
  | .closeClient _ => False
  | .acceptClient => False
  | .note (.message _) => False
  | _ => True

/-- Code that serves this client, or none, and calls nothing but the stops. -/
abbrev Serves (client : Option Int) {α : Type} (p : Server α) : Prop :=
  p.Obeys (Policy.only (Request.Serves client)
    fun q : Procedure => q = .smdHoldMove ∨ q = .smdImmedStop)

section Serves

variable {client : Option Int} {α β : Type}

theorem serves_pure (a : α) : Serves client (pure a : Server α) := trivial

theorem serves_ask {o : Request} (ho : o.Serves client) : Serves client (ask o) :=
  ⟨ho, fun _ _ => trivial⟩

theorem serves_abort {fault : Fault} : Serves client (abort fault : Server α) :=
  ⟨trivial, fun x => x.elim⟩

theorem serves_bind {p : Server α} {f : α → Server β} (hp : Serves client p)
    (hf : ∀ a, Serves client (f a)) : Serves client (p >>= f) :=
  Program.Obeys.bind hp hf

theorem serves_ite {c : Prop} [Decidable c] {p q : Server α} (hp : Serves client p)
    (hq : Serves client q) : Serves client (if c then p else q) :=
  Program.Obeys.ite hp hq

/-! ## Sending -/

theorem serves_writeRegisters (ctx : Context) (i : Nat) (writes : List (Int × Int))
    (result : Option SmdResponseCode) :
    Serves client (writeRegisters ctx i writes result) := by
  induction writes generalizing i result with
  | nil => exact serves_pure _
  | cons first rest ih =>
      refine serves_bind (serves_ask trivial) fun succeeded => ?_
      exact serves_ite (ih _ _) (ih _ _)

theorem serves_resendStop (commandName : Text) : Serves client (resendStop commandName) := by
  have hhold : Serves client (invoke .smdHoldMove) := ⟨Or.inl rfl, fun _ => trivial⟩
  have himmed : Serves client (invoke .smdImmedStop) := ⟨Or.inr rfl, fun _ => trivial⟩
  have hstop : Serves client (if commandName.isPrefixOf "immediate_stop".toList then
      (invoke .smdImmedStop >>= fun _ => pure ()) else pure ()) :=
    serves_ite (serves_bind himmed fun _ => serves_pure _) (serves_pure _)
  unfold resendStop
  refine serves_bind (serves_ask trivial) fun _ => ?_
  exact serves_ite (serves_bind hhold fun _ => hstop) hstop

/-- A worker's attempt to connect and the two ways on from it. -/
theorem serves_opening {k : Context → Bool → Server α}
    (hk : ∀ ctx b, Serves client (k ctx b)) :
    Serves client (do
      let ctx ← modbusNewTcp
      let ip ← deviceIp
      let connected ← if ip.length = 0 then pure false else modbusConnect ctx
      k ctx connected) := by
  refine serves_bind (serves_ask trivial) fun ctx => ?_
  refine serves_bind (serves_ask trivial) fun ip => ?_
  exact serves_ite (hk ctx false) (serves_bind (serves_ask trivial) fun b => hk ctx b)

/-- The way out of every worker. -/
theorem serves_closing {ctx : Context} {p : Server α} (hp : Serves client p) :
    Serves client (do
      modbusClose ctx
      modbusFree ctx
      p) :=
  serves_bind (serves_ask trivial) fun _ => serves_bind (serves_ask trivial) fun _ => hp

theorem serves_sendModbusCommand (cmd : RegisterProgram) :
    Serves client (sendModbusCommand cmd) := by
  unfold sendModbusCommand
  refine serves_bind (serves_ask trivial) fun created => ?_
  apply serves_ite (serves_pure _)
  apply serves_opening
  intro ctx connected
  apply serves_ite
  · apply serves_closing
    refine serves_bind (serves_ask trivial) fun errno => ?_
    exact serves_ite (serves_bind (serves_resendStop _) fun _ => serves_pure _) (serves_pure _)
  · apply serves_bind (serves_writeRegisters _ _ _ _)
    intro _
    exact serves_closing (serves_pure _)

theorem serves_sendAnd (cmd : RegisterProgram) (success failure : SmdResponseCode) :
    Serves client (sendAnd cmd success failure) := by
  apply serves_bind (serves_sendModbusCommand cmd)
  intro response
  exact serves_ite (serves_pure _) (serves_pure _)

theorem serves_smdHoldMove : Serves client smdHoldMove :=
  serves_bind (serves_ask trivial) fun _ => serves_sendModbusCommand _

theorem serves_smdJog {direction accel decel jerk speed : Int} :
    Serves client (smdJog direction accel decel jerk speed) := by
  refine serves_bind (serves_ask trivial) fun _ => ?_
  exact serves_ite (serves_pure _) (serves_ite (serves_pure _) (serves_sendModbusCommand _))

/-- The stops, which a worker sends again, have no client. -/
theorem serves_body (q : Procedure) (hq : q = .smdHoldMove ∨ q = .smdImmedStop) :
    Serves none (procedureBody q) := by
  rcases hq with rfl | rfl
  · exact serves_smdHoldMove
  · exact serves_sendModbusCommand _

/-! ## Reading -/

/-- The registers are read for the client, or without one for the caller only. -/
theorem serves_readModbusRegistersWorker (registers : RegisterStrings)
    (readType : SmdRegisterReadType) {cl : Int} (hcl : 0 < cl → client = some cl)
    (line : Option Text) :
    Serves client (readModbusRegistersWorker registers readType cl line) := by
  apply serves_opening
  intro ctx connected
  apply serves_ite (serves_closing (serves_pure _))
  refine serves_bind (serves_ask trivial) fun words => ?_
  cases words with
  | none => exact serves_closing (serves_pure _)
  | some words =>
      by_cases hpositive : cl > 0
      · simp only [hpositive, if_true]
        have hwrite : Serves client (writeClient cl (clientWriteString readType words)) :=
          serves_ask (hcl hpositive)
        apply serves_bind hwrite
        intro _
        exact serves_closing (serves_pure _)
      · simp only [hpositive, if_false]
        exact serves_closing (serves_pure _)

theorem serves_returnModbusRegisters (registers : RegisterStrings) (count : Nat)
    (readType : SmdRegisterReadType) {cl : Int} (hcl : 0 < cl → client = some cl)
    (line : Option Text) (size : Nat) :
    Serves client (returnModbusRegisters registers count readType cl line size) := by
  have hworker := serves_readModbusRegistersWorker registers readType hcl
  unfold returnModbusRegisters
  apply serves_ite (serves_pure _)
  apply serves_ite (serves_pure _)
  refine serves_bind (serves_ask trivial) fun created => ?_
  apply serves_ite (serves_pure _)
  apply serves_ite
  · refine serves_bind (serves_ask trivial) fun heap => ?_
    exact serves_bind (hworker _) fun _ => serves_pure _
  · exact hworker _

/-- No client has the descriptor -1. -/
theorem serves_readForCaller (registers : RegisterStrings) (count : Nat)
    (readType : SmdRegisterReadType) (line : Option Text) (size : Nat) :
    Serves client (returnModbusRegisters registers count readType (-1) line size) :=
  serves_returnModbusRegisters registers count readType (fun h => absurd h (by decide)) line size

theorem serves_smdReadRegisters (readType : SmdRegisterReadType) (cl : Int) :
    Serves (some cl) (smdReadRegisters readType cl) := by
  refine serves_bind (serves_ask trivial) fun stack => ?_
  apply serves_bind (serves_returnModbusRegisters _ _ _ (fun _ => rfl) _ _)
  intro reply
  exact serves_ite (serves_pure _) (serves_pure _)

theorem serves_smdProgramAssembledMove : Serves client smdProgramAssembledMove := by
  have hstatus : Serves client smdProgramBlockFirstBlock := by
    apply serves_bind (serves_sendModbusCommand _)
    intro rc
    apply serves_ite _ (serves_pure _)
    refine serves_bind (serves_ask trivial) fun _ => ?_
    refine serves_bind (serves_ask trivial) fun stack => ?_
    apply serves_bind (serves_readForCaller _ _ _ _ _)
    intro reply
    apply serves_ite (serves_pure _)
    apply serves_ite serves_abort
    exact serves_ite (serves_pure _) (serves_ite (serves_pure _) (serves_pure _))
  apply serves_bind hstatus
  intro response
  apply serves_ite (serves_pure _)
  exact serves_bind (serves_sendModbusCommand _) fun _ => serves_pure _

/-! ## Converting and answering -/

theorem serves_convertStringToLongInt (str : Text) :
    Serves client (convertStringToLongInt str) := by
  have hlost : Serves client (perror >>= fun _ => (pure (-1) : Server Int)) :=
    serves_bind (serves_ask trivial) fun _ => trivial
  unfold convertStringToLongInt
  apply serves_ite
  · refine serves_bind (serves_ask trivial) fun _ => ?_
    exact serves_bind (serves_ask trivial) fun _ => serves_ite hlost trivial
  · exact serves_bind (serves_ask trivial) fun _ => serves_ite hlost trivial

theorem serves_writeToClient (cl : Int) (message : Text) :
    Serves (some cl) (writeToClient cl message) := by
  refine serves_bind (serves_ask rfl) fun answer => ?_
  cases answer with
  | none => exact serves_pure _
  | some e => exact serves_bind (serves_ask trivial) fun _ => serves_pure _

/-! ## The command connection -/

theorem serves_smdCloseCommandConnection {cl : Int} :
    Serves (some cl) smdCloseCommandConnection := by
  have hassign : ∀ a : Assignment, (Request.assign a).Serves (some cl) :=
    fun _ => Option.some_ne_none cl
  unfold smdCloseCommandConnection
  refine serves_bind (serves_ask trivial) fun g => ?_
  cases g.smdCommandConnection with
  | none => exact serves_pure _
  | some ctx =>
      apply serves_ite _ (serves_pure _)
      apply serves_closing
      refine serves_bind (serves_ask (hassign _)) fun _ => ?_
      refine serves_bind (serves_ask (hassign _)) fun _ => ?_
      refine serves_bind (serves_ask (hassign _)) fun _ => ?_
      exact serves_bind (serves_ask (hassign _)) fun _ => serves_ask (hassign _)

theorem serves_smdOpenCommandConnection {cl : Int} :
    Serves (some cl) smdOpenCommandConnection := by
  have hassign : ∀ a : Assignment, (Request.assign a).Serves (some cl) :=
    fun _ => Option.some_ne_none cl
  unfold smdOpenCommandConnection
  refine serves_bind (serves_ask trivial) fun ctx => ?_
  refine serves_bind (serves_ask (hassign _)) fun _ => ?_
  refine serves_bind (serves_ask trivial) fun ip => ?_
  have hanswer : ∀ connected : Bool, Serves (some cl) (if !connected then do
      let e ← modbusErrno ctx
      setErrno e
      modbusFree ctx
      assign (.smdConnected 0)
      pure SmdResponseCode.noRouteToHost
    else do
      assign (.smdConnected 1)
      pure SmdResponseCode.connectSuccess) := by
    intro connected
    apply serves_ite
    · refine serves_bind (serves_ask trivial) fun _ => serves_bind (serves_ask trivial) fun _ => ?_
      refine serves_bind (serves_ask trivial) fun _ => ?_
      exact serves_bind (serves_ask (hassign _)) fun _ => serves_pure _
    · exact serves_bind (serves_ask (hassign _)) fun _ => serves_pure _
  exact serves_ite (hanswer false) (serves_bind (serves_ask trivial) hanswer)

/-! ## The controllers -/

theorem serves_applySample (locals : ControllerLocals) (potValue : Int)
    (jogValue : SmdJogDirection) :
    Serves client (applySample locals potValue jogValue) := by
  have hjog : ∀ locals : ControllerLocals, Serves client (do
      let _ ← jogAt locals.currentJogDirection locals.currentSpeed
      pure locals) :=
    fun _ => serves_bind serves_smdJog fun _ => serves_pure _
  unfold applySample
  apply serves_ite (serves_ite (hjog _) (serves_pure _))
  apply serves_ite
  · exact serves_ite (serves_bind serves_smdHoldMove fun _ => serves_pure _) (serves_pure _)
  apply serves_ite _ (serves_pure _)
  apply serves_ite _ (hjog _)
  apply serves_bind serves_smdHoldMove
  intro _
  exact serves_bind (serves_ask trivial) fun _ => hjog _

/-- What follows the read of the file. -/
theorem serves_handleSample (locals : ControllerLocals) :
    Serves client (handleSample locals) := by
  unfold handleSample
  apply serves_ite _ (serves_pure _)
  apply serves_bind
  · apply serves_bind (serves_convertStringToLongInt _)
    intro _
    exact serves_bind (serves_convertStringToLongInt _) fun _ => serves_pure _
  · intro sample
    exact serves_ite (serves_applySample _ _ _) (serves_pure _)

theorem serves_manualModeIteration (locals : ControllerLocals) :
    Serves client (manualModeIteration locals) := by
  unfold manualModeIteration readSample
  refine serves_bind (serves_ask trivial) fun outcome => ?_
  cases outcome with
  | noAccess e => exact serves_pure _
  | openFailed e => exact serves_pure _
  | readFailed e => exact serves_handleSample _
  | contents bytes =>
      cases bytes with
      | nil => exact serves_pure _
      | cons byte rest => exact serves_handleSample _

end Serves

end SmdControlServer
