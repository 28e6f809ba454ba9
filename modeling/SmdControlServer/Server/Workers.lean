import SmdControlServer.Server.SocketOps

/-!
# What the workers ask for

A program is sent, and the registers are read, by a thread that the caller starts and waits
for.  All that such a thread asks for has to do with its own session, so whatever a policy
says of the globals, of the notes and of the loops, it holds of sending and reading.
-/

namespace SmdControlServer

open CString Interaction

/-- What a worker and its start ask for. -/
def Request.OfWorker : Request → Prop
  | .pthreadCreate routine => routine ≠ .manualModeController
  | .modbusNewTcp => True
  | .deviceIp => True
  | .modbusConnect _ => True
  | .modbusErrno _ => True
  | .modbusWriteRegister _ _ _ _ => True
  | .modbusReadRegisters _ => True
  | .modbusClose _ => True
  | .modbusFree _ => True
  | .writeClient _ _ => True
  | .sleep _ => True
  | .uninitialised => True
  | _ => False

/-- Code that asks for nothing else and calls nothing but the stops. -/
abbrev OfWorkers {α : Type} (p : Server α) : Prop :=
  p.Obeys (Policy.only Request.OfWorker fun q : Procedure => q = .smdHoldMove ∨ q = .smdImmedStop)

section

variable {α β : Type}

theorem ofWorkers_pure (a : α) : OfWorkers (pure a : Server α) := trivial

theorem ofWorkers_bind {p : Server α} {f : α → Server β} (hp : OfWorkers p)
    (hf : ∀ a, OfWorkers (f a)) : OfWorkers (p >>= f) :=
  Program.Obeys.bind hp hf

theorem ofWorkers_ask {o : Request} {f : Answer o → Server β} (ho : o.OfWorker)
    (hf : ∀ x, OfWorkers (f x)) : OfWorkers (ask o >>= f) :=
  ⟨ho, fun x _ => hf x⟩

theorem ofWorkers_ite {c : Prop} [Decidable c] {p q : Server α} (hp : OfWorkers p)
    (hq : OfWorkers q) : OfWorkers (if c then p else q) :=
  Program.Obeys.ite hp hq

/-- A worker's attempt to connect and the two ways on from it. -/
theorem ofWorkers_opening {k : Context → Bool → Server α} (hk : ∀ ctx b, OfWorkers (k ctx b)) :
    OfWorkers (do
      let ctx ← modbusNewTcp
      let ip ← deviceIp
      let connected ← if ip.length = 0 then pure false else modbusConnect ctx
      k ctx connected) :=
  ofWorkers_ask trivial fun ctx => ofWorkers_ask trivial fun _ =>
    ofWorkers_ite (hk ctx false) (ofWorkers_ask trivial fun b => hk ctx b)

/-- The way out of every worker. -/
theorem ofWorkers_closing {ctx : Context} {p : Server α} (hp : OfWorkers p) :
    OfWorkers (do
      modbusClose ctx
      modbusFree ctx
      p) :=
  ofWorkers_ask trivial fun _ => ofWorkers_ask trivial fun _ => hp

theorem ofWorkers_writeRegisters (ctx : Context) (i : Nat) (writes : List (Int × Int))
    (result : Option SmdResponseCode) : OfWorkers (writeRegisters ctx i writes result) := by
  induction writes generalizing i result with
  | nil => exact ofWorkers_pure _
  | cons first rest ih => exact ofWorkers_ask trivial fun _ => ofWorkers_ite (ih _ _) (ih _ _)

theorem ofWorkers_resendStop (commandName : Text) : OfWorkers (resendStop commandName) := by
  have hstop : OfWorkers (if commandName.isPrefixOf "immediate_stop".toList then
      (invoke .smdImmedStop >>= fun _ => pure ()) else pure ()) :=
    ofWorkers_ite ⟨Or.inr rfl, fun _ => trivial⟩ (ofWorkers_pure _)
  have hhold : OfWorkers (invoke .smdHoldMove) := ⟨Or.inl rfl, fun _ => trivial⟩
  exact ofWorkers_ask trivial fun _ => ofWorkers_ite (ofWorkers_bind hhold fun _ => hstop) hstop

theorem ofWorkers_sendModbusCommand (cmd : RegisterProgram) :
    OfWorkers (sendModbusCommand cmd) := by
  have hstarts : (Request.pthreadCreate (.sendModbusCommand cmd)).OfWorker := fun h => by cases h
  refine ofWorkers_ask hstarts fun created => ofWorkers_ite (ofWorkers_pure _) ?_
  apply ofWorkers_opening
  intro ctx connected
  apply ofWorkers_ite
  · refine ofWorkers_closing (ofWorkers_ask trivial fun errno => ?_)
    exact ofWorkers_ite (ofWorkers_bind (ofWorkers_resendStop _) fun _ => ofWorkers_pure _)
      (ofWorkers_pure _)
  · apply ofWorkers_bind (ofWorkers_writeRegisters _ _ _ _)
    intro _
    exact ofWorkers_closing (ofWorkers_pure _)

theorem ofWorkers_readModbusRegistersWorker (registers : RegisterStrings)
    (readType : SmdRegisterReadType) (cl : Int) (line : Option Text) :
    OfWorkers (readModbusRegistersWorker registers readType cl line) := by
  apply ofWorkers_opening
  intro ctx connected
  apply ofWorkers_ite (ofWorkers_closing (ofWorkers_pure _))
  refine ofWorkers_ask trivial fun words => ?_
  cases words with
  | none => exact ofWorkers_closing (ofWorkers_pure _)
  | some words =>
      refine ofWorkers_ite (ofWorkers_ask trivial fun _ => ?_) ?_
      · exact ofWorkers_closing (ofWorkers_pure _)
      · exact ofWorkers_closing (ofWorkers_pure _)

theorem ofWorkers_returnModbusRegisters (registers : RegisterStrings) (count : Nat)
    (readType : SmdRegisterReadType) (cl : Int) (line : Option Text) (size : Nat) :
    OfWorkers (returnModbusRegisters registers count readType cl line size) := by
  have hstarts : (Request.pthreadCreate (.readModbusRegisters readType)).OfWorker :=
    fun h => by cases h
  unfold returnModbusRegisters
  refine ofWorkers_ite (ofWorkers_pure _) (ofWorkers_ite (ofWorkers_pure _) ?_)
  refine ofWorkers_ask hstarts fun created => ofWorkers_ite (ofWorkers_pure _) ?_
  refine ofWorkers_ite (ofWorkers_ask trivial fun heap => ?_) ?_
  · exact ofWorkers_bind (ofWorkers_readModbusRegistersWorker _ _ _ _) fun _ => ofWorkers_pure _
  · exact ofWorkers_readModbusRegistersWorker _ _ _ _

/-- Sending and reading obey every policy that lets the workers do their work. -/
theorem OfWorkers.obeys {policy : Policy serverSignature}
    (hallows : ∀ o : Request, o.OfWorker → policy.allows o)
    (hcalls : ∀ q, q = .smdHoldMove ∨ q = .smdImmedStop → policy.calls q) {p : Server α}
    (hp : OfWorkers p) : p.Obeys policy :=
  Program.Obeys.mono hp hallows (fun _ _ _ _ => trivial) hcalls

end

end SmdControlServer
