import SmdControlServer.Server.Rules

/-!
# What code may do

Any code reads, waits, talks to the drive and writes to the client.  Which
programs it sends, which registers it writes, which globals it assigns, which
points of it the log records and which values it may set `errno` to are its `Rights`.
`Within rights p` is checked along the code, and an invariant that respects the
rights is kept by every run of such code.

The commands are put together from a few blocks: a program is sent, the registers
are read, a token is converted, the client is told something.  `Composed rights p`
says that `p` is, each block being within the rights.  What is to be shown of all the
commands is shown of the blocks.
-/

namespace SmdControlServer

open CString Interaction

/-- Whoever may send a program may make its writes. -/
structure Rights where
  sends : RegisterProgram → Prop
  writes : Int × Int → Prop
  assigns : Assignment → Prop
  notes : Note → Prop
  setsErrno : Int → Prop
  writes_of_sends : ∀ cmd, sends cmd → ∀ write ∈ cmd.writes, writes write

/-- The main thread sets `errno` after a call that failed, so what it may set is
what the calls may be expected to fail with.  Only the loops read from the client
and from the manual file. -/
def Rights.policy (rights : Rights) : Policy serverSignature where
  allows
    | .assign a => rights.assigns a
    | .setErrno e => rights.setsErrno e
    | .pthreadCreate (.sendModbusCommand cmd) => rights.sends cmd
    | .modbusWriteRegister _ _ register value => rights.writes (register, value)
    | .readClient _ => False
    | .readManualFile => False
    | .note n => rights.notes n
    | _ => True
  expects
    | .writeClient _ _, x => ∀ e, x = some e → rights.setsErrno e
    | .modbusNewTcp, ctx => rights.setsErrno ctx.session.connectErrno
    | .modbusErrno ctx, e => e = ctx.session.connectErrno
    | _, _ => True
  calls q := q = .smdHoldMove ∨ q = .smdImmedStop

/-- The code stays within its rights. -/
abbrev Within (rights : Rights) {α : Type} (p : Server α) : Prop :=
  p.Obeys rights.policy

section Within

variable {rights : Rights} {α β : Type}

theorem within_pure (a : α) : Within rights (pure a : Server α) := trivial

theorem within_ask {o : Request} (ho : rights.policy.allows o) : Within rights (ask o) :=
  ⟨ho, fun _ _ => trivial⟩

theorem within_assign {a : Assignment} (h : rights.assigns a) : Within rights (assign a) :=
  within_ask h

theorem within_bind {p : Server α} {f : α → Server β} (hp : Within rights p)
    (hf : ∀ a, Within rights (f a)) : Within rights (p >>= f) :=
  Program.Obeys.bind hp hf

theorem within_ite {c : Prop} [Decidable c] {p q : Server α} (hp : Within rights p)
    (hq : Within rights q) : Within rights (if c then p else q) := by
  split
  · exact hp
  · exact hq

theorem within_connect {c : Prop} [Decidable c] {ctx : Context} {k : Bool → Server α}
    (hk : ∀ b, Within rights (k b)) :
    Within rights (if c then k false else modbusConnect ctx >>= k) :=
  within_ite (hk false) ⟨trivial, fun b _ => hk b⟩

theorem within_abort {fault : Fault} : Within rights (abort fault : Server α) :=
  ⟨trivial, fun x => x.elim⟩

theorem within_hold : Within rights (invoke .smdHoldMove) :=
  ⟨Or.inl rfl, fun _ => trivial⟩

theorem within_stop : Within rights (invoke .smdImmedStop) :=
  ⟨Or.inr rfl, fun _ => trivial⟩

/-! ## Sending -/

theorem within_writeRegisters (ctx : Context) (i : Nat) {writes : List (Int × Int)}
    (h : ∀ write ∈ writes, rights.writes write) (result : Option SmdResponseCode) :
    Within rights (writeRegisters ctx i writes result) := by
  induction writes generalizing i result with
  | nil => exact within_pure _
  | cons first rest ih =>
      have hrest := ih (i + 1) fun write hmem => h write (List.mem_cons_of_mem _ hmem)
      refine within_bind (within_ask (h first List.mem_cons_self)) fun succeeded => ?_
      exact within_ite (hrest _) (hrest _)

theorem within_resendStop (commandName : Text) : Within rights (resendStop commandName) := by
  unfold resendStop
  refine within_bind (within_ask trivial) fun _ => ?_
  have hstop : Within rights (if commandName.isPrefixOf "immediate_stop".toList then
      (invoke .smdImmedStop >>= fun _ => pure ()) else pure ()) :=
    within_ite (within_bind within_stop fun _ => within_pure _) (within_pure _)
  exact within_ite (within_bind within_hold fun _ => hstop) hstop

theorem within_sendModbusCommandWorker {cmd : RegisterProgram} (h : rights.sends cmd) :
    Within rights (sendModbusCommandWorker cmd) := by
  unfold sendModbusCommandWorker
  refine within_bind (within_ask trivial) fun ctx => ?_
  refine within_bind (within_ask trivial) fun ip => ?_
  refine within_connect fun connected => within_ite ?_ ?_
  · refine within_bind (within_ask trivial) fun _ => within_bind (within_ask trivial) fun _ => ?_
    refine within_bind (within_ask trivial) fun errno => ?_
    exact within_ite (within_bind (within_resendStop _) fun _ => within_pure _) (within_pure _)
  · refine within_bind (within_writeRegisters _ _ (rights.writes_of_sends cmd h) _) fun _ => ?_
    refine within_bind (within_ask trivial) fun _ => within_bind (within_ask trivial) fun _ => ?_
    exact within_pure _

theorem within_sendModbusCommand {cmd : RegisterProgram} (h : rights.sends cmd) :
    Within rights (sendModbusCommand cmd) := by
  unfold sendModbusCommand
  refine within_bind (within_ask h) fun created => ?_
  exact within_ite (within_pure _) (within_sendModbusCommandWorker h)

/-! ## Reading -/

theorem within_readModbusRegistersWorker (registers : RegisterStrings)
    (readType : SmdRegisterReadType) (cl : Int) (line : Option Text) :
    Within rights (readModbusRegistersWorker registers readType cl line) := by
  unfold readModbusRegistersWorker
  refine within_bind (within_ask trivial) fun ctx => ?_
  refine within_bind (within_ask trivial) fun ip => ?_
  refine within_connect fun connected => within_ite ?_ ?_
  · refine within_bind (within_ask trivial) fun _ => within_bind (within_ask trivial) fun _ => ?_
    exact within_pure _
  · refine within_bind (within_ask trivial) fun words => ?_
    cases words with
    | none =>
        refine within_bind (within_ask trivial) fun _ => ?_
        exact within_bind (within_ask trivial) fun _ => within_pure _
    | some words =>
        refine within_ite (within_bind (within_ask trivial) fun _ => ?_) ?_
        · refine within_bind (within_ask trivial) fun _ => ?_
          exact within_bind (within_ask trivial) fun _ => within_pure _
        · refine within_bind (within_ask trivial) fun _ => ?_
          exact within_bind (within_ask trivial) fun _ => within_pure _

theorem within_returnModbusRegisters (registers : RegisterStrings) (count : Nat)
    (readType : SmdRegisterReadType) (cl : Int) (line : Option Text) (size : Nat) :
    Within rights (returnModbusRegisters registers count readType cl line size) := by
  unfold returnModbusRegisters
  refine within_ite (within_pure _) (within_ite (within_pure _) ?_)
  refine within_bind (within_ask trivial) fun created => ?_
  refine within_ite (within_pure _) (within_ite ?_ ?_)
  · refine within_bind (within_ask trivial) fun heap => ?_
    exact within_bind (within_readModbusRegistersWorker _ _ _ _) fun _ => within_pure _
  · exact within_readModbusRegistersWorker _ _ _ _

/-! ## Converting and answering -/

theorem within_convertStringToLongInt {str : Text}
    (h : (strtol str).erange = true → rights.setsErrno erange) :
    Within rights (convertStringToLongInt str) := by
  have hlost : Within rights (perror >>= fun _ => (pure (-1) : Server Int)) :=
    within_bind (within_ask trivial) fun _ => trivial
  unfold convertStringToLongInt
  cases herange : (strtol str).erange with
  | true =>
      have hset : Within rights (setErrno erange) := ⟨h herange, fun _ _ => trivial⟩
      simp only [herange, if_true]
      refine within_bind hset fun _ => ?_
      exact within_bind (within_ask trivial) fun _ => within_ite hlost trivial
  | false =>
      simp only [herange, Bool.false_eq_true, if_false]
      exact within_bind (within_ask trivial) fun _ => within_ite hlost trivial

theorem within_writeToClient (cl : Int) (message : Text) :
    Within rights (writeToClient cl message) := by
  unfold writeToClient
  refine ⟨trivial, fun answer hanswer => ?_⟩
  cases answer with
  | none => trivial
  | some e =>
      change Within rights (setErrno e >>= fun _ => pure (-1))
      exact within_bind (within_ask (hanswer e rfl)) fun _ => trivial

end Within

/-! ## Blocks -/

/-- What a command asks for itself, all the rest being done by the blocks. -/
def Rights.asks (rights : Rights) : Request → Prop
  | .globals => True
  | .assign a => rights.assigns a
  | .closeClient _ => True
  | .sleep _ => True
  | .uninitialised => True
  | .cJsonParse _ => True
  | .note n => rights.notes n
  | _ => False

/-- The blocks of the commands. -/
inductive Block (rights : Rights) : {α : Type} → Server α → Prop
  | ask {o : Request} (h : rights.asks o) : Block rights (ask o)
  | abort {α : Type} (fault : Fault) : Block rights (abort fault : Server α)
  | convert {str : Text} (h : (strtol str).erange = true → rights.setsErrno erange) :
      Block rights (convertStringToLongInt str)
  | answer (cl : Int) (message : Text) : Block rights (writeToClient cl message)
  | send {cmd : RegisterProgram} (h : rights.sends cmd) : Block rights (sendModbusCommand cmd)
  | read (registers : RegisterStrings) (count : Nat) (readType : SmdRegisterReadType) (cl : Int)
      (line : Option Text) (size : Nat) :
      Block rights (returnModbusRegisters registers count readType cl line size)

/-- Put together from blocks. -/
abbrev Composed (rights : Rights) {α : Type} (p : Server α) : Prop :=
  Program.MadeOf (Block rights) p

section Composed

variable {rights : Rights} {α β : Type}

theorem Block.within {p : Server α} (h : Block rights p) : Within rights p := by
  cases h with
  | @ask o h =>
      refine within_ask ?_
      cases o with
      | assign a => exact h
      | note n => exact h
      | _ => trivial
  | abort fault => exact within_abort
  | convert h => exact within_convertStringToLongInt h
  | answer cl message => exact within_writeToClient cl message
  | send h => exact within_sendModbusCommand h
  | read registers count readType cl line size =>
      exact within_returnModbusRegisters registers count readType cl line size

theorem Composed.within {p : Server α} (hp : Composed rights p) : Within rights p :=
  Program.MadeOf.obeys Block.within hp

theorem composed_pure (a : α) : Composed rights (pure a : Server α) := .done a

theorem composed_ask {o : Request} (h : rights.asks o) : Composed rights (ask o) :=
  .block (.ask h)

theorem composed_assign {a : Assignment} (h : rights.assigns a) :
    Composed rights (assign a) :=
  composed_ask h

theorem composed_bind {p : Server α} {f : α → Server β} (hp : Composed rights p)
    (hf : ∀ a, Composed rights (f a)) : Composed rights (p >>= f) :=
  .bind hp hf

theorem composed_ite {c : Prop} [Decidable c] {p q : Server α} (hp : Composed rights p)
    (hq : Composed rights q) : Composed rights (if c then p else q) := by
  split
  · exact hp
  · exact hq

theorem composed_abort {fault : Fault} : Composed rights (abort fault : Server α) :=
  .block (.abort fault)

theorem composed_conversion {str : Text} {k : Int → Server α}
    (h : (strtol str).erange = true → rights.setsErrno erange)
    (hk : ∀ n, Composed rights (k n)) : Composed rights (convertStringToLongInt str >>= k) :=
  composed_bind (.block (.convert h)) hk

theorem composed_writeToClient (cl : Int) (message : Text) :
    Composed rights (writeToClient cl message) :=
  .block (.answer cl message)

theorem composed_sendModbusCommand {cmd : RegisterProgram} (h : rights.sends cmd) :
    Composed rights (sendModbusCommand cmd) :=
  .block (.send h)

theorem composed_sendAnd {cmd : RegisterProgram} (h : rights.sends cmd)
    (success failure : SmdResponseCode) : Composed rights (sendAnd cmd success failure) := by
  unfold sendAnd
  refine composed_bind (composed_sendModbusCommand h) fun response => ?_
  exact composed_ite (composed_pure _) (composed_pure _)

theorem composed_returnModbusRegisters (registers : RegisterStrings) (count : Nat)
    (readType : SmdRegisterReadType) (cl : Int) (line : Option Text) (size : Nat) :
    Composed rights (returnModbusRegisters registers count readType cl line size) :=
  .block (.read registers count readType cl line size)

theorem composed_smdReadRegisters (readType : SmdRegisterReadType) (cl : Int) :
    Composed rights (smdReadRegisters readType cl) := by
  unfold smdReadRegisters readModbusRegisters
  refine composed_bind (composed_ask trivial) fun stack => ?_
  refine composed_bind (composed_returnModbusRegisters _ _ _ _ _ _) fun reply => ?_
  exact composed_ite (composed_pure _) (composed_pure _)

/-! ## Commands -/

theorem composed_smdJog {direction accel decel jerk speed : Int}
    (h : rights.sends (jogProgram direction accel decel jerk speed))
    (hnote : rights.notes (.smdJog direction accel decel jerk speed)) :
    Composed rights (smdJog direction accel decel jerk speed) := by
  unfold smdJog
  refine composed_bind (composed_ask hnote) fun _ => ?_
  refine composed_ite (composed_pure _) (composed_ite (composed_pure _) ?_)
  exact composed_sendModbusCommand h

theorem composed_smdRelativeMove {relPos accel decel jerk speed : Int}
    (h : rights.sends (relativeMoveProgram relPos accel decel jerk speed)) :
    Composed rights (smdRelativeMove relPos accel decel jerk speed) := by
  unfold smdRelativeMove
  refine composed_ite (composed_pure _) (composed_ite (composed_pure _) ?_)
  exact composed_sendModbusCommand h

theorem composed_smdFindHome {direction speed accel decel jerk : Int}
    (h : rights.sends (findHomeProgram direction speed accel decel jerk)) :
    Composed rights (smdFindHome direction speed accel decel jerk) := by
  unfold smdFindHome
  refine composed_ite (composed_pure _) (composed_ite (composed_pure _) ?_)
  exact composed_sendModbusCommand h

theorem composed_smdHoldMove (h : rights.sends holdMoveProgram)
    (hnote : rights.notes .smdHoldMove) : Composed rights smdHoldMove :=
  composed_bind (composed_ask hnote) fun _ => composed_sendModbusCommand h

theorem composed_smdPresetEncoderPosition {pos : Int}
    (h : rights.sends (presetEncoderProgram pos)) :
    Composed rights (smdPresetEncoderPosition pos) :=
  composed_ite (composed_pure _) (composed_sendAnd h _ _)

theorem composed_smdPresetMotorPosition {pos : Int} (h : rights.sends (presetMotorProgram pos)) :
    Composed rights (smdPresetMotorPosition pos) :=
  composed_ite (composed_pure _) (composed_sendAnd h _ _)

theorem composed_smdSetConfiguration {controlWord configWord startingSpeed stepsPerTurn
    encPulsesPerTurn idleCurrentPercentage motorCurrent : Int}
    (h : rights.sends (setConfigurationProgram controlWord configWord startingSpeed stepsPerTurn
      encPulsesPerTurn idleCurrentPercentage motorCurrent)) :
    Composed rights (smdSetConfiguration controlWord configWord startingSpeed stepsPerTurn
      encPulsesPerTurn idleCurrentPercentage motorCurrent) :=
  composed_ite (composed_pure _) (composed_sendAnd h _ _)

theorem composed_smdProgramAssembledMove (hfirst : rights.sends programFirstBlockProgram)
    (hreset : rights.sends resetErrorsProgram) : Composed rights smdProgramAssembledMove := by
  unfold smdProgramAssembledMove smdProgramBlockFirstBlock
  refine composed_bind (composed_bind (composed_sendModbusCommand hfirst) fun rc => ?_)
    fun response => ?_
  · refine composed_ite ?_ (composed_pure _)
    refine composed_bind (composed_ask trivial) fun _ => ?_
    refine composed_bind (composed_ask trivial) fun stack => ?_
    refine composed_bind (composed_returnModbusRegisters _ _ _ _ _ _) fun reply => ?_
    refine composed_ite (composed_pure _) (composed_ite composed_abort ?_)
    exact composed_ite (composed_pure _) (composed_ite (composed_pure _) (composed_pure _))
  · refine composed_ite (composed_pure _) ?_
    exact composed_bind (composed_sendModbusCommand hreset) fun _ => composed_pure _

theorem composed_smdRunAssembledMove {direction dwellTime : Int}
    {moveType : SmdAssembledMoveType}
    (h : ∀ lsw ∈ [32768, 32784, 33280], rights.sends (runAssembledMoveProgram lsw dwellTime)) :
    Composed rights (smdRunAssembledMove direction dwellTime moveType) := by
  have hblend : (if direction = 0 then 32768 else 32784) ∈ ([32768, 32784, 33280] : List Int) := by
    split <;> decide
  unfold smdRunAssembledMove
  refine composed_bind (composed_ask trivial) fun g => ?_
  apply composed_ite (composed_sendModbusCommand (h _ hblend))
  refine composed_ite (composed_ite ?_ (composed_pure _)) ?_
  · exact composed_sendModbusCommand (h _ (by decide))
  · exact composed_pure _

end Composed

/-! ## Runs of such code -/

/-- The stops that a worker may send again are among the programs. -/
structure Rights.AllowsStops (rights : Rights) : Prop where
  hold : rights.sends holdMoveProgram
  holdNote : rights.notes .smdHoldMove
  stop : rights.sends immediateStopProgram

theorem within_body {rights : Rights} (h : rights.AllowsStops) (q : Procedure)
    (hq : rights.policy.calls q) : Within rights (procedureBody q) := by
  rcases hq with rfl | rfl
  · exact (composed_smdHoldMove h.hold h.holdNote).within
  · exact within_sendModbusCommand h.stop

/-- Invariants that respect the rights are kept. -/
theorem Within.invariant {rights : Rights} (hstops : rights.AllowsStops) {inv : World → Prop}
    (hhandle : ∀ o, rights.policy.allows o → ∀ w x w', inv w → handle o w = some (x, w') →
      rights.policy.expects o x ∧ inv w')
    {α : Type} {p : Server α} (hp : Within rights p) {w w' : World} {a : α} (hw : inv w)
    (h : Runs server p w a w') : inv w' :=
  Runs.invariant hhandle (within_body hstops) hp hw h

/-- Without a limit on `errno`, every answer is expected. -/
theorem expects_of_handle {rights : Rights} (herrno : ∀ e, rights.setsErrno e) {o : Request}
    {w w' : World} {x : Answer o} (h : handle o w = some (x, w')) :
    rights.policy.expects o x := by
  cases o with
  | writeClient cl message => exact fun e _ => herrno e
  | modbusNewTcp => exact herrno _
  | modbusErrno ctx =>
      cases h
      rfl
  | _ => trivial

/-- A preorder on worlds that every allowed request respects. -/
theorem Within.preorder {rights : Rights} (hstops : rights.AllowsStops)
    (herrno : ∀ e, rights.setsErrno e) {R : World → World → Prop} (hrefl : ∀ w, R w w)
    (htrans : ∀ w₁ w₂ w₃, R w₁ w₂ → R w₂ w₃ → R w₁ w₃)
    (hhandle : ∀ o, rights.policy.allows o → ∀ w x w', handle o w = some (x, w') → R w w')
    {α : Type} {p : Server α} (hp : Within rights p) {w w' : World} {a : α}
    (h : Runs server p w a w') : R w w' :=
  Within.invariant hstops
    (fun o ho w₁ x w₂ hw₁ hx =>
      ⟨expects_of_handle herrno hx, htrans w w₁ w₂ hw₁ (hhandle o ho w₁ x w₂ hx)⟩)
    hp (hrefl w) h

end SmdControlServer
