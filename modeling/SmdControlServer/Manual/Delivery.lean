import SmdControlServer.Manual.Calls

/-!
# What the manual mode remembers and what was delivered

The controller sends only when a sample differs from what it remembers, so what it
remembers should be what the drive was last told.  It remembers a sample whether its
motion commands succeed or not.  So it is right after every turn exactly when the last
command of every turn is delivered.
-/

namespace SmdControlServer

open CString Interaction

/-! ## Deliveries -/

/-- The program whose thread was started last, and the one that was delivered last:
its connection was made, and `send_modbus_command` returned a success for it. -/
structure Delivery where
  started : Option RegisterProgram
  delivered : Option RegisterProgram
  deriving DecidableEq

def Delivery.next (d : Delivery) : Event → Delivery
  | .threadStarted (.sendModbusCommand cmd) true => { d with started := some cmd }
  | .contextConnected _ true => { d with delivered := d.started }
  | _ => d

def deliveryAfter (turns : List Turn) : Delivery :=
  (turns.flatMap Turn.events).foldl Delivery.next ⟨none, none⟩

/-- The program that was delivered last in these turns. -/
def lastDelivered (turns : List Turn) : Option RegisterProgram :=
  (deliveryAfter turns).delivered

/-- The events deliver `cmd`, whatever has been started before. -/
def Delivers (events : List Event) (cmd : RegisterProgram) : Prop :=
  ∀ d : Delivery, (events.foldl Delivery.next d).delivered = some cmd

/-- The events deliver nothing. -/
def DeliversNothing (events : List Event) : Prop :=
  ∀ d : Delivery, (events.foldl Delivery.next d).delivered = d.delivered

/-- The events deliver `cmd` where `P` holds, and nothing otherwise. -/
structure DeliversIf (P : Prop) (events : List Event) (cmd : RegisterProgram) : Prop where
  delivers : P → Delivers events cmd
  nothing : ¬ P → DeliversNothing events

section

variable {events events' : List Event} {cmd : RegisterProgram}

theorem Delivers.after (h : Delivers events' cmd) : Delivers (events ++ events') cmd := by
  intro d
  rw [List.foldl_append]
  exact h _

theorem Delivers.before (h : Delivers events cmd) (h' : DeliversNothing events') :
    Delivers (events ++ events') cmd := by
  intro d
  rw [List.foldl_append, h' _]
  exact h d

theorem DeliversNothing.append (h : DeliversNothing events) (h' : DeliversNothing events') :
    DeliversNothing (events ++ events') := by
  intro d
  rw [List.foldl_append, h' _]
  exact h d

theorem deliversNothing_writeEvents (ctx : Context) (i : Nat) (writes : List (Int × Int)) :
    DeliversNothing (writeEvents ctx i writes) := by
  induction writes generalizing i with
  | nil => exact fun d => rfl
  | cons first rest ih => exact fun d => ih (i + 1) d

/-- A session that opens delivers its program. -/
theorem delivers_afterWrites {w : World} (hopens : w.opens) (cmd : RegisterProgram) :
    Delivers (newEvents w (w.afterWrites cmd)) cmd := by
  obtain ⟨_, hip, hconnects⟩ := hopens
  rw [newEvents_afterWrites]
  have hopening : Delivers (openingEvents (.sendModbusCommand cmd) w) cmd := by
    intro d
    unfold openingEvents
    rw [if_neg hip, hconnects]
    rfl
  exact (hopening.before (deliversNothing_writeEvents _ 0 _)).before fun d => rfl

theorem deliversNothing_afterRefusal {w : World}
    (hthread : w.drive.head.threadCreated = true) (hopens : ¬ w.opens)
    (cmd : RegisterProgram) : DeliversNothing (newEvents w (w.afterRefusal cmd)) := by
  have hopening : DeliversNothing (openingEvents (.sendModbusCommand cmd) w) := by
    intro d
    unfold openingEvents
    by_cases hip : w.ip = []
    · rw [if_pos hip]
      rfl
    · have hconnects : w.drive.head.connects = false := by
        by_contra hconnects
        rw [Bool.not_eq_false] at hconnects
        exact hopens ⟨hthread, hip, hconnects⟩
      rw [if_neg hip, hconnects]
      rfl
  rw [newEvents_afterRefusal]
  exact hopening.append fun d => rfl

end

/-! ## What a command delivers -/

namespace World

/-- The drive will accept the command, or a hold that is sent again for it. -/
def Accepts (w : World) : MotionCall → Prop
  | .jog _ _ _ _ _ => w.opens
  | .hold => ∃ ctx, WrittenIn holdMoveProgram (w.recordAll [.noted .smdHoldMove])
      holdMoveProgram ctx

end World

/-- A hold that is sent is delivered when a session opens for it, its own or that of
one that is sent again. -/
theorem Sends.delivery_hold {cmd : RegisterProgram} {w w' : World} {r : SmdResponseCode}
    (h : Sends cmd w r w') (hcmd : cmd = holdMoveProgram) :
    DeliversIf (∃ ctx, WrittenIn holdMoveProgram w holdMoveProgram ctx) (newEvents w w')
      holdMoveProgram := by
  -- on the attempts: a refusal that leaves errno 9 is followed by another
  induction h with
  | @noThread cmd w hthread =>
      subst hcmd
      rw [newEvents_afterNoThread]
      refine ⟨?_, fun _ d => rfl⟩
      rintro ⟨ctx, hwritten⟩
      cases hwritten with
      | first hopens => exact absurd hopens.1 (by rw [hthread]; simp)
      | resent hcreated => exact absurd hcreated (by rw [hthread]; simp)
  | written hopens =>
      subst hcmd
      exact ⟨fun _ => delivers_afterWrites hopens holdMoveProgram,
        fun h => absurd ⟨_, WrittenIn.first hopens⟩ h⟩
  | refused hthread hopens hresends =>
      subst hcmd
      refine ⟨?_, fun _ => deliversNothing_afterRefusal hthread hopens holdMoveProgram⟩
      rintro ⟨ctx, hwritten⟩
      cases hwritten with
      | first hopens' => exact absurd hopens' hopens
      | resent _ _ hresends' =>
          rw [hresends] at hresends'
          cases hresends'
  -- the attempt delivers nothing, so what counts is the one that follows
  | @resent cmd again w w' noted r hthread hopens hresends hagain ih =>
      subst hcmd
      obtain ⟨rfl, rfl⟩ : noted = [.noted .smdHoldMove] ∧ again = holdMoveProgram := by
        have hhold : resentProgram holdMoveProgram =
            some ([.noted .smdHoldMove], holdMoveProgram) := by decide
        unfold World.resends at hresends
        rw [hhold] at hresends
        split at hresends
        · cases hresends
          exact ⟨rfl, rfl⟩
        · cases hresends
      have hextends := extends_of_runs (runs_sendModbusCommand_iff.mpr hagain)
      have hnoted : DeliversNothing [.noted .smdHoldMove] := fun d => rfl
      have hquiet := (deliversNothing_afterRefusal hthread hopens holdMoveProgram).append hnoted
      rw [newEvents_resent hextends, ← newEvents_afterRefusal]
      refine ⟨?_, fun hnot => hquiet.append ((ih rfl).nothing ?_)⟩
      · rintro ⟨ctx, hwritten⟩
        cases hwritten with
        | first hopens' => exact absurd hopens' hopens
        | resent _ _ hresends' hagain' =>
            rw [hresends] at hresends'
            cases hresends'
            exact ((ih rfl).delivers ⟨ctx, hagain'⟩).after
      · rintro ⟨ctx, hwritten⟩
        exact hnot ⟨ctx, WrittenIn.resent hthread hopens hresends hwritten⟩

/-- A program that is not sent again is delivered when its session opens. -/
theorem delivery_afterSend (w : World) (cmd : RegisterProgram) :
    DeliversIf w.opens (newEvents w (w.afterSend cmd)) cmd := by
  unfold World.afterSend
  refine ⟨fun hopens => ?_, fun hopens => ?_⟩
  · rw [if_pos hopens]
    exact delivers_afterWrites hopens cmd
  · rw [if_neg hopens]
    split
    · rename_i hthread
      exact deliversNothing_afterRefusal hthread hopens cmd
    · rw [newEvents_afterNoThread]
      exact fun d => rfl

/-- The program of a motion command. -/
def MotionCall.program : MotionCall → RegisterProgram
  | jog direction accel decel jerk speed => jogProgram direction accel decel jerk speed
  | hold => holdMoveProgram

/-- The parameters pass the checks of the command. -/
def MotionCall.valid : MotionCall → Prop
  | jog direction accel decel jerk speed =>
      (0 ≤ direction ∧ direction ≤ 1) ∧ moveParametersValid accel decel jerk speed = true
  | hold => True

/-- A call is delivered when the drive accepts it. -/
theorem MotionCall.delivery {m : MotionCall} (hvalid : m.valid) {w w' : World}
    {r : SmdResponseCode} (h : Runs server m.code w r w') :
    DeliversIf (w.Accepts m) (newEvents w w') m.program := by
  -- the note at the entry is in front of what the send leaves
  have hnoted : ∀ (n : Note) {w'}, (w.recordAll [.noted n]).Extends w' →
      newEvents w w' = [.noted n] ++ newEvents (w.recordAll [.noted n]) w' := by
    intro n w' hextends
    obtain ⟨es, hes⟩ := hextends.log
    rw [newEvents_of_log es hes.symm]
    refine newEvents_of_log _ ?_
    rw [← hes]
    simp
  have hquiet : ∀ n : Note, DeliversNothing [.noted n] := fun n d => rfl
  cases m with
  -- a refused hold is sent again, a refused jog is not
  | hold =>
      have hrun := runs_smdHoldMove_iff.mp h
      have hsends := runs_sendModbusCommand_iff.mp hrun
      rw [hnoted _ (extends_of_runs hrun)]
      exact ⟨fun haccepts => ((hsends.delivery_hold rfl).delivers haccepts).after,
        fun hrejects => (hquiet _).append ((hsends.delivery_hold rfl).nothing hrejects)⟩
  | jog direction accel decel jerk speed =>
      have hsends := runs_smdJog_iff.mp h
      rw [if_pos (show (0 ≤ direction ∧ direction ≤ 1) ∧ _ from hvalid)] at hsends
      have hrun := runs_sendModbusCommand_iff.mpr hsends
      obtain ⟨_, rfl⟩ := (runs_sendOnce_iff rfl).mp hrun
      rw [hnoted _ (extends_of_runs hrun)]
      have hdelivery := delivery_afterSend
        (w.recordAll [.noted (.smdJog direction accel decel jerk speed)])
        (jogProgram direction accel decel jerk speed)
      exact ⟨fun haccepts => (hdelivery.delivers haccepts).after,
        fun hrejects => (hquiet _).append (hdelivery.nothing hrejects)⟩

/-- A call returns a success when its own session opens, which delivers it. -/
theorem MotionCall.success_iff {m : MotionCall} (hvalid : m.valid) {w w' : World}
    {r : SmdResponseCode} (h : Runs server m.code w r w') :
    r = .commandSuccess ↔ w.opens := by
  have hsends : ∀ {cmd : RegisterProgram} {n : Note}, Sends cmd (w.recordAll [.noted n]) r w' →
      (r = .commandSuccess ↔ w.opens) := by
    intro cmd n hsends
    show r = .commandSuccess ↔ (w.recordAll [.noted n]).opens
    generalize w.recordAll [.noted n] = w at hsends
    cases hsends with
    | noThread hthread =>
        refine ⟨fun hr => (nomatch hr), fun hopens => absurd hopens.1 ?_⟩
        rw [hthread]
        simp
    | written hopens => exact ⟨fun _ => hopens, fun _ => rfl⟩
    | refused _ hopens => exact ⟨fun hr => (nomatch hr), fun h => absurd h hopens⟩
    | resent _ hopens => exact ⟨fun hr => (nomatch hr), fun h => absurd h hopens⟩
  cases m with
  | hold => exact hsends (runs_sendModbusCommand_iff.mp (runs_smdHoldMove_iff.mp h))
  | jog direction accel decel jerk speed =>
      have hjog := runs_smdJog_iff.mp h
      rw [if_pos (show (0 ≤ direction ∧ direction ≤ 1) ∧ _ from hvalid)] at hjog
      exact hsends hjog

/-! ## What a turn delivers -/

/-- The drive will accept the last of the commands, when its turn comes. -/
def AcceptsLast : World → List MotionCall → Prop
  | _, [] => True
  | w, [m] => w.Accepts m
  | w, m :: m' :: ms => ∀ r w₁, Runs server m.code w r w₁ → AcceptsLast w₁ (m' :: ms)

theorem newEvents_of_runs {w w₁ w' : World} (h : w.Extends w₁) (h' : w₁.Extends w') :
    newEvents w w' = newEvents w w₁ ++ newEvents w₁ w' := by
  obtain ⟨es, hes⟩ := h.log
  obtain ⟨es', hes'⟩ := h'.log
  rw [newEvents_of_log es hes.symm, newEvents_of_log es' hes'.symm]
  refine newEvents_of_log _ ?_
  rw [← hes', ← hes, List.append_assoc]

section

variable {ms : List MotionCall} {w w' : World}

theorem RunsMotions.extends (h : RunsMotions ms w w') : w.Extends w' := by
  induction h with
  | nil w => exact World.Extends.refl w
  | cons hrun _ ih => exact (extends_of_runs hrun).trans ih

theorem newEvents_self (w : World) : newEvents w w = [] :=
  newEvents_of_log [] (List.append_nil _).symm

/-- When the drive accepts the last command, that is what is delivered. -/
theorem RunsMotions.delivers (h : RunsMotions ms w w') (hvalid : ∀ m ∈ ms, m.valid)
    {m : MotionCall} (hlast : ms.getLast? = some m) (haccepts : AcceptsLast w ms) :
    Delivers (newEvents w w') m.program := by
  induction h with
  | nil w => simp at hlast
  | @cons m₁ ms w w₁ w' r hrun hrest ih =>
      rw [newEvents_of_runs (extends_of_runs hrun) hrest.extends]
      cases ms with
      | nil =>
          obtain rfl : m₁ = m := by simpa using hlast
          cases hrest
          rw [newEvents_self, List.append_nil]
          exact (MotionCall.delivery (hvalid m₁ (by simp)) hrun).delivers haccepts
      | cons m₂ ms =>
          rw [List.getLast?_cons_cons] at hlast
          exact (ih (fun m hm => hvalid m (List.mem_cons_of_mem _ hm)) hlast
            (haccepts _ _ hrun)).after

/-- When it does not, what was delivered before stays, or it is one of the others. -/
theorem RunsMotions.delivered_of_not (h : RunsMotions ms w w') (hvalid : ∀ m ∈ ms, m.valid)
    (hrejects : ¬ AcceptsLast w ms) (d : Delivery) :
    ((newEvents w w').foldl Delivery.next d).delivered = d.delivered ∨
      ∃ m ∈ ms.dropLast, ((newEvents w w').foldl Delivery.next d).delivered =
        some m.program := by
  induction h generalizing d with
  | nil w => exact absurd trivial hrejects
  | @cons m₁ ms w w₁ w' r hrun hrest ih =>
      have hfirst := MotionCall.delivery (hvalid m₁ (by simp)) hrun
      rw [newEvents_of_runs (extends_of_runs hrun) hrest.extends]
      cases ms with
      | nil =>
          cases hrest
          rw [newEvents_self, List.append_nil]
          exact Or.inl (hfirst.nothing hrejects d)
      | cons m₂ ms =>
          -- the run is determined, so the world after the first call is the one looked at
          have hrejects' : ¬ AcceptsLast w₁ (m₂ :: ms) := by
            intro haccepts
            apply hrejects
            intro r' w₂ hrun'
            obtain ⟨_, rfl⟩ := hrun'.unique hrun
            exact haccepts
          rw [List.foldl_append, List.dropLast_cons_cons]
          rcases ih (fun m hm => hvalid m (List.mem_cons_of_mem _ hm)) hrejects'
            ((newEvents w w₁).foldl Delivery.next d) with hkept | ⟨m, hm, hdelivered⟩
          · rw [hkept]
            by_cases haccepts : w.Accepts m₁
            · exact Or.inr ⟨m₁, List.mem_cons_self, hfirst.delivers haccepts d⟩
            · exact Or.inl (hfirst.nothing haccepts d)
          · exact Or.inr ⟨m, List.mem_cons_of_mem _ hm, hdelivered⟩

end

/-! ## What is remembered -/

/-- What the controller remembers is what was delivered last. -/
structure Remembers (locals : ControllerLocals) (delivered : Option RegisterProgram) :
    Prop where
  stopped : locals.currentSpeed = 0 → ∀ direction accel decel jerk speed,
    delivered ≠ some (jogProgram direction accel decel jerk speed)
  moving : 0 < locals.currentSpeed → delivered =
    some (jogProgram locals.currentJogDirection.toInt 250 250 0 locals.currentSpeed)

/-- The drive will accept the last command of the turn. -/
def Turn.AcceptsLast (t : Turn) (locals : ControllerLocals) : Prop :=
  SmdControlServer.AcceptsLast t.before.takeManualRead
    (motionsFor locals t.sample.speed t.sample.jogDirection)

theorem holdMoveProgram_ne_jogProgram {direction accel decel jerk speed : Int} :
    holdMoveProgram ≠ jogProgram direction accel decel jerk speed := by
  intro h
  have hname : "hold_move".toList = "jog".toList := congrArg RegisterProgram.commandName h
  exact absurd hname (by decide)

theorem jogProgram_injective {direction direction' speed speed' : Int}
    (hlo : 0 ≤ speed) (hhi : speed ≤ 30690) (hlo' : 0 ≤ speed') (hhi' : speed' ≤ 30690)
    (h : jogProgram direction 250 250 0 speed = jogProgram direction' 250 250 0 speed') :
    (direction = 0 ↔ direction' = 0) ∧ speed = speed' := by
  have hvalues := congrArg RegisterProgram.values h
  simp only [jogProgram, List.cons.injEq, true_and, and_true] at hvalues
  obtain ⟨hupper, hlower, htrigger⟩ := hvalues
  constructor
  · split at htrigger
    · split at htrigger
      · simp [*]
      · cases htrigger
    · split at htrigger
      · cases htrigger
      · simp [*]
  · have hspeed := inlineSpeedWords_value hlo (by omega)
    have hspeed' := inlineSpeedWords_value hlo' (by omega)
    omega

/-- The locals before a turn are those at the start, or they are of a sample. -/
theorem SampleRun.locals_cases {turns : List Turn} {locals : ControllerLocals} {errno : Int}
    (h : SampleRun turns locals errno) :
    locals.currentJogDirection = .noDirection ∧ locals.currentSpeed = 0 ∨
      ∃ s : Sample, locals.currentJogDirection = s.jogDirection ∧
        locals.currentSpeed = s.speed := by
  have hremembers := h.afterTurns.remembers
  cases h with
  | start => exact Or.inl ⟨rfl, rfl⟩
  | @turn before _ _ s w w' _ _ _ =>
      exact Or.inr ⟨s, hremembers ⟨s, w, w'⟩ List.getLast?_concat⟩

theorem toInt_eq_zero_iff {s s' : Sample} :
    (s.jogDirection.toInt = 0 ↔ s'.jogDirection.toInt = 0) ↔
      s.jogDirection = s'.jogDirection := by
  unfold Sample.jogDirection
  by_cases h : s.direction = 0
  · by_cases h' : s'.direction = 0
    · simp [h, h']
    · simp [h, h', SmdJogDirection.toInt]
  · by_cases h' : s'.direction = 0
    · simp [h, h', SmdJogDirection.toInt]
    · simp [h, h']

theorem valid_motionsFor (locals : ControllerLocals) (s : Sample) :
    ∀ m ∈ motionsFor locals s.speed s.jogDirection, m.valid := by
  have hjog : (MotionCall.jog s.jogDirection.toInt 250 250 0 s.speed).valid := by
    have hspeed := s.speed_bounds
    have hdirection := s.validDirection
    refine ⟨?_, ?_⟩
    · rw [s.toInt_jogDirection]
      omega
    · rw [moveParametersValid_iff]
      omega
  intro m hm
  -- of the branches some call nothing, the others a hold, a jog or both
  have hcases : m = .hold ∨ m = .jog s.jogDirection.toInt 250 250 0 s.speed := by
    unfold motionsFor at hm
    split at hm
    · split at hm
      · exact Or.inr (List.mem_singleton.mp hm)
      · simp at hm
    · split at hm
      · split at hm
        · exact Or.inl (List.mem_singleton.mp hm)
        · simp at hm
      · split at hm
        · split at hm
          · simpa using hm
          · exact Or.inr (List.mem_singleton.mp hm)
        · simp at hm
  rcases hcases with rfl | rfl
  · trivial
  · exact hjog

theorem lastDelivered_concat (turns : List Turn) (t : Turn) :
    lastDelivered (turns ++ [t]) =
      (t.events.foldl Delivery.next (deliveryAfter turns)).delivered := by
  unfold lastDelivered deliveryAfter
  rw [List.flatMap_append, List.flatMap_singleton, List.foldl_append]

section

variable {turns : List Turn} {t : Turn} {locals locals' : ControllerLocals} {errno : Int}

/-- A turn that calls nothing keeps what is remembered right. -/
theorem TurnOf.remembers_of_quiet (hturn : TurnOf t locals locals')
    (hquiet : motionsFor locals t.sample.speed t.sample.jogDirection = [])
    (hsame : locals'.currentSpeed = locals.currentSpeed ∧
      (0 < locals.currentSpeed →
        locals'.currentJogDirection = locals.currentJogDirection))
    (h : Remembers locals (lastDelivered turns)) :
    Remembers locals' (lastDelivered (turns ++ [t])) := by
  have hafter : t.after = t.before.takeManualRead := by
    have hmotions := hturn.motions
    rw [hquiet] at hmotions
    exact runsMotions_nil_iff.mp hmotions
  have hevents : t.events = [] := by
    unfold Turn.events
    rw [hafter]
    exact newEvents_of_log [] (List.append_nil _).symm
  have hdelivered : lastDelivered (turns ++ [t]) = lastDelivered turns := by
    rw [lastDelivered_concat, hevents]
    rfl
  obtain ⟨hspeed, hdirection⟩ := hsame
  rw [hdelivered]
  constructor
  · rw [hspeed]
    exact h.stopped
  · rw [hspeed]
    intro hpos
    rw [hdirection hpos]
    exact h.moving hpos

/-- The commands of a turn that calls any end with the hold or with the jog for the
sample. -/
inductive TurnCalls (locals : ControllerLocals) (s : Sample) : List MotionCall → Prop
  | quiet (hspeed : s.speed = locals.currentSpeed)
      (hdirection : 0 < locals.currentSpeed →
        s.jogDirection = locals.currentJogDirection) : TurnCalls locals s []
  | stop (hmoving : locals.currentSpeed ≠ 0) (hzero : s.speed = 0) :
      TurnCalls locals s [.hold]
  | move (hmoving : s.speed ≠ 0) (hdiffers : locals.currentSpeed ≠ s.speed ∨
        locals.currentJogDirection ≠ s.jogDirection) {ms : List MotionCall}
      (hms : ms = [] ∨ ms = [.hold]) :
      TurnCalls locals s (ms ++ [.jog s.jogDirection.toInt 250 250 0 s.speed])

theorem turnCalls_motionsFor {s : Sample}
    (hlocals : locals.currentJogDirection = .noDirection → locals.currentSpeed = 0) :
    TurnCalls locals s (motionsFor locals s.speed s.jogDirection) := by
  unfold motionsFor
  by_cases hfirst : locals.currentJogDirection = .noDirection
  -- before the first sample the motor stands
  · have hstill := hlocals hfirst
    rw [if_pos hfirst]
    by_cases hzero : s.speed = 0
    · rw [if_neg (not_not.mpr hzero)]
      refine .quiet (hzero.trans hstill.symm) fun hpos => ?_
      exact absurd hstill (ne_of_gt hpos)
    · rw [if_pos hzero]
      refine .move hzero (Or.inl ?_) (Or.inl rfl)
      rw [hstill]
      exact Ne.symm hzero
  · rw [if_neg hfirst]
    by_cases hzero : s.speed = 0
    · rw [if_pos hzero]
      by_cases hstill : locals.currentSpeed = 0
      · rw [if_neg (not_not.mpr hstill)]
        refine .quiet (hzero.trans hstill.symm) fun hpos => ?_
        exact absurd hstill (ne_of_gt hpos)
      · rw [if_pos hstill]
        exact .stop hstill hzero
    · rw [if_neg hzero]
      by_cases hdiffers : locals.currentSpeed ≠ s.speed ∨
          locals.currentJogDirection ≠ s.jogDirection
      · rw [if_pos hdiffers]
        by_cases hturns : locals.currentJogDirection = s.jogDirection
        · rw [if_neg (not_not.mpr hturns)]
          exact .move hzero hdiffers (Or.inl rfl)
        · rw [if_pos hturns]
          exact .move hzero hdiffers (Or.inr rfl)
      · rw [if_neg hdiffers]
        rw [not_or, not_not, not_not] at hdiffers
        exact .quiet hdiffers.1.symm fun _ => hdiffers.2.symm

/-- While what is remembered is right, the jog for a sample that is not the remembered
one is not what was delivered last. -/
theorem Remembers.delivered_ne_jog {delivered : Option RegisterProgram}
    (h : Remembers locals delivered) (hbefore : SampleRun turns locals errno) {s : Sample}
    (hdiffers : locals.currentSpeed ≠ s.speed ∨
      locals.currentJogDirection ≠ s.jogDirection) :
    delivered ≠ some (jogProgram s.jogDirection.toInt 250 250 0 s.speed) := by
  rcases hbefore.locals_cases with ⟨_, hstill⟩ | ⟨s₀, hdirection, hspeed⟩
  · exact h.stopped hstill _ _ _ _ _
  · have hbounds₀ := s₀.speed_bounds
    have hbounds := s.speed_bounds
    by_cases hzero : s₀.speed = 0
    · exact h.stopped (hspeed.trans hzero) _ _ _ _ _
    · intro hjog
      -- the two jogs are one program, so the samples agree
      have hsame := Option.some.inj ((h.moving (by omega)).symm.trans hjog)
      rw [hdirection, hspeed] at hsame
      obtain ⟨htoInt, hspeeds⟩ :=
        jogProgram_injective hbounds₀.1 hbounds₀.2 hbounds.1 hbounds.2 hsame
      rcases hdiffers with hne | hne
      · exact hne (hspeed.trans hspeeds)
      · exact hne (hdirection.trans (toInt_eq_zero_iff.mp htoInt))

/-- A turn that stops the motor is remembered rightly exactly when the hold is
delivered. -/
theorem TurnOf.remembers_stop_iff (hbefore : SampleRun turns locals errno)
    (hturn : TurnOf t locals locals') (h : Remembers locals (lastDelivered turns))
    (hms : motionsFor locals t.sample.speed t.sample.jogDirection = [.hold])
    (hmoving : locals.currentSpeed ≠ 0) (hzero : t.sample.speed = 0) :
    Remembers locals' (lastDelivered (turns ++ [t])) ↔ t.AcceptsLast locals := by
  have hmotions := hturn.motions
  have hvalid := valid_motionsFor locals t.sample
  have hevents : t.events = newEvents t.before.takeManualRead t.after := rfl
  unfold Turn.AcceptsLast
  rw [hms] at hmotions hvalid ⊢
  constructor
  · intro hafter
    by_contra hrejects
    rcases hmotions.delivered_of_not hvalid hrejects
      (deliveryAfter turns) with hkept | ⟨m, hm, _⟩
    · have hpos : 0 < locals.currentSpeed := by
        rcases hbefore.locals_cases with ⟨_, hstill⟩ | ⟨s, _, hs⟩
        · exact absurd hstill hmoving
        · have hbounds := s.speed_bounds
          omega
      -- the drive still has the jog of an earlier turn
      apply hafter.stopped (hturn.speed.trans hzero)
        locals.currentJogDirection.toInt 250 250 0 locals.currentSpeed
      rw [lastDelivered_concat, hevents, hkept]
      exact h.moving hpos
    · simp at hm
  · intro haccepts
    have hdelivers := hmotions.delivers hvalid rfl haccepts
    rw [lastDelivered_concat, hevents, hdelivers _]
    refine ⟨fun _ direction accel decel jerk speed heq => ?_, fun hpos => ?_⟩
    · exact holdMoveProgram_ne_jogProgram (Option.some.inj heq)
    · rw [hturn.speed, hzero] at hpos
      exact absurd hpos (lt_irrefl 0)

/-- A turn that moves the motor is remembered rightly exactly when its jog is
delivered, whether a hold comes before it or not. -/
theorem TurnOf.remembers_move_iff (hbefore : SampleRun turns locals errno)
    (hturn : TurnOf t locals locals') (h : Remembers locals (lastDelivered turns))
    {ms : List MotionCall}
    (hms : motionsFor locals t.sample.speed t.sample.jogDirection =
      ms ++ [.jog t.sample.jogDirection.toInt 250 250 0 t.sample.speed])
    (hholds : ms = [] ∨ ms = [.hold]) (hmoving : t.sample.speed ≠ 0)
    (hdiffers : locals.currentSpeed ≠ t.sample.speed ∨
      locals.currentJogDirection ≠ t.sample.jogDirection) :
    Remembers locals' (lastDelivered (turns ++ [t])) ↔ t.AcceptsLast locals := by
  have hmotions := hturn.motions
  have hvalid := valid_motionsFor locals t.sample
  have hevents : t.events = newEvents t.before.takeManualRead t.after := rfl
  have hspeed := t.sample.speed_bounds
  have hpos : 0 < locals'.currentSpeed := by
    rw [hturn.speed]
    omega
  unfold Turn.AcceptsLast
  rw [hms] at hmotions hvalid ⊢
  constructor
  · intro hafter
    by_contra hrejects
    have hjog := hafter.moving hpos
    rw [lastDelivered_concat, hevents, hturn.direction, hturn.speed] at hjog
    rcases hmotions.delivered_of_not hvalid hrejects
      (deliveryAfter turns) with hkept | ⟨m, hm, hdelivered⟩
    · rw [hkept] at hjog
      exact h.delivered_ne_jog hbefore hdiffers hjog
    · -- all that can have been delivered in this turn is the hold before the jog
      have hhold : m = .hold := by
        rw [List.dropLast_concat] at hm
        rcases hholds with rfl | rfl
        · simp at hm
        · exact List.mem_singleton.mp hm
      rw [hhold] at hdelivered
      rw [hdelivered] at hjog
      exact holdMoveProgram_ne_jogProgram (Option.some.inj hjog)
  · intro haccepts
    have hdelivers := hmotions.delivers hvalid List.getLast?_concat haccepts
    rw [lastDelivered_concat, hevents, hdelivers _]
    refine ⟨fun hzero => absurd hzero (ne_of_gt hpos), fun _ => ?_⟩
    rw [hturn.direction, hturn.speed]
    rfl

/-- If what is remembered is right before a turn, it is right after the turn exactly
when the last command of the turn is delivered. -/
theorem TurnOf.remembers_iff (hbefore : SampleRun turns locals errno)
    (hturn : TurnOf t locals locals') (h : Remembers locals (lastDelivered turns)) :
    Remembers locals' (lastDelivered (turns ++ [t])) ↔ t.AcceptsLast locals := by
  have hcalls : TurnCalls locals t.sample
      (motionsFor locals t.sample.speed t.sample.jogDirection) := by
    refine turnCalls_motionsFor fun hno => ?_
    rcases hbefore.locals_cases with ⟨_, hstill⟩ | ⟨s, hdirection, _⟩
    · exact hstill
    · exact absurd (hdirection.symm.trans hno) s.jogDirection_ne_noDirection
  generalize hms : motionsFor locals t.sample.speed t.sample.jogDirection = ms at hcalls
  cases hcalls with
  | quiet hsame hdirection =>
      refine ⟨fun _ => ?_, fun _ => ?_⟩
      · unfold Turn.AcceptsLast
        rw [hms]
        trivial
      · refine hturn.remembers_of_quiet hms ⟨hturn.speed.trans hsame, fun hpos => ?_⟩ h
        exact hturn.direction.trans (hdirection hpos)
  | stop hmoving hzero => exact hturn.remembers_stop_iff hbefore h hms hmoving hzero
  | move hmoving hdiffers hholds =>
      exact hturn.remembers_move_iff hbefore h hms hholds hmoving hdiffers

theorem remembers_initial : Remembers ControllerLocals.initial (lastDelivered []) where
  stopped := by
    intro _ direction accel decel jerk speed h
    cases h
  moving := fun h => absurd h (lt_irrefl 0)

/-- After every turn, what is remembered is what was delivered last. -/
def RemembersThroughout (turns : List Turn) : Prop :=
  ∀ before after locals errno, turns = before ++ after → SampleRun before locals errno →
    Remembers locals (lastDelivered before)

/-- In every turn, the drive will accept the last command. -/
def AcceptsThroughout (turns : List Turn) : Prop :=
  ∀ before t after locals errno, turns = before ++ t :: after →
    SampleRun before locals errno → t.AcceptsLast locals

/-- What is remembered is what was delivered last, after every turn of a run, exactly
when the last command of every turn is delivered. -/
theorem remembers_delivered_iff (h : SampleRun turns locals errno) :
    RemembersThroughout turns ↔ AcceptsThroughout turns := by
  constructor
  · intro hremembers before t after locals₀ errno₀ hturns hbefore
    have hsplit : turns = (before ++ [t]) ++ after := by
      rw [hturns, List.append_assoc]
      rfl
    have hrun := h
    rw [hsplit] at hrun
    obtain ⟨locals₁, errno₁, hrun⟩ := hrun.of_append
    obtain ⟨locals₂, hbefore₂, hturn⟩ := hrun.last
    obtain rfl := hbefore.locals_unique hbefore₂
    exact (hturn.remembers_iff hbefore (hremembers _ _ _ _ hturns hbefore)).mp
      (hremembers _ _ _ _ hsplit hrun)
  · intro haccepts before
    induction before using List.reverseRecOn with
    | nil =>
        intro after locals errno _ hrun
        rw [hrun.locals_unique .start]
        exact remembers_initial
    | append_singleton before t ih =>
        intro after locals errno hturns hrun
        obtain ⟨locals₀, hbefore, hturn⟩ := hrun.last
        have hsplit : turns = before ++ t :: after := by
          rw [hturns, List.append_assoc]
          rfl
        exact (hturn.remembers_iff hbefore (ih _ _ _ hsplit hbefore)).mpr
          (haccepts _ _ _ _ _ hsplit hbefore)

end

/-! ## A jog that is delivered and a hold that is not -/

/-- A connection that is refused, with `ECONNREFUSED`. -/
def refusedSession : Session :=
  { Session.answering (fun _ => 0) with opens := false, connectErrno := 111 }

def forwardLocals : ControllerLocals :=
  (ControllerLocals.initial.afterLine forwardSample).remember 300 .clockwise

theorem exists_forward_turn :
    ∃ t : Turn, t.sample = forwardSample ∧ t.before = World.sampling willingDrive forwardSample ∧
      SampleRun [t] forwardLocals 0 ∧
      t.events.foldl Delivery.next ⟨none, none⟩ =
        ⟨some (jogProgram 0 250 250 0 300), some (jogProgram 0 250 250 0 300)⟩ := by
  have heval : sampledTurn (fun events => events.foldl Delivery.next ⟨none, none⟩)
      willingDrive ControllerLocals.initial forwardSample =
        some (forwardLocals, 0,
          ⟨some (jogProgram 0 250 250 0 300), some (jogProgram 0 250 250 0 300)⟩) := by
    decide +kernel
  exact SampleRun.start.turn_of_eval heval

/-- A first jog that the drive accepts is what is remembered. -/
theorem remembers_accepted_jog :
    ∃ t locals, SampleRun [t] locals 0 ∧ locals.currentSpeed = 300 ∧
      RemembersThroughout [t] := by
  obtain ⟨t, hsample, hbefore, hrun, _⟩ := exists_forward_turn
  refine ⟨t, forwardLocals, hrun, rfl, (remembers_delivered_iff hrun).mpr ?_⟩
  intro before t' after locals errno hturns hlocals
  obtain ⟨rfl, rfl, rfl⟩ : before = [] ∧ t' = t ∧ after = [] := by
    cases before with
    | nil =>
        cases hturns
        exact ⟨rfl, rfl, rfl⟩
    | cons first rest =>
        have hlength := congrArg List.length hturns
        simp at hlength
  rw [hlocals.locals_unique .start]
  have hmotions : motionsFor ControllerLocals.initial t'.sample.speed
      t'.sample.jogDirection = [.jog 0 250 250 0 300] := by
    rw [hsample]
    rfl
  unfold Turn.AcceptsLast
  rw [hmotions, hbefore]
  exact ⟨rfl, by decide, rfl⟩

/-- The drive accepts the jog and refuses the hold: the controller remembers that the
motor is at rest, and sends no hold again. -/
theorem lost_hold_remembered :
    ∃ t₁ t₂ locals, SampleRun [t₁, t₂] locals 0 ∧ locals.currentSpeed = 0 ∧
      lastDelivered [t₁, t₂] = some (jogProgram 0 250 250 0 300) ∧
      ¬ RemembersThroughout [t₁, t₂] := by
  obtain ⟨t₁, _, _, h₁, hdelivery₁⟩ := exists_forward_turn
  have heval : sampledTurn (fun events => (events.foldl Delivery.next
      ⟨some (jogProgram 0 250 250 0 300), some (jogProgram 0 250 250 0 300)⟩).delivered)
      (Stream'.const refusedSession) forwardLocals restSample =
        some ((forwardLocals.afterLine restSample).remember 0 .counterClockwise, 0,
          some (jogProgram 0 250 250 0 300)) := by
    decide +kernel
  obtain ⟨t₂, _, _, h₂, hdelivery₂⟩ := h₁.turn_of_eval heval
  have hdelivered : lastDelivered ([t₁] ++ [t₂]) = some (jogProgram 0 250 250 0 300) := by
    have hfirst : deliveryAfter [t₁] =
        t₁.events.foldl Delivery.next ⟨none, none⟩ := by
      unfold deliveryAfter
      rw [List.flatMap_singleton]
    rw [lastDelivered_concat, hfirst, hdelivery₁]
    exact hdelivery₂
  refine ⟨t₁, t₂, _, h₂, rfl, hdelivered, fun hremembers => ?_⟩
  have hstopped := (hremembers ([t₁] ++ [t₂]) [] _ _ (List.append_nil _).symm h₂).stopped rfl
  exact hstopped _ _ _ _ _ hdelivered

end SmdControlServer
