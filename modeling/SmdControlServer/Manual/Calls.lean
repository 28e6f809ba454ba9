import Mathlib.Data.List.Chain
import SmdControlServer.Manual.Samples

/-!
# The motions of the manual mode

Which motion commands the controller calls for a sequence of samples.  A turn calls
what `motionsFor` says and then remembers the sample, whatever the calls return, so
what has been called so far can be read off the last sample.
-/

namespace SmdControlServer

open CString Interaction

/-! ## Motion commands -/

/-- A call of `SMD_jog` or of `SMD_hold_move`. -/
inductive MotionCall where
  | jog (direction accel decel jerk speed : Int)
  | hold
  deriving DecidableEq, Repr

def MotionCall.code : MotionCall → Server SmdResponseCode
  | jog direction accel decel jerk speed => smdJog direction accel decel jerk speed
  | hold => smdHoldMove

/-- The call that an entry of the log stands for. -/
def Event.motion? : Event → Option MotionCall
  | .noted (.smdJog direction accel decel jerk speed) =>
      some (.jog direction accel decel jerk speed)
  | .noted .smdHoldMove => some .hold
  | _ => none

/-- The motion commands that are called in a part of the log, in order. -/
def motionCalls (events : List Event) : List MotionCall :=
  events.filterMap Event.motion?

theorem seesThreads_motion : SeesThreads Event.motion? := by
  intro e he
  cases e with
  | noted n => exact he.elim
  | _ => rfl

/-- The motions that a sample asks for. -/
def motionsFor (locals : ControllerLocals) (potValue : Int) (jogValue : SmdJogDirection) :
    List MotionCall :=
  if locals.currentJogDirection = .noDirection then
    if potValue ≠ 0 then [.jog jogValue.toInt 250 250 0 potValue] else []
  else if potValue = 0 then
    if locals.currentSpeed ≠ 0 then [.hold] else []
  else if locals.currentSpeed ≠ potValue ∨ locals.currentJogDirection ≠ jogValue then
    if locals.currentJogDirection ≠ jogValue then
      [.hold, .jog jogValue.toInt 250 250 0 potValue]
    else
      [.jog jogValue.toInt 250 250 0 potValue]
  else
    []

/-- The locals after a sample. -/
def ControllerLocals.remember (locals : ControllerLocals) (potValue : Int)
    (jogValue : SmdJogDirection) : ControllerLocals :=
  { locals with currentJogDirection := jogValue, currentSpeed := potValue }

/-- `SMD_jog` checks its parameters and sends its program. -/
theorem runs_smdJog_iff {direction accel decel jerk speed : Int} {w w' : World}
    {r : SmdResponseCode} :
    Runs server (smdJog direction accel decel jerk speed) w r w' ↔
      if (0 ≤ direction ∧ direction ≤ 1) ∧ moveParametersValid accel decel jerk speed = true then
        Sends (jogProgram direction accel decel jerk speed)
          (w.recordAll [.noted (.smdJog direction accel decel jerk speed)]) r w'
      else
        r = .invalidParameter ∧
          w' = w.recordAll [.noted (.smdJog direction accel decel jerk speed)] := by
  unfold smdJog
  rw [Program.bind_eq_bind, Program.perform_bind, runs_note, Program.done_bind]
  by_cases hdirection : direction < 0 ∨ direction > 1
  · rw [if_pos hdirection, if_neg (by omega)]
    exact runs_done_iff
  · rw [if_neg hdirection]
    cases hvalid : moveParametersValid accel decel jerk speed with
    | false =>
        rw [if_pos (by rfl), if_neg (by simp)]
        exact runs_done_iff
    | true =>
        rw [if_neg (by simp), if_pos ⟨by omega, rfl⟩]
        exact runs_sendModbusCommand_iff

/-- The commands are run one after the other, whatever they return. -/
inductive RunsMotions : List MotionCall → World → World → Prop
  | nil (w : World) : RunsMotions [] w w
  | cons {m : MotionCall} {ms : List MotionCall} {w w₁ w' : World} {r : SmdResponseCode}
      (hrun : Runs server m.code w r w₁) (hrest : RunsMotions ms w₁ w') :
      RunsMotions (m :: ms) w w'

section

variable {w w' : World} {locals locals' : ControllerLocals} {potValue : Int}
  {jogValue : SmdJogDirection}

theorem runsMotions_nil_iff : RunsMotions [] w w' ↔ w' = w := by
  constructor
  · rintro ⟨⟩
    rfl
  · rintro rfl
    exact .nil _

theorem runsMotions_cons_iff {m : MotionCall} {ms : List MotionCall} :
    RunsMotions (m :: ms) w w' ↔
      ∃ r w₁, Runs server m.code w r w₁ ∧ RunsMotions ms w₁ w' := by
  constructor
  · intro h
    cases h with
    | cons hrun hrest => exact ⟨_, _, hrun, hrest⟩
  · rintro ⟨r, w₁, hrun, hrest⟩
    exact .cons hrun hrest

/-- A command whose result is not looked at, before the end of a turn. -/
theorem runs_motion_bind_iff {α : Type} {m : MotionCall} {a b : α} :
    Runs server (m.code.bind fun _ => .done b) w a w' ↔ a = b ∧ RunsMotions [m] w w' := by
  rw [runs_bind_iff]
  simp only [runsMotions_cons_iff, runsMotions_nil_iff, runs_done_iff]
  constructor
  · rintro ⟨r, w₁, hrun, rfl, rfl⟩
    exact ⟨rfl, r, _, hrun, rfl⟩
  · rintro ⟨rfl, r, w₁, hrun, rfl⟩
    exact ⟨r, _, hrun, rfl, rfl⟩

/-- A sample is applied by running its motions, and it is remembered. -/
theorem runs_applySample_iff :
    Runs server (applySample locals potValue jogValue) w locals' w' ↔
      locals' = locals.remember potValue jogValue ∧
        RunsMotions (motionsFor locals potValue jogValue) w w' := by
  unfold applySample motionsFor
  -- the first sample: there is nothing yet that could have to be stopped
  by_cases hfirst : locals.currentJogDirection = .noDirection
  · rw [if_pos hfirst, if_pos hfirst]
    by_cases hzero : potValue = 0
    · rw [if_neg (not_not.mpr hzero), if_neg (not_not.mpr hzero), runsMotions_nil_iff]
      exact runs_done_iff
    · rw [if_pos hzero, if_pos hzero]
      exact runs_motion_bind_iff (m := .jog _ _ _ _ _)
  · rw [if_neg hfirst, if_neg hfirst]
    by_cases hzero : potValue = 0
    · rw [if_pos hzero, if_pos hzero]
      subst hzero
      by_cases hmoving : locals.currentSpeed = 0
      · rw [if_neg (not_not.mpr hmoving), if_neg (not_not.mpr hmoving), runsMotions_nil_iff]
        exact runs_done_iff
      · rw [if_pos hmoving, if_pos hmoving]
        exact runs_motion_bind_iff (m := .hold)
    · rw [if_neg hzero, if_neg hzero]
      by_cases hdiffers : locals.currentSpeed ≠ potValue ∨
          locals.currentJogDirection ≠ jogValue
      · rw [if_pos hdiffers, if_pos hdiffers]
        -- a change of the direction stops the motor, sleeps and then jogs
        by_cases hturns : locals.currentJogDirection = jogValue
        · rw [if_neg (not_not.mpr hturns), if_neg (not_not.mpr hturns)]
          exact runs_motion_bind_iff (m := .jog _ _ _ _ _)
        · rw [if_pos hturns, if_pos hturns, runsMotions_cons_iff, Program.bind_eq_bind,
            runs_bind_iff]
          have hjog : ∀ {w₁}, Runs server (sleep 500000 >>= fun _ =>
              (jogAt jogValue potValue).bind fun _ =>
                .done (locals.remember potValue jogValue)) w₁ locals' w' ↔
              locals' = locals.remember potValue jogValue ∧
                RunsMotions [.jog jogValue.toInt 250 250 0 potValue] w₁ w' := by
            intro w₁
            rw [runs_sleep_bind_iff]
            exact runs_motion_bind_iff (m := .jog _ _ _ _ _)
          constructor
          · rintro ⟨r, w₁, hhold, hrest⟩
            obtain ⟨rfl, hmotions⟩ := hjog.mp hrest
            exact ⟨rfl, r, w₁, hhold, hmotions⟩
          · rintro ⟨rfl, r, w₁, hhold, hmotions⟩
            exact ⟨r, w₁, hhold, hjog.mpr ⟨rfl, hmotions⟩⟩
      -- a sample that is remembered already is not remembered anew
      · rw [if_neg hdiffers, if_neg hdiffers, runsMotions_nil_iff]
        have hsame : locals.remember potValue jogValue = locals := by
          rw [not_or, not_not, not_not] at hdiffers
          unfold ControllerLocals.remember
          rw [← hdiffers.1, ← hdiffers.2]
        rw [hsame]
        exact runs_done_iff

/-! ## What the log has of them -/

/-- The calls for the motions: a hold may have been called again by the worker of the
one before. -/
inductive CallsOf : List MotionCall → List MotionCall → Prop
  | nil : CallsOf [] []
  | jog {direction accel decel jerk speed : Int} {ms calls : List MotionCall}
      (h : CallsOf ms calls) :
      CallsOf (.jog direction accel decel jerk speed :: ms)
        (.jog direction accel decel jerk speed :: calls)
  | hold (again : Nat) {ms calls : List MotionCall} (h : CallsOf ms calls) :
      CallsOf (.hold :: ms) (List.replicate (again + 1) .hold ++ calls)

theorem callsOf_nil {calls : List MotionCall} (h : CallsOf [] calls) : calls = [] := by
  cases h
  rfl

/-- A session is no call, whatever becomes of it. -/
theorem observed_motion_afterRefusal (cmd : RegisterProgram) :
    Observed Event.motion? w (w.afterRefusal cmd) [] :=
  observed_afterSession seesThreads_motion _ (by simp)

/-- What a send adds to the calls are holds, as many as it sends again. -/
theorem Sends.motionCalls_eq {cmd : RegisterProgram} {r : SmdResponseCode}
    (h : Sends cmd w r w') (hcmd : cmd = holdMoveProgram ∨ resentProgram cmd = none) :
    ∃ again, Observed Event.motion? w w' (List.replicate again .hold) := by
  induction h with
  | noThread hthread => exact ⟨0, observed_afterNoThread seesThreads_motion _⟩
  | written hopens =>
      refine ⟨0, observed_afterSession seesThreads_motion _ fun e he => ?_⟩
      obtain ⟨_, _, _, rfl⟩ := eq_registerWritten_of_mem_writeEvents he
      trivial
  | refused hthread hopens hresends => exact ⟨0, observed_motion_afterRefusal _⟩
  | @resent cmd again w w' noted r hthread hopens hresends _ ih =>
      have hagain : resentProgram cmd = some (noted, again) := by
        unfold World.resends at hresends
        split at hresends
        · exact hresends
        · cases hresends
      -- the only program that is sent again is a hold, and it is a hold again
      rcases hcmd with rfl | hnone
      · have hhold : resentProgram holdMoveProgram =
            some ([.noted .smdHoldMove], holdMoveProgram) := by decide
        rw [hhold] at hagain
        cases hagain
        obtain ⟨n, hrest⟩ := ih (Or.inl rfl)
        have hnoted : Observed Event.motion? (w.afterRefusal holdMoveProgram)
            ((w.afterRefusal holdMoveProgram).recordAll [.noted .smdHoldMove]) [.hold] :=
          ⟨[.noted .smdHoldMove], rfl, rfl⟩
        refine ⟨n + 1, ?_⟩
        exact (observed_motion_afterRefusal _).trans (hnoted.trans hrest)
      · rw [hnone] at hagain
        cases hagain

theorem observed_hold {r : SmdResponseCode} (h : Runs server smdHoldMove w r w') :
    ∃ again, Observed Event.motion? w w' (List.replicate (again + 1) .hold) := by
  have hsends := runs_sendModbusCommand_iff.mp (runs_smdHoldMove_iff.mp h)
  obtain ⟨again, hrest⟩ := hsends.motionCalls_eq (Or.inl rfl)
  have hnoted : Observed Event.motion? w (w.recordAll [.noted .smdHoldMove]) [.hold] :=
    ⟨[.noted .smdHoldMove], rfl, rfl⟩
  exact ⟨again, hnoted.trans hrest⟩

theorem observed_jog {direction accel decel jerk speed : Int} {r : SmdResponseCode}
    (h : Runs server (smdJog direction accel decel jerk speed) w r w') :
    Observed Event.motion? w w' [.jog direction accel decel jerk speed] := by
  have hnoted : Observed Event.motion? w
      (w.recordAll [.noted (.smdJog direction accel decel jerk speed)])
      [.jog direction accel decel jerk speed] :=
    ⟨[.noted (.smdJog direction accel decel jerk speed)], rfl, rfl⟩
  rw [runs_smdJog_iff] at h
  split at h
  · obtain ⟨_, rfl⟩ := (runs_sendOnce_iff rfl).mp (runs_sendModbusCommand_iff.mpr h)
    exact hnoted.trans (observed_afterSend seesThreads_motion fun _ => rfl)
  · rw [h.2]
    exact hnoted

theorem RunsMotions.observed {ms : List MotionCall} (h : RunsMotions ms w w') :
    ∃ calls, CallsOf ms calls ∧ Observed Event.motion? w w' calls := by
  induction h with
  | nil w => exact ⟨[], .nil, Observed.refl w⟩
  | @cons m ms w w₁ w' r hrun _ ih =>
      obtain ⟨calls, hcalls, hrest⟩ := ih
      cases m with
      | jog direction accel decel jerk speed =>
          exact ⟨_, .jog hcalls, (observed_jog hrun).trans hrest⟩
      | hold =>
          obtain ⟨again, hhold⟩ := observed_hold hrun
          exact ⟨_, .hold again hcalls, hhold.trans hrest⟩

end

/-! ## Runs over samples -/

/-- A turn with its sample, the world in which it begins and the one in which it ends. -/
structure Turn where
  sample : Sample
  before : World
  after : World

/-- What a turn has added to the log. -/
def Turn.events (t : Turn) : List Event :=
  newEvents t.before t.after

/-- The turns of a controller that finds a sample in the file each time.  Between two
turns everything may change but the thread's own `errno`. -/
inductive SampleRun : List Turn → ControllerLocals → Int → Prop
  | start : SampleRun [] ControllerLocals.initial 0
  | turn {turns : List Turn} {locals locals' : ControllerLocals}
      {s : Sample} {w w' : World} (hbefore : SampleRun turns locals w.errno)
      (hread : w.manualReads.head = .contents s.line)
      (hrun : Runs server (manualModeIteration locals) w locals' w') :
      SampleRun (turns ++ [⟨s, w, w'⟩]) locals' w'.errno

/-- The calls of all the turns. -/
def callsOf (turns : List Turn) : List MotionCall :=
  turns.flatMap fun t => motionCalls t.events

theorem callsOf_concat (turns : List Turn) (t : Turn) :
    callsOf (turns ++ [t]) = callsOf turns ++ motionCalls t.events := by
  unfold callsOf
  rw [List.flatMap_append, List.flatMap_singleton]

theorem Sends.errno_eq {cmd : RegisterProgram} {r : SmdResponseCode} {w w' : World}
    (h : Sends cmd w r w') : w'.errno = w.errno := by
  induction h with
  | resent _ _ _ _ ih => exact ih
  | _ => rfl

theorem MotionCall.errno_eq {m : MotionCall} {r : SmdResponseCode} {w w' : World}
    (h : Runs server m.code w r w') : w'.errno = w.errno := by
  cases m with
  | hold => exact (runs_sendModbusCommand_iff.mp (runs_smdHoldMove_iff.mp h)).errno_eq
  | jog direction accel decel jerk speed =>
      have h : Runs server (smdJog direction accel decel jerk speed) w r w' := h
      rw [runs_smdJog_iff] at h
      split at h
      · exact h.errno_eq
      · rw [h.2]
        rfl

theorem RunsMotions.errno_eq {ms : List MotionCall} {w w' : World}
    (h : RunsMotions ms w w') : w'.errno = w.errno := by
  induction h with
  | nil w => rfl
  | cons hrun _ ih => exact ih.trans (MotionCall.errno_eq hrun)

/-- A turn runs the motions for its sample and remembers it. -/
structure TurnOf (t : Turn) (locals locals' : ControllerLocals) : Prop where
  motions : RunsMotions (motionsFor locals t.sample.speed t.sample.jogDirection)
    t.before.takeManualRead t.after
  direction : locals'.currentJogDirection = t.sample.jogDirection
  speed : locals'.currentSpeed = t.sample.speed

/-- What the controller knows between its turns. -/
structure AfterTurns (turns : List Turn) (locals : ControllerLocals)
    (errno : Int) : Prop where
  buf : CleanBuffer locals.buf
  errno : errno ≠ erange
  remembers : ∀ t, turns.getLast? = some t →
    locals.currentJogDirection = t.sample.jogDirection ∧ locals.currentSpeed = t.sample.speed

theorem turnOf_runs {s : Sample} {locals locals' : ControllerLocals} {w w' : World}
    (hbuf : CleanBuffer locals.buf) (herrno : w.errno ≠ erange)
    (hread : w.manualReads.head = .contents s.line)
    (hrun : Runs server (manualModeIteration locals) w locals' w') :
    TurnOf ⟨s, w, w'⟩ locals locals' ∧ CleanBuffer locals'.buf := by
  obtain ⟨rfl, hmotions⟩ :=
    runs_applySample_iff.mp ((runs_manualModeIteration_iff hbuf herrno hread).mp hrun)
  exact ⟨⟨hmotions, rfl, rfl⟩, hbuf.afterLine s⟩

namespace SampleRun

variable {turns : List Turn} {locals : ControllerLocals} {errno : Int}

theorem afterTurns (h : SampleRun turns locals errno) : AfterTurns turns locals errno := by
  induction h with
  | start =>
      refine ⟨cleanBuffer_initial, by decide, fun t ht => ?_⟩
      simp at ht
  | @turn turns locals locals' s w w' _ hread hrun ih =>
      obtain ⟨hturn, hbuf⟩ := turnOf_runs ih.buf ih.errno hread hrun
      refine ⟨hbuf, ?_, fun t ht => ?_⟩
      · have herrno : w'.errno = w.errno := hturn.motions.errno_eq
        rw [herrno]
        exact ih.errno
      · rw [List.getLast?_concat] at ht
        cases ht
        exact ⟨hturn.direction, hturn.speed⟩

/-- The last turn of a run. -/
theorem last {before : List Turn} {t : Turn} (h : SampleRun (before ++ [t]) locals errno) :
    ∃ locals₀, SampleRun before locals₀ t.before.errno ∧ TurnOf t locals₀ locals := by
  generalize hturns : before ++ [t] = turns at h
  cases h with
  | start => simp at hturns
  | turn hbefore hread hrun =>
      obtain ⟨rfl, ht⟩ := List.append_inj' hturns rfl
      cases ht
      have hafter := hbefore.afterTurns
      exact ⟨_, hbefore, (turnOf_runs hafter.buf hafter.errno hread hrun).1⟩

/-- What holds before the first turn and is kept by every turn holds after all of
them. -/
theorem invariant (inv : List Turn → ControllerLocals → Prop)
    (hstart : inv [] ControllerLocals.initial)
    (hturn : ∀ turns t locals locals', SampleRun turns locals t.before.errno →
      inv turns locals → TurnOf t locals locals' → inv (turns ++ [t]) locals')
    (h : SampleRun turns locals errno) : inv turns locals := by
  induction h with
  | start => exact hstart
  | @turn turns locals locals' s w w' hbefore hread hrun ih =>
      have hafter := hbefore.afterTurns
      exact hturn turns ⟨s, w, w'⟩ locals locals' hbefore ih
        (turnOf_runs hafter.buf hafter.errno hread hrun).1

/-- The first turns of a run are a run. -/
theorem of_append {before after : List Turn}
    (h : SampleRun (before ++ after) locals errno) :
    ∃ locals errno, SampleRun before locals errno := by
  induction after using List.reverseRecOn generalizing locals errno with
  | nil =>
      rw [List.append_nil] at h
      exact ⟨locals, errno, h⟩
  | append_singleton after t ih =>
      rw [← List.append_assoc] at h
      obtain ⟨_, hbefore, _⟩ := h.last
      exact ih hbefore

/-- The turns determine the locals after them. -/
theorem locals_unique {locals' : ControllerLocals} {errno' : Int}
    (h : SampleRun turns locals errno) (h' : SampleRun turns locals' errno') :
    locals = locals' := by
  induction h generalizing locals' errno' with
  | start =>
      generalize hturns : ([] : List Turn) = turns at h'
      cases h' with
      | start => rfl
      | turn => simp at hturns
  | turn _ _ hrun ih =>
      generalize hturns : _ ++ [_] = turns at h'
      cases h' with
      | start => simp at hturns
      | turn hbefore' _ hrun' =>
          obtain ⟨rfl, ht⟩ := List.append_inj' hturns rfl
          cases ht
          obtain rfl := ih hbefore'
          exact (hrun.unique hrun').1

end SampleRun

/-! ## The calls for a sequence of samples -/

/-- No reversal without a hold, for two calls that follow one another. -/
def SameDirection : MotionCall → MotionCall → Prop
  | .jog direction _ _ _ _, .jog direction' _ _ _ _ => direction = direction'
  | _, _ => True

/-- The calls so far, as far as they matter for the next turn. -/
structure CallsMatch (locals : ControllerLocals) (calls : List MotionCall) : Prop where
  first : locals.currentJogDirection = .noDirection → calls = []
  moving : 0 < locals.currentSpeed →
    calls.getLast? =
      some (.jog locals.currentJogDirection.toInt 250 250 0 locals.currentSpeed)
  stopped : locals.currentSpeed = 0 → calls = [] ∨ calls.getLast? = some .hold
  chain : calls.IsChain SameDirection

/-- Any number of holds may follow. -/
theorem isChain_append_holds {calls : List MotionCall} (h : calls.IsChain SameDirection)
    (n : Nat) : (calls ++ List.replicate n MotionCall.hold).IsChain SameDirection := by
  induction n with
  | zero => simpa using h
  | succ n ih =>
      rw [List.replicate_succ', ← List.append_assoc, List.isChain_append]
      refine ⟨ih, List.isChain_singleton _, ?_⟩
      intro x _ y hy
      cases hy
      cases x <;> trivial

/-- A jog may follow no call at all, a hold, or a jog in its direction. -/
theorem isChain_append_jog {calls : List MotionCall} (h : calls.IsChain SameDirection)
    {direction accel decel jerk speed : Int}
    (hlast : calls = [] ∨ calls.getLast? = some .hold ∨
      ∃ a d j v, calls.getLast? = some (.jog direction a d j v)) :
    (calls ++ [MotionCall.jog direction accel decel jerk speed]).IsChain SameDirection := by
  rw [List.isChain_append]
  refine ⟨h, List.isChain_singleton _, ?_⟩
  intro x hx y hy
  cases hy
  rcases hlast with rfl | hhold | ⟨_, _, _, _, hjog⟩
  · simp at hx
  · rw [hhold] at hx
    cases hx
    trivial
  · rw [hjog] at hx
    cases hx
    rfl

theorem getLast?_append_holds (calls : List MotionCall) (n : Nat) :
    (calls ++ List.replicate (n + 1) MotionCall.hold).getLast? = some .hold := by
  rw [List.replicate_succ', ← List.append_assoc, List.getLast?_concat]

/-- A turn keeps the calls in step with what is remembered. -/
theorem CallsMatch.turn {locals locals' : ControllerLocals} {calls new : List MotionCall}
    (h : CallsMatch locals calls) (hspeed : 0 ≤ locals.currentSpeed) {s : Sample}
    (hnew : CallsOf (motionsFor locals s.speed s.jogDirection) new)
    (hdirection : locals'.currentJogDirection = s.jogDirection)
    (hspeed' : locals'.currentSpeed = s.speed) : CallsMatch locals' (calls ++ new) := by
  have hfirst : locals'.currentJogDirection = .noDirection → calls ++ new = [] := by
    intro hno
    rw [hdirection] at hno
    exact absurd hno s.jogDirection_ne_noDirection
  -- the calls end with the jog for the sample
  have hjogs : ∀ before : List MotionCall, before.IsChain SameDirection → s.speed ≠ 0 →
      (before = [] ∨ before.getLast? = some .hold ∨
        ∃ a d j v, before.getLast? = some (.jog s.jogDirection.toInt a d j v)) →
      calls ++ new = before ++ [.jog s.jogDirection.toInt 250 250 0 s.speed] →
        CallsMatch locals' (calls ++ new) := by
    intro before hchain hne hlast heq
    refine ⟨hfirst, fun _ => ?_, fun hzero => ?_, ?_⟩
    · rw [heq, List.getLast?_concat, hdirection, hspeed']
    · rw [hspeed'] at hzero
      exact absurd hzero hne
    · rw [heq]
      exact isChain_append_jog hchain hlast
  -- the calls end with no motion
  have hstops : s.speed = 0 → (calls ++ new).IsChain SameDirection →
      (calls ++ new = [] ∨ (calls ++ new).getLast? = some .hold) →
        CallsMatch locals' (calls ++ new) := by
    intro hzero hchain hlast
    refine ⟨hfirst, fun hpos => ?_, fun _ => hlast, hchain⟩
    rw [hspeed', hzero] at hpos
    exact absurd hpos (lt_irrefl 0)
  unfold motionsFor at hnew
  by_cases hno : locals.currentJogDirection = .noDirection
  · rw [if_pos hno] at hnew
    have hcalls := h.first hno
    subst hcalls
    by_cases hzero : s.speed = 0
    · rw [if_neg (not_not.mpr hzero)] at hnew
      cases hnew
      exact hstops hzero .nil (Or.inl rfl)
    · rw [if_pos hzero] at hnew
      cases hnew with
      | jog hnil =>
          cases hnil
          exact hjogs [] .nil hzero (Or.inl rfl) rfl
  · rw [if_neg hno] at hnew
    by_cases hzero : s.speed = 0
    · rw [if_pos hzero] at hnew
      by_cases hmoving : locals.currentSpeed = 0
      · rw [if_neg (not_not.mpr hmoving)] at hnew
        cases hnew
        rw [List.append_nil]
        rw [List.append_nil] at hstops
        exact hstops hzero h.chain (h.stopped hmoving)
      · rw [if_pos hmoving] at hnew
        cases hnew with
        | hold again hnil =>
            cases hnil
            rw [List.append_nil]
            rw [List.append_nil] at hstops
            exact hstops hzero (isChain_append_holds h.chain _)
              (Or.inr (getLast?_append_holds calls again))
    · rw [if_neg hzero] at hnew
      by_cases hdiffers : locals.currentSpeed ≠ s.speed ∨
          locals.currentJogDirection ≠ s.jogDirection
      · rw [if_pos hdiffers] at hnew
        by_cases hturns : locals.currentJogDirection = s.jogDirection
        · rw [if_neg (not_not.mpr hturns)] at hnew
          cases hnew with
          | jog hnil =>
              cases hnil
              refine hjogs calls h.chain hzero ?_ rfl
              rcases eq_or_lt_of_le hspeed with hstill | hmoving
              · rcases h.stopped hstill.symm with hnone | hhold
                · exact Or.inl hnone
                · exact Or.inr (Or.inl hhold)
              · rw [← hturns]
                exact Or.inr (Or.inr ⟨_, _, _, _, h.moving hmoving⟩)
        · rw [if_pos hturns] at hnew
          cases hnew with
          | hold again hjog =>
              cases hjog with
              | jog hnil =>
                  cases hnil
                  exact hjogs (calls ++ List.replicate (again + 1) .hold)
                    (isChain_append_holds h.chain _) hzero
                    (Or.inr (Or.inl (getLast?_append_holds calls again)))
                    (List.append_assoc _ _ _).symm
      · rw [if_neg hdiffers] at hnew
        cases hnew
        rw [not_or, not_not, not_not] at hdiffers
        rw [List.append_nil]
        refine ⟨fun hno' => absurd (hdirection.symm.trans hno') s.jogDirection_ne_noDirection,
          fun hpos => ?_, fun hnil => ?_, h.chain⟩
        · rw [hdirection, hspeed', ← hdiffers.1, ← hdiffers.2]
          rw [hspeed', ← hdiffers.1] at hpos
          exact h.moving hpos
        · rw [hspeed'] at hnil
          exact absurd hnil hzero

theorem callsMatch_initial : CallsMatch ControllerLocals.initial [] where
  first := fun _ => rfl
  moving := fun h => absurd h (lt_irrefl 0)
  stopped := fun _ => Or.inl rfl
  chain := .nil

/-- What a turn has added to the log are the calls for its motions. -/
theorem TurnOf.callsOf {t : Turn} {locals locals' : ControllerLocals}
    (h : TurnOf t locals locals') :
    CallsOf (motionsFor locals t.sample.speed t.sample.jogDirection)
      (motionCalls t.events) := by
  obtain ⟨calls, hcalls, hobserved⟩ := h.motions.observed
  have heq : motionCalls t.events = calls := hobserved.newEvents_eq
  rw [heq]
  exact hcalls

theorem SampleRun.callsMatch {turns : List Turn} {locals : ControllerLocals}
    {errno : Int} (h : SampleRun turns locals errno) :
    CallsMatch locals (callsOf turns) ∧ 0 ≤ locals.currentSpeed := by
  refine h.invariant (fun turns locals =>
    CallsMatch locals (callsOf turns) ∧ 0 ≤ locals.currentSpeed) ?_ ?_
  · exact ⟨callsMatch_initial, le_refl 0⟩
  · rintro turns t locals locals' _ ⟨hcalls, hspeed⟩ hturn
    refine ⟨?_, ?_⟩
    · rw [callsOf_concat]
      exact hcalls.turn hspeed hturn.callsOf hturn.direction hturn.speed
    · rw [hturn.speed]
      exact t.sample.speed_bounds.1

/-- The sample that is remembered asks for nothing. -/
theorem motionsFor_remembered {locals : ControllerLocals} {s : Sample}
    (hdirection : locals.currentJogDirection = s.jogDirection)
    (hspeed : locals.currentSpeed = s.speed) :
    motionsFor locals s.speed s.jogDirection = [] := by
  unfold motionsFor
  rw [hdirection, hspeed, if_neg s.jogDirection_ne_noDirection]
  by_cases hzero : s.speed = 0
  · rw [if_pos hzero, if_neg (not_not.mpr hzero)]
  · rw [if_neg hzero, if_neg (by simp)]

/-- The direction of a jog. -/
def MotionCall.direction? : MotionCall → Option Int
  | jog direction _ _ _ _ => some direction
  | hold => none

/-- Between two jogs in different directions there is a hold. -/
theorem hold_mem_of_isChain {before between after : List MotionCall} {m m' : MotionCall}
    {d d' : Int} (h : (before ++ m :: (between ++ m' :: after)).IsChain SameDirection)
    (hm : m.direction? = some d) (hm' : m'.direction? = some d') (hne : d ≠ d') :
    .hold ∈ between := by
  have hchain : (m :: (between ++ m' :: after)).IsChain SameDirection :=
    h.right_of_append
  clear h
  -- on the calls in between: until the first hold they keep the direction of m
  induction between generalizing m with
  | nil =>
      have hsame : SameDirection m m' := (List.isChain_cons_cons.mp hchain).1
      cases m with
      | hold => cases hm
      | jog => cases m' with
        | hold => cases hm'
        | jog =>
            cases hm
            cases hm'
            exact absurd hsame hne
  | cons first between ih =>
      obtain ⟨hsame, hrest⟩ := List.isChain_cons_cons.mp hchain
      cases first with
      | hold => exact List.mem_cons_self
      | jog direction =>
          have hfirst : direction = d := by
            cases m with
            | hold => cases hm
            | jog =>
                cases hm
                exact hsame.symm
          subst hfirst
          exact List.mem_cons_of_mem _ (ih rfl hrest)

/-- What the calls have to do with the samples. -/
structure FollowsSamples (turns : List Turn) : Prop where
  /-- After a reading that is not 0 the last call is the jog for it. -/
  moving : ∀ before t after, turns = before ++ t :: after → 0 < t.sample.reading →
    (callsOf (before ++ [t])).getLast? =
      some (.jog t.sample.direction 250 250 0 (30 * t.sample.reading))
  /-- After a reading of 0 there has been no call, or the last one is a hold. -/
  stopped : ∀ before t after, turns = before ++ t :: after → t.sample.reading = 0 →
    callsOf (before ++ [t]) = [] ∨ (callsOf (before ++ [t])).getLast? = some .hold
  /-- Between two jogs in different directions there is a hold. -/
  reversal : ∀ before m between m' after d d',
    callsOf turns = before ++ m :: (between ++ m' :: after) →
      m.direction? = some d → m'.direction? = some d' → d ≠ d' → .hold ∈ between
  /-- A sample that comes again is followed by no call. -/
  repeated : ∀ before previous t after, turns = before ++ previous :: t :: after →
    t.sample = previous.sample → motionCalls t.events = []

/-- In every run of the controller over samples, the calls follow the samples. -/
theorem calls_follow_samples {turns : List Turn} {locals : ControllerLocals}
    {errno : Int} (h : SampleRun turns locals errno) : FollowsSamples turns := by
  -- every turn of the run is the last one of a shorter run
  have hafter : ∀ before t after, turns = before ++ t :: after →
      ∃ locals errno, SampleRun (before ++ [t]) locals errno := by
    intro before t after hturns
    have hsplit : turns = (before ++ [t]) ++ after := by
      rw [hturns, List.append_assoc]
      rfl
    rw [hsplit] at h
    exact h.of_append
  constructor
  case moving =>
    intro before t after hturns hpos
    obtain ⟨locals₁, errno₁, hrun⟩ := hafter before t after hturns
    obtain ⟨hdirection, hspeed⟩ := hrun.afterTurns.remembers t List.getLast?_concat
    have hmoving := hrun.callsMatch.1.moving (by rw [hspeed, t.sample.speed_eq]; omega)
    rw [hdirection, hspeed, t.sample.toInt_jogDirection, t.sample.speed_eq] at hmoving
    exact hmoving
  case stopped =>
    intro before t after hturns hzero
    obtain ⟨locals₁, errno₁, hrun⟩ := hafter before t after hturns
    obtain ⟨_, hspeed⟩ := hrun.afterTurns.remembers t List.getLast?_concat
    exact hrun.callsMatch.1.stopped (by rw [hspeed, t.sample.speed_eq]; omega)
  case reversal =>
    intro before m between m' after d d' hcalls hm hm' hne
    have hchain := h.callsMatch.1.chain
    rw [hcalls] at hchain
    exact hold_mem_of_isChain hchain hm hm' hne
  case repeated =>
    intro before previous t after hturns hsame
    obtain ⟨locals₁, errno₁, hrun⟩ := hafter (before ++ [previous]) t after (by
      rw [hturns, List.append_assoc]
      rfl)
    obtain ⟨locals₀, hbefore, hturn⟩ := hrun.last
    obtain ⟨hdirection, hspeed⟩ := hbefore.afterTurns.remembers previous List.getLast?_concat
    rw [← hsame] at hdirection hspeed
    have hcalls := hturn.callsOf
    rw [motionsFor_remembered hdirection hspeed] at hcalls
    exact callsOf_nil hcalls

/-! ## A reversal and a stop -/

/-- A server with this drive whose controller finds this sample. -/
def World.sampling (drive : Stream' Session) (s : Sample) : World :=
  { World.facing (Globals.connectedTo "10.0.0.5".toList) drive with
    manualReads := Stream'.const (.contents s.line) }

def forwardSample : Sample := ⟨0, 10, Or.inl rfl, by omega⟩
def backwardSample : Sample := ⟨1, 10, Or.inr rfl, by omega⟩
def restSample : Sample := ⟨1, 0, Or.inr rfl, by omega⟩

/-- One turn of the controller, computed: its locals, its `errno` and what `f` makes of
its events. -/
def sampledTurn {γ : Type} (f : List Event → γ) (drive : Stream' Session)
    (locals : ControllerLocals) (s : Sample) : Option (ControllerLocals × Int × γ) :=
  (eval server 0 (manualModeIteration locals) (World.sampling drive s)).map fun r =>
    (r.1, r.2.errno, f (newEvents (World.sampling drive s) r.2))

theorem SampleRun.turn_of_eval {γ : Type} {f : List Event → γ} {drive : Stream' Session}
    {turns : List Turn} {locals locals' : ControllerLocals} {s : Sample} {y : γ}
    (h : SampleRun turns locals 0)
    (heval : sampledTurn f drive locals s = some (locals', 0, y)) :
    ∃ t : Turn, t.sample = s ∧ t.before = World.sampling drive s ∧
      SampleRun (turns ++ [t]) locals' 0 ∧ f t.events = y := by
  obtain ⟨_, w', hrun, heq⟩ := exists_runs_of_eval heval
  obtain ⟨rfl, herrno, hy⟩ : _ ∧ w'.errno = 0 ∧ f (newEvents _ w') = y := by
    simpa using heq
  refine ⟨⟨s, World.sampling drive s, w'⟩, rfl, rfl, ?_, hy⟩
  rw [← herrno]
  exact SampleRun.turn h rfl hrun

/-- A drive that does what it is asked. -/
def willingDrive : Stream' Session :=
  Stream'.const (Session.answering fun _ => 0)

/-- Forwards, backwards and then at rest: each jog is followed by a hold. -/
theorem reversal_and_stop :
    ∃ turns locals, SampleRun turns locals 0 ∧
      turns.map Turn.sample = [forwardSample, backwardSample, restSample] ∧
      callsOf turns =
        [.jog 0 250 250 0 300, .hold, .jog 1 250 250 0 300, .hold] ∧
      FollowsSamples turns := by
  let locals₁ := (ControllerLocals.initial.afterLine forwardSample).remember 300 .clockwise
  let locals₂ := (locals₁.afterLine backwardSample).remember 300 .counterClockwise
  let locals₃ := (locals₂.afterLine restSample).remember 0 .counterClockwise
  have heval₁ : sampledTurn motionCalls willingDrive ControllerLocals.initial forwardSample =
      some (locals₁, 0, [.jog 0 250 250 0 300]) := by decide +kernel
  have heval₂ : sampledTurn motionCalls willingDrive locals₁ backwardSample =
      some (locals₂, 0, [.hold, .jog 1 250 250 0 300]) := by decide +kernel
  have heval₃ : sampledTurn motionCalls willingDrive locals₂ restSample =
      some (locals₃, 0, [.hold]) := by decide +kernel
  obtain ⟨t₁, hsample₁, _, h₁, hcalls₁⟩ := SampleRun.start.turn_of_eval heval₁
  obtain ⟨t₂, hsample₂, _, h₂, hcalls₂⟩ := h₁.turn_of_eval heval₂
  obtain ⟨t₃, hsample₃, _, h₃, hcalls₃⟩ := h₂.turn_of_eval heval₃
  refine ⟨_, locals₃, h₃, ?_, ?_, calls_follow_samples h₃⟩
  · simp [hsample₁, hsample₂, hsample₃]
  · rw [callsOf_concat, callsOf_concat, callsOf_concat, hcalls₁, hcalls₂, hcalls₃]
    rfl

end SmdControlServer
