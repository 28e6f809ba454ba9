import Mathlib.Order.Interval.Finset.Nat
import SmdControlServer.Interaction.Budgets
import SmdControlServer.Interaction.Watching
import SmdControlServer.Manual.Executions
import SmdControlServer.Server.Workers

/-!
# How late a controller can jog

A controller may enter `SMD_jog` once after each test of the flag that succeeded.  So once
the flag is cleared, and until it is set again, each controller that is running then jogs at
most once more, and a controller that is started meanwhile does not jog at all.
-/

namespace SmdControlServer

open CString Interaction

/-- The request enters `SMD_jog`. -/
def Request.isJog : Request → Bool
  | .note (.smdJog _ _ _ _ _) => true
  | _ => false

/-- A controller enters `SMD_jog`. -/
def controllerJogs (e : Entry serverSignature) : Bool :=
  decide (e.thread ≠ 0) && e.request.isJog

/-- Whether a controller may jog before its next test of the flag. -/
def jogMonitor : Monitor serverSignature Bool where
  allows
    | mayJog, .note (.smdJog _ _ _ _ _) => mayJog = true
    | _, _ => True
  expects _ _ _ := True
  next
    | _, .globals, g => decide (g.statusManualModeEnable = 1)
    | _, .note (.smdJog _ _ _ _ _), _ => false
    | mayJog, _, _ => mayJog
  pre
    | .serverLoop _, _ => False
    | _, _ => True
  post
    | .smdHoldMove, mayJog, _, mayJog' => mayJog' = mayJog
    | .smdImmedStop, mayJog, _, mayJog' => mayJog' = mayJog
    | _, _, _, _ => True

/-- The jogs that are still to come before the next test. -/
def jogBudget (q : Option Bool) : Nat :=
  if q = some true then 1 else 0

/-- The step does not set the flag of the manual mode. -/
def StaysStopped (c : ServerThreads) (i : Nat) : Prop :=
  ∀ v, c.next i = some (.assign (.statusManualModeEnable v)) → v ≠ 1

section

variable {α β : Type} {mayJog : Bool}

/-! ## Code that does not jog -/

theorem jogMonitor_of_ofWorker {o : Request} (ho : o.OfWorker) (mayJog : Bool) :
    jogMonitor.allows mayJog o ∧ ∀ x, jogMonitor.next mayJog o x = mayJog := by
  cases o with
  | globals => exact ho.elim
  | note n => exact ho.elim
  | _ => exact ⟨trivial, fun _ => rfl⟩

theorem jogging_of_ofWorkers {p : Server α} (hp : OfWorkers p) :
    p.Safe jogMonitor (fun _ mayJog' => mayJog' = mayJog) mayJog := by
  refine Program.Obeys.safe ?_ ?_ hp rfl
  · rintro o ho q' rfl
    obtain ⟨hallowed, hnext⟩ := jogMonitor_of_ofWorker ho q'
    exact ⟨hallowed, fun x _ => ⟨trivial, hnext x⟩⟩
  · rintro s (rfl | rfl) q' rfl
    · exact ⟨trivial, fun _ _ h => h⟩
    · exact ⟨trivial, fun _ _ h => h⟩

theorem jogging_smdHoldMove :
    smdHoldMove.Safe jogMonitor (fun _ mayJog' => mayJog' = mayJog) mayJog :=
  ⟨trivial, fun _ _ => jogging_of_ofWorkers (ofWorkers_sendModbusCommand _)⟩

/-! ## The controllers -/

theorem jogging_convertStringToLongInt (str : Text) :
    (convertStringToLongInt str).Safe jogMonitor (fun _ mayJog' => mayJog' = mayJog) mayJog := by
  have htest : ∀ stillErange : Bool, Program.Safe jogMonitor
      (if !(strtol str).consumed || stillErange then do
        perror
        pure (-1)
      else
        pure (toInt32 (strtol str).value) : Server Int) (fun _ mayJog' => mayJog' = mayJog)
          mayJog :=
    fun _ => Program.Safe.ite (fun _ => ⟨trivial, fun _ _ => rfl⟩) fun _ => rfl
  unfold convertStringToLongInt
  refine Program.Safe.ite (fun _ => ⟨trivial, fun _ _ => ?_⟩) fun _ => ?_
  · exact ⟨trivial, fun _ _ => htest _⟩
  · exact ⟨trivial, fun _ _ => htest _⟩

/-- A sample is answered with one jog at most. -/
theorem jogging_applySample (locals : ControllerLocals) (potValue : Int)
    (jogValue : SmdJogDirection) :
    (applySample locals potValue jogValue).Safe jogMonitor (fun _ _ => True) true := by
  have hjog : ∀ locals : ControllerLocals, Program.Safe jogMonitor (do
      let _ ← jogAt locals.currentJogDirection locals.currentSpeed
      pure locals : Server ControllerLocals) (fun _ _ => True) true := by
    intro locals
    have hsend : ∀ cmd, (sendModbusCommand cmd).Safe jogMonitor (fun _ _ => True) false :=
      fun cmd => (jogging_of_ofWorkers (ofWorkers_sendModbusCommand cmd)).mono
        fun _ _ _ => trivial
    refine Program.Safe.bind (p := smdJog _ _ _ _ _) ⟨rfl, fun _ _ => ?_⟩
    refine Program.Safe.ite (fun _ => trivial) fun _ => ?_
    exact Program.Safe.ite (fun _ => trivial) fun _ => hsend _
  unfold applySample
  refine Program.Safe.ite (fun _ => Program.Safe.ite (fun _ => hjog _) fun _ => trivial) fun _ => ?_
  refine Program.Safe.ite (fun _ => Program.Safe.ite (fun _ => ?_) fun _ => trivial) fun _ => ?_
  · exact Program.Safe.bind (jogging_smdHoldMove.mono fun _ _ _ => trivial)
  refine Program.Safe.ite (fun _ => Program.Safe.ite (fun _ => ?_) fun _ => hjog _) fun _ => trivial
  -- the hold before a change of the direction leaves the jog to come
  refine Program.Safe.bind (jogging_smdHoldMove.mono ?_)
  rintro _ _ rfl
  exact ⟨trivial, fun _ _ => hjog _⟩

theorem jogging_handleSample (locals : ControllerLocals) :
    (handleSample locals).Safe jogMonitor (fun _ _ => True) true := by
  refine Program.Safe.ite (fun _ => ?_) fun _ => trivial
  refine Program.Safe.bind (Program.Safe.bind ((jogging_convertStringToLongInt _).mono ?_))
  rintro reading _ rfl
  refine Program.Safe.bind ((jogging_convertStringToLongInt _).mono ?_)
  rintro direction _ rfl
  exact Program.Safe.ite (fun _ => jogging_applySample _ _ _) fun _ => trivial

theorem jogging_manualModeIteration (locals : ControllerLocals) :
    (manualModeIteration locals).Safe jogMonitor (fun _ _ => True) true := by
  refine ⟨trivial, fun outcome _ => ?_⟩
  cases outcome with
  | noAccess e => trivial
  | openFailed e => trivial
  | readFailed e => exact jogging_handleSample _
  | contents bytes =>
      cases bytes with
      | nil => trivial
      | cons byte rest => exact jogging_handleSample _

theorem jogging_manualModeLoopBody (locals : ControllerLocals) :
    (manualModeLoopBody locals).Safe jogMonitor (fun _ _ => True) mayJog := by
  refine ⟨trivial, fun g _ => Program.Safe.ite (fun hflag => ?_) fun _ => trivial⟩
  have hset : decide (g.statusManualModeEnable = 1) = true := decide_eq_true hflag
  change Program.Safe jogMonitor (manualModeIteration locals >>= _) _
    (decide (g.statusManualModeEnable = 1))
  rw [hset]
  refine Program.Safe.bind ((jogging_manualModeIteration locals).mono fun _ q' _ => ?_)
  exact ⟨trivial, fun _ _ => ⟨trivial, fun _ _ _ => trivial⟩⟩

theorem jogging_procedureBody (s : Procedure) (mayJog : Bool)
    (hs : jogMonitor.pre s mayJog) :
    (procedureBody s).Safe jogMonitor (jogMonitor.post s mayJog) mayJog := by
  cases s with
  | smdHoldMove => exact jogging_smdHoldMove
  | smdImmedStop => exact jogging_of_ofWorkers (ofWorkers_sendModbusCommand _)
  | manualModeLoop locals => exact jogging_manualModeLoopBody locals
  | serverLoop cl => exact hs.elim

end

/-! ## Interleavings -/

theorem jogging_of_spawn {o : Request} {x : Answer o} {t : Thread serverSignature Int}
    (ht : t ∈ serverSharing.spawn o x) :
    t.program.Safe jogMonitor (fun _ _ => True) false := by
  rw [eq_of_spawn ht]
  exact ⟨trivial, fun _ _ _ => trivial⟩

section

variable {P : ServerThreads → Nat → Prop} {w : World} {es : Trace} {c : ServerThreads}

theorem jogging_of_executes (h : ServerExecutes P (serverStart w) es c) :
    ∃ q, Threads.Monitored jogMonitor.watching (some false) q c ∧ Watches (1 ≤ ·) q := by
  obtain ⟨hmonitored, hwatches, _⟩ := h.watched (fun _ _ => True) (fun _ => True)
    (fun _ _ _ _ _ _ _ => trivial) (fun _ _ _ _ _ _ _ _ _ _ => ⟨trivial, trivial⟩)
    jogging_procedureBody (fun _ _ _ ht => ⟨jogging_of_spawn ht, trivial⟩) trivial
  exact ⟨_, hmonitored, hwatches⟩

/-- As long as the flag is not set, a controller jogs on what it may do already. -/
theorem pays_jogMonitor {mayJog : Bool} {w w' : World}
    (hstopped : w.globals.statusManualModeEnable ≠ 1) {o : Request} {x : Answer o}
    (hallowed : jogMonitor.allows mayJog o) (hx : handle o w = some (x, w')) :
    (if o.isJog then 1 else 0) + jogBudget (some (jogMonitor.next mayJog o x)) ≤
      jogBudget (some mayJog) := by
  have hkeeps : 0 + jogBudget (some mayJog) ≤ jogBudget (some mayJog) := by omega
  cases o with
  | globals =>
      -- the test of the flag fails
      cases hx
      show 0 + jogBudget (some (decide (w.globals.statusManualModeEnable = 1))) ≤ _
      rw [decide_eq_false hstopped]
      simp [jogBudget]
  | note n =>
      cases n with
      | smdJog direction accel decel jerk speed =>
          obtain rfl : mayJog = true := hallowed
          exact Nat.le_refl 1
      | _ => exact hkeeps
  | _ => exact hkeeps

theorem pays_watching {q : Nat → Option Bool} (hq : Watches (1 ≤ ·) q) {w w' : World}
    (hstopped : w.globals.statusManualModeEnable ≠ 1) {i : Nat} {o : Request} {x : Answer o}
    (hallowed : jogMonitor.watching.allows (q i) o) (hx : handle o w = some (x, w')) :
    (if controllerJogs ⟨i, o, x⟩ then 1 else 0) +
      jogBudget (jogMonitor.watching.next (q i) o x) ≤ jogBudget (q i) := by
  have hwatched := hq i
  cases hqi : q i with
  | none =>
      -- the main thread is not watched
      rw [hqi] at hwatched
      obtain rfl : i = 0 := by
        by_contra hi
        exact hwatched.mpr (by omega) rfl
      exact Nat.le_refl 0
  | some mayJog =>
      rw [hqi] at hwatched hallowed
      have hi : i ≠ 0 := by
        have hpos := hwatched.mp (Option.some_ne_none _)
        omega
      have hjogs : controllerJogs ⟨i, o, x⟩ = o.isJog := by simp [controllerJogs, hi]
      rw [hjogs]
      exact pays_jogMonitor hstopped hallowed hx

theorem stays_stopped {w w' : World} {o : Request} {x : Answer o}
    (hstopped : w.globals.statusManualModeEnable ≠ 1)
    (ho : ∀ v, o = .assign (.statusManualModeEnable v) → v ≠ 1)
    (hx : handle o w = some (x, w')) : w'.globals.statusManualModeEnable ≠ 1 := by
  have hglobals : w'.globals = mainMonitor.next w.globals o x := (modeAfter_handle hx).globals
  rw [hglobals]
  cases o with
  | assign a =>
      cases a with
      | statusManualModeEnable v => exact ho v rfl
      | _ => exact hstopped
  | _ => exact hstopped

/-- In every interleaving: once the flag of the manual mode is cleared, and until it is set
again, each controller enters `SMD_jog` at most once more, and one that is started meanwhile
does not.  So there are no more late jogs than controllers. -/
theorem late_jogs_le (h : ServerExecutes P (serverStart w) es c)
    (hstopped : c.state.globals.statusManualModeEnable ≠ 1) {es' : Trace} {c' : ServerThreads}
    (h' : ServerExecutes StaysStopped c es' c') :
    (∀ i, 0 < i → (ownEntries i es').countP controllerJogs ≤
      if i < c.threads.length then 1 else 0) ∧
      es'.countP controllerJogs ≤ c.threads.length - 1 := by
  obtain ⟨q, hmonitored, hwatches⟩ := jogging_of_executes h
  have hspent : ∀ i, (ownEntries i es').countP controllerJogs ≤ jogBudget (q i) := by
    intro i
    have hbudget := h'.countP_add_budget_le (M := jogMonitor.watching)
      (R := fun q w => Watches (1 ≤ ·) q ∧ w.globals.statusManualModeEnable ≠ 1)
      (fun q c i o l x w' hstays hnext hq hallowed hx =>
        ⟨by cases q i <;> trivial, ⟨hq.1.update i o x,
          stays_stopped (w := c.state.setErrno l) hq.2 (fun v hv => hstays v (hv ▸ hnext)) hx⟩,
          pays_watching (w := c.state.setErrno l) hq.1 hq.2 hallowed hx⟩)
      (fun s => Program.safe_watching_body (jogging_procedureBody s))
      (fun _ _ _ ht => (jogging_of_spawn ht).watching.mono fun _ _ _ => trivial) hmonitored
      ⟨hwatches, hstopped⟩ i
    omega
  have hbound : ∀ i, (ownEntries i es').countP controllerJogs ≤
      if i ∈ Finset.Ioo 0 c.threads.length then 1 else 0 := by
    intro i
    refine (hspent i).trans ?_
    by_cases hi : i ∈ Finset.Ioo 0 c.threads.length
    · rw [if_pos hi]
      unfold jogBudget
      split <;> simp
    · have hnone : q i = none ∨ q i = some false := by
        rw [Finset.mem_Ioo, not_and_or, Nat.not_lt, Nat.not_lt] at hi
        rcases hi with hzero | hlength
        · left
          by_contra hq
          have := (hwatches i).mp hq
          omega
        · exact Or.inr (hmonitored.unstarted i hlength)
      rcases hnone with hq | hq <;> simp [hq, jogBudget]
  refine ⟨fun i hi => ?_, ?_⟩
  · simpa [hi] using hbound i
  · calc es'.countP controllerJogs
        = ∑ i ∈ threadsOf es', (ownEntries i es').countP controllerJogs :=
          addedByThreads_entries.countP_eq_sum _ fun e he =>
            List.mem_toFinset.mpr (List.mem_map_of_mem he)
      _ ≤ ∑ i ∈ threadsOf es', if i ∈ Finset.Ioo 0 c.threads.length then 1 else 0 :=
          Finset.sum_le_sum fun i _ => hbound i
      _ = (threadsOf es' ∩ Finset.Ioo 0 c.threads.length).card := by
          rw [Finset.sum_ite_mem, Finset.card_eq_sum_ones]
      _ ≤ (Finset.Ioo 0 c.threads.length).card := Finset.card_le_card Finset.inter_subset_right
      _ = c.threads.length - 1 := by simp

/-- A test for steps that do not set the flag. -/
def staysStopped (c : ServerThreads) (i : Nat) : Bool :=
  match c.next i with
  | some (.assign (.statusManualModeEnable v)) => decide (v ≠ 1)
  | _ => true

theorem staysStopped_of_test (c : ServerThreads) (i : Nat) (h : staysStopped c i = true) :
    StaysStopped c i := by
  intro v hv
  unfold staysStopped at h
  rw [hv] at h
  exact of_decide_eq_true h

/-- The controller has read its file when the flag is cleared, and it jogs once more. -/
theorem late_jogs_le_one :
    ∃ es c es' c', ServerExecutes (fun _ _ => True) (serverStart World.stopsManualMode) es c ∧
      c.state.globals.statusManualModeEnable ≠ 1 ∧ ServerExecutes StaysStopped c es' c' ∧
        es'.countP controllerJogs = 1 ∧
          ((∀ i, 0 < i → (ownEntries i es').countP controllerJogs ≤
            if i < c.threads.length then 1 else 0) ∧
            es'.countP controllerJogs ≤ c.threads.length - 1) := by
  have htraced : ((Threads.traced server serverSharing
      (List.replicate 21 0 ++ List.replicate 5 1 ++ List.replicate 13 0)
      (serverStart World.stopsManualMode)).bind fun r =>
        (Threads.tracedWhere server serverSharing staysStopped (List.replicate 16 1) r.2).map
          fun r' => decide (r.2.state.globals.statusManualModeEnable ≠ 1 ∧
            r'.1.countP controllerJogs = 1)) = some true := by
    decide +kernel
  obtain ⟨⟨es, c⟩, hes, hrest⟩ := Option.bind_eq_some_iff.mp htraced
  obtain ⟨⟨es', c'⟩, hes', htest⟩ := Option.map_eq_some_iff.mp hrest
  obtain ⟨hstopped, hone⟩ := of_decide_eq_true htest
  have hexecutes := Threads.executes_of_traced hes
  have hexecutes' := Threads.executes_of_tracedWhere staysStopped_of_test hes'
  exact ⟨es, c, es', c', hexecutes, hstopped, hexecutes', hone,
    late_jogs_le hexecutes hstopped hexecutes'⟩

end

end SmdControlServer
