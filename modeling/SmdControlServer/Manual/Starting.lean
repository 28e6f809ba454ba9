import SmdControlServer.Manual.Executions

/-!
# Starting the manual mode

There should be one controller at a time, and the flag should be set only if there is
one.  A controller that has been told to leave is not waited for, and the flag is set
before the thread is created.  So the first holds where each start finds the controllers
ended, and the second where each `pthread_create` succeeds.
-/

namespace SmdControlServer

open CString Interaction

/-- The thread is a controller that has not left its loop. -/
def LiveController (c : ServerThreads) (i : Nat) : Prop :=
  0 < i ∧ ∃ t, c.threads[i]? = some t ∧ t.program ≠ .done ()

/-- The manual mode is started when every controller has ended, and a controller can be
created for it. -/
def StartsAlone (c : ServerThreads) (i : Nat) : Prop :=
  i = 0 →
    (c.next 0 = some (.assign (.statusManualModeEnable 1)) → ∀ j, ¬ LiveController c j) ∧
    (c.next 0 = some (.pthreadCreate .manualModeController) →
      c.state.controllerThreads.head = true)

/-! ## One step -/

section

variable {c c' : ServerThreads} {i j : Nat}

/-- A controller is live that was live before, or it has just been created. -/
theorem liveController_step (h : c.step server serverSharing i = some c')
    (hj : LiveController c' j) : LiveController c j ∨
      j = c.threads.length ∧ c.next i = some (.pthreadCreate .manualModeController) := by
  obtain ⟨hpos, t, ht, hlive⟩ := hj
  rcases Threads.step_cases h with ⟨o, k, l, x, s', hthread, _, rfl⟩ | ⟨p, k, l, hthread, rfl⟩
  · rcases Threads.getElem?_set_append ht with ⟨rfl, rfl⟩ | ⟨_, hother⟩ | ⟨hlength, hnew⟩
    · exact Or.inl ⟨hpos, _, hthread, by simp⟩
    · exact Or.inl ⟨hpos, t, hother, hlive⟩
    · right
      have hlt : j < c.threads.length + 1 := by
        have hlt := (List.getElem?_eq_some_iff.mp ht).1
        have hone : (serverSharing.spawn o x).toList.length ≤ 1 := by
          cases serverSharing.spawn o x <;> simp
        simp only [List.length_append, List.length_set] at hlt
        omega
      refine ⟨by omega, ?_⟩
      rw [Threads.next_of_perform hthread, creates_of_spawn (Option.mem_toList.mp hnew)]
  · left
    by_cases hij : j = i
    · subst hij
      exact ⟨hpos, _, hthread, by simp⟩
    · rw [List.getElem?_set_ne (Ne.symm hij)] at ht
      exact ⟨hpos, t, ht, hlive⟩

end

/-! ## Runs -/

/-- While the manual mode is being started there is no controller, and otherwise there is
one at most; and every controller that was to be created has been. -/
structure Alone (q : Account) (c : ServerThreads) : Prop where
  starting : q.starting = true → ∀ i, ¬ LiveController c i
  single : ∀ i j, LiveController c i → LiveController c j → i = j
  created : q.created ≠ some false

theorem startingAfter_cases {o : Request} {x : Answer o} {starting : Bool}
    (h : o.startingAfter x starting = true) :
    o = .assign (.statusManualModeEnable 1) ∨
      starting = true ∧ o ≠ .pthreadCreate .manualModeController := by
  cases o with
  | assign a =>
      cases a with
      | statusManualModeEnable value =>
          rcases Bool.or_eq_true_iff.mp h with hstarting | hvalue
          · exact Or.inr ⟨hstarting, by simp⟩
          · rw [of_decide_eq_true hvalue]
            exact Or.inl rfl
      | _ => exact Or.inr ⟨h, by simp⟩
  | pthreadCreate routine =>
      cases routine with
      | manualModeController => cases h
      | _ => exact Or.inr ⟨h, by simp⟩
  | _ => exact Or.inr ⟨h, by simp⟩

section

variable {c c' : ServerThreads} {i : Nat} {q : Account}

/-- A controller is created. -/
theorem alone_create (hc : Alone q c) (hstarting : q.starting = true)
    (hstep : c.step server serverSharing i = some c') :
    Alone (accountMonitor.next q (.pthreadCreate .manualModeController) true) c' := by
  have hnew : ∀ j, LiveController c' j → j = c.threads.length := by
    intro j hj
    rcases liveController_step hstep hj with hold | ⟨hlength, _⟩
    · exact absurd hold (hc.starting hstarting j)
    · exact hlength
  refine ⟨fun h => ?_, fun i j hi hj => ?_, fun h => ?_⟩
  · cases h
  · rw [hnew i hi, hnew j hj]
  · cases h

/-- A step after which there are no more controllers than before. -/
theorem alone_keep {q' : Account} (hc : Alone q c)
    (hlive : ∀ j, LiveController c' j → LiveController c j)
    (hstarting : q'.starting = true → q.starting = true ∨ ∀ j, ¬ LiveController c j)
    (hcreated : q'.created = q.created) : Alone q' c' := by
  refine ⟨fun h j hj => ?_, fun i j hi hj => hc.single i j (hlive i hi) (hlive j hj), ?_⟩
  · rcases hstarting h with hbefore | hnone
    · exact hc.starting hbefore j (hlive j hj)
    · exact hnone j (hlive j hj)
  · rw [hcreated]
    exact hc.created

end

theorem createdAfter_of_ne {o : Request} {x : Answer o} {created : Option Bool}
    (ho : o ≠ .pthreadCreate .manualModeController) : o.createdAfter x created = created := by
  cases o with
  | pthreadCreate routine =>
      cases routine with
      | manualModeController => exact absurd rfl ho
      | _ => rfl
  | _ => rfl

theorem alone_of_executes {w : World} (hinitial : w.globals = Globals.initial) {es : Trace}
    {c : ServerThreads} (h : ServerExecutes StartsAlone (serverStart w) es c) :
    Alone (accounts Globals.initial es 0) c := by
  induction h with
  | refl =>
      have hnone : ∀ i, ¬ LiveController (serverStart w) i := by
        rintro i ⟨hi, t, ht, _⟩
        cases i with
        | zero => exact absurd hi (Nat.lt_irrefl 0)
        | succ i => cases ht
      refine ⟨fun _ => hnone, fun i j hi _ => absurd hi (hnone i), ?_⟩
      exact fun hcreated => by cases hcreated
  | @step es c c' i h hP hstep ih =>
      obtain ⟨hmonitored, hlinked⟩ := monitored_of_executes hinitial h
      have hlive : c.next i ≠ some (.pthreadCreate .manualModeController) →
          ∀ j, LiveController c' j → LiveController c j := by
        intro hnot j hj
        rcases liveController_step hstep hj with hold | ⟨_, hcreates⟩
        · exact hold
        · exact absurd hcreates hnot
      rcases accounts_step Globals.initial es hstep with
        ⟨o, x, errno, w', hnext, hx, _, haccounts⟩ | ⟨hnext, _, haccounts⟩
      · rw [haccounts]
        by_cases hcreates : o = .pthreadCreate .manualModeController
        · subst hcreates
          -- only the main thread creates a controller, after it has set the flag
          obtain ⟨hknown, hstarting⟩ := hmonitored.allows hnext
          obtain rfl : i = 0 := by
            by_contra hi
            exact hknown (hlinked.others i (by omega))
          have hcreated : x = true := by
            have hhead : x = c.state.controllerThreads.head := by
              cases hx
              rfl
            rw [hhead]
            exact (hP rfl).2 hnext
          rw [Function.update_self, hcreated]
          exact alone_create ih hstarting hstep
        · have hkept := hlive (by rw [hnext]; simpa using hcreates)
          by_cases hi : i = 0
          · subst hi
            rw [Function.update_self]
            refine alone_keep ih hkept (fun hstarting => ?_) (createdAfter_of_ne hcreates)
            rcases startingAfter_cases hstarting with hset | ⟨hbefore, _⟩
            · rw [hset] at hnext
              exact Or.inr ((hP rfl).1 hnext)
            · exact Or.inl hbefore
          · rw [Function.update_of_ne (Ne.symm hi)]
            exact alone_keep ih hkept Or.inl rfl
      · rw [haccounts]
        exact alone_keep ih (hlive (by rw [hnext]; simp)) Or.inl rfl

/-- In every interleaving in which each start finds the controllers ended and each
`pthread_create` of a controller succeeds, there is one controller at most while the flag
is set, and between two messages the flag is set only if the controller that was to be
created last has been. -/
theorem one_controller {w : World} (hinitial : w.globals = Globals.initial) {c : ServerThreads}
    (hsteps : Threads.Steps server serverSharing StartsAlone (serverStart w) c) :
    (c.state.globals.statusManualModeEnable = 1 →
        ∀ i j, LiveController c i → LiveController c j → i = j) ∧
      ∀ cl, c.next 0 = some (.readClient cl) → c.state.globals.statusManualModeEnable = 1 →
        lastStart c.state.log = some true := by
  obtain ⟨es, hes⟩ := Threads.exists_executes_of_steps hsteps
  obtain ⟨hmonitored, hlinked⟩ := monitored_of_executes hinitial hes
  have halone := alone_of_executes hinitial hes
  refine ⟨fun _ => halone.single, fun cl hnext hflag => ?_⟩
  have hsettled : (accounts Globals.initial es 0).Settled := hmonitored.allows hnext
  have hsome := hsettled.created _ hlinked.known hflag
  cases hcreated : (accounts Globals.initial es 0).created with
  | none => exact absurd hcreated hsome
  | some b =>
      have hb : b ≠ false := by
        rintro rfl
        exact halone.created hcreated
      rw [hlinked.created b hcreated]
      simpa using hb

/-! ## Two interleavings -/

/-- A client that starts the manual mode, stops it and starts it again. -/
def World.restartsManualMode : World :=
  { World.facing Globals.initial (Stream'.const (Session.answering fun _ => 0)) with
    clientReads := readsOf
      [connectLine, startManualModeLine, stopManualModeLine, startManualModeLine]
    manualReads := Stream'.const (.contents "0,100\n".toList) }

/-- A system in which no thread can be created for a controller. -/
def World.withoutControllers : World :=
  { World.restartsManualMode with controllerThreads := Stream'.const false }

/-- The thread has found the flag set and is about to read the manual file. -/
def readsManualFile (c : ServerThreads) (i : Nat) : Bool :=
  match c.next i with
  | some .readManualFile => true
  | _ => false

theorem next_of_readsManualFile {c : ServerThreads} {i : Nat} (h : readsManualFile c i = true) :
    c.next i = some .readManualFile := by
  unfold readsManualFile at h
  split at h
  · assumption
  · cases h

theorem liveController_of_readsManualFile {c : ServerThreads} {i : Nat} (hi : 0 < i)
    (h : readsManualFile c i = true) : LiveController c i := by
  have hnext := next_of_readsManualFile h
  unfold Threads.next at hnext
  split at hnext
  · rename_i o k l hthread
    exact ⟨hi, _, hthread, by simp⟩
  · cases hnext

/-- A test for `StartsAlone`. -/
def startTest (c : ServerThreads) (i : Nat) : Bool :=
  i ≠ 0 || match c.next 0 with
  | some (.assign (.statusManualModeEnable value)) =>
      value ≠ 1 || c.threads.tail.all fun t =>
        match t.program with
        | .done _ => true
        | _ => false
  | some (.pthreadCreate .manualModeController) => c.state.controllerThreads.head
  | _ => true

theorem startsAlone_of_startTest (c : ServerThreads) (i : Nat) (h : startTest c i = true) :
    StartsAlone c i := by
  rintro rfl
  unfold startTest at h
  constructor
  · rintro hnext j ⟨hj, t, ht, hlive⟩
    rw [hnext] at h
    obtain ⟨k, rfl⟩ : ∃ k, j = k + 1 := ⟨j - 1, by omega⟩
    have htail : c.threads.tail[k]? = some t := by rw [List.getElem?_tail, ht]
    have hended := List.all_eq_true.mp (by simpa using h) t (List.mem_of_getElem? htail)
    split at hended
    · rename_i hdone
      exact hlive hdone
    · cases hended
  · intro hnext
    rw [hnext] at h
    simpa using h

/-- The manual mode is started again after the first controller has ended. -/
theorem restarted_after_end :
    ∃ c, Threads.Steps server serverSharing StartsAlone (serverStart World.restartsManualMode) c ∧
      c.threads.length = 3 ∧ c.state.globals.statusManualModeEnable = 1 ∧ LiveController c 2 ∧
      (∀ i j, LiveController c i → LiveController c j → i = j) ∧
      lastStart c.state.log = some true := by
  have hschedule : ((Threads.scheduled server serverSharing startTest
      (List.replicate 21 0 ++ List.replicate 23 1 ++ List.replicate 15 0 ++ List.replicate 3 1 ++
        List.replicate 8 0 ++ List.replicate 2 2) (serverStart World.restartsManualMode)).map
      fun c => (decide (c.threads.length = 3), readsMessage c, readsManualFile c 2,
        decide (c.state.globals.statusManualModeEnable = 1))) = some (true, true, true, true) := by
    decide +kernel
  obtain ⟨c, hsteps, hc⟩ := Option.map_eq_some_iff.mp hschedule
  simp only [Prod.mk.injEq, decide_eq_true_eq] at hc
  obtain ⟨hlength, hreads, hlive, hflag⟩ := hc
  have halone := Threads.steps_of_scheduled startsAlone_of_startTest hsteps
  obtain ⟨cl, hnext⟩ := next_of_readsMessage hreads
  obtain ⟨hsingle, hstarted⟩ := one_controller rfl halone
  exact ⟨c, halone, hlength, hflag, liveController_of_readsManualFile (by omega) hlive,
    hsingle hflag, hstarted cl hnext hflag⟩

/-- A stop and a start while the first controller sleeps leave two controllers in the loop
with the flag set.  And where no thread can be created, the flag is set without one. -/
theorem two_controllers_or_none :
    (∃ c, Threads.Steps server serverSharing (fun _ _ => True)
        (serverStart World.restartsManualMode) c ∧
      c.state.globals.statusManualModeEnable = 1 ∧ LiveController c 1 ∧ LiveController c 2 ∧
      c.next 1 = some .readManualFile ∧ c.next 2 = some .readManualFile) ∧
    ∃ c cl, Threads.Steps server serverSharing (fun _ _ => True)
        (serverStart World.withoutControllers) c ∧
      c.next 0 = some (.readClient cl) ∧ c.state.globals.statusManualModeEnable = 1 ∧
      lastStart c.state.log = some false ∧ c.threads.length = 1 := by
  have hany : ∀ (c : ServerThreads) (i : Nat), (fun _ _ => true) c i = true → True :=
    fun _ _ _ => trivial
  constructor
  -- the controller is inside its first usleep when the stop and the start are served
  · have hschedule : ((Threads.scheduled server serverSharing (fun _ _ => true)
        (List.replicate 21 0 ++ List.replicate 23 1 ++ List.replicate 23 0 ++
          List.replicate 3 1 ++ List.replicate 2 2) (serverStart World.restartsManualMode)).map
        fun c => (readsManualFile c 1, readsManualFile c 2,
          decide (c.state.globals.statusManualModeEnable = 1))) = some (true, true, true) := by
      decide +kernel
    obtain ⟨c, hsteps, hc⟩ := Option.map_eq_some_iff.mp hschedule
    simp only [Prod.mk.injEq, decide_eq_true_eq] at hc
    obtain ⟨hfirst, hsecond, hflag⟩ := hc
    exact ⟨c, Threads.steps_of_scheduled hany hsteps, hflag,
      liveController_of_readsManualFile (by omega) hfirst,
      liveController_of_readsManualFile (by omega) hsecond,
      next_of_readsManualFile hfirst, next_of_readsManualFile hsecond⟩
  -- the main thread alone: the flag is set before the thread that cannot be created
  · have hschedule : ((Threads.scheduled server serverSharing (fun _ _ => true)
        (List.replicate 20 0) (serverStart World.withoutControllers)).map
        fun c => (readsMessage c, decide (c.state.globals.statusManualModeEnable = 1 ∧
          lastStart c.state.log = some false ∧ c.threads.length = 1))) = some (true, true) := by
      decide +kernel
    obtain ⟨c, hsteps, hc⟩ := Option.map_eq_some_iff.mp hschedule
    simp only [Prod.mk.injEq, decide_eq_true_eq] at hc
    obtain ⟨hreads, hflag, hlast, hlength⟩ := hc
    obtain ⟨cl, hnext⟩ := next_of_readsMessage hreads
    exact ⟨c, cl, Threads.steps_of_scheduled hany hsteps, hnext, hflag, hlast, hlength⟩

end SmdControlServer
