import Mathlib.Data.List.Permutation
import SmdControlServer.Manual.Executions

/-!
# What the drive gets

Every command opens a session of its own and writes its registers one by one, and
nothing keeps the threads apart.  The writes of one thread are whole programs, one after
the other.  Those of several threads are if no session opens while another thread has
writes left to make.
-/

namespace SmdControlServer

open CString Interaction

/-! ## Traffic -/

/-- The program whose session opens with a request. -/
def Sending.opens : Sending → (o : Request) → Answer o → Option RegisterProgram
  | .started cmd, .modbusConnect _, true => some cmd
  | _, _, _ => none

/-- A thread has writes of a program left to make. -/
def Sending.Busy (s : Sending) : Prop :=
  ∃ write rest, s = .opened (write :: rest)

def Request.write? : Request → Option (Int × Int)
  | .modbusWriteRegister _ _ register value => some (register, value)
  | _ => none

/-- How far each thread is with sending, the programs whose sessions have opened and the
register writes that have been made, in the order of the trace. -/
structure Traffic where
  sending : Nat → Sending
  opened : List RegisterProgram
  written : List (Int × Int)

def Traffic.add (t : Traffic) (e : Entry serverSignature) : Traffic where
  sending := Function.update t.sending e.thread
    (e.request.sendingAfter e.answer (t.sending e.thread))
  opened := t.opened ++ ((t.sending e.thread).opens e.request e.answer).toList
  written := t.written ++ e.request.write?.toList

def traffic (es : Trace) : Traffic :=
  es.foldl Traffic.add ⟨fun _ => .idle, [], []⟩

/-- The writes of whole programs one after the other, the last of which may not be
complete yet. -/
def InOrder (programs : List RegisterProgram) (written : List (Int × Int)) : Prop :=
  programs.dropLast.flatMap RegisterProgram.writes <+: written ∧
    written <+: programs.flatMap RegisterProgram.writes

instance (programs : List RegisterProgram) (written : List (Int × Int)) :
    Decidable (InOrder programs written) :=
  inferInstanceAs (Decidable (_ ∧ _))

/-- The writes are those of the programs in some order. -/
def WholePrograms (t : Traffic) : Prop :=
  ∃ order, order.Perm t.opened ∧ InOrder order t.written

/-- No session opens while another thread has writes left to make. -/
def Exclusive (es : Trace) : Prop :=
  ∀ pre e, pre ++ [e] <+: es →
    ((traffic pre).sending e.thread).opens e.request e.answer ≠ none →
      ∀ j, j ≠ e.thread → ¬ ((traffic pre).sending j).Busy

@[simp] theorem traffic_append_singleton (es : Trace) (e : Entry serverSignature) :
    traffic (es ++ [e]) = (traffic es).add e := by
  unfold traffic
  rw [List.foldl_append, List.foldl_cons, List.foldl_nil]

theorem Exclusive.of_append {es es' : Trace} (h : Exclusive (es ++ es')) : Exclusive es :=
  fun pre e hpre => h pre e (hpre.trans (List.prefix_append es es'))

/-! ## Disciplined threads -/

/-- What a thread may do with a program under way. -/
def Sending.Allows (s : Sending) : Request → Prop
  | .modbusWriteRegister _ _ register value => ∃ rest, s = .opened ((register, value) :: rest)
  | .pthreadCreate (.sendModbusCommand _) => ¬ s.Busy
  | .modbusFree _ => ¬ s.Busy
  | _ => True

/-- Every thread keeps to it. -/
inductive Disciplined : Trace → Prop
  | nil : Disciplined []
  | append {es : Trace} {e : Entry serverSignature} (h : Disciplined es)
      (he : ((traffic es).sending e.thread).Allows e.request) : Disciplined (es ++ [e])

/-- The programs that have been opened are written, but for what one thread has left. -/
inductive Whole (t : Traffic) : Prop
  | complete (hwritten : t.written = t.opened.flatMap RegisterProgram.writes)
      (hidle : ∀ i, ¬ (t.sending i).Busy)
  | underWay (i : Nat) (before : List RegisterProgram) (cmd : RegisterProgram)
      (made pending : List (Int × Int)) (hsending : t.sending i = .opened pending)
      (hothers : ∀ j, j ≠ i → ¬ (t.sending j).Busy) (hopened : t.opened = before ++ [cmd])
      (hwrites : cmd.writes = made ++ pending)
      (hwritten : t.written = before.flatMap RegisterProgram.writes ++ made)

section

variable {t : Traffic} {e : Entry serverSignature}

/-- Where no thread has anything left, everything has been written. -/
theorem Whole.written (h : Whole t) (hidle : ∀ i, ¬ (t.sending i).Busy) :
    t.written = t.opened.flatMap RegisterProgram.writes := by
  cases h with
  | complete hwritten _ => exact hwritten
  | underWay i before cmd made pending hsending _ hopened hwrites hwritten =>
      have hnone : pending = [] := by
        cases pending with
        | nil => rfl
        | cons write rest => exact absurd ⟨write, rest, hsending⟩ (hidle i)
      rw [hnone, List.append_nil] at hwrites
      rw [hwritten, hopened, List.flatMap_append, ← hwrites]
      simp

/-- A request that opens nothing and writes nothing leaves the thread where it is, or
busy neither before nor after it. -/
theorem sendingAfter_cases {s : Sending} {o : Request} {x : Answer o} (hs : s.Allows o)
    (hopens : s.opens o x = none) (hwrite : o.write? = none) :
    o.sendingAfter x s = s ∨ (¬ s.Busy ∧ ¬ (o.sendingAfter x s).Busy) := by
  cases o with
  | pthreadCreate routine =>
      cases routine with
      | sendModbusCommand cmd =>
          refine Or.inr ⟨hs, ?_⟩
          rintro ⟨write, rest, h⟩
          cases x <;> cases h
      | _ => exact Or.inl rfl
  | modbusConnect ctx =>
      cases s with
      | started cmd =>
          cases x with
          | true => cases hopens
          | false => exact Or.inl rfl
      | _ => exact Or.inl rfl
  | modbusWriteRegister ctx i register value => cases hwrite
  | modbusFree ctx =>
      refine Or.inr ⟨hs, ?_⟩
      rintro ⟨write, rest, h⟩
      cases h
  | _ => exact Or.inl rfl

/-- The threads other than the one that makes a request stay as they are. -/
theorem sending_add_of_ne {j : Nat} (hj : j ≠ e.thread) : (t.add e).sending j = t.sending j :=
  Function.update_of_ne hj _ _

theorem sending_add_self : (t.add e).sending e.thread =
    e.request.sendingAfter e.answer (t.sending e.thread) :=
  Function.update_self _ _ _

theorem add_opened (hopens : (t.sending e.thread).opens e.request e.answer = none) :
    (t.add e).opened = t.opened := by
  show t.opened ++ Option.toList _ = _
  rw [hopens, Option.toList_none, List.append_nil]

theorem add_written (hwrite : e.request.write? = none) : (t.add e).written = t.written := by
  show t.written ++ Option.toList _ = _
  rw [hwrite, Option.toList_none, List.append_nil]

/-- Nobody has anything left, before the request or after it. -/
theorem Whole.add_idle (h : Whole t)
    (hopens : (t.sending e.thread).opens e.request e.answer = none)
    (hwrite : e.request.write? = none) (hbefore : ¬ (t.sending e.thread).Busy)
    (hafter : ¬ ((t.add e).sending e.thread).Busy)
    (hothers : ∀ j, j ≠ e.thread → ¬ (t.sending j).Busy) : Whole (t.add e) := by
  have hidle : ∀ j, ¬ (t.sending j).Busy := by
    intro j
    by_cases hj : j = e.thread
    · rw [hj]
      exact hbefore
    · exact hothers j hj
  refine .complete (by rw [add_opened hopens, add_written hwrite, h.written hidle]) fun j => ?_
  by_cases hj : j = e.thread
  · rw [hj]
    exact hafter
  · rw [sending_add_of_ne hj]
    exact hothers j hj

/-- A request that opens nothing and writes nothing. -/
theorem Whole.add_quiet (h : Whole t) (hs : (t.sending e.thread).Allows e.request)
    (hopens : (t.sending e.thread).opens e.request e.answer = none)
    (hwrite : e.request.write? = none) : Whole (t.add e) := by
  rcases sendingAfter_cases (x := e.answer) hs hopens hwrite with hsame | ⟨hbefore, hafter⟩
  · have hadd : t.add e = t := by
      unfold Traffic.add
      rw [hsame, hopens, hwrite, Function.update_eq_self]
      simp
    rwa [hadd]
  · rw [← sending_add_self] at hafter
    -- the thread had nothing left, so what was under way is another thread's or complete
    have hidle := h.add_idle hopens hwrite hbefore hafter
    cases h with
    | complete _ hnone => exact hidle fun j _ => hnone j
    | underWay i before cmd made pending hs' hothers ho hw hw' =>
        by_cases hi : i = e.thread
        · rw [hi] at hothers
          exact hidle hothers
        · refine .underWay i before cmd made pending ?_ (fun j hj => ?_)
            ((add_opened hopens).trans ho) hw ((add_written hwrite).trans hw')
          · rw [sending_add_of_ne hi]
            exact hs'
          · by_cases hj' : j = e.thread
            · rw [hj']
              exact hafter
            · rw [sending_add_of_ne hj']
              exact hothers j hj

/-- A session opens where nobody has writes left to make. -/
theorem Whole.add_opening (h : Whole t) {cmd : RegisterProgram}
    (hopens : (t.sending e.thread).opens e.request e.answer = some cmd)
    (hothers : ∀ j, j ≠ e.thread → ¬ (t.sending j).Busy) : Whole (t.add e) := by
  obtain ⟨i, o, x⟩ := e
  cases o with
  | modbusConnect ctx =>
      cases hs : t.sending i with
      | started started =>
          rw [hs] at hopens
          cases x with
          | false => cases hopens
          | true =>
              obtain rfl : started = cmd := Option.some.inj hopens
              -- nothing is left of any program, so what has been written is what has been opened
              have hidle : ∀ j, ¬ (t.sending j).Busy := by
                intro j
                by_cases hj : j = i
                · rw [hj, hs]
                  rintro ⟨write, rest, h⟩
                  cases h
                · exact hothers j hj
              refine .underWay i t.opened started [] started.writes ?_ (fun j hj => ?_) ?_ rfl ?_
              · rw [sending_add_self (e := ⟨i, .modbusConnect ctx, true⟩), hs]
                rfl
              · rw [sending_add_of_ne (e := ⟨i, .modbusConnect ctx, true⟩) hj]
                exact hothers j hj
              · show t.opened ++ Option.toList _ = _
                rw [hs]
                rfl
              · show t.written ++ [] = _
                rw [h.written hidle, List.append_nil]
      | _ =>
          rw [hs] at hopens
          cases hopens
  | _ => cases hs : t.sending i <;> (rw [hs] at hopens; cases hopens)

/-- The thread that has writes left makes the next of them. -/
theorem Whole.add_write (h : Whole t) {write : Int × Int}
    (hs : (t.sending e.thread).Allows e.request) (hwrite : e.request.write? = some write) :
    Whole (t.add e) := by
  obtain ⟨i, o, x⟩ := e
  cases o with
  | modbusWriteRegister ctx n register value =>
      obtain ⟨rest, hrest⟩ := hs
      have hbusy : (t.sending i).Busy := ⟨_, _, hrest⟩
      cases h with
      | complete _ hidle => exact absurd hbusy (hidle i)
      | underWay j before cmd made pending hs' hothers ho hw hw' =>
          -- only the thread whose program is under way has a write left
          obtain rfl : i = j := by
            by_contra hne
            exact hothers i hne hbusy
          obtain rfl : pending = (register, value) :: rest := by
            rw [hrest] at hs'
            cases hs'
            rfl
          refine .underWay i before cmd (made ++ [(register, value)]) rest ?_ (fun j hj => ?_)
            ?_ ?_ ?_
          · rw [sending_add_self (e := ⟨i, .modbusWriteRegister ctx n register value, x⟩), hrest]
            rfl
          · rw [sending_add_of_ne (e := ⟨i, .modbusWriteRegister ctx n register value, x⟩) hj]
            exact hothers j hj
          · show t.opened ++ Option.toList _ = _
            rw [hrest, ho]
            exact List.append_nil _
          · rw [hw, List.append_assoc]
            rfl
          · show t.written ++ [(register, value)] = _
            rw [hw', List.append_assoc]
  | _ => cases hwrite

end

/-! ## Traces -/

/-- Between disciplined threads that exclude each other the writes are whole programs. -/
theorem whole_of_exclusive {es : Trace} (h : Disciplined es) (hexclusive : Exclusive es) :
    Whole (traffic es) := by
  induction h with
  | nil => exact .complete rfl fun _ hbusy => by obtain ⟨_, _, h⟩ := hbusy; cases h
  | @append es e h he ih =>
      have hwhole := ih hexclusive.of_append
      rw [traffic_append_singleton]
      cases hopens : ((traffic es).sending e.thread).opens e.request e.answer with
      | some cmd =>
          refine hwhole.add_opening hopens (hexclusive es e (List.prefix_refl _) ?_)
          rw [hopens]
          exact Option.some_ne_none cmd
      | none =>
          cases hwrite : e.request.write? with
          | none => exact hwhole.add_quiet he hopens hwrite
          | some write => exact hwhole.add_write he hwrite

theorem Whole.inOrder {t : Traffic} (h : Whole t) : InOrder t.opened t.written := by
  have hdrop : ∀ programs : List RegisterProgram,
      programs.dropLast.flatMap RegisterProgram.writes <+:
        programs.flatMap RegisterProgram.writes := by
    intro programs
    obtain ⟨last, hlast⟩ := List.dropLast_prefix programs
    conv_rhs => rw [← hlast, List.flatMap_append]
    exact List.prefix_append _ _
  cases h with
  | complete hwritten _ =>
      rw [hwritten]
      exact ⟨hdrop _, List.prefix_refl _⟩
  | underWay i before cmd made pending _ _ hopened hwrites hwritten =>
      rw [hopened, hwritten]
      constructor
      · rw [List.dropLast_concat]
        exact List.prefix_append _ _
      · rw [List.flatMap_append, List.flatMap_singleton, hwrites, ← List.append_assoc]
        exact List.prefix_append _ _

/-- What a thread has under way shows in its own entries. -/
theorem sending_ownEntries (i : Nat) (es : Trace) :
    (traffic (ownEntries i es)).sending i = (traffic es).sending i := by
  induction es using List.reverseRecOn with
  | nil => rfl
  | append_singleton es e ih =>
      by_cases hi : e.thread = i
      · subst hi
        rw [ownEntries_append_self, traffic_append_singleton, traffic_append_singleton,
          sending_add_self, sending_add_self, ih]
      · rw [ownEntries_append_of_ne hi, traffic_append_singleton,
          sending_add_of_ne (Ne.symm hi), ih]

theorem Disciplined.ownEntries {es : Trace} (h : Disciplined es) (i : Nat) :
    Disciplined (ownEntries i es) := by
  induction h with
  | nil => exact .nil
  | @append es e h he ih =>
      by_cases hi : e.thread = i
      · subst hi
        rw [ownEntries_append_self]
        refine .append ih ?_
        rw [sending_ownEntries]
        exact he
      · rw [ownEntries_append_of_ne hi]
        exact ih

/-- A thread without an entry has nothing under way. -/
theorem idle_of_no_entry {es : Trace} {j : Nat} (h : ∀ e ∈ es, e.thread ≠ j) :
    (traffic es).sending j = .idle := by
  induction es using List.reverseRecOn with
  | nil => rfl
  | append_singleton es e ih =>
      have hne : j ≠ e.thread := Ne.symm (h e (by simp))
      rw [traffic_append_singleton, sending_add_of_ne hne]
      exact ih fun e' he' => h e' (List.mem_append_left _ he')

/-- A thread excludes itself. -/
theorem exclusive_ownEntries (i : Nat) (es : Trace) : Exclusive (ownEntries i es) := by
  intro pre e hpre _ j hj hbusy
  have hown : ∀ e' ∈ pre ++ [e], e'.thread = i := by
    intro e' he'
    have hmem := hpre.subset he'
    unfold ownEntries at hmem
    simpa using (List.mem_filter.mp hmem).2
  have hthread : e.thread = i := hown e (by simp)
  have hidle : (traffic pre).sending j = .idle := by
    refine idle_of_no_entry fun e' he' heq => hj ?_
    rw [← heq, hthread]
    exact hown e' (List.mem_append_left _ he')
  obtain ⟨write, rest, hopened⟩ := hbusy
  rw [hidle] at hopened
  cases hopened

/-! ## Executions -/

theorem sending_accounts (g : Globals) (es : Trace) (i : Nat) :
    (accounts g es i).sending = (traffic es).sending i := by
  induction es using List.reverseRecOn with
  | nil => cases i <;> rfl
  | append_singleton es e ih =>
      rw [traffic_append_singleton]
      unfold accounts at ih ⊢
      rw [Monitor.followAll_append_singleton]
      by_cases hi : i = e.thread
      · rw [hi] at ih ⊢
        rw [Function.update_self, sending_add_self, ← ih]
        rfl
      · rw [Function.update_of_ne hi, sending_add_of_ne hi, ih]

theorem allows_of_account {q : Account} {o : Request} (h : accountMonitor.allows q o) :
    q.sending.Allows o := by
  cases o with
  | pthreadCreate routine =>
      cases routine with
      | sendModbusCommand cmd =>
          rintro ⟨write, rest, hopened⟩
          rw [show q.sending = .idle from h] at hopened
          cases hopened
      | _ => trivial
  | modbusWriteRegister ctx n register value => exact h
  | modbusFree ctx =>
      rintro ⟨write, rest, hopened⟩
      exact h.2 write rest hopened
  | _ => trivial

theorem disciplined_of_executes {P : ServerThreads → Nat → Prop} {w : World}
    (hinitial : w.globals = Globals.initial) {es : Trace} {c : ServerThreads}
    (h : ServerExecutes P (serverStart w) es c) : Disciplined es := by
  induction h with
  | refl => exact .nil
  | @step es c c' i h _ hstep ih =>
      obtain ⟨hmonitored, _⟩ := monitored_of_executes hinitial h
      rcases accounts_step Globals.initial es hstep with
        ⟨o, x, _, _, hnext, _, hperformed, _⟩ | ⟨_, hperformed, _⟩
      · rw [hperformed]
        refine .append ih ?_
        rw [← sending_accounts Globals.initial]
        exact allows_of_account (hmonitored.allows hnext)
      · rw [hperformed, Option.toList_none, List.append_nil]
        exact ih

/-- In every interleaving the writes of each thread are whole programs, in the order in
which their sessions open.  So are all the writes together, if no session opens while
another thread has writes left to make. -/
theorem programs_whole {w : World} (hinitial : w.globals = Globals.initial) {es : Trace}
    {c : ServerThreads} (h : ServerExecutes (fun _ _ => True) (serverStart w) es c) :
    (∀ i, InOrder (traffic (ownEntries i es)).opened (traffic (ownEntries i es)).written) ∧
      (Exclusive es → InOrder (traffic es).opened (traffic es).written) := by
  have hdisciplined := disciplined_of_executes hinitial h
  constructor
  · intro i
    have hown := hdisciplined.ownEntries i
    exact (whole_of_exclusive hown (exclusive_ownEntries i es)).inOrder
  · intro hexclusive
    exact (whole_of_exclusive hdisciplined hexclusive).inOrder

/-! ## Two interleavings -/

def Sending.isBusy : Sending → Bool
  | .opened (_ :: _) => true
  | _ => false

theorem Sending.isBusy_of_busy {s : Sending} (h : s.Busy) : s.isBusy = true := by
  obtain ⟨write, rest, rfl⟩ := h
  rfl

/-- A test for the entries of a trace after the first ones. -/
def exclusiveAfter : Trace → Trace → Bool
  | _, [] => true
  | pre, e :: rest =>
      (((traffic pre).sending e.thread).opens e.request e.answer == none ||
        pre.all fun e' => e'.thread == e.thread || !((traffic pre).sending e'.thread).isBusy) &&
      exclusiveAfter (pre ++ [e]) rest

theorem exclusive_of_exclusiveAfter {es rest : Trace} (hes : Exclusive es)
    (h : exclusiveAfter es rest = true) : Exclusive (es ++ rest) := by
  induction rest generalizing es with
  | nil =>
      rw [List.append_nil]
      exact hes
  | cons e rest ih =>
      obtain ⟨hfirst, hrest⟩ := Bool.and_eq_true_iff.mp h
      have hnext : Exclusive (es ++ [e]) := by
        intro pre e' hpre hopens j hj hbusy
        rcases List.prefix_concat_iff.mp hpre with heq | hbefore
        · obtain ⟨rfl, he⟩ := List.append_inj' heq rfl
          obtain rfl : e' = e := List.singleton_inj.mp he
          have hall := (Bool.or_eq_true_iff.mp hfirst).resolve_left (by simpa using hopens)
          -- the test looks at the threads that have an entry; the others have nothing under way
          by_cases hmem : ∃ e₁ ∈ pre, e₁.thread = j
          · obtain ⟨e₁, he₁, rfl⟩ := hmem
            have htest := List.all_eq_true.mp hall e₁ he₁
            rw [Sending.isBusy_of_busy hbusy] at htest
            exact hj (by simpa using htest)
          · push Not at hmem
            obtain ⟨write, rest', hopened⟩ := hbusy
            rw [idle_of_no_entry hmem] at hopened
            cases hopened
        · exact hes pre e' hbefore hopens j hj hbusy
      have hmore := ih hnext hrest
      rwa [List.append_assoc] at hmore

/-- The jog that the controller of `World.stopsManualMode` sends. -/
def firstJog : RegisterProgram :=
  jogProgram 0 250 250 0 3000

/-- The stop comes when the controller is back at its test. -/
theorem stop_after_jog :
    ∃ es c, ServerExecutes (fun _ _ => True) (serverStart World.stopsManualMode) es c ∧
      (traffic es).opened = [firstJog, immediateStopProgram] ∧
      (traffic es).written = firstJog.writes ++ immediateStopProgram.writes ∧
      (∀ i, InOrder (traffic (ownEntries i es)).opened (traffic (ownEntries i es)).written) ∧
      InOrder (traffic es).opened (traffic es).written := by
  have htraced : ((Threads.traced server serverSharing
      (List.replicate 21 0 ++ List.replicate 24 1 ++ List.replicate 12 0)
      (serverStart World.stopsManualMode)).map fun r =>
        (decide ((traffic r.1).opened = [firstJog, immediateStopProgram] ∧
          (traffic r.1).written = firstJog.writes ++ immediateStopProgram.writes),
          exclusiveAfter [] r.1)) = some (true, true) := by decide +kernel
  obtain ⟨⟨es, c⟩, hes, hc⟩ := Option.map_eq_some_iff.mp htraced
  obtain ⟨htraffic, hexclusive⟩ := Prod.mk.inj hc
  obtain ⟨hopened, hwritten⟩ := of_decide_eq_true htraffic
  have hexecutes := Threads.executes_of_traced hes
  have hnil : Exclusive [] := exclusive_ownEntries 0 []
  have hinitial : World.stopsManualMode.globals = Globals.initial := rfl
  obtain ⟨hown, hall⟩ := programs_whole hinitial hexecutes
  exact ⟨es, c, hexecutes, hopened, hwritten, hown,
    hall (exclusive_of_exclusiveAfter hnil hexclusive)⟩

/-- The stop comes when the controller has written three registers of its jog, and then
the controller writes the others: the drive gets the start of the jog after the stop. -/
theorem stop_within_jog :
    ∃ es c, ServerExecutes (fun _ _ => True) (serverStart World.stopsManualMode) es c ∧
      (traffic es).opened = [firstJog, immediateStopProgram] ∧
      (traffic es).written = firstJog.writes.take 3 ++ immediateStopProgram.writes ++
        firstJog.writes.drop 3 ∧
      ¬ WholePrograms (traffic es) := by
  have htraced : ((Threads.traced server serverSharing
      (List.replicate 21 0 ++ List.replicate 13 1 ++ List.replicate 12 0 ++ List.replicate 9 1)
      (serverStart World.stopsManualMode)).map fun r =>
        decide ((traffic r.1).opened = [firstJog, immediateStopProgram] ∧
          (traffic r.1).written = firstJog.writes.take 3 ++ immediateStopProgram.writes ++
            firstJog.writes.drop 3)) = some true := by decide +kernel
  obtain ⟨⟨es, c⟩, hes, hc⟩ := Option.map_eq_some_iff.mp htraced
  obtain ⟨hopened, hwritten⟩ := of_decide_eq_true hc
  refine ⟨es, c, Threads.executes_of_traced hes, hopened, hwritten, ?_⟩
  rintro ⟨order, hperm, hinOrder⟩
  rw [hwritten] at hinOrder
  rw [hopened] at hperm
  rcases List.perm_pair.mp hperm with rfl | rfl
  · exact absurd hinOrder (by decide +kernel)
  · exact absurd hinOrder (by decide +kernel)

end SmdControlServer
