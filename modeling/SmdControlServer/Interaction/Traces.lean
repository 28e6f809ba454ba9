import Mathlib.Data.List.Induction
import Mathlib.Logic.Function.Basic
import SmdControlServer.Interaction.Monitor
import SmdControlServer.Interaction.Threads

/-!
# Traces of threads

An execution is a number of steps together with the requests made in them, each with
its answer and the thread that made it.  A monitor then follows every thread by that
thread's own entries, and `Executes.monitored` is the rule for it: if the surroundings
keep what the monitor expects, and the procedures and the threads that are started are
safe, every thread stays at a point that is safe for what has been seen of it.  What a
monitor knows of the locals of its own thread is kept beside this, by `Executes.tied`.
Where the steps of the execution meet a condition, the surroundings may rely on it.
-/

namespace Interaction

/-- A request that a thread has made, and the answer. -/
structure Entry (S : Signature) where
  thread : Nat
  request : S.Request
  answer : S.Answer request

/-- What one thread has done. -/
def ownEntries {S : Signature} (i : Nat) (es : List (Entry S)) : List (Entry S) :=
  es.filter fun e => e.thread = i

theorem ownEntries_append_self {S : Signature} (es : List (Entry S)) (e : Entry S) :
    ownEntries e.thread (es ++ [e]) = ownEntries e.thread es ++ [e] := by
  unfold ownEntries
  rw [List.filter_append]
  simp

theorem ownEntries_append_of_ne {S : Signature} {i : Nat} {e : Entry S} (hi : e.thread ≠ i)
    (es : List (Entry S)) : ownEntries i (es ++ [e]) = ownEntries i es := by
  unfold ownEntries
  rw [List.filter_append]
  simp [hi]

namespace Monitor

variable {S : Signature} {Q : Type} (M : Monitor S Q)

/-- The state of a monitor after some entries. -/
def follow (q : Q) (es : List (Entry S)) : Q :=
  es.foldl (fun q e => M.next q e.request e.answer) q

/-- The states of the monitors of all the threads. -/
def followAll (q : Nat → Q) (es : List (Entry S)) : Nat → Q :=
  es.foldl (fun q e => Function.update q e.thread (M.next (q e.thread) e.request e.answer)) q

@[simp] theorem followAll_nil (q : Nat → Q) : M.followAll q [] = q := rfl

theorem followAll_append_singleton (q : Nat → Q) (es : List (Entry S)) (e : Entry S) :
    M.followAll q (es ++ [e]) = Function.update (M.followAll q es) e.thread
      (M.next (M.followAll q es e.thread) e.request e.answer) := by
  unfold followAll
  rw [List.foldl_append, List.foldl_cons, List.foldl_nil]

/-- Each monitor follows its own thread. -/
theorem followAll_apply (q : Nat → Q) (es : List (Entry S)) (i : Nat) :
    M.followAll q es i = M.follow (q i) (ownEntries i es) := by
  induction es using List.reverseRecOn with
  | nil => rfl
  | append_singleton es e ih =>
      rw [followAll_append_singleton]
      by_cases hi : e.thread = i
      · subst hi
        rw [Function.update_self, ownEntries_append_self, ih]
        unfold follow
        rw [List.foldl_append, List.foldl_cons, List.foldl_nil]
      · rw [Function.update_of_ne (Ne.symm hi), ownEntries_append_of_ne hi, ih]

end Monitor

namespace Threads

variable {S : Signature} {σ L Q : Type} (I : Interpretation S σ) (share : Sharing S σ L)

/-- The entry of a step of the `i`-th thread, if the step makes a request. -/
def performed (c : Threads S σ L) (i : Nat) : Option (Entry S) :=
  match c.threads[i]? with
  | some ⟨.perform o _, l⟩ => (I.handle o (share.load l c.state)).map fun r => ⟨i, o, r.1⟩
  | _ => none

/-- Any number of steps that the scheduler may take, with what was done in them. -/
inductive Executes (P : Threads S σ L → Nat → Prop) (c : Threads S σ L) :
    List (Entry S) → Threads S σ L → Prop
  | refl : Executes P c [] c
  | step {es : List (Entry S)} {c₁ c₂ : Threads S σ L} {i : Nat} (h : Executes P c es c₁)
      (hP : P c₁ i) (hstep : c₁.step I share i = some c₂) :
      Executes P c (es ++ (c₁.performed I share i).toList) c₂

variable {I share} {P : Threads S σ L → Nat → Prop} {c c' : Threads S σ L} {i : Nat}
  {es es' : List (Entry S)}

theorem performed_of_perform {o : S.Request} {k : S.Answer o → Program S Unit} {l : L}
    {x : S.Answer o} {s' : σ} (hthread : c.threads[i]? = some ⟨.perform o k, l⟩)
    (hx : I.handle o (share.load l c.state) = some (x, s')) :
    c.performed I share i = some ⟨i, o, x⟩ := by
  unfold performed
  rw [hthread]
  show Option.map _ (I.handle o (share.load l c.state)) = _
  rw [hx]
  rfl

theorem performed_of_call {p : S.Procedure} {k : S.Result p → Program S Unit} {l : L}
    (hthread : c.threads[i]? = some ⟨.call p k, l⟩) : c.performed I share i = none := by
  unfold performed
  rw [hthread]

theorem Executes.trans {c₁ : Threads S σ L} (h : Executes I share P c es c₁)
    (h' : Executes I share P c₁ es' c') : Executes I share P c (es ++ es') c' := by
  induction h' with
  | refl =>
      rw [List.append_nil]
      exact h
  | step _ hP hstep ih =>
      rw [← List.append_assoc]
      exact .step ih hP hstep

/-- Steps can be traced. -/
theorem exists_executes_of_steps (h : Steps I share P c c') :
    ∃ es, Executes I share P c es c' := by
  induction h with
  | refl => exact ⟨[], .refl⟩
  | tail _ hlast ih =>
      obtain ⟨es, hes⟩ := ih
      obtain ⟨i, hP, hstep⟩ := hlast
      exact ⟨_, .step hes hP hstep⟩

/-- The trace of a schedule, as long as its steps pass a test. -/
def tracedWhere (I : Interpretation S σ) (share : Sharing S σ L)
    (test : Threads S σ L → Nat → Bool) :
    List Nat → Threads S σ L → Option (List (Entry S) × Threads S σ L)
  | [], c => some ([], c)
  | i :: rest, c =>
      if test c i then
        (c.step I share i).bind fun c₁ =>
          (tracedWhere I share test rest c₁).map fun r =>
            ((c.performed I share i).toList ++ r.1, r.2)
      else
        none

theorem executes_of_tracedWhere {test : Threads S σ L → Nat → Bool}
    (htest : ∀ c i, test c i = true → P c i) {schedule : List Nat}
    (h : tracedWhere I share test schedule c = some (es, c')) : Executes I share P c es c' := by
  induction schedule generalizing c es with
  | nil =>
      cases h
      exact .refl
  | cons i rest ih =>
      by_cases hpass : test c i = true
      · rw [tracedWhere, if_pos hpass] at h
        obtain ⟨c₁, hstep, hrest⟩ := Option.bind_eq_some_iff.mp h
        obtain ⟨⟨es₁, c₂⟩, htraced, heq⟩ := Option.map_eq_some_iff.mp hrest
        cases heq
        have hfirst : Executes I share P c ([] ++ (c.performed I share i).toList) c₁ :=
          .step .refl (htest c i hpass) hstep
        rw [List.nil_append] at hfirst
        exact hfirst.trans (ih htraced)
      · rw [tracedWhere, if_neg hpass] at h
        cases h

/-- The trace of a schedule. -/
def traced (I : Interpretation S σ) (share : Sharing S σ L) :
    List Nat → Threads S σ L → Option (List (Entry S) × Threads S σ L) :=
  tracedWhere I share fun _ _ => true

theorem executes_of_traced {schedule : List Nat}
    (h : traced I share schedule c = some (es, c')) :
    Executes I share (fun _ _ => True) c es c' :=
  executes_of_tracedWhere (fun _ _ _ => trivial) h

/-! ## Monitored threads -/

/-- Every thread is at a point that is safe for what its monitor has seen, and of the
threads that have not been started nothing has been seen. -/
structure Monitored (M : Monitor S Q) (fresh : Q) (q : Nat → Q) (c : Threads S σ L) : Prop where
  safe : ∀ (i : Nat) (t : Thread S L), c.threads[i]? = some t →
    t.program.Safe M (fun _ _ => True) (q i)
  unstarted : ∀ i, c.threads.length ≤ i → q i = fresh

section Monitored

variable {M : Monitor S Q} {fresh : Q} {R : (Nat → Q) → σ → Prop} {q : Nat → Q}

/-- A request that a monitored thread makes is allowed. -/
theorem Monitored.allows (hc : Monitored M fresh q c) {o : S.Request}
    (ho : c.next i = some o) : M.allows (q i) o := by
  unfold next at ho
  split at ho
  · rename_i o' k l hthread
    cases ho
    exact (hc.safe i _ hthread).1
  · cases ho

/-- What the monitors know is true of the locals of their threads. -/
def Tied (ties : Q → L → Prop) (q : Nat → Q) (c : Threads S σ L) : Prop :=
  ∀ (i : Nat) (t : Thread S L), c.threads[i]? = some t → ties (q i) t.locals

/-- A monitored thread makes a step. -/
theorem Monitored.step {ties : Q → L → Prop}
    (hhandle : ∀ o l x s', c.next i = some o → ties (q i) l → M.allows (q i) o →
      I.handle o (share.load l c.state) = some (x, s') →
        M.expects (q i) o x ∧ R (Function.update q i (M.next (q i) o x)) s' ∧
          ties (M.next (q i) o x) (share.save s'))
    (hbody : ∀ p q, M.pre p q → (I.body p).Safe M (M.post p q) q)
    (hspawn : ∀ o x (t : Thread S L), share.spawn o x = some t →
      t.program.Safe M (fun _ _ => True) fresh ∧ ties fresh t.locals)
    (hc : Monitored M fresh q c) (hR : R q c.state) (htied : Tied ties q c)
    (h : c.step I share i = some c') :
    Monitored M fresh (M.followAll q (c.performed I share i).toList) c' ∧
      R (M.followAll q (c.performed I share i).toList) c'.state ∧
      Tied ties (M.followAll q (c.performed I share i).toList) c' := by
  -- a request, which the monitor follows, or the unfolding of a call, which it does not see
  rcases step_cases h with ⟨o, k, l, x, s', hthread, hx, rfl⟩ | ⟨p, k, l, hthread, rfl⟩
  · have hperformed := performed_of_perform hthread hx
    have hlt : i < c.threads.length := (List.getElem?_eq_some_iff.mp hthread).1
    obtain ⟨hallowed, hrest⟩ := hc.safe i _ hthread
    obtain ⟨hexpected, hR', hties⟩ :=
      hhandle o l x s' (next_of_perform hthread) (htied i _ hthread) hallowed hx
    have hfollow : M.followAll q (c.performed I share i).toList =
        Function.update q i (M.next (q i) o x) := by
      rw [hperformed]
      rfl
    -- a thread that is new has a number that no thread had
    have hnew : ∀ j, c.threads.length ≤ j →
        Function.update q i (M.next (q i) o x) j = fresh := by
      intro j hj
      rw [Function.update_of_ne (by omega)]
      exact hc.unstarted j hj
    rw [hfollow]
    refine ⟨⟨fun j t ht => ?_, fun j hj => ?_⟩, hR', fun j t ht => ?_⟩
    -- the thread that moves, another one, or the one that it starts
    · rcases getElem?_set_append ht with ⟨rfl, rfl⟩ | ⟨hne, hother⟩ | ⟨hlength, hstarted⟩
      · rw [Function.update_self]
        exact hrest x hexpected
      · rw [Function.update_of_ne hne]
        exact hc.safe j t hother
      · rw [hnew j hlength]
        exact (hspawn o x t (Option.mem_toList.mp hstarted)).1
    · refine hnew j ?_
      simp only [List.length_append, List.length_set] at hj
      omega
    · rcases getElem?_set_append ht with ⟨rfl, rfl⟩ | ⟨hne, hother⟩ | ⟨hlength, hstarted⟩
      · rw [Function.update_self]
        exact hties
      · rw [Function.update_of_ne hne]
        exact htied j t hother
      · rw [hnew j hlength]
        exact (hspawn o x t (Option.mem_toList.mp hstarted)).2
  · rw [performed_of_call hthread]
    show Monitored M fresh q _ ∧ R q c.state ∧ Tied ties q _
    have hlt : i < c.threads.length := (List.getElem?_eq_some_iff.mp hthread).1
    refine ⟨⟨fun j t ht => ?_, fun j hj => ?_⟩, hR, fun j t ht => ?_⟩
    · by_cases hij : j = i
      · subst hij
        rw [List.getElem?_set_self hlt] at ht
        cases ht
        exact Program.Safe.unfold (fun hpre => hbody p _ hpre) (hc.safe j _ hthread)
      · rw [List.getElem?_set_ne (Ne.symm hij)] at ht
        exact hc.safe j t ht
    · rw [List.length_set] at hj
      exact hc.unstarted j hj
    · by_cases hij : j = i
      · subst hij
        rw [List.getElem?_set_self hlt] at ht
        cases ht
        exact htied j ⟨.call p k, l⟩ hthread
      · rw [List.getElem?_set_ne (Ne.symm hij)] at ht
        exact htied j t ht

theorem followAll_append (q : Nat → Q) (es es' : List (Entry S)) :
    M.followAll q (es ++ es') = M.followAll (M.followAll q es) es' := by
  unfold Monitor.followAll
  rw [List.foldl_append]

/-- Throughout an execution every thread is monitored, and what the monitors know is true
of the locals.  The surroundings need to keep what is expected only in the steps that the
execution may take. -/
theorem Executes.tied_where {ties : Q → L → Prop}
    (hhandle : ∀ q (c : Threads S σ L) i o l x s', P c i → c.next i = some o → R q c.state →
      ties (q i) l → M.allows (q i) o → I.handle o (share.load l c.state) = some (x, s') →
        M.expects (q i) o x ∧ R (Function.update q i (M.next (q i) o x)) s' ∧
          ties (M.next (q i) o x) (share.save s'))
    (hbody : ∀ p q, M.pre p q → (I.body p).Safe M (M.post p q) q)
    (hspawn : ∀ o x (t : Thread S L), share.spawn o x = some t →
      t.program.Safe M (fun _ _ => True) fresh ∧ ties fresh t.locals)
    (hc : Monitored M fresh q c) (hR : R q c.state) (htied : Tied ties q c)
    (h : Executes I share P c es c') :
    Monitored M fresh (M.followAll q es) c' ∧ R (M.followAll q es) c'.state ∧
      Tied ties (M.followAll q es) c' := by
  induction h with
  | refl => exact ⟨hc, hR, htied⟩
  | @step es c₁ c₂ i _ hP hstep ih =>
      obtain ⟨hmonitored, hR', htied'⟩ := ih
      rw [followAll_append]
      exact hmonitored.step
        (fun o l x s' ho hl hallowed hx => hhandle _ c₁ i o l x s' hP ho hR' hl hallowed hx)
        hbody hspawn hR' htied' hstep

/-- The rule for surroundings that keep what is expected in any step. -/
theorem Executes.tied {ties : Q → L → Prop}
    (hhandle : ∀ q s i o l x s', R q s → ties (q i) l → M.allows (q i) o →
      I.handle o (share.load l s) = some (x, s') →
        M.expects (q i) o x ∧ R (Function.update q i (M.next (q i) o x)) s' ∧
          ties (M.next (q i) o x) (share.save s'))
    (hbody : ∀ p q, M.pre p q → (I.body p).Safe M (M.post p q) q)
    (hspawn : ∀ o x (t : Thread S L), share.spawn o x = some t →
      t.program.Safe M (fun _ _ => True) fresh ∧ ties fresh t.locals)
    (hc : Monitored M fresh q c) (hR : R q c.state) (htied : Tied ties q c)
    (h : Executes I share P c es c') :
    Monitored M fresh (M.followAll q es) c' ∧ R (M.followAll q es) c'.state ∧
      Tied ties (M.followAll q es) c' :=
  h.tied_where (fun q c i o l x s' _ _ => hhandle q c.state i o l x s') hbody hspawn hc hR htied

/-- The rule for monitors that know nothing of the locals. -/
theorem Executes.monitored_where
    (hhandle : ∀ q (c : Threads S σ L) i o l x s', P c i → c.next i = some o → R q c.state →
      M.allows (q i) o → I.handle o (share.load l c.state) = some (x, s') →
        M.expects (q i) o x ∧ R (Function.update q i (M.next (q i) o x)) s')
    (hbody : ∀ p q, M.pre p q → (I.body p).Safe M (M.post p q) q)
    (hspawn : ∀ o x (t : Thread S L), share.spawn o x = some t →
      t.program.Safe M (fun _ _ => True) fresh)
    (hc : Monitored M fresh q c) (hR : R q c.state) (h : Executes I share P c es c') :
    Monitored M fresh (M.followAll q es) c' ∧ R (M.followAll q es) c'.state := by
  let ties : Q → L → Prop := fun _ _ => True
  have htied : Tied ties q c := fun _ _ _ => trivial
  obtain ⟨hmonitored, hR', _⟩ := h.tied_where
    (fun q c i o l x s' hP hnext hq _ hallowed hx => by
      obtain ⟨hexpected, hq'⟩ := hhandle q c i o l x s' hP hnext hq hallowed hx
      exact ⟨hexpected, hq', trivial⟩)
    hbody (fun o x t ht => ⟨hspawn o x t ht, trivial⟩) hc hR htied
  exact ⟨hmonitored, hR'⟩

theorem Executes.monitored
    (hhandle : ∀ q s i o l x s', R q s → M.allows (q i) o →
      I.handle o (share.load l s) = some (x, s') →
        M.expects (q i) o x ∧ R (Function.update q i (M.next (q i) o x)) s')
    (hbody : ∀ p q, M.pre p q → (I.body p).Safe M (M.post p q) q)
    (hspawn : ∀ o x (t : Thread S L), share.spawn o x = some t →
      t.program.Safe M (fun _ _ => True) fresh)
    (hc : Monitored M fresh q c) (hR : R q c.state) (h : Executes I share P c es c') :
    Monitored M fresh (M.followAll q es) c' ∧ R (M.followAll q es) c'.state :=
  h.monitored_where (fun q c i o l x s' _ _ => hhandle q c.state i o l x s') hbody hspawn hc hR

end Monitored

end Threads

end Interaction
