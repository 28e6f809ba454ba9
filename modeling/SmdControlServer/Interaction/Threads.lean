import Mathlib.Logic.Relation
import SmdControlServer.Interaction.Execution

/-!
# Threads

Several programs share one state.  A step lets one thread make its next request, or
go into a procedure that it calls; which thread that is, is up to the scheduler.
Each thread has some locals, which are put into the state while it runs, and a
request can start another thread.
-/

namespace Interaction

/-- A thread with what it has still to do. -/
structure Thread (S : Signature) (L : Type) where
  program : Program S Unit
  locals : L

/-- The threads and the state they share. -/
structure Threads (S : Signature) (σ L : Type) where
  threads : List (Thread S L)
  state : σ

/-- How the locals of the running thread are part of the state, and which requests
start a thread. -/
structure Sharing (S : Signature) (σ L : Type) where
  load : L → σ → σ
  save : σ → L
  spawn : (o : S.Request) → S.Answer o → Option (Thread S L)

namespace Threads

variable {S : Signature} {σ L : Type} (I : Interpretation S σ) (share : Sharing S σ L)

/-- The next request of a thread, if it is at one. -/
def next (c : Threads S σ L) (i : Nat) : Option S.Request :=
  match c.threads[i]? with
  | some ⟨.perform o _, _⟩ => some o
  | _ => none

/-- One step of the `i`-th thread. -/
def step (c : Threads S σ L) (i : Nat) : Option (Threads S σ L) :=
  match c.threads[i]? with
  | none => none
  | some ⟨.done _, _⟩ => none
  | some ⟨.perform o k, l⟩ =>
      (I.handle o (share.load l c.state)).map fun r =>
        { threads := c.threads.set i ⟨k r.1, share.save r.2⟩ ++ (share.spawn o r.1).toList
          state := r.2 }
  | some ⟨.call p k, l⟩ =>
      some { c with threads := c.threads.set i ⟨(I.body p).bind k, l⟩ }

/-- A step that the scheduler may take where `P` holds. -/
def Step (P : Threads S σ L → Nat → Prop) (c c' : Threads S σ L) : Prop :=
  ∃ i, P c i ∧ c.step I share i = some c'

/-- Any number of such steps. -/
def Steps (P : Threads S σ L → Nat → Prop) : Threads S σ L → Threads S σ L → Prop :=
  Relation.ReflTransGen (Step I share P)

variable {I share} {c c' : Threads S σ L} {i j : Nat}

/-- All that a step can do. -/
theorem step_cases (h : c.step I share i = some c') :
    (∃ o k l x s', c.threads[i]? = some ⟨.perform o k, l⟩ ∧
        I.handle o (share.load l c.state) = some (x, s') ∧
        c' = { threads := c.threads.set i ⟨k x, share.save s'⟩ ++ (share.spawn o x).toList
               state := s' }) ∨
      ∃ p k l, c.threads[i]? = some ⟨.call p k, l⟩ ∧
        c' = { c with threads := c.threads.set i ⟨(I.body p).bind k, l⟩ } := by
  unfold step at h
  split at h
  · cases h
  · cases h
  · rename_i o k l hthread
    obtain ⟨⟨x, s'⟩, hx, rfl⟩ := Option.map_eq_some_iff.mp h
    exact Or.inl ⟨o, k, l, x, s', hthread, hx, rfl⟩
  · rename_i p k l hthread
    cases h
    exact Or.inr ⟨p, k, l, hthread, rfl⟩

theorem next_of_perform {o : S.Request} {k : S.Answer o → Program S Unit} {l : L}
    (h : c.threads[i]? = some ⟨.perform o k, l⟩) : c.next i = some o := by
  unfold next
  rw [h]

/-- The threads after a step: the one that ran, the others, and a new one. -/
theorem getElem?_set_append {threads started : List (Thread S L)} {t t' : Thread S L}
    (h : (threads.set i t' ++ started)[j]? = some t) :
    (j = i ∧ t = t') ∨ (j ≠ i ∧ threads[j]? = some t) ∨ (threads.length ≤ j ∧ t ∈ started) := by
  rw [List.getElem?_append] at h
  split at h
  · rename_i hj
    rw [List.length_set] at hj
    by_cases hij : j = i
    · subst hij
      rw [List.getElem?_set_self hj] at h
      exact Or.inl ⟨rfl, (Option.some.inj h).symm⟩
    · rw [List.getElem?_set_ne (Ne.symm hij)] at h
      exact Or.inr (Or.inl ⟨hij, h⟩)
  · rename_i hj
    rw [List.length_set] at hj
    exact Or.inr (Or.inr ⟨Nat.le_of_not_lt hj, List.mem_of_getElem? h⟩)

/-- What holds at first and is kept by every step holds throughout. -/
theorem Steps.invariant {P : Threads S σ L → Nat → Prop} {inv : Threads S σ L → Prop}
    (hstep : ∀ c i c', inv c → P c i → c.step I share i = some c' → inv c')
    (hc : inv c) (h : Steps I share P c c') : inv c' := by
  induction h with
  | refl => exact hc
  | tail _ hlast ih =>
      obtain ⟨i, hP, hstep'⟩ := hlast
      exact hstep _ i _ ih hP hstep'

/-- The steps of a schedule, as long as each of them passes the test. -/
def scheduled (I : Interpretation S σ) (share : Sharing S σ L)
    (test : Threads S σ L → Nat → Bool) : List Nat → Threads S σ L → Option (Threads S σ L)
  | [], c => some c
  | i :: rest, c =>
      if test c i then (c.step I share i).bind (scheduled I share test rest) else none

theorem steps_of_scheduled {P : Threads S σ L → Nat → Prop}
    {test : Threads S σ L → Nat → Bool} (htest : ∀ c i, test c i = true → P c i)
    {schedule : List Nat} (h : scheduled I share test schedule c = some c') :
    Steps I share P c c' := by
  induction schedule generalizing c with
  | nil =>
      cases h
      exact .refl
  | cons i rest ih =>
      unfold scheduled at h
      split at h
      · rename_i hpassed
        obtain ⟨c₁, hstep, hrest⟩ := Option.bind_eq_some_iff.mp h
        exact .head ⟨i, htest c i hpassed, hstep⟩ (ih hrest)
      · cases h

end Threads

end Interaction
