import Mathlib.Algebra.BigOperators.Group.Finset.Piecewise
import Mathlib.Algebra.Order.BigOperators.Group.Finset
import SmdControlServer.Interaction.Traces

/-!
# What each thread adds

Something that grows along a trace, where what an entry adds depends only on the thread
that makes it and on what that thread has done before.  Then whatever is counted in it is
the sum of what is counted for the threads, so a bound for every thread on its own is one
for all of them together, in any interleaving.
-/

namespace Interaction

variable {S : Signature} {X Y : Type} {f : List (Entry S) → List X} {g : List (Entry S) → List Y}
  {es : List (Entry S)}

/-- An entry adds for the whole trace what it adds for its own thread. -/
structure AddedByThreads (f : List (Entry S) → List X) : Prop where
  nil : f [] = []
  append : ∀ es e, ∃ added, f (es ++ [e]) = f es ++ added ∧
    f (ownEntries e.thread es ++ [e]) = f (ownEntries e.thread es) ++ added

theorem AddedByThreads.flatMap (hf : AddedByThreads f) (k : X → List Y) :
    AddedByThreads fun es => (f es).flatMap k where
  nil := by rw [hf.nil, List.flatMap_nil]
  append es e := by
    obtain ⟨added, hall, hown⟩ := hf.append es e
    exact ⟨added.flatMap k, by rw [hall, List.flatMap_append],
      by rw [hown, List.flatMap_append]⟩

theorem AddedByThreads.filterMap (hf : AddedByThreads f) (k : X → Option Y) :
    AddedByThreads fun es => (f es).filterMap k where
  nil := by rw [hf.nil, List.filterMap_nil]
  append es e := by
    obtain ⟨added, hall, hown⟩ := hf.append es e
    exact ⟨added.filterMap k, by rw [hall, List.filterMap_append],
      by rw [hown, List.filterMap_append]⟩

/-- The threads that have an entry. -/
def threadsOf (es : List (Entry S)) : Finset Nat :=
  (es.map Entry.thread).toFinset

theorem AddedByThreads.countP_eq_sum (hf : AddedByThreads f) (p : X → Bool) {threads : Finset Nat}
    (h : ∀ e ∈ es, e.thread ∈ threads) :
    (f es).countP p = ∑ i ∈ threads, (f (ownEntries i es)).countP p := by
  induction es using List.reverseRecOn with
  | nil =>
      have hnone : ∀ i ∈ threads, (f (ownEntries i [])).countP p = 0 := by
        intro i _
        show (f []).countP p = 0
        rw [hf.nil, List.countP_nil]
      rw [hf.nil, List.countP_nil, Finset.sum_eq_zero hnone]
  | append_singleton es e ih =>
      obtain ⟨added, hall, hown⟩ := hf.append es e
      have hbefore := ih fun e' he' => h e' (List.mem_append_left _ he')
      have hthread : e.thread ∈ threads := h e (List.mem_append_right _ List.mem_cons_self)
      -- only the sum of the thread that makes the entry grows
      have hterm : ∀ i, (f (ownEntries i (es ++ [e]))).countP p =
          (f (ownEntries i es)).countP p + if i = e.thread then added.countP p else 0 := by
        intro i
        by_cases hi : i = e.thread
        · rw [hi, ownEntries_append_self, hown, List.countP_append, if_pos rfl]
        · rw [ownEntries_append_of_ne (Ne.symm hi), if_neg hi, Nat.add_zero]
      rw [hall, List.countP_append, hbefore, Finset.sum_congr rfl fun i _ => hterm i,
        Finset.sum_add_distrib, Finset.sum_ite_eq' threads e.thread, if_pos hthread]

/-- A bound for every thread is one for all of them. -/
theorem AddedByThreads.countP_le (hf : AddedByThreads f) (hg : AddedByThreads g)
    {p : X → Bool} {p' : Y → Bool}
    (h : ∀ i, (f (ownEntries i es)).countP p ≤ (g (ownEntries i es)).countP p') :
    (f es).countP p ≤ (g es).countP p' := by
  have hthreads : ∀ e ∈ es, e.thread ∈ threadsOf es := fun e he =>
    List.mem_toFinset.mpr (List.mem_map_of_mem he)
  rw [hf.countP_eq_sum p hthreads, hg.countP_eq_sum p' hthreads]
  exact Finset.sum_le_sum fun i _ => h i

end Interaction
