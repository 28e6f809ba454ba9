import SmdControlServer.Interaction.Obedience
import SmdControlServer.Interaction.Shares

/-!
# Budgets

What a monitor knows of a thread can limit how often the thread will do something.  If each
allowed request costs no more than it takes off a budget, a thread never spends more than
the budget that it began with.
-/

namespace Interaction

variable {S : Signature} {σ L Q : Type} {I : Interpretation S σ} {share : Sharing S σ L}
  {M : Monitor S Q} {fresh : Q} {R : (Nat → Q) → σ → Prop} {q : Nat → Q}
  {budget : Q → Nat} {spends : Entry S → Bool}

/-- The entries of a trace are added by their threads. -/
theorem addedByThreads_entries : AddedByThreads fun es : List (Entry S) => es where
  nil := rfl
  append _ e := ⟨[e], rfl, rfl⟩

namespace Threads

variable {P : Threads S σ L → Nat → Prop} {c c' : Threads S σ L} {es : List (Entry S)}

/-- A thread spends no more than its budget, whatever the other threads do meanwhile. -/
theorem Executes.countP_add_budget_le
    (hhandle : ∀ q (c : Threads S σ L) i o l x s', P c i → c.next i = some o → R q c.state →
      M.allows (q i) o → I.handle o (share.load l c.state) = some (x, s') →
        M.expects (q i) o x ∧ R (Function.update q i (M.next (q i) o x)) s' ∧
          (if spends ⟨i, o, x⟩ then 1 else 0) + budget (M.next (q i) o x) ≤ budget (q i))
    (hbody : ∀ p q, M.pre p q → (I.body p).Safe M (M.post p q) q)
    (hspawn : ∀ o x (t : Thread S L), share.spawn o x = some t →
      t.program.Safe M (fun _ _ => True) fresh)
    (hc : Monitored M fresh q c) (hR : R q c.state) (h : Executes I share P c es c') (i : Nat) :
    (ownEntries i es).countP spends + budget (M.followAll q es i) ≤ budget (q i) := by
  refine h.induct_requests (motive := fun es _ =>
    (ownEntries i es).countP spends + budget (M.followAll q es i) ≤ budget (q i)) ?_ ?_
  · simp [ownEntries]
  · intro es c₁ j o k l x s' h hP hthread hx ih
    obtain ⟨hmonitored, hR'⟩ := h.monitored_where
      (fun q c i o l x s' hP hnext hq hallowed hx =>
        ⟨(hhandle q c i o l x s' hP hnext hq hallowed hx).1,
          (hhandle q c i o l x s' hP hnext hq hallowed hx).2.1⟩)
      hbody hspawn hc hR
    have hnext := next_of_perform hthread
    obtain ⟨_, _, hpaid⟩ := hhandle _ c₁ j o l x s' hP hnext hR' (hmonitored.allows hnext) hx
    rw [Monitor.followAll_append_singleton]
    by_cases hij : j = i
    · subst hij
      have hown : ownEntries j (es ++ [⟨j, o, x⟩]) = ownEntries j es ++ [⟨j, o, x⟩] :=
        ownEntries_append_self es ⟨j, o, x⟩
      rw [hown, List.countP_append, List.countP_singleton, Function.update_self]
      show _ + _ + budget (M.next (M.followAll q es j) o x) ≤ _
      omega
    · rw [ownEntries_append_of_ne hij, Function.update_of_ne (Ne.symm hij)]
      exact ih

end Threads

end Interaction
