import SmdControlServer.Interaction.Traces

/-!
# Threads that cannot go on

A thread that makes no step is at its end, or at a request that the surroundings do not
answer.  What a program keeps from request to request, and when a call is replaced by the
body of the procedure, is kept by a thread throughout an execution.
-/

namespace Interaction.Threads

variable {S : Signature} {σ L : Type} {I : Interpretation S σ} {share : Sharing S σ L}
  {P : Threads S σ L → Nat → Prop} {c c' : Threads S σ L} {es : List (Entry S)} {i : Nat}

/-- The two ways for a thread to make no step. -/
theorem step_eq_none_cases {t : Thread S L} (ht : c.threads[i]? = some t)
    (h : c.step I share i = none) :
    (∃ a, t.program = .done a) ∨
      ∃ o, c.next i = some o ∧ I.handle o (share.load t.locals c.state) = none := by
  obtain ⟨program, l⟩ := t
  unfold step at h
  rw [ht] at h
  cases program with
  | done a => exact Or.inl ⟨a, rfl⟩
  | perform o k => exact Or.inr ⟨o, next_of_perform ht, Option.map_eq_none_iff.mp h⟩
  | call p k => cases h

/-- No thread is forgotten. -/
theorem length_le_of_step (h : c.step I share i = some c') :
    c.threads.length ≤ c'.threads.length := by
  rcases step_cases h with ⟨o, k, l, x, s', _, _, rfl⟩ | ⟨p, k, l, _, rfl⟩
  · simp
  · simp

/-- Where no request starts a thread, there are the same threads throughout. -/
theorem Executes.length_eq (hspawn : ∀ o x, share.spawn o x = none)
    (h : Executes I share P c es c') : c'.threads.length = c.threads.length := by
  induction h with
  | refl => rfl
  | step _ _ hstep ih =>
      rw [← ih]
      rcases step_cases hstep with ⟨o, k, l, x, s', _, _, rfl⟩ | ⟨p, k, l, _, rfl⟩
      · simp [hspawn o x]
      · simp

/-- A step keeps what every request and every call keep. -/
theorem step_keeps {keep : Program S Unit → Prop}
    (hperform : ∀ o (k : S.Answer o → Program S Unit) x, keep (.perform o k) → keep (k x))
    (hcall : ∀ p (k : S.Result p → Program S Unit), keep (.call p k) → keep ((I.body p).bind k))
    {j : Nat} {t t' : Thread S L} (ht : c.threads[i]? = some t) (hkeep : keep t.program)
    (h : c.step I share j = some c') (ht' : c'.threads[i]? = some t') : keep t'.program := by
  have hlt : i < c.threads.length := (List.getElem?_eq_some_iff.mp ht).1
  rcases step_cases h with ⟨o, k, l, x, s', hthread, _, rfl⟩ | ⟨p, k, l, hthread, rfl⟩
  · rcases getElem?_set_append ht' with ⟨rfl, rfl⟩ | ⟨_, hother⟩ | ⟨hlength, _⟩
    · rw [ht] at hthread
      cases hthread
      exact hperform o k x hkeep
    · rw [ht] at hother
      cases hother
      exact hkeep
    -- a thread that is started has a new number
    · omega
  · by_cases hij : i = j
    · subst hij
      rw [List.getElem?_set_self hlt] at ht'
      rw [ht] at hthread
      cases hthread
      cases ht'
      exact hcall p k hkeep
    · rw [List.getElem?_set_ne (Ne.symm hij), ht] at ht'
      cases ht'
      exact hkeep

/-- So does an execution. -/
theorem Executes.keeps {keep : Program S Unit → Prop}
    (hperform : ∀ o (k : S.Answer o → Program S Unit) x, keep (.perform o k) → keep (k x))
    (hcall : ∀ p (k : S.Result p → Program S Unit), keep (.call p k) → keep ((I.body p).bind k))
    {t : Thread S L} (ht : c.threads[i]? = some t) (hkeep : keep t.program)
    (h : Executes I share P c es c') :
    ∃ t', c'.threads[i]? = some t' ∧ keep t'.program := by
  induction h with
  | refl => exact ⟨t, ht, hkeep⟩
  | step _ _ hstep ih =>
      obtain ⟨t₁, ht₁, hkeep₁⟩ := ih
      have hlt := (List.getElem?_eq_some_iff.mp ht₁).1
      have hlength := length_le_of_step hstep
      have hsome := List.getElem?_eq_getElem (Nat.lt_of_lt_of_le hlt hlength)
      exact ⟨_, hsome, step_keeps hperform hcall ht₁ hkeep₁ hstep hsome⟩

end Interaction.Threads
