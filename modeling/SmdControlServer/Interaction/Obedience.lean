import SmdControlServer.Interaction.Traces

/-!
# Obedient threads

If the programs of all threads obey a policy, and so do the procedures that they call and
the threads that they start, and if the surroundings give the answers that the policy
expects, then every request of an execution is one that the policy allows.
-/

namespace Interaction

variable {S : Signature} {σ L : Type} {I : Interpretation S σ} {share : Sharing S σ L}
  {policy : Policy S}

/-- A monitor that sees nothing but the policy. -/
def Policy.monitor (policy : Policy S) : Monitor S Unit where
  allows _ o := policy.allows o
  expects _ o x := policy.expects o x
  next q _ _ := q
  pre p _ := policy.calls p
  post _ _ _ _ := True

/-- What two policies allow. -/
def Policy.and (policy policy' : Policy S) : Policy S where
  allows o := policy.allows o ∧ policy'.allows o
  expects o x := policy.expects o x ∧ policy'.expects o x
  calls p := policy.calls p ∧ policy'.calls p

theorem Program.Obeys.and {policy' : Policy S} {α : Type} {p : Program S α}
    (h : p.Obeys policy) (h' : p.Obeys policy') : p.Obeys (policy.and policy') := by
  induction p with
  | done a => trivial
  | perform o k ih => exact ⟨⟨h.1, h'.1⟩, fun x hx => ih x (h.2 x hx.1) (h'.2 x hx.2)⟩
  | call p k ih => exact ⟨⟨h.1, h'.1⟩, fun x => ih x (h.2 x) (h'.2 x)⟩

theorem Program.Obeys.monitored {α : Type} {p : Program S α} (h : p.Obeys policy) (q : Unit) :
    p.Safe policy.monitor (fun _ _ => True) q := by
  refine Program.Obeys.safe ?_ ?_ h trivial
  · intro o ho q hq
    exact ⟨ho, fun _ hx => ⟨hx, hq⟩⟩
  · intro p hp q hq
    exact ⟨hp, fun _ _ _ => hq⟩

namespace Threads

variable {P : Threads S σ L → Nat → Prop} {c c' : Threads S σ L} {es : List (Entry S)}

/-- Induction over the requests of an execution.  The steps that only go into a procedure
change nothing that is seen of it. -/
theorem Executes.induct_requests {motive : List (Entry S) → σ → Prop} (hstart : motive [] c.state)
    (hrequest : ∀ {es c₁ i o k l x s'}, Executes I share P c es c₁ → P c₁ i →
      c₁.threads[i]? = some ⟨.perform o k, l⟩ →
        I.handle o (share.load l c₁.state) = some (x, s') →
          motive es c₁.state → motive (es ++ [⟨i, o, x⟩]) s')
    (h : Executes I share P c es c') : motive es c'.state := by
  induction h with
  | refl => exact hstart
  | @step es c₁ c₂ i h hP hstep ih =>
      rcases step_cases hstep with ⟨o, k, l, x, s', hthread, hx, rfl⟩ | ⟨p, k, l, hthread, rfl⟩
      · rw [performed_of_perform hthread hx, Option.toList_some]
        exact hrequest h hP hthread hx ih
      · rw [performed_of_call hthread, Option.toList_none, List.append_nil]
        exact ih

/-- Before each of its requests an execution was one that had come to this request. -/
theorem Executes.before (h : Executes I share P c es c') {before after : List (Entry S)}
    {e : Entry S} (hes : es = before ++ e :: after) :
    ∃ c₁ k l, Executes I share P c before c₁ ∧ P c₁ e.thread ∧
      c₁.threads[e.thread]? = some ⟨.perform e.request k, l⟩ := by
  refine h.induct_requests (motive := fun es _ => ∀ before e after, es = before ++ e :: after →
    ∃ c₁ k l, Executes I share P c before c₁ ∧ P c₁ e.thread ∧
      c₁.threads[e.thread]? = some ⟨.perform e.request k, l⟩) ?_ ?_ before e after hes
  · intro before e after hes
    simp at hes
  · intro es c₁ i o k l x s' h hP hthread _ ih before e after hes
    cases after using List.reverseRecOn with
    | nil =>
        obtain ⟨rfl, hlast⟩ := List.append_inj' hes rfl
        obtain rfl := List.singleton_inj.mp hlast
        exact ⟨c₁, k, l, h, hP, hthread⟩
    | append_singleton after last _ =>
        have hsplit : es ++ [⟨i, o, x⟩] = (before ++ e :: after) ++ [last] := by
          rw [hes, List.append_assoc, List.cons_append]
        exact ih before e after (List.append_inj' hsplit rfl).1

/-- Every request of obedient threads is allowed. -/
theorem Executes.obedient
    (hexpects : ∀ o s l x s', I.handle o (share.load l s) = some (x, s') → policy.expects o x)
    (hbody : ∀ p, policy.calls p → (I.body p).Obeys policy)
    (hspawn : ∀ o x (t : Thread S L), share.spawn o x = some t → t.program.Obeys policy)
    (hc : ∀ (i : Nat) (t : Thread S L), c.threads[i]? = some t → t.program.Obeys policy)
    (h : Executes I share P c es c') : ∀ e ∈ es, policy.allows e.request := by
  have hmonitored : ∀ {es c'}, Executes I share P c es c' →
      Monitored policy.monitor () (policy.monitor.followAll (fun _ => ()) es) c' := by
    intro es c' h
    have hsafe : Monitored policy.monitor () (fun _ => ()) c :=
      ⟨fun i t ht => (hc i t ht).monitored (), fun _ _ => rfl⟩
    exact (h.monitored (R := fun _ _ => True)
      (fun _ s _ o l x s' _ _ hx => ⟨hexpects o s l x s' hx, trivial⟩)
      (fun p q hp => (hbody p hp).monitored q) (fun o x t ht => (hspawn o x t ht).monitored ())
      hsafe trivial).1
  intro e he
  obtain ⟨before, after, hes⟩ := List.append_of_mem he
  obtain ⟨c₁, k, l, hbefore, _, hthread⟩ := h.before hes
  exact (hmonitored hbefore).allows (next_of_perform hthread)

end Threads

end Interaction
