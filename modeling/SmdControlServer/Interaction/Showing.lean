import SmdControlServer.Interaction.Execution

/-!
# What a run shows

Some requests are seen from outside, as elements of a list that grows along the run.
`Shows` is a run together with what is seen of it.  Lists are appended where programs
are put one after the other, and code that only makes requests that are not seen shows
nothing and runs as it does without an onlooker.
-/

namespace Interaction

variable {S : Signature} {σ α β γ : Type}

/-- The interpretation that keeps a list of what is seen. -/
def Interpretation.showing (I : Interpretation S σ) (seen : S.Request → Option γ) :
    Interpretation S (σ × List γ) where
  handle o s := (I.handle o s.1).map fun r => (r.1, r.2, s.2 ++ (seen o).toList)
  body := I.body

/-- `p` started in `s` ends in `s'` with the result `a`, and `xs` is what is seen. -/
def Shows (I : Interpretation S σ) (seen : S.Request → Option γ) (p : Program S α) (s : σ)
    (a : α) (s' : σ) (xs : List γ) : Prop :=
  Runs (I.showing seen) p (s, []) a (s', xs)

variable {I : Interpretation S σ} {seen : S.Request → Option γ}

theorem handle_showing_iff {o : S.Request} {s : σ} {xs : List γ} {x : S.Answer o}
    {s' : σ × List γ} :
    (I.showing seen).handle o (s, xs) = some (x, s') ↔
      I.handle o s = some (x, s'.1) ∧ s'.2 = xs ++ (seen o).toList := by
  obtain ⟨s', xs'⟩ := s'
  unfold Interpretation.showing
  simp only [Option.map_eq_some_iff, Prod.exists, Prod.mk.injEq]
  constructor
  · rintro ⟨y, s₁, h, rfl, rfl, rfl⟩
    exact ⟨h, rfl⟩
  · rintro ⟨h, rfl⟩
    exact ⟨x, s', h, rfl, rfl, rfl⟩

/-- What has been seen before makes no difference. -/
theorem runs_showing_iff {p : Program S α} {s s' : σ} {a : α} {xs ys : List γ} :
    Runs (I.showing seen) p (s, xs) a (s', ys) ↔
      ∃ zs, ys = xs ++ zs ∧ Shows I seen p s a s' zs := by
  constructor
  · intro h
    -- a list in front of the two makes no difference to the run
    obtain ⟨⟨s₁, zs⟩, hrun, hstate, hlist⟩ := Runs.of_related
      (R := fun (s t : σ × List γ) => s.1 = t.1 ∧ s.2 = xs ++ t.2)
      (fun o s t x s₁ hst hs => by
        obtain ⟨hs, hseen⟩ := handle_showing_iff.mp hs
        rw [hst.1] at hs
        refine ⟨(s₁.1, t.2 ++ (seen o).toList), handle_showing_iff.mpr ⟨hs, rfl⟩, rfl, ?_⟩
        rw [hseen, hst.2, List.append_assoc])
      h (t := (s, [])) ⟨rfl, (List.append_nil xs).symm⟩
    cases (hstate : s' = s₁)
    exact ⟨zs, hlist, hrun⟩
  · rintro ⟨zs, rfl, h⟩
    obtain ⟨⟨s₁, ys⟩, hrun, hstate, hlist⟩ := Runs.of_related
      (R := fun (s t : σ × List γ) => t.1 = s.1 ∧ t.2 = xs ++ s.2)
      (fun o s t x s₁ hst hs => by
        obtain ⟨hs, hseen⟩ := handle_showing_iff.mp hs
        rw [← hst.1] at hs
        refine ⟨(s₁.1, t.2 ++ (seen o).toList), handle_showing_iff.mpr ⟨hs, rfl⟩, rfl, ?_⟩
        rw [hseen, hst.2, List.append_assoc])
      h (t := (s, xs)) ⟨rfl, (List.append_nil xs).symm⟩
    cases (hstate : s₁ = s')
    cases (hlist : ys = xs ++ zs)
    exact hrun

@[simp] theorem shows_done_iff {a b : α} {s s' : σ} {xs : List γ} :
    Shows I seen (.done a : Program S α) s b s' xs ↔ b = a ∧ s' = s ∧ xs = [] := by
  unfold Shows
  rw [runs_done_iff, Prod.mk.injEq]

/-- Sequencing: one list behind the other. -/
theorem shows_bind_iff {p : Program S α} {f : α → Program S β} {s s' : σ} {b : β}
    {xs : List γ} :
    Shows I seen (p.bind f) s b s' xs ↔
      ∃ a s₁ ys zs, Shows I seen p s a s₁ ys ∧ Shows I seen (f a) s₁ b s' zs ∧ xs = ys ++ zs := by
  unfold Shows
  rw [runs_bind_iff]
  constructor
  · rintro ⟨a, ⟨s₁, ys⟩, hp, hf⟩
    obtain ⟨zs, hxs, hrest⟩ := runs_showing_iff.mp hf
    exact ⟨a, s₁, ys, zs, hp, hrest, hxs⟩
  · rintro ⟨a, s₁, ys, zs, hp, hf, rfl⟩
    exact ⟨a, (s₁, ys), hp, runs_showing_iff.mpr ⟨zs, rfl, hf⟩⟩

/-- A request with a known answer is a step of the state. -/
theorem shows_perform_of_handle {o : S.Request} {k : S.Answer o → Program S α} {s s₁ s' : σ}
    {x : S.Answer o} {a : α} {xs : List γ} (h : I.handle o s = some (x, s₁)) :
    Shows I seen (.perform o k) s a s' xs ↔
      ∃ ys, xs = (seen o).toList ++ ys ∧ Shows I seen (k x) s₁ a s' ys := by
  have hstep : (I.showing seen).handle o (s, []) = some (x, s₁, (seen o).toList) :=
    handle_showing_iff.mpr ⟨h, rfl⟩
  unfold Shows
  rw [runs_perform_of_handle hstep, runs_showing_iff]
  rfl

theorem Shows.unique {p : Program S α} {s s₁ s₂ : σ} {a₁ a₂ : α} {xs₁ xs₂ : List γ}
    (h₁ : Shows I seen p s a₁ s₁ xs₁) (h₂ : Shows I seen p s a₂ s₂ xs₂) :
    a₁ = a₂ ∧ s₁ = s₂ ∧ xs₁ = xs₂ := by
  obtain ⟨ha, hs⟩ := Runs.unique h₁ h₂
  exact ⟨ha, Prod.mk.inj hs⟩

/-- A run is a run whether it is looked at or not. -/
theorem Shows.runs {p : Program S α} {s s' : σ} {a : α} {xs : List γ}
    (h : Shows I seen p s a s' xs) : Runs I p s a s' := by
  have key := Runs.induct (I := I.showing seen)
    (motive := fun p s a s' => Runs I p s.1 a s'.1)
    (fun a s => runs_done_iff.mpr ⟨rfl, rfl⟩)
    (fun o k s x s₁ a s' hx ih =>
      runs_perform_iff.mpr ⟨x, s₁.1, (handle_showing_iff.mp hx).1, ih⟩)
    (fun q k s a s' ih => runs_call_iff.mpr ih)
    h
  exact key

theorem Runs.exists_shows {p : Program S α} {s s' : σ} {a : α} (h : Runs I p s a s') :
    ∃ xs, Shows I seen p s a s' xs := by
  have key := Runs.induct
    (motive := fun p s a s' => ∃ xs, Shows I seen p s a s' xs)
    (fun a s => ⟨[], shows_done_iff.mpr ⟨rfl, rfl, rfl⟩⟩)
    (fun o k s x s₁ a s' hx ih => by
      obtain ⟨xs, hk⟩ := ih
      exact ⟨_, (shows_perform_of_handle hx).mpr ⟨xs, rfl, hk⟩⟩)
    (fun q k s a s' ih => by
      obtain ⟨xs, hk⟩ := ih
      exact ⟨xs, runs_call_iff.mpr hk⟩)
    h
  exact key

/-- Code shows nothing whose requests are not seen. -/
theorem shows_of_obeys {calls : S.Procedure → Prop}
    (hbody : ∀ q, calls q → (I.body q).Obeys (Policy.only (fun o => seen o = none) calls))
    {p : Program S α} (hp : p.Obeys (Policy.only (fun o => seen o = none) calls)) {s s' : σ}
    {a : α} {xs : List γ} : Shows I seen p s a s' xs ↔ Runs I p s a s' ∧ xs = [] := by
  let inv : σ × List γ → Prop := fun s => s.2 = []
  have hnil : ∀ ys, Shows I seen p s a s' ys → inv (s', ys) := fun ys h =>
    Runs.invariant
      (fun o ho s x s₁ hs hx => by
        have hseen : seen o = none := ho
        have hbefore : s.2 = [] := hs
        obtain ⟨_, hlist⟩ := handle_showing_iff.mp hx
        rw [hbefore, hseen] at hlist
        exact ⟨trivial, hlist⟩)
      hbody hp (show inv (s, []) from rfl) h
  constructor
  · intro h
    exact ⟨h.runs, hnil xs h⟩
  · rintro ⟨hrun, rfl⟩
    obtain ⟨ys, h⟩ : ∃ ys, Shows I seen p s a s' ys := hrun.exists_shows
    have hys : ys = [] := hnil ys h
    rwa [hys] at h

/-! ## Code that ends -/

/-- From `s` the code ends, with such a result, and shows `xs`. -/
def EndsShowing (I : Interpretation S σ) (seen : S.Request → Option γ) (p : Program S α)
    (s : σ) (xs : List γ) (Q : α → Prop) : Prop :=
  ∃ a s', Shows I seen p s a s' xs ∧ Q a

/-- From every state the code ends, with such a result, and shows nothing. -/
def EndsUnseen (I : Interpretation S σ) (seen : S.Request → Option γ) (p : Program S α)
    (Q : α → Prop) : Prop :=
  ∀ s, EndsShowing I seen p s [] Q

section Ends

variable {Q : α → Prop} {Q' : β → Prop} {s : σ}

theorem endsShowing_done {a : α} (h : Q a) :
    EndsShowing I seen (.done a : Program S α) s [] Q :=
  ⟨a, s, shows_done_iff.mpr ⟨rfl, rfl, rfl⟩, h⟩

theorem endsShowing_perform {o : S.Request} {k : S.Answer o → Program S α} {x : S.Answer o}
    {s₁ : σ} {xs : List γ} (hx : I.handle o s = some (x, s₁))
    (hk : EndsShowing I seen (k x) s₁ xs Q) :
    EndsShowing I seen (.perform o k) s ((seen o).toList ++ xs) Q := by
  obtain ⟨a, s', hshows, ha⟩ := hk
  exact ⟨a, s', (shows_perform_of_handle hx).mpr ⟨xs, rfl, hshows⟩, ha⟩

/-- A request that is not seen. -/
theorem endsShowing_unseen {o : S.Request} {k : S.Answer o → Program S α} {x : S.Answer o}
    {s₁ : σ} {xs : List γ} (hx : I.handle o s = some (x, s₁)) (hseen : seen o = none)
    (hk : EndsShowing I seen (k x) s₁ xs Q) : EndsShowing I seen (.perform o k) s xs Q := by
  have h := endsShowing_perform hx hk
  rw [hseen] at h
  exact h

theorem endsShowing_ite {c : Prop} [Decidable c] {p q : Program S α} {xs : List γ}
    (hp : EndsShowing I seen p s xs Q) (hq : EndsShowing I seen q s xs Q) :
    EndsShowing I seen (if c then p else q) s xs Q := by
  split
  · exact hp
  · exact hq

/-- Sequencing: whatever the first part comes to, the second shows `ys`. -/
theorem EndsShowing.bind {p : Program S α} {f : α → Program S β} {xs ys : List γ}
    (hp : EndsShowing I seen p s xs Q)
    (hf : ∀ a, Q a → ∀ s₁, EndsShowing I seen (f a) s₁ ys Q') :
    EndsShowing I seen (p.bind f) s (xs ++ ys) Q' := by
  obtain ⟨a, s₁, hshows, ha⟩ := hp
  obtain ⟨b, s', hshows', hb⟩ := hf a ha s₁
  exact ⟨b, s', shows_bind_iff.mpr ⟨a, s₁, xs, ys, hshows, hshows', rfl⟩, hb⟩

theorem EndsUnseen.bind {p : Program S α} {f : α → Program S β} (hp : EndsUnseen I seen p Q)
    (hf : ∀ a, Q a → EndsUnseen I seen (f a) Q') : EndsUnseen I seen (p.bind f) Q' :=
  fun s => EndsShowing.bind (hp s) hf

theorem endsUnseen_perform {o : S.Request} {k : S.Answer o → Program S α}
    (hseen : seen o = none) (hanswer : ∀ s, ∃ x s₁, I.handle o s = some (x, s₁))
    (hk : ∀ x, EndsUnseen I seen (k x) Q) : EndsUnseen I seen (.perform o k) Q := by
  intro s
  obtain ⟨x, s₁, hx⟩ := hanswer s
  exact endsShowing_unseen hx hseen (hk x s₁)

end Ends

end Interaction
