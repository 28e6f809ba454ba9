import SmdControlServer.Interaction.Program

/-!
# Running a program to its end

An interpretation answers the requests from a state and gives the procedures
their bodies.  `eval depth` runs a program and unfolds at most `depth` nested
procedure calls; `Runs` is a run of any depth.  A run that never ends, or that
makes a request the interpretation refuses, has no `Runs`.

The rules `runs_done_iff`, `runs_perform_iff`, `runs_call_iff` and
`runs_bind_iff` take a run apart along the program.  `Runs.invariant` carries an
invariant through all the requests of a program that obeys a policy, and
`Runs.of_related` is the simulation rule between two states.
-/

namespace Interaction

/-- Answers for the requests and bodies for the procedures. -/
structure Interpretation (S : Signature) (σ : Type) where
  handle : (o : S.Request) → σ → Option (S.Answer o × σ)
  body : (p : S.Procedure) → Program S (S.Result p)

variable {S : Signature} {σ α β : Type} (I : Interpretation S σ)

/-- Run a program, leaving what happens at a call to `onCall`. -/
def evalWith (onCall : Program S α → σ → Option (α × σ)) :
    Program S α → σ → Option (α × σ)
  | .done a, s => some (a, s)
  | .perform o k, s => (I.handle o s).bind fun r => evalWith onCall (k r.1) r.2
  | .call p k, s => onCall ((I.body p).bind k) s

/-- Run a program through at most `depth` unfolded calls. -/
def eval : Nat → Program S α → σ → Option (α × σ)
  | 0 => evalWith I fun _ _ => none
  | depth + 1 => evalWith I (eval depth)

/-- `p` started in `s` ends in `s'` with the result `a`. -/
def Runs (p : Program S α) (s : σ) (a : α) (s' : σ) : Prop :=
  ∃ depth, eval I depth p s = some (a, s')

@[simp] theorem eval_done (depth : Nat) (a : α) (s : σ) :
    eval I depth (.done a) s = some (a, s) := by
  cases depth <;> rfl

@[simp] theorem eval_perform (depth : Nat) (o : S.Request)
    (k : S.Answer o → Program S α) (s : σ) :
    eval I depth (.perform o k) s =
      (I.handle o s).bind fun r => eval I depth (k r.1) r.2 := by
  cases depth <;> rfl

@[simp] theorem eval_zero_call (p : S.Procedure)
    (k : S.Result p → Program S α) (s : σ) :
    eval I 0 (.call p k) s = none := rfl

@[simp] theorem eval_succ_call (depth : Nat) (p : S.Procedure)
    (k : S.Result p → Program S α) (s : σ) :
    eval I (depth + 1) (.call p k) s = eval I depth ((I.body p).bind k) s := rfl

variable {I}

theorem eval_succ {depth : Nat} {p : Program S α} {s : σ} {r : α × σ}
    (h : eval I depth p s = some r) : eval I (depth + 1) p s = some r := by
  induction depth generalizing p s with
  | zero =>
      induction p generalizing s with
      | done a => simpa using h
      | perform o k ih =>
          rw [eval_perform, Option.bind_eq_some_iff] at h ⊢
          obtain ⟨x, hx, hk⟩ := h
          exact ⟨x, hx, ih x.1 hk⟩
      | call q k ih => simp at h
  | succ depth ihDepth =>
      induction p generalizing s with
      | done a => simpa using h
      | perform o k ih =>
          rw [eval_perform, Option.bind_eq_some_iff] at h ⊢
          obtain ⟨x, hx, hk⟩ := h
          exact ⟨x, hx, ih x.1 hk⟩
      | call q k ih =>
          rw [eval_succ_call] at h ⊢
          exact ihDepth h

theorem eval_mono {depth depth' : Nat} (hle : depth ≤ depth') {p : Program S α}
    {s : σ} {r : α × σ} (h : eval I depth p s = some r) :
    eval I depth' p s = some r := by
  induction hle with
  | refl => exact h
  | step _ ih => exact eval_succ ih

/-- A run has one result. -/
theorem Runs.unique {p : Program S α} {s s₁ s₂ : σ} {a₁ a₂ : α}
    (h₁ : Runs I p s a₁ s₁) (h₂ : Runs I p s a₂ s₂) : a₁ = a₂ ∧ s₁ = s₂ := by
  obtain ⟨n₁, h₁⟩ := h₁
  obtain ⟨n₂, h₂⟩ := h₂
  have h₁' := eval_mono (Nat.le_max_left n₁ n₂) h₁
  have h₂' := eval_mono (Nat.le_max_right n₁ n₂) h₂
  rw [h₁'] at h₂'
  simpa using h₂'

@[simp] theorem runs_done_iff {a b : α} {s s' : σ} :
    Runs I (.done a) s b s' ↔ b = a ∧ s' = s := by
  constructor
  · rintro ⟨depth, h⟩
    rw [eval_done] at h
    obtain ⟨rfl, rfl⟩ := Prod.mk.inj (Option.some.inj h)
    exact ⟨rfl, rfl⟩
  · rintro ⟨rfl, rfl⟩
    exact ⟨0, eval_done I 0 _ _⟩

theorem runs_perform_iff {o : S.Request} {k : S.Answer o → Program S α}
    {s s' : σ} {a : α} :
    Runs I (.perform o k) s a s' ↔
      ∃ x s₁, I.handle o s = some (x, s₁) ∧ Runs I (k x) s₁ a s' := by
  constructor
  · rintro ⟨depth, h⟩
    rw [eval_perform, Option.bind_eq_some_iff] at h
    obtain ⟨⟨x, s₁⟩, hx, hk⟩ := h
    exact ⟨x, s₁, hx, depth, hk⟩
  · rintro ⟨x, s₁, hx, depth, hk⟩
    refine ⟨depth, ?_⟩
    rw [eval_perform, hx]
    exact hk

/-- A request with a known answer is a step of the state. -/
theorem runs_perform_of_handle {o : S.Request} {k : S.Answer o → Program S α}
    {s s₁ s' : σ} {x : S.Answer o} {a : α} (h : I.handle o s = some (x, s₁)) :
    Runs I (.perform o k) s a s' ↔ Runs I (k x) s₁ a s' := by
  rw [runs_perform_iff]
  constructor
  · rintro ⟨y, s₂, hy, hrun⟩
    rw [h] at hy
    obtain ⟨rfl, rfl⟩ := Prod.mk.inj (Option.some.inj hy)
    exact hrun
  · intro hrun
    exact ⟨x, s₁, h, hrun⟩

theorem runs_call_iff {q : S.Procedure} {k : S.Result q → Program S α}
    {s s' : σ} {a : α} :
    Runs I (.call q k) s a s' ↔ Runs I ((I.body q).bind k) s a s' := by
  constructor
  · rintro ⟨depth, h⟩
    cases depth with
    | zero => simp at h
    | succ depth => exact ⟨depth, h⟩
  · rintro ⟨depth, h⟩
    exact ⟨depth + 1, h⟩

/-- Induction over a run: `motive` need only be shown for the tree at hand,
assuming it for every shallower run that a call leads to. -/
theorem Runs.induct {motive : Program S α → σ → α → σ → Prop}
    (hdone : ∀ a s, motive (.done a) s a s)
    (hperform : ∀ o k s x s₁ a s', I.handle o s = some (x, s₁) →
      motive (k x) s₁ a s' → motive (.perform o k) s a s')
    (hcall : ∀ q k s a s', motive ((I.body q).bind k) s a s' →
      motive (.call q k) s a s')
    {p : Program S α} {s s' : σ} {a : α} (h : Runs I p s a s') :
    motive p s a s' := by
  obtain ⟨depth, h⟩ := h
  -- on the depth of the calls first, and within a depth on the program
  induction depth generalizing p s with
  | zero =>
      induction p generalizing s with
      | done b =>
          rw [eval_done] at h
          obtain ⟨rfl, rfl⟩ := Prod.mk.inj (Option.some.inj h)
          exact hdone b s
      | perform o k ih =>
          rw [eval_perform, Option.bind_eq_some_iff] at h
          obtain ⟨⟨x, s₁⟩, hx, hk⟩ := h
          exact hperform o k s x s₁ a s' hx (ih x hk)
      | call q k ih => simp at h
  | succ depth ihDepth =>
      induction p generalizing s with
      | done b =>
          rw [eval_done] at h
          obtain ⟨rfl, rfl⟩ := Prod.mk.inj (Option.some.inj h)
          exact hdone b s
      | perform o k ih =>
          rw [eval_perform, Option.bind_eq_some_iff] at h
          obtain ⟨⟨x, s₁⟩, hx, hk⟩ := h
          exact hperform o k s x s₁ a s' hx (ih x hk)
      | call q k ih =>
          rw [eval_succ_call] at h
          exact hcall q k s a s' (ihDepth h)

/-- A call unfolds the body first, whatever the rest of the program is. -/
private theorem exists_runs_of_eval_bind {depth : Nat} {p : Program S α}
    {f : α → Program S β} {s s' : σ} {b : β}
    (h : eval I depth (p.bind f) s = some (b, s')) :
    ∃ a s₁, Runs I p s a s₁ ∧ Runs I (f a) s₁ b s' := by
  induction depth generalizing p s with
  | zero =>
      induction p generalizing s with
      | done a => exact ⟨a, s, runs_done_iff.mpr ⟨rfl, rfl⟩, 0, h⟩
      | perform o k ih =>
          rw [Program.perform_bind, eval_perform, Option.bind_eq_some_iff] at h
          obtain ⟨⟨x, s₁⟩, hx, hk⟩ := h
          obtain ⟨a, s₂, hrun, hrest⟩ := ih x hk
          exact ⟨a, s₂, runs_perform_iff.mpr ⟨x, s₁, hx, hrun⟩, hrest⟩
      | call q k ih => simp at h
  | succ depth ihDepth =>
      induction p generalizing s with
      | done a => exact ⟨a, s, runs_done_iff.mpr ⟨rfl, rfl⟩, depth + 1, h⟩
      | perform o k ih =>
          rw [Program.perform_bind, eval_perform, Option.bind_eq_some_iff] at h
          obtain ⟨⟨x, s₁⟩, hx, hk⟩ := h
          obtain ⟨a, s₂, hrun, hrest⟩ := ih x hk
          exact ⟨a, s₂, runs_perform_iff.mpr ⟨x, s₁, hx, hrun⟩, hrest⟩
      | call q k ih =>
          rw [Program.call_bind, eval_succ_call, ← Program.bind_assoc] at h
          obtain ⟨a, s₂, hrun, hrest⟩ := ihDepth h
          exact ⟨a, s₂, runs_call_iff.mpr hrun, hrest⟩

/-- Sequencing: the run of a bind is a run of each part. -/
theorem runs_bind_iff {p : Program S α} {f : α → Program S β} {s s' : σ} {b : β} :
    Runs I (p.bind f) s b s' ↔
      ∃ a s₁, Runs I p s a s₁ ∧ Runs I (f a) s₁ b s' := by
  constructor
  · rintro ⟨depth, h⟩
    exact exists_runs_of_eval_bind h
  · rintro ⟨a, s₁, hp, hf⟩
    have key := Runs.induct
      (motive := fun (p : Program S α) s a s₁ =>
        Runs I (f a) s₁ b s' → Runs I (p.bind f) s b s')
      (fun _ _ hf => hf)
      (fun o k s x s₂ _ _ hx ih hf => runs_perform_iff.mpr ⟨x, s₂, hx, ih hf⟩)
      (fun q k _ _ _ ih hf => by
        rw [Program.call_bind, runs_call_iff, ← Program.bind_assoc]
        exact ih hf)
      hp
    exact key hf

/-- A run that has been computed, seen through `f`. -/
theorem exists_runs_of_eval {γ : Type} {f : α × σ → γ} {y : γ} {depth : Nat}
    {p : Program S α} {s : σ} (h : (eval I depth p s).map f = some y) :
    ∃ a s', Runs I p s a s' ∧ f (a, s') = y := by
  obtain ⟨⟨a, s'⟩, heval, hy⟩ := Option.map_eq_some_iff.mp h
  exact ⟨a, s', ⟨depth, heval⟩, hy⟩

/-- A run ends in one of the program's results. -/
theorem Runs.returns {Q : α → Prop} {p : Program S α} (hp : p.Returns Q) {s s' : σ} {a : α}
    (h : Runs I p s a s') : Q a := by
  have key := Runs.induct
    (motive := fun (p : Program S α) _ a _ => p.Returns Q → Q a)
    (fun _ _ ha => ha)
    (fun _ _ _ x _ _ _ _ ih hk => ih (hk x))
    (fun q _ _ _ _ ih hk => ih (Program.Returns.bind (I.body q) hk))
    h
  exact key hp

/-- Sequencing where the first result is not looked at. -/
theorem runs_bind_const_iff {p : Program S α} {q : Program S β} {s s' : σ} {b : β} :
    Runs I (p.bind fun _ => q) s b s' ↔
      ∃ s₁, (∃ a, Runs I p s a s₁) ∧ Runs I q s₁ b s' := by
  rw [runs_bind_iff]
  constructor
  · rintro ⟨a, s₁, hp, hq⟩
    exact ⟨s₁, ⟨a, hp⟩, hq⟩
  · rintro ⟨s₁, ⟨a, hp⟩, hq⟩
    exact ⟨a, s₁, hp, hq⟩

/-- The call rule with the body's run separated from the rest. -/
theorem runs_call_iff_exists {q : S.Procedure} {k : S.Result q → Program S α}
    {s s' : σ} {a : α} :
    Runs I (.call q k) s a s' ↔
      ∃ x s₁, Runs I (I.body q) s x s₁ ∧ Runs I (k x) s₁ a s' := by
  rw [runs_call_iff, runs_bind_iff]

/-- An invariant that every allowed request keeps, with an expected answer, is
kept by every program that obeys the policy, if the procedures it may call do. -/
theorem Runs.invariant {inv : σ → Prop} {policy : Policy S}
    (hhandle : ∀ o, policy.allows o → ∀ s x s₁, inv s →
      I.handle o s = some (x, s₁) → policy.expects o x ∧ inv s₁)
    (hbody : ∀ q, policy.calls q → (I.body q).Obeys policy)
    {p : Program S α} (hp : p.Obeys policy) {s s' : σ} {a : α} (hs : inv s)
    (h : Runs I p s a s') : inv s' := by
  have key := Runs.induct
    (motive := fun (p : Program S α) s _ s' => p.Obeys policy → inv s → inv s')
    (fun _ _ _ hs => hs)
    (fun o k s x s₁ _ s' hx ih hobeys hs => by
      obtain ⟨hexpects, hs₁⟩ := hhandle o hobeys.1 s x s₁ hs hx
      exact ih (hobeys.2 x hexpects) hs₁)
    (fun q k _ _ _ ih hobeys => ih ((hbody q hobeys.1).bind hobeys.2))
    h
  exact key hp hs

/-- A preorder on states that every allowed request respects is respected by the
whole run. -/
theorem Runs.preorder {R : σ → σ → Prop} (hrefl : ∀ s, R s s)
    (htrans : ∀ s₁ s₂ s₃, R s₁ s₂ → R s₂ s₃ → R s₁ s₃)
    {allows : S.Request → Prop} {calls : S.Procedure → Prop}
    (hhandle : ∀ o, allows o → ∀ s x s₁, I.handle o s = some (x, s₁) → R s s₁)
    (hbody : ∀ q, calls q → (I.body q).Obeys (Policy.only allows calls))
    {p : Program S α} (hp : p.Obeys (Policy.only allows calls)) {s s' : σ} {a : α}
    (h : Runs I p s a s') : R s s' :=
  Runs.invariant
    (fun o ho t x t₁ hst ht => ⟨trivial, htrans s t t₁ hst (hhandle o ho t x t₁ ht)⟩)
    hbody hp (hrefl s) h

/-- Simulation: if every request is answered alike in related states, a run
from one state is matched, result included, from the other. -/
theorem Runs.of_related {R : σ → σ → Prop}
    (hhandle : ∀ o s t x s₁, R s t → I.handle o s = some (x, s₁) →
      ∃ t₁, I.handle o t = some (x, t₁) ∧ R s₁ t₁)
    {p : Program S α} {s s' : σ} {a : α} (h : Runs I p s a s') {t : σ}
    (hst : R s t) : ∃ t', Runs I p t a t' ∧ R s' t' := by
  have key := Runs.induct
    (motive := fun (p : Program S α) s a s' =>
      ∀ t, R s t → ∃ t', Runs I p t a t' ∧ R s' t')
    (fun a s t hst => ⟨t, runs_done_iff.mpr ⟨rfl, rfl⟩, hst⟩)
    (fun o k s x s₁ a s' hx ih t hst => by
      obtain ⟨t₁, ht, hst₁⟩ := hhandle o s t x s₁ hst hx
      obtain ⟨t', hrun, hst'⟩ := ih t₁ hst₁
      exact ⟨t', runs_perform_iff.mpr ⟨x, t₁, ht, hrun⟩, hst'⟩)
    (fun q k s a s' ih t hst => by
      obtain ⟨t', hrun, hst'⟩ := ih t hst
      exact ⟨t', runs_call_iff.mpr hrun, hst'⟩)
    h
  exact key t hst

end Interaction
