import Mathlib.Logic.Relation
import SmdControlServer.Interaction.Monitor

/-!
# Programs in an environment that moves

The requests of one program are answered by a relation: there may be several answers, or
none as yet.  Between the requests the environment moves on its own, as a service does that
the program talks to.

* `Environment.Reaches` — what the program and its environment may have come to.
* `Couples.reaches` — what a monitor knows of the environment, if the moves of the
  environment keep to it, holds of everything that is reached.
* `Environment.ComesTo` — a program that may come to a result, put together along the
  program.
-/

namespace Interaction

/-- What answers the requests, how the environment moves, and the bodies of the procedures. -/
structure Environment (S : Signature) (σ : Type) where
  answers : (o : S.Request) → σ → S.Answer o → σ → Prop
  moves : σ → σ → Prop
  body : (p : S.Procedure) → Program S (S.Result p)

namespace Environment

variable {S : Signature} {σ Q : Type} {E : Environment S σ}

/-- A request or a call of the program, or a move of the environment. -/
inductive Step (E : Environment S σ) : Program S Unit × σ → Program S Unit × σ → Prop
  | perform {o : S.Request} {k : S.Answer o → Program S Unit} {s s' : σ} {x : S.Answer o}
      (h : E.answers o s x s') : Step E (.perform o k, s) (k x, s')
  | call {p : S.Procedure} {k : S.Result p → Program S Unit} {s : σ} :
      Step E (.call p k, s) ((E.body p).bind k, s)
  | move {p : Program S Unit} {s s' : σ} (h : E.moves s s') : Step E (p, s) (p, s')

/-- Any number of such steps. -/
def Reaches (E : Environment S σ) : Program S Unit × σ → Program S Unit × σ → Prop :=
  Relation.ReflTransGen E.Step

/-! ## What is reached -/

/-- The monitor and the environment fit together: what relates them is kept by the requests
that the monitor allows and by the moves of the environment, and the procedures keep to
their conditions. -/
structure Couples (E : Environment S σ) (M : Monitor S Q) (R : Q → σ → Prop) : Prop where
  request : ∀ {q : Q} {s s' : σ} {o : S.Request} {x : S.Answer o}, R q s → M.allows q o →
    E.answers o s x s' → M.expects q o x ∧ R (M.next q o x) s'
  move : ∀ {q : Q} {s s' : σ}, R q s → E.moves s s' → R q s'
  body : ∀ p q, M.pre p q → (E.body p).Safe M (M.post p q) q

/-- One step keeps a safe program safe and the environment in step with the monitor. -/
theorem Couples.step {M : Monitor S Q} {R : Q → σ → Prop} (h : E.Couples M R)
    {c c' : Program S Unit × σ} (hstep : E.Step c c') {q : Q}
    (hsafe : c.1.Safe M (fun _ _ => True) q) (hrelated : R q c.2) :
    ∃ q', c'.1.Safe M (fun _ _ => True) q' ∧ R q' c'.2 := by
  cases hstep with
  | perform hanswer =>
      obtain ⟨hexpected, hnext⟩ := h.request hrelated hsafe.1 hanswer
      exact ⟨_, hsafe.2 _ hexpected, hnext⟩
  | call => exact ⟨q, hsafe.unfold (h.body _ q), hrelated⟩
  | move hmove => exact ⟨q, hsafe, h.move hrelated hmove⟩

theorem Couples.reaches {M : Monitor S Q} {R : Q → σ → Prop} (h : E.Couples M R)
    {c c' : Program S Unit × σ} (hreaches : E.Reaches c c') {q : Q}
    (hsafe : c.1.Safe M (fun _ _ => True) q) (hrelated : R q c.2) :
    ∃ q', c'.1.Safe M (fun _ _ => True) q' ∧ R q' c'.2 := by
  induction hreaches with
  | refl => exact ⟨q, hsafe, hrelated⟩
  | tail _ hstep ih =>
      obtain ⟨q', hsafe', hrelated'⟩ := ih
      exact h.step hstep hsafe' hrelated'

/-! ## Coming to an end -/

/-- The program may come to the result `a` and leave the environment in `s'`, whatever
follows it. -/
def ComesTo (E : Environment S σ) {α : Type} (p : Program S α) (s : σ) (a : α) (s' : σ) : Prop :=
  ∀ k : α → Program S Unit, E.Reaches (p.bind k, s) (k a, s')

section

variable {α β : Type} {s s' s'' : σ} {a : α} {b : β}

theorem comesTo_done : E.ComesTo (.done a) s a s := fun _ => .refl

theorem ComesTo.perform {o : S.Request} {x : S.Answer o} {f : S.Answer o → Program S α}
    (hanswer : E.answers o s x s') (h : E.ComesTo (f x) s' a s'') :
    E.ComesTo (.perform o f) s a s'' :=
  fun k => .head (.perform hanswer) (h k)

theorem ComesTo.move {p : Program S α} (hmove : E.moves s s') (h : E.ComesTo p s' a s'') :
    E.ComesTo p s a s'' :=
  fun k => .head (.move hmove) (h k)

theorem ComesTo.bind {p : Program S α} {f : α → Program S β} (h : E.ComesTo p s a s')
    (h' : E.ComesTo (f a) s' b s'') : E.ComesTo (p.bind f) s b s'' := by
  intro k
  rw [Program.bind_assoc]
  exact (h fun a => (f a).bind k).trans (h' k)

/-- A whole program. -/
theorem ComesTo.reaches {p : Program S Unit} (h : E.ComesTo p s () s') :
    E.Reaches (p, s) (.done (), s') := by
  have hreaches := h .done
  rwa [Program.bind_done] at hreaches

theorem ComesTo.call {p : S.Procedure} {x : S.Result p} (h : E.ComesTo (E.body p) s x s') :
    E.ComesTo (.call p .done) s x s' :=
  fun k => .head .call (h k)

end

end Environment

end Interaction
