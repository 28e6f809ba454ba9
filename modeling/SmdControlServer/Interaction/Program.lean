/-!
# Interaction programs

A program is a tree of requests.  `perform o k` asks the surroundings for `o`
and goes on with the answer, `call p k` runs a procedure and goes on with its
result.  Procedures are named, not inlined, so a loop or a mutual recursion of
the modelled code is a finite tree, and what a name stands for is part of the
interpretation.

The same tree is read in two ways: `Execution` runs it to the end against a
state, `Threads` interleaves it with other programs one request at a time.
-/

namespace Interaction

/-- The requests a program may make and the procedures it may call. -/
structure Signature where
  Request : Type
  Answer : Request → Type
  Procedure : Type
  Result : Procedure → Type

/-- A program over a signature, returning an `α`. -/
inductive Program (S : Signature) (α : Type) : Type where
  | done (a : α) : Program S α
  | perform (o : S.Request) (k : S.Answer o → Program S α) : Program S α
  | call (p : S.Procedure) (k : S.Result p → Program S α) : Program S α

namespace Program

variable {S : Signature} {α β γ : Type}

/-- Continue every leaf of a program. -/
def bind : Program S α → (α → Program S β) → Program S β
  | done a, f => f a
  | perform o k, f => perform o fun x => bind (k x) f
  | call p k, f => call p fun x => bind (k x) f

instance : Monad (Program S) where
  pure := done
  bind := bind

/-- The program that makes one request. -/
def request (o : S.Request) : Program S (S.Answer o) :=
  perform o done

/-- The program that calls one procedure. -/
def invoke (p : S.Procedure) : Program S (S.Result p) :=
  call p done

@[simp] theorem pure_eq_done (a : α) : (pure a : Program S α) = done a := rfl

@[simp] theorem bind_eq_bind (p : Program S α) (f : α → Program S β) :
    (p >>= f) = p.bind f := rfl

@[simp] theorem done_bind (a : α) (f : α → Program S β) :
    (done a).bind f = f a := rfl

@[simp] theorem perform_bind (o : S.Request) (k : S.Answer o → Program S α)
    (f : α → Program S β) :
    (perform o k).bind f = perform o fun x => (k x).bind f := rfl

@[simp] theorem call_bind (p : S.Procedure) (k : S.Result p → Program S α)
    (f : α → Program S β) :
    (call p k).bind f = call p fun x => (k x).bind f := rfl

@[simp] theorem request_bind (o : S.Request) (f : S.Answer o → Program S β) :
    (request o).bind f = perform o f := rfl

@[simp] theorem invoke_bind (p : S.Procedure) (f : S.Result p → Program S β) :
    (invoke p).bind f = call p f := rfl

theorem bind_done (p : Program S α) : p.bind done = p := by
  induction p with
  | done a => rfl
  | perform o k ih => exact congrArg (perform o) (funext ih)
  | call q k ih => exact congrArg (call q) (funext ih)

theorem bind_assoc (p : Program S α) (f : α → Program S β) (g : β → Program S γ) :
    (p.bind f).bind g = p.bind fun a => (f a).bind g := by
  induction p with
  | done a => rfl
  | perform o k ih =>
      simp only [perform_bind]
      exact congrArg (perform o) (funext ih)
  | call q k ih =>
      simp only [call_bind]
      exact congrArg (call q) (funext ih)

end Program

/-- What a program is allowed to ask for, what it may expect as an answer, and
which procedures it may call. -/
structure Policy (S : Signature) where
  allows : S.Request → Prop
  expects : (o : S.Request) → S.Answer o → Prop
  calls : S.Procedure → Prop

/-- Some requests, any answers. -/
def Policy.only {S : Signature} (allows : S.Request → Prop) (calls : S.Procedure → Prop) :
    Policy S where
  allows := allows
  expects := fun _ _ => True
  calls := calls

namespace Program

variable {S : Signature} {α β : Type} {policy : Policy S}

/-- Every request that the program makes after expected answers, and every
procedure that it calls, is allowed.  The bodies of the procedures are not looked
into. -/
def Obeys (policy : Policy S) : Program S α → Prop
  | done _ => True
  | perform o k => policy.allows o ∧ ∀ x, policy.expects o x → Obeys policy (k x)
  | call p k => policy.calls p ∧ ∀ x, Obeys policy (k x)

@[simp] theorem obeys_done (a : α) : (done a : Program S α).Obeys policy := trivial

@[simp] theorem obeys_perform (o : S.Request) (k : S.Answer o → Program S α) :
    (perform o k).Obeys policy ↔
      policy.allows o ∧ ∀ x, policy.expects o x → (k x).Obeys policy := Iff.rfl

@[simp] theorem obeys_call (p : S.Procedure) (k : S.Result p → Program S α) :
    (call p k).Obeys policy ↔ policy.calls p ∧ ∀ x, (k x).Obeys policy := Iff.rfl

theorem Obeys.bind {p : Program S α} {f : α → Program S β} (hp : p.Obeys policy)
    (hf : ∀ a, (f a).Obeys policy) : (p.bind f).Obeys policy := by
  induction p with
  | done a => exact hf a
  | perform o k ih => exact ⟨hp.1, fun x hx => ih x (hp.2 x hx)⟩
  | call q k ih => exact ⟨hp.1, fun x => ih x (hp.2 x)⟩

theorem Obeys.ite {c : Prop} [Decidable c] {p p' : Program S α} (hp : p.Obeys policy)
    (hp' : p'.Obeys policy) : (if c then p else p').Obeys policy := by
  split
  · exact hp
  · exact hp'

/-- A program that obeys a policy obeys every more generous one. -/
theorem Obeys.mono {policy' : Policy S} {p : Program S α} (hp : p.Obeys policy)
    (hallows : ∀ o, policy.allows o → policy'.allows o)
    (hexpects : ∀ o, policy.allows o → ∀ x, policy'.expects o x → policy.expects o x)
    (hcalls : ∀ q, policy.calls q → policy'.calls q) : p.Obeys policy' := by
  induction p with
  | done a => trivial
  | perform o k ih =>
      exact ⟨hallows o hp.1, fun x hx => ih x (hp.2 x (hexpects o hp.1 x hx))⟩
  | call q k ih => exact ⟨hcalls q hp.1, fun x => ih x (hp.2 x)⟩

/-- Every result the program can come to has the property. -/
def Returns (Q : α → Prop) : Program S α → Prop
  | done a => Q a
  | perform _ k => ∀ x, Returns Q (k x)
  | call _ k => ∀ x, Returns Q (k x)

theorem Returns.bind {Q : β → Prop} (p : Program S α) {f : α → Program S β}
    (hf : ∀ a, (f a).Returns Q) : (p.bind f).Returns Q := by
  induction p with
  | done a => exact hf a
  | perform o k ih => exact ih
  | call q k ih => exact ih

theorem Returns.mono {Q Q' : α → Prop} {p : Program S α} (hp : p.Returns Q)
    (h : ∀ a, Q a → Q' a) : p.Returns Q' := by
  induction p with
  | done a => exact h a hp
  | perform o k ih => exact fun x => ih x (hp x)
  | call q k ih => exact fun x => ih x (hp x)

/-- Put together from blocks. -/
inductive MadeOf (block : {γ : Type} → Program S γ → Prop) : {γ : Type} → Program S γ → Prop
  | done {γ : Type} (a : γ) : MadeOf @block (done a)
  | block {γ : Type} {p : Program S γ} (h : block p) : MadeOf @block p
  | bind {γ δ : Type} {p : Program S γ} {f : γ → Program S δ} (hp : MadeOf @block p)
      (hf : ∀ a, MadeOf @block (f a)) : MadeOf @block (p.bind f)

/-- What is put together from obedient blocks is obedient. -/
theorem MadeOf.obeys {block : {γ : Type} → Program S γ → Prop}
    (hblock : ∀ {γ : Type} {p : Program S γ}, block p → p.Obeys policy)
    {p : Program S α} (hp : MadeOf block p) : p.Obeys policy := by
  induction hp with
  | done a => trivial
  | block h => exact hblock h
  | bind _ _ ihp ihf => exact Obeys.bind ihp ihf

/-- Without restriction every program qualifies. -/
theorem obeys_true (p : Program S α) :
    p.Obeys (Policy.only (fun _ => True) (fun _ => True)) := by
  induction p with
  | done a => trivial
  | perform o k ih => exact ⟨trivial, fun x _ => ih x⟩
  | call q k ih => exact ⟨trivial, ih⟩

end Program

end Interaction
