import SmdControlServer.Interaction.Program

/-!
# Monitored programs

A monitor follows one program through its requests.  Its state is what is known of
the surroundings at that point; it says which requests may be made there, which
answers are possible and what is known after them.  Procedures have a precondition
and a postcondition.

`Safe` is the weakest precondition that this gives.  It is taken apart with the
program, so it can be kept for a program that has been run halfway, whatever other
programs do in between, as long as they leave alone what the monitor knows.
-/

namespace Interaction

structure Monitor (S : Signature) (Q : Type) where
  allows : Q → S.Request → Prop
  expects : Q → (o : S.Request) → S.Answer o → Prop
  next : Q → (o : S.Request) → S.Answer o → Q
  pre : S.Procedure → Q → Prop
  post : (p : S.Procedure) → Q → S.Result p → Q → Prop

namespace Program

variable {S : Signature} {Q α β : Type} {M : Monitor S Q}

/-- The monitor allows what the program does from `q` on, and `post` holds where it
ends. -/
def Safe (M : Monitor S Q) : Program S α → (α → Q → Prop) → Q → Prop
  | done a, post, q => post a q
  | perform o k, post, q =>
      M.allows q o ∧ ∀ x, M.expects q o x → Safe M (k x) post (M.next q o x)
  | call p k, post, q => M.pre p q ∧ ∀ x q', M.post p q x q' → Safe M (k x) post q'

theorem Safe.mono {p : Program S α} {post post' : α → Q → Prop} {q : Q}
    (h : p.Safe M post q) (hpost : ∀ a q', post a q' → post' a q') : p.Safe M post' q := by
  induction p generalizing q with
  | done a => exact hpost a q h
  | perform o k ih => exact ⟨h.1, fun x hx => ih x (h.2 x hx)⟩
  | call p k ih => exact ⟨h.1, fun x q' hx => ih x (h.2 x q' hx)⟩

theorem Safe.bind {p : Program S α} {f : α → Program S β} {post : β → Q → Prop} {q : Q}
    (h : p.Safe M (fun a q' => (f a).Safe M post q') q) : (p.bind f).Safe M post q := by
  induction p generalizing q with
  | done a => exact h
  | perform o k ih => exact ⟨h.1, fun x hx => ih x (h.2 x hx)⟩
  | call p k ih => exact ⟨h.1, fun x q' hx => ih x (h.2 x q' hx)⟩

theorem Safe.ite {c : Prop} [Decidable c] {p p' : Program S α} {post : α → Q → Prop} {q : Q}
    (hp : c → p.Safe M post q) (hp' : ¬ c → p'.Safe M post q) :
    (if c then p else p').Safe M post q := by
  split
  · exact hp ‹c›
  · exact hp' ‹¬ c›

/-- A call may be replaced by the body of its procedure. -/
theorem Safe.unfold {p : S.Procedure} {body : Program S (S.Result p)}
    {k : S.Result p → Program S α} {post : α → Q → Prop} {q : Q}
    (hbody : M.pre p q → body.Safe M (M.post p q) q) (h : (call p k).Safe M post q) :
    (body.bind k).Safe M post q :=
  Safe.bind ((hbody h.1).mono h.2)

/-- A program that obeys a policy keeps whatever the allowed requests keep. -/
theorem Obeys.safe {policy : Policy S} {inv : Q → Prop} {p : Program S α}
    (hrequests : ∀ o, policy.allows o → ∀ q, inv q →
      M.allows q o ∧ ∀ x, M.expects q o x → policy.expects o x ∧ inv (M.next q o x))
    (hcalls : ∀ p, policy.calls p → ∀ q, inv q →
      M.pre p q ∧ ∀ x q', M.post p q x q' → inv q')
    (hp : p.Obeys policy) {q : Q} (hq : inv q) : p.Safe M (fun _ q' => inv q') q := by
  induction p generalizing q with
  | done a => exact hq
  | perform o k ih =>
      obtain ⟨hallowed, hanswers⟩ := hrequests o hp.1 q hq
      refine ⟨hallowed, fun x hx => ?_⟩
      obtain ⟨hexpected, hnext⟩ := hanswers x hx
      exact ih x (hp.2 x hexpected) hnext
  | call p k ih =>
      obtain ⟨hpre, hpost⟩ := hcalls p hp.1 q hq
      exact ⟨hpre, fun x q' hx => ih x (hp.2 x) (hpost x q' hx)⟩

/-- What is put together from blocks keeps what each of the blocks keeps. -/
theorem MadeOf.safe {block : {γ : Type} → Program S γ → Prop} {inv : Q → Prop}
    (hblock : ∀ {γ : Type} {p : Program S γ}, block p →
      ∀ q, inv q → p.Safe M (fun _ q' => inv q') q)
    {p : Program S α} (hp : MadeOf block p) {q : Q} (hq : inv q) :
    p.Safe M (fun _ q' => inv q') q := by
  induction hp generalizing q with
  | done a => exact hq
  | block h => exact hblock h q hq
  | bind _ _ ihp ihf => exact Safe.bind ((ihp hq).mono fun a q' hq' => ihf a hq')

/-- The results of a safe program are among those it can come to. -/
theorem Safe.and_returns {p : Program S α} {post : α → Q → Prop} {P : α → Prop} {q : Q}
    (h : p.Safe M post q) (hp : p.Returns P) : p.Safe M (fun a q' => post a q' ∧ P a) q := by
  induction p generalizing q with
  | done a => exact ⟨h, hp⟩
  | perform o k ih => exact ⟨h.1, fun x hx => ih x (h.2 x hx) (hp x)⟩
  | call p k ih => exact ⟨h.1, fun x q' hx => ih x (h.2 x q' hx) (hp x)⟩

end Program

end Interaction
