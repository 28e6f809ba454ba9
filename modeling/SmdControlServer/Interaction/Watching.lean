import SmdControlServer.Interaction.Traces

/-!
# Watching some of the threads

A monitor can be put on some of the threads only, say on those that are started by the
others.  A thread that is not watched may do what it likes, and nothing is known of it.
-/

namespace Interaction

variable {S : Signature} {Q : Type} {M : Monitor S Q}

/-- The monitor `M` for a thread that is watched, and none for one that is not. -/
def Monitor.watching (M : Monitor S Q) : Monitor S (Option Q) where
  allows q o := q.elim True fun r => M.allows r o
  expects q o x := q.elim True fun r => M.expects r o x
  next q o x := q.map fun r => M.next r o x
  pre p q := q.elim True fun r => M.pre p r
  post p q x q' := q.elim (q' = none) fun r => ∃ r', q' = some r' ∧ M.post p r x r'

namespace Program

variable {α : Type}

theorem Safe.watching {p : Program S α} {post : α → Q → Prop} {r : Q} (h : p.Safe M post r) :
    p.Safe M.watching (fun a q' => ∃ r', q' = some r' ∧ post a r') (some r) := by
  induction p generalizing r with
  | done a => exact ⟨r, rfl, h⟩
  | perform o k ih => exact ⟨h.1, fun x hx => ih x (h.2 x hx)⟩
  | call p k ih =>
      refine ⟨h.1, fun x q' hq' => ?_⟩
      obtain ⟨r', rfl, hpost⟩ := hq'
      exact ih x (h.2 x r' hpost)

/-- A thread that is not watched may do anything. -/
theorem safe_unwatched (p : Program S α) :
    p.Safe M.watching (fun _ q' => q' = none) none := by
  induction p with
  | done a => rfl
  | perform o k ih => exact ⟨trivial, fun x _ => ih x⟩
  | call p k ih =>
      refine ⟨trivial, fun x q' hq' => ?_⟩
      obtain rfl : q' = none := hq'
      exact ih x

/-- A body that is safe for watched threads is safe for all. -/
theorem safe_watching_body {p : S.Procedure} {body : Program S (S.Result p)}
    (h : ∀ r, M.pre p r → body.Safe M (M.post p r) r) (q : Option Q)
    (hq : M.watching.pre p q) : body.Safe M.watching (M.watching.post p q) q := by
  cases q with
  | none => exact safe_unwatched body
  | some r => exact (h r hq).watching

end Program

/-- Which of the threads are watched. -/
def Watches (watched : Nat → Prop) (q : Nat → Option Q) : Prop :=
  ∀ i, q i ≠ none ↔ watched i

theorem Watches.update {watched : Nat → Prop} {q : Nat → Option Q} (h : Watches watched q)
    (i : Nat) (o : S.Request) (x : S.Answer o) :
    Watches watched (Function.update q i (M.watching.next (q i) o x)) := by
  intro j
  by_cases hij : j = i
  · subst hij
    rw [Function.update_self, ← h j]
    show Option.map _ (q j) ≠ none ↔ _
    simp
  · rw [Function.update_of_ne hij]
    exact h j

/-- The first threads are not watched, and all that are started later are. -/
def watchedFrom (n : Nat) (fresh : Q) : Nat → Option Q :=
  fun i => if i < n then none else some fresh

theorem watches_watchedFrom (n : Nat) (fresh : Q) : Watches (n ≤ ·) (watchedFrom n fresh) := by
  intro i
  unfold watchedFrom
  by_cases hi : i < n
  · simp [hi]
  · simp [hi, Nat.le_of_not_lt hi]

namespace Threads

variable {σ L : Type} {I : Interpretation S σ} {share : Sharing S σ L} {fresh : Q}
  {P : Threads S σ L → Nat → Prop} {c c' : Threads S σ L} {es : List (Entry S)}

/-- Throughout an execution, the threads that have been started in it are monitored.  The
surroundings keep `R`, whichever thread runs. -/
theorem Executes.watched (ties : Q → L → Prop) (R : σ → Prop)
    (hstate : ∀ s o l x s', R s → I.handle o (share.load l s) = some (x, s') → R s')
    (hhandle : ∀ r s o l x s', R s → ties r l → M.allows r o →
      I.handle o (share.load l s) = some (x, s') →
        M.expects r o x ∧ ties (M.next r o x) (share.save s'))
    (hbody : ∀ p r, M.pre p r → (I.body p).Safe M (M.post p r) r)
    (hspawn : ∀ o x (t : Thread S L), share.spawn o x = some t →
      t.program.Safe M (fun _ _ => True) fresh ∧ ties fresh t.locals)
    (hR : R c.state) (h : Executes I share P c es c') :
    Monitored M.watching (some fresh)
        (M.watching.followAll (watchedFrom c.threads.length fresh) es) c' ∧
      Watches (c.threads.length ≤ ·)
        (M.watching.followAll (watchedFrom c.threads.length fresh) es) ∧ R c'.state := by
  have hstart : ∀ i, c.threads.length ≤ i →
      watchedFrom c.threads.length fresh i = some fresh := fun i hi =>
    if_neg (Nat.not_lt.mpr hi)
  have hunwatched : ∀ i, i < c.threads.length →
      watchedFrom c.threads.length fresh i = none := fun i hi => if_pos hi
  let tiesWatched : Option Q → L → Prop := fun q l => q.elim True fun r => ties r l
  let kept : (Nat → Option Q) → σ → Prop := fun q s => Watches (c.threads.length ≤ ·) q ∧ R s
  let q := M.watching.followAll (watchedFrom c.threads.length fresh) es
  have htied : Monitored M.watching (some fresh) q c' ∧ kept q c'.state ∧
      Tied tiesWatched q c' := h.tied
    (fun q s i o l x s' hq hl hallowed hx => by
      have hkept := hstate s o l x s' hq.2 hx
      cases hqi : q i with
      | none => exact ⟨trivial, ⟨hqi ▸ hq.1.update i o x, hkept⟩, trivial⟩
      | some r =>
          rw [hqi] at hl hallowed
          obtain ⟨hexpected, hties⟩ := hhandle r s o l x s' hq.2 hl hallowed hx
          exact ⟨hexpected, ⟨hqi ▸ hq.1.update i o x, hkept⟩, hties⟩)
    (fun p q hq => Program.safe_watching_body (hbody p) q hq)
    (fun o x t ht => by
      obtain ⟨hsafe, hties⟩ := hspawn o x t ht
      exact ⟨hsafe.watching.mono fun _ _ _ => trivial, hties⟩)
    ⟨fun i t ht => by
      rw [hunwatched i (List.getElem?_eq_some_iff.mp ht).1]
      exact (Program.safe_unwatched _).mono fun _ _ _ => trivial, hstart⟩
    ⟨watches_watchedFrom _ fresh, hR⟩
    (fun i t ht => by
      rw [hunwatched i (List.getElem?_eq_some_iff.mp ht).1]
      trivial)
  exact ⟨htied.1, htied.2.1.1, htied.2.1.2⟩

end Threads

end Interaction
