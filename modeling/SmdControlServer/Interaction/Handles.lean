import Mathlib.Data.List.Count

/-!
# Handles

A handle is opened, used and closed, and its number may be given out again.  What a
program does with its handles is a list of uses.  `Orderly` reads such a list from the
left with at most one handle in hand: the next one is opened when there is none, and only
the one in hand is used or closed.  `HandlesInTurn` is what this comes to for each handle
of the list.
-/

namespace Interaction

variable {D : Type}

/-- What is done with a handle. -/
inductive HandleUse (D : Type) where
  | opened (d : D)
  | used (d : D)
  | closed (d : D)
  deriving DecidableEq, Repr

namespace HandleUse

/-- The handle in hand after the use. -/
def inHand (held : Option D) : HandleUse D → Option D
  | opened d => some d
  | used _ => held
  | closed _ => none

/-- The use is one for which the handle in hand is the right one. -/
def Fits (held : Option D) : HandleUse D → Prop
  | opened _ => held = none
  | used d => held = some d
  | closed d => held = some d

/-- The handle is used, or closed. -/
def Touches (d : D) (u : HandleUse D) : Prop :=
  u = used d ∨ u = closed d

theorem Touches.held {d : D} {u : HandleUse D} (h : u.Touches d) {held : Option D}
    (hfits : u.Fits held) : held = some d := by
  rcases h with rfl | rfl
  · exact hfits
  · exact hfits

end HandleUse

/-- The handle in hand after the uses. -/
def handleAfter (held : Option D) (uses : List (HandleUse D)) : Option D :=
  uses.foldl HandleUse.inHand held

@[simp] theorem handleAfter_nil (held : Option D) : handleAfter held [] = held := rfl

@[simp] theorem handleAfter_cons (held : Option D) (u : HandleUse D)
    (uses : List (HandleUse D)) :
    handleAfter held (u :: uses) = handleAfter (u.inHand held) uses := rfl

theorem handleAfter_append (held : Option D) (uses uses' : List (HandleUse D)) :
    handleAfter held (uses ++ uses') = handleAfter (handleAfter held uses) uses' :=
  List.foldl_append

/-- Each use fits the handle that is in hand. -/
def Orderly : Option D → List (HandleUse D) → Prop
  | _, [] => True
  | held, u :: uses => u.Fits held ∧ Orderly (u.inHand held) uses

@[simp] theorem orderly_nil (held : Option D) : Orderly held [] := trivial

@[simp] theorem orderly_cons (held : Option D) (u : HandleUse D) (uses : List (HandleUse D)) :
    Orderly held (u :: uses) ↔ u.Fits held ∧ Orderly (u.inHand held) uses := Iff.rfl

theorem orderly_append {held : Option D} {uses uses' : List (HandleUse D)} :
    Orderly held (uses ++ uses') ↔
      Orderly held uses ∧ Orderly (handleAfter held uses) uses' := by
  induction uses generalizing held with
  | nil => simp
  | cons u uses ih =>
      simp only [List.cons_append, orderly_cons, handleAfter_cons, ih, and_assoc]

/-- Without a handle nothing is done but to open one. -/
theorem Orderly.eq_nil {uses : List (HandleUse D)} (h : Orderly none uses)
    (hopened : ∀ d, .opened d ∉ uses) : uses = [] := by
  cases uses with
  | nil => rfl
  | cons u uses =>
      have hfits := h.1
      cases u with
      | opened d => exact absurd List.mem_cons_self (hopened d)
      | used d => cases hfits
      | closed d => cases hfits

/-- A handle that is not opened does not come to hand. -/
theorem handleAfter_ne {held : Option D} {uses : List (HandleUse D)} {d : D}
    (hheld : held ≠ some d) (hopened : .opened d ∉ uses) : handleAfter held uses ≠ some d := by
  induction uses generalizing held with
  | nil => exact hheld
  | cons u uses ih =>
      rw [handleAfter_cons]
      refine ih ?_ fun hmem => hopened (List.mem_cons_of_mem _ hmem)
      cases u with
      | opened d' =>
          intro heq
          cases heq
          exact hopened List.mem_cons_self
      | used d' => exact hheld
      | closed d' => exact (Option.some_ne_none d).symm

variable [DecidableEq D]

/-- Until the next one is opened a handle stays in hand, or it is closed once. -/
theorem Orderly.held_or_closed {d : D} {uses : List (HandleUse D)}
    (h : Orderly (some d) uses) (hopened : ∀ d', .opened d' ∉ uses) :
    handleAfter (some d) uses = some d ∨ uses.count (.closed d) = 1 := by
  induction uses with
  | nil => exact Or.inl rfl
  | cons u uses ih =>
      have hrest : ∀ d', .opened d' ∉ uses := fun d' hmem =>
        hopened d' (List.mem_cons_of_mem _ hmem)
      obtain ⟨hfits, horderly⟩ := h
      cases u with
      | opened d' => cases hfits
      | used d' =>
          rw [handleAfter_cons, List.count_cons_of_ne (by simp)]
          exact ih horderly hrest
      | closed d' =>
          -- then nothing more is done
          obtain rfl : d = d' := Option.some.inj hfits
          rw [horderly.eq_nil hrest]
          exact Or.inr List.count_cons_self

/-- Between two that are opened, one after the other, the first is closed once.  A handle
that has been closed is neither used nor closed again before its number is given out
again. -/
structure HandlesInTurn (uses : List (HandleUse D)) : Prop where
  closed_once : ∀ before between after d d',
    uses = before ++ .opened d :: (between ++ .opened d' :: after) →
      (∀ d'', .opened d'' ∉ between) → between.count (.closed d) = 1
  untouched : ∀ before between after d u,
    uses = before ++ .closed d :: (between ++ u :: after) →
      .opened d ∉ between → ¬ u.Touches d

theorem Orderly.handlesInTurn {uses : List (HandleUse D)} (h : Orderly none uses) :
    HandlesInTurn uses where
  closed_once := by
    rintro before between after d d' rfl hopened
    obtain ⟨_, hfrom⟩ := orderly_append.mp h
    obtain ⟨hbetween, hnext, _⟩ := orderly_append.mp hfrom.2
    rcases hbetween.held_or_closed hopened with hheld | hclosed
    · -- the next one is opened when there is none in hand
      have hnone : handleAfter (some d) between = none := hnext
      rw [hheld] at hnone
      cases hnone
    · exact hclosed
  untouched := by
    rintro before between after d u rfl hopened htouches
    obtain ⟨_, hfrom⟩ := orderly_append.mp h
    obtain ⟨_, hfits, _⟩ := orderly_append.mp hfrom.2
    exact handleAfter_ne (Option.some_ne_none d).symm hopened (htouches.held hfits)

end Interaction
