import Mathlib.Data.List.Basic

/-!
# Lines

A line ends with a terminator that it has nowhere else.  Lines can follow each
other without anything between them: a stream is cut into lines in at most one
way, whatever pieces it arrives in.
-/

namespace Lines

variable {α : Type} {terminator : α}

/-- The terminator is the last entry and no other. -/
def IsLine (terminator : α) (line : List α) : Prop :=
  ∃ body, terminator ∉ body ∧ line = body ++ [terminator]

theorem IsLine.ne_nil {line : List α} (h : IsLine terminator line) : line ≠ [] := by
  obtain ⟨body, _, rfl⟩ := h
  simp

/-- A stream that begins with a line begins with no other line. -/
theorem IsLine.append_inj {line line' rest rest' : List α} (h : IsLine terminator line)
    (h' : IsLine terminator line') (heq : line ++ rest = line' ++ rest') :
    line = line' ∧ rest = rest' := by
  obtain ⟨body, hbody, rfl⟩ := h
  obtain ⟨body', hbody', rfl⟩ := h'
  induction body generalizing body' with
  | nil =>
      cases body' with
      | nil => simpa using heq
      | cons x body' =>
          have hx : terminator = x := by simpa using congrArg List.head? heq
          exact absurd (hx ▸ List.mem_cons_self) hbody'
  | cons x body ih =>
      cases body' with
      | nil =>
          have hx : x = terminator := by simpa using congrArg List.head? heq
          exact absurd (hx ▸ List.mem_cons_self) hbody
      | cons x' body' =>
          simp only [List.cons_append, List.cons.injEq] at heq
          obtain ⟨rfl, htail⟩ := heq
          have hrest := ih (fun h => hbody (List.mem_cons_of_mem _ h)) body'
            (fun h => hbody' (List.mem_cons_of_mem _ h)) htail
          exact ⟨congrArg (x :: ·) hrest.1, hrest.2⟩

/-- A stream is cut into lines in at most one way. -/
theorem eq_of_flatten_eq {lines lines' : List (List α)}
    (h : ∀ line ∈ lines, IsLine terminator line)
    (h' : ∀ line ∈ lines', IsLine terminator line) (heq : lines.flatten = lines'.flatten) :
    lines = lines' := by
  induction lines generalizing lines' with
  | nil =>
      cases lines' with
      | nil => rfl
      | cons line' rest' =>
          have hnil : line' ++ rest'.flatten = [] := by simpa using heq.symm
          exact absurd (List.append_eq_nil_iff.mp hnil).1 (h' line' List.mem_cons_self).ne_nil
  | cons line rest ih =>
      cases lines' with
      | nil =>
          have hnil : line ++ rest.flatten = [] := by simpa using heq
          exact absurd (List.append_eq_nil_iff.mp hnil).1 (h line List.mem_cons_self).ne_nil
      | cons line' rest' =>
          simp only [List.flatten_cons] at heq
          obtain ⟨rfl, hrest⟩ := (h line List.mem_cons_self).append_inj
            (h' line' List.mem_cons_self) heq
          rw [ih (fun l hl => h l (List.mem_cons_of_mem _ hl))
            (fun l hl => h' l (List.mem_cons_of_mem _ hl)) hrest]

/-- The pieces in which a stream of lines arrives are its lines when each of them
is a line. -/
theorem pieces_eq_lines_iff {pieces lines : List (List α)}
    (h : ∀ line ∈ lines, IsLine terminator line) (heq : pieces.flatten = lines.flatten) :
    pieces = lines ↔ ∀ piece ∈ pieces, IsLine terminator piece := by
  constructor
  · rintro rfl
    exact h
  · intro hpieces
    exact eq_of_flatten_eq hpieces h heq

end Lines
