import SmdControlServer.Text.CString

/-!
# Loops over `strsep`

`while ((token = strsep(&string, ",")) != NULL)` takes a text apart at its separators.  The
loop goes over the fields of the text, in their order, and the empty ones are among them.
-/

namespace CString

/-- What `strsep` leaves is shorter than what it was given. -/
theorem strsep_decreases (c : Char) (s : Text) :
    (strsep c s).2.elim 0 (fun rest => rest.length + 1) < s.length + 1 := by
  induction s with
  | nil => exact Nat.zero_lt_succ 0
  | cons x rest ih =>
      rw [strsep]
      by_cases hx : x == c
      · rw [if_pos hx]
        exact Nat.lt_succ_self _
      · rw [if_neg hx]
        exact Nat.lt_succ_of_lt ih

/-- The loop from its test on: what `string` points to, and the variables that the body
changes. -/
def strsepLoop {State : Type} (c : Char) (body : State → Text → State) (state : State)
    (string : Option Text) : State :=
  match string with
  | none => state
  | some s => strsepLoop c body (body state (strsep c s).1) (strsep c s).2
termination_by string.elim 0 (fun s => s.length + 1)
decreasing_by exact strsep_decreases c s

theorem strsepLoop_none {State : Type} (c : Char) (body : State → Text → State)
    (state : State) : strsepLoop c body state none = state := by
  rw [strsepLoop]

theorem strsepLoop_some {State : Type} (c : Char) (body : State → Text → State)
    (state : State) (s : Text) :
    strsepLoop c body state (some s) =
      strsepLoop c body (body state (strsep c s).1) (strsep c s).2 := by
  rw [strsepLoop]

/-- The body is done once for each field. -/
theorem strsepLoop_eq_foldl {State : Type} (c : Char) (body : State → Text → State)
    (state : State) (s : Text) :
    strsepLoop c body state (some s) = (s.splitOn c).foldl body state := by
  rw [strsepLoop_some, splitOn_eq_strsep, List.foldl_cons]
  cases hrest : (strsep c s).2 with
  | none => rw [strsepLoop_none, List.foldl_nil]
  | some rest =>
      have hshorter : rest.length < s.length := by
        have hdecreases := strsep_decreases c s
        rw [hrest] at hdecreases
        exact Nat.lt_of_succ_lt_succ hdecreases
      exact strsepLoop_eq_foldl c body _ rest
termination_by s.length

/-- The separator is in no field. -/
theorem separator_not_mem_splitOn {c : Char} {s field : Text} (h : field ∈ s.splitOn c) :
    c ∉ field := by
  induction s generalizing field with
  | nil =>
      rw [List.splitOn_nil, List.mem_singleton] at h
      rw [h]
      exact List.not_mem_nil
  | cons x rest ih =>
      rw [List.splitOn_cons_eq_if_modifyHead] at h
      by_cases hx : x == c
      · rw [if_pos hx] at h
        rcases List.mem_cons.mp h with rfl | h
        · exact List.not_mem_nil
        · exact ih h
      · -- the character goes to the first field of the rest
        rw [if_neg hx] at h
        obtain ⟨first, others, hsplit⟩ := List.exists_cons_of_ne_nil (rest.splitOn_ne_nil c)
        rw [hsplit, List.modifyHead_cons] at h
        rw [hsplit] at ih
        rcases List.mem_cons.mp h with rfl | h
        · have hne : x ≠ c := by simpa using hx
          have hfirst : c ∉ first := ih List.mem_cons_self
          simp [hfirst, Ne.symm hne]
        · exact ih (List.mem_cons_of_mem first h)

end CString
