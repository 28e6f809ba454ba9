import Mathlib.Data.List.Infix
import Mathlib.Data.List.TakeWhile

/-!
# C strings

The text of a NUL-terminated string is a list of characters, none of which is
NUL.  This file has the `string.h` functions on such texts, and the lemmas that
say when a search succeeds.
-/

namespace CString

/-- The text of a C string. -/
abbrev Text := List Char

/-- The text that starts at an array of bytes: everything before the first
NUL. -/
def ofBytes (bytes : List Char) : Text :=
  bytes.takeWhile (· != '\x00')

/-- `strncmp(s, literal, strlen(literal)) == 0`. -/
def startsWith (s literal : Text) : Bool :=
  literal.isPrefixOf s

/-- `strstr(s, needle) != NULL`. -/
def strstr (s needle : Text) : Bool :=
  needle.isPrefixOf s ||
    match s with
    | [] => false
    | _ :: rest => strstr rest needle

/-- What is left of `s` after `s[strcspn(s, "c")] = '\0'`. -/
def cutAt (c : Char) (s : Text) : Text :=
  s.takeWhile (· != c)

/-- `strncat(dst, src, n)`. -/
def strncat (dst src : Text) (n : Nat) : Text :=
  dst ++ src.take n

/-- What `snprintf` leaves in a buffer of `size` bytes for the formatted
text `s`. -/
def snprintf (size : Nat) (s : Text) : Text :=
  s.take (size - 1)

/-- One `strsep(&string, ",")`: the token and what `string` points to
afterwards. -/
def strsep (c : Char) : Text → Text × Option Text
  | [] => ([], none)
  | x :: rest =>
      if x == c then
        ([], some rest)
      else
        (x :: (strsep c rest).1, (strsep c rest).2)

theorem cutAt_eq_self {c : Char} {s : Text} (h : c ∉ s) : cutAt c s = s := by
  unfold cutAt
  rw [List.takeWhile_eq_self_iff]
  intro x hx
  have hne : x ≠ c := fun heq => h (heq ▸ hx)
  simpa using hne

theorem ofBytes_eq_self {bytes : List Char} (h : '\x00' ∉ bytes) : ofBytes bytes = bytes := by
  unfold ofBytes
  rw [List.takeWhile_eq_self_iff]
  intro c hc
  have hne : c ≠ '\x00' := fun heq => h (heq ▸ hc)
  simpa using hne

theorem nul_not_mem_ofBytes (bytes : List Char) : '\x00' ∉ ofBytes bytes := by
  intro h
  simpa using List.mem_takeWhile_imp h

@[simp] theorem startsWith_iff {s literal : Text} :
    startsWith s literal = true ↔ literal <+: s := by
  simp [startsWith]

/-- A literal is looked for in the first part of a text only, if that part is not a
shorter beginning of the literal. -/
theorem startsWith_append {s rest literal : Text} (h : s <+: literal → s = literal) :
    startsWith (s ++ rest) literal = startsWith s literal := by
  rw [Bool.eq_iff_iff, startsWith_iff, startsWith_iff]
  constructor
  · intro hstarts
    rcases List.prefix_or_prefix_of_prefix hstarts (List.prefix_append s rest) with hl | hs
    · exact hl
    · rw [h hs]
  · intro hstarts
    exact hstarts.trans (List.prefix_append s rest)

@[simp] theorem strstr_iff {s needle : Text} :
    strstr s needle = true ↔ needle <:+: s := by
  induction s with
  | nil => simp [strstr]
  | cons x rest ih =>
      rw [strstr, Bool.or_eq_true, ih, List.infix_cons_iff]
      simp

theorem strstr_eq_false_iff {s needle : Text} :
    strstr s needle = false ↔ ¬ needle <:+: s := by
  rw [← strstr_iff, Bool.not_eq_true]

/-- A needle whose last character does not occur in the tail of a text is
found in its head or not at all. -/
theorem infix_append_of_not_mem {head tail needle : Text} {c : Char}
    (hc : c ∉ tail) (h : needle ++ [c] <:+: head ++ tail) :
    needle ++ [c] <:+: head := by
  obtain ⟨before, after, heq⟩ := h
  have heq' : before ++ (needle ++ [c]) ++ after = head ++ tail := heq
  rcases List.append_eq_append_iff.mp heq' with ⟨mid, hhead, _⟩ | ⟨mid, hleft, htail⟩
  · exact ⟨before, mid, hhead.symm⟩
  · cases mid using List.reverseRecOn with
    | nil =>
        rw [List.append_nil] at hleft
        exact ⟨before, [], by simpa using hleft⟩
    | append_singleton mid x _ =>
        have hlast : before ++ needle ++ [c] = (head ++ mid) ++ [x] := by
          simpa [List.append_assoc] using hleft
        have hx : c = x := by
          simpa using (List.append_inj' hlast rfl).2
        exact absurd (by rw [htail, hx]; simp) hc

/-- The tokens of a `strsep` loop are the fields of the text. -/
theorem splitOn_eq_strsep (c : Char) (s : Text) :
    s.splitOn c =
      (strsep c s).1 ::
        match (strsep c s).2 with
        | none => []
        | some rest => rest.splitOn c := by
  induction s with
  | nil => rfl
  | cons x rest ih =>
      rw [List.splitOn_cons_eq_if_modifyHead, strsep]
      by_cases hx : x == c
      · rw [if_pos hx, if_pos hx]
      · rw [if_neg hx, if_neg hx, ih]
        rfl

theorem length_splitOn (c : Char) (s : Text) :
    (s.splitOn c).length = s.count c + 1 := by
  induction s with
  | nil => rfl
  | cons x rest ih =>
      rw [List.splitOn_cons_eq_if_modifyHead, List.count_cons]
      by_cases hx : x == c
      · rw [if_pos hx, if_pos hx, List.length_cons, ih]
      · rw [if_neg hx, if_neg hx, List.length_modifyHead, ih, Nat.add_zero]

theorem eq_append_of_splitOn {c : Char} {s first second : Text}
    (h : s.splitOn c = [first, second]) : s = first ++ c :: second := by
  have hjoin : [c].intercalate (s.splitOn c) = s := List.intercalate_splitOn c
  rw [h] at hjoin
  rw [← hjoin]
  simp [List.intercalate]

/-- What follows a text of two tokens goes to the second, if it has no separator. -/
theorem splitOn_append_of_two {c : Char} {s first second tail : Text}
    (h : s.splitOn c = [first, second]) (htail : c ∉ tail) :
    (s ++ tail).splitOn c = [first, second ++ tail] := by
  have hs := eq_append_of_splitOn h
  have hcount : s.count c = 1 := by
    have hlength := length_splitOn c s
    rw [h] at hlength
    exact (Nat.succ.inj hlength).symm
  rw [hs, List.count_append, List.count_cons_self] at hcount
  have hfirst : c ∉ first := List.count_eq_zero.mp (by omega)
  have hsecond : c ∉ second ++ tail := by
    rw [List.mem_append]
    rintro (h | h)
    · exact absurd (List.count_pos_iff.mpr h) (by omega)
    · exact htail h
  rw [hs, List.append_assoc, List.cons_append,
    List.splitOn_append_cons_self_of_not_mem hfirst, List.splitOn_eq_singleton hsecond]

/-- Text that a buffer of `size` bytes can hold is not shortened. -/
theorem snprintf_eq_self {size : Nat} {s : Text} (h : s.length < size) :
    snprintf size s = s := by
  exact List.take_of_length_le (by omega)

theorem strncat_eq_append {dst src : Text} {n : Nat} (h : src.length ≤ n) :
    strncat dst src n = dst ++ src := by
  rw [strncat, List.take_of_length_le h]

end CString
