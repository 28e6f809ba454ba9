import SmdControlServer.Server.Rules

/-!
# Converting parameters

What `convert_string_to_long_int` makes of a token depends on the token and on
whether `errno` is `ERANGE` already.  A token that overflows `long` leaves
`ERANGE` behind, and it stays until a `perror` puts another `errno` in its place.  So a
row of conversions is read from left to right with a `Latch` for memory.
-/

namespace SmdControlServer

open CString Interaction

variable {w w' : World}

/-! ## One conversion -/

/-- The value of a token, `stuck` being whether `errno` is `ERANGE` before. -/
def convertedValue (stuck : Bool) (str : Text) : Int :=
  if (strtol str).consumed = false ∨ stuck = true ∨ (strtol str).erange = true then
    -1
  else
    toInt32 (strtol str).value

/-- `strtol` finds no integer, or one out of its range. -/
def Unread (result : StrtolResult) : Prop :=
  result.consumed = false ∨ result.erange = true

instance (result : StrtolResult) : Decidable (Unread result) :=
  inferInstanceAs (Decidable (_ ∨ _))

/-- `errno` is `ERANGE`. -/
def World.stuck (w : World) : Bool :=
  decide (w.errno = erange)

/-- What a row of conversions goes by besides its tokens: whether `errno` is `ERANGE`, and
of each `perror` to come whether it leaves `errno` alone. -/
structure Latch where
  stuck : Bool
  keeps : Stream' Bool

def World.latch (w : World) : Latch where
  stuck := w.stuck
  keeps := w.perrors.map Option.isNone

namespace Latch

/-- The conversion with this result of `strtol` fails. -/
def Loses (l : Latch) (result : StrtolResult) : Prop :=
  result.consumed = false ∨ l.stuck = true ∨ result.erange = true

instance (l : Latch) (result : StrtolResult) : Decidable (l.Loses result) :=
  inferInstanceAs (Decidable (_ ∨ _))

/-- What the conversion yields. -/
def read (l : Latch) (result : StrtolResult) : Int :=
  if l.Loses result then -1 else toInt32 result.value

/-- A conversion that fails calls `perror`. -/
def after (l : Latch) (result : StrtolResult) : Latch :=
  if l.Loses result then
    ⟨(l.stuck || result.erange) && l.keeps.head, l.keeps.tail⟩
  else
    l

variable {l : Latch} {result : StrtolResult}

theorem read_strtol (l : Latch) (str : Text) :
    l.read (strtol str) = convertedValue l.stuck str := rfl

theorem loses_iff : l.Loses result ↔ l.stuck = true ∨ Unread result := by
  unfold Loses Unread
  tauto

/-- With `errno` clear, what is read is not lost. -/
theorem not_loses (hstuck : l.stuck = false) (h : ¬ Unread result) : ¬ l.Loses result := by
  rw [loses_iff, hstuck]
  simpa using h

theorem read_of_loses (h : l.Loses result) : l.read result = -1 :=
  if_pos h

theorem after_of_not_loses (h : ¬ l.Loses result) : l.after result = l :=
  if_neg h

/-- Without `ERANGE` before and without an overflow there is none after. -/
theorem stuck_after_eq_false (hstuck : l.stuck = false) (herange : result.erange = false) :
    (l.after result).stuck = false := by
  unfold after
  split
  · simp [hstuck, herange]
  · exact hstuck

end Latch

def World.afterConversion (w : World) (str : Text) : World :=
  if w.latch.Loses (strtol str) then
    (if (strtol str).erange then w.setErrno erange else w).afterPerror
  else
    w

theorem runs_convertStringToLongInt_iff {str : Text} {n : Int} :
    Runs server (convertStringToLongInt str) w n w' ↔
      n = w.latch.read (strtol str) ∧ w' = w.afterConversion str := by
  unfold convertStringToLongInt Latch.read World.afterConversion
  rcases Bool.eq_false_or_eq_true (strtol str).erange with herange | herange
  · simp [herange, Latch.Loses]
  · by_cases hstuck : w.errno = erange
    · simp [herange, hstuck, Latch.Loses, World.latch, World.stuck]
    · rcases Bool.eq_false_or_eq_true (strtol str).consumed with hconsumed | hconsumed
      · simp [herange, hstuck, hconsumed, Latch.Loses, World.latch, World.stuck]
      · simp [herange, hconsumed, Latch.Loses]

theorem World.afterConversion_of_not_loses {str : Text} (h : ¬ w.latch.Loses (strtol str)) :
    w.afterConversion str = w :=
  if_neg h

/-- `ERANGE` outlasts a `perror` that leaves `errno` alone. -/
theorem World.stuck_afterPerror (w : World) :
    w.afterPerror.stuck = (w.stuck && w.perrors.head.isNone) := by
  unfold World.stuck
  rw [World.afterPerror_errno]
  cases w.perrors.head with
  | none => simp
  | some e => simpa using e.notErange

theorem World.latch_afterConversion (w : World) (str : Text) :
    (w.afterConversion str).latch = w.latch.after (strtol str) := by
  have hlatch : ∀ v : World, v.afterPerror.latch =
      ⟨v.stuck && v.latch.keeps.head, v.latch.keeps.tail⟩ := by
    intro v
    unfold World.latch
    rw [World.stuck_afterPerror]
    rfl
  unfold World.afterConversion Latch.after
  split
  · rw [hlatch]
    cases (strtol str).erange with
    | true => simp [World.stuck, World.latch]
    | false => simp [World.latch]
  · rfl

section

variable (w : World) (str : Text)

@[simp] theorem World.globals_afterConversion : (w.afterConversion str).globals = w.globals := by
  unfold World.afterConversion
  split
  · split <;> rfl
  · rfl

@[simp] theorem World.drive_afterConversion : (w.afterConversion str).drive = w.drive := by
  unfold World.afterConversion
  split
  · split <;> rfl
  · rfl

@[simp] theorem World.memory_afterConversion : (w.afterConversion str).memory = w.memory := by
  unfold World.afterConversion
  split
  · split <;> rfl
  · rfl

@[simp] theorem World.log_afterConversion : (w.afterConversion str).log = w.log := by
  unfold World.afterConversion
  split
  · split <;> rfl
  · rfl

end

/-! ## Decimal integers -/

/-- The value is outside `long`. -/
def Overflows (n : Int) : Prop :=
  n < longMin ∨ longMax < n

instance (n : Int) : Decidable (Overflows n) :=
  inferInstanceAs (Decidable (_ ∨ _))

namespace Latch

variable {l : Latch} {n : Int}

theorem loses_clampLong_iff : l.Loses (clampLong n) ↔ l.stuck = true ∨ Overflows n := by
  unfold Loses
  rw [clampLong_consumed, clampLong_erange_iff]
  unfold Overflows
  simp

theorem read_clampLong (h : ¬ l.Loses (clampLong n)) : l.read (clampLong n) = toInt32 n := by
  have hlong : ¬ Overflows n := fun hover => h (loses_clampLong_iff.mpr (Or.inr hover))
  unfold Overflows at hlong
  unfold read
  rw [if_neg h, clampLong_eq_self (by omega) (by omega)]

end Latch

end SmdControlServer
