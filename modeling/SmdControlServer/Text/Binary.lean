import Mathlib.Data.Nat.Bitwise
import Mathlib.Tactic.Ring
import SmdControlServer.Text.Numeral

/-!
# Binary numerals

The text of a number in binary, with a given number of digits, and how it comes from the
hexadecimal numeral: four binary digits for each hexadecimal one.
-/

namespace CString

/-- A binary digit. -/
def bitChar (b : Bool) : Char :=
  if b then '1' else '0'

theorem bitChar_injective {b b' : Bool} (h : bitChar b = bitChar b') : b = b' := by
  revert h
  cases b <;> cases b' <;> decide

/-- The lowest `k` bits of a number, the highest of them first. -/
def binaryText (n : Nat) : Nat → Text
  | 0 => []
  | k + 1 => bitChar (n.testBit k) :: binaryText n k

@[simp] theorem length_binaryText (n k : Nat) : (binaryText n k).length = k := by
  induction k with
  | zero => rfl
  | succ k ih => rw [binaryText, List.length_cons, ih]

/-- The `j`-th character of `k` is the bit `k - 1 - j`. -/
theorem getElem?_binaryText (n : Nat) {k j : Nat} (hj : j < k) :
    (binaryText n k)[j]? = some (bitChar (n.testBit (k - 1 - j))) := by
  induction k generalizing j with
  | zero => exact absurd hj (Nat.not_lt_zero j)
  | succ k ih =>
      rw [binaryText]
      cases j with
      | zero => rfl
      | succ j =>
          rw [List.getElem?_cons_succ, ih (by omega)]
          have hindex : k - 1 - j = k + 1 - 1 - (j + 1) := by omega
          rw [hindex]

theorem binaryText_add (n k m : Nat) :
    binaryText n (k + m) = binaryText (n / 2 ^ m) k ++ binaryText n m := by
  induction k with
  | zero => rw [Nat.zero_add, binaryText, List.nil_append]
  | succ k ih =>
      rw [show k + 1 + m = (k + m) + 1 by omega, binaryText, binaryText, ih,
        Nat.testBit_div_two_pow, List.cons_append]

/-- Higher digits make no difference to the lower bits. -/
theorem binaryText_mod (n : Nat) {k m : Nat} (hk : k ≤ m) :
    binaryText (n % 2 ^ m) k = binaryText n k := by
  induction k with
  | zero => rfl
  | succ k ih =>
      have hbit : (n % 2 ^ m).testBit k = n.testBit k := by
        rw [Nat.testBit_mod_two_pow, decide_eq_true (by omega), Bool.true_and]
      rw [binaryText, binaryText, ih (by omega), hbit]

/-- One more binary digit behind a number. -/
def appendBit (n : Nat) (c : Char) : Nat :=
  2 * n + if c = '1' then 1 else 0

/-- The value of a binary numeral. -/
def binaryValue (s : Text) : Nat :=
  s.foldl appendBit 0

theorem appendBit_bitChar (n : Nat) (b : Bool) : appendBit n (bitChar b) = 2 * n + b.toNat := by
  cases b <;> rfl

theorem foldl_appendBit_binaryText (n k m : Nat) :
    (binaryText n k).foldl appendBit m = m * 2 ^ k + n % 2 ^ k := by
  induction k generalizing m with
  | zero => simp [binaryText, Nat.mod_one]
  | succ k ih =>
      rw [binaryText, List.foldl_cons, ih, appendBit_bitChar, Nat.toNat_testBit,
        Nat.mod_pow_succ]
      ring

/-- Four binary digits in the place of each hexadecimal one. -/
theorem flatMap_formatHex {f : Char → Text}
    (hf : ∀ d < 16, f (hexDigit d) = binaryText d 4) (n : Nat) :
    (formatHex n).flatMap f = binaryText n (4 * (formatHex n).length) := by
  induction n using Nat.strong_induction_on with
  | _ n ih =>
      by_cases hn : n < 16
      · rw [formatHex_of_lt hn, List.flatMap_singleton, hf n hn]
        rfl
      · -- the last digit is the remainder, the others are those of the quotient
        rw [formatHex_of_le (by omega), List.flatMap_append, List.flatMap_singleton,
          ih (n / 16) (by omega), hf (n % 16) (Nat.mod_lt n (by decide)), List.length_append,
          List.length_singleton, Nat.mul_add, Nat.mul_one, binaryText_add]
        have hlow : binaryText (n % 2 ^ 4) 4 = binaryText n 4 := binaryText_mod n (Nat.le_refl 4)
        exact congrArg _ hlow

end CString
