import SmdControlServer.Text.CString
import Mathlib.Tactic.Linarith

/-!
# Numerals in C strings

`strtol` in base ten with a 64-bit `long`, the conversions `%d` and `%X` of
`printf`, and how they invert each other.  Narrowing to the fixed-width types
is reduction to the balanced residue.
-/

namespace CString

/-- `LONG_MAX` and `LONG_MIN` of a 64-bit `long`. -/
def longMax : Int := 9223372036854775807
def longMin : Int := -9223372036854775808

/-- Conversion to `int16_t`. -/
def toInt16 (n : Int) : Int := (n + 32768) % 65536 - 32768

/-- Conversion to `int32_t`. -/
def toInt32 (n : Int) : Int := (n + 2147483648) % 4294967296 - 2147483648

theorem toInt16_eq_self {n : Int} (hlo : -32768 ≤ n) (hhi : n ≤ 32767) :
    toInt16 n = n := by
  unfold toInt16
  omega

theorem toInt32_eq_self {n : Int} (hlo : -2147483648 ≤ n) (hhi : n ≤ 2147483647) :
    toInt32 n = n := by
  unfold toInt32
  omega

/-! ## `strtol` -/

/-- `isspace` in the C locale. -/
def isSpace (c : Char) : Bool :=
  c == ' ' || c == '\t' || c == '\n' || c == '\x0b' || c == '\x0c' || c == '\r'

/-- What `strtol(str, &end, 10)` reports. -/
structure StrtolResult where
  /-- the returned `long` -/
  value : Int
  /-- `end != str` -/
  consumed : Bool
  /-- the call set `errno` to `ERANGE` -/
  erange : Bool
  deriving DecidableEq, Repr

/-- The sign character that `strtol` accepts, and the text after it. -/
def splitSign : Text → Bool × Text
  | '-' :: rest => (true, rest)
  | '+' :: rest => (false, rest)
  | s => (false, s)

/-- A value outside `long` is clamped to the nearer bound and reported. -/
def clampLong (n : Int) : StrtolResult :=
  if longMax < n then
    { value := longMax, consumed := true, erange := true }
  else if n < longMin then
    { value := longMin, consumed := true, erange := true }
  else
    { value := n, consumed := true, erange := false }

/-- `strtol(str, &end, 10)`. -/
def strtol (str : Text) : StrtolResult :=
  let signed := splitSign (str.dropWhile isSpace)
  let digits := signed.2.takeWhile Char.isDigit
  if digits.isEmpty then
    { value := 0, consumed := false, erange := false }
  else if signed.1 then
    clampLong (-(Nat.ofDigitChars 10 digits 0 : Int))
  else
    clampLong (Nat.ofDigitChars 10 digits 0)

/-- `Denotes s n`: the whole text is a decimal integer, with an optional sign,
and `n` is its exact value. -/
inductive Denotes : Text → Int → Prop
  | unsigned {digits : Text} (hne : digits ≠ [])
      (hdigits : ∀ c ∈ digits, c.isDigit = true) :
      Denotes digits (Nat.ofDigitChars 10 digits 0)
  | plus {digits : Text} (hne : digits ≠ [])
      (hdigits : ∀ c ∈ digits, c.isDigit = true) :
      Denotes ('+' :: digits) (Nat.ofDigitChars 10 digits 0)
  | minus {digits : Text} (hne : digits ≠ [])
      (hdigits : ∀ c ∈ digits, c.isDigit = true) :
      Denotes ('-' :: digits) (-(Nat.ofDigitChars 10 digits 0 : Int))

/-- A text whose first character, if any, is no digit. -/
def NoDigitFirst (s : Text) : Prop :=
  ∀ c ∈ s.head?, c.isDigit = false

theorem isSpace_of_isDigit {c : Char} (h : c.isDigit = true) : isSpace c = false := by
  unfold isSpace
  have hne : ∀ d : Char, d.isDigit = false → (c == d) = false := by
    intro d hd
    by_contra hcd
    rw [Bool.not_eq_false, beq_iff_eq] at hcd
    rw [hcd, hd] at h
    contradiction
  simp [hne ' ' (by decide), hne '\t' (by decide), hne '\n' (by decide),
    hne '\x0b' (by decide), hne '\x0c' (by decide), hne '\r' (by decide)]

theorem splitSign_of_digits {digits : Text} (hne : digits ≠ [])
    (hdigits : ∀ c ∈ digits, c.isDigit = true) (rest : Text) :
    splitSign (digits ++ rest) = (false, digits ++ rest) := by
  cases digits with
  | nil => exact absurd rfl hne
  | cons c ds =>
      have hc := hdigits c (by simp)
      simp only [List.cons_append]
      unfold splitSign
      split
      · rename_i heq
        rw [(List.cons.inj heq).1] at hc
        simp at hc
      · rename_i heq
        rw [(List.cons.inj heq).1] at hc
        simp at hc
      · rfl

theorem takeWhile_digits {digits rest : Text}
    (hdigits : ∀ c ∈ digits, c.isDigit = true) (hrest : NoDigitFirst rest) :
    (digits ++ rest).takeWhile Char.isDigit = digits := by
  rw [List.takeWhile_append_of_pos hdigits]
  cases rest with
  | nil => simp
  | cons c cs =>
      have hc : c.isDigit = false := hrest c (by simp)
      simp [hc]

/-- `strtol` on a decimal integer reads its exact value, clamped to `long`. -/
theorem strtol_of_denotes {s rest : Text} {n : Int} (h : Denotes s n)
    (hrest : NoDigitFirst rest) : strtol (s ++ rest) = clampLong n := by
  -- no sign, a plus or a minus: strtol drops it and then takes the digits
  cases h with
  | unsigned hne hdigits =>
      cases s with
      | nil => exact absurd rfl hne
      | cons c ds =>
          have hspace := isSpace_of_isDigit (hdigits c (by simp))
          have hdrop : ((c :: ds) ++ rest).dropWhile isSpace = (c :: ds) ++ rest := by
            simp [hspace]
          unfold strtol
          rw [hdrop, splitSign_of_digits hne hdigits]
          simp only [takeWhile_digits hdigits hrest]
          simp
  | plus hne hdigits =>
      rename_i ds
      have hdrop : (('+' :: ds) ++ rest).dropWhile isSpace = ('+' :: ds) ++ rest := by
        simp [isSpace]
      unfold strtol
      rw [hdrop]
      simp only [List.cons_append, splitSign, takeWhile_digits hdigits hrest]
      simp [hne]
  | minus hne hdigits =>
      rename_i ds
      have hdrop : (('-' :: ds) ++ rest).dropWhile isSpace = ('-' :: ds) ++ rest := by
        simp [isSpace]
      unfold strtol
      rw [hdrop]
      simp only [List.cons_append, splitSign, takeWhile_digits hdigits hrest]
      simp [hne]

theorem clampLong_eq_self {n : Int} (hlo : longMin ≤ n) (hhi : n ≤ longMax) :
    clampLong n = { value := n, consumed := true, erange := false } := by
  unfold clampLong
  rw [if_neg (by omega), if_neg (by omega)]

theorem clampLong_erange_iff (n : Int) :
    (clampLong n).erange = true ↔ n < longMin ∨ longMax < n := by
  unfold clampLong
  split
  · simp only [true_iff]
    exact Or.inr ‹_›
  · split
    · simp only [true_iff]
      exact Or.inl ‹_›
    · simp only [Bool.false_eq_true, false_iff]
      omega

@[simp] theorem clampLong_consumed (n : Int) : (clampLong n).consumed = true := by
  unfold clampLong
  split
  · rfl
  · split <;> rfl

theorem ofDigitChars_lt {digits : Text} (h : ∀ c ∈ digits, c.isDigit = true) :
    Nat.ofDigitChars 10 digits 0 < 10 ^ digits.length := by
  induction digits using List.reverseRecOn with
  | nil => decide
  | append_singleton digits c ih =>
      have hc : c.toNat - '0'.toNat < 10 := by
        have hdigit : c.isDigit = true := h c (by simp)
        have hbounds : 48 ≤ c.toNat ∧ c.toNat ≤ 57 := Char.isDigit_iff_toNat.mp hdigit
        show c.toNat - 48 < 10
        omega
      have hinit := ih fun d hd => h d (List.mem_append_left _ hd)
      rw [Nat.ofDigitChars_append, Nat.ofDigitChars_cons, Nat.ofDigitChars_nil,
        List.length_append, List.length_singleton, pow_succ]
      omega

theorem splitSign_append {s : Text} (hne : s ≠ []) (tail : Text) :
    splitSign (s ++ tail) = ((splitSign s).1, (splitSign s).2 ++ tail) := by
  cases s with
  | nil => exact absurd rfl hne
  | cons c rest =>
      rw [List.cons_append]
      unfold splitSign
      split <;> simp_all

/-- White space behind a token changes nothing. -/
theorem strtol_append_space {c : Char} (hc : isSpace c = true) (s : Text) :
    strtol (s ++ [c]) = strtol s := by
  have hdigit : c.isDigit = false := by
    by_contra hdigit
    rw [isSpace_of_isDigit (Bool.not_eq_false _ ▸ hdigit)] at hc
    cases hc
  have htake : ∀ t : Text, (t ++ [c]).takeWhile Char.isDigit = t.takeWhile Char.isDigit := by
    intro t
    rw [List.takeWhile_append]
    split
    · rename_i hall
      rw [List.takeWhile_cons_of_neg (by simp [hdigit]), List.append_nil]
      exact ((List.takeWhile_prefix _).eq_of_length hall).symm
    · rfl
  by_cases hblank : s.dropWhile isSpace = []
  · have hdrop : (s ++ [c]).dropWhile isSpace = [] := by
      rw [List.dropWhile_append, hblank]
      simp [hc]
    unfold strtol
    rw [hblank, hdrop]
  · have hdrop : (s ++ [c]).dropWhile isSpace = s.dropWhile isSpace ++ [c] := by
      rw [List.dropWhile_append]
      exact if_neg (by simpa [List.isEmpty_iff] using hblank)
    unfold strtol
    rw [hdrop, splitSign_append hblank]
    simp only [htake]

theorem length_splitSign_le (s : Text) : (splitSign s).2.length ≤ s.length := by
  unfold splitSign
  split
  · simp
  · simp
  · exact le_refl _

theorem clampLong_erange_of_natAbs {n : Int} (h : n.natAbs < 10 ^ 18) :
    (clampLong n).erange = false := by
  rw [clampLong_eq_self]
  · unfold longMin
    omega
  · unfold longMax
    omega

/-- A text of at most 18 characters has no number outside `long` in front. -/
theorem strtol_erange_of_length {s : Text} (h : s.length ≤ 18) :
    (strtol s).erange = false := by
  let digits := (splitSign (s.dropWhile isSpace)).2.takeWhile Char.isDigit
  have hlength : digits.length ≤ 18 :=
    calc digits.length ≤ (splitSign (s.dropWhile isSpace)).2.length :=
          (List.takeWhile_sublist _).length_le
      _ ≤ (s.dropWhile isSpace).length := length_splitSign_le _
      _ ≤ s.length := (List.dropWhile_sublist _).length_le
      _ ≤ 18 := h
  have hvalue : Nat.ofDigitChars 10 digits 0 < 10 ^ 18 :=
    lt_of_lt_of_le (ofDigitChars_lt fun c hc => List.mem_takeWhile_imp hc)
      (Nat.pow_le_pow_right (by decide) hlength)
  show (if digits.isEmpty then _ else if _ then _ else _ : StrtolResult).erange = false
  split
  · rfl
  · split
    · exact clampLong_erange_of_natAbs (by rw [Int.natAbs_neg]; exact hvalue)
    · exact clampLong_erange_of_natAbs hvalue

/-- The characters of a decimal integer are digits and signs. -/
theorem Denotes.chars {s : Text} {n : Int} (h : Denotes s n) :
    ∀ c ∈ s, c.isDigit = true ∨ c = '+' ∨ c = '-' := by
  intro c hc
  cases h with
  | unsigned _ hdigits => exact Or.inl (hdigits c hc)
  | plus _ hdigits =>
      rcases List.mem_cons.mp hc with rfl | hc
      · exact Or.inr (Or.inl rfl)
      · exact Or.inl (hdigits c hc)
  | minus _ hdigits =>
      rcases List.mem_cons.mp hc with rfl | hc
      · exact Or.inr (Or.inr rfl)
      · exact Or.inl (hdigits c hc)

/-! ## `%d` -/

/-- The text `%d` prints. -/
def formatInt (n : Int) : Text :=
  if n < 0 then '-' :: Nat.toDigits 10 n.natAbs else Nat.toDigits 10 n.natAbs

theorem isDigit_of_mem_toDigits {n : Nat} {c : Char} (h : c ∈ Nat.toDigits 10 n) :
    c.isDigit = true :=
  Nat.isDigit_of_mem_toDigits (by decide) (by decide) h

theorem formatInt_denotes (n : Int) : Denotes (formatInt n) n := by
  have hne := Nat.toDigits_ne_nil (n := n.natAbs) (b := 10)
  have hdigits : ∀ c ∈ Nat.toDigits 10 n.natAbs, c.isDigit = true :=
    fun _ hc => isDigit_of_mem_toDigits hc
  have hvalue : Nat.ofDigitChars 10 (Nat.toDigits 10 n.natAbs) 0 = n.natAbs :=
    Nat.ofDigitChars_ten_toDigits
  by_cases hn : n < 0
  · have h := Denotes.minus hne hdigits
    rw [hvalue] at h
    rw [formatInt, if_pos hn]
    convert h using 1
    omega
  · have h := Denotes.unsigned hne hdigits
    rw [hvalue] at h
    rw [formatInt, if_neg hn]
    convert h using 1
    omega

/-- `strtol` reads back what `%d` prints. -/
theorem strtol_formatInt {n : Int} (hlo : longMin ≤ n) (hhi : n ≤ longMax) :
    (strtol (formatInt n)).value = n := by
  have hrest : NoDigitFirst [] := by
    intro c hc
    simp at hc
  have h := strtol_of_denotes (formatInt_denotes n) hrest
  rw [List.append_nil] at h
  rw [h, clampLong_eq_self hlo hhi]

theorem length_formatInt_le {n : Int} {k : Nat} (hk : 0 < k)
    (hn : n.natAbs < 10 ^ k) : (formatInt n).length ≤ k + 1 := by
  have h : (Nat.toDigits 10 n.natAbs).length ≤ k :=
    (Nat.length_toDigits_le_iff (by decide) hk).mpr hn
  unfold formatInt
  split
  · rw [List.length_cons]
    omega
  · omega

theorem length_formatInt_pos (n : Int) : 0 < (formatInt n).length := by
  unfold formatInt
  have hpos := Nat.length_toDigits_pos (b := 10) (n := n.natAbs)
  split
  · rw [List.length_cons]
    omega
  · exact hpos

/-! ## `%X` -/

/-- The digit characters of `%X`. -/
def hexDigit (d : Nat) : Char :=
  (Nat.digitChar d).toUpper

/-- The text `%X` prints. -/
def formatHex (n : Nat) : Text :=
  (Nat.toDigits 16 n).map Char.toUpper

/-- The value of an upper-case hexadecimal digit. -/
def hexDigitValue (c : Char) : Nat :=
  if c.isDigit then c.toNat - 48 else c.toNat - 55

/-- The value of an upper-case hexadecimal numeral. -/
def hexValue (s : Text) : Nat :=
  s.foldl (fun acc c => 16 * acc + hexDigitValue c) 0

theorem hexDigitValue_hexDigit {d : Nat} (hd : d < 16) :
    hexDigitValue (hexDigit d) = d := by
  have h : ∀ d : Fin 16, hexDigitValue (hexDigit d.val) = d.val := by decide
  exact h ⟨d, hd⟩

theorem formatHex_of_lt {d : Nat} (hd : d < 16) : formatHex d = [hexDigit d] := by
  rw [formatHex, Nat.toDigits_of_lt_base hd]
  rfl

theorem formatHex_of_le {n : Nat} (hn : 16 ≤ n) :
    formatHex n = formatHex (n / 16) ++ [hexDigit (n % 16)] := by
  rw [formatHex, Nat.toDigits_of_base_le (by decide) hn, List.map_append]
  rfl

theorem hexValue_append_digit (s : Text) (c : Char) :
    hexValue (s ++ [c]) = 16 * hexValue s + hexDigitValue c := by
  simp [hexValue, List.foldl_append]

/-- Reading the hexadecimal numeral gives the number back. -/
theorem hexValue_formatHex (n : Nat) : hexValue (formatHex n) = n := by
  induction n using Nat.strong_induction_on with
  | _ n ih =>
      by_cases hn : n < 16
      · rw [formatHex_of_lt hn]
        simp [hexValue, hexDigitValue_hexDigit hn]
      · rw [formatHex_of_le (by omega), hexValue_append_digit, ih (n / 16) (by omega),
          hexDigitValue_hexDigit (Nat.mod_lt n (by decide))]
        omega

theorem mem_formatHex {n : Nat} {c : Char} (h : c ∈ formatHex n) :
    ∃ d, d < 16 ∧ c = hexDigit d := by
  induction n using Nat.strong_induction_on with
  | _ n ih =>
      by_cases hn : n < 16
      · rw [formatHex_of_lt hn, List.mem_singleton] at h
        exact ⟨n, hn, h⟩
      · rw [formatHex_of_le (by omega)] at h
        rcases List.mem_append.mp h with hinit | hlast
        · exact ih (n / 16) (by omega) hinit
        · rw [List.mem_singleton] at hlast
          exact ⟨n % 16, Nat.mod_lt n (by decide), hlast⟩

theorem length_formatHex_le_iff {n k : Nat} (hk : 0 < k) :
    (formatHex n).length ≤ k ↔ n < 16 ^ k := by
  rw [formatHex, List.length_map]
  exact Nat.length_toDigits_le_iff (by decide) hk

theorem length_formatHex_pos (n : Nat) : 0 < (formatHex n).length := by
  rw [formatHex, List.length_map]
  exact Nat.length_toDigits_pos

end CString
