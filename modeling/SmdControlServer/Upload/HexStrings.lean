import SmdControlServer.Upload.StatusBits

/-!
# `hex_string_to_bin_string` on every text

The function goes over the digits and stops at the first character that is none, or where
the next four bits have no room.  So what it has written is made of the digits up to there,
also when it returns -1.  The room is the size that it is given, and the NUL behind the text
is not counted in it.  The counter is an `int`, and it overflows at 536870912 digits if the
buffer has room for the digits before.
-/

namespace SmdControlServer

open CString Interaction

/-- The digits that the `switch` knows. -/
def hexDigitChars : Text :=
  "0123456789ABCDEF".toList

theorem mem_hexDigitChars_iff {c : Char} :
    c ∈ hexDigitChars ↔ ∃ d, d < 16 ∧ c = hexDigit d := by
  have hchars : hexDigitChars = (List.finRange 16).map fun d => hexDigit d.val := by
    decide +kernel
  rw [hchars, List.mem_map]
  constructor
  · rintro ⟨d, _, rfl⟩
    exact ⟨d.val, d.isLt, rfl⟩
  · rintro ⟨d, hd, rfl⟩
    exact ⟨⟨d, hd⟩, List.mem_finRange _, rfl⟩

theorem hexDigitBits_of_not_mem {c : Char} (h : c ∉ hexDigitChars) : hexDigitBits c = none := by
  unfold hexDigitBits
  split
  all_goals first
    | rfl
    | exact absurd (by decide +kernel) h

/-- The digits at the beginning of a text. -/
def leadingDigits (s : Text) : Text :=
  s.takeWhile (· ∈ hexDigitChars)

theorem leadingDigits_of_forall {s : Text} (h : ∀ c ∈ s, c ∈ hexDigitChars) :
    leadingDigits s = s :=
  List.takeWhile_eq_self_iff.mpr fun c hc => by simpa using h c hc

theorem leadingDigits_cons_of_mem {c : Char} (h : c ∈ hexDigitChars) (rest : Text) :
    leadingDigits (c :: rest) = c :: leadingDigits rest := by
  unfold leadingDigits
  rw [List.takeWhile_cons, if_pos (decide_eq_true h)]

theorem leadingDigits_cons_of_not_mem {c : Char} (h : c ∉ hexDigitChars) (rest : Text) :
    leadingDigits (c :: rest) = [] := by
  unfold leadingDigits
  rw [List.takeWhile_cons, if_neg (by simpa using h)]

/-- What the loop appends: the bits of the leading digits, as many as have room. -/
theorem hexStringLoop_output {bufSize i : Nat} (s returnString : Text) :
    (hexStringLoop bufSize s i returnString).2 =
      returnString ++ ((leadingDigits s).take ((bufSize - i) / 4)).flatMap digitBits := by
  induction s generalizing i returnString with
  | nil => simp [hexStringLoop, leadingDigits]
  | cons c rest ih =>
      by_cases hc : c ∈ hexDigitChars
      · obtain ⟨d, hd, rfl⟩ := mem_hexDigitChars_iff.mp hc
        have hbits := hexDigitBits_hexDigit hd
        rw [hexStringLoop, hbits, leadingDigits_cons_of_mem hc]
        dsimp only
        by_cases hfull : i + 4 > bufSize
        · -- no room for the next four bits
          have hnone : (bufSize - i) / 4 = 0 := by omega
          rw [if_pos hfull, hnone, List.take_zero, List.flatMap_nil, List.append_nil]
        · have hroom : (bufSize - i) / 4 = (bufSize - (i + 4)) / 4 + 1 := by omega
          have hlength : (binaryText d 4).length ≤ bufSize := by
            rw [length_binaryText]
            omega
          rw [if_neg hfull, ih, strncat_eq_append hlength, hroom, List.take_succ_cons,
            List.flatMap_cons, digitBits, hbits, Option.getD_some, List.append_assoc]
      · rw [hexStringLoop, hexDigitBits_of_not_mem hc, leadingDigits_cons_of_not_mem hc,
          List.take_nil, List.flatMap_nil, List.append_nil]

/-- All characters are digits, and their bits have room behind the first `i`. -/
def Convertible (bufSize i : Nat) (s : Text) : Prop :=
  (∀ c ∈ s, c ∈ hexDigitChars) ∧ i + 4 * s.length ≤ bufSize

theorem convertible_cons_iff {bufSize i : Nat} {c : Char} {rest : Text} :
    Convertible bufSize i (c :: rest) ↔
      c ∈ hexDigitChars ∧ Convertible bufSize (i + 4) rest := by
  unfold Convertible
  rw [List.forall_mem_cons, List.length_cons, and_assoc, Nat.mul_add, Nat.mul_one,
    Nat.add_comm (4 * rest.length) 4, Nat.add_assoc]

/-- The loop ends with 0 for the texts that can be converted, and with -1 for the others. -/
theorem hexStringLoop_result {bufSize i : Nat} (hi : i ≤ bufSize) (s returnString : Text) :
    (hexStringLoop bufSize s i returnString).1 = 0 ∧ Convertible bufSize i s ∨
      (hexStringLoop bufSize s i returnString).1 = -1 ∧ ¬ Convertible bufSize i s := by
  induction s generalizing i returnString with
  | nil => exact Or.inl ⟨rfl, by simp, hi⟩
  | cons c rest ih =>
      rw [hexStringLoop, convertible_cons_iff]
      by_cases hc : c ∈ hexDigitChars
      · obtain ⟨d, hd, rfl⟩ := mem_hexDigitChars_iff.mp hc
        rw [hexDigitBits_hexDigit hd]
        dsimp only
        by_cases hfull : i + 4 > bufSize
        · rw [if_pos hfull]
          refine Or.inr ⟨rfl, ?_⟩
          rintro ⟨_, _, hroom⟩
          omega
        · rw [if_neg hfull]
          have hrest := ih (i := i + 4) (by omega) (strncat returnString (binaryText d 4) bufSize)
          simpa only [hc, true_and] using hrest
      · rw [hexDigitBits_of_not_mem hc]
        exact Or.inr ⟨rfl, fun h => hc h.1⟩

/-- The `int` overflows if the buffer has room up to its last multiple of four and there is
one digit more.  Otherwise the loop is the one whose counter does not overflow. -/
theorem hexStringLoopInt_eq {bufSize j : Nat} (hroom : 4 * j ≤ bufSize) (hint : j ≤ 536870911)
    (s returnString : Text) :
    hexStringLoopInt bufSize s (4 * j : Nat) returnString =
      if 2147483644 ≤ bufSize ∧ 536870911 < j + (leadingDigits s).length then
        none
      else
        some (hexStringLoop bufSize s (4 * j) returnString) := by
  induction s generalizing j returnString with
  | nil =>
      have hend : ¬ (2147483644 ≤ bufSize ∧ 536870911 < j + (leadingDigits []).length) := by
        simp [leadingDigits, hint]
      rw [if_neg hend]
      rfl
  | cons c rest ih =>
      by_cases hc : c ∈ hexDigitChars
      · obtain ⟨d, hd, rfl⟩ := mem_hexDigitChars_iff.mp hc
        rw [hexStringLoopInt, hexStringLoop, hexDigitBits_hexDigit hd,
          leadingDigits_cons_of_mem hc, List.length_cons]
        dsimp only
        by_cases hlast : j = 536870911
        · rw [if_pos (by omega), if_pos (by omega)]
        · rw [if_neg (by omega)]
          by_cases hfull : 4 * j + 4 > bufSize
          · rw [if_pos (by omega), if_pos hfull, if_neg (by omega)]
          · have hrest := ih (j := j + 1) (by omega) (by omega)
              (strncat returnString (binaryText d 4) bufSize)
            rw [Nat.mul_add, Nat.mul_one] at hrest
            push_cast at hrest ⊢
            rw [if_neg (by omega), if_neg hfull, hrest]
            refine if_congr ?_ rfl rfl
            omega
      · rw [hexStringLoopInt, hexStringLoop, hexDigitBits_of_not_mem hc,
          leadingDigits_cons_of_not_mem hc]
        exact (if_neg (by simp [hint])).symm

/-- The bits of hexadecimal digits are read as their number. -/
theorem binaryValue_flatMap_digitBits {s : Text} (hs : ∀ c ∈ s, c ∈ hexDigitChars) :
    binaryValue (s.flatMap digitBits) = hexValue s := by
  unfold binaryValue hexValue
  have hfrom : ∀ n : Nat, (s.flatMap digitBits).foldl appendBit n =
      s.foldl (fun acc c => 16 * acc + hexDigitValue c) n := by
    induction s with
    | nil => exact fun n => rfl
    | cons c rest ih =>
        intro n
        rw [List.forall_mem_cons] at hs
        obtain ⟨d, hd, rfl⟩ := mem_hexDigitChars_iff.mp hs.1
        have hfour : (digitBits (hexDigit d)).foldl appendBit n = 16 * n + d := by
          rw [digitBits, hexDigitBits_hexDigit hd, Option.getD_some, foldl_appendBit_binaryText,
            Nat.mod_eq_of_lt (by omega)]
          omega
        rw [List.flatMap_cons, List.foldl_append, List.foldl_cons, hfour, ih hs.2,
          hexDigitValue_hexDigit hd]
  exact hfrom 0

/-- The bits of one digit. -/
theorem digitBits_of_mem {c : Char} (h : c ∈ hexDigitChars) :
    (digitBits c).length = 4 ∧ ∀ b ∈ digitBits c, b = '0' ∨ b = '1' := by
  obtain ⟨d, hd, rfl⟩ := mem_hexDigitChars_iff.mp h
  rw [digitBits, hexDigitBits_hexDigit hd, Option.getD_some]
  refine ⟨length_binaryText d 4, ?_⟩
  intro b hb
  simp only [binaryText, List.mem_cons, List.not_mem_nil, or_false] at hb
  rcases hb with rfl | rfl | rfl | rfl
  all_goals
    unfold bitChar
    split <;> simp

theorem length_flatMap_digitBits {s : Text} (hs : ∀ c ∈ s, c ∈ hexDigitChars) :
    (s.flatMap digitBits).length = 4 * s.length := by
  rw [List.length_flatMap, List.map_congr_left fun c hc => (digitBits_of_mem (hs c hc)).1,
    List.map_const', List.sum_replicate_nat, Nat.mul_comm]

/-- The function is its loop over what stands behind the `0x`; the empty text is refused
before it. -/
theorem hexStringToBinString_eq {bufSize : Nat} {input : Text} (h : input ≠ []) :
    hexStringToBinString [] bufSize input =
      hexStringLoop bufSize (skipHexPrefix input) 0 [] := by
  unfold hexStringToBinString
  rw [if_neg (by simpa using h)]

/-- Exactly the empty text, a text with a character that is no digit, and one whose bits are
more than the size are refused.  For all others the output is the number in binary, with four
characters for each digit. -/
def Converted (bufSize : Nat) (input : Text) (result : Int) (output : Text) : Prop :=
  (result = -1 ↔
    input = [] ∨ (∃ c ∈ skipHexPrefix input, c ∉ hexDigitChars) ∨
      bufSize < 4 * (skipHexPrefix input).length) ∧
  (result ≠ -1 →
    result = 0 ∧ output.length = 4 * (skipHexPrefix input).length ∧
      (∀ b ∈ output, b = '0' ∨ b = '1') ∧ binaryValue output = hexValue (skipHexPrefix input))

theorem converted_hexStringToBinString (bufSize : Nat) (input : Text) :
    Converted bufSize input (hexStringToBinString [] bufSize input).1
      (hexStringToBinString [] bufSize input).2 := by
  unfold Converted
  by_cases hempty : input = []
  · subst hempty
    exact ⟨iff_of_true rfl (Or.inl rfl), fun h => absurd rfl h⟩
  · rw [hexStringToBinString_eq hempty]
    have hconvertible : ¬ Convertible bufSize 0 (skipHexPrefix input) ↔
        input = [] ∨ (∃ c ∈ skipHexPrefix input, c ∉ hexDigitChars) ∨
          bufSize < 4 * (skipHexPrefix input).length := by
      unfold Convertible
      rw [not_and_or, or_iff_right hempty]
      push Not
      rw [Nat.zero_add]
    rw [← hconvertible]
    rcases hexStringLoop_result (Nat.zero_le bufSize) (skipHexPrefix input) [] with
      ⟨hresult, hall, hroom⟩ | ⟨hresult, hnot⟩
    · -- every digit has been written out
      have houtput : (hexStringLoop bufSize (skipHexPrefix input) 0 []).2 =
          (skipHexPrefix input).flatMap digitBits := by
        rw [hexStringLoop_output, leadingDigits_of_forall hall, List.nil_append,
          List.take_of_length_le (by omega)]
      rw [hresult, houtput]
      refine ⟨iff_of_false (by decide) (not_not_intro ⟨hall, hroom⟩), fun _ => ⟨rfl, ?_, ?_, ?_⟩⟩
      · exact length_flatMap_digitBits hall
      · intro b hb
        obtain ⟨c, hc, hb⟩ := List.mem_flatMap.mp hb
        exact (digitBits_of_mem (hall c hc)).2 b hb
      · exact binaryValue_flatMap_digitBits hall
    · rw [hresult]
      exact ⟨iff_of_true rfl hnot, fun h => absurd rfl h⟩

/-- The `int` of the loop overflows on these digits in such a buffer. -/
def CounterOverflows (bufSize : Nat) (input : Text) : Prop :=
  2147483644 ≤ bufSize ∧ 536870911 < (leadingDigits (skipHexPrefix input)).length

theorem hexStringToBinStringInt_eq (bufSize : Nat) (input : Text) :
    (CounterOverflows bufSize input → hexStringToBinStringInt [] bufSize input = none) ∧
      (¬ CounterOverflows bufSize input →
        hexStringToBinStringInt [] bufSize input =
          some (hexStringToBinString [] bufSize input)) := by
  have hloop := hexStringLoopInt_eq (j := 0) (Nat.zero_le bufSize) (by decide)
    (skipHexPrefix input) []
  rw [Nat.zero_add] at hloop
  unfold CounterOverflows hexStringToBinStringInt hexStringToBinString
  by_cases hempty : input.length = 0
  · obtain rfl := List.eq_nil_of_length_eq_zero hempty
    exact ⟨fun h => absurd h.2 (by decide), fun _ => rfl⟩
  · rw [if_neg hempty, if_neg hempty]
    exact ⟨fun h => hloop.trans (if_pos h), fun h => hloop.trans (if_neg h)⟩

/-- The function returns, and it has refused or converted the text as it should. -/
def ConvertsHex (bufSize : Nat) (input : Text) : Prop :=
  ∃ result output, hexStringToBinStringInt [] bufSize input = some (result, output) ∧
    Converted bufSize input result output

/-- Every text is refused or converted as it should be, in a buffer of every size, unless the
counter overflows. -/
theorem hex_string_converted_iff (bufSize : Nat) (input : Text) :
    ConvertsHex bufSize input ↔ ¬ CounterOverflows bufSize input := by
  obtain ⟨hnone, hsome⟩ := hexStringToBinStringInt_eq bufSize input
  constructor
  · rintro ⟨result, output, hreturns, _⟩ hover
    rw [hnone hover] at hreturns
    cases hreturns
  · intro hnot
    exact ⟨_, _, hsome hnot, converted_hexStringToBinString bufSize input⟩

/-- The counter overflows on 536870912 zeros, although the buffer has room for all their
bits. -/
theorem counter_overflows_on_zeros :
    4 * (skipHexPrefix (List.replicate 536870912 '0')).length ≤ 2147483648 ∧
      ¬ ConvertsHex 2147483648 (List.replicate 536870912 '0') := by
  have hskip : ∀ n, skipHexPrefix (List.replicate n '0') = List.replicate n '0' := by
    intro n
    match n with
    | 0 => rfl
    | 1 => rfl
    | n + 2 => rfl
  have hover : CounterOverflows 2147483648 (List.replicate 536870912 '0') := by
    refine ⟨by decide, ?_⟩
    rw [hskip, leadingDigits_of_forall, List.length_replicate]
    · decide
    · intro c hc
      rw [List.eq_of_mem_replicate hc]
      decide
  constructor
  · rw [hskip, List.length_replicate]
  · rintro ⟨result, output, hreturns, _⟩
    rw [(hexStringToBinStringInt_eq _ _).1 hover] at hreturns
    cases hreturns

/-! ## The NUL behind the output -/

/-- The text and its NUL are in the buffer. -/
def FitsWithNul (bufSize : Nat) (s : Text) : Prop :=
  s.length + 1 ≤ bufSize

instance (bufSize : Nat) (s : Text) : Decidable (FitsWithNul bufSize s) :=
  inferInstanceAs (Decidable (_ ≤ _))

theorem length_hexStringToBinString (bufSize : Nat) (input : Text) :
    (hexStringToBinString [] bufSize input).2.length =
      4 * min (bufSize / 4) (leadingDigits (skipHexPrefix input)).length := by
  by_cases hempty : input = []
  · subst hempty
    simp [hexStringToBinString, skipHexPrefix, leadingDigits]
  · rw [hexStringToBinString_eq hempty, hexStringLoop_output, List.nil_append, Nat.sub_zero,
      length_flatMap_digitBits, List.length_take]
    intro c hc
    simpa using List.mem_takeWhile_imp (List.mem_of_mem_take hc)

/-- The text fills the buffer if the size is a multiple of four and there are digits enough
for it, and then the NUL is behind the buffer.  (Where the counter overflows, there is no
return to speak of: `hexStringToBinStringInt_eq`.)  The buffer of the first block's status word
has room for 16 characters, so it is overrun by every word of four digits. -/
theorem hex_string_fits_iff (bufSize : Nat) (input : Text) :
    (FitsWithNul bufSize (hexStringToBinString [] bufSize input).2 ↔
      ¬ 4 ∣ bufSize ∨ (leadingDigits (skipHexPrefix input)).length < bufSize / 4) ∧
    ∀ word : BitVec 16,
      FitsWithNul 16 (hexStringToBinString [] 16 (registerText 0 word)).2 ↔
        word.toNat < 0x1000 := by
  constructor
  · unfold FitsWithNul
    rw [length_hexStringToBinString]
    omega
  · intro word
    unfold FitsWithNul
    rw [hexStringToBinString_registerText (by decide)]
    dsimp only
    have hthree := hexDigits_le_iff word (k := 3) (by decide)
    rw [length_binaryText, show (0x1000 : Nat) = 16 ^ 3 from rfl, ← hthree]
    omega

/-- A status word of four digits in the buffer of the first block. -/
theorem nul_behind_the_status_word :
    ¬ ∀ (bufSize : Nat) (input : Text),
      FitsWithNul bufSize (hexStringToBinString [] bufSize input).2 := by
  intro h
  exact absurd (h 16 "0x8300".toList) (by decide +kernel)

end SmdControlServer
