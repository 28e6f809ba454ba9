import SmdControlServer.Commands.Registers

/-!
# The two words of a number

`convert_int_to_words` works with absolute values and puts the sign back at the end.  None of
its operations overflows, the smallest `int32_t` included.  The two words are then narrowed,
and the upper one is what limits the numbers that survive that.  `SMD_jog` and
`SMD_set_configuration` split their speeds by themselves, without the signs, which the speeds
that they accept do not need.
-/

namespace SmdControlServer

open CString Interaction

instance (n : Int) : Decidable (IsInt32 n) :=
  inferInstanceAs (Decidable (_ ∧ _))

/-- What an operation on two `int32_t` gives: nothing, when it overflows. -/
def int32 (n : Int) : Option Int :=
  if IsInt32 n then some n else none

theorem int32_of_isInt32 {n : Int} (h : IsInt32 n) : int32 n = some n :=
  if_pos h

/-- The words of `convert_int_to_words` before they are narrowed, with every operation
checked, lower word first. -/
def checkedWords (number : Int) : Option (Int × Int) := do
  let quotient ← int32 (number.tdiv 1000)
  let magnitude ← int32 quotient.natAbs
  let (posLw, posUw) ←
    if magnitude > 0 then do
      let remainder ← int32 (number.tmod 1000)
      let posLw ← int32 remainder.natAbs
      let difference ← int32 (number - remainder)
      let thousands ← int32 difference.natAbs
      let posUw ← int32 (thousands.tdiv 1000)
      pure (posLw, posUw)
    else do
      let posLw ← int32 number.natAbs
      pure (posLw, 0)
  if number < 0 then do
    let posUw ← int32 (posUw * -1)
    let posLw ← int32 (posLw * -1)
    pure (posLw, posUw)
  else
    pure (posLw, posUw)

/-- No operation overflows, not even the absolute values next to the smallest number. -/
theorem checkedWords_eq {n : Int} (h : IsInt32 n) : checkedWords n = some (splitIntoWords n) := by
  obtain ⟨hn, hsigns⟩ := tdiv_thousand_cases n
  have hthousands : ((n - n.tmod 1000).natAbs : Int).tdiv 1000 = (n.tdiv 1000).natAbs := by
    rw [Int.tdiv_eq_ediv_of_nonneg (by omega)]
    omega
  unfold IsInt32 at h
  have hquotient : IsInt32 (n.tdiv 1000) := by constructor <;> omega
  have hmagnitude : IsInt32 (n.tdiv 1000).natAbs := by constructor <;> omega
  have hremainder : IsInt32 (n.tmod 1000) := by constructor <;> omega
  have hlower : IsInt32 (n.tmod 1000).natAbs := by constructor <;> omega
  have hdifference : IsInt32 (n - n.tmod 1000) := by constructor <;> omega
  have hdistance : IsInt32 (n - n.tmod 1000).natAbs := by constructor <;> omega
  have hupperBack : IsInt32 (((n.tdiv 1000).natAbs : Int) * -1) := by constructor <;> omega
  have hlowerBack : IsInt32 (((n.tmod 1000).natAbs : Int) * -1) := by constructor <;> omega
  unfold checkedWords splitIntoWords
  rw [int32_of_isInt32 hquotient]
  simp only [Option.bind_eq_bind, Option.bind_some, int32_of_isInt32 hmagnitude]
  by_cases hlarge : (n.tdiv 1000).natAbs > 0
  · have hlarge' : ((n.tdiv 1000).natAbs : Int) > 0 := by omega
    simp only [hlarge, hlarge', if_true, Option.bind_some, Option.pure_def,
      int32_of_isInt32 hremainder, int32_of_isInt32 hlower, int32_of_isInt32 hdifference,
      int32_of_isInt32 hdistance, hthousands, int32_of_isInt32 hmagnitude,
      int32_of_isInt32 hupperBack, int32_of_isInt32 hlowerBack]
    split <;> rfl
  · -- below a thousand the number is its own lower word
    have hlarge' : ¬ ((n.tdiv 1000).natAbs : Int) > 0 := by omega
    have hwhole : IsInt32 (n.natAbs : Int) := by constructor <;> omega
    have hwholeBack : IsInt32 ((n.natAbs : Int) * -1) := by constructor <;> omega
    have hzero : IsInt32 ((0 : Int) * -1) := by decide
    simp only [hlarge, hlarge', if_false, Option.bind_some, Option.pure_def,
      int32_of_isInt32 hwhole, int32_of_isInt32 hwholeBack, int32_of_isInt32 hzero]
    split <;> rfl

/-- The narrowing keeps the quotient if it is an `int16_t`, and it always keeps the
remainder. -/
theorem narrowed_value_iff (n : Int) (h : IsInt32 n) :
    1000 * (convertIntToWords n).upperWord + (convertIntToWords n).lowerWord = n ↔
      -32768999 ≤ n ∧ n ≤ 32767999 := by
  obtain ⟨hn, hsigns⟩ := tdiv_thousand_cases n
  unfold IsInt32 at h
  have hlower : toInt16 (n.tmod 1000) = n.tmod 1000 :=
    toInt16_eq_self (by omega) (by omega)
  have hupper : toInt16 (n.tdiv 1000) = n.tdiv 1000 ↔
      -32768 ≤ n.tdiv 1000 ∧ n.tdiv 1000 ≤ 32767 := by
    unfold toInt16
    omega
  unfold convertIntToWords
  rw [splitIntoWords_eq]
  dsimp only
  rw [hlower]
  constructor
  · intro hvalue
    have hkept := hupper.mp (by omega)
    omega
  · intro hrange
    rw [hupper.mpr (by omega)]
    exact hn.symm

/-- The inline splits give the same words for the speeds that stand before them. -/
theorem inlineSpeedWords_eq_convertIntToWords {speed : Int} (hlo : 0 ≤ speed)
    (hhi : speed ≤ 32767999) :
    inlineSpeedWords speed =
      ((convertIntToWords speed).lowerWord, (convertIntToWords speed).upperWord) := by
  rw [inlineSpeedWords_eq hlo hhi, convertIntToWords_eq (by omega) hhi]

/-- For every `int32_t` the words are computed without overflow, they have the number's sign,
and a thousand times the upper one and the lower one are the number; narrowed, they still are
for exactly the numbers from -32768999 to 32767999.  The programs of `SMD_jog` and
`SMD_set_configuration` carry the same words for every speed that these accept. -/
theorem words_of_every_int (n : Int32) :
    (∃ lower upper : Int, checkedWords n.toInt = some (lower, upper) ∧
      1000 * upper + lower = n.toInt ∧ lower.natAbs ≤ 999 ∧
      (0 ≤ n.toInt → 0 ≤ upper ∧ 0 ≤ lower) ∧ (n.toInt ≤ 0 → upper ≤ 0 ∧ lower ≤ 0) ∧
      convertIntToWords n.toInt = ⟨toInt16 lower, toInt16 upper⟩ ∧
      (1000 * toInt16 upper + toInt16 lower = n.toInt ↔
        -32768999 ≤ n.toInt ∧ n.toInt ≤ 32767999)) ∧
    (∀ direction accel decel jerk, moveParametersValid accel decel jerk n.toInt = true →
      (jogProgram direction accel decel jerk n.toInt).values =
        [0, 32768, 0, 0, (convertIntToWords n.toInt).upperWord,
          (convertIntToWords n.toInt).lowerWord, accel, decel, 0, jerk,
          if direction = 0 then 128 else 256]) ∧
    ∀ controlWord configWord stepsPerTurn encPulsesPerTurn idleCurrentPercentage motorCurrent,
      configurationValid n.toInt stepsPerTurn encPulsesPerTurn idleCurrentPercentage
        motorCurrent = true →
      (setConfigurationProgram controlWord configWord n.toInt stepsPerTurn encPulsesPerTurn
        idleCurrentPercentage motorCurrent).values =
        [configWord, controlWord, (convertIntToWords n.toInt).upperWord,
          (convertIntToWords n.toInt).lowerWord, stepsPerTurn, encPulsesPerTurn,
          idleCurrentPercentage, motorCurrent] := by
  have hint : IsInt32 n.toInt := ⟨n.le_toInt, by have := n.toInt_lt; omega⟩
  refine ⟨⟨n.toInt.tmod 1000, n.toInt.tdiv 1000, ?_⟩, ?_, ?_⟩
  · obtain ⟨hn, hsigns⟩ := tdiv_thousand_cases n.toInt
    have hwords : convertIntToWords n.toInt =
        ⟨toInt16 (n.toInt.tmod 1000), toInt16 (n.toInt.tdiv 1000)⟩ := by
      unfold convertIntToWords
      rw [splitIntoWords_eq]
    have hnarrowed := narrowed_value_iff n.toInt hint
    rw [hwords] at hnarrowed
    refine ⟨?_, hn.symm, by omega, ?_, ?_, hwords, hnarrowed⟩
    · rw [checkedWords_eq hint, splitIntoWords_eq]
    · intro hnonneg
      constructor <;> omega
    · intro hnonpos
      constructor <;> omega
  · intro direction accel decel jerk hvalid
    obtain ⟨_, _, _, hlo, hhi⟩ := moveParametersValid_iff.mp hvalid
    unfold jogProgram
    dsimp only
    rw [inlineSpeedWords_eq_convertIntToWords hlo (by omega)]
  · intro controlWord configWord stepsPerTurn encPulsesPerTurn idleCurrentPercentage
      motorCurrent hvalid
    obtain ⟨⟨hlo, hhi⟩, _⟩ := configurationValid_iff.mp hvalid
    unfold setConfigurationProgram
    dsimp only
    rw [inlineSpeedWords_eq_convertIntToWords (by omega) (by omega)]

end SmdControlServer
