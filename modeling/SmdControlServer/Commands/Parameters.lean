import Mathlib.Data.List.Forall2
import SmdControlServer.Commands.Messages

/-!
# Range checks

Each parameter is checked after it has been converted and narrowed.  What the checks see
is `Latch.seen`, for exact integers `seenValues`.
-/

namespace SmdControlServer

open CString Interaction

/-! ## The checks -/

@[simp] theorem moveParametersValid_iff {accel decel jerk speed : Int} :
    moveParametersValid accel decel jerk speed = true ↔
      (1 ≤ accel ∧ accel ≤ 5000) ∧ (1 ≤ decel ∧ decel ≤ 5000) ∧
        (0 ≤ jerk ∧ jerk ≤ 5000) ∧ (0 ≤ speed ∧ speed ≤ 2999999) := by
  unfold moveParametersValid
  simp only [Bool.and_eq_true, Bool.not_eq_true', Bool.or_eq_false_iff,
    decide_eq_false_iff_not]
  omega

@[simp] theorem positionValid_iff {pos : Int} :
    positionValid pos = true ↔ -8388607 ≤ pos ∧ pos ≤ 8388607 := by
  unfold positionValid
  simp only [Bool.not_eq_true', Bool.or_eq_false_iff, decide_eq_false_iff_not]
  omega

@[simp] theorem configurationValid_iff {startingSpeed stepsPerTurn encPulsesPerTurn
    idleCurrentPercentage motorCurrent : Int} :
    configurationValid startingSpeed stepsPerTurn encPulsesPerTurn idleCurrentPercentage
        motorCurrent = true ↔
      (1 ≤ startingSpeed ∧ startingSpeed ≤ 1999999) ∧
        (200 ≤ stepsPerTurn ∧ stepsPerTurn ≤ 32767) ∧
        (1024 ≤ encPulsesPerTurn ∧ encPulsesPerTurn ≤ 1024) ∧
        (0 ≤ idleCurrentPercentage ∧ idleCurrentPercentage ≤ 100) ∧
        (10 ≤ motorCurrent ∧ motorCurrent ≤ 34) := by
  unfold configurationValid
  simp only [Bool.and_eq_true, Bool.not_eq_true', Bool.or_eq_false_iff,
    decide_eq_false_iff_not, bne_eq_false_iff_eq]
  omega

/-! ## Parameters -/

/-- The type a parameter is narrowed to. -/
inductive Width where
  | int16
  | int32
  deriving DecidableEq, Repr

/-- A parameter: its type, and the range its value is checked against. -/
structure Parameter where
  width : Width
  range : Option (Int × Int)
  deriving DecidableEq, Repr

namespace Parameter

/-- The conversion of the `int32_t` that was read. -/
def narrow (p : Parameter) (n : Int) : Int :=
  match p.width with
  | .int16 => toInt16 n
  | .int32 => n

/-- The value lies in the parameter's range. -/
def Accepts (p : Parameter) (n : Int) : Prop :=
  match p.range with
  | none => True
  | some (lo, hi) => lo ≤ n ∧ n ≤ hi

instance (p : Parameter) (n : Int) : Decidable (p.Accepts n) := by
  unfold Accepts
  split
  · exact inferInstanceAs (Decidable True)
  · exact inferInstanceAs (Decidable (_ ∧ _))

end Parameter

/-- One value for each parameter, and each in its range. -/
def InRange (parameters : List Parameter) (values : List Int) : Prop :=
  List.Forall₂ Parameter.Accepts parameters values

instance (parameters : List Parameter) (values : List Int) :
    Decidable (InRange parameters values) :=
  inferInstanceAs (Decidable (List.Forall₂ Parameter.Accepts parameters values))

/-- What the checks see for these results of `strtol`, read from left to right. -/
def Latch.seen : Latch → List Parameter → List StrtolResult → List Int
  | l, p :: parameters, result :: results =>
      p.narrow (l.read result) :: (l.after result).seen parameters results
  | _, _, results => results.map StrtolResult.value

/-- What the checks see for tokens of these exact values. -/
def seenValues (l : Latch) (parameters : List Parameter) (values : List Int) : List Int :=
  l.seen parameters (values.map clampLong)

def acceleration : Parameter := ⟨.int16, some (1, 5000)⟩
def jerkParameter : Parameter := ⟨.int16, some (0, 5000)⟩
def speedParameter : Parameter := ⟨.int32, some (0, 2999999)⟩
def position : Parameter := ⟨.int32, some (-8388607, 8388607)⟩

namespace ParameterCommand

/-- The parameters in the order of the tokens. -/
def parameters : ParameterCommand → List Parameter
  | jogCW => [acceleration, acceleration, jerkParameter, speedParameter]
  | jogCCW => [acceleration, acceleration, jerkParameter, speedParameter]
  | homeCW => [speedParameter, acceleration, acceleration, jerkParameter]
  | homeCCW => [speedParameter, acceleration, acceleration, jerkParameter]
  | relativeMove => [position, acceleration, acceleration, jerkParameter, speedParameter]
  | presetMotorPosition => [position]
  | presetEncoderPosition => [position]
  | saveConfig =>
      [⟨.int32, none⟩, ⟨.int32, none⟩, ⟨.int32, some (1, 1999999)⟩,
        ⟨.int16, some (200, 32767)⟩, ⟨.int16, some (1024, 1024)⟩,
        ⟨.int16, some (0, 100)⟩, ⟨.int16, some (10, 34)⟩]
  | runAssembledDwellMove => [⟨.int32, some (0, 65535)⟩]
  | runAssembledBlendMove => [⟨.int16, some (0, 1)⟩]

/-- The profile that the command runs, if any, has been loaded. -/
def Loaded (c : ParameterCommand) (moveType : SmdAssembledMoveType) : Prop :=
  match c with
  | runAssembledDwellMove => moveType = .dwell
  | runAssembledBlendMove => moveType = .blend
  | _ => True

/-- The two commands that run a profile; the others carry all they are to do in
their own registers. -/
def RunsProfile (c : ParameterCommand) : Prop :=
  c = runAssembledDwellMove ∨ c = runAssembledBlendMove

instance (c : ParameterCommand) : Decidable c.RunsProfile :=
  inferInstanceAs (Decidable (_ ∨ _))

theorem loaded_of_not_runsProfile {c : ParameterCommand} (h : ¬ c.RunsProfile)
    (moveType : SmdAssembledMoveType) : c.Loaded moveType := by
  cases c with
  | runAssembledDwellMove => exact absurd (Or.inl rfl) h
  | runAssembledBlendMove => exact absurd (Or.inr rfl) h
  | _ => trivial

end ParameterCommand

namespace DecimalToken

variable (t : DecimalToken) (ending : LineEnding)

theorem noDigitFirst_ending : NoDigitFirst ending.text := by
  unfold NoDigitFirst
  cases ending <;> simp [LineEnding.text]

theorem strtol_append : strtol (t.text ++ ending.text) = clampLong t.value :=
  strtol_of_denotes t.denotes (noDigitFirst_ending ending)

theorem strtol_text : strtol t.text = clampLong t.value := by
  have h := strtol_append t .none
  rwa [LineEnding.text, List.append_nil] at h

end DecimalToken

theorem Latch.length_seen (l : Latch) (parameters : List Parameter)
    (results : List StrtolResult) : (l.seen parameters results).length = results.length := by
  induction parameters generalizing l results with
  | nil => simp [seen]
  | cons p parameters ih =>
      cases results with
      | nil => rfl
      | cons result results => simp [seen, ih]

theorem length_seenValues (l : Latch) (parameters : List Parameter) (values : List Int) :
    (seenValues l parameters values).length = values.length := by
  unfold seenValues
  rw [l.length_seen, List.length_map]

/-- A wrong number of tokens fails the check. -/
theorem not_inRange_of_length_ne (l : Latch) {parameters : List Parameter}
    {values : List Int} (h : values.length ≠ parameters.length) :
    ¬ InRange parameters (seenValues l parameters values) := by
  intro hrange
  have hlength := List.Forall₂.length_eq hrange
  rw [length_seenValues] at hlength
  exact h hlength.symm

end SmdControlServer
