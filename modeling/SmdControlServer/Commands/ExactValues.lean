import SmdControlServer.Commands.LostTokens

/-!
# Exact values

Register writes should follow only from parameters whose exact values are in
range.  The checks come after the conversion to `int32_t` and the narrowing to
`int16_t`, so a message can pass them with other values than the client sent: with
the residues of these values, or with the -1 that stands for a value which was not read.
`Misread` says which messages do.
-/

namespace SmdControlServer

open CString Interaction

/-- A message of the ten commands writes registers when the checks pass on what
they see, the profile to run is loaded, and the drive can be reached. -/
theorem writesRegisters_message_iff {w : World} (hscenario : w.InScenario1)
    (c : ParameterCommand) (tokens : List DecimalToken) (ending : LineEnding) (cl : Int) :
    WritesRegisters (parseSocketInput (c.message tokens ending) cl) w ↔
      InRange c.parameters
          (seenValues w.latch c.parameters (tokens.map DecimalToken.value)) ∧
        c.Loaded w.globals.statusTypeAssembledMove ∧ w.opens := by
  have hdecides := decides_parseSocketInput cl hscenario
    (c.ofMessage_message tokens ending)
  rw [hdecides.writesRegisters_iff fun _ _ _ => ParameterCommand.sentOnce_of_decision,
    ParameterCommand.exists_decision_eq_sends_iff, c.numberOfTokens_message,
    c.splitOn_message, tail_endFields, seenTokens_endFields]
  by_cases hlength : tokens.length = c.parameters.length
  · rw [hlength]
    tauto
  · have hseen : ¬ InRange c.parameters
        (seenValues w.latch c.parameters (tokens.map DecimalToken.value)) := by
      refine not_inRange_of_length_ne w.latch ?_
      rwa [List.length_map]
    constructor
    · rintro ⟨⟨hnumber, _⟩, _⟩
      omega
    · rintro ⟨hin, _⟩
      exact absurd hin hseen

/-! ## Misread values -/

theorem unread_clampLong_iff {n : Int} : Unread (clampLong n) ↔ Overflows n := by
  unfold Unread Overflows
  rw [clampLong_consumed, clampLong_erange_iff]
  simp

/-- The exact values are not all in range, but the message passes its checks: while the
parameters accept -1, a value is outside `long` or `errno` is `ERANGE` when it is read, or
its residue is in range; from the first parameter on that does not accept -1, `errno` is not
`ERANGE`, no value is outside `long` and every residue is in range. -/
def Misread (c : ParameterCommand) (l : Latch) (values : List Int) : Prop :=
  ¬ InRange c.parameters values ∧ Passes l c.parameters (values.map clampLong)

/-- A message passes its checks with values out of range exactly when it is
misread. -/
theorem misread_iff (c : ParameterCommand) (l : Latch) (values : List Int) :
    (InRange c.parameters (seenValues l c.parameters values) ∧
        ¬ InRange c.parameters values) ↔ Misread c l values := by
  unfold Misread seenValues
  rw [inRange_seen_iff c.pairwise_parameters, and_comm]

/-- With `errno` clear, the checks see the residues of values of `long`. -/
theorem inRange_seenValues_iff {l : Latch} (hstuck : l.stuck = false)
    {parameters : List Parameter} {values : List Int} (h : ∀ n ∈ values, ¬ Overflows n) :
    InRange parameters (seenValues l parameters values) ↔
      List.Forall₂ (fun p n => p.Accepts (p.narrow (toInt32 n))) parameters values := by
  unfold seenValues InRange
  induction parameters generalizing values with
  | nil => cases values <;> simp [Latch.seen]
  | cons p parameters ih =>
      cases values with
      | nil => simp [Latch.seen]
      | cons n values =>
          have hread : ¬ l.Loses (clampLong n) :=
            Latch.not_loses hstuck (mt unread_clampLong_iff.mp (h n (by simp)))
          rw [List.map_cons, Latch.seen, Latch.read_clampLong hread,
            Latch.after_of_not_loses hread, List.forall₂_cons, List.forall₂_cons]
          rw [ih fun m hm => h m (List.mem_cons_of_mem _ hm)]

/-- With `errno` clear, values of `long` are misread when their residues are in range and
they are not. -/
theorem misread_iff_residues {c : ParameterCommand} {l : Latch} {values : List Int}
    (hstuck : l.stuck = false) (hvalues : ∀ n ∈ values, ¬ Overflows n) :
    Misread c l values ↔ ¬ InRange c.parameters values ∧
      List.Forall₂ (fun p n => p.Accepts (p.narrow (toInt32 n))) c.parameters values := by
  rw [← misread_iff, inRange_seenValues_iff hstuck hvalues, and_comm]

/-- Where `perror` has replaced `ERANGE`, a position that `long` cannot hold is misread. -/
example : Misread .relativeMove ⟨false, Stream'.const false⟩
    [99999999999999999999, 250, 250, 0, 5000] :=
  (misread_iff _ _ _).mp ⟨by decide, by decide⟩

/-- Register writes follow from a message only when every exact value is in range,
unless the message is misread while the profile it runs, if any, is loaded and the
drive can be reached. -/
theorem registerWrites_exact_iff {w : World} (hscenario : w.InScenario1)
    (c : ParameterCommand) (tokens : List DecimalToken) (ending : LineEnding) (cl : Int) :
    (∀ r w', Runs server (parseSocketInput (c.message tokens ending) cl) w r w' →
        registerWrites (newEvents w w') ≠ [] →
          InRange c.parameters (tokens.map DecimalToken.value)) ↔
      ¬ (c.Loaded w.globals.statusTypeAssembledMove ∧ w.opens ∧
        Misread c w.latch (tokens.map DecimalToken.value)) := by
  have hwrites := writesRegisters_message_iff hscenario c tokens ending cl
  have hproperty : (∀ r w', Runs server (parseSocketInput (c.message tokens ending) cl) w r w' →
      registerWrites (newEvents w w') ≠ [] →
        InRange c.parameters (tokens.map DecimalToken.value)) ↔
      (WritesRegisters (parseSocketInput (c.message tokens ending) cl) w →
        InRange c.parameters (tokens.map DecimalToken.value)) := by
    constructor
    · rintro h ⟨r, w', hrun, hne⟩
      exact h r w' hrun hne
    · intro h r w' hrun hne
      exact h ⟨r, w', hrun, hne⟩
  rw [hproperty, hwrites, ← misread_iff]
  constructor
  · rintro h ⟨hloaded, hopens, hseen, hexact⟩
    exact hexact (h ⟨hseen, hloaded, hopens⟩)
  · rintro h ⟨hseen, hloaded, hopens⟩
    by_contra hexact
    exact h ⟨hloaded, hopens, hseen, hexact⟩

/-- A jog whose four parameters are in range writes registers. -/
theorem registerWrites_exact_jog :
    ∃ r w', Runs server (parseSocketInput (ParameterCommand.jogCW.message
          [DecimalToken.of 250, DecimalToken.of 250, DecimalToken.of 0, DecimalToken.of 5000]
          .newline) 5) World.ready r w' ∧
        registerWrites (newEvents World.ready w') ≠ [] ∧
          InRange ParameterCommand.jogCW.parameters
            ([DecimalToken.of 250, DecimalToken.of 250, DecimalToken.of 0,
              DecimalToken.of 5000].map DecimalToken.value) := by
  have hwrites := writesRegisters_message_iff World.ready_inScenario1 .jogCW
    [DecimalToken.of 250, DecimalToken.of 250, DecimalToken.of 0, DecimalToken.of 5000]
    .newline 5
  obtain ⟨r, w', hrun, hne⟩ := hwrites.mpr ⟨by decide, trivial, World.ready_opens⟩
  have hexact := (registerWrites_exact_iff World.ready_inScenario1 .jogCW
    [DecimalToken.of 250, DecimalToken.of 250, DecimalToken.of 0, DecimalToken.of 5000]
    .newline 5).mpr fun h => h.2.2.1 (by decide)
  exact ⟨r, w', hrun, hne, hexact r w' hrun hne⟩

/-- An acceleration of 65786 is taken for 250. -/
theorem jog_misread :
    ParameterCommand.jogCW.message
        [DecimalToken.of 65786, DecimalToken.of 250, DecimalToken.of 0, DecimalToken.of 5000]
        .newline = "jogCW,65786,250,0,5000\n".toList ∧
      (∃ r w', Runs server (parseSocketInput "jogCW,65786,250,0,5000\n".toList 5)
          World.ready r w' ∧ registerWrites (newEvents World.ready w') ≠ []) ∧
      ¬ InRange ParameterCommand.jogCW.parameters [65786, 250, 0, 5000] := by
  have hmessage : ParameterCommand.jogCW.message
      [DecimalToken.of 65786, DecimalToken.of 250, DecimalToken.of 0, DecimalToken.of 5000]
      .newline = "jogCW,65786,250,0,5000\n".toList := by decide
  have hwrites := writesRegisters_message_iff World.ready_inScenario1 .jogCW
    [DecimalToken.of 65786, DecimalToken.of 250, DecimalToken.of 0, DecimalToken.of 5000]
    .newline 5
  rw [hmessage] at hwrites
  refine ⟨hmessage, hwrites.mpr ⟨?_, trivial, World.ready_opens⟩, ?_⟩
  · decide
  · decide

end SmdControlServer
