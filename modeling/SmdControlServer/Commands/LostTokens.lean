import SmdControlServer.Commands.Programs

/-!
# Lost tokens

A token in which `strtol` finds no integer, or one that is out of its range, is read
as -1, and the checks do not know it from a token that says -1.  So such a message is
refused when -1 is out of the parameter's range.  It is not where the parameter is a
position, or one of the two words of the configuration, which have no range, unless
`errno` is `ERANGE` once these have been read: then the next token is lost too.
-/

namespace SmdControlServer

open CString Interaction

/-- `strtol` finds no integer at the start of the token, or one out of its range. -/
def Garbled (token : Text) : Prop :=
  Unread (strtol token)

instance (token : Text) : Decidable (Garbled token) :=
  inferInstanceAs (Decidable (Unread _))

/-- A parameter that does not accept -1. -/
def RejectsLost (p : Parameter) : Prop :=
  ¬ p.Accepts (p.narrow (-1))

instance (p : Parameter) : Decidable (RejectsLost p) :=
  inferInstanceAs (Decidable (¬ _))

/-! ## Where the checks notice -/

/-- Each token is an integer of `long` that its parameter accepts. -/
def AcceptedAsRead (parameters : List Parameter) (results : List StrtolResult) : Prop :=
  List.Forall₂ (fun p result => ¬ Unread result ∧ p.Accepts (p.narrow (toInt32 result.value)))
    parameters results

/-- The tokens pass the checks.  While the parameters accept -1, a token is lost or accepted.
From the first parameter on that does not accept -1, `errno` is not `ERANGE` and every
token is accepted as it is read. -/
def Passes : Latch → List Parameter → List StrtolResult → Prop
  | l, p :: parameters, result :: results =>
      if RejectsLost p then
        l.stuck = false ∧ AcceptedAsRead (p :: parameters) (result :: results)
      else
        (l.Loses result ∨ p.Accepts (p.narrow (toInt32 result.value))) ∧
          Passes (l.after result) parameters results
  | _, parameters, results => parameters = [] ∧ results = []

theorem AcceptedAsRead.not_unread {parameters : List Parameter} {results : List StrtolResult}
    (h : AcceptedAsRead parameters results) : ∀ result ∈ results, ¬ Unread result := by
  unfold AcceptedAsRead at h
  induction h with
  | nil => simp
  | cons hfirst _ ih =>
      rw [List.forall_mem_cons]
      exact ⟨hfirst.1, ih⟩

section

variable {l : Latch} {p : Parameter} {parameters : List Parameter} {result : StrtolResult}
  {results : List StrtolResult}

/-- A parameter that does not accept -1 accepts no lost token. -/
theorem accepts_read_iff (hrejects : RejectsLost p) :
    p.Accepts (p.narrow (l.read result)) ↔
      ¬ l.Loses result ∧ p.Accepts (p.narrow (toInt32 result.value)) := by
  by_cases hloses : l.Loses result
  · rw [Latch.read_of_loses hloses]
    exact iff_of_false hrejects fun h => h.1 hloses
  · rw [Latch.read, if_neg hloses, and_iff_right hloses]

/-- Where no parameter accepts -1 and `errno` is clear, each token goes by its own text. -/
theorem inRange_seen_iff_of_rejects (hrejects : ∀ q ∈ parameters, RejectsLost q)
    (hstuck : l.stuck = false) :
    InRange parameters (l.seen parameters results) ↔ AcceptedAsRead parameters results := by
  unfold InRange AcceptedAsRead
  induction parameters generalizing results with
  | nil => cases results <;> simp [Latch.seen]
  | cons p parameters ih =>
      cases results with
      | nil => simp [Latch.seen]
      | cons result results =>
          have hread : l.Loses result ↔ Unread result := by
            rw [Latch.loses_iff, hstuck]
            simp
          rw [Latch.seen, List.forall₂_cons, List.forall₂_cons,
            accepts_read_iff (hrejects p (by simp)), hread]
          refine and_congr_right fun hfirst => ?_
          rw [Latch.after_of_not_loses (Latch.not_loses hstuck hfirst.1)]
          exact ih fun q hq => hrejects q (by simp [hq])

/-- If no parameter accepts -1, a token that is not read fails the checks. -/
theorem not_inRange_of_unread (hrejects : ∀ q ∈ parameters, RejectsLost q)
    (hunread : ∃ result ∈ results, Unread result) :
    ¬ InRange parameters (l.seen parameters results) := by
  intro hrange
  obtain ⟨lost, hlost, hunread⟩ := hunread
  cases parameters with
  | nil =>
      have hlength := List.Forall₂.length_eq hrange
      rw [l.length_seen] at hlength
      rw [List.eq_nil_of_length_eq_zero hlength.symm] at hlost
      cases hlost
  | cons p parameters =>
      cases results with
      | nil => cases hlost
      | cons result results =>
          -- the first token has not been lost, so errno is clear
          have hfirst := (List.forall₂_cons.mp hrange).1
          rw [accepts_read_iff (hrejects p (by simp)), Latch.loses_iff, not_or] at hfirst
          have hstuck : l.stuck = false := by simpa using hfirst.1.1
          rw [inRange_seen_iff_of_rejects hrejects hstuck] at hrange
          exact hrange.not_unread lost hlost hunread

/-- The checks pass exactly on such tokens, when the parameters that accept -1 come
first. -/
theorem inRange_seen_iff
    (horder : parameters.Pairwise fun p q => RejectsLost p → RejectsLost q) :
    InRange parameters (l.seen parameters results) ↔ Passes l parameters results := by
  induction parameters generalizing l results with
  | nil => cases results <;> simp [Latch.seen, Passes, InRange]
  | cons p parameters ih =>
      cases results with
      | nil => simp [Latch.seen, Passes, InRange]
      | cons result results =>
          rw [List.pairwise_cons] at horder
          rw [Passes]
          split
          · rename_i hrejects
            have hall : ∀ q ∈ p :: parameters, RejectsLost q := by
              rw [List.forall_mem_cons]
              exact ⟨hrejects, fun q hq => horder.1 q hq hrejects⟩
            cases hstuck : l.stuck with
            | false => rw [inRange_seen_iff_of_rejects hall hstuck, and_iff_right rfl]
            | true =>
                refine iff_of_false (fun hrange => ?_) fun h => Bool.noConfusion h.1
                have hfirst := (accepts_read_iff hrejects).mp (List.forall₂_cons.mp hrange).1
                exact hfirst.1 (Latch.loses_iff.mpr (Or.inl hstuck))
          · rename_i hrejects
            rw [Latch.seen, InRange, List.forall₂_cons, ← InRange, ih horder.2]
            refine and_congr_left fun _ => ?_
            by_cases hloses : l.Loses result
            · rw [Latch.read_of_loses hloses]
              exact iff_of_true (not_not.mp hrejects) (Or.inl hloses)
            · rw [Latch.read, if_neg hloses, or_iff_right hloses]

end

/-- The parameters that accept -1 come first. -/
theorem ParameterCommand.pairwise_parameters (c : ParameterCommand) :
    c.parameters.Pairwise fun p q => RejectsLost p → RejectsLost q := by
  cases c <;> decide

/-! ## Refusals -/

/-- The code refuses the message and writes no register. -/
def RefusesUnwritten (p : Server SmdResponseCode) (w : World) : Prop :=
  ∃ w', Runs server p w .invalidParameter w' ∧ registerWrites (newEvents w w') = []

namespace ParameterCommand

theorem outcome_ne_invalidParameter (c : ParameterCommand) :
    c.outcome.1 ≠ .invalidParameter ∧ c.outcome.2 ≠ .invalidParameter := by
  cases c <;> decide

/-- Code that comes to a command's decision refuses the message when that is the
decision. -/
theorem refusesUnwritten_iff {p : Server SmdResponseCode} {w : World} {c : ParameterCommand}
    {moveType : SmdAssembledMoveType} {l : Latch} {input : Text}
    (h : Decides p w (c.decision moveType l input)) :
    RefusesUnwritten p w ↔
      ¬ (numberOfTokens input = c.parameters.length + 1 ∧
        InRange c.parameters (seenTokens l c.parameters (input.splitOn comma).tail) ∧
          c.Loaded moveType) := by
  obtain ⟨w₁, hprepares, hruns⟩ := h
  rw [← exists_decision_eq_sends_iff]
  -- refused without a write, or sent, and then the two outcomes are other codes
  rcases c.decision_cases moveType l input with hd | ⟨cmd, hd⟩
  · rw [hd] at hruns ⊢
    have hrun : Runs server p w .invalidParameter w₁ :=
      (hruns _ _).mpr (runs_done_iff.mpr ⟨rfl, rfl⟩)
    have hwrites := hprepares.registerWrites_eq (World.Extends.refl w₁)
    constructor
    · rintro _ ⟨_, _, _, hsends⟩
      cases hsends
    · intro _
      refine ⟨w₁, hrun, ?_⟩
      rw [hwrites]
      simp [newEvents]
  · rw [hd] at hruns ⊢
    constructor
    · rintro ⟨w', hrun, _⟩
      rcases runs_sendAnd_iff.mp ((hruns _ _).mp hrun) with ⟨_, hr⟩ | ⟨_, hr⟩
      · exact absurd hr.symm c.outcome_ne_invalidParameter.1
      · exact absurd hr.symm c.outcome_ne_invalidParameter.2
    · intro hno
      exact absurd ⟨_, _, _, rfl⟩ hno

/-- The jogs and the ways home accept -1 nowhere. -/
theorem rejectsLost_of_mem {c : ParameterCommand} (h : c ∈ [jogCW, jogCCW, homeCW, homeCCW]) :
    ∀ p ∈ c.parameters, RejectsLost p := by
  have hall : ∀ c ∈ [jogCW, jogCCW, homeCW, homeCCW], ∀ p ∈ c.parameters, RejectsLost p := by
    decide
  exact hall c h

end ParameterCommand

/-- With a garbled token among them, a message's tokens lead to a refusal and to no
write, unless the dispatcher takes it for a command whose checks they pass. -/
theorem garbled_refused_iff {w : World} (hscenario : w.InScenario1) {c : ParameterCommand}
    (hprofile : ¬ c.RunsProfile) {input : Text}
    (hnamed : startsWith input c.name = true ∨ ParameterCommand.ofMessage input = some c)
    (hnumber : numberOfTokens input = c.parameters.length + 1)
    (hgarbled : ∃ t ∈ (input.splitOn comma).tail, Garbled t) (cl : Int) :
    RefusesUnwritten (parseSocketInput input cl) w ↔
      ¬ (ParameterCommand.ofMessage input = some c ∧
        Passes w.latch c.parameters ((input.splitOn comma).tail.map strtol)) := by
  have hloaded := ParameterCommand.loaded_of_not_runsProfile hprofile
    w.globals.statusTypeAssembledMove
  by_cases hc : ParameterCommand.ofMessage input = some c
  · have hdecides := decides_parseSocketInput cl hscenario hc
    rw [ParameterCommand.refusesUnwritten_iff hdecides, and_iff_right hnumber,
      and_iff_left hloaded, and_iff_right hc, seenTokens,
      inRange_seen_iff c.pairwise_parameters]
  · -- the name of a jog or of a way home is found in the message
    have hother : ∃ c' ∈ [ParameterCommand.jogCW, .jogCCW, .homeCW, .homeCCW],
        ParameterCommand.ofMessage input = some c' := by
      rcases hnamed with hstarts | hdispatched
      · exact (ParameterCommand.ofMessage_of_startsWith hstarts).resolve_left hc
      · exact absurd hdispatched hc
    obtain ⟨c', hmem, hc'⟩ := hother
    have hunread : ∃ result ∈ (input.splitOn comma).tail.map strtol, Unread result := by
      obtain ⟨t, ht, hlost⟩ := hgarbled
      exact ⟨strtol t, List.mem_map_of_mem ht, hlost⟩
    have hrefused := not_inRange_of_unread (l := w.latch)
      (ParameterCommand.rejectsLost_of_mem hmem) hunread
    have hdecides := decides_parseSocketInput cl hscenario hc'
    rw [ParameterCommand.refusesUnwritten_iff hdecides]
    exact iff_of_true (fun h => hrefused h.2.1) fun h => hc h.1

/-- A jog without a speed is refused. -/
theorem garbled_jog_refused :
    RefusesUnwritten (parseSocketInput "jogCW,250,250,0,\n".toList 5) World.ready := by
  have hgarbled : ∃ t ∈ ("jogCW,250,250,0,\n".toList.splitOn comma).tail, Garbled t := by
    decide +kernel
  refine (garbled_refused_iff World.ready_inScenario1 (c := .jogCW) (by decide)
    (Or.inl (by decide +kernel)) (by decide +kernel) hgarbled 5).mpr ?_
  rintro ⟨_, hpasses⟩
  rw [← inRange_seen_iff (by decide)] at hpasses
  exact absurd hpasses (by decide +kernel)

/-- A preset of no number at all is carried out, as a preset to -1. -/
theorem garbled_preset_sent :
    numberOfTokens "presetMotorPosition,abc\n".toList =
        ParameterCommand.presetMotorPosition.parameters.length + 1 ∧
      (∃ t ∈ ("presetMotorPosition,abc\n".toList.splitOn comma).tail, Garbled t) ∧
      ¬ RefusesUnwritten (parseSocketInput "presetMotorPosition,abc\n".toList 5)
        World.ready ∧
      WritesRegisters (parseSocketInput "presetMotorPosition,abc\n".toList 5)
        World.ready := by
  have hdispatched : ParameterCommand.ofMessage "presetMotorPosition,abc\n".toList =
      some .presetMotorPosition := by
    decide +kernel
  have hdecides := decides_parseSocketInput 5 World.ready_inScenario1 hdispatched
  have hguard : numberOfTokens "presetMotorPosition,abc\n".toList =
        ParameterCommand.presetMotorPosition.parameters.length + 1 ∧
      InRange ParameterCommand.presetMotorPosition.parameters
        (seenTokens World.ready.latch ParameterCommand.presetMotorPosition.parameters
          ("presetMotorPosition,abc\n".toList.splitOn comma).tail) ∧
        ParameterCommand.presetMotorPosition.Loaded
          World.ready.globals.statusTypeAssembledMove :=
    ⟨by decide +kernel, by decide +kernel, trivial⟩
  refine ⟨hguard.1, by decide +kernel, ?_, ?_⟩
  · rw [ParameterCommand.refusesUnwritten_iff hdecides, not_not]
    exact hguard
  · rw [hdecides.writesRegisters_iff fun _ _ _ => ParameterCommand.sentOnce_of_decision,
      ParameterCommand.exists_decision_eq_sends_iff]
    exact ⟨hguard, World.ready_opens⟩

end SmdControlServer
