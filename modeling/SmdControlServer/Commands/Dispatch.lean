import Mathlib.Data.List.DropRight
import SmdControlServer.Commands.Messages

/-!
# Which command a message is taken for

The commands of the dispatcher while it is connected, waits for no profile and runs no
manual mode.  The jogs and the ways home are looked for in the whole message and come
first, all others are the beginning of it.  `Selects` says so in one line for each, and
`dispatch_exact` that the dispatcher goes by nothing else.
-/

namespace SmdControlServer

open CString Interaction

namespace Command

/-- The commands that are looked for anywhere in the message, the longer name of each
pair first. -/
def motions : List Command :=
  [jogCCW, jogCW, homeCCW, homeCW]

/-- The commands that the message begins with, in the order of the tests. -/
def others : List Command :=
  [disconnect, saveConfig, relativeMove, driveEnable, driveDisable, holdMove, immedStop,
    resetErrors, readInputRegisters, loadCurrentConfiguration, readCurrentConfiguration,
    presetMotorPosition, presetEncoderPosition, programAssembledMove, runAssembledDwellMove,
    runAssembledBlendMove, startManualMode]

theorem mem_motions_or_mem_others (c : Command) : c ∈ motions ∨ c ∈ others := by
  cases c <;> simp [motions, others]

/-! ## A chain of tests -/

/-- The code of the first command that passes the test. -/
def firstOf (test : Command → Bool) (code : Command → Server SmdResponseCode)
    (otherwise : Server SmdResponseCode) : List Command → Server SmdResponseCode
  | [] => otherwise
  | c :: rest => if test c then code c else firstOf test code otherwise rest

theorem firstOf_of_mem {test : Command → Bool} {code : Command → Server SmdResponseCode}
    {otherwise : Server SmdResponseCode} {commands : List Command} {c : Command}
    (hc : c ∈ commands) (htest : test c = true)
    (hfirst : ∀ c' ∈ commands, test c' = true → c' = c) :
    firstOf test code otherwise commands = code c := by
  induction commands with
  | nil => cases hc
  | cons c' rest ih =>
      rw [firstOf]
      by_cases hc' : test c' = true
      · rw [if_pos hc', hfirst c' (by simp) hc']
      · rw [if_neg hc']
        rcases List.mem_cons.mp hc with rfl | hrest
        · exact absurd htest hc'
        · exact ih hrest fun d hd => hfirst d (List.mem_cons_of_mem _ hd)

theorem firstOf_of_none {test : Command → Bool} {code : Command → Server SmdResponseCode}
    {otherwise : Server SmdResponseCode} {commands : List Command}
    (h : ∀ c ∈ commands, test c = false) :
    firstOf test code otherwise commands = otherwise := by
  induction commands with
  | nil => rfl
  | cons c rest ih =>
      rw [firstOf, h c (by simp)]
      exact ih fun d hd => h d (List.mem_cons_of_mem _ hd)

/-! ## The selection -/

/-- The message is taken for this command. -/
def Selects (input : Text) : Command → Prop
  | jogCCW => jogCCW.name <:+: input
  | jogCW => jogCW.name <:+: input ∧ ¬ jogCCW.name <:+: input
  | homeCCW => homeCCW.name <:+: input ∧ ∀ c ∈ [jogCW, jogCCW], ¬ c.name <:+: input
  | homeCW => homeCW.name <:+: input ∧ ∀ c ∈ [jogCW, jogCCW, homeCCW], ¬ c.name <:+: input
  | c => c.name <+: input ∧ ∀ c' ∈ motions, ¬ c'.name <:+: input

theorem selects_of_mem_others {c : Command} (hc : c ∈ others) {input : Text} :
    Selects input c ↔ c.name <+: input ∧ ∀ c' ∈ motions, ¬ c'.name <:+: input := by
  cases c <;> first | rfl | exact absurd hc (by decide)

/-- None of the names that a message can begin with is the beginning of another. -/
theorem eq_of_prefixes {c c' : Command} (hc : c ∈ others) (hc' : c' ∈ others)
    (h : c.name <+: c'.name) : c = c' := by
  have hall : ∀ c ∈ others, ∀ c' ∈ others, c.name <+: c'.name → c = c' := by
    decide +kernel
  exact hall c hc c' hc' h

theorem eq_of_prefixes_message {c c' : Command} (hc : c ∈ others) (hc' : c' ∈ others)
    {input : Text} (h : c.name <+: input) (h' : c'.name <+: input) : c = c' := by
  rcases List.prefix_or_prefix_of_prefix h h' with hbegins | hbegins
  · exact eq_of_prefixes hc hc' hbegins
  · exact (eq_of_prefixes hc' hc hbegins).symm

theorem infix_of_selects {c : Command} (hc : c ∈ motions) {input : Text}
    (h : Selects input c) : c.name <:+: input := by
  simp only [motions, List.mem_cons, List.not_mem_nil, or_false] at hc
  rcases hc with rfl | rfl | rfl | rfl
  · exact h
  · exact h.1
  · exact h.1
  · exact h.1

/-- If the name of a jog or of a way home stands in the message, one of these commands is
selected. -/
theorem exists_selects_of_infix {c : Command} (hc : c ∈ motions) {input : Text}
    (h : c.name <:+: input) : ∃ c ∈ motions, Selects input c := by
  by_cases hjogCCW : jogCCW.name <:+: input
  · exact ⟨jogCCW, by simp [motions], hjogCCW⟩
  · by_cases hjogCW : jogCW.name <:+: input
    · exact ⟨jogCW, by simp [motions], hjogCW, hjogCCW⟩
    · by_cases hhomeCCW : homeCCW.name <:+: input
      · exact ⟨homeCCW, by simp [motions], hhomeCCW, by simp [hjogCW, hjogCCW]⟩
      · -- then it is the last of the four
        refine ⟨homeCW, by simp [motions], ?_, by simp [hjogCW, hjogCCW, hhomeCCW]⟩
        simp only [motions, List.mem_cons, List.not_mem_nil, or_false] at hc
        rcases hc with rfl | rfl | rfl | rfl
        · exact absurd h hjogCCW
        · exact absurd h hjogCW
        · exact absurd h hhomeCCW
        · exact h

/-- A message selects one command at most. -/
theorem selects_unique {input : Text} {c c' : Command} (h : Selects input c)
    (h' : Selects input c') : c = c' := by
  have hmixed : ∀ {c c' : Command}, c ∈ motions → c' ∈ others → Selects input c →
      ¬ Selects input c' := by
    intro c c' hc hc' h h'
    exact ((selects_of_mem_others hc').mp h').2 c hc (infix_of_selects hc h)
  rcases c.mem_motions_or_mem_others with hc | hc
  · rcases c'.mem_motions_or_mem_others with hc' | hc'
    · -- of the four, each asks that those before it are not found
      simp only [motions, List.mem_cons, List.not_mem_nil, or_false] at hc hc'
      rcases hc with rfl | rfl | rfl | rfl <;> rcases hc' with rfl | rfl | rfl | rfl <;>
        simp_all [Selects]
    · exact absurd h' (hmixed hc hc' h)
  · rcases c'.mem_motions_or_mem_others with hc' | hc'
    · exact absurd h (hmixed hc' hc h')
    · exact eq_of_prefixes_message hc hc' ((selects_of_mem_others hc).mp h).1
        ((selects_of_mem_others hc').mp h').1

/-! ## The dispatcher -/

/-- The tests of the dispatcher, with the chain of the shorter ones as a list. -/
theorem parseScenario1_eq_firstOf (input : Text) (cl : Int) :
    parseScenario1 input cl =
      if strstr input jogCW.name || strstr input jogCCW.name then
        jogIn (if strstr input jogCCW.name then 1 else 0) input
      else if strstr input homeCW.name || strstr input homeCCW.name then
        findHomeIn (if strstr input homeCCW.name then 1 else 0) input
      else
        firstOf (fun c => startsWith input c.name) (code input cl) (pure .invalidInput)
          others := rfl

/-- Past the tests for the jogs and the ways home. -/
theorem parseScenario1_eq_others {input : Text}
    (h : ∀ c ∈ motions, ¬ c.name <:+: input) (cl : Int) :
    parseScenario1 input cl =
      firstOf (fun c => startsWith input c.name) (code input cl) (pure .invalidInput)
        others := by
  have hnone : ∀ c ∈ motions, strstr input c.name = false :=
    fun c hc => strstr_eq_false_iff.mpr (h c hc)
  rw [parseScenario1_eq_firstOf, hnone jogCW (by simp [motions]),
    hnone jogCCW (by simp [motions]), hnone homeCW (by simp [motions]),
    hnone homeCCW (by simp [motions])]
  rfl

theorem parseScenario1_of_selects {input : Text} {c : Command} (h : Selects input c)
    (cl : Int) : parseScenario1 input cl = c.code input cl := by
  rcases c.mem_motions_or_mem_others with hc | hc
  · rw [parseScenario1_eq_firstOf]
    simp only [motions, List.mem_cons, List.not_mem_nil, or_false] at hc
    rcases hc with rfl | rfl | rfl | rfl
    · rw [strstr_iff.mpr h, Bool.or_true]
      rfl
    · rw [strstr_iff.mpr h.1, strstr_eq_false_iff.mpr h.2]
      rfl
    · rw [strstr_eq_false_iff.mpr (h.2 jogCW (by simp)),
        strstr_eq_false_iff.mpr (h.2 jogCCW (by simp)), strstr_iff.mpr h.1, Bool.or_true]
      rfl
    · rw [strstr_eq_false_iff.mpr (h.2 jogCW (by simp)),
        strstr_eq_false_iff.mpr (h.2 jogCCW (by simp)), strstr_iff.mpr h.1,
        strstr_eq_false_iff.mpr (h.2 homeCCW (by simp))]
      rfl
  · obtain ⟨hbegins, hnone⟩ := (selects_of_mem_others hc).mp h
    rw [parseScenario1_eq_others hnone]
    refine firstOf_of_mem hc (startsWith_iff.mpr hbegins) ?_
    intro c' hc' hstarts
    exact eq_of_prefixes_message hc' hc (startsWith_iff.mp hstarts) hbegins

theorem parseScenario1_of_not_selects {input : Text} (h : ∀ c, ¬ Selects input c)
    (cl : Int) : parseScenario1 input cl = pure .invalidInput := by
  have hnone : ∀ c ∈ motions, ¬ c.name <:+: input := by
    intro c hc hfound
    obtain ⟨c', _, hselects⟩ := exists_selects_of_infix hc hfound
    exact h c' hselects
  rw [parseScenario1_eq_others hnone]
  refine firstOf_of_none fun c hc => ?_
  rw [← Bool.not_eq_true, startsWith_iff]
  intro hbegins
  exact h c ((selects_of_mem_others hc).mpr ⟨hbegins, hnone⟩)

/-! ## The first token -/

end Command

/-- The first token of a message, without the end of the line. -/
def firstToken (input : Text) : Text :=
  ((input.splitOn comma).headD []).rdropWhile fun c => c == '\r' || c == '\n'

theorem strsep_fst_isPrefix_self (c : Char) (s : Text) : (strsep c s).1 <+: s := by
  induction s with
  | nil => exact List.prefix_rfl
  | cons x rest ih =>
      rw [strsep]
      split
      · exact List.nil_prefix
      · exact (List.cons_prefix_cons).mpr ⟨rfl, ih⟩

theorem firstToken_isPrefix_self (input : Text) : firstToken input <+: input := by
  have hhead : (input.splitOn comma).headD [] <+: input := by
    rw [splitOn_eq_strsep]
    exact strsep_fst_isPrefix_self comma input
  exact (List.rdropWhile_prefix _ _).trans hhead

/-- A message that names a command in its first token selects it, unless another jog or
way home is named anywhere. -/
theorem Command.selects_of_firstToken {input : Text} {c : Command}
    (hc : firstToken input = c.name) (hmotions : ∀ c' ∈ motions, c'.name <:+: input → c' = c) :
    Selects input c := by
  have hbegins : c.name <+: input := hc ▸ firstToken_isPrefix_self input
  rcases c.mem_motions_or_mem_others with hmotion | hother
  · obtain ⟨c', hc', hselects⟩ := exists_selects_of_infix hmotion hbegins.isInfix
    rwa [hmotions c' hc' (infix_of_selects hc' hselects)] at hselects
  · refine (selects_of_mem_others hother).mpr ⟨hbegins, ?_⟩
    intro c' hc' hfound
    rw [hmotions c' hc' hfound] at hc'
    revert hother hc'
    cases c <;> decide

/-- The command that a message is taken for: one at most is selected, its code is what is
done, and a message that selects none is invalid input.  A message that names a command
in its first token selects that one, unless another jog or way home is named in it. -/
theorem dispatch_exact {w : World} (h : w.InScenario1) (input : Text) (cl : Int) :
    (∀ c c', Command.Selects input c → Command.Selects input c' → c = c') ∧
      (∀ c, Command.Selects input c → ∀ r w',
        Runs server (parseSocketInput input cl) w r w' ↔
          Runs server (c.code input cl) w r w') ∧
      ((∀ c, ¬ Command.Selects input c) → ∀ r w',
        Runs server (parseSocketInput input cl) w r w' ↔ r = .invalidInput ∧ w' = w) ∧
      ∀ c, firstToken input = c.name →
        (∀ c' ∈ Command.motions, c'.name <:+: input → c' = c) → Command.Selects input c := by
  refine ⟨fun _ _ => Command.selects_unique, ?_, ?_, fun _ => Command.selects_of_firstToken⟩
  · intro c hc r w'
    rw [runs_parseSocketInput_scenario1 h, Command.parseScenario1_of_selects hc]
  · intro hnone r w'
    rw [runs_parseSocketInput_scenario1 h, Command.parseScenario1_of_not_selects hnone]
    exact runs_done_iff

/-- A message that is a command's name is that command. -/
theorem dispatch_holdMove :
    ∃ w', Runs server (parseSocketInput "holdMove\n".toList 5) World.ready .commandSuccess
      w' := by
  have hselects : Command.Selects "holdMove\n".toList .holdMove :=
    (Command.selects_of_mem_others (by decide)).mpr (by decide +kernel)
  have heval : (eval server 0 (Command.holdMove.code "holdMove\n".toList 5) World.ready).map
      Prod.fst = some .commandSuccess := by
    decide +kernel
  obtain ⟨r, w', hrun, hr⟩ := exists_runs_of_eval heval
  have hr' : r = .commandSuccess := hr
  rw [hr'] at hrun
  exact ⟨w', ((dispatch_exact World.ready_inScenario1 "holdMove\n".toList 5).2.1 .holdMove
    hselects _ w').mpr hrun⟩

/-- A stop in whose tail a jog is named starts that jog. -/
theorem stop_taken_for_jog :
    firstToken "immedStop,250,250,0,5000jogCW\n".toList = Command.immedStop.name ∧
      ∃ w', Runs server (parseSocketInput "immedStop,250,250,0,5000jogCW\n".toList 5)
          World.ready .commandSuccess w' ∧
        .noted (.smdJog 0 250 250 0 5000) ∈ newEvents World.ready w' ∧
        .threadStarted (.sendModbusCommand immediateStopProgram) true ∉
          newEvents World.ready w' := by
  have heval : (eval server 0
      (parseSocketInput "immedStop,250,250,0,5000jogCW\n".toList 5) World.ready).map (fun r =>
        (r.1, decide (.noted (.smdJog 0 250 250 0 5000) ∈ newEvents World.ready r.2 ∧
          .threadStarted (.sendModbusCommand immediateStopProgram) true ∉
            newEvents World.ready r.2))) = some (.commandSuccess, true) := by
    decide +kernel
  obtain ⟨r, w', hrun, hr⟩ := exists_runs_of_eval heval
  obtain ⟨rfl, hevents⟩ := Prod.mk.inj hr
  exact ⟨by decide +kernel, w', hrun, of_decide_eq_true hevents⟩

end SmdControlServer
