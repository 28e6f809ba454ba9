import SmdControlServer.Manual.Calls

/-!
# Which samples are acted on

A file has a sample in it if its text is a direction, 0 or 1, and a reading, 0 to 1023,
both in decimal.  The controller scales the reading before it checks it, in 32 bits, and
takes any number other than 0 for a direction; what stands behind a number, it does not
look at.  `MisreadFile` says when it acts on a file that has another sample in it or none.
-/

namespace SmdControlServer

open CString Interaction

/-! ## The sample of a file -/

/-- The text is the sample: its tokens are the direction and the reading in decimal. -/
def Sample.Is (s : Sample) (text : Text) : Prop :=
  ∃ direction reading, text.splitOn comma = [direction, reading] ∧
    Denotes direction s.direction ∧ Denotes reading s.reading

/-- The turn has done nothing, or it has followed the sample of the text: this is what it
remembers, and it has called nothing but a hold and the jog for it. -/
def FollowsText (text : Text) (locals locals' : ControllerLocals) (calls : List MotionCall) :
    Prop :=
  (calls = [] ∧ locals'.currentJogDirection = locals.currentJogDirection ∧
      locals'.currentSpeed = locals.currentSpeed) ∨
    ∃ s : Sample, s.Is text ∧ locals'.currentJogDirection = s.jogDirection ∧
      locals'.currentSpeed = 30 * s.reading ∧
      ∀ call ∈ calls, call = .hold ∨ call = .jog s.direction 250 250 0 (30 * s.reading)

/-- A number stands in front of the token, and `long` can hold it. -/
def Reads (token : Text) (n : Int) : Prop :=
  strtol token = { value := n, consumed := true, erange := false }

/-- The file is taken for a sample that it is not: the number in front of the second token,
times 30, comes to -29 to 30719 in 32 bits, and the file has no sample with that product
and the direction that is read. -/
def MisreadFile (buf bytes : List Char) : Prop :=
  bytes ≠ [] ∧ ' ' ∉ textRead buf bytes ∧
    ∃ first second n, (textRead buf bytes).splitOn comma = [first, second] ∧
      Reads second n ∧ (-29 ≤ toInt32 (30 * n) ∧ toInt32 (30 * n) ≤ 30719) ∧
        ∀ s : Sample, s.Is (fileText bytes) →
          ¬ (toInt32 (30 * n) = 30 * s.reading ∧
            (s.direction = 0 ↔ ∃ m, Reads first m ∧ toInt32 m = 0))

/-! ## The check -/

/-- The division truncates, so products down to -29 pass. -/
theorem sampleValid_iff {potValue : Int} {jogValue : SmdJogDirection} :
    sampleValid potValue jogValue = true ↔
      jogValue ≠ .noDirection ∧ -29 ≤ potValue ∧ potValue ≤ 30719 := by
  have hdirection : (jogValue == .clockwise || jogValue == .counterClockwise) = true ↔
      jogValue ≠ .noDirection := by
    cases jogValue <;> decide
  have hquotient : (0 ≤ potValue.tdiv potScale ∧ potValue.tdiv potScale ≤ 1023) ↔
      -29 ≤ potValue ∧ potValue ≤ 30719 := by
    unfold potScale
    by_cases hsign : 0 ≤ potValue
    · rw [Int.tdiv_eq_ediv_of_nonneg hsign]
      omega
    · have hneg : potValue.tdiv 30 = -((-potValue) / 30) := by
        rw [← Int.tdiv_eq_ediv_of_nonneg (by omega), Int.neg_tdiv, neg_neg]
      rw [hneg]
      omega
  unfold sampleValid
  rw [Bool.and_eq_true_iff, hdirection, ← hquotient]
  simp

theorem DecodedSample.jogValue_ne_noDirection (d : DecodedSample) :
    d.jogValue ≠ .noDirection := by
  unfold DecodedSample.jogValue
  split <;> decide

theorem DecodedSample.sampleValid_iff (d : DecodedSample) :
    sampleValid d.potValue d.jogValue = true ↔ -29 ≤ d.potValue ∧ d.potValue ≤ 30719 :=
  SmdControlServer.sampleValid_iff.trans (and_iff_right d.jogValue_ne_noDirection)

/-! ## The numbers -/

theorem toInt32_scaled (n : Int) : toInt32 (toInt32 n * potScale) = toInt32 (30 * n) := by
  unfold toInt32 potScale
  omega

theorem Reads.not_loses {token : Text} {n : Int} (h : Reads token n) {l : Latch}
    (hstuck : l.stuck = false) : ¬ l.Loses (strtol token) := by
  refine Latch.not_loses hstuck ?_
  rw [show strtol token = _ from h]
  simp [Unread]

theorem Reads.read_eq {token : Text} {n : Int} (h : Reads token n) {l : Latch}
    (hstuck : l.stuck = false) : l.read (strtol token) = toInt32 n := by
  rw [Latch.read, if_neg (h.not_loses hstuck), show strtol token = _ from h]

theorem exists_reads_of_not_unread {token : Text} (h : ¬ Unread (strtol token)) :
    ∃ n, Reads token n := by
  unfold Unread at h
  rw [not_or, Bool.not_eq_false, Bool.not_eq_true] at h
  refine ⟨(strtol token).value, ?_⟩
  unfold Reads
  rw [← h.1, ← h.2]

/-- With `errno` clear, a token of which nothing is read is taken for -1. -/
theorem read_eq_zero_iff {token : Text} {l : Latch} (hstuck : l.stuck = false) :
    l.read (strtol token) = 0 ↔ ∃ m, Reads token m ∧ toInt32 m = 0 := by
  constructor
  · intro hzero
    by_cases hunread : Unread (strtol token)
    · rw [Latch.read_of_loses (Latch.loses_iff.mpr (Or.inr hunread))] at hzero
      exact absurd hzero (by decide)
    · obtain ⟨m, hm⟩ := exists_reads_of_not_unread hunread
      exact ⟨m, hm, (hm.read_eq hstuck).symm.trans hzero⟩
  · rintro ⟨m, hm, hzero⟩
    rw [hm.read_eq hstuck, hzero]

/-- What passes the check has been read as it stands in the token. -/
theorem exists_reads_of_valid {l : Latch} {first second : Text} {d : DecodedSample}
    (hd : d = ⟨(l.after (strtol second)).read (strtol first), l.read (strtol second)⟩)
    (hvalid : -29 ≤ d.potValue) :
    l.stuck = false ∧ ∃ n, Reads second n ∧ d.potValue = toInt32 (30 * n) ∧
      (d.jogValue = .clockwise ↔ ∃ m, Reads first m ∧ toInt32 m = 0) := by
  subst hd
  -- -1 times 30 does not pass
  have hread : ¬ l.Loses (strtol second) := by
    intro hloses
    unfold DecodedSample.potValue at hvalid
    rw [Latch.read_of_loses hloses] at hvalid
    exact absurd (show -29 ≤ toInt32 (-1 * potScale) from hvalid) (by decide)
  have hclear := hread
  rw [Latch.loses_iff, not_or, Bool.not_eq_true] at hclear
  obtain ⟨hstuck, hunread⟩ := hclear
  obtain ⟨n, hn⟩ := exists_reads_of_not_unread hunread
  refine ⟨hstuck, n, hn, ?_, ?_⟩
  · unfold DecodedSample.potValue
    rw [hn.read_eq hstuck, toInt32_scaled]
  · unfold DecodedSample.jogValue
    rw [Latch.after_of_not_loses hread, ← read_eq_zero_iff hstuck]
    simp

/-! ## Turns -/

section

variable {w w' : World} {locals locals' : ControllerLocals} {bytes : List Char}

/-- The decoding adds nothing to the log. -/
theorem log_afterReading (w : World) (buf : List Char) : (w.afterReading buf).log = w.log := by
  have hread : w.afterManualRead.log = w.log := by
    unfold World.afterManualRead
    cases w.manualReads.head <;> rfl
  have hdecoding : ∀ text, (w.afterManualRead.afterDecoding text).log = w.log := by
    intro text
    unfold World.afterDecoding
    split
    · rw [World.log_afterConversion, World.log_afterConversion, hread]
    · exact hread
  unfold World.afterReading
  split
  · exact hread
  · exact hread
  · exact hread
  · exact hdecoding _

/-- The calls for some motions are among these, and holds. -/
theorem CallsOf.mem {ms calls : List MotionCall} (h : CallsOf ms calls) {call : MotionCall}
    (hcall : call ∈ calls) : call = .hold ∨ call ∈ ms := by
  induction h with
  | nil => cases hcall
  | jog _ ih =>
      rcases List.mem_cons.mp hcall with rfl | hrest
      · exact Or.inr List.mem_cons_self
      · exact (ih hrest).imp_right (List.mem_cons_of_mem _)
  | hold again _ ih =>
      rcases List.mem_append.mp hcall with hhold | hrest
      · exact Or.inl (List.eq_of_mem_replicate hhold)
      · exact (ih hrest).imp_right (List.mem_cons_of_mem _)

theorem mem_motionsFor {potValue : Int} {jogValue : SmdJogDirection} {call : MotionCall}
    (h : call ∈ motionsFor locals potValue jogValue) :
    call = .hold ∨ call = .jog jogValue.toInt 250 250 0 potValue := by
  unfold motionsFor at h
  split at h
  · split at h <;> simp_all
  · split at h
    · split at h <;> simp_all
    · split at h
      · split at h <;> simp_all
      · cases h

/-- What a turn has done when it has acted on these numbers. -/
theorem calls_of_applySample {w₁ : World} {d : DecodedSample} (hlog : w₁.log = w.log)
    (h : Runs server (applySample locals d.potValue d.jogValue) w₁ locals' w') :
    locals' = locals.remember d.potValue d.jogValue ∧
      ∀ call ∈ motionCalls (newEvents w w'),
        call = .hold ∨ call = .jog d.jogValue.toInt 250 250 0 d.potValue := by
  obtain ⟨hlocals, hmotions⟩ := runs_applySample_iff.mp h
  obtain ⟨calls, hcalls, es, hes, hobserved⟩ := hmotions.observed
  refine ⟨hlocals, fun call hcall => ?_⟩
  rw [newEvents_of_log es (by rw [hes, hlog]), motionCalls, hobserved] at hcall
  rcases hcalls.mem hcall with hhold | hmotion
  · exact Or.inl hhold
  · exact mem_motionsFor hmotion

/-- A jog can be called in any world. -/
theorem exists_runs_applySample (locals : ControllerLocals)
    (hfirst : locals.currentJogDirection = .noDirection) (potValue : Int)
    (jogValue : SmdJogDirection) (w : World) :
    ∃ w', Runs server (applySample locals potValue jogValue) w
      (locals.remember potValue jogValue) w' := by
  simp only [runs_applySample_iff, true_and]
  unfold motionsFor
  rw [if_pos hfirst]
  split
  · have hjog : ∃ r w', Runs server
        (MotionCall.jog jogValue.toInt 250 250 0 potValue).code w r w' := by
      show ∃ r w', Runs server (smdJog _ _ _ _ _) w r w'
      simp only [runs_smdJog_iff]
      split
      · exact ⟨_, _, runs_sendModbusCommand_iff.mp ((runs_sendOnce_iff rfl).mpr ⟨rfl, rfl⟩)⟩
      · exact ⟨_, _, rfl, rfl⟩
    obtain ⟨r, w', hrun⟩ := hjog
    exact ⟨w', .cons hrun (.nil w')⟩
  · exact ⟨w, .nil w⟩

/-! ## Acting on a sample -/

theorem Sample.jogDirection_eq_clockwise_iff (s : Sample) :
    s.jogDirection = .clockwise ↔ s.direction = 0 := by
  unfold Sample.jogDirection
  split <;> simp_all

/-- The direction that is read is the one of the sample. -/
theorem jogValue_eq_jogDirection_iff {d : DecodedSample} {s : Sample} {zero : Prop}
    (h : d.jogValue = .clockwise ↔ zero) :
    d.jogValue = s.jogDirection ↔ (s.direction = 0 ↔ zero) := by
  rw [← h, ← s.jogDirection_eq_clockwise_iff]
  have hd := d.jogValue_ne_noDirection
  have hs := s.jogDirection_ne_noDirection
  generalize d.jogValue = read at hd
  generalize s.jogDirection = direction at hs
  revert hd hs
  cases read <;> cases direction <;> decide

/-- A file is misread if what is decoded from it with `errno` clear passes the check and is
none of its samples. -/
theorem misreadFile_iff_decoded {buf : List Char} {l : Latch} (hstuck : l.stuck = false) :
    MisreadFile buf bytes ↔
      ∃ d, decoded l buf (.contents bytes) = some d ∧
        (-29 ≤ d.potValue ∧ d.potValue ≤ 30719) ∧
          ∀ s : Sample, s.Is (fileText bytes) →
            ¬ (d.potValue = 30 * s.reading ∧ d.jogValue = s.jogDirection) := by
  constructor
  -- what is decoded is what the conversions make of the two tokens
  · rintro ⟨hbytes, hspace, first, second, n, hsplit, hn, hvalid, hnone⟩
    let d : DecodedSample :=
      ⟨(l.after (strtol second)).read (strtol first), l.read (strtol second)⟩
    have hpot : d.potValue = toInt32 (30 * n) := by
      rw [← toInt32_scaled, ← hn.read_eq hstuck]
      rfl
    rw [← hpot] at hvalid hnone
    obtain ⟨_, n', _, _, hdirection⟩ := exists_reads_of_valid (d := d) rfl hvalid.1
    refine ⟨d, ?_, hvalid, fun s hs hsame => hnone s hs ⟨hsame.1, ?_⟩⟩
    · rw [decoded_contents hbytes, decodedText_eq_some_iff]
      exact ⟨hspace, first, second, hsplit, rfl⟩
    · exact (jogValue_eq_jogDirection_iff hdirection).mp hsame.2
  · rintro ⟨d, hd, hvalid, hnone⟩
    have hbytes : bytes ≠ [] := by
      rintro rfl
      cases hd
    rw [decoded_contents hbytes, decodedText_eq_some_iff] at hd
    obtain ⟨hspace, first, second, hsplit, heq⟩ := hd
    obtain ⟨_, n, hn, hpot, hdirection⟩ := exists_reads_of_valid heq hvalid.1
    rw [hpot] at hvalid hnone
    refine ⟨hbytes, hspace, first, second, n, hsplit, hn, hvalid, fun s hs hsame => ?_⟩
    exact hnone s hs ⟨hsame.1, (jogValue_eq_jogDirection_iff hdirection).mpr hsame.2⟩

theorem followsText_of_pure {w₁ : World} {text : Text} {buf : List Char}
    (hlog : w₁.log = w.log)
    (hrun : Runs server (pure { locals with buf := buf }) w₁ locals' w') :
    FollowsText text locals locals' (motionCalls (newEvents w w')) := by
  obtain ⟨rfl, rfl⟩ := runs_done_iff.mp hrun
  have hnothing : newEvents w w' = [] := by
    refine newEvents_of_log [] ?_
    rw [hlog, List.append_nil]
  rw [hnothing]
  exact Or.inl ⟨rfl, rfl, rfl⟩

/-- A turn that decodes a sample of the file follows it. -/
theorem followsText_of_applySample {w₁ : World} {d : DecodedSample} {s : Sample} {text : Text}
    {buf : List Char} (hs : s.Is text) (hpot : d.potValue = 30 * s.reading)
    (hjog : d.jogValue = s.jogDirection) (hlog : w₁.log = w.log)
    (hrun : Runs server (applySample { locals with buf := buf } d.potValue d.jogValue) w₁
      locals' w') :
    FollowsText text locals locals' (motionCalls (newEvents w w')) := by
  obtain ⟨rfl, hcalls⟩ := calls_of_applySample hlog hrun
  rw [hpot, hjog, s.toInt_jogDirection] at hcalls
  exact Or.inr ⟨s, hs, hjog, hpot, hcalls⟩

/-- What passes the check is a sample of a file that is not misread. -/
theorem exists_sample_of_decoded {l : Latch} {buf : List Char} (hgood : ¬ MisreadFile buf bytes)
    {d : DecodedSample} (hd : decoded l buf (.contents bytes) = some d)
    (hvalid : -29 ≤ d.potValue ∧ d.potValue ≤ 30719) :
    ∃ s : Sample, s.Is (fileText bytes) ∧ d.potValue = 30 * s.reading ∧
      d.jogValue = s.jogDirection := by
  have hclear : l.stuck = false := by
    have hbytes : bytes ≠ [] := by
      rintro rfl
      cases hd
    rw [decoded_contents hbytes, decodedText_eq_some_iff] at hd
    obtain ⟨_, first, second, _, heq⟩ := hd
    exact (exists_reads_of_valid heq hvalid.1).1
  by_contra hnone
  refine hgood ((misreadFile_iff_decoded hclear).mpr ⟨d, hd, hvalid, fun s hs hsame => ?_⟩)
  exact hnone ⟨s, hs, hsame⟩

/-- Whatever a file has in it, the controller follows it exactly if it does not take it for
another sample. -/
theorem acts_on_samples_iff (buf bytes : List Char) :
    (∀ locals w locals' w', locals.buf = buf → w.manualReads.head = .contents bytes →
      Runs server (manualModeIteration locals) w locals' w' →
        FollowsText (fileText bytes) locals locals' (motionCalls (newEvents w w'))) ↔
      ¬ MisreadFile buf bytes := by
  constructor
  · intro hfollows hmisread
    -- the first turn of a controller that finds this buffer
    let locals : ControllerLocals := { ControllerLocals.initial with buf := buf }
    let w : World :=
      { World.facing Globals.initial willingDrive with
        manualReads := Stream'.const (.contents bytes) }
    obtain ⟨d, hd, hvalid, hnone⟩ := (misreadFile_iff_decoded (l := w.latch) rfl).mp hmisread
    let locals₁ : ControllerLocals := { locals with buf := bufferAfter buf (.contents bytes) }
    obtain ⟨w', hrun⟩ := exists_runs_applySample locals₁ rfl d.potValue d.jogValue
      (w.afterReading buf)
    have hturn : Runs server (manualModeIteration locals) w
        (locals₁.remember d.potValue d.jogValue) w' := by
      rw [runs_manualModeIteration_iff_decoded]
      show Runs server (actOn locals₁ (decoded w.latch buf (.contents bytes))) _ _ _
      rw [hd, actOn_of_valid (d.sampleValid_iff.mpr hvalid)]
      exact hrun
    rcases hfollows locals w _ w' rfl rfl hturn with ⟨_, hsame, _⟩ | ⟨s, hs, hjog, hpot, _⟩
    · exact d.jogValue_ne_noDirection hsame
    · exact hnone s hs ⟨hpot, hjog⟩
  · intro hgood locals w locals' w' hbuf hread hrun
    subst hbuf
    rw [runs_manualModeIteration_iff_decoded, hread] at hrun
    have hlog := log_afterReading w locals.buf
    cases hd : decoded w.latch locals.buf (.contents bytes) with
    | none =>
        rw [hd] at hrun
        exact followsText_of_pure hlog hrun
    | some d =>
        rw [hd] at hrun
        by_cases hvalid : -29 ≤ d.potValue ∧ d.potValue ≤ 30719
        · rw [actOn_of_valid (d.sampleValid_iff.mpr hvalid)] at hrun
          obtain ⟨s, hs, hpot, hjog⟩ := exists_sample_of_decoded hgood hd hvalid
          exact followsText_of_applySample hs hpot hjog hlog hrun
        · rw [actOn_of_not_valid (mt d.sampleValid_iff.mp hvalid)] at hrun
          exact followsText_of_pure hlog hrun

/-! ## A file that is read as it stands -/

theorem Reads.of_denotes {token : Text} {n : Int} (h : Denotes token n) (hn : IsInt32 n) :
    Reads token n := by
  have hnil : NoDigitFirst [] := by
    intro c hc
    simp at hc
  have hstrtol := strtol_of_denotes h hnil
  rwa [List.append_nil, hn.clampLong_eq] at hstrtol

/-- The sample of a text is what is read from it. -/
theorem Sample.Is.reads {s : Sample} {text first second : Text} (h : s.Is text)
    (hsplit : text.splitOn comma = [first, second]) :
    Reads first s.direction ∧ Reads second s.reading := by
  obtain ⟨direction, reading, htokens, hdirection, hreading⟩ := h
  have hvalidDirection := s.validDirection
  have hvalidReading := s.validReading
  rw [htokens] at hsplit
  cases hsplit
  exact ⟨.of_denotes hdirection (by unfold IsInt32; omega),
    .of_denotes hreading (by unfold IsInt32; omega)⟩

theorem Reads.unique {token : Text} {n m : Int} (h : Reads token n) (h' : Reads token m) :
    n = m :=
  congrArg StrtolResult.value (h.symm.trans h')

/-- A file of at most 16 bytes that is read over zeros is misread if its second number
passes the check and it has no sample in it. -/
theorem misreadFile_initial_iff (hlength : bytes.length ≤ 16) :
    MisreadFile ControllerLocals.initial.buf bytes ↔
      ' ' ∉ fileText bytes ∧ (∀ s : Sample, ¬ s.Is (fileText bytes)) ∧
        ∃ first second n, (fileText bytes).splitOn comma = [first, second] ∧
          Reads second n ∧ -29 ≤ toInt32 (30 * n) ∧ toInt32 (30 * n) ≤ 30719 := by
  unfold MisreadFile
  rw [textRead_initial hlength]
  constructor
  · rintro ⟨_, hspace, first, second, n, hsplit, hn, hvalid, hnone⟩
    refine ⟨hspace, fun s hs => hnone s hs ⟨?_, ?_⟩, first, second, n, hsplit, hn, hvalid⟩
    · have hreading := s.validReading
      rw [hn.unique (hs.reads hsplit).2, toInt32_eq_self (by omega) (by omega)]
    · have hdirection := s.validDirection
      have hfirst := (hs.reads hsplit).1
      have hsmall : toInt32 s.direction = s.direction := toInt32_eq_self (by omega) (by omega)
      constructor
      · intro hzero
        exact ⟨s.direction, hfirst, hsmall.trans hzero⟩
      · rintro ⟨m, hm, hzero⟩
        rw [hm.unique hfirst, hsmall] at hzero
        exact hzero
  · rintro ⟨hspace, hnone, first, second, n, hsplit, hn, hvalid⟩
    refine ⟨?_, hspace, first, second, n, hsplit, hn, hvalid, fun s hs => absurd hs (hnone s)⟩
    rintro rfl
    exact absurd (show 1 = 2 from congrArg List.length hsplit) (by decide)

end

/-- A reading of 143165577 comes to a speed of 14. -/
theorem wrapped_reading :
    ∃ w locals' w', w.manualReads.head = .contents "1,143165577\n".toList ∧
      Runs server (manualModeIteration ControllerLocals.initial) w locals' w' ∧
      motionCalls (newEvents w w') = [.jog 1 250 250 0 14] ∧
      ¬ FollowsText (fileText "1,143165577\n".toList) ControllerLocals.initial locals'
        (motionCalls (newEvents w w')) := by
  let w : World :=
    { World.facing (Globals.connectedTo "10.0.0.5".toList) willingDrive with
      manualReads := Stream'.const (.contents "1,143165577\n".toList) }
  have heval : (eval server 0 (manualModeIteration ControllerLocals.initial) w).map
      (fun r => (r.1.currentSpeed, motionCalls (newEvents w r.2))) =
        some (14, [.jog 1 250 250 0 14]) := by decide +kernel
  obtain ⟨locals', w', hrun, heq⟩ := exists_runs_of_eval heval
  obtain ⟨hspeed, hcalls⟩ := Prod.mk.inj heq
  refine ⟨w, locals', w', rfl, hrun, hcalls, ?_⟩
  rintro (⟨hnone, _⟩ | ⟨s, _, _, hs, _⟩)
  · rw [hcalls] at hnone
    cases hnone
  · have hwrapped : locals'.currentSpeed = 14 := hspeed
    rw [hwrapped] at hs
    omega

end SmdControlServer
