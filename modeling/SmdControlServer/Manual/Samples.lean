import SmdControlServer.Commands.Registers
import SmdControlServer.Manual.Decoding

/-!
# The samples of the manual mode

A sample is a direction and a reading, and it comes as one line of the file.  The
controller reads the line over what is left of the lines before, and ends the text
only where it finds a newline as the last character.  `runs_manualModeIteration_iff`
says that the sample gets through all the same, and that a turn with a sample is
`applySample`.
-/

namespace SmdControlServer

open CString Interaction

/-! ## Samples -/

/-- A direction, 0 or 1, and a reading of the potentiometer. -/
structure Sample where
  direction : Int
  reading : Int
  validDirection : direction = 0 ∨ direction = 1
  validReading : 0 ≤ reading ∧ reading ≤ 1023

namespace Sample

variable (s : Sample)

/-- What `echo` writes to the file: the direction, a comma, the reading. -/
def line : List Char :=
  formatInt s.direction ++ comma :: (formatInt s.reading ++ ['\n'])

def jogDirection : SmdJogDirection :=
  if s.direction = 0 then .clockwise else .counterClockwise

/-- `pot_value`. -/
def speed : Int :=
  s.reading * potScale

theorem speed_eq : s.speed = 30 * s.reading :=
  Int.mul_comm s.reading 30

theorem toInt_jogDirection : s.jogDirection.toInt = s.direction := by
  unfold jogDirection
  rcases s.validDirection with h | h
  · rw [h]
    rfl
  · rw [h]
    rfl

theorem jogDirection_ne_noDirection : s.jogDirection ≠ .noDirection := by
  unfold jogDirection
  split <;> decide

theorem speed_bounds : 0 ≤ s.speed ∧ s.speed ≤ 30690 := by
  have h := s.validReading
  rw [speed_eq]
  omega

theorem sampleValid_speed : sampleValid s.speed s.jogDirection = true := by
  obtain ⟨hlo, hhi⟩ := s.validReading
  have hreading : s.speed.tdiv potScale = s.reading :=
    Int.mul_tdiv_cancel s.reading (by decide)
  have hdirection : (s.jogDirection == .clockwise || s.jogDirection == .counterClockwise) =
      true := by
    unfold jogDirection
    split <;> rfl
  unfold sampleValid
  rw [hreading, hdirection]
  simp [hlo, hhi]

/-- The direction is one character. -/
theorem formatInt_direction : ∃ c, c.isDigit = true ∧ formatInt s.direction = [c] := by
  rcases s.validDirection with h | h
  · exact ⟨'0', by decide, by rw [h]; rfl⟩
  · exact ⟨'1', by decide, by rw [h]; rfl⟩

theorem isDigit_of_mem_formatInt_reading {c : Char} (h : c ∈ formatInt s.reading) :
    c.isDigit = true := by
  unfold formatInt at h
  rw [if_neg (by have hlo := s.validReading.1; omega)] at h
  exact isDigit_of_mem_toDigits h

theorem length_line_le : s.line.length ≤ 16 := by
  obtain ⟨c, _, hdirection⟩ := s.formatInt_direction
  have hreading : (formatInt s.reading).length ≤ 5 :=
    length_formatInt_le (k := 4) (by omega) (by have h := s.validReading; omega)
  unfold line
  rw [hdirection]
  simp only [List.singleton_append, List.length_cons, List.length_append, List.length_nil]
  omega

theorem two_le_length_line : 2 ≤ s.line.length := by
  obtain ⟨c, _, hdirection⟩ := s.formatInt_direction
  unfold line
  rw [hdirection]
  simp

theorem line_ne_nil : s.line ≠ [] := by
  unfold line
  simp

theorem nul_not_mem_line : '\x00' ∉ s.line := by
  obtain ⟨d, hd, hdirection⟩ := s.formatInt_direction
  unfold line
  rw [hdirection]
  simp only [List.singleton_append, List.mem_cons, List.mem_append, List.not_mem_nil,
    or_false, not_or]
  refine ⟨?_, by decide, ?_, by decide⟩
  · rintro rfl
    exact absurd hd (by decide)
  · intro h
    exact absurd (s.isDigit_of_mem_formatInt_reading h) (by decide)

/-- A text with the sample in front, and no comma behind it, has two tokens. -/
theorem splitOn_comma {rest : Text} (hcomma : comma ∉ rest) :
    (formatInt s.direction ++ comma :: (formatInt s.reading ++ rest)).splitOn comma =
      [formatInt s.direction, formatInt s.reading ++ rest] := by
  have hjoin : [comma].intercalate [formatInt s.direction, formatInt s.reading ++ rest] =
      formatInt s.direction ++ comma :: (formatInt s.reading ++ rest) := by
    simp [List.intercalate]
  rw [← hjoin]
  refine List.splitOn_intercalate comma ?_ (List.cons_ne_nil _ _)
  intro l hl
  obtain ⟨d, hd, hdirection⟩ := s.formatInt_direction
  rcases List.mem_cons.mp hl with rfl | hl
  · rw [hdirection, List.mem_singleton]
    rintro rfl
    exact absurd hd (by decide)
  · rw [List.mem_singleton.mp hl, List.mem_append]
    rintro (h | h)
    · exact absurd (s.isDigit_of_mem_formatInt_reading h) (by decide)
    · exact hcomma h

theorem numberOfTokens_eq {rest : Text} (hcomma : comma ∉ rest) (hspace : ' ' ∉ rest) :
    numberOfTokens (formatInt s.direction ++ comma :: (formatInt s.reading ++ rest)) = 2 := by
  have hnone : ' ' ∉ formatInt s.direction ++ comma :: (formatInt s.reading ++ rest) := by
    obtain ⟨d, hd, hdirection⟩ := s.formatInt_direction
    rw [hdirection]
    simp only [List.singleton_append, List.mem_cons, List.mem_append, not_or]
    refine ⟨?_, by decide, ?_, hspace⟩
    · rintro rfl
      exact absurd hd (by decide)
    · intro h
      exact absurd (s.isDigit_of_mem_formatInt_reading h) (by decide)
  unfold numberOfTokens
  rw [if_neg hnone, s.splitOn_comma hcomma]
  rfl

end Sample

/-! ## The buffer -/

/-- Behind the first two characters, the buffer has digits, newlines and zeros.  No
line has its comma further right, so no text gets a second comma from what is left of
another. -/
def CleanBuffer (buf : List Char) : Prop :=
  ∀ c ∈ buf.drop 2, c.isDigit = true ∨ c = '\n' ∨ c = '\x00'

theorem cleanBuffer_initial : CleanBuffer ControllerLocals.initial.buf := by
  intro c hc
  right
  right
  exact List.eq_of_mem_replicate (List.mem_of_mem_drop hc)

theorem CleanBuffer.stripNewline {buf : List Char} (h : CleanBuffer buf) :
    CleanBuffer (stripNewline buf) := by
  intro c hc
  rcases mem_drop_stripNewline hc with hmem | hnul
  · exact h c hmem
  · exact Or.inr (Or.inr hnul)

section

variable {s : Sample} {buf : List Char}

theorem readInto_line (s : Sample) (buf : List Char) :
    readInto buf s.line = s.line ++ buf.drop s.line.length := by
  unfold readInto
  rw [List.take_of_length_le s.length_line_le]

theorem CleanBuffer.readInto (h : CleanBuffer buf) : CleanBuffer (readInto buf s.line) := by
  obtain ⟨d, _, hdirection⟩ := s.formatInt_direction
  intro c hc
  rw [readInto_line] at hc
  have hline : s.line = [d, comma] ++ (formatInt s.reading ++ ['\n']) := by
    unfold Sample.line
    rw [hdirection]
    rfl
  rw [hline, List.append_assoc] at hc
  rcases List.mem_append.mp (show c ∈ (formatInt s.reading ++ ['\n']) ++ _ from hc) with
    hreading | hleft
  · rcases List.mem_append.mp hreading with hdigit | hnewline
    · exact Or.inl (s.isDigit_of_mem_formatInt_reading hdigit)
    · exact Or.inr (Or.inl (List.mem_singleton.mp hnewline))
  · refine h c (List.mem_of_mem_drop (i := s.line.length - 2) ?_)
    rw [List.drop_drop]
    have hlength : 2 + (s.line.length - 2) = s.line.length :=
      Nat.add_sub_of_le s.two_le_length_line
    rw [hlength, hline]
    exact hleft

/-- Behind the line stand the digits and newlines of earlier ones. -/
theorem CleanBuffer.of_mem_left (h : CleanBuffer buf) {c : Char}
    (hc : c ∈ ofBytes (buf.drop s.line.length)) : c.isDigit = true ∨ c = '\n' := by
  have hne : c ≠ '\x00' := fun heq => nul_not_mem_ofBytes _ (heq ▸ hc)
  have hmem : c ∈ buf.drop 2 := by
    have hdrop : c ∈ buf.drop s.line.length := (List.takeWhile_subset _) hc
    have hlength : 2 + (s.line.length - 2) = s.line.length :=
      Nat.add_sub_of_le s.two_le_length_line
    rw [← hlength, ← List.drop_drop] at hdrop
    exact List.mem_of_mem_drop hdrop
  rcases h c hmem with hdigit | hnewline | hnul
  · exact Or.inl hdigit
  · exact Or.inr hnewline
  · exact absurd hnul hne

/-- What is left of other lines comes behind the reading, and it begins with no
digit. -/
theorem exists_text_of_line (hbuf : CleanBuffer buf) :
    ∃ rest, NoDigitFirst rest ∧ (∀ c ∈ rest, c.isDigit = true ∨ c = '\n') ∧
      ofBytes (stripNewline (readInto buf s.line)) =
        formatInt s.direction ++ comma :: (formatInt s.reading ++ rest) := by
  have hleft : ∀ c ∈ ofBytes (buf.drop s.line.length), c.isDigit = true ∨ c = '\n' :=
    fun c hc => hbuf.of_mem_left hc
  have htext : ofBytes (readInto buf s.line) = formatInt s.direction ++
      comma :: (formatInt s.reading ++ '\n' :: ofBytes (buf.drop s.line.length)) := by
    rw [readInto_line, ofBytes_append s.nul_not_mem_line]
    unfold Sample.line
    simp
  -- the newline that is stripped is the last character, which need not be the one read
  rw [ofBytes_stripNewline, htext]
  generalize ofBytes (buf.drop s.line.length) = left at hleft
  split
  · cases left using List.reverseRecOn with
    | nil =>
        refine ⟨[], ?_, by simp, ?_⟩
        · intro c hc
          simp at hc
        · rw [← List.cons_append, ← List.append_assoc, List.dropLast_concat, List.append_nil]
    | append_singleton left c _ =>
        refine ⟨'\n' :: left, ?_, ?_, ?_⟩
        · intro c hc
          simp at hc
          subst hc
          decide
        · intro c hc
          rcases List.mem_cons.mp hc with rfl | hc
          · exact Or.inr rfl
          · exact hleft c (by simp [hc])
        · rw [← List.cons_append, ← List.append_assoc, ← List.cons_append,
            ← List.append_assoc, List.dropLast_concat, List.append_assoc]
          rfl
  · refine ⟨'\n' :: left, ?_, ?_, rfl⟩
    · intro c hc
      simp at hc
      subst hc
      decide
    · intro c hc
      rcases List.mem_cons.mp hc with rfl | hc
      · exact Or.inr rfl
      · exact hleft c hc

end

/-! ## One turn -/

theorem Sample.potValue_eq (s : Sample) :
    DecodedSample.potValue ⟨s.direction, s.reading⟩ = s.speed := by
  have h := s.speed_bounds
  have hspeed : toInt32 s.speed = s.speed := toInt32_eq_self (by omega) (by omega)
  exact hspeed

theorem Sample.jogValue_eq (s : Sample) :
    DecodedSample.jogValue ⟨s.direction, s.reading⟩ = s.jogDirection :=
  rfl

section

variable {s : Sample} {buf : List Char}

/-- What is read of a line has two tokens, the direction and one that begins with the
reading. -/
theorem exists_tokens_of_line (hbuf : CleanBuffer buf) :
    ∃ rest, NoDigitFirst rest ∧ numberOfTokens (textRead buf s.line) = 2 ∧
      (textRead buf s.line).splitOn comma =
        [formatInt s.direction, formatInt s.reading ++ rest] := by
  obtain ⟨rest, hdigit, hchars, htext⟩ := exists_text_of_line (s := s) hbuf
  have hcomma : comma ∉ rest := by
    intro h
    rcases hchars comma h with hc | hc
    · exact absurd hc (by decide)
    · exact absurd hc (by decide)
  have hspace : ' ' ∉ rest := by
    intro h
    rcases hchars _ h with hc | hc
    · exact absurd hc (by decide)
    · exact absurd hc (by decide)
  unfold textRead
  rw [htext]
  exact ⟨rest, hdigit, s.numberOfTokens_eq hcomma hspace, s.splitOn_comma hcomma⟩

theorem isInt32_direction (s : Sample) : IsInt32 s.direction := by
  have h := s.validDirection
  unfold IsInt32
  omega

theorem isInt32_reading (s : Sample) : IsInt32 s.reading := by
  have h := s.validReading
  unfold IsInt32
  omega

theorem strtol_direction (s : Sample) : strtol (formatInt s.direction) = clampLong s.direction := by
  have hnil : NoDigitFirst [] := by
    intro c hc
    simp at hc
  have h := strtol_of_denotes (formatInt_denotes s.direction) hnil
  rwa [List.append_nil] at h

/-- The line of a sample is decoded to the sample. -/
theorem decoded_line (hbuf : CleanBuffer buf) {l : Latch} (hstuck : l.stuck = false) :
    decoded l buf (.contents s.line) = some ⟨s.direction, s.reading⟩ := by
  obtain ⟨rest, hdigit, htokens, hsplit⟩ := exists_tokens_of_line (s := s) hbuf
  rw [decoded_contents s.line_ne_nil, decodedText_of_splitOn htokens hsplit,
    strtol_of_denotes (formatInt_denotes s.reading) hdigit, strtol_direction,
    Latch.after_of_not_loses ((isInt32_reading s).not_loses hstuck),
    (isInt32_reading s).read_eq_self hstuck, (isInt32_direction s).read_eq_self hstuck]

/-- Reading a line and converting its numbers changes nothing but the file. -/
theorem afterReading_line {w : World} (hbuf : CleanBuffer buf) (hstuck : w.stuck = false)
    (hread : w.manualReads.head = .contents s.line) :
    w.afterReading buf = w.takeManualRead := by
  obtain ⟨rest, hdigit, htokens, hsplit⟩ := exists_tokens_of_line (s := s) hbuf
  have hlatch : w.takeManualRead.latch.stuck = false := hstuck
  have hreading : ¬ w.takeManualRead.latch.Loses (strtol (formatInt s.reading ++ rest)) := by
    rw [strtol_of_denotes (formatInt_denotes s.reading) hdigit]
    exact (isInt32_reading s).not_loses hlatch
  have hdirection : ¬ w.takeManualRead.latch.Loses (strtol (formatInt s.direction)) := by
    rw [strtol_direction]
    exact (isInt32_direction s).not_loses hlatch
  rw [World.afterReading_contents s.line_ne_nil hread,
    World.afterDecoding_of_splitOn htokens hsplit, World.afterConversion_of_not_loses hreading,
    World.afterConversion_of_not_loses hdirection]

end

/-- The locals with the buffer as it is after a line has been read. -/
def ControllerLocals.afterLine (locals : ControllerLocals) (s : Sample) : ControllerLocals :=
  { locals with buf := stripNewline (readInto locals.buf s.line) }

theorem CleanBuffer.afterLine {locals : ControllerLocals} (h : CleanBuffer locals.buf)
    (s : Sample) : CleanBuffer (locals.afterLine s).buf :=
  h.readInto.stripNewline

/-- A turn with a sample in the file applies the sample. -/
theorem runs_manualModeIteration_iff {w w' : World} {locals locals' : ControllerLocals}
    {s : Sample} (hbuf : CleanBuffer locals.buf) (herrno : w.errno ≠ erange)
    (hread : w.manualReads.head = .contents s.line) :
    Runs server (manualModeIteration locals) w locals' w' ↔
      Runs server (applySample (locals.afterLine s) s.speed s.jogDirection)
        w.takeManualRead locals' w' := by
  have hstuck : w.stuck = false := decide_eq_false herrno
  have hvalid : sampleValid (DecodedSample.potValue ⟨s.direction, s.reading⟩)
      (DecodedSample.jogValue ⟨s.direction, s.reading⟩) = true := by
    rw [s.potValue_eq, s.jogValue_eq]
    exact s.sampleValid_speed
  rw [runs_manualModeIteration_iff_decoded, afterReading_line hbuf hstuck hread, hread,
    decoded_line hbuf (l := w.latch) hstuck, actOn_of_valid hvalid, s.potValue_eq, s.jogValue_eq]
  rw [bufferAfter_contents s.line_ne_nil]
  rfl

end SmdControlServer
