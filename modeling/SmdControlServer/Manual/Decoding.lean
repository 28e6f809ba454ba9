import SmdControlServer.Commands.Programs

/-!
# What a turn takes out of the file

A turn of the controller reads the file over the buffer, and then goes by the text that
stands there: `decoded` is the direction and the reading that it comes to.
`runs_manualModeIteration_iff_decoded` says that this is all that a turn makes of the
file, whatever is in it and whatever the buffer holds.
-/

namespace SmdControlServer

open CString Interaction

/-! ## The buffer -/

theorem ofBytes_append {head : List Char} (h : '\x00' ∉ head) (tail : List Char) :
    ofBytes (head ++ tail) = head ++ ofBytes tail := by
  unfold ofBytes
  refine List.takeWhile_append_of_pos fun c hc => ?_
  have hne : c ≠ '\x00' := fun heq => h (heq ▸ hc)
  simpa using hne

/-- Zeros behind a file do not show. -/
theorem ofBytes_append_zeros (bytes : List Char) (n : Nat) :
    ofBytes (bytes ++ List.replicate n '\x00') = ofBytes bytes := by
  by_cases hnul : '\x00' ∈ bytes
  · unfold ofBytes
    obtain ⟨text, rest, hbytes, htext⟩ := List.eq_append_cons_of_mem hnul
    rw [hbytes, List.append_assoc, ← ofBytes, ← ofBytes, ofBytes_append htext,
      ofBytes_append htext]
    rfl
  · rw [ofBytes_append hnul, ofBytes_eq_self hnul]
    cases n with
    | zero => exact List.append_nil bytes
    | succ n => exact List.append_nil bytes

/-- The newline at the end of a text is taken off. -/
theorem ofBytes_stripNewline (buf : List Char) :
    ofBytes (stripNewline buf) =
      if (ofBytes buf).getLast? = some '\n' then (ofBytes buf).dropLast else ofBytes buf := by
  unfold stripNewline
  by_cases hlast : (ofBytes buf).getLast? = some '\n'
  · rw [if_pos hlast, if_pos hlast]
    obtain ⟨text, htext⟩ := List.getLast?_eq_some_iff.mp hlast
    obtain ⟨rest, hbuf⟩ : ∃ rest, buf = text ++ '\n' :: rest := by
      refine ⟨buf.dropWhile (· != '\x00'), ?_⟩
      have hsplit : ofBytes buf ++ buf.dropWhile (· != '\x00') = buf :=
        List.takeWhile_append_dropWhile
      rw [htext] at hsplit
      simpa using hsplit.symm
    have hnul : '\x00' ∉ text := by
      intro h
      apply nul_not_mem_ofBytes buf
      rw [htext]
      exact List.mem_append_left _ h
    -- the newline becomes the NUL that ends the text
    have hset : buf.set ((ofBytes buf).length - 1) '\x00' = text ++ '\x00' :: rest := by
      rw [htext, hbuf]
      simp
    rw [hset, ofBytes_append hnul, htext, List.dropLast_concat]
    show text ++ [] = text
    exact List.append_nil text
  · rw [if_neg hlast, if_neg hlast]

/-- Nothing but a NUL comes into the buffer where a newline is stripped. -/
theorem mem_drop_stripNewline {buf : List Char} {k : Nat} {c : Char}
    (hc : c ∈ (stripNewline buf).drop k) : c ∈ buf.drop k ∨ c = '\x00' := by
  unfold stripNewline at hc
  split at hc
  · rw [List.drop_set] at hc
    split at hc
    · exact Or.inl hc
    · exact List.mem_or_eq_of_mem_set hc
  · exact Or.inl hc

/-! ## Decoding -/

/-- The two numbers of a text with two tokens, as they are converted. -/
structure DecodedSample where
  direction : Int
  reading : Int
  deriving DecidableEq, Repr

namespace DecodedSample

variable (d : DecodedSample)

def potValue : Int :=
  toInt32 (d.reading * potScale)

def jogValue : SmdJogDirection :=
  if d.direction = 0 then .clockwise else .counterClockwise

end DecodedSample

/-- What the conversions make of the text, the reading first. -/
def decodedText (l : Latch) (text : Text) : Option DecodedSample :=
  let tokens := tokenizeClientInput text 2
  if numberOfTokens text = 2 then
    some {
      direction := (l.after (strtol (tokens.token 1))).read (strtol (tokens.token 0))
      reading := l.read (strtol (tokens.token 1)) }
  else
    none

/-- The buffer after the file has been read. -/
def bufferAfter (buf : List Char) : ManualRead → List Char
  | .noAccess _ => buf
  | .openFailed _ => buf
  | .readFailed _ => stripNewline (readInto buf [])
  | .contents [] => buf
  | .contents bytes => stripNewline (readInto buf bytes)

/-- What a turn decodes. -/
def decoded (l : Latch) (buf : List Char) : ManualRead → Option DecodedSample
  | .noAccess _ => none
  | .openFailed _ => none
  | .readFailed e =>
      decodedText { l with stuck := decide (e = erange) }
        (ofBytes (bufferAfter buf (.readFailed e)))
  | .contents [] => none
  | .contents bytes => decodedText l (ofBytes (bufferAfter buf (.contents bytes)))

/-- The text of a file: what is before a NUL, without the newline at its end. -/
def fileText (bytes : List Char) : Text :=
  ofBytes (stripNewline bytes)

/-- The text that is split after the file has been read over the buffer. -/
def textRead (buf bytes : List Char) : Text :=
  ofBytes (stripNewline (readInto buf bytes))

/-- What a turn does with it. -/
def actOn (locals : ControllerLocals) : Option DecodedSample → Server ControllerLocals
  | none => pure locals
  | some d =>
      if sampleValid d.potValue d.jogValue then
        applySample locals d.potValue d.jogValue
      else
        pure locals

theorem actOn_of_valid {locals : ControllerLocals} {d : DecodedSample}
    (h : sampleValid d.potValue d.jogValue = true) :
    actOn locals (some d) = applySample locals d.potValue d.jogValue :=
  if_pos h

theorem actOn_of_not_valid {locals : ControllerLocals} {d : DecodedSample}
    (h : ¬ sampleValid d.potValue d.jogValue = true) : actOn locals (some d) = pure locals :=
  if_neg h

theorem exists_of_numberOfTokens {text : Text} (h : numberOfTokens text = 2) :
    ∃ first second, text.splitOn comma = [first, second] := by
  obtain ⟨first, rest, hrest, hsplit, _⟩ := exists_tokens h
  obtain ⟨second, rfl⟩ := List.length_eq_one_iff.mp hrest
  exact ⟨first, second, hsplit⟩

theorem decodedText_of_splitOn {l : Latch} {text first second : Text}
    (htokens : numberOfTokens text = 2) (hsplit : text.splitOn comma = [first, second]) :
    decodedText l text =
      some ⟨(l.after (strtol second)).read (strtol first), l.read (strtol second)⟩ := by
  unfold decodedText
  rw [if_pos htokens]
  unfold tokenizeClientInput Tokenized.token
  rw [hsplit]
  rfl

theorem decodedText_eq_some_iff {l : Latch} {text : Text} {d : DecodedSample} :
    decodedText l text = some d ↔
      ' ' ∉ text ∧ ∃ first second, text.splitOn comma = [first, second] ∧
        d = ⟨(l.after (strtol second)).read (strtol first), l.read (strtol second)⟩ := by
  constructor
  · intro hd
    by_cases htokens : numberOfTokens text = 2
    · obtain ⟨first, second, hsplit⟩ := exists_of_numberOfTokens htokens
      rw [decodedText_of_splitOn htokens hsplit] at hd
      refine ⟨fun hspace => ?_, first, second, hsplit, (Option.some.inj hd).symm⟩
      unfold numberOfTokens at htokens
      rw [if_pos hspace] at htokens
      exact absurd htokens (by decide)
    · have hnone : decodedText l text = none := if_neg htokens
      rw [hnone] at hd
      cases hd
  · rintro ⟨hspace, first, second, hsplit, rfl⟩
    have htokens : numberOfTokens text = 2 := by
      unfold numberOfTokens
      rw [if_neg hspace, hsplit]
      rfl
    exact decodedText_of_splitOn htokens hsplit

theorem bufferAfter_contents {buf bytes : List Char} (h : bytes ≠ []) :
    bufferAfter buf (.contents bytes) = stripNewline (readInto buf bytes) := by
  cases bytes with
  | nil => exact absurd rfl h
  | cons => rfl

theorem decoded_contents {l : Latch} {buf bytes : List Char} (h : bytes ≠ []) :
    decoded l buf (.contents bytes) = decodedText l (textRead buf bytes) := by
  cases bytes with
  | nil => exact absurd rfl h
  | cons => rfl

/-- Over zeros a file is read as it stands. -/
theorem textRead_initial {bytes : List Char} (hlength : bytes.length ≤ 16) :
    textRead ControllerLocals.initial.buf bytes = fileText bytes := by
  have hread : readInto ControllerLocals.initial.buf bytes =
      bytes ++ List.replicate (128 - bytes.length) '\x00' := by
    unfold readInto
    rw [List.take_of_length_le hlength]
    exact congrArg (bytes ++ ·) List.drop_replicate
  unfold textRead fileText
  rw [ofBytes_stripNewline, ofBytes_stripNewline, hread, ofBytes_append_zeros]

/-! ## Runs -/

/-- A turn's access to the file. -/
@[simps -fullyApplied] def World.takeManualRead (w : World) : World :=
  { w with manualReads := w.manualReads.tail }

/-- The world after the access to the file. -/
def World.afterManualRead (w : World) : World :=
  match w.manualReads.head with
  | .noAccess e => w.takeManualRead.setErrno e
  | .openFailed e => w.takeManualRead.setErrno e
  | .readFailed e => w.takeManualRead.setErrno e
  | .contents _ => w.takeManualRead

/-- The world after the two conversions. -/
def World.afterDecoding (w : World) (text : Text) : World :=
  if numberOfTokens text = 2 then
    (w.afterConversion ((tokenizeClientInput text 2).token 1)).afterConversion
      ((tokenizeClientInput text 2).token 0)
  else
    w

section

variable {w w' : World} {locals locals' : ControllerLocals}

theorem World.afterDecoding_of_splitOn {text first second : Text}
    (htokens : numberOfTokens text = 2) (hsplit : text.splitOn comma = [first, second]) :
    w.afterDecoding text = (w.afterConversion second).afterConversion first := by
  unfold World.afterDecoding
  rw [if_pos htokens]
  unfold tokenizeClientInput Tokenized.token
  rw [hsplit]
  rfl

theorem runs_decodeSample_iff_decoded {text : Text} (htext : numberOfTokens text = 2)
    {r : Int × SmdJogDirection} :
    Runs server (decodeSample text) w r w' ↔
      ∃ d, decodedText w.latch text = some d ∧ r = (d.potValue, d.jogValue) ∧
        w' = w.afterDecoding text := by
  unfold decodeSample decodedText World.afterDecoding
  simp only [Program.bind_eq_bind, runs_bind_iff, runs_convertStringToLongInt_iff]
  rw [if_pos htext, if_pos htext]
  constructor
  · rintro ⟨n, w₁, ⟨rfl, rfl⟩, m, w₂, ⟨rfl, rfl⟩, hdone⟩
    obtain ⟨rfl, rfl⟩ := runs_done_iff.mp hdone
    rw [World.latch_afterConversion]
    exact ⟨_, rfl, rfl, rfl⟩
  · rintro ⟨d, hd, rfl, rfl⟩
    cases hd
    refine ⟨_, _, ⟨rfl, rfl⟩, _, _, ⟨rfl, rfl⟩, ?_⟩
    rw [World.latch_afterConversion]
    exact runs_done_iff.mpr ⟨rfl, rfl⟩

/-- What follows the read. -/
theorem runs_handleSample_iff :
    Runs server (handleSample locals) w locals' w' ↔
      Runs server (actOn locals (decodedText w.latch (ofBytes locals.buf)))
        (w.afterDecoding (ofBytes locals.buf)) locals' w' := by
  unfold handleSample
  by_cases htokens : numberOfTokens (ofBytes locals.buf) = 2
  · rw [if_pos htokens, Program.bind_eq_bind, runs_bind_iff]
    constructor
    · rintro ⟨r, w₁, hdecode, hrest⟩
      obtain ⟨d, hd, rfl, rfl⟩ := (runs_decodeSample_iff_decoded htokens).mp hdecode
      rw [hd]
      exact hrest
    · intro hrun
      obtain ⟨d, hd⟩ : ∃ d, decodedText w.latch (ofBytes locals.buf) = some d :=
        ⟨_, if_pos htokens⟩
      rw [hd] at hrun
      exact ⟨_, _, (runs_decodeSample_iff_decoded htokens).mpr ⟨d, hd, rfl, rfl⟩, hrun⟩
  · have hnone : decodedText w.latch (ofBytes locals.buf) = none := if_neg htokens
    unfold World.afterDecoding
    rw [if_neg htokens, if_neg htokens, hnone]
    exact Iff.rfl

theorem runs_readManualFile {α : Type} {k : ManualRead → Server α} {a : α} :
    Runs server (.perform Request.readManualFile k) w a w' ↔
      Runs server (k w.manualReads.head) w.afterManualRead a w' := by
  refine runs_perform_of_handle ?_
  unfold World.afterManualRead
  simp only [server, handle]
  cases w.manualReads.head <;> rfl

/-- The world after a turn's access to the file and its conversions. -/
def World.afterReading (w : World) (buf : List Char) : World :=
  match w.manualReads.head with
  | .noAccess _ => w.afterManualRead
  | .openFailed _ => w.afterManualRead
  | .contents [] => w.afterManualRead
  | outcome => w.afterManualRead.afterDecoding (ofBytes (bufferAfter buf outcome))

theorem World.afterReading_contents {buf bytes : List Char} (h : bytes ≠ [])
    (hread : w.manualReads.head = .contents bytes) :
    w.afterReading buf = w.takeManualRead.afterDecoding (textRead buf bytes) := by
  unfold World.afterReading World.afterManualRead
  rw [hread]
  cases bytes with
  | nil => exact absurd rfl h
  | cons => rfl

/-- A turn acts on what it decodes. -/
theorem runs_manualModeIteration_iff_decoded :
    Runs server (manualModeIteration locals) w locals' w' ↔
      Runs server
        (actOn { locals with buf := bufferAfter locals.buf w.manualReads.head }
          (decoded w.latch locals.buf w.manualReads.head))
        (w.afterReading locals.buf) locals' w' := by
  unfold manualModeIteration readSample World.afterReading
  rw [Program.bind_eq_bind, Program.perform_bind, runs_readManualFile]
  cases hread : w.manualReads.head with
  | noAccess e => exact Iff.rfl
  | openFailed e => exact Iff.rfl
  | readFailed e =>
      have hlatch : w.afterManualRead.latch =
          { w.latch with stuck := decide (e = erange) } := by
        unfold World.afterManualRead
        rw [hread]
        rfl
      show _ ↔ Runs server (actOn _ (decodedText { w.latch with stuck := decide (e = erange) } _))
        _ _ _
      rw [← hlatch]
      exact runs_handleSample_iff
  | contents bytes =>
      have hlatch : w.latch = w.afterManualRead.latch := by
        unfold World.afterManualRead
        rw [hread]
        rfl
      cases bytes with
      | nil => exact Iff.rfl
      | cons byte rest =>
          rw [hlatch]
          exact runs_handleSample_iff

end

end SmdControlServer
