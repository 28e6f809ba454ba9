import SmdControlServer.Manual.Misreadings

/-!
# What is left of earlier contents

The buffer is not cleared between two turns, and nothing ends the text where the read
ended.  So a text without a newline is joined by what is left of a longer one, and after
a read that failed the buffer is decoded once more.  A turn is `Undisturbed` if neither
happens.  In a run of such turns each turn goes by the bytes it has read.
-/

namespace SmdControlServer

open CString Interaction

/-! ## The turns -/

/-- The bytes that a turn reads. -/
def ManualRead.bytesRead : ManualRead → List Char
  | .contents bytes => bytes.take 16
  | _ => []

/-- What the text in the buffer goes on with behind the bytes. -/
def leftBehind (buf bytes : List Char) : Text :=
  if '\x00' ∈ bytes then [] else ofBytes (buf.drop bytes.length)

/-- What comes behind the text changes neither that it has two tokens nor that it has not,
and the number in front of its second token goes on with none of it. -/
def Unjoined (text left : Text) : Prop :=
  (numberOfTokens (text ++ left) = 2 ↔ numberOfTokens text = 2) ∧
    ∀ first second, numberOfTokens text = 2 → text.splitOn comma = [first, second] →
      strtol (second ++ left) = strtol second

/-- Nothing that is left in the buffer is decoded.  No error is `ERANGE`, which would be
taken for one of a conversion. -/
def Undisturbed (buf : List Char) : ManualRead → Prop
  | .noAccess e => e ≠ erange
  | .openFailed e => e ≠ erange
  | .readFailed e => e ≠ erange ∧ numberOfTokens (ofBytes buf) ≠ 2
  | .contents [] => True
  | .contents bytes => Unjoined (ofBytes (bytes.take 16)) (leftBehind buf (bytes.take 16))

/-- A turn: what its access to the file gives and what it decodes. -/
structure DecodingTurn where
  outcome : ManualRead
  sample : Option DecodedSample

/-- The runs of the controller whose turns are of a kind: the turns so far, the locals and
`errno`.  Between two turns the rest of the world may change. -/
inductive DecodingRun (kind : List Char → ManualRead → Prop) :
    List DecodingTurn → ControllerLocals → Int → Prop
  | start : DecodingRun kind [] ControllerLocals.initial 0
  | turn {turns : List DecodingTurn} {locals locals' : ControllerLocals} {w w' : World}
      (hbefore : DecodingRun kind turns locals w.errno)
      (hkind : kind locals.buf w.manualReads.head)
      (hrun : Runs server (manualModeIteration locals) w locals' w') :
      DecodingRun kind
        (turns ++ [⟨w.manualReads.head, decoded w.latch locals.buf w.manualReads.head⟩])
        locals' w'.errno

/-! ## Texts -/

theorem numberOfTokens_append {text tail : Text} (hspace : ' ' ∉ tail) (hcomma : comma ∉ tail) :
    numberOfTokens (text ++ tail) = numberOfTokens text := by
  unfold numberOfTokens
  simp only [List.mem_append, hspace, or_false, length_splitOn, List.count_append,
    List.count_eq_zero.mpr hcomma, Nat.add_zero]

theorem comma_not_mem_of_two {text tail : Text} (h : numberOfTokens text = 2)
    (h' : numberOfTokens (text ++ tail) = 2) : comma ∉ tail := by
  have hlength := length_splitOn_of_numberOfTokens (n := 2) h
  have hlength' := length_splitOn_of_numberOfTokens (n := 2) h'
  rw [length_splitOn] at hlength hlength'
  rw [List.count_append] at hlength'
  exact List.count_eq_zero.mp (by omega)

/-- What does not join a text is not decoded with it. -/
theorem Unjoined.decodedText_append {text tail : Text} (h : Unjoined text tail) (l : Latch) :
    decodedText l (text ++ tail) = decodedText l text := by
  by_cases htokens : numberOfTokens text = 2
  · have htokens' := h.1.mpr htokens
    obtain ⟨first, second, hsplit⟩ := exists_of_numberOfTokens htokens
    have hstrtol := h.2 first second htokens hsplit
    have hsplit' := splitOn_append_of_two hsplit (comma_not_mem_of_two htokens htokens')
    rw [decodedText_of_splitOn htokens hsplit, decodedText_of_splitOn htokens' hsplit', hstrtol]
  · have htokens' := mt h.1.mp htokens
    unfold decodedText
    rw [if_neg htokens, if_neg htokens']

theorem unjoined_of_splitOn {text left first second : Text}
    (hsplit : text.splitOn comma = [first, second])
    (htokens : numberOfTokens (text ++ left) = numberOfTokens text)
    (hstrtol : strtol (second ++ left) = strtol second) : Unjoined text left := by
  refine ⟨by rw [htokens], fun _ _ _ hsplit' => ?_⟩
  rw [hsplit] at hsplit'
  cases hsplit'
  exact hstrtol

theorem unjoined_newline (text : Text) : Unjoined text ['\n'] := by
  constructor
  · rw [numberOfTokens_append (by decide) (by decide)]
  · intro _ second _ _
    exact strtol_append_space rfl second

/-- The newline at the end makes no difference. -/
theorem decodedText_stripNewline (l : Latch) (buf : List Char) :
    decodedText l (ofBytes (stripNewline buf)) = decodedText l (ofBytes buf) := by
  rw [ofBytes_stripNewline]
  split
  · rename_i hlast
    obtain ⟨text, htext⟩ := List.getLast?_eq_some_iff.mp hlast
    rw [htext, List.dropLast_concat, (unjoined_newline text).decodedText_append]
  · rfl

/-! ## The buffer -/

theorem ofBytes_readInto (buf bytes : List Char) :
    ofBytes (readInto buf bytes) =
      ofBytes (bytes.take 16) ++ leftBehind buf (bytes.take 16) := by
  unfold readInto leftBehind
  split
  · rename_i hnul
    obtain ⟨text, rest, hbytes, htext⟩ := List.eq_append_cons_of_mem hnul
    rw [hbytes, List.append_assoc, ofBytes_append htext, ofBytes_append htext,
      List.append_nil]
    rfl
  · rename_i hnul
    rw [ofBytes_append hnul, ofBytes_eq_self hnul]

/-- No read has reached further than 16 bytes. -/
def ShortBuffer (buf : List Char) : Prop :=
  ∀ c ∈ buf.drop 16, c = '\x00'

theorem shortBuffer_initial : ShortBuffer ControllerLocals.initial.buf :=
  fun _ hc => List.eq_of_mem_replicate (List.mem_of_mem_drop hc)

theorem ShortBuffer.stripNewline {buf : List Char} (h : ShortBuffer buf) :
    ShortBuffer (stripNewline buf) := by
  intro c hc
  rcases mem_drop_stripNewline hc with hmem | hnul
  · exact h c hmem
  · exact hnul

theorem ShortBuffer.readInto {buf : List Char} (h : ShortBuffer buf) (bytes : List Char) :
    ShortBuffer (readInto buf bytes) := by
  intro c hc
  unfold SmdControlServer.readInto at hc
  have hlength : (bytes.take 16).length ≤ 16 := List.length_take_le 16 bytes
  rw [List.drop_append, List.drop_of_length_le hlength, List.nil_append, List.drop_drop] at hc
  refine h c ?_
  rwa [Nat.add_sub_of_le hlength] at hc

theorem ShortBuffer.bufferAfter {buf : List Char} (h : ShortBuffer buf) (outcome : ManualRead) :
    ShortBuffer (bufferAfter buf outcome) := by
  cases outcome with
  | noAccess e => exact h
  | openFailed e => exact h
  | readFailed e => exact (h.readInto []).stripNewline
  | contents bytes =>
      cases bytes with
      | nil => exact h
      | cons byte rest => exact (h.readInto _).stripNewline

theorem ShortBuffer.length_text {buf : List Char} (h : ShortBuffer buf) :
    (ofBytes buf).length ≤ 16 := by
  have hstart : ofBytes buf <+: buf := List.takeWhile_prefix _
  by_contra hlong
  have hdrop : (ofBytes buf).drop 16 ≠ [] := by
    intro hnil
    exact hlong (List.drop_eq_nil_iff.mp hnil)
  obtain ⟨c, hc⟩ := List.exists_mem_of_ne_nil _ hdrop
  have hnul : c = '\x00' := h c ((hstart.drop 16).subset hc)
  exact nul_not_mem_ofBytes buf (hnul ▸ List.mem_of_mem_drop hc)

/-- In a short buffer no conversion overflows. -/
theorem ShortBuffer.erange_eq {buf : List Char} (h : ShortBuffer buf) {first second : Text}
    (hsplit : (ofBytes buf).splitOn comma = [first, second]) :
    (strtol first).erange = false ∧ (strtol second).erange = false := by
  have hlength : first.length + (second.length + 1) ≤ 16 := by
    have htext := h.length_text
    rwa [eq_append_of_splitOn hsplit, List.length_append, List.length_cons] at htext
  exact ⟨strtol_erange_of_length (by omega), strtol_erange_of_length (by omega)⟩

theorem World.stuck_afterConversion_eq_false {w : World} {str : Text} (hstuck : w.stuck = false)
    (herange : (strtol str).erange = false) : (w.afterConversion str).stuck = false := by
  have hlatch := congrArg Latch.stuck (w.latch_afterConversion str)
  exact hlatch.trans (Latch.stuck_after_eq_false hstuck herange)

/-- So `errno` does not become `ERANGE`. -/
theorem ShortBuffer.stuck_afterDecoding {buf : List Char} (h : ShortBuffer buf) {w : World}
    (hstuck : w.stuck = false) : (w.afterDecoding (ofBytes buf)).stuck = false := by
  by_cases htokens : numberOfTokens (ofBytes buf) = 2
  · obtain ⟨first, second, hsplit⟩ := exists_of_numberOfTokens htokens
    obtain ⟨hfirst, hsecond⟩ := h.erange_eq hsplit
    rw [World.afterDecoding_of_splitOn htokens hsplit]
    exact World.stuck_afterConversion_eq_false
      (World.stuck_afterConversion_eq_false hstuck hsecond) hfirst
  · unfold World.afterDecoding
    rwa [if_neg htokens]

theorem Latch.read_eq {l l' : Latch} (h : l.stuck = l'.stuck) (result : StrtolResult) :
    l.read result = l'.read result := by
  unfold Latch.read
  simp only [Latch.loses_iff, h]

/-- With `errno` clear, a short buffer is decoded by its text. -/
theorem ShortBuffer.decodedText_eq {buf : List Char} (h : ShortBuffer buf) {l l' : Latch}
    (hl : l.stuck = false) (hl' : l'.stuck = false) :
    decodedText l (ofBytes buf) = decodedText l' (ofBytes buf) := by
  by_cases htokens : numberOfTokens (ofBytes buf) = 2
  · obtain ⟨first, second, hsplit⟩ := exists_of_numberOfTokens htokens
    have hsecond := (h.erange_eq hsplit).2
    have hafter : (l.after (strtol second)).stuck = (l'.after (strtol second)).stuck := by
      rw [Latch.stuck_after_eq_false hl hsecond, Latch.stuck_after_eq_false hl' hsecond]
    rw [decodedText_of_splitOn htokens hsplit, decodedText_of_splitOn htokens hsplit,
      Latch.read_eq hafter, Latch.read_eq (hl.trans hl'.symm)]
  · unfold decodedText
    rw [if_neg htokens, if_neg htokens]

/-! ## One turn -/

theorem decoded_readFailed {l : Latch} {buf : List Char} {e : Int}
    (h : numberOfTokens (ofBytes buf) ≠ 2) : decoded l buf (.readFailed e) = none := by
  show decodedText _ (ofBytes (stripNewline (readInto buf []))) = none
  rw [decodedText_stripNewline]
  exact if_neg h

/-- A turn that is not disturbed decodes what it would have decoded at first. -/
theorem decoded_of_undisturbed {buf : List Char} {outcome : ManualRead}
    (h : Undisturbed buf outcome) (l : Latch) :
    decoded l buf outcome =
      decoded l ControllerLocals.initial.buf (.contents outcome.bytesRead) := by
  cases outcome with
  | noAccess e => rfl
  | openFailed e => rfl
  | readFailed e => exact decoded_readFailed h.2
  | contents bytes =>
      cases bytes with
      | nil => rfl
      | cons byte rest =>
          have hjoined : Unjoined (ofBytes ((byte :: rest).take 16)) _ := h
          have hbytes : (byte :: rest).take 16 ≠ [] := by simp
          show _ = decoded _ _ (.contents ((byte :: rest).take 16))
          rw [decoded_contents (List.cons_ne_nil _ _), decoded_contents hbytes,
            textRead_initial (List.length_take_le 16 _)]
          unfold textRead fileText
          rw [decodedText_stripNewline, decodedText_stripNewline, ofBytes_readInto,
            hjoined.decodedText_append]

section

variable {w w' : World} {locals locals' : ControllerLocals}

theorem Undisturbed.errno_afterManualRead {buf : List Char}
    (h : Undisturbed buf w.manualReads.head) (herrno : w.errno ≠ erange) :
    w.afterManualRead.errno ≠ erange := by
  unfold World.afterManualRead
  cases hread : w.manualReads.head with
  | noAccess e =>
      rw [hread] at h
      exact h
  | openFailed e =>
      rw [hread] at h
      exact h
  | readFailed e =>
      rw [hread] at h
      exact h.1
  | contents bytes => exact herrno

theorem Undisturbed.errno_afterReading {buf : List Char} (hbuf : ShortBuffer buf)
    (h : Undisturbed buf w.manualReads.head) (herrno : w.errno ≠ erange) :
    (w.afterReading buf).errno ≠ erange := by
  have hread := h.errno_afterManualRead herrno
  unfold World.afterReading
  split
  · exact hread
  · exact hread
  · exact hread
  · exact of_decide_eq_false ((hbuf.bufferAfter _).stuck_afterDecoding (decide_eq_false hread))

/-- With `errno` clear, a file that is read at first is decoded by its bytes. -/
theorem decoded_initial_eq {l l' : Latch} (hl : l.stuck = false) (hl' : l'.stuck = false)
    (bytes : List Char) :
    decoded l ControllerLocals.initial.buf (.contents bytes) =
      decoded l' ControllerLocals.initial.buf (.contents bytes) := by
  cases bytes with
  | nil => rfl
  | cons byte rest => exact (shortBuffer_initial.bufferAfter _).decodedText_eq hl hl'

/-- Acting on a sample leaves the buffer and `errno` alone. -/
theorem runs_actOn_keeps {sample : Option DecodedSample}
    (h : Runs server (actOn locals sample) w locals' w') :
    locals'.buf = locals.buf ∧ w'.errno = w.errno := by
  have hpure : Runs server (pure locals) w locals' w' →
      locals'.buf = locals.buf ∧ w'.errno = w.errno := by
    intro hrun
    obtain ⟨rfl, rfl⟩ := runs_done_iff.mp hrun
    exact ⟨rfl, rfl⟩
  cases sample with
  | none => exact hpure h
  | some d =>
      by_cases hvalid : sampleValid d.potValue d.jogValue = true
      · rw [actOn_of_valid hvalid, runs_applySample_iff] at h
        obtain ⟨rfl, hmotions⟩ := h
        exact ⟨rfl, hmotions.errno_eq⟩
      · rw [actOn_of_not_valid hvalid] at h
        exact hpure h

/-- What holds between the turns of an undisturbed run. -/
structure DecodedSoFar (turns : List DecodingTurn) (locals : ControllerLocals)
    (errno : Int) : Prop where
  buf : ShortBuffer locals.buf
  errno : errno ≠ erange
  decoded : ∀ t ∈ turns, ∀ l : Latch, l.stuck = false →
    t.sample = SmdControlServer.decoded l ControllerLocals.initial.buf
      (.contents t.outcome.bytesRead)

theorem decodedSoFar_initial : DecodedSoFar [] ControllerLocals.initial 0 where
  buf := shortBuffer_initial
  errno := by decide
  decoded := fun _ ht => absurd ht List.not_mem_nil

theorem DecodedSoFar.turn {turns : List DecodingTurn} (h : DecodedSoFar turns locals w.errno)
    (hkind : Undisturbed locals.buf w.manualReads.head)
    (hrun : Runs server (manualModeIteration locals) w locals' w') :
    DecodedSoFar
      (turns ++ [⟨w.manualReads.head, SmdControlServer.decoded w.latch locals.buf
        w.manualReads.head⟩]) locals' w'.errno := by
  have hstuck : w.latch.stuck = false := decide_eq_false h.errno
  rw [runs_manualModeIteration_iff_decoded] at hrun
  obtain ⟨hbuf, herrno⟩ := runs_actOn_keeps hrun
  constructor
  case buf =>
    rw [hbuf]
    exact h.buf.bufferAfter _
  case errno =>
    rw [herrno]
    exact hkind.errno_afterReading h.buf h.errno
  case decoded =>
    intro t ht l hl
    rcases List.mem_append.mp ht with hbefore | hlast
    · exact h.decoded t hbefore l hl
    · rw [List.mem_singleton.mp hlast, decoded_of_undisturbed hkind]
      exact decoded_initial_eq hstuck hl _

theorem DecodingRun.decodedSoFar {turns : List DecodingTurn} {errno : Int}
    (h : DecodingRun Undisturbed turns locals errno) : DecodedSoFar turns locals errno := by
  induction h with
  | start => exact decodedSoFar_initial
  | turn _ hkind hrun ih => exact ih.turn hkind hrun

/-- In undisturbed runs, turns that read the same bytes decode the same, whatever was read
before, and a turn that reads nothing decodes nothing. -/
theorem decodes_bytes_read {turns turns' : List DecodingTurn} {errno errno' : Int}
    (h : DecodingRun Undisturbed turns locals errno)
    (h' : DecodingRun Undisturbed turns' locals' errno') :
    (∀ t ∈ turns, ∀ t' ∈ turns', t.outcome.bytesRead = t'.outcome.bytesRead →
      t.sample = t'.sample) ∧
    ∀ t ∈ turns, t.outcome.bytesRead = [] → t.sample = none := by
  have hclear : World.ready.latch.stuck = false := rfl
  refine ⟨fun t ht t' ht' hsame => ?_, fun t ht hnothing => ?_⟩
  · rw [h.decodedSoFar.decoded t ht _ hclear,
      h'.decodedSoFar.decoded t' ht' _ hclear, hsame]
  · rw [h.decodedSoFar.decoded t ht _ hclear, hnothing]
    rfl

end

/-! ## A line, and texts without a newline -/

/-- A server whose controller finds this. -/
def World.finding (outcome : ManualRead) : World :=
  { World.facing (Globals.connectedTo "10.0.0.5".toList) willingDrive with
    manualReads := Stream'.const outcome }

/-- The locals after a turn that has followed a sample. -/
def ControllerLocals.after (locals : ControllerLocals) (outcome : ManualRead)
    (d : DecodedSample) : ControllerLocals :=
  { locals with buf := bufferAfter locals.buf outcome }.remember d.potValue d.jogValue

/-- A turn that follows a sample, computed, and `errno` after it. -/
theorem DecodingRun.turn_of_eval {kind : List Char → ManualRead → Prop}
    {turns : List DecodingTurn} {locals : ControllerLocals} (h : DecodingRun kind turns locals 0)
    (outcome : ManualRead) (d : DecodedSample) (errno : Int) (hkind : kind locals.buf outcome)
    (hdecoded : decoded World.ready.latch locals.buf outcome = some d)
    (heval : (eval server 0 (manualModeIteration locals) (World.finding outcome)).map
      (fun r => (r.1, r.2.errno)) = some (locals.after outcome d, errno)) :
    DecodingRun kind (turns ++ [⟨outcome, some d⟩]) (locals.after outcome d) errno := by
  obtain ⟨_, w', hrun, heq⟩ := exists_runs_of_eval heval
  obtain ⟨rfl, herrno⟩ := Prod.mk.inj heq
  rw [← herrno, ← hdecoded]
  exact DecodingRun.turn (w := World.finding outcome) h hkind hrun

/-- Behind the newline of a shorter line, what is left of a longer one does no harm. -/
theorem shorter_line_decodes :
    ∃ turns locals turns' locals', DecodingRun Undisturbed turns locals 0 ∧
      DecodingRun Undisturbed turns' locals' 0 ∧
      turns = [⟨.contents "1,1000\n".toList, some ⟨1, 1000⟩⟩,
        ⟨.contents "1,5\n".toList, some ⟨1, 5⟩⟩] ∧
      turns' = [⟨.contents "1,5\n".toList, some ⟨1, 5⟩⟩] ∧
      (∀ t ∈ turns, ∀ t' ∈ turns', t.outcome.bytesRead = t'.outcome.bytesRead →
        t.sample = t'.sample) ∧
      ∀ t ∈ turns, t.outcome.bytesRead = [] → t.sample = none := by
  let long : ManualRead := .contents "1,1000\n".toList
  let short : ManualRead := .contents "1,5\n".toList
  let locals₁ := ControllerLocals.initial.after long ⟨1, 1000⟩
  have hsplit : "1,1000\n".toList.splitOn comma = ["1".toList, "1000\n".toList] := by
    decide +kernel
  have hsplit' : "1,5\n".toList.splitOn comma = ["1".toList, "5\n".toList] := by
    decide +kernel
  have hlong : Undisturbed ControllerLocals.initial.buf long :=
    unjoined_of_splitOn hsplit (by decide +kernel) (by decide +kernel)
  have hshort : Undisturbed locals₁.buf short :=
    unjoined_of_splitOn hsplit' (by decide +kernel) (by decide +kernel)
  have hshort' : Undisturbed ControllerLocals.initial.buf short :=
    unjoined_of_splitOn hsplit' (by decide +kernel) (by decide +kernel)
  have h₁ := DecodingRun.start.turn_of_eval long ⟨1, 1000⟩ 0 hlong (by decide +kernel)
    (by decide +kernel)
  have h₂ := h₁.turn_of_eval short ⟨1, 5⟩ 0 hshort (by decide +kernel) (by decide +kernel)
  have h' := DecodingRun.start.turn_of_eval short ⟨1, 5⟩ 0 hshort' (by decide +kernel)
    (by decide +kernel)
  exact ⟨_, _, _, _, h₂, h', rfl, rfl, decodes_bytes_read h₂ h'⟩

/-- Any turn. -/
def AnyTurn (_ : List Char) (_ : ManualRead) : Prop :=
  True

/-- A text without a newline is joined by the one before, and a read that fails decodes it
once more. -/
theorem longer_text_joins :
    ∃ turns locals turns' locals', DecodingRun AnyTurn turns locals 5 ∧
      DecodingRun AnyTurn turns' locals' 0 ∧
      turns = [⟨.contents "1,12".toList, some ⟨1, 12⟩⟩,
        ⟨.contents "1,3".toList, some ⟨1, 32⟩⟩, ⟨.readFailed 5, some ⟨1, 32⟩⟩] ∧
      turns' = [⟨.contents "1,3".toList, some ⟨1, 3⟩⟩] := by
  have hstart : DecodingRun AnyTurn [] ControllerLocals.initial 0 := .start
  have h₁ := hstart.turn_of_eval (.contents "1,12".toList) ⟨1, 12⟩ 0 trivial (by decide +kernel)
    (by decide +kernel)
  have h₂ := h₁.turn_of_eval (.contents "1,3".toList) ⟨1, 32⟩ 0 trivial (by decide +kernel)
    (by decide +kernel)
  have h₃ := h₂.turn_of_eval (.readFailed 5) ⟨1, 32⟩ 5 trivial (by decide +kernel)
    (by decide +kernel)
  have h' := hstart.turn_of_eval (.contents "1,3".toList) ⟨1, 3⟩ 0 trivial (by decide +kernel)
    (by decide +kernel)
  exact ⟨_, _, _, _, h₃, h', rfl, rfl⟩

end SmdControlServer
