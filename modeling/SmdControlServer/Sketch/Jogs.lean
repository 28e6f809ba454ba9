import SmdControlServer.Interaction.Watching
import SmdControlServer.Manual.Executions
import SmdControlServer.Server.Workers
import SmdControlServer.Sketch.File

/-!
# From the potentiometer to the jogs

The sketch writes the file of the manual mode while controllers read it.  What a controller
jogs on is a sample that the sketch has measured, in this run or, as long as nothing is
written, in the one before, whatever is left of other lines in the controller's buffer, and
however often its reads fail.
-/

namespace SmdControlServer

open CString Interaction

/-! ## The controller's buffer -/

/-- The text is that of the sample, with what is left of other lines behind it. -/
def BeginsWith (s : Sample) (text : Text) : Prop :=
  ∃ rest, NoDigitFirst rest ∧ (∀ c ∈ rest, c.isDigit = true ∨ c = '\n') ∧
    text = formatInt s.direction ++ comma :: (formatInt s.reading ++ rest)

section

variable {s : Sample} {buf : List Char} {text : Text}

theorem BeginsWith.tokens (h : BeginsWith s text) :
    numberOfTokens text = 2 ∧ ∃ rest, NoDigitFirst rest ∧
      text.splitOn comma = [formatInt s.direction, formatInt s.reading ++ rest] := by
  obtain ⟨rest, hdigit, hchars, rfl⟩ := h
  have hother : ∀ c ∈ rest, c ≠ comma ∧ c ≠ ' ' := by
    intro c hc
    rcases hchars c hc with hc | rfl
    · constructor
      · rintro rfl
        exact absurd hc (by decide)
      · rintro rfl
        exact absurd hc (by decide)
    · decide
  have hcomma : comma ∉ rest := fun hmem => (hother _ hmem).1 rfl
  have hspace : ' ' ∉ rest := fun hmem => (hother _ hmem).2 rfl
  exact ⟨s.numberOfTokens_eq hcomma hspace, rest, hdigit, s.splitOn_comma hcomma⟩

/-- A newline that is stripped again is one of those behind the reading. -/
theorem BeginsWith.stripNewline (h : BeginsWith s (ofBytes buf)) :
    BeginsWith s (ofBytes (stripNewline buf)) := by
  rw [ofBytes_stripNewline]
  split
  · rename_i hnewline
    obtain ⟨rest, hdigit, hchars, htext⟩ := h
    rw [htext] at hnewline ⊢
    cases rest using List.reverseRecOn with
    | nil =>
        -- the last character would be one of the reading
        have hmem : '\n' ∈ formatInt s.reading := by
          rw [List.append_nil, List.getLast?_append, List.getLast?_cons] at hnewline
          cases hlast : (formatInt s.reading).getLast? with
          | none =>
              rw [hlast] at hnewline
              cases hnewline
          | some c =>
              rw [hlast] at hnewline
              cases hnewline
              exact List.mem_of_getLast? hlast
        exact absurd (s.isDigit_of_mem_formatInt_reading hmem) (by decide)
    | append_singleton rest c _ =>
        refine ⟨rest, ?_, fun c hc => hchars c (by simp [hc]), ?_⟩
        · intro c' hc'
          refine hdigit c' ?_
          cases rest with
          | nil => simp at hc'
          | cons first rest => exact hc'
        · rw [← List.append_assoc (formatInt s.reading), ← List.cons_append,
            ← List.append_assoc, List.dropLast_concat]
  · exact h

/-- What the buffer has after the last text that was read. -/
structure Holds (buf : List Char) (text : Text) : Prop where
  clean : CleanBuffer buf
  shows : text = [] ∧ ofBytes buf = [] ∨ ∃ s : Sample, text = s.line ∧ BeginsWith s (ofBytes buf)

theorem holds_initial : Holds ControllerLocals.initial.buf [] :=
  ⟨cleanBuffer_initial, Or.inl ⟨rfl, rfl⟩⟩

theorem Holds.afterLine (h : Holds buf text) (s : Sample) :
    Holds (SmdControlServer.stripNewline (readInto buf s.line)) s.line :=
  ⟨h.clean.readInto.stripNewline, Or.inr ⟨s, rfl, exists_text_of_line h.clean⟩⟩

/-- A read that fails goes on with the old text. -/
theorem Holds.afterFailure (h : Holds buf text) :
    Holds (SmdControlServer.stripNewline (readInto buf [])) text := by
  refine ⟨CleanBuffer.stripNewline h.clean, ?_⟩
  show text = [] ∧ ofBytes (SmdControlServer.stripNewline buf) = [] ∨ _
  rcases h.shows with ⟨rfl, hempty⟩ | ⟨s, rfl, hbegins⟩
  · left
    rw [ofBytes_stripNewline, hempty]
    exact ⟨rfl, rfl⟩
  · exact Or.inr ⟨s, rfl, hbegins.stripNewline⟩

end

/-! ## The monitor -/

/-- The text that a read of the file has come to. -/
def ManualRead.text? : ManualRead → Option Text
  | .contents [] => none
  | .contents bytes => some bytes
  | _ => none

/-- The last text that the controller has read, and what it knows of its `errno`. -/
structure LastRead where
  text : Text
  stuck : Option Bool

/-- The jog is for the sample of the text. -/
def JogFor (text : Text) (direction accel decel jerk speed : Int) : Prop :=
  ∃ s : Sample, text = s.line ∧ 0 < s.reading ∧
    (direction, accel, decel, jerk, speed) = (s.direction, 250, 250, 0, 30 * s.reading)

/-- A controller jogs for the last text that it has read.  What is read is the line of a
sample, or nothing. -/
def sampleMonitor : Monitor serverSignature LastRead where
  allows
    | q, .note (.smdJog direction accel decel jerk speed) =>
        JogFor q.text direction accel decel jerk speed
    | _, _ => True
  expects
    | q, .errnoIsErange, x => ∀ b ∈ q.stuck, x = b
    | _, .readManualFile, x => ∀ bytes ∈ ManualRead.text? x, ∃ s : Sample, bytes = s.line
    | _, _, _ => True
  next
    | q, .errnoIsErange, x => { q with stuck := some x }
    | q, .setErrno _, _ => { q with stuck := none }
    | q, .perror, _ => { q with stuck := none }
    | q, .readClient _, _ => { q with stuck := none }
    | q, .readManualFile, x => ⟨(ManualRead.text? x).getD q.text, none⟩
    | q, _, _ => q
  pre
    | .manualModeLoop locals, q => Holds locals.buf q.text
    | .serverLoop _, _ => False
    | _, _ => True
  post
    | .smdHoldMove, q, _, q' => q' = q
    | .smdImmedStop, q, _, q' => q' = q
    | _, _, _, _ => True

section

variable {α β : Type} {q : LastRead} {s : Sample}

theorem sampleMonitor_of_ofWorker {o : Request} (ho : o.OfWorker) (q : LastRead) :
    sampleMonitor.allows q o ∧ ∀ x, sampleMonitor.next q o x = q := by
  cases o with
  | note n => exact ho.elim
  | errnoIsErange => exact ho.elim
  | setErrno e => exact ho.elim
  | perror => exact ho.elim
  | readClient cl => exact ho.elim
  | readManualFile => exact ho.elim
  | _ => exact ⟨trivial, fun _ => rfl⟩

theorem sampling_of_ofWorkers {p : Server α} (hp : OfWorkers p) :
    p.Safe sampleMonitor (fun _ q' => q' = q) q := by
  refine Program.Obeys.safe ?_ ?_ hp rfl
  · rintro o ho q' rfl
    obtain ⟨hallowed, hnext⟩ := sampleMonitor_of_ofWorker ho q'
    exact ⟨hallowed, fun x _ => ⟨by cases o <;> trivial, hnext x⟩⟩
  · rintro p (rfl | rfl) q' rfl
    · exact ⟨trivial, fun _ _ h => h⟩
    · exact ⟨trivial, fun _ _ h => h⟩

theorem sampling_smdHoldMove : smdHoldMove.Safe sampleMonitor (fun _ q' => q' = q) q :=
  ⟨trivial, fun _ _ => sampling_of_ofWorkers (ofWorkers_sendModbusCommand _)⟩

/-! ## A sample -/

/-- A number of `int32_t` is read as it stands, and `errno` is not `ERANGE` then, or -1 is
read, and `errno` may have been `ERANGE` before. -/
theorem sampling_convertStringToLongInt {str : Text} {n : Int} (hn : IsInt32 n)
    (hstr : strtol str = clampLong n) :
    (convertStringToLongInt str).Safe sampleMonitor (fun m q' => q'.text = q.text ∧
      ((m = n ∧ q'.stuck = some false) ∨ (m = -1 ∧ q.stuck ≠ some false))) q := by
  rw [hn.clampLong_eq] at hstr
  unfold convertStringToLongInt
  simp only [hstr, Bool.false_eq_true, if_false]
  refine ⟨trivial, fun b hb => ?_⟩
  cases b with
  | true =>
      refine ⟨trivial, fun _ _ => ⟨rfl, Or.inr ⟨rfl, fun hstuck => ?_⟩⟩⟩
      cases hb false hstuck
  | false => exact ⟨rfl, Or.inl ⟨toInt32_eq_self hn.1 hn.2, rfl⟩⟩

/-- The sample of the text is decoded, or -1 is taken for its reading, which is out of
range. -/
theorem sampling_decodeSample {text : Text} (h : BeginsWith s text) :
    (decodeSample text).Safe sampleMonitor (fun r q' => q'.text = q.text ∧
      (r = (s.speed, s.jogDirection) ∨ sampleValid r.1 r.2 = false)) q := by
  obtain ⟨_, rest, hdigit, hsplit⟩ := h.tokens
  have hfirst : (tokenizeClientInput text 2).token 0 = formatInt s.direction := by
    unfold tokenizeClientInput Tokenized.token
    rw [hsplit]
    rfl
  have hsecond : (tokenizeClientInput text 2).token 1 = formatInt s.reading ++ rest := by
    unfold tokenizeClientInput Tokenized.token
    rw [hsplit]
    rfl
  have hreading := strtol_of_denotes (formatInt_denotes s.reading) hdigit
  show Program.Safe sampleMonitor (convertStringToLongInt ((tokenizeClientInput text 2).token 1)
    >>= fun reading => convertStringToLongInt ((tokenizeClientInput text 2).token 0) >>= _) _ q
  rw [hfirst, hsecond]
  refine Program.Safe.bind
    ((sampling_convertStringToLongInt (isInt32_reading s) hreading).mono ?_)
  rintro n q₁ ⟨htext, hn⟩
  refine Program.Safe.bind
    ((sampling_convertStringToLongInt (isInt32_direction s) (strtol_direction s)).mono ?_)
  rintro m q₂ ⟨htext', hm⟩
  refine ⟨htext'.trans htext, ?_⟩
  rcases hn with ⟨rfl, hclear⟩ | ⟨rfl, _⟩
  -- errno is not ERANGE, so the direction is read too
  · rcases hm with ⟨rfl, _⟩ | ⟨_, hstuck⟩
    · exact Or.inl (Prod.ext s.potValue_eq s.jogValue_eq)
    · exact absurd hclear hstuck
  · right
    show sampleValid (toInt32 (-1 * potScale)) _ = false
    have hreading : toInt32 (-1 * potScale) = -30 := by decide
    rw [hreading]
    simp [sampleValid, potScale]

theorem sampling_jog {locals : ControllerLocals} (hs : q.text = s.line) (hpos : s.speed ≠ 0)
    (hdirection : locals.currentJogDirection = s.jogDirection)
    (hspeed : locals.currentSpeed = s.speed) {post : ControllerLocals → LastRead → Prop}
    (hpost : post locals q) :
    Program.Safe sampleMonitor (do
      let _ ← jogAt locals.currentJogDirection locals.currentSpeed
      pure locals : Server ControllerLocals) post q := by
  have hreading : 0 < s.reading := by
    have hlo := s.validReading.1
    rw [s.speed_eq] at hpos
    omega
  have hsend : ∀ cmd, (sendModbusCommand cmd).Safe sampleMonitor (fun _ q' => post locals q') q :=
    fun cmd => (sampling_of_ofWorkers (ofWorkers_sendModbusCommand cmd)).mono
      fun _ q' hq' => hq' ▸ hpost
  refine Program.Safe.bind (p := smdJog _ _ _ _ _) ⟨⟨s, hs, hreading, ?_⟩, fun _ _ => ?_⟩
  · rw [hdirection, hspeed, s.toInt_jogDirection, s.speed_eq]
  · refine Program.Safe.ite (fun _ => hpost) fun _ => ?_
    exact Program.Safe.ite (fun _ => hpost) fun _ => hsend _

/-- What the controller does with the sample of the text. -/
theorem sampling_applySample (locals : ControllerLocals) (hs : q.text = s.line) :
    (applySample locals s.speed s.jogDirection).Safe sampleMonitor
      (fun locals' q' => locals'.buf = locals.buf ∧ q' = q) q := by
  unfold applySample
  refine Program.Safe.ite (fun _ => ?_) fun _ => ?_
  · refine Program.Safe.ite (fun hpos => ?_) fun _ => ⟨rfl, rfl⟩
    exact sampling_jog hs hpos rfl rfl ⟨rfl, rfl⟩
  refine Program.Safe.ite (fun _ => ?_) fun hpos => ?_
  · refine Program.Safe.ite (fun _ => ?_) fun _ => ⟨rfl, rfl⟩
    exact Program.Safe.bind (sampling_smdHoldMove.mono fun _ _ hq' => ⟨rfl, hq'⟩)
  refine Program.Safe.ite (fun _ => ?_) fun _ => ⟨rfl, rfl⟩
  refine Program.Safe.ite (fun _ => ?_) fun _ => sampling_jog hs hpos rfl rfl ⟨rfl, rfl⟩
  -- the hold and the pause come before the jog
  refine Program.Safe.bind (sampling_smdHoldMove.mono ?_)
  rintro _ _ rfl
  exact ⟨trivial, fun _ _ => sampling_jog hs hpos rfl rfl ⟨rfl, rfl⟩⟩

/-! ## The loop -/

theorem sampling_handleSample (locals : ControllerLocals) (h : Holds locals.buf q.text) :
    (handleSample locals).Safe sampleMonitor (fun locals' q' => Holds locals'.buf q'.text) q := by
  refine Program.Safe.ite (fun htokens => ?_) fun _ => h
  rcases h.shows with ⟨_, hempty⟩ | ⟨s, hs, hbegins⟩
  · rw [hempty] at htokens
    exact absurd htokens (by decide)
  · refine Program.Safe.bind ((sampling_decodeSample hbegins).mono ?_)
    rintro r q' ⟨htext, hr⟩
    have hheld : Holds locals.buf q'.text := htext ▸ h
    refine Program.Safe.ite (fun hvalid => ?_) fun _ => hheld
    obtain rfl : r = (s.speed, s.jogDirection) := by
      refine hr.resolve_right fun hnot => ?_
      rw [hvalid] at hnot
      cases hnot
    refine (sampling_applySample locals (htext.trans hs)).mono ?_
    rintro locals' _ ⟨hbuf, rfl⟩
    rw [hbuf]
    exact hheld

theorem sampling_manualModeIteration (locals : ControllerLocals) (h : Holds locals.buf q.text) :
    (manualModeIteration locals).Safe sampleMonitor
      (fun locals' q' => Holds locals'.buf q'.text) q := by
  refine ⟨trivial, fun outcome houtcome => ?_⟩
  cases outcome with
  | noAccess e => exact h
  | openFailed e => exact h
  | readFailed e => exact sampling_handleSample _ h.afterFailure
  | contents bytes =>
      cases bytes with
      | nil => exact h
      | cons byte rest =>
          obtain ⟨s, hs⟩ := houtcome (byte :: rest) rfl
          refine sampling_handleSample _ ?_
          show Holds (stripNewline (readInto locals.buf (byte :: rest))) (byte :: rest)
          rw [hs]
          exact h.afterLine s

theorem sampling_procedureBody (p : Procedure) (q : LastRead) (hq : sampleMonitor.pre p q) :
    (procedureBody p).Safe sampleMonitor (sampleMonitor.post p q) q := by
  cases p with
  | smdHoldMove => exact sampling_smdHoldMove
  | smdImmedStop => exact sampling_of_ofWorkers (ofWorkers_sendModbusCommand _)
  | manualModeLoop locals =>
      refine ⟨trivial, fun g _ => Program.Safe.ite (fun _ => ?_) fun _ => trivial⟩
      refine Program.Safe.bind ((sampling_manualModeIteration locals hq).mono ?_)
      exact fun _ _ hlocals => ⟨trivial, fun _ _ => ⟨hlocals, fun _ _ _ => trivial⟩⟩
  | serverLoop cl => exact hq.elim

end

/-! ## The surroundings -/

/-- A request for the file of the manual mode. -/
def Request.isFileRead : Request → Bool
  | .readManualFile => true
  | _ => false

def Request.textRead? : (o : Request) → Answer o → Option Text
  | .readManualFile, x => ManualRead.text? x
  | _, _ => none

/-- How often the file has been read, by any thread. -/
def fileReads (es : Trace) : Nat :=
  es.countP fun e => e.request.isFileRead

/-- The reads are answered one by one. -/
theorem manualReads_handle {o : Request} {w w' : World} {x : Answer o}
    (h : handle o w = some (x, w')) : w'.manualReads =
      if o.isFileRead then w.manualReads.tail else w.manualReads := by
  cases o with
  | deviceIp =>
      rw [handle_deviceIp] at h
      cases h
      rfl
  | pthreadCreate routine => cases routine <;> (cases h; rfl)
  | readClient cl =>
      cases h
      cases hread : w.clientReads.head <;> rfl
  | writeClient cl message =>
      cases h
      cases hwrite : w.clientWrites.head <;> rfl
  | readManualFile =>
      cases h
      cases hread : w.manualReads.head <;> rfl
  | abort fault => cases h
  | _ => cases h; rfl

/-- A read of the file has what is read next. -/
theorem textRead?_handle {o : Request} {w w' : World} {x : Answer o}
    (h : handle o w = some (x, w')) {text : Text} (htext : o.textRead? x = some text) :
    o.isFileRead = true ∧ w.manualReads.head.text? = some text := by
  cases o with
  | readManualFile =>
      cases h
      exact ⟨rfl, htext⟩
  | _ => cases htext

/-- What is known of `errno` is true. -/
def LastRead.Knows (q : LastRead) (errno : Int) : Prop :=
  ∀ b ∈ q.stuck, b = decide (errno = erange)

/-- Every text that is still to be read is the line of a sample. -/
def World.ReadsSamples (w : World) : Prop :=
  ∀ k text, (w.manualReads.get k).text? = some text → ∃ s : Sample, text = s.line

theorem World.ReadsSamples.handle {w w' : World} (hw : w.ReadsSamples) {o : Request}
    {x : Answer o} (h : SmdControlServer.handle o w = some (x, w')) : w'.ReadsSamples := by
  intro k text htext
  rw [manualReads_handle h] at htext
  split at htext
  · exact hw (k + 1) text htext
  · exact hw k text htext

theorem lastRead_handle {q : LastRead} {o : Request} {errno : Int} {w w' : World} {x : Answer o}
    (hw : w.ReadsSamples) (hq : q.Knows errno) (h : handle o (w.setErrno errno) = some (x, w')) :
    sampleMonitor.expects q o x ∧ (sampleMonitor.next q o x).Knows w'.errno := by
  cases o with
  | deviceIp =>
      rw [handle_deviceIp] at h
      cases h
      exact ⟨trivial, hq⟩
  | pthreadCreate routine => cases routine <;> (cases h; exact ⟨trivial, hq⟩)
  | errnoIsErange =>
      cases h
      exact ⟨fun b hb => (hq b hb).symm, fun b hb => (Option.some.inj hb).symm⟩
  | setErrno e => exact ⟨trivial, fun b hb => by cases hb⟩
  | perror => exact ⟨trivial, fun b hb => by cases hb⟩
  | readClient cl => exact ⟨trivial, fun b hb => by cases hb⟩
  | readManualFile =>
      cases h
      exact ⟨fun bytes hbytes => hw 0 bytes hbytes, fun b hb => by cases hb⟩
  | writeClient cl message =>
      cases h
      refine ⟨trivial, ?_⟩
      cases hwrite : (w.setErrno errno).clientWrites.head <;> exact hq
  | abort fault => cases h
  | _ =>
      cases h
      exact ⟨trivial, hq⟩

/-! ## The sketch and the server -/

/-- What a read can find on the board.  An access, and a read, may fail at any time. -/
def Board.Shows (b : Board) : ManualRead → Prop
  | .contents bytes => b.manualFile = some bytes
  | _ => True

/-- The `k`-th read of the file comes when the sketch has done what is in the `k`-th trace. -/
def Feeds (b : Board) (trace : Nat → Sketch.Trace) (reads : Stream' ManualRead) : Prop :=
  ∀ k, ∃ c, Sketch.Executes b (trace k) c ∧ c.state.Shows (reads.get k)

section

variable {b : Board} {trace : Nat → Sketch.Trace} {reads : Stream' ManualRead}

theorem Feeds.recent (h : Feeds b trace reads) (hb : b.LeftBySketch) {k : Nat} {text : Text}
    (htext : (reads.get k).text? = some text) :
    ∃ s : Sample, text = s.line ∧ Sketch.Recent b s (trace k) := by
  obtain ⟨c, hexecutes, hshows⟩ := h k
  cases hread : reads.get k with
  | contents bytes =>
      rw [hread] at htext hshows
      cases bytes with
      | nil => cases htext
      | cons byte rest =>
          cases htext
          exact (Sketch.recent_of_manualFile hexecutes hb hshows).resolve_left
            (List.cons_ne_nil _ _)
  | _ =>
      rw [hread] at htext
      cases htext

/-- The thread has read the sample last, and when it did, the sample had just been measured,
or it was still the one that the file had at the start. -/
def ReadLast (b : Board) (trace : Nat → Sketch.Trace) (i : Nat) (s : Sample) (es : Trace) : Prop :=
  ∃ before after, es = before ++ ⟨i, .readManualFile, .contents s.line⟩ :: after ∧
    (∀ e ∈ after, e.thread = i → e.request.textRead? e.answer = none) ∧
    Sketch.Recent b s (trace (fileReads before))

theorem ReadLast.append {i : Nat} {s : Sample} {es : Trace} (h : ReadLast b trace i s es)
    {e : Entry serverSignature} (he : e.thread = i → e.request.textRead? e.answer = none) :
    ReadLast b trace i s (es ++ [e]) := by
  obtain ⟨before, after, rfl, hafter, hrecent⟩ := h
  refine ⟨before, after ++ [e], by simp, ?_, hrecent⟩
  intro e' he'
  rcases List.mem_append.mp he' with hmem | hlast
  · exact hafter e' hmem
  · rw [List.mem_singleton.mp hlast]
    exact he

theorem ManualRead.eq_contents {x : ManualRead} {text : Text} (h : x.text? = some text) :
    x = .contents text := by
  cases x with
  | contents bytes =>
      cases bytes with
      | nil => cases h
      | cons byte rest => rw [Option.some.inj h]
  | _ => cases h

theorem readLast_of_textRead? {i : Nat} {s : Sample} {es : Trace} {o : Request} {x : Answer o}
    (h : o.textRead? x = some s.line) (hrecent : Sketch.Recent b s (trace (fileReads es))) :
    ReadLast b trace i s (es ++ [⟨i, o, x⟩]) := by
  cases o with
  | readManualFile =>
      obtain rfl : x = .contents s.line := ManualRead.eq_contents h
      exact ⟨es, [], rfl, by simp, hrecent⟩
  | _ => cases h

/-- The line of a sample is that of no other. -/
theorem Sample.line_injective {s s' : Sample} (h : s.line = s'.line) : s = s' := by
  have hnewline : comma ∉ ['\n'] ∧ NoDigitFirst ['\n'] := by
    refine ⟨by decide, fun c hc => ?_⟩
    obtain rfl : '\n' = c := Option.some.inj hc
    decide
  have hsplit := s.splitOn_comma hnewline.1
  have hsplit' := s'.splitOn_comma hnewline.1
  unfold Sample.line at h
  rw [h, hsplit'] at hsplit
  obtain ⟨hdirection, hrest⟩ := List.cons.inj hsplit
  have hreading := (List.cons.inj hrest).1
  have hdirection' : s'.direction = s.direction := by
    refine (isInt32_direction s').eq_of_clampLong (isInt32_direction s) ?_
    rw [← strtol_direction, hdirection, strtol_direction]
  have hreading' : s'.reading = s.reading := by
    refine (isInt32_reading s').eq_of_clampLong (isInt32_reading s) ?_
    rw [← strtol_of_denotes (formatInt_denotes s'.reading) hnewline.2, hreading,
      strtol_of_denotes (formatInt_denotes s.reading) hnewline.2]
  cases s
  cases s'
  cases hdirection'
  cases hreading'
  rfl

end

/-! ## Executions -/

/-- What the monitors of the controllers have seen of a trace. -/
def lastReads (es : Trace) : Nat → Option LastRead :=
  sampleMonitor.watching.followAll (watchedFrom 1 ⟨[], none⟩) es

theorem text_next (q : LastRead) (o : Request) (x : Answer o) :
    (sampleMonitor.next q o x).text = (o.textRead? x).getD q.text := by
  cases o <;> rfl

theorem sampling_of_spawn {o : Request} {x : Answer o} {t : Thread serverSignature Int}
    (ht : t ∈ serverSharing.spawn o x) :
    t.program.Safe sampleMonitor (fun _ _ => True) ⟨[], none⟩ := by
  rw [eq_of_spawn ht]
  exact ⟨holds_initial, fun _ _ _ => trivial⟩

section

variable {P : ServerThreads → Nat → Prop} {w : World} {es : Trace} {c : ServerThreads} {b : Board}
  {trace : Nat → Sketch.Trace}

theorem sampling_of_executes (hw : w.ReadsSamples) (h : ServerExecutes P (serverStart w) es c) :
    Threads.Monitored sampleMonitor.watching (some ⟨[], none⟩) (lastReads es) c ∧
      Watches (1 ≤ ·) (lastReads es) := by
  obtain ⟨hmonitored, hwatches, _⟩ := h.watched LastRead.Knows World.ReadsSamples
    (fun w o errno x w' hw hx => World.ReadsSamples.handle (w := w.setErrno errno) hw hx)
    (fun q w o errno x w' hw hq _ hx => lastRead_handle hw hq hx) sampling_procedureBody
    (fun o x t ht => ⟨sampling_of_spawn ht, fun b hb => by cases hb⟩) hw
  exact ⟨hmonitored, hwatches⟩

/-- The reads so far, and what each controller has read last. -/
structure Sampled (b : Board) (trace : Nat → Sketch.Trace) (w : World) (es : Trace) (w' : World) : Prop where
  rest : ∀ k, w'.manualReads.get k = w.manualReads.get (fileReads es + k)
  readLast : ∀ i q, lastReads es i = some q →
    q.text = [] ∨ ∃ s : Sample, q.text = s.line ∧ ReadLast b trace i s es

theorem sampled_of_executes (hb : b.LeftBySketch) (hfeeds : Feeds b trace w.manualReads)
    (h : ServerExecutes P (serverStart w) es c) : Sampled b trace w es c.state := by
  refine h.induct_requests (motive := Sampled b trace w) ?_ ?_
  · refine ⟨fun k => ?_, fun i q hq => ?_⟩
    · show w.manualReads.get k = w.manualReads.get (0 + k)
      rw [Nat.zero_add]
    · left
      have hstart : (if i < 1 then none else some ⟨[], none⟩) = some q := hq
      split at hstart
      · cases hstart
      · cases hstart
        rfl
  · intro es c i o k l x w' _ _ _ hx ih
    have hreads := manualReads_handle hx
    refine ⟨fun k => ?_, fun j q hq => ?_⟩
    · unfold fileReads
      rw [hreads, List.countP_append, List.countP_singleton]
      show Stream'.get (if o.isFileRead then c.state.manualReads.tail
        else c.state.manualReads) k = w.manualReads.get (fileReads es + _ + k)
      cases o.isFileRead with
      | true =>
          show c.state.manualReads.get (k + 1) = _
          rw [ih.rest (k + 1)]
          congr 1
          simp only [if_true]
          omega
      | false => exact ih.rest k
    · unfold lastReads at hq
      rw [Monitor.followAll_append_singleton] at hq
      by_cases hij : j = i
      · subst hij
        rw [Function.update_self] at hq
        obtain ⟨q₀, hq₀, rfl⟩ := Option.map_eq_some_iff.mp hq
        rw [text_next]
        cases hread : o.textRead? x with
        | none =>
            show q₀.text = [] ∨ ∃ s : Sample, q₀.text = s.line ∧ _
            refine (ih.readLast j q₀ hq₀).imp_right ?_
            rintro ⟨s, hs, hlast⟩
            exact ⟨s, hs, hlast.append fun _ => hread⟩
        | some text =>
            -- what is read now is what the sketch has written by now
            have htext := (textRead?_handle hx hread).2
            have hnow : (w.manualReads.get (fileReads es)).text? = some text := by
              rw [← Nat.add_zero (fileReads es), ← ih.rest 0]
              exact htext
            obtain ⟨s, rfl, hrecent⟩ := hfeeds.recent hb hnow
            exact Or.inr ⟨s, rfl, readLast_of_textRead? hread hrecent⟩
      · rw [Function.update_of_ne hij] at hq
        refine (ih.readLast j q hq).imp_right ?_
        rintro ⟨s, hs, hlast⟩
        exact ⟨s, hs, hlast.append fun hi => absurd hi.symm hij⟩

/-- In every interleaving, on a board whose file is at most what an earlier run of the sketch
has left: a controller jogs only for the sample that it has read last, with the direction of
the switch and thirty times the reading, which is not 0.  When it read the sample it was one
of the two that the sketch had measured last, or the earlier run's, with nothing written
since. -/
theorem jogs_for_recent_samples (h : ServerExecutes P (serverStart w) es c)
    (hb : b.LeftBySketch) (hfeeds : Feeds b trace w.manualReads) {before after : Trace}
    {e : Entry serverSignature} (hes : es = before ++ e :: after) (hthread : e.thread ≠ 0)
    {direction accel decel jerk speed : Int}
    (hjog : e.request = .note (.smdJog direction accel decel jerk speed)) :
    ∃ s : Sample, ReadLast b trace e.thread s before ∧ 0 < s.reading ∧
      (direction, accel, decel, jerk, speed) = (s.direction, 250, 250, 0, 30 * s.reading) := by
  have hw : w.ReadsSamples := fun k text htext => by
    obtain ⟨s, hs, _⟩ := hfeeds.recent hb htext
    exact ⟨s, hs⟩
  obtain ⟨c₁, k, l, hbefore, _, hnext⟩ := h.before hes
  obtain ⟨hmonitored, hwatches⟩ := sampling_of_executes hw hbefore
  have hallowed := hmonitored.allows (Threads.next_of_perform hnext)
  obtain ⟨q, hq⟩ := Option.ne_none_iff_exists'.mp ((hwatches e.thread).mpr (by omega))
  rw [hq, hjog] at hallowed
  obtain ⟨s, hs, hpos, hvalues⟩ : JogFor q.text direction accel decel jerk speed := hallowed
  rcases (sampled_of_executes hb hfeeds hbefore).readLast e.thread q hq with
    hnil | ⟨s', hs', hlast⟩
  · exact absurd (hs.symm.trans hnil) s.line_ne_nil
  · obtain rfl := Sample.line_injective (hs.symm.trans hs')
    exact ⟨s, hlast, hpos, hvalues⟩

/-- The note of a request. -/
def Request.note? : Request → Option Note
  | .note n => some n
  | _ => none

theorem Request.eq_note {o : Request} {n : Note} (h : o.note? = some n) : o = .note n := by
  cases o with
  | note n' => rw [Option.some.inj h]
  | _ => cases h

/-- A controller that reads the file of a board jogs for the sample that it finds there. -/
theorem jogs_for_recent_samples_turned :
    ∃ trace es c before e, ServerExecutes (fun _ _ => True) (serverStart World.stopsManualMode)
      es c ∧ Board.turned.LeftBySketch ∧
        Feeds Board.turned trace World.stopsManualMode.manualReads ∧ es = before ++ [e] ∧
          e.thread ≠ 0 ∧ e.request = .note (.smdJog 0 250 250 0 3000) ∧
            ∃ s : Sample, ReadLast Board.turned trace e.thread s before ∧ 0 < s.reading ∧
              (0, 250, 250, 0, 3000) = (s.direction, (250 : Int), (250 : Int), (0 : Int),
                30 * s.reading) := by
  have hsketch : ((Threads.traced Sketch.board Sketch.sharing (List.replicate 17 0)
      (Sketch.start Board.turned)).map fun r =>
        decide (r.2.state.manualFile = some "0,100\n".toList)) = some true := by
    decide +kernel
  have hserver : ((Threads.traced server serverSharing
      (List.replicate 21 0 ++ List.replicate 6 1) (serverStart World.stopsManualMode)).map
        fun r => r.1.getLast?.map fun e => decide (e.thread ≠ 0 ∧
          e.request.note? = some (.smdJog 0 250 250 0 3000))) = some (some true) := by
    decide +kernel
  obtain ⟨⟨shown, b⟩, hshown, hfile⟩ := Option.map_eq_some_iff.mp hsketch
  obtain ⟨⟨es, c⟩, hes, hlast⟩ := Option.map_eq_some_iff.mp hserver
  obtain ⟨e, he, htest⟩ := Option.map_eq_some_iff.mp hlast
  obtain ⟨before, hsplit⟩ := List.getLast?_eq_some_iff.mp he
  obtain ⟨hthread, hnote⟩ := of_decide_eq_true htest
  have hexecutes := Threads.executes_of_traced hes
  have hshows : b.state.manualFile = some "0,100\n".toList := of_decide_eq_true hfile
  have hfeeds : Feeds Board.turned (fun _ => shown) World.stopsManualMode.manualReads := fun _ =>
    ⟨b, Threads.executes_of_traced hshown, hshows⟩
  have hleft : Board.turned.LeftBySketch := fun bytes hbytes => by cases hbytes
  exact ⟨fun _ => shown, es, c, before, e, hexecutes, hleft, hfeeds, hsplit, hthread,
    Request.eq_note hnote,
    jogs_for_recent_samples hexecutes hleft hfeeds hsplit hthread (Request.eq_note hnote)⟩

end

end SmdControlServer
