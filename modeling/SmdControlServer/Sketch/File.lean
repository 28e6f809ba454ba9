import SmdControlServer.Interaction.Obedience
import SmdControlServer.Interaction.Progress
import SmdControlServer.Sketch.Program

/-!
# The file of the manual mode

What the sketch leaves in the file that the controllers read.  `manual_file_of_sketch` says
that the samples are written whole, one by one and in the order in which they are measured,
and only after a check that found the server.
-/

namespace SmdControlServer

open CString Interaction

/-- A sample from a position of the switch and a conversion. -/
def Sample.measured (direction : Fin 2) (reading : Fin 1024) : Sample where
  direction := direction.val
  reading := reading.val
  validDirection := by omega
  validReading := by omega

namespace Sketch

/-! ## The command for a sample -/

theorem space_not_mem_formatInt (n : Int) : ' ' ∉ formatInt n := by
  have hdigits : ' ' ∉ Nat.toDigits 10 n.natAbs := fun h =>
    absurd (isDigit_of_mem_toDigits h) (by decide)
  unfold formatInt
  split
  · rw [List.mem_cons, not_or]
    exact ⟨by decide, hdigits⟩
  · exact hdigits

/-- The shell takes the command apart as it was put together. -/
theorem redirected_commandString (jogDirection potValue : Int) :
    redirected (commandString jogDirection potValue) =
      some (formatInt jogDirection ++ comma :: formatInt potValue, manualValuesFilePath) := by
  let words : List Text := ["echo".toList,
    formatInt jogDirection ++ comma :: formatInt potValue, ">".toList, manualValuesFilePath]
  have hjoin : [' '].intercalate words = commandString jogDirection potValue := by
    simp [words, commandString, List.intercalate]
  have hspace : ∀ word ∈ words, ' ' ∉ word := by
    intro word hword
    simp only [words, List.mem_cons, List.not_mem_nil, or_false] at hword
    rcases hword with rfl | rfl | rfl | rfl
    · decide
    · rw [List.mem_append, List.mem_cons, not_or, not_or]
      exact ⟨space_not_mem_formatInt _, by decide, space_not_mem_formatInt _⟩
    · decide
    · decide
  have hsplit : (commandString jogDirection potValue).splitOn ' ' = words := by
    rw [← hjoin]
    exact List.splitOn_intercalate ' ' hspace (List.cons_ne_nil _ _)
  unfold redirected
  rw [hsplit]
  rfl

/-- A sample is written as its line. -/
theorem runShellCommand_commandString (s : Sample) :
    runShellCommand (commandString s.direction s.reading) = (do
      ask (.emptyFile manualValuesFilePath)
      ask (.writeFile manualValuesFilePath s.line)) := by
  have hline : (formatInt s.direction ++ comma :: formatInt s.reading) ++ ['\n'] = s.line := by
    simp [Sample.line]
  unfold runShellCommand
  rw [redirected_commandString]
  show (do ask (.emptyFile manualValuesFilePath); ask (.writeFile manualValuesFilePath _)) = _
  rw [hline]

theorem runShellCommand_startCommand :
    runShellCommand startCommand = ask (.runCommand startCommand) := by
  have hredirected : redirected startCommand = none := by decide +kernel
  unfold runShellCommand
  rw [hredirected]

theorem runShellCommand_touchCommand :
    runShellCommand touchCommand = ask (.runCommand touchCommand) := by
  have hredirected : redirected touchCommand = none := by decide +kernel
  unfold runShellCommand
  rw [hredirected]

/-! ## What has been measured and written -/

abbrev Trace := List (Entry sketchSignature)

/-- The last conversion, and the samples so far.  A sample is complete when the switch has
been read. -/
structure Inputs where
  reading : Fin 1024
  samples : List Sample

def Inputs.next (q : Inputs) : (o : SketchRequest) → SketchAnswer o → Inputs
  | .analogRead _, x => { q with reading := x }
  | .digitalRead _, x => { q with samples := q.samples ++ [Sample.measured x q.reading] }
  | _, _ => q

def inputs (es : Trace) : Inputs :=
  es.foldl (fun q e => q.next e.request e.answer) ⟨0, []⟩

/-- The samples of a trace. -/
def samples (es : Trace) : List Sample :=
  (inputs es).samples

/-- What is written, and to which file. -/
def writes? : SketchRequest → Option (Text × Text)
  | .writeFile path text => some (path, text)
  | _ => none

def writes (es : Trace) : List (Text × Text) :=
  es.filterMap fun e => writes? e.request

/-- What a check finds. -/
def pid? : (o : SketchRequest) → SketchAnswer o → Option Int
  | .pgrep _, x => some x
  | _, _ => none

def pids (es : Trace) : List Int :=
  es.filterMap fun e => pid? e.request e.answer

/-- The request changes a file or lights the LED. -/
def OfRunningServer : SketchRequest → Prop
  | .emptyFile _ => True
  | .writeFile _ _ => True
  | .digitalWrite _ level => level = .high
  | _ => False

/-- How the sample is written. -/
def published (s : Sample) : Text × Text :=
  (manualValuesFilePath, s.line)

theorem inputs_append (es : Trace) (e : Entry sketchSignature) :
    inputs (es ++ [e]) = (inputs es).next e.request e.answer := by
  unfold inputs
  rw [List.foldl_append]
  rfl

theorem writes_append (es : Trace) (e : Entry sketchSignature) :
    writes (es ++ [e]) = writes es ++ (writes? e.request).toList := by
  unfold writes
  rw [List.filterMap_append]
  cases hwrites : writes? e.request <;> simp [hwrites]

theorem writes_append_of_none {es : Trace} {e : Entry sketchSignature}
    (h : writes? e.request = none) : writes (es ++ [e]) = writes es := by
  rw [writes_append, h, Option.toList_none, List.append_nil]

theorem pids_append (es : Trace) (e : Entry sketchSignature) :
    pids (es ++ [e]) = pids es ++ (pid? e.request e.answer).toList := by
  unfold pids
  rw [List.filterMap_append]
  cases hpid : pid? e.request e.answer <;> simp [hpid]

theorem pids_append_of_none {es : Trace} {e : Entry sketchSignature}
    (h : pid? e.request e.answer = none) : pids (es ++ [e]) = pids es := by
  rw [pids_append, h, Option.toList_none, List.append_nil]

/-! ## The monitor -/

/-- How far the sample at hand has got. -/
inductive Stage where
  | settled
  | measured
  | emptied

/-- What the sketch has measured, and whether its last check found the server. -/
structure Update where
  inputs : Inputs
  stage : Stage
  running : Bool

/-- A sample is written before the next one is measured, and only while the last check has
found the server. -/
def fileMonitor : Monitor sketchSignature Update where
  allows q
    | .analogRead _ => q.stage = .settled
    | .digitalRead _ => q.stage = .settled
    | .emptyFile path =>
        q.running = true ∧ q.stage = .measured ∧ path = manualValuesFilePath
    | .writeFile path text =>
        q.running = true ∧ q.stage = .emptied ∧
          ∃ s ∈ q.inputs.samples.getLast?, (path, text) = published s
    | .digitalWrite _ level => level = .high → q.running = true
    | _ => True
  expects _ _ _ := True
  next q
    | .analogRead pin, x => { q with inputs := q.inputs.next (.analogRead pin) x }
    | .digitalRead pin, x =>
        { q with inputs := q.inputs.next (.digitalRead pin) x, stage := .measured }
    | .emptyFile _, _ => { q with stage := .emptied }
    | .writeFile _ _, _ => { q with stage := .settled }
    | .pgrep _, pid => { q with running := decide (0 < pid) }
    | _, _ => q
  pre
    | .awaitServer, q => q.stage = .settled
    | .whileLedOn g, q => q.stage = .settled ∧ (q.running = true ↔ g.ledOn = 1)
    | .loop _, q => q.stage = .settled
  post
    | .awaitServer, _, _, q' => q'.stage = .settled
    | .whileLedOn _, _, _, q' => q'.stage = .settled
    | .loop _, _, _, _ => True

section

variable {q : Update}

/-- `LED_ON` is 1 if the server has been found, and 0 if not. -/
theorem filing_checkLed (g : SketchGlobals) (hq : q.stage = .settled) :
    (checkLed g).Safe fileMonitor
      (fun g' q' => q'.stage = .settled ∧ (q'.running = true ↔ g'.ledOn = 1)) q := by
  refine ⟨trivial, fun (pid : Int) _ => ⟨hq, ?_⟩⟩
  show decide (0 < pid) = true ↔ (if pid > 0 then (1 : Int) else 0) = 1
  by_cases hpid : 0 < pid <;> simp [hpid]

theorem filing_awaitServerBody (hq : q.stage = .settled) :
    awaitServerBody.Safe fileMonitor (fun _ q' => q'.stage = .settled) q := by
  refine ⟨trivial, fun (found : Bool) _ => ?_⟩
  cases found with
  | true => exact hq
  | false => exact ⟨trivial, fun _ _ => ⟨hq, fun _ _ hq' => hq'⟩⟩

/-- A turn of the loop measures a sample, writes it and checks for the server. -/
theorem filing_whileLedOnBody (g : SketchGlobals) (hq : q.stage = .settled)
    (hled : q.running = true ↔ g.ledOn = 1) :
    (whileLedOnBody g).Safe fileMonitor (fun _ q' => q'.stage = .settled) q := by
  unfold whileLedOnBody
  split
  · have hrunning : q.running = true := hled.mpr ‹_›
    refine ⟨fun _ => hrunning, fun _ _ => ⟨hq, fun reading _ => ⟨hq, fun direction _ => ?_⟩⟩⟩
    show Program.Safe fileMonitor (runShellCommand (commandString
      (Sample.measured direction reading).direction (Sample.measured direction reading).reading)
        >>= _) _ _
    rw [runShellCommand_commandString]
    refine ⟨⟨hrunning, rfl, rfl⟩, fun _ _ => ⟨⟨hrunning, rfl, ?_⟩, fun _ _ => ?_⟩⟩
    · exact ⟨Sample.measured direction reading, List.getLast?_concat, rfl⟩
    · show Program.Safe fileMonitor (checkLed _ >>= _) _ _
      refine Program.Safe.bind (Program.Safe.mono (filing_checkLed _ rfl) ?_)
      intro g' q' hchecked
      exact ⟨trivial, fun _ _ => ⟨hchecked, fun _ _ hq' => hq'⟩⟩
  · exact hq

theorem filing_loopBody (g : SketchGlobals) (hq : q.stage = .settled) :
    (loopBody g).Safe fileMonitor (fun _ _ => True) q := by
  refine Program.Safe.bind ((filing_checkLed g hq).mono fun g' q' hchecked => ?_)
  refine ⟨hchecked, fun _ _ hq' => ⟨?_, fun _ _ => ⟨hq', fun _ _ _ => trivial⟩⟩⟩
  intro hlevel
  cases hlevel

theorem filing_procedureBody (p : SketchProcedure) (q : Update) (hq : fileMonitor.pre p q) :
    (procedureBody p).Safe fileMonitor (fileMonitor.post p q) q := by
  cases p with
  | awaitServer => exact filing_awaitServerBody hq
  | whileLedOn g => exact filing_whileLedOnBody g hq.1 hq.2
  | loop g => exact filing_loopBody g hq

theorem filing_sketch (hq : q.stage = .settled) :
    sketch.Safe fileMonitor (fun _ _ => True) q := by
  unfold sketch setup
  rw [runShellCommand_startCommand, runShellCommand_touchCommand]
  refine ⟨hq, fun _ q' hq' => ⟨trivial, fun _ _ => ⟨trivial, fun _ _ => ?_⟩⟩⟩
  exact ⟨trivial, fun _ _ => ⟨trivial, fun _ _ => ⟨hq', fun _ _ _ => trivial⟩⟩⟩

end

/-! ## Executions -/

/-- The samples that have been written. -/
def Update.done (q : Update) : List Sample :=
  match q.stage with
  | .settled => q.inputs.samples
  | _ => q.inputs.samples.dropLast

/-- The contents of a file after it has been written to. -/
def lastWritten (before : Option Text) (written : List (Text × Text)) : Option Text :=
  written.getLast?.elim before fun write => some write.2

/-- What the monitor knows agrees with the trace and with the board. -/
structure Agrees (b : Board) (q : Update) (es : Trace) (b' : Board) : Prop where
  inputs : q.inputs = inputs es
  running : q.running = true → ∃ pid ∈ (pids es).getLast?, 0 < pid
  pending : q.stage ≠ .settled → q.inputs.samples ≠ []
  written : writes es = q.done.map published
  file : q.stage ≠ .emptied → b'.manualFile = lastWritten b.manualFile (writes es)
  emptied : q.stage = .emptied → b'.manualFile = some []

theorem agrees_start (b : Board) : Agrees b ⟨⟨0, []⟩, .settled, false⟩ [] b where
  inputs := rfl
  running := by simp
  pending := by simp
  written := rfl
  file _ := rfl
  emptied := by simp

section

variable {b b₁ b₂ : Board} {q : Update} {es : Trace}

/-- A request that writes nothing and checks nothing. -/
theorem Agrees.keep (h : Agrees b q es b₁) {e : Entry sketchSignature} {q' : Update}
    (hinputs : q'.inputs = q.inputs.next e.request e.answer) (hrunning : q'.running = q.running)
    (hwrites : writes? e.request = none) (hpid : pid? e.request e.answer = none)
    (hpending : q'.stage ≠ .settled → q'.inputs.samples ≠ []) (hdone : q'.done = q.done)
    (hfile : q'.stage ≠ .emptied → q.stage ≠ .emptied ∧ b₂.manualFile = b₁.manualFile)
    (hemptied : q'.stage = .emptied → b₂.manualFile = some []) :
    Agrees b q' (es ++ [e]) b₂ where
  inputs := by rw [hinputs, inputs_append, h.inputs]
  running := by
    rw [pids_append_of_none hpid, hrunning]
    exact h.running
  pending := hpending
  written := by
    rw [writes_append_of_none hwrites, hdone]
    exact h.written
  file := by
    intro hstage
    rw [writes_append_of_none hwrites, (hfile hstage).2]
    exact h.file (hfile hstage).1
  emptied := hemptied

theorem Agrees.writeFile (h : Agrees b q es b₁) (hstage : q.stage = .emptied) {s : Sample}
    (hs : q.inputs.samples.getLast? = some s)
    (hfile : b₂.manualFile = some s.line) :
    Agrees b { q with stage := .settled }
      (es ++ [⟨0, .writeFile manualValuesFilePath s.line, ()⟩]) b₂ where
  inputs := by rw [inputs_append, ← h.inputs]; rfl
  running := by
    rw [pids_append_of_none rfl]
    exact h.running
  pending := fun hne => absurd rfl hne
  written := by
    obtain ⟨before, hbefore⟩ := List.getLast?_eq_some_iff.mp hs
    have hdone : q.done = before := by
      unfold Update.done
      rw [hstage, hbefore]
      exact List.dropLast_concat
    rw [writes_append, h.written, hdone]
    show _ = List.map published q.inputs.samples
    rw [hbefore, List.map_append]
    rfl
  file := by
    intro _
    rw [hfile, writes_append, lastWritten]
    simp [writes?]
  emptied := fun hemptied => by cases hemptied

theorem Agrees.pgrep (h : Agrees b q es b₁) (name : Text) (pid : Int)
    (hfile : b₂.manualFile = b₁.manualFile) :
    Agrees b { q with running := decide (0 < pid) } (es ++ [⟨0, .pgrep name, pid⟩]) b₂ where
  inputs := by rw [inputs_append, ← h.inputs]; rfl
  running := by
    intro hrunning
    rw [pids_append]
    exact ⟨pid, List.getLast?_concat, of_decide_eq_true hrunning⟩
  pending := h.pending
  written := by
    rw [writes_append_of_none rfl]
    exact h.written
  file := by
    rw [writes_append_of_none rfl, hfile]
    exact h.file
  emptied := by
    rw [hfile]
    exact h.emptied

/-- A request that is allowed keeps the agreement. -/
theorem Agrees.step (h : Agrees b q es b₁) {o : SketchRequest} {x : SketchAnswer o}
    (hallowed : fileMonitor.allows q o) (hx : handle o b₁ = some (x, b₂)) :
    Agrees b (fileMonitor.next q o x) (es ++ [⟨0, o, x⟩]) b₂ := by
  cases o with
  | analogRead pin =>
      cases hx
      exact h.keep rfl rfl rfl rfl h.pending rfl (fun hne => ⟨hne, rfl⟩) h.emptied
  | digitalRead pin =>
      cases hx
      have hsettled : q.stage = .settled := hallowed
      have hdone : q.done = q.inputs.samples := by
        unfold Update.done
        rw [hsettled]
      refine h.keep rfl rfl rfl rfl (fun _ => ?_) ?_ (fun _ => ⟨?_, rfl⟩) (fun h => by cases h)
      · exact List.append_ne_nil_of_right_ne_nil _ (List.cons_ne_nil _ _)
      · rw [hdone]
        exact List.dropLast_concat
      · rw [hsettled]
        exact fun h => by cases h
  | emptyFile path =>
      cases hx
      obtain ⟨_, hmeasured, rfl⟩ := hallowed
      have hdone : q.done = q.inputs.samples.dropLast := by
        unfold Update.done
        rw [hmeasured]
      refine h.keep rfl rfl rfl rfl (fun _ => h.pending ?_) hdone.symm (fun hne => ?_) fun _ => ?_
      · rw [hmeasured]
        exact fun h => by cases h
      · exact absurd rfl hne
      · show Function.update b₁.files manualValuesFilePath (some []) manualValuesFilePath = _
        rw [Function.update_self]
  | writeFile path text =>
      cases hx
      obtain ⟨_, hemptied, s, hs, htext⟩ := hallowed
      obtain ⟨rfl, rfl⟩ := Prod.mk.inj htext
      refine h.writeFile hemptied hs ?_
      show Function.update b₁.files manualValuesFilePath (some s.line) manualValuesFilePath = _
      rw [Function.update_self]
  | pgrep name =>
      cases hx
      exact h.pgrep name b₁.pids.head rfl
  | _ =>
      cases hx
      exact h.keep rfl rfl rfl rfl h.pending rfl (fun hne => ⟨hne, rfl⟩) h.emptied

end

/-- What the monitor has seen of a trace. -/
def followed (es : Trace) : Nat → Update :=
  fileMonitor.followAll (fun _ => ⟨⟨0, []⟩, .settled, false⟩) es

section

variable {b : Board} {es : Trace} {c : Threads sketchSignature Board Unit}

theorem monitored_of_executes (h : Executes b es c) :
    Threads.Monitored fileMonitor ⟨⟨0, []⟩, .settled, false⟩ (followed es) c := by
  refine (h.monitored (R := fun _ _ => True) (fun _ _ _ _ _ _ _ _ _ _ => ⟨trivial, trivial⟩)
    filing_procedureBody (fun o x t ht => by cases ht) ⟨?_, fun _ _ => rfl⟩ trivial).1
  intro i t ht
  cases i with
  | zero =>
      cases ht
      exact filing_sketch rfl
  | succ i => cases ht

/-- There is only one thread. -/
theorem thread_eq_zero (h : Executes b es c) {i : Nat} {t : Thread sketchSignature Unit}
    (ht : c.threads[i]? = some t) : i = 0 := by
  have hlength : c.threads.length = 1 := h.length_eq fun _ _ => rfl
  have hlt := (List.getElem?_eq_some_iff.mp ht).1
  omega

theorem agrees_of_executes (h : Executes b es c) : Agrees b (followed es 0) es c.state := by
  refine h.induct_requests (motive := fun es b' => Agrees b (followed es 0) es b') ?_ ?_
  · exact agrees_start b
  · intro es c₁ i o k l x b₂ hbefore _ hthread hx ih
    obtain rfl := thread_eq_zero hbefore hthread
    have hallowed := (monitored_of_executes hbefore).allows (Threads.next_of_perform hthread)
    unfold followed
    rw [Monitor.followAll_append_singleton, Function.update_self]
    exact ih.step hallowed hx

/-! ## What the sketch publishes -/

/-- What holds of the file, and of the checks, after the sketch has run for some time. -/
structure Publishes (b : Board) (es : Trace) (b' : Board) : Prop where
  /-- the samples are written in the order in which they are measured, and at most the last
  one is still to be written -/
  written : writes es = (samples es).map published ∨
    writes es = (samples es).dropLast.map published
  /-- the file has what was written last, or it has been emptied for a sample to be written -/
  file : b'.manualFile = lastWritten b.manualFile (writes es) ∨
    b'.manualFile = some [] ∧ samples es ≠ [] ∧
      writes es = (samples es).dropLast.map published
  /-- a file is changed, and the LED lit, only if the last check has found the server -/
  checked : ∀ before e after, es = before ++ e :: after → OfRunningServer e.request →
    ∃ pid ∈ (pids before).getLast?, 0 < pid

theorem checked_of_allows {q : Update} {o : SketchRequest} (h : fileMonitor.allows q o)
    (ho : OfRunningServer o) : q.running = true := by
  cases o with
  | emptyFile path => exact h.1
  | writeFile path text => exact h.1
  | digitalWrite pin level => exact h ho
  | _ => exact ho.elim

/-- In every run of the sketch the file of the manual mode gets every sample, whole and in
order, and it is only touched after a check that found the server. -/
theorem manual_file_of_sketch (h : Executes b es c) : Publishes b es c.state := by
  have hagrees := agrees_of_executes h
  have hsamples : (followed es 0).inputs.samples = samples es := by
    rw [hagrees.inputs]
    rfl
  have hwritten := hagrees.written
  unfold Update.done at hwritten
  constructor
  case written =>
    rw [hsamples] at hwritten
    split at hwritten
    · exact Or.inl hwritten
    · exact Or.inr hwritten
  case file =>
    cases hstage : (followed es 0).stage with
    | emptied =>
        rw [hstage, hsamples] at hwritten
        have hpending := hagrees.pending (by simp [hstage])
        rw [hsamples] at hpending
        exact Or.inr ⟨hagrees.emptied hstage, hpending, hwritten⟩
    | _ => exact Or.inl (hagrees.file (by simp [hstage]))
  case checked =>
    intro before e after hes hrunning
    obtain ⟨c₁, k, l, hbefore, _, hthread⟩ := h.before hes
    have hzero := thread_eq_zero hbefore hthread
    have hallowed := (monitored_of_executes hbefore).allows (Threads.next_of_perform hthread)
    rw [hzero] at hallowed
    exact (agrees_of_executes hbefore).running (checked_of_allows hallowed hrunning)

/-- The sample is the last one that has been measured, or the last but one. -/
def Fresh (s : Sample) (es : Trace) : Prop :=
  s ∈ (samples es).getLast? ∨ s ∈ (samples es).dropLast.getLast?

/-- The sample has just been measured, or it is the one that the file had at the start, and
nothing has been written since. -/
def Recent (b : Board) (s : Sample) (es : Trace) : Prop :=
  Fresh s es ∨ b.manualFile = some s.line ∧ writes es = []

/-- Whoever looks at the file finds nothing, or a sample that has just been measured, or what
an earlier run has left there, until there is something newer. -/
theorem recent_of_manualFile (h : Executes b es c) (hb : b.LeftBySketch) {bytes : Text}
    (hbytes : c.state.manualFile = some bytes) :
    bytes = [] ∨ ∃ s, bytes = s.line ∧ Recent b s es := by
  have hagrees := agrees_of_executes h
  have hsamples : (followed es 0).inputs.samples = samples es := by
    rw [hagrees.inputs]
    rfl
  by_cases hstage : (followed es 0).stage = .emptied
  · rw [hagrees.emptied hstage] at hbytes
    exact Or.inl (Option.some.inj hbytes).symm
  · rw [hagrees.file hstage, hagrees.written, lastWritten, List.getLast?_map] at hbytes
    cases hlast : (followed es 0).done.getLast? with
    | none =>
        have hwrites : writes es = [] := by
          rw [hagrees.written, List.getLast?_eq_none_iff.mp hlast]
          rfl
        rw [hlast] at hbytes
        refine (hb bytes hbytes).imp_right ?_
        rintro ⟨s, rfl⟩
        exact ⟨s, rfl, Or.inr ⟨hbytes, hwrites⟩⟩
    | some s =>
        right
        rw [hlast] at hbytes
        refine ⟨s, (Option.some.inj hbytes).symm, Or.inl ?_⟩
        unfold Update.done at hlast
        rw [hsamples] at hlast
        split at hlast
        · exact Or.inl hlast
        · exact Or.inr hlast

/-- A run leaves the file as the next one may find it. -/
theorem leftBySketch_of_executes (h : Executes b es c) (hb : b.LeftBySketch) :
    c.state.LeftBySketch := by
  intro bytes hbytes
  refine (recent_of_manualFile h hb hbytes).imp_right ?_
  rintro ⟨s, hline, _⟩
  exact ⟨s, hline⟩

end

end Sketch

/-- A board on which the server runs, with the potentiometer turned from 100 to 200. -/
def Board.turned : Board where
  files _ := none
  existence := Stream'.const true
  pids := Stream'.const 1234
  readings := Stream'.cons 100 (Stream'.const 200)
  directions := Stream'.const 0

namespace Sketch

/-- The second sample has been measured, and the file still has the first. -/
theorem manual_file_of_sketch_turned :
    ∃ es c, Executes Board.turned es c ∧ (samples es).map Sample.reading = [100, 200] ∧
      c.state.manualFile = some "0,100\n".toList ∧ Publishes Board.turned es c.state := by
  have htraced : ((Threads.traced board sharing (List.replicate 20 0) (start Board.turned)).map
      fun r => decide ((samples r.1).map Sample.reading = [100, 200] ∧
        r.2.state.manualFile = some "0,100\n".toList)) = some true := by
    decide +kernel
  obtain ⟨⟨es, c⟩, hes, htest⟩ := Option.map_eq_some_iff.mp htraced
  obtain ⟨hsamples, hfile⟩ := of_decide_eq_true htest
  have hexecutes := Threads.executes_of_traced hes
  exact ⟨es, c, hexecutes, hsamples, hfile, manual_file_of_sketch hexecutes⟩

end Sketch

end SmdControlServer
