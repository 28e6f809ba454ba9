import SmdControlServer.Drive.Sessions

/-!
# The upload, one segment at a time

Each segment takes four sessions: its program, a status read, the program that
prepares for the next segment, and another status read.  The worlds before these
sessions and what the two reads reply are functions of the world before the
segment.  `SegmentPasses` collects the tests that the code makes, and
`runs_uploadSegments_cons_iff` says that the loop goes on exactly when they pass.
-/

namespace SmdControlServer

open CString Interaction

/-! ## The four sessions of a segment -/

namespace World

variable (w : World) (s : AssembledMoveSegment)

/-- The world in which the first status read is made. -/
def atFirstRead : World :=
  (w.afterSend (moveSegmentProgram s)).takeMemory

/-- What the first status read replies.  The strings are on the stack, where they
hold anything. -/
def firstReply : RegistersReply :=
  (w.atFirstRead s).readReply .readInputRegisters
    (w.afterSend (moveSegmentProgram s)).memory.head.registers []

/-- The world in which the program for the next segment is sent. -/
def atPrepare : World :=
  (w.atFirstRead s).afterRead .readInputRegisters

/-- The world in which the second status read is made. -/
def atSecondRead : World :=
  (w.atPrepare s).afterSend prepareForNextSegmentProgram

/-- What the second status read replies. -/
def secondReply : RegistersReply :=
  (w.atSecondRead s).readReply .readInputRegisters (w.firstReply s).registers
    (w.firstReply s).registersString

/-- The world after the second status read. -/
def atAnswer : World :=
  (w.atSecondRead s).afterRead .readInputRegisters

/-- The line about the segment has been written, or could not be. -/
def afterLine (w : World) (cl : Int) (message : Text) : World :=
  match w.clientWrites.head with
  | none => w.afterClientWrite cl message
  | some e => (w.afterClientWrite cl message).setErrno e

/-- The world in which the next segment is sent. -/
def afterSegment (numSegments : Nat) (cl : Int) (i : Nat) : World :=
  if statusBit ((w.secondReply s).registers 0) = some '1' then
    (w.atAnswer s).afterLine cl (segmentAcceptedMessage i numSegments)
  else
    w.atAnswer s

/-- The tests that the code makes on the way through a segment. -/
def SegmentPasses : Prop :=
  (w.atFirstRead s).takeMemory.opens ∧ statusBit ((w.firstReply s).registers 0) = some '0' ∧
    (w.atPrepare s).opens ∧ (w.atSecondRead s).takeMemory.opens

instance : Decidable (w.SegmentPasses s) :=
  inferInstanceAs (Decidable (_ ∧ _ ∧ _ ∧ _))

/-- The world in which the upload is given up. -/
def afterRejection : World :=
  if ¬ (w.atFirstRead s).takeMemory.opens ∨
      statusBit ((w.firstReply s).registers 0) ≠ some '0' then
    w.atPrepare s
  else if ¬ (w.atPrepare s).opens then
    w.atSecondRead s
  else
    w.atAnswer s

end World

/-- What `f` sees in the log of a segment up to each of its worlds, if it sees `xs`
of the segment's program and nothing of the rest. -/
theorem observed_segment {β : Type} {f : Event → Option β} (hf : SeesThreads f) {w : World}
    {s : AssembledMoveSegment} {xs : List β}
    (hsegment : ∀ created,
      (f (.threadStarted (.sendModbusCommand (moveSegmentProgram s)) created)).toList = xs)
    (hprepare : ∀ created,
      f (.threadStarted (.sendModbusCommand prepareForNextSegmentProgram) created) = none)
    (hread : ∀ created,
      f (.threadStarted (.readModbusRegisters .readInputRegisters) created) = none) :
    Observed f w (w.atPrepare s) xs ∧ Observed f w (w.atSecondRead s) xs ∧
      Observed f w (w.atAnswer s) xs := by
  have hsent : Observed f w (w.atFirstRead s) xs := observed_afterSend hf hsegment
  have hfirst : Observed f (w.atFirstRead s) (w.atPrepare s) [] := observed_afterRead hf hread
  have hprepared : Observed f (w.atPrepare s) (w.atSecondRead s) [] :=
    observed_afterSend hf fun created => by rw [hprepare created]; rfl
  have hsecond : Observed f (w.atSecondRead s) (w.atAnswer s) [] := observed_afterRead hf hread
  have h₁ := hsent.trans hfirst
  have h₂ := h₁.trans hprepared
  have h₃ := h₂.trans hsecond
  simp only [List.append_nil] at h₁ h₂ h₃
  exact ⟨h₁, h₂, h₃⟩

theorem runs_writeToClient {α : Type} {w w' : World} {cl : Int} {message : Text} {a : α}
    {k : Int → Server α} :
    Runs server (writeToClient cl message >>= k) w a w' ↔
      Runs server (k (if w.clientWrites.head = none then 0 else -1))
        (w.afterLine cl message) a w' := by
  unfold writeToClient World.afterLine
  rw [Program.bind_eq_bind, Program.bind_eq_bind, Program.perform_bind, Program.perform_bind,
    runs_writeClient]
  cases hwrite : w.clientWrites.head with
  | none => simp
  | some e => simp

/-- The loop goes on to the next segment exactly when the tests pass, and gives
the upload up otherwise. -/
theorem runs_uploadSegments_cons_iff {numSegments : Nat} {cl : Int} {i : Nat}
    {s : AssembledMoveSegment} {rest : List AssembledMoveSegment} {w w' : World}
    {r : SmdResponseCode} :
    Runs server (uploadSegments numSegments cl i (s :: rest)) w r w' ↔
      if w.SegmentPasses s then
        Runs server (uploadSegments numSegments cl (i + 1) rest)
          (w.afterSegment s numSegments cl i) r w'
      else
        r = .commandFailed ∧ w' = w.afterRejection s := by
  have hfirst_failed : ((w.firstReply s).result = .noRouteToHost ∨
      (w.firstReply s).result = .commandFailed) ↔ ¬ (w.atFirstRead s).takeMemory.opens :=
    readReply_failed_iff
  have hsecond_failed : ((w.secondReply s).result = .noRouteToHost ∨
      (w.secondReply s).result = .commandFailed) ↔ ¬ (w.atSecondRead s).takeMemory.opens :=
    readReply_failed_iff
  rw [uploadSegments]
  unfold World.afterRejection
  -- the code does not look at what sending the segment returns
  rw [runs_sendOnce_bind_iff rfl, runs_sleep_bind_iff, runs_uninitialised_bind_iff,
    runs_read_bind_iff, runs_sleep_bind_iff]
  change Runs server (if (w.firstReply s).result = .noRouteToHost ∨
      (w.firstReply s).result = .commandFailed then _ else _) (w.atPrepare s) r w' ↔ _
  by_cases hfirst : (w.atFirstRead s).takeMemory.opens
  · rw [if_neg (fun h => hfirst_failed.mp h hfirst)]
    change Runs server (if statusBit ((w.firstReply s).registers 0) = some '0' then _ else _)
      (w.atPrepare s) r w' ↔ _
    by_cases hbit : statusBit ((w.firstReply s).registers 0) = some '0'
    · rw [if_pos hbit, runs_sendOnce_bind_iff rfl]
      unfold World.sendResult
      by_cases hprepare : (w.atPrepare s).opens
      · rw [if_pos hprepare, if_pos rfl, runs_sleep_bind_iff, runs_read_bind_iff]
        change Runs server (if (w.secondReply s).result = .noRouteToHost ∨
          (w.secondReply s).result = .commandFailed then _ else _) (w.atAnswer s) r w' ↔ _
        by_cases hsecond : (w.atSecondRead s).takeMemory.opens
        · have hpasses : w.SegmentPasses s := ⟨hfirst, hbit, hprepare, hsecond⟩
          rw [if_neg (fun h => hsecond_failed.mp h hsecond), if_pos hpasses]
          unfold World.afterSegment
          change Runs server (if statusBit ((w.secondReply s).registers 0) = some '1' then _
            else _) (w.atAnswer s) r w' ↔ _
          -- bit 9 is at a fixed place of the text; without it no line is written
          by_cases hanswer : statusBit ((w.secondReply s).registers 0) = some '1'
          · rw [if_pos hanswer, if_pos hanswer]
            exact runs_writeToClient
          · rw [if_neg hanswer, if_neg hanswer]
        · rw [if_pos (hsecond_failed.mpr hsecond)]
          simp [World.SegmentPasses, hfirst, hbit, hprepare, hsecond]
      · rw [if_neg hprepare]
        simp [World.SegmentPasses, hfirst, hbit, hprepare, World.atSecondRead]
    · rw [if_neg hbit]
      simp [World.SegmentPasses, hfirst, hbit]
  · rw [if_pos (hfirst_failed.mpr hfirst)]
    simp [World.SegmentPasses, hfirst]

theorem runs_uploadSegments_nil_iff {numSegments : Nat} {cl : Int} {i : Nat} {w w' : World}
    {r : SmdResponseCode} :
    Runs server (uploadSegments numSegments cl i []) w r w' ↔
      r = .commandSuccess ∧ w' = w :=
  runs_done_iff

end SmdControlServer
