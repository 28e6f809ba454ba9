import SmdControlServer.Upload.Collection

/-!
# The segments that reach the drive

With a drive that answers every step positively, the programs that are sent should
be those of the profile's segments, in their order.  They are when the array holds
the segments from index 0 on, and when the text of every status word but the last
shows bit 9 where the code looks for it.
-/

namespace SmdControlServer

open CString Interaction

/-! ## The programs that are sent -/

/-- The program of a segment, when a thread is started for it. -/
def Event.sentSegment? : Event → Option RegisterProgram
  | .threadStarted (.sendModbusCommand cmd) _ =>
      if cmd.commandName = "program_move_segment".toList then some cmd else none
  | _ => none

/-- The programs that the upload loop sends, up to the segment that it is given up
at. -/
def sentPrograms (numSegments : Nat) (cl : Int) :
    Nat → List AssembledMoveSegment → World → List RegisterProgram
  | _, [], _ => []
  | i, s :: rest, w =>
      moveSegmentProgram s ::
        if w.SegmentPasses s then
          sentPrograms numSegments cl (i + 1) rest (w.afterSegment s numSegments cl i)
        else []

theorem seesThreads_sentSegment : SeesThreads Event.sentSegment? := by
  intro e he
  cases e <;> first | rfl | cases he

section

variable {n : Nat} {cl : Int} {i : Nat} {w : World}

theorem observed_sentSegment (s : AssembledMoveSegment) :
    Observed Event.sentSegment? w (w.atPrepare s) [moveSegmentProgram s] ∧
      Observed Event.sentSegment? w (w.atSecondRead s) [moveSegmentProgram s] ∧
        Observed Event.sentSegment? w (w.atAnswer s) [moveSegmentProgram s] :=
  observed_segment seesThreads_sentSegment (fun _ => rfl) (fun _ => rfl) (fun _ => rfl)

theorem observed_afterLine (message : Text) :
    Observed Event.sentSegment? w (w.afterLine cl message) [] := by
  unfold World.afterLine World.afterClientWrite
  cases w.clientWrites.head with
  | none => exact ⟨[.clientWritten cl message], rfl, rfl⟩
  | some e => exact ⟨[], by simp, rfl⟩

theorem sent_afterSegment (s : AssembledMoveSegment) :
    Observed Event.sentSegment? w (w.afterSegment s n cl i) [moveSegmentProgram s] := by
  obtain ⟨_, _, hanswer⟩ := observed_sentSegment (w := w) s
  unfold World.afterSegment
  split
  · exact hanswer.trans (observed_afterLine _)
  · exact hanswer

theorem sent_afterRejection (s : AssembledMoveSegment) :
    Observed Event.sentSegment? w (w.afterRejection s) [moveSegmentProgram s] := by
  obtain ⟨hprepare, hsecond, hanswer⟩ := observed_sentSegment (w := w) s
  unfold World.afterRejection
  split
  · exact hprepare
  · split
    · exact hsecond
    · exact hanswer

/-- The upload loop ends, having sent its programs. -/
theorem exists_runs_uploadSegments (n : Nat) (cl : Int) (i : Nat)
    (segments : List AssembledMoveSegment) (w : World) :
    ∃ r w', Runs server (uploadSegments n cl i segments) w r w' ∧
      Observed Event.sentSegment? w w' (sentPrograms n cl i segments w) := by
  induction segments generalizing i w with
  | nil => exact ⟨_, w, runs_uploadSegments_nil_iff.mpr ⟨rfl, rfl⟩, Observed.refl w⟩
  | cons s rest ih =>
      simp only [runs_uploadSegments_cons_iff, sentPrograms]
      by_cases hpasses : w.SegmentPasses s
      · obtain ⟨r, w', hrun, hsent⟩ := ih (i + 1) (w.afterSegment s n cl i)
        refine ⟨r, w', ?_, ?_⟩
        · rwa [if_pos hpasses]
        · rw [if_pos hpasses]
          exact (sent_afterSegment s).trans hsent
      · refine ⟨.commandFailed, w.afterRejection s, ?_, ?_⟩
        · rw [if_neg hpasses]
          exact ⟨rfl, rfl⟩
        · rw [if_neg hpasses]
          exact sent_afterRejection s

theorem sentPrograms_prefix (n : Nat) (cl : Int) (i : Nat)
    (segments : List AssembledMoveSegment) (w : World) :
    sentPrograms n cl i segments w <+: segments.map moveSegmentProgram := by
  induction segments generalizing i w with
  | nil => exact List.prefix_rfl
  | cons s rest ih =>
      rw [sentPrograms, List.map_cons, List.cons_prefix_cons]
      refine ⟨rfl, ?_⟩
      split
      · exact ih _ _
      · exact List.nil_prefix

end

/-! ## A drive that answers positively -/

/-- The drive answers every step of an upload of `n` segments positively. -/
structure DriveAgrees (n : Nat) (w : World) : Prop where
  address : ∃ ip, w.globals.deviceIp = some ip ∧ ip ≠ []
  opens : ∀ k, k < 4 * n → (w.drive.get k).threadCreated = true ∧
    (w.drive.get k).connects = true ∧ ∀ i, (w.drive.get k).writeSucceeds i = true
  taken : ∀ k, k < n → ∃ words, (w.drive.get (4 * k + 1)).registers = some words ∧
    (words 0).getLsbD 9 = false
  ready : ∀ k, k < n → ∃ words, (w.drive.get (4 * k + 3)).registers = some words ∧
    (words 0).getLsbD 9 = true

/-- The text of the first status word of segment `k` shows that it was taken. -/
def ShowsTaken (w : World) (k : Nat) : Prop :=
  ∀ words, (w.drive.get (4 * k + 1)).registers = some words →
    statusBit (registerText 0 (words 0)) = some '0'

section

variable {w : World} {s : AssembledMoveSegment}

theorem drive_afterSend (w : World) (cmd : RegisterProgram) :
    (w.afterSend cmd).drive = w.drive.tail := by
  unfold World.afterSend
  split
  · rfl
  · split <;> rfl

theorem globals_afterSend (w : World) (cmd : RegisterProgram) :
    (w.afterSend cmd).globals = w.globals := by
  unfold World.afterSend
  split
  · rfl
  · split <;> rfl

theorem drive_afterRead (w : World) (readType : SmdRegisterReadType) :
    (w.afterRead readType).drive = w.drive.tail := by
  unfold World.afterRead
  split <;> rfl

theorem globals_afterRead (w : World) (readType : SmdRegisterReadType) :
    (w.afterRead readType).globals = w.globals := by
  unfold World.afterRead
  split <;> rfl

theorem drive_afterLine (w : World) (cl : Int) (message : Text) :
    (w.afterLine cl message).drive = w.drive ∧
      (w.afterLine cl message).globals = w.globals := by
  unfold World.afterLine World.afterClientWrite
  cases w.clientWrites.head <;> exact ⟨rfl, rfl⟩

theorem get_drive_atFirstRead (k : Nat) : (w.atFirstRead s).drive.get k = w.drive.get (k + 1) := by
  show (w.afterSend _).drive.get k = _
  rw [drive_afterSend]
  rfl

theorem get_drive_atPrepare (k : Nat) : (w.atPrepare s).drive.get k = w.drive.get (k + 2) := by
  unfold World.atPrepare
  rw [drive_afterRead]
  exact get_drive_atFirstRead (k + 1)

theorem get_drive_atSecondRead (k : Nat) :
    (w.atSecondRead s).drive.get k = w.drive.get (k + 3) := by
  unfold World.atSecondRead
  rw [drive_afterSend]
  exact get_drive_atPrepare (k + 1)

theorem get_drive_afterSegment (n : Nat) (cl : Int) (i k : Nat) :
    (w.afterSegment s n cl i).drive.get k = w.drive.get (k + 4) := by
  have hanswer : (w.atAnswer s).drive.get k = w.drive.get (k + 4) := by
    unfold World.atAnswer
    rw [drive_afterRead]
    exact get_drive_atSecondRead (k + 1)
  unfold World.afterSegment
  split
  · rw [(drive_afterLine _ _ _).1]
    exact hanswer
  · exact hanswer

theorem globals_atAnswer : (w.atFirstRead s).globals = w.globals ∧
    (w.atPrepare s).globals = w.globals ∧ (w.atSecondRead s).globals = w.globals ∧
      (w.atAnswer s).globals = w.globals := by
  have hfirst : (w.atFirstRead s).globals = w.globals := globals_afterSend w _
  have hprepare : (w.atPrepare s).globals = w.globals := (globals_afterRead _ _).trans hfirst
  have hsecond : (w.atSecondRead s).globals = w.globals :=
    (globals_afterSend _ _).trans hprepare
  exact ⟨hfirst, hprepare, hsecond, (globals_afterRead _ _).trans hsecond⟩

theorem globals_afterSegment (n : Nat) (cl : Int) (i : Nat) :
    (w.afterSegment s n cl i).globals = w.globals := by
  unfold World.afterSegment
  split
  · rw [(drive_afterLine _ _ _).2]
    exact globals_atAnswer.2.2.2
  · exact globals_atAnswer.2.2.2

variable {n : Nat}

theorem DriveAgrees.afterSegment (h : DriveAgrees (n + 1) w) (m : Nat) (cl : Int) (i : Nat) :
    DriveAgrees n (w.afterSegment s m cl i) where
  address := by
    rw [globals_afterSegment]
    exact h.address
  opens := by
    intro k hk
    rw [get_drive_afterSegment]
    exact h.opens (k + 4) (by omega)
  taken := by
    intro k hk
    rw [get_drive_afterSegment, show 4 * k + 1 + 4 = 4 * (k + 1) + 1 by omega]
    exact h.taken (k + 1) (by omega)
  ready := by
    intro k hk
    rw [get_drive_afterSegment, show 4 * k + 3 + 4 = 4 * (k + 1) + 3 by omega]
    exact h.ready (k + 1) (by omega)

/-- In every world of the upload, the next session opens. -/
theorem DriveAgrees.opens_of_globals (h : DriveAgrees n w) {v : World}
    (hglobals : v.globals = w.globals) {k : Nat} (hk : k < 4 * n)
    (hdrive : v.drive.get 0 = w.drive.get k) : v.opens := by
  obtain ⟨ip, hip, hne⟩ := h.address
  obtain ⟨hthread, hconnects, _⟩ := h.opens k hk
  have hhead : v.drive.head = w.drive.get k := hdrive
  unfold World.opens World.ip
  rw [hglobals, hip, hhead]
  exact ⟨hthread, hne, hconnects⟩

/-- The tests of a segment pass exactly when the text of its first status word shows
that it was taken. -/
theorem DriveAgrees.segmentPasses_iff (h : DriveAgrees (n + 1) w) :
    w.SegmentPasses s ↔ ShowsTaken w 0 := by
  obtain ⟨hfirst, hprepare, hsecond, _⟩ := globals_atAnswer (w := w) (s := s)
  have hopens₁ : (w.atFirstRead s).takeMemory.opens :=
    h.opens_of_globals hfirst (by omega : 1 < 4 * (n + 1)) (get_drive_atFirstRead 0)
  have hopens₂ : (w.atPrepare s).opens :=
    h.opens_of_globals hprepare (by omega : 2 < 4 * (n + 1)) (get_drive_atPrepare 0)
  have hopens₃ : (w.atSecondRead s).takeMemory.opens :=
    h.opens_of_globals hsecond (by omega : 3 < 4 * (n + 1)) (get_drive_atSecondRead 0)
  obtain ⟨words, hwords, _⟩ := h.taken 0 (by omega)
  have hread : (w.atFirstRead s).readWords = some words := by
    unfold World.readWords
    rw [if_pos hopens₁]
    exact (congrArg Session.registers (get_drive_atFirstRead 0)).trans hwords
  have htext : (w.firstReply s).registers 0 = registerText 0 (words 0) := by
    unfold World.firstReply
    rw [readReply_registers hread]
    rfl
  unfold World.SegmentPasses ShowsTaken
  rw [htext, hwords]
  constructor
  · rintro ⟨_, hshown, _⟩ words' heq
    cases heq
    exact hshown
  · intro hshown
    exact ⟨hopens₁, hshown words rfl, hopens₂, hopens₃⟩

/-- All the programs are sent exactly when every segment but the last is shown to
be taken. -/
theorem DriveAgrees.sentPrograms_eq_iff {segments : List AssembledMoveSegment}
    (h : DriveAgrees segments.length w) (m : Nat) (cl : Int) (i : Nat) :
    sentPrograms m cl i segments w = segments.map moveSegmentProgram ↔
      ∀ k, k + 1 < segments.length → ShowsTaken w k := by
  induction segments generalizing i w with
  | nil => simp [sentPrograms]
  | cons s rest ih =>
      rw [sentPrograms, List.map_cons, List.cons.injEq]
      simp only [true_and]
      have hnext : DriveAgrees rest.length (w.afterSegment s m cl i) := h.afterSegment m cl i
      -- a segment takes four sessions of the drive
      have hshift : ∀ k, ShowsTaken (w.afterSegment s m cl i) k ↔ ShowsTaken w (k + 1) := by
        intro k
        unfold ShowsTaken
        rw [get_drive_afterSegment, show 4 * k + 1 + 4 = 4 * (k + 1) + 1 by omega]
      by_cases hshown : ShowsTaken w 0
      · rw [if_pos (h.segmentPasses_iff.mpr hshown), ih hnext (i + 1)]
        simp only [hshift, List.length_cons]
        constructor
        · intro hrest k hk
          cases k with
          | zero => exact hshown
          | succ k => exact hrest k (by omega)
        · intro hall k hk
          exact hall (k + 1) (by omega)
      · rw [if_neg fun hpasses => hshown (h.segmentPasses_iff.mp hpasses)]
        -- the last segment is sent before its answer is looked at
        cases rest with
        | nil => simp
        | cons s' rest =>
            simp only [List.map_cons, List.length_cons]
            constructor
            · intro heq
              cases heq
            · intro hall
              exact absurd (hall 0 (by omega)) hshown

end

/-! ## The profile's segments -/

/-- The programs of the segment members, in the order of the document and with the
values that it has. -/
def profilePrograms (members : List CJson) : List RegisterProgram :=
  ((members.filter CJson.isSegment).filterMap CJson.exactSegment).map moveSegmentProgram

/-- What an upload should do with the `n` segment members of a profile. -/
structure UploadsProfile (jsonString : Text) (cl : Int) (members : List CJson) (w : World) :
    Prop where
  sent : 1 ≤ (members.filter CJson.isSegment).length →
    (members.filter CJson.isSegment).length ≤ 16 →
    DriveAgrees (members.filter CJson.isSegment).length w →
      ∃ r w', Runs server (smdParseAndUploadAssembledMove jsonString cl) w r w' ∧
        (newEvents w w').filterMap Event.sentSegment? = profilePrograms members
  refused : (members.filter CJson.isSegment).length = 0 ∨
      16 < (members.filter CJson.isSegment).length →
    ∀ r w', Runs server (smdParseAndUploadAssembledMove jsonString cl) w r w' →
      registerWrites (newEvents w w') = []
  inside : ∃ table, collectSegments members 0 ⟨w.memory.head.segments, 0, []⟩ = .ok table ∧
    ∀ j ∈ table.storedAt, j < 16

/-- The profile's segments reach the drive: its type is found, the array has its
segments from index 0 on, and the segments but the last are shown to be taken. -/
structure SegmentsReach (root : CJson) (w : World) : Prop where
  type : profileType root ≠ none
  entries : ((List.ofFn (collectedAt root.child 0 w.memory.head.segments)).take
    (root.child.filter CJson.isSegment).length).map moveSegmentProgram = profilePrograms root.child
  shown : ∀ k, k + 1 < (root.child.filter CJson.isSegment).length → ShowsTaken w k

section

variable {jsonString : Text} {cl : Int} {w : World} {root : CJson}

theorem length_profilePrograms (hmembers : ProfileMembers root.child) :
    (profilePrograms root.child).length = (root.child.filter CJson.isSegment).length := by
  unfold profilePrograms
  rw [List.length_map, List.length_filterMap_eq_countP, List.countP_eq_length]
  intro m hm
  obtain ⟨hmem, hsegment⟩ := List.mem_filter.mp hm
  exact Option.isSome_iff_ne_none.mpr (hmembers.fields m hmem hsegment)

/-- What the upload loop is entered with, when no segment lies outside the array. -/
theorem upload_of_inside (hparse : w.cJsonParse jsonString = some root)
    (hmembers : ProfileMembers root.child)
    (hinside : ∀ j ∈ segmentPositions root.child 0, j < 16) :
    w.upload jsonString =
      if (root.child.filter CJson.isSegment).length = 0 then none
      else (profileType root).map fun moveType =>
          (moveType, (List.ofFn (collectedAt root.child 0 w.memory.head.segments)).take
            (root.child.filter CJson.isSegment).length) := by
  obtain ⟨table, htable⟩ := collectSegments_of_inside
    (t := ⟨w.memory.head.segments, 0, []⟩) hmembers.finds hmembers.keys hmembers.fields hinside
  obtain ⟨hcount, _, hentries⟩ := collectSegments_ok htable
  have hle := length_segmentPositions_le hinside
  rw [length_segmentPositions] at hcount hle
  have hnum : table.numSegments = (root.child.filter CJson.isSegment).length := by
    rw [hcount]
    exact Nat.zero_add _
  unfold World.upload
  rw [hparse]
  simp only [htable, hnum, hentries]
  by_cases hzero : (root.child.filter CJson.isSegment).length = 0
  · rw [if_pos (Or.inl hzero), if_pos hzero]
  · rw [if_neg (by omega), if_neg hzero]
    cases profileType root <;> rfl

/-- Where the loop is not entered, nothing is done. -/
theorem newEvents_of_no_upload (h : w.upload jsonString = none) {r : SmdResponseCode}
    {w' : World} (hrun : Runs server (smdParseAndUploadAssembledMove jsonString cl) w r w') :
    newEvents w w' = [] := by
  rcases runs_smdParseAndUpload_cases jsonString cl w with ⟨_, hrefused⟩ | ⟨_, _, hsome, _⟩
  · obtain ⟨_, rfl | rfl⟩ := hrefused r w' hrun
    · exact newEvents_of_log [] (by simp)
    · exact newEvents_of_log [] (by simp)
  · rw [h] at hsome
    cases hsome

/-- With the loop entered and a drive that agrees, the profile's programs are sent
exactly when the array has them and the texts show what they should. -/
theorem sent_of_upload_iff {moveType : SmdAssembledMoveType}
    {segments : List AssembledMoveSegment}
    (hupload : w.upload jsonString = some (moveType, segments))
    (hlength : segments.length = (root.child.filter CJson.isSegment).length)
    (hmembers : ProfileMembers root.child)
    (hagrees : DriveAgrees (root.child.filter CJson.isSegment).length w) :
    (∃ r w', Runs server (smdParseAndUploadAssembledMove jsonString cl) w r w' ∧
        (newEvents w w').filterMap Event.sentSegment? = profilePrograms root.child) ↔
      segments.map moveSegmentProgram = profilePrograms root.child ∧
        ∀ k, k + 1 < (root.child.filter CJson.isSegment).length → ShowsTaken w k := by
  rcases runs_smdParseAndUpload_cases jsonString cl w with ⟨hnone, _⟩ |
    ⟨moveType', segments', hsome, hruns⟩
  · rw [hupload] at hnone
    cases hnone
  rw [hupload] at hsome
  cases hsome
  have hentered : Observed Event.sentSegment? w (w.atUpload moveType) [] :=
    ⟨[], by simp [World.atUpload], rfl⟩
  have hagrees' : DriveAgrees segments.length (w.atUpload moveType) := by
    rw [hlength]
    exact ⟨hagrees.address, hagrees.opens, hagrees.taken, hagrees.ready⟩
  obtain ⟨r, w', hrun, hsent⟩ := exists_runs_uploadSegments segments.length cl 0 segments
    (w.atUpload moveType)
  have hevents : (newEvents w w').filterMap Event.sentSegment? =
      sentPrograms segments.length cl 0 segments (w.atUpload moveType) :=
    (hentered.trans hsent).newEvents_eq
  have hall := hagrees'.sentPrograms_eq_iff segments.length cl 0
  constructor
  · rintro ⟨r', w'', hrun', heq⟩
    obtain ⟨_, rfl⟩ := ((hruns r' w'').mp hrun').unique hrun
    rw [hevents] at heq
    obtain ⟨tail, htail⟩ := sentPrograms_prefix segments.length cl 0 segments
      (w.atUpload moveType)
    -- what is sent is a prefix of the entries, and as long as they are
    have hnil : tail = [] := by
      have hlen := congrArg List.length htail
      rw [List.length_append, heq, length_profilePrograms hmembers, List.length_map,
        hlength] at hlen
      exact List.eq_nil_of_length_eq_zero (by omega)
    rw [hnil, List.append_nil] at htail
    refine ⟨htail.symm.trans heq, fun k hk => ?_⟩
    exact hall.mp htail k (by omega)
  · rintro ⟨hentries, hshown⟩
    refine ⟨r, w', (hruns r w').mpr hrun, ?_⟩
    rw [hevents, ← hentries]
    exact hall.mpr fun k hk => hshown k (by omega)

/-- The loop stores inside the array exactly when all the segments are there. -/
theorem storedInside_iff {members : List CJson} (hmembers : ProfileMembers members)
    {before : Fin 16 → AssembledMoveSegment} :
    (∃ table, collectSegments members 0 ⟨before, 0, []⟩ = .ok table ∧
        ∀ j ∈ table.storedAt, j < 16) ↔ ∀ j ∈ segmentPositions members 0, j < 16 := by
  constructor
  · rintro ⟨table, htable, hstored⟩
    rw [(collectSegments_ok htable).2.1] at hstored
    exact hstored
  · intro hinside
    obtain ⟨table, htable⟩ := collectSegments_of_inside (t := ⟨before, 0, []⟩)
      hmembers.finds hmembers.keys hmembers.fields hinside
    refine ⟨table, htable, ?_⟩
    rw [(collectSegments_ok htable).2.1]
    exact hinside

/-- The profile's programs are sent to a drive that agrees exactly when the segments
reach it. -/
theorem sent_iff_segmentsReach (hparse : w.cJsonParse jsonString = some root)
    (hmembers : ProfileMembers root.child)
    (hinside : ∀ j ∈ segmentPositions root.child 0, j < 16)
    (hsome : (root.child.filter CJson.isSegment).length ≠ 0)
    (hagrees : DriveAgrees (root.child.filter CJson.isSegment).length w) :
    (∃ r w', Runs server (smdParseAndUploadAssembledMove jsonString cl) w r w' ∧
        (newEvents w w').filterMap Event.sentSegment? = profilePrograms root.child) ↔
      SegmentsReach root w := by
  have hle := length_segmentPositions_le hinside
  have hcount : (segmentPositions root.child 0).length =
      (root.child.filter CJson.isSegment).length := length_segmentPositions
  have hupload := upload_of_inside hparse hmembers hinside
  rw [if_neg hsome] at hupload
  cases htype : profileType root with
  | none =>
      rw [htype] at hupload
      -- without a type the upload is given up before anything is sent
      refine iff_of_false ?_ fun hreach => hreach.type htype
      rintro ⟨r, w', hrun, heq⟩
      rw [newEvents_of_no_upload hupload hrun] at heq
      have hlen := length_profilePrograms hmembers
      rw [← heq] at hlen
      exact hsome hlen.symm
  | some moveType =>
      rw [htype] at hupload
      have hlength : ((List.ofFn (collectedAt root.child 0 w.memory.head.segments)).take
          (root.child.filter CJson.isSegment).length).length =
            (root.child.filter CJson.isSegment).length := by
        rw [List.length_take, List.length_ofFn]
        omega
      rw [sent_of_upload_iff hupload hlength hmembers hagrees]
      constructor
      · rintro ⟨hentries, hshown⟩
        exact ⟨by rw [htype]; simp, hentries, hshown⟩
      · exact fun hreach => ⟨hreach.entries, hreach.shown⟩

/-- A profile is uploaded as it should be exactly when it has no segments, or has
16 at most, none of them behind the sixteenth member, and its segments reach a
drive that answers positively. -/
theorem uploadsProfile_iff (hparse : w.cJsonParse jsonString = some root)
    (hmembers : ProfileMembers root.child) :
    UploadsProfile jsonString cl root.child w ↔
      (root.child.filter CJson.isSegment).length = 0 ∨
        ((root.child.filter CJson.isSegment).length ≤ 16 ∧
          (∀ j ∈ segmentPositions root.child 0, j < 16) ∧
          (DriveAgrees (root.child.filter CJson.isSegment).length w →
            SegmentsReach root w)) := by
  by_cases hinside : ∀ j ∈ segmentPositions root.child 0, j < 16
  · have hstored : ∃ table, collectSegments root.child 0 ⟨w.memory.head.segments, 0, []⟩ =
        .ok table ∧ ∀ j ∈ table.storedAt, j < 16 := (storedInside_iff hmembers).mpr hinside
    have hle := length_segmentPositions_le hinside
    rw [length_segmentPositions] at hle
    by_cases hzero : (root.child.filter CJson.isSegment).length = 0
    · -- a profile without segments sends nothing, and has nothing to send
      have hupload := upload_of_inside hparse hmembers hinside
      rw [if_pos hzero] at hupload
      refine iff_of_true ⟨fun hone => ?_, fun _ r w' hrun => ?_, hstored⟩ (Or.inl hzero)
      · omega
      · rw [newEvents_of_no_upload hupload hrun]
        rfl
    · constructor
      · intro huploads
        refine Or.inr ⟨hle, hinside, fun hagrees => ?_⟩
        exact (sent_iff_segmentsReach hparse hmembers hinside hzero hagrees).mp
          (huploads.sent (Nat.pos_of_ne_zero hzero) hle hagrees)
      · rintro (hnone | ⟨_, _, hreach⟩)
        · exact absurd hnone hzero
        · refine ⟨fun _ _ hagrees => ?_, fun hbad => ?_, hstored⟩
          · exact (sent_iff_segmentsReach hparse hmembers hinside hzero hagrees).mpr
              (hreach hagrees)
          · omega
  · -- a position beyond the array is stored outside it, whatever the drive does
    refine iff_of_false (fun huploads => ?_) ?_
    · exact hinside ((storedInside_iff hmembers).mp huploads.inside)
    · rintro (hnone | ⟨_, hall, _⟩)
      · rw [← length_segmentPositions (i := 0)] at hnone
        rw [List.eq_nil_of_length_eq_zero hnone] at hinside
        exact absurd (fun j hj => by cases hj) hinside
      · exact hinside hall

end

/-! ## Two profiles -/

/-- A drive that takes every segment and is then ready for the next one. -/
def readyDrive : Stream' Session :=
  fun k => Session.answering fun _ => if k % 4 = 3 then 0x8608 else 0x8408

theorem readyDrive_agrees (members : List CJson) (n : Nat) :
    DriveAgrees n (World.profiling members readyDrive) where
  address := ⟨"10.0.0.5".toList, rfl, by decide⟩
  opens := fun _ _ => ⟨rfl, rfl, fun _ => rfl⟩
  taken := by
    intro k _
    have hk : (4 * k + 1) % 4 ≠ 3 := by omega
    refine ⟨fun _ => 0x8408, ?_, by decide⟩
    show some (fun _ => if (4 * k + 1) % 4 = 3 then _ else _) = _
    rw [if_neg hk]
  ready := by
    intro k _
    have hk : (4 * k + 3) % 4 = 3 := by omega
    refine ⟨fun _ => 0x8608, ?_, by decide⟩
    show some (fun _ => if (4 * k + 3) % 4 = 3 then _ else _) = _
    rw [if_pos hk]

def firstSegment : AssembledMoveSegment := ⟨1000, 500, 250, 250, 0⟩
def secondSegment : AssembledMoveSegment := ⟨2000, 800, 300, 300, 0⟩

/-- With the type behind the segment, the segment is sent. -/
theorem uploadsProfile_type_last :
    let members := [CJson.segment "segment1".toList firstSegment, .moveType "dwell".toList]
    UploadsProfile [] 5 members (World.profiling members readyDrive) := by
  intro members
  have hmembers : ProfileMembers members :=
    ⟨by simp [members], by decide, by decide, .moveType "dwell".toList, rfl, Or.inl rfl⟩
  have hparse : (World.profiling members readyDrive).cJsonParse [] =
      some (.withItems none none 0 members) := rfl
  refine (uploadsProfile_iff hparse hmembers).mpr
    (Or.inr ⟨by decide, by decide, fun _ => ⟨by decide, by decide, fun k hk => ?_⟩⟩)
  have hone : (members.filter CJson.isSegment).length = 1 := by decide
  have hk' : k + 1 < (members.filter CJson.isSegment).length := hk
  omega

/-- With the type in front of two segments, what the stack held is sent and then
the first segment, and the second one never. -/
theorem type_first_loses_segment :
    let members := [CJson.moveType "dwell".toList, .segment "segment1".toList firstSegment,
      .segment "segment2".toList secondSegment]
    let w := World.profiling members readyDrive
    ProfileMembers members ∧ DriveAgrees (members.filter CJson.isSegment).length w ∧
      (∃ w', Runs server (smdParseAndUploadAssembledMove [] 5) w .commandSuccess w' ∧
        (newEvents w w').filterMap Event.sentSegment? =
          [moveSegmentProgram ⟨0, 0, 0, 0, 0⟩, moveSegmentProgram firstSegment]) ∧
      profilePrograms members =
        [moveSegmentProgram firstSegment, moveSegmentProgram secondSegment] ∧
      ¬ UploadsProfile [] 5 members w := by
  intro members w
  have hmembers : ProfileMembers members :=
    ⟨by simp [members], by decide, by decide, .moveType "dwell".toList, rfl, Or.inl rfl⟩
  have hagrees := readyDrive_agrees members (members.filter CJson.isSegment).length
  have hprograms : profilePrograms members =
      [moveSegmentProgram firstSegment, moveSegmentProgram secondSegment] := by decide
  have heval : (eval server 0 (smdParseAndUploadAssembledMove [] 5) w).map (fun r =>
      (r.1, (newEvents w r.2).filterMap Event.sentSegment?)) =
        some (.commandSuccess,
          [moveSegmentProgram ⟨0, 0, 0, 0, 0⟩, moveSegmentProgram firstSegment]) := by
    decide +kernel
  obtain ⟨r, w', hrun, heq⟩ := exists_runs_of_eval heval
  obtain ⟨rfl, hsent⟩ := Prod.mk.inj heq
  refine ⟨hmembers, hagrees, ⟨w', hrun, hsent⟩, hprograms, fun huploads => ?_⟩
  obtain ⟨_, w'', hrun', hsent'⟩ := huploads.sent (by decide) (by decide) hagrees
  obtain ⟨_, rfl⟩ := hrun'.unique hrun
  rw [hsent, hprograms] at hsent'
  exact absurd hsent' (by decide)

end SmdControlServer
