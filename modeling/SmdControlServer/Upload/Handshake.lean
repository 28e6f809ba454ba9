import SmdControlServer.Upload.Profile

/-!
# What an accepted upload means

An upload should be accepted only when the drive has taken every segment: its
program was sent, the status read after it showed bit 9 of word 0 clear, the
program for the next segment was sent, and the status read after that showed the
bit set.  Then the client gets one line for each segment.

The code makes fewer tests than that, and makes them on the text of the word.
`Misleads` lists what it does not notice.
-/

namespace SmdControlServer

open CString Interaction

/-! ## The worlds of the segments -/

/-- The segments from the `i`-th on, each with the world in which it is sent. -/
def uploadWorlds (numSegments : Nat) (cl : Int) :
    Nat → List AssembledMoveSegment → World → List (World × AssembledMoveSegment)
  | _, [], _ => []
  | i, s :: rest, w =>
      (w, s) :: uploadWorlds numSegments cl (i + 1) rest (w.afterSegment s numSegments cl i)

namespace World

variable (w : World) (s : AssembledMoveSegment)

/-- The drive has accepted the segment. -/
structure SegmentAccepted : Prop where
  sent : w.sendResult = .commandSuccess
  taken : ∃ words, (w.atFirstRead s).readWords = some words ∧ (words 0).getLsbD 9 = false
  prepared : (w.atPrepare s).sendResult = .commandSuccess
  ready : ∃ words, (w.atSecondRead s).readWords = some words ∧ (words 0).getLsbD 9 = true

/-- The client is told of the segment. -/
def WritesLine : Prop :=
  statusBit ((w.secondReply s).registers 0) = some '1' ∧ (w.atAnswer s).clientWrites.head = none

instance : Decidable (w.WritesLine s) :=
  inferInstanceAs (Decidable (_ ∧ _))

/-- What goes wrong with a segment without the code noticing: the segment is not
sent, a status read fails, the words do not show the bits, the text of the second
word does not show bit 9 at its place, or the client cannot be written to. -/
def Misleads : Prop :=
  w.sendResult = .commandFailed ∨
    (w.atFirstRead s).readWords = none ∨
    (∃ words, (w.atFirstRead s).readWords = some words ∧ (words 0).getLsbD 9 = true) ∨
    (w.atSecondRead s).readWords = none ∨
    (∃ words, (w.atSecondRead s).readWords = some words ∧ ((words 0).getLsbD 9 = false ∨
      statusBit (registerText 0 (words 0)) ≠ some '1')) ∨
    (w.atAnswer s).clientWrites.head ≠ none

end World

/-- The text of the progress line of the `i`-th of `n` segments. -/
def acceptedLine (n i : Nat) : Text :=
  "MOVE_SEGMENT_ACCEPTED_".toList ++ formatInt (i + 1) ++ "_OF_".toList ++ formatInt n ++
    "\n".toList

/-- What is written to the client. -/
def Event.clientLine? : Event → Option Text
  | .clientWritten _ message => some message
  | _ => none

/-! ## One segment -/

section

variable {w : World} {s : AssembledMoveSegment}

theorem sendResult_eq_success_iff : w.sendResult = .commandSuccess ↔ w.opens := by
  unfold World.sendResult
  by_cases hopens : w.opens
  · simp [hopens]
  · simp [hopens]

/-- Where the tests pass, nothing misleads the code exactly when the drive has
accepted the segment and the client is told. -/
theorem not_misleads_iff (hpasses : w.SegmentPasses s) :
    ¬ w.Misleads s ↔ w.SegmentAccepted s ∧ w.WritesLine s := by
  -- the code tests all the rest on the way; what it does not test is what Misleads lists
  obtain ⟨_, _, hprepare, _⟩ := hpasses
  constructor
  · intro h
    unfold World.Misleads at h
    simp only [not_or, not_exists, not_and] at h
    obtain ⟨hsent, hfirst, hclear, hsecond, hset, hline⟩ := h
    obtain ⟨words, hwords⟩ := Option.ne_none_iff_exists'.mp hfirst
    obtain ⟨words', hwords'⟩ := Option.ne_none_iff_exists'.mp hsecond
    obtain ⟨hready, htext⟩ := hset words' hwords'
    have hopens : w.sendResult = .commandSuccess := by
      rw [sendResult_eq_success_iff]
      by_contra hopens
      exact hsent (if_neg hopens)
    refine ⟨⟨hopens, ⟨words, hwords, ?_⟩, sendResult_eq_success_iff.mpr hprepare,
      ⟨words', hwords', ?_⟩⟩, ?_, not_not.mp hline⟩
    · exact Bool.eq_false_iff.mpr (hclear words hwords)
    · exact Bool.not_eq_false _ ▸ hready
    · unfold World.secondReply
      rw [readReply_registers hwords']
      exact not_not.mp htext
  · rintro ⟨⟨hsent, ⟨words, hwords, hclear⟩, _, ⟨words', hwords', hready⟩⟩, htext, hline⟩
    unfold World.secondReply at htext
    rw [readReply_registers hwords'] at htext
    rintro (h | h | ⟨words₁, h, hset⟩ | h | ⟨words₂, h, hother⟩ | h)
    · rw [hsent] at h
      cases h
    · rw [hwords] at h
      cases h
    · rw [hwords] at h
      cases h
      rw [hclear] at hset
      cases hset
    · rw [hwords'] at h
      cases h
    · rw [hwords'] at h
      cases h
      rw [hready] at hother
      rcases hother with hother | hother
      · cases hother
      · exact hother htext
    · exact h hline

theorem seesThreads_clientLine : SeesThreads Event.clientLine? := by
  intro e he
  cases e <;> first | rfl | cases he

theorem observed_afterLine_of_written (cl : Int) (message : Text)
    (h : w.clientWrites.head = none) :
    Observed Event.clientLine? w (w.afterLine cl message) [message] := by
  refine ⟨[.clientWritten cl message], ?_, rfl⟩
  simp [World.afterLine, World.afterClientWrite, h]

theorem observed_afterLine_of_failed (cl : Int) (message : Text)
    (h : w.clientWrites.head ≠ none) :
    Observed Event.clientLine? w (w.afterLine cl message) [] := by
  obtain ⟨e, he⟩ := Option.ne_none_iff_exists'.mp h
  refine ⟨[], ?_, rfl⟩
  simp [World.afterLine, World.afterClientWrite, he]

/-- The log shows the client's line of the segment, if it is told. -/
theorem observed_afterSegment (n : Nat) (cl : Int) (i : Nat) :
    Observed Event.clientLine? w (w.afterSegment s n cl i)
      (if w.WritesLine s then [segmentAcceptedMessage i n] else []) := by
  obtain ⟨_, _, hsegment⟩ := observed_segment (s := s) (w := w) seesThreads_clientLine
    (fun _ => rfl) (fun _ => rfl) (fun _ => rfl)
  unfold World.afterSegment
  by_cases hbit : statusBit ((w.secondReply s).registers 0) = some '1'
  · rw [if_pos hbit]
    by_cases hwrite : (w.atAnswer s).clientWrites.head = none
    · rw [if_pos ⟨hbit, hwrite⟩]
      exact hsegment.trans (observed_afterLine_of_written cl _ hwrite)
    · rw [if_neg fun h => hwrite h.2]
      exact hsegment.trans (observed_afterLine_of_failed cl _ hwrite)
  · rw [if_neg hbit, if_neg fun h => hbit h.1]
    exact hsegment

end

/-! ## The whole loop -/

/-- The lines that the client gets. -/
def uploadLines (numSegments : Nat) (cl : Int) :
    Nat → List AssembledMoveSegment → World → List Text
  | _, [], _ => []
  | i, s :: rest, w =>
      (if w.WritesLine s then [segmentAcceptedMessage i numSegments] else []) ++
        uploadLines numSegments cl (i + 1) rest (w.afterSegment s numSegments cl i)

section

variable {n : Nat} {cl : Int}

/-- The loop succeeds exactly when all the tests pass, and the log then has the
lines. -/
theorem runs_uploadSegments_success_iff {i : Nat} {segments : List AssembledMoveSegment}
    {w : World} :
    (∃ w', Runs server (uploadSegments n cl i segments) w .commandSuccess w') ↔
      ∀ p ∈ uploadWorlds n cl i segments w, p.1.SegmentPasses p.2 := by
  induction segments generalizing i w with
  | nil => simp [runs_uploadSegments_nil_iff, uploadWorlds]
  | cons s rest ih =>
      simp only [runs_uploadSegments_cons_iff, uploadWorlds, List.forall_mem_cons]
      by_cases hpasses : w.SegmentPasses s
      · simp only [hpasses, if_true, true_and]
        exact ih
      · simp [hpasses]

theorem observed_uploadSegments {i : Nat} {segments : List AssembledMoveSegment}
    {w w' : World}
    (h : Runs server (uploadSegments n cl i segments) w .commandSuccess w') :
    Observed Event.clientLine? w w' (uploadLines n cl i segments w) := by
  induction segments generalizing i w with
  | nil =>
      obtain ⟨_, rfl⟩ := runs_uploadSegments_nil_iff.mp h
      exact Observed.refl w'
  | cons s rest ih =>
      rw [runs_uploadSegments_cons_iff] at h
      by_cases hpasses : w.SegmentPasses s
      · rw [if_pos hpasses] at h
        exact (observed_afterSegment n cl i).trans (ih h)
      · rw [if_neg hpasses] at h
        cases h.1

theorem length_uploadLines_le (n : Nat) (cl : Int) (i : Nat)
    (segments : List AssembledMoveSegment) (w : World) :
    (uploadLines n cl i segments w).length ≤ segments.length := by
  induction segments generalizing i w with
  | nil => exact Nat.le_refl 0
  | cons s rest ih =>
      have hrest := ih (i + 1) (w.afterSegment s n cl i)
      unfold uploadLines
      rw [List.length_append, List.length_cons]
      split
      · rw [List.length_singleton]
        omega
      · rw [List.length_nil]
        omega

/-- Every line is there exactly when the client is told of every segment. -/
theorem uploadLines_eq_iff {i : Nat} {segments : List AssembledMoveSegment} {w : World} :
    uploadLines n cl i segments w =
        (List.range' i segments.length).map (fun i => segmentAcceptedMessage i n) ↔
      ∀ p ∈ uploadWorlds n cl i segments w, p.1.WritesLine p.2 := by
  induction segments generalizing i w with
  | nil => simp [uploadLines, uploadWorlds]
  | cons s rest ih =>
      simp only [uploadLines, uploadWorlds, List.forall_mem_cons, List.length_cons,
        List.range'_succ, List.map_cons]
      by_cases hline : w.WritesLine s
      · simp only [hline, if_true, true_and, List.singleton_append, List.cons.injEq]
        exact ih
      · have hle := length_uploadLines_le n cl (i + 1) rest (w.afterSegment s n cl i)
        simp only [hline, if_false, false_and, List.nil_append, iff_false]
        intro heq
        have hlength := congrArg List.length heq
        rw [List.length_cons, List.length_map, List.length_range'] at hlength
        omega

end

/-- A progress line of 16 segments fits. -/
theorem segmentAcceptedMessage_eq {i n : Nat} (hi : i < n) (hn : n ≤ 16) :
    segmentAcceptedMessage i n = acceptedLine n i := by
  have hcases : ∀ n ∈ List.range 17, ∀ i ∈ List.range n,
      segmentAcceptedMessage i n = acceptedLine n i := by decide
  exact hcases n (List.mem_range.mpr (by omega)) i (List.mem_range.mpr hi)

/-- An upload that is reported as accepted was accepted, segment by segment, with
one line for each, unless the tests pass for every segment and something misleads
them. -/
theorem upload_accepted_iff (jsonString : Text) (cl : Int) (w : World) :
    (∀ r w', Runs server (smdParseAndUploadAssembledMove jsonString cl) w r w' →
      r = .commandSuccess →
        ∃ moveType segments, w.upload jsonString = some (moveType, segments) ∧
          (∀ p ∈ uploadWorlds segments.length cl 0 segments (w.atUpload moveType),
            p.1.SegmentAccepted p.2) ∧
          (newEvents w w').filterMap Event.clientLine? =
            (List.range segments.length).map (acceptedLine segments.length)) ↔
      ∀ moveType segments, w.upload jsonString = some (moveType, segments) →
        (∀ p ∈ uploadWorlds segments.length cl 0 segments (w.atUpload moveType),
          p.1.SegmentPasses p.2) →
        ∀ p ∈ uploadWorlds segments.length cl 0 segments (w.atUpload moveType),
          ¬ p.1.Misleads p.2 := by
  -- without an upload the code never returns a success
  rcases runs_smdParseAndUpload_cases jsonString cl w with
    ⟨hnone, hrefused⟩ | ⟨moveType, segments, hsome, hruns⟩
  · constructor
    · intro _ moveType segments hsome
      rw [hnone] at hsome
      cases hsome
    · intro _ r w' hrun hr
      obtain ⟨rfl, _⟩ := hrefused r w' hrun
      cases hr
  · obtain ⟨_, hlength⟩ := length_upload hsome
    have hexpected : (List.range segments.length).map (acceptedLine segments.length) =
        (List.range' 0 segments.length).map
          (fun i => segmentAcceptedMessage i segments.length) := by
      rw [List.range_eq_range']
      refine List.map_congr_left fun i hi => ?_
      rw [← List.range_eq_range'] at hi
      exact (segmentAcceptedMessage_eq (List.mem_range.mp hi) hlength).symm
    -- before the loop nothing is written to the client
    have hlines : ∀ {w'}, Runs server (uploadSegments segments.length cl 0 segments)
        (w.atUpload moveType) .commandSuccess w' →
        (newEvents w w').filterMap Event.clientLine? =
          uploadLines segments.length cl 0 segments (w.atUpload moveType) := by
      intro w' hrun
      have hentered : Observed Event.clientLine? w (w.atUpload moveType) [] :=
        ⟨[], by simp [World.atUpload], rfl⟩
      exact (hentered.trans (observed_uploadSegments hrun)).newEvents_eq
    constructor
    · intro h moveType' segments' hsome' hpasses
      rw [hsome] at hsome'
      cases hsome'
      obtain ⟨w', hrun⟩ := runs_uploadSegments_success_iff.mpr hpasses
      obtain ⟨_, _, hsome', haccepted, htold⟩ := h _ _ ((hruns _ _).mpr hrun) rfl
      rw [hsome] at hsome'
      cases hsome'
      rw [hlines hrun, hexpected, uploadLines_eq_iff] at htold
      intro p hp
      exact (not_misleads_iff (hpasses p hp)).mpr ⟨haccepted p hp, htold p hp⟩
    · intro h r w' hrun hr
      subst hr
      have hloop := (hruns _ _).mp hrun
      have hpasses := runs_uploadSegments_success_iff.mp ⟨w', hloop⟩
      have hnot := h moveType segments hsome hpasses
      refine ⟨moveType, segments, hsome, fun p hp => ?_, ?_⟩
      · exact ((not_misleads_iff (hpasses p hp)).mp (hnot p hp)).1
      · rw [hlines hloop, hexpected, uploadLines_eq_iff]
        exact fun p hp => ((not_misleads_iff (hpasses p hp)).mp (hnot p hp)).2

/-! ## A drive that is never ready -/

/-- The drive answers every status read with 0x8408: it is never ready for the next
segment.  The profile of one segment is accepted all the same, and the client is
told nothing of the segment. -/
theorem upload_accepted_without_segment :
    let w := World.profiling [.segment "segment1".toList ⟨1000, 500, 250, 250, 0⟩,
      .moveType "dwell".toList] (Stream'.const (Session.answering fun _ => 0x8408))
    ∃ w', Runs server (smdParseAndUploadAssembledMove [] 5) w .commandSuccess w' ∧
      (newEvents w w').filterMap Event.clientLine? = [] ∧
      ¬ ∃ moveType segments, w.upload [] = some (moveType, segments) ∧
        (∀ p ∈ uploadWorlds segments.length 5 0 segments (w.atUpload moveType),
          p.1.SegmentAccepted p.2) ∧
        (newEvents w w').filterMap Event.clientLine? =
          (List.range segments.length).map (acceptedLine segments.length) := by
  intro w
  have heval : (eval server 0 (smdParseAndUploadAssembledMove [] 5) w).map (fun r =>
      (r.1, (newEvents w r.2).filterMap Event.clientLine?)) =
        some (.commandSuccess, []) := by decide +kernel
  obtain ⟨r, w', hrun, heq⟩ := exists_runs_of_eval heval
  obtain ⟨rfl, hlines⟩ := Prod.mk.inj heq
  refine ⟨w', hrun, hlines, ?_⟩
  rintro ⟨moveType, segments, hupload, _, htold⟩
  have hlength := (length_upload hupload).1
  rw [hlines] at htold
  have hcount := congrArg List.length htold
  rw [List.length_map, List.length_range, List.length_nil] at hcount
  omega

end SmdControlServer
