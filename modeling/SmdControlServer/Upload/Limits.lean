import SmdControlServer.Commands.Registers
import SmdControlServer.Upload.Handshake
import SmdControlServer.Upload.SentSegments

/-!
# The limits of an uploaded segment

A relative move is sent only when its parameters are within the limits.  The upload
writes the same parameters to the same registers and makes no such check, and it
narrows three of them first.  So what the drive gets for a segment is what the
document says exactly when the document keeps to the limits by itself.
-/

namespace SmdControlServer

open CString Interaction

/-! ## What the document says -/

/-- The five integers of a segment member, before any of them is narrowed. -/
def CJson.documentSegment (subitem : CJson) : Option AssembledMoveSegment := do
  let targetPosInches ← cJsonGetObjectItem subitem "target_pos_inches".toList
  let programmedSpeed ← cJsonGetObjectItem subitem "programmed_speed".toList
  let accel ← cJsonGetObjectItem subitem "accel".toList
  let decel ← cJsonGetObjectItem subitem "decel".toList
  let jerk ← cJsonGetObjectItem subitem "jerk".toList
  pure {
    targetPosInches := targetPosInches.valueint
    programmedSpeed := programmedSpeed.valueint
    accel := accel.valueint
    decel := decel.valueint
    jerk := jerk.valueint }

/-- The member at position `k` of the document is a segment with these integers. -/
def World.DocumentHas (w : World) (jsonString : Text) (k : Nat) (s : AssembledMoveSegment) :
    Prop :=
  ∃ root m, w.cJsonParse jsonString = some root ∧ root.child[k]? = some m ∧
    m.isSegment = true ∧ m.documentSegment = some s

namespace AssembledMoveSegment

variable (s : AssembledMoveSegment)

/-- The assignments to the `int16_t` fields. -/
def narrow : AssembledMoveSegment :=
  { s with accel := toInt16 s.accel, decel := toInt16 s.decel, jerk := toInt16 s.jerk }

/-- The limits of `SMD_relative_move`. -/
def WithinLimits : Prop :=
  positionValid s.targetPosInches = true ∧
    moveParametersValid s.accel s.decel s.jerk s.programmedSpeed = true

instance : Decidable s.WithinLimits :=
  inferInstanceAs (Decidable (_ ∧ _))

/-- The program has the values of the segment where a relative move has them. -/
def CarriedBy (cmd : RegisterProgram) : Prop :=
  ParameterCommand.relativeMove.places.map (Place.value cmd) =
    [s.targetPosInches, s.accel, s.decel, s.jerk, s.programmedSpeed].map some

instance (cmd : RegisterProgram) : Decidable (s.CarriedBy cmd) :=
  inferInstanceAs (Decidable (_ = _))

variable {s}

theorem narrow_eq_self (h : s.WithinLimits) : s.narrow = s := by
  obtain ⟨⟨haccelLo, haccelHi⟩, ⟨hdecelLo, hdecelHi⟩, ⟨hjerkLo, hjerkHi⟩, _⟩ :=
    moveParametersValid_iff.mp h.2
  unfold narrow
  rw [toInt16_eq_self (by omega) (by omega), toInt16_eq_self (by omega) (by omega),
    toInt16_eq_self (by omega) (by omega)]

/-- Within the limits, the program of a segment has the values of the document. -/
theorem carriedBy_of_withinLimits (h : s.WithinLimits) :
    s.CarriedBy (moveSegmentProgram s.narrow) := by
  obtain ⟨hposLo, hposHi⟩ := positionValid_iff.mp h.1
  obtain ⟨_, _, _, hspeedLo, hspeedHi⟩ := moveParametersValid_iff.mp h.2
  have hpos : Place.value (moveSegmentProgram s) (.words 1026 1027) =
      some s.targetPosInches :=
    congrArg some (convertIntToWords_value (by omega) (by omega))
  have hspeed : Place.value (moveSegmentProgram s) (.words 1028 1029) =
      some s.programmedSpeed :=
    congrArg some (convertIntToWords_value (by omega) (by omega))
  rw [narrow_eq_self h]
  show [Place.value _ _, some s.accel, some s.decel, some s.jerk, Place.value _ _] = _
  rw [hpos, hspeed]
  rfl

end AssembledMoveSegment

/-- What the code reads is what the document says, narrowed. -/
theorem readSegment_eq (m : CJson) :
    readSegment m = m.documentSegment.map AssembledMoveSegment.narrow := by
  unfold readSegment CJson.documentSegment
  simp only [Option.bind_eq_bind, Option.map_bind, Function.comp_def]
  rfl

/-! ## What the array holds -/

/-- The `k`-th segment of the upload is the member at that position, narrowed, if
that is a segment. -/
theorem getElem?_upload {jsonString : Text} {w : World}
    {moveType : SmdAssembledMoveType} {segments : List AssembledMoveSegment}
    (hupload : w.upload jsonString = some (moveType, segments)) {k : Nat}
    (hk : k < segments.length) {s : AssembledMoveSegment}
    (hs : w.DocumentHas jsonString k s) : segments[k]? = some s.narrow := by
  obtain ⟨root, m, hroot, hm, hsegment, hs⟩ := hs
  have hlength := (length_upload hupload).2
  have hread : readSegment m = some s.narrow := by
    rw [readSegment_eq, hs]
    rfl
  unfold World.upload at hupload
  rw [hroot] at hupload
  cases htable : collectSegments root.child 0 ⟨w.memory.head.segments, 0, []⟩ with
  | error fault => simp [htable] at hupload
  | ok table =>
      -- the array has the member narrowed, at its position in the document
      have hentry : table.segments ⟨k, by omega⟩ = s.narrow := by
        rw [(collectSegments_ok htable).2.2]
        unfold collectedAt
        simp [hm, hsegment, hread]
      simp only [htable] at hupload
      split at hupload
      · cases hupload
      · split at hupload
        · cases hupload
        · cases hupload
          rw [List.length_take] at hk
          rw [List.getElem?_take_of_lt (by omega), List.getElem?_ofFn,
            dif_pos (by omega : k < 16), hentry]

/-! ## The segments whose turn comes -/

/-- The segments before the `k`-th pass the tests of the loop, so that its turn
comes. -/
def TurnComes (numSegments : Nat) (cl : Int) (segments : List AssembledMoveSegment)
    (w : World) (k : Nat) : Prop :=
  k < segments.length ∧
    ∀ p ∈ (uploadWorlds numSegments cl 0 segments w).take k, p.1.SegmentPasses p.2

/-- The programs that are sent are those of the segments whose turn comes. -/
theorem getElem?_sentPrograms {n : Nat} {cl : Int} {i : Nat}
    {segments : List AssembledMoveSegment} {w : World} {k : Nat} :
    (sentPrograms n cl i segments w)[k]? =
      if ∀ p ∈ (uploadWorlds n cl i segments w).take k, p.1.SegmentPasses p.2 then
        segments[k]?.map moveSegmentProgram
      else none := by
  induction segments generalizing i w k with
  | nil => simp [sentPrograms]
  | cons s rest ih =>
      rw [sentPrograms, uploadWorlds]
      cases k with
      | zero => simp
      | succ k =>
          rw [List.getElem?_cons_succ, List.getElem?_cons_succ, List.take_succ_cons]
          simp only [List.forall_mem_cons]
          by_cases hpasses : w.SegmentPasses s
          · rw [if_pos hpasses, ih]
            simp only [hpasses, true_and]
          · rw [if_neg hpasses]
            simp [hpasses]

/-- Every program that is sent is that of a segment of the document, which keeps to
the limits and whose values it has, exactly when the document has such a segment at
every position whose turn comes. -/
theorem sent_within_limits_iff (jsonString : Text) (cl : Int) (w : World) :
    (∀ r w', Runs server (smdParseAndUploadAssembledMove jsonString cl) w r w' →
      ∀ k cmd, ((newEvents w w').filterMap Event.sentSegment?)[k]? = some cmd →
        ∃ s, w.DocumentHas jsonString k s ∧ s.WithinLimits ∧ s.CarriedBy cmd) ↔
      ∀ moveType segments, w.upload jsonString = some (moveType, segments) →
        ∀ k, TurnComes segments.length cl segments (w.atUpload moveType) k →
          ∃ s, w.DocumentHas jsonString k s ∧ s.WithinLimits := by
  rcases runs_smdParseAndUpload_cases jsonString cl w with
    ⟨hnone, hrefused⟩ | ⟨moveType, segments, hsome, hruns⟩
  · constructor
    · intro _ moveType segments hsome
      rw [hnone] at hsome
      cases hsome
    · intro _ r w' hrun k cmd hk
      -- nothing is sent when the document is refused
      have hlog : w'.log = w.log := by
        obtain ⟨_, rfl | rfl⟩ := hrefused r w' hrun <;> rfl
      have hquiet : newEvents w w' = [] := by
        unfold newEvents
        rw [hlog, List.drop_length]
      rw [hquiet] at hk
      simp at hk
  -- every run sends the same, so one run of the loop tells of all of them
  · have hsent : ∀ {r w'}, Runs server (uploadSegments segments.length cl 0 segments)
        (w.atUpload moveType) r w' → (newEvents w w').filterMap Event.sentSegment? =
          sentPrograms segments.length cl 0 segments (w.atUpload moveType) := by
      intro r w' hrun
      obtain ⟨r', w'', hrun', hobserved⟩ :=
        exists_runs_uploadSegments segments.length cl 0 segments (w.atUpload moveType)
      obtain ⟨_, rfl⟩ := hrun.unique hrun'
      have hentered : Observed Event.sentSegment? w (w.atUpload moveType) [] :=
        ⟨[], by simp [World.atUpload], rfl⟩
      exact (hentered.trans hobserved).newEvents_eq
    constructor
    · rintro h moveType' segments' hsome' k ⟨hk, hturn⟩
      rw [hsome] at hsome'
      cases hsome'
      obtain ⟨r, w', hrun, _⟩ :=
        exists_runs_uploadSegments segments.length cl 0 segments (w.atUpload moveType)
      have hprogram : ((newEvents w w').filterMap Event.sentSegment?)[k]? =
          some (moveSegmentProgram segments[k]) := by
        rw [hsent hrun, getElem?_sentPrograms, if_pos hturn, List.getElem?_eq_getElem hk]
        rfl
      obtain ⟨s, hs, hlimits, _⟩ := h r w' ((hruns r w').mpr hrun) k _ hprogram
      exact ⟨s, hs, hlimits⟩
    · intro h r w' hrun k cmd hcmd
      rw [hsent ((hruns r w').mp hrun), getElem?_sentPrograms] at hcmd
      split at hcmd
      · rename_i hturn
        obtain ⟨entry, hentry, rfl⟩ := Option.map_eq_some_iff.mp hcmd
        have hk : k < segments.length := (List.getElem?_eq_some_iff.mp hentry).1
        obtain ⟨s, hs, hlimits⟩ := h moveType segments hsome k ⟨hk, hturn⟩
        rw [getElem?_upload hsome hk hs] at hentry
        cases hentry
        exact ⟨s, hs, hlimits, AssembledMoveSegment.carriedBy_of_withinLimits hlimits⟩
      · cases hcmd

/-- An acceleration of 70000 is sent as 4464, which a relative move would be allowed
to have. -/
theorem narrowed_segment_sent :
    let m := CJson.segment "segment1".toList ⟨1000, 500, 70000, 250, 0⟩
    let w := World.profiling [m, .moveType "dwell".toList] readyDrive
    m.documentSegment = some ⟨1000, 500, 70000, 250, 0⟩ ∧
      (∃ w', Runs server (smdParseAndUploadAssembledMove [] 5) w .commandSuccess w' ∧
        (newEvents w w').filterMap Event.sentSegment? =
          [moveSegmentProgram ⟨1000, 500, 4464, 250, 0⟩]) ∧
      ¬ ∀ r w', Runs server (smdParseAndUploadAssembledMove [] 5) w r w' →
        ∀ k cmd, ((newEvents w w').filterMap Event.sentSegment?)[k]? = some cmd →
          ∃ s, w.DocumentHas [] k s ∧ s.WithinLimits ∧ s.CarriedBy cmd := by
  intro m w
  have hdocument : m.documentSegment = some ⟨1000, 500, 70000, 250, 0⟩ := by
    decide +kernel
  have heval : (eval server 0 (smdParseAndUploadAssembledMove [] 5) w).map (fun r =>
      (r.1, (newEvents w r.2).filterMap Event.sentSegment?)) =
        some (.commandSuccess, [moveSegmentProgram ⟨1000, 500, 4464, 250, 0⟩]) := by
    decide +kernel
  obtain ⟨r, w', hrun, heq⟩ := exists_runs_of_eval heval
  obtain ⟨rfl, hsent⟩ := Prod.mk.inj heq
  refine ⟨hdocument, ⟨w', hrun, hsent⟩, fun h => ?_⟩
  have hfirst : ((newEvents w w').filterMap Event.sentSegment?)[0]? =
      some (moveSegmentProgram ⟨1000, 500, 4464, 250, 0⟩) := by
    rw [hsent]
    rfl
  obtain ⟨s, ⟨root, m', hroot, hm, _, hs⟩, hlimits, _⟩ := h _ w' hrun 0 _ hfirst
  -- the member at position 0 is the segment itself, with the acceleration as it was
  cases hroot
  cases hm
  rw [hdocument] at hs
  cases hs
  exact absurd hlimits (by decide)

end SmdControlServer
