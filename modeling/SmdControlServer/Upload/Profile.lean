import SmdControlServer.Upload.Segments

/-!
# From the text of a profile to the upload loop

The text is parsed, the segments are collected, the move type is looked up.  Where
any of this fails the upload ends before anything is sent.
-/

namespace SmdControlServer

open CString Interaction

/-- The move type that the `type` member selects. -/
def profileType (root : CJson) : Option SmdAssembledMoveType :=
  ((cJsonGetObjectItem root "type".toList).bind CJson.valuestring).bind moveTypeOf

/-- The type and the segments with which the upload loop is entered, if it is. -/
def World.upload (w : World) (jsonString : Text) :
    Option (SmdAssembledMoveType × List AssembledMoveSegment) :=
  match w.cJsonParse jsonString with
  | none => none
  | some root =>
      match collectSegments root.child 0 ⟨w.memory.head.segments, 0, []⟩ with
      | .error _ => none
      | .ok table =>
          if table.numSegments = 0 ∨ table.numSegments > 16 then
            none
          else
            match profileType root with
            | none => none
            | some moveType =>
                some (moveType, (List.ofFn table.segments).take table.numSegments)

/-- The world in which the upload loop is entered. -/
def World.atUpload (w : World) (moveType : SmdAssembledMoveType) : World :=
  w.takeMemory.assign (.statusTypeAssembledMove moveType)

section

variable {jsonString : Text} {w : World}

/-- The upload loop has 1 to 16 segments. -/
theorem length_upload {moveType : SmdAssembledMoveType}
    {segments : List AssembledMoveSegment}
    (h : w.upload jsonString = some (moveType, segments)) :
    1 ≤ segments.length ∧ segments.length ≤ 16 := by
  unfold World.upload at h
  split at h
  · cases h
  · split at h
    · cases h
    · split at h
      · cases h
      · split at h
        · cases h
        · rename_i table _ hcount _ _ _
          cases h
          rw [List.length_take, List.length_ofFn]
          omega

/-- The profile is refused before anything is done, or the loop is entered. -/
theorem runs_smdParseAndUpload_cases (jsonString : Text) (cl : Int) (w : World) :
    (w.upload jsonString = none ∧ ∀ r w',
      Runs server (smdParseAndUploadAssembledMove jsonString cl) w r w' →
        r = .commandFailed ∧ (w' = w ∨ w' = w.takeMemory)) ∨
    ∃ moveType segments, w.upload jsonString = some (moveType, segments) ∧ ∀ r w',
      Runs server (smdParseAndUploadAssembledMove jsonString cl) w r w' ↔
        Runs server (uploadSegments segments.length cl 0 segments) (w.atUpload moveType) r w' := by
  unfold World.upload profileType smdParseAndUploadAssembledMove
  simp only [Program.bind_eq_bind, Program.perform_bind, Program.done_bind, runs_cJsonParse]
  -- the exits in the order of the code: no document, a fault, the count, the type
  cases hroot : w.cJsonParse jsonString with
  | none =>
      refine Or.inl ⟨rfl, fun r w' hrun => ?_⟩
      obtain ⟨rfl, rfl⟩ := runs_done_iff.mp hrun
      exact ⟨rfl, Or.inl rfl⟩
  | some root =>
      simp only [runs_uninitialised]
      cases htable : collectSegments root.child 0 ⟨w.memory.head.segments, 0, []⟩ with
      | error fault =>
          refine Or.inl ⟨rfl, fun r w' hrun => ?_⟩
          exact absurd hrun not_runs_abort
      | ok table =>
          by_cases hcount : table.numSegments = 0 ∨ table.numSegments > 16
          · simp only [if_pos hcount]
            refine Or.inl ⟨trivial, fun r w' hrun => ?_⟩
            obtain ⟨rfl, rfl⟩ := runs_done_iff.mp hrun
            exact ⟨rfl, Or.inr rfl⟩
          · simp only [if_neg hcount]
            cases htype : (cJsonGetObjectItem root "type".toList).bind CJson.valuestring with
            | none =>
                refine Or.inl ⟨rfl, fun r w' hrun => ?_⟩
                exact absurd hrun not_runs_abort
            | some type =>
                simp only [Option.bind_some]
                cases hmove : moveTypeOf type with
                | none =>
                    refine Or.inl ⟨rfl, fun r w' hrun => ?_⟩
                    obtain ⟨rfl, rfl⟩ := runs_done_iff.mp hrun
                    exact ⟨rfl, Or.inr rfl⟩
                | some moveType =>
                    refine Or.inr ⟨moveType, _, rfl, fun r w' => ?_⟩
                    have hlength : ((List.ofFn table.segments).take table.numSegments).length =
                        table.numSegments := by
                      rw [List.length_take, List.length_ofFn]
                      omega
                    rw [hlength]
                    exact runs_assign

end

end SmdControlServer
