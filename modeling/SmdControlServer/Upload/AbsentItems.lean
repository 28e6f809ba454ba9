import SmdControlServer.Commands.Errands
import SmdControlServer.Upload.Collection

/-!
# Profiles that lack an item

The upload takes the key of every member, five fields of every segment and the
string of `type` without asking whether they are there.  `CJson.ItemsPresent` says
that they are, in terms of the document alone and of what is found in it, and the upload
returns exactly on the documents of which this holds.
-/

namespace SmdControlServer

open CString Interaction

namespace CJson

/-- The keys that are looked up in a segment. -/
def segmentKeys : List Text :=
  ["target_pos_inches".toList, "programmed_speed".toList, "accel".toList, "decel".toList,
    "jerk".toList]

/-- None of the five lookups is NULL. -/
def HasFields (m : CJson) : Prop :=
  ∀ key ∈ segmentKeys, cJsonGetObjectItem m key ≠ none

/-- What the upload takes from the document is there: a key for each member, the
fields of each segment and room for it, and the string of `type` if there is a
segment at all. -/
structure ItemsPresent (root : CJson) : Prop where
  keys : ∀ m ∈ root.child, m.string ≠ none
  fields : ∀ m ∈ root.child, m.isSegment = true → m.HasFields
  room : ∀ i, ∀ m ∈ root.child[i]?, m.isSegment = true → i < 16
  type : (∃ m ∈ root.child, m.isSegment = true) →
    ∃ t, cJsonGetObjectItem root "type".toList = some t ∧ t.valuestring ≠ none

/-- A document that describes a move: its members have keys, its segments, of which
there are 1 to 16, have their fields, and its type is one of the two. -/
structure DescribesMove (root : CJson) : Prop where
  keys : ∀ m ∈ root.child, m.string ≠ none
  fields : ∀ m ∈ root.child, m.isSegment = true → m.HasFields
  count : 1 ≤ (root.child.filter isSegment).length ∧ (root.child.filter isSegment).length ≤ 16
  type : ∃ t string, cJsonGetObjectItem root "type".toList = some t ∧
    t.valuestring = some string ∧
    (startsWith string "dwell".toList = true ∨ startsWith string "blend".toList = true)

end CJson

namespace World

/-- The text is no JSON document, or the document describes no move. -/
def Malformed (w : World) (jsonString : Text) : Prop :=
  ∀ root, w.cJsonParse jsonString = some root → ¬ root.DescribesMove

/-- The upload comes to its end, and a malformed profile fails. -/
def UploadReturns (w : World) (jsonString : Text) (cl : Int) : Prop :=
  (∃ r w', Runs server (smdParseAndUploadAssembledMove jsonString cl) w r w') ∧
    (w.Malformed jsonString → ∀ r w',
      Runs server (smdParseAndUploadAssembledMove jsonString cl) w r w' → r = .commandFailed)

end World

/-- What is found in a segment is there. -/
theorem CJson.Finds.hasFields_iff {m : CJson} (h : m.Finds) :
    m.HasFields ↔ ∀ key ∈ segmentKeys, ∃ c ∈ m.child, c.isNamed key = true :=
  forall₂_congr fun _ _ => h.ne_none_iff

/-! ## The loop over the members -/

theorem readSegment_ne_none_iff {m : CJson} : readSegment m ≠ none ↔ m.HasFields := by
  unfold CJson.HasFields CJson.segmentKeys
  simp only [List.mem_cons, List.not_mem_nil, or_false, forall_eq_or_imp, forall_eq]
  constructor
  · intro h
    obtain ⟨s, hs⟩ := Option.ne_none_iff_exists'.mp h
    unfold readSegment at hs
    simp only [Option.bind_eq_bind, Option.bind_eq_some_iff] at hs
    obtain ⟨_, h₁, _, h₂, _, h₃, _, h₄, _, h₅, _⟩ := hs
    rw [h₁, h₂, h₃, h₄, h₅]
    simp
  · rintro ⟨h₁, h₂, h₃, h₄, h₅⟩
    obtain ⟨_, h₁⟩ := Option.ne_none_iff_exists'.mp h₁
    obtain ⟨_, h₂⟩ := Option.ne_none_iff_exists'.mp h₂
    obtain ⟨_, h₃⟩ := Option.ne_none_iff_exists'.mp h₃
    obtain ⟨_, h₄⟩ := Option.ne_none_iff_exists'.mp h₄
    obtain ⟨_, h₅⟩ := Option.ne_none_iff_exists'.mp h₅
    unfold readSegment
    rw [h₁, h₂, h₃, h₄, h₅]
    exact Option.some_ne_none _

section members

variable {members : List CJson} {i : Nat}

/-- The positions of the segments, told by index. -/
theorem mem_segmentPositions_iff {j : Nat} :
    j ∈ segmentPositions members i ↔
      ∃ k, j = i + k ∧ ∃ m ∈ members[k]?, m.isSegment = true := by
  induction members generalizing i with
  | nil => simp [segmentPositions]
  | cons m rest ih =>
      have hrest : j ∈ segmentPositions rest (i + 1) ↔
          ∃ k, j = i + (k + 1) ∧ ∃ m' ∈ (m :: rest)[k + 1]?, m'.isSegment = true := by
        rw [ih]
        simp only [List.getElem?_cons_succ, Nat.add_assoc, Nat.add_comm 1]
      rw [segmentPositions]
      cases hsegment : m.isSegment with
      | true =>
          rw [if_pos rfl, List.mem_cons, hrest]
          constructor
          · rintro (rfl | ⟨k, hk⟩)
            · exact ⟨0, rfl, m, rfl, hsegment⟩
            · exact ⟨k + 1, hk⟩
          · rintro ⟨k, rfl, hk⟩
            cases k with
            | zero => exact Or.inl rfl
            | succ k => exact Or.inr ⟨k, rfl, hk⟩
      -- a member that is no segment keeps its place free
      | false =>
          rw [if_neg Bool.false_ne_true, hrest]
          constructor
          · rintro ⟨k, hk⟩
            exact ⟨k + 1, hk⟩
          · rintro ⟨k, rfl, m', hm', hsegment'⟩
            cases k with
            | zero =>
                cases hm'
                rw [hsegment] at hsegment'
                cases hsegment'
            | succ k => exact ⟨k, rfl, m', hm', hsegment'⟩

/-- The loop gets through exactly when all that it takes from the members is there. -/
theorem collectSegments_ok_iff {t : SegmentTable} :
    (∃ table, collectSegments members i t = .ok table) ↔
      (∀ m ∈ members, m.string ≠ none) ∧
        (∀ m ∈ members, m.isSegment = true → m.HasFields) ∧
        ∀ j ∈ segmentPositions members i, j < 16 := by
  induction members generalizing i t with
  | nil => simp [collectSegments, segmentPositions]
  | cons m rest ih =>
      rw [segmentPositions]
      cases hsegment : m.isSegment with
      | false =>
          -- such a member has only its key looked at
          by_cases hkey : m.string = none
          · have hfault : collectSegments (m :: rest) i t = .error .nullDereference := by
              rw [collectSegments, hkey]
            simp [hfault, hkey]
          · rw [collectSegments_other hkey hsegment, ih]
            simp [hsegment, hkey]
      | true =>
          obtain ⟨key, hkey, hbegins⟩ := exists_key_of_isSegment hsegment
          cases hread : readSegment m with
          | none =>
              have hfields : ¬ m.HasFields := fun h => readSegment_ne_none_iff.mpr h hread
              have hfault : collectSegments (m :: rest) i t = .error .nullDereference := by
                rw [collectSegments]
                simp only [hkey, hbegins, if_true, hread]
              simp [hfault, hsegment, hfields]
          | some s =>
              have hfields : m.HasFields := readSegment_ne_none_iff.mp (by simp [hread])
              by_cases hi : i < 16
              · rw [collectSegments_segment hsegment hread hi, ih]
                simp [hsegment, hkey, hfields, hi]
              · rw [collectSegments_outside hsegment hread hi]
                simp [hi]

/-- There is a position if there is a segment. -/
theorem one_le_length_segmentPositions_iff :
    1 ≤ (segmentPositions members i).length ↔ ∃ m ∈ members, m.isSegment = true := by
  rw [length_segmentPositions, Nat.one_le_iff_ne_zero, ne_eq, List.length_eq_zero_iff,
    List.filter_eq_nil_iff]
  simp

end members

/-! ## The upload of a document -/

section

variable {root : CJson} {w : World} {jsonString : Text} {cl : Int}

/-- The tests that end an upload or let it go on need these items of the document. -/
theorem itemsPresent_iff {t : Fin 16 → AssembledMoveSegment} :
    root.ItemsPresent ↔
      ∃ table, collectSegments root.child 0 ⟨t, 0, []⟩ = .ok table ∧
        (1 ≤ table.numSegments → table.numSegments ≤ 16 →
          (cJsonGetObjectItem root "type".toList).bind CJson.valuestring ≠ none) := by
  have hroom : (∀ j ∈ segmentPositions root.child 0, j < 16) ↔
      ∀ i, ∀ m ∈ root.child[i]?, m.isSegment = true → i < 16 := by
    simp only [mem_segmentPositions_iff, Nat.zero_add]
    constructor
    · intro h i m hm hsegment
      exact h i ⟨i, rfl, m, hm, hsegment⟩
    · rintro h j ⟨_, rfl, m, hm, hsegment⟩
      exact h j m hm hsegment
  have htype : (cJsonGetObjectItem root "type".toList).bind CJson.valuestring ≠ none ↔
      ∃ t, cJsonGetObjectItem root "type".toList = some t ∧ t.valuestring ≠ none := by
    cases cJsonGetObjectItem root "type".toList <;> simp
  have hcount : ∀ table, collectSegments root.child 0 ⟨t, 0, []⟩ = .ok table →
      (1 ≤ table.numSegments ↔ ∃ m ∈ root.child, m.isSegment = true) ∧
        ((∀ j ∈ segmentPositions root.child 0, j < 16) → table.numSegments ≤ 16) := by
    intro table htable
    have hnum := (collectSegments_ok htable).1
    rw [Nat.zero_add] at hnum
    rw [hnum]
    exact ⟨one_le_length_segmentPositions_iff, length_segmentPositions_le⟩
  constructor
  · rintro ⟨hkeys, hfields, hinside, hstring⟩
    obtain ⟨table, htable⟩ := collectSegments_ok_iff.mpr ⟨hkeys, hfields, hroom.mpr hinside⟩
    refine ⟨table, htable, fun hlo _ => ?_⟩
    exact htype.mpr (hstring ((hcount table htable).1.mp hlo))
  · rintro ⟨table, htable, hstring⟩
    obtain ⟨hkeys, hfields, hinside⟩ := collectSegments_ok_iff.mp ⟨table, htable⟩
    refine ⟨hkeys, hfields, hroom.mp hinside, fun hsome => ?_⟩
    obtain ⟨hlo, hhi⟩ := hcount table htable
    exact htype.mp (hstring (hlo.mpr hsome) (hhi hinside))

/-- The upload comes to its end exactly when the document has the items. -/
theorem exists_runs_smdParseAndUpload_iff :
    (∃ r w', Runs server (smdParseAndUploadAssembledMove jsonString cl) w r w') ↔
      ∀ root, w.cJsonParse jsonString = some root → root.ItemsPresent := by
  simp only [itemsPresent_iff (t := w.memory.head.segments)]
  constructor
  · rintro ⟨r, w', hrun⟩
    exact readsProfile_of_runs hrun
  · intro h
    have htold : EndsTelling (smdParseAndUploadAssembledMove jsonString cl) w [] fun _ => True :=
      endsTelling_smdParseAndUpload h
    obtain ⟨r, w', htells, _⟩ := htold
    exact ⟨r, w', htells.runs⟩

/-- A document that gets to the upload loop describes a move. -/
theorem describesMove_of_upload {moveType : SmdAssembledMoveType}
    {segments : List AssembledMoveSegment} (hparse : w.cJsonParse jsonString = some root)
    (h : w.upload jsonString = some (moveType, segments)) : root.DescribesMove := by
  unfold World.upload at h
  rw [hparse] at h
  dsimp only at h
  cases htable : collectSegments root.child 0 ⟨w.memory.head.segments, 0, []⟩ with
  | error fault =>
      rw [htable] at h
      cases h
  | ok table =>
      rw [htable] at h
      dsimp only at h
      split at h
      · cases h
      · rename_i hcount
        obtain ⟨hkeys, hfields, _⟩ := collectSegments_ok_iff.mp ⟨table, htable⟩
        have hnum := (collectSegments_ok htable).1
        rw [length_segmentPositions, Nat.zero_add] at hnum
        refine ⟨hkeys, hfields, ⟨by omega, by omega⟩, ?_⟩
        cases hmove : profileType root with
        | none =>
            rw [hmove] at h
            cases h
        | some moveType' =>
            obtain ⟨string, hstring, hselects⟩ := Option.bind_eq_some_iff.mp hmove
            obtain ⟨t, ht, hvalue⟩ := Option.bind_eq_some_iff.mp hstring
            refine ⟨t, string, ht, hvalue, ?_⟩
            unfold moveTypeOf at hselects
            split at hselects
            · exact Or.inl ‹_›
            · split at hselects
              · exact Or.inr ‹_›
              · cases hselects

/-- A malformed profile never gets to the upload loop. -/
theorem upload_of_malformed (h : w.Malformed jsonString) : w.upload jsonString = none := by
  rw [Option.eq_none_iff_forall_ne_some]
  rintro ⟨moveType, segments⟩ hupload
  cases hparse : w.cJsonParse jsonString with
  | none =>
      unfold World.upload at hupload
      rw [hparse] at hupload
      cases hupload
  | some root => exact h root hparse (describesMove_of_upload hparse hupload)

/-- Whatever text comes for a profile, the upload returns, and a malformed one fails,
exactly when the text is no document or all that the upload takes from the document
is there. -/
theorem upload_returns_iff (jsonString : Text) (cl : Int) (w : World) :
    w.UploadReturns jsonString cl ↔
      ∀ root, w.cJsonParse jsonString = some root → root.ItemsPresent := by
  unfold World.UploadReturns
  rw [exists_runs_smdParseAndUpload_iff]
  constructor
  · exact fun h => h.1
  · intro hpresent
    refine ⟨hpresent, fun hmalformed r w' hrun => ?_⟩
    have hnone := upload_of_malformed hmalformed
    rcases runs_smdParseAndUpload_cases jsonString cl w with ⟨_, hfails⟩ | ⟨_, _, hsome, _⟩
    · exact (hfails r w' hrun).1
    · rw [hnone] at hsome
      cases hsome

end

/-! ## Two documents -/

/-- A server that waits for a profile.  This text is this document, and any other is
none. -/
def World.parsing (text : Text) (root : CJson) : World :=
  { World.ready with
    globals := { Globals.connectedTo "10.0.0.5".toList with
      statusWaitingForAssembledMove := 1 }
    cJsonParse := fun t => if t = text then some root else none }

/-- A segment as the documentation writes it, in one line. -/
def documentedSegment (speed : Int) : Text :=
  "\"segment\":\x7b\"target_pos_inches\":5200,\"programmed_speed\":".toList ++
    formatInt speed ++ ",\"accel\":150,\"decel\":150,\"jerk\":0\x7d".toList

/-- The profile of the documentation: three segments, and no type. -/
def documentedText : Text :=
  "\x7b".toList ++ documentedSegment 1000 ++ ",".toList ++ documentedSegment 2000 ++
    ",".toList ++ documentedSegment 4000 ++ "\x7d".toList

def documentedProfile : CJson :=
  .withItems none none 0
    [.segment "segment".toList ⟨5200, 1000, 150, 150, 0⟩,
      .segment "segment".toList ⟨5200, 2000, 150, 150, 0⟩,
      .segment "segment".toList ⟨5200, 4000, 150, 150, 0⟩]

/-- The array `[1]`, whose element has no key. -/
def arrayProfile : CJson :=
  .withItems none none 0 [.withItems none none 1 []]

/-- Neither the documented profile nor an array is answered by a return. -/
theorem documented_profile_faults :
    ¬ (World.parsing documentedText documentedProfile).UploadReturns documentedText 5 ∧
      ¬ (World.parsing "[1]".toList arrayProfile).UploadReturns "[1]".toList 5 := by
  have hparses : ∀ text root, (World.parsing text root).cJsonParse text = some root :=
    fun _ _ => if_pos rfl
  constructor
  · rintro ⟨hreturns, _⟩
    have hpresent := exists_runs_smdParseAndUpload_iff.mp hreturns _ (hparses _ _)
    obtain ⟨t, ht, _⟩ := hpresent.type ⟨_, List.mem_cons_self, rfl⟩
    cases ht
  · rintro ⟨hreturns, _⟩
    have hpresent := exists_runs_smdParseAndUpload_iff.mp hreturns _ (hparses _ _)
    exact hpresent.keys _ List.mem_cons_self rfl

end SmdControlServer
